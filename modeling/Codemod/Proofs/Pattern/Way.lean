import Codemod.Pattern.Search
import Mathlib.Computability.Language

/-! The ways of a pattern through a text, without any preference among them.
`Way n c ms c'` says that node `n` can lead from cursor `c` to cursor `c'` and sets the marks
`ms` on the way. A node without groups and conditions sets no marks, and what it passes over
is a word of its language. -/

namespace Codemod.Pattern

/-- A place of a text and all that follows it. -/
structure Cursor where
  offset : Nat
  before : Option Char
  rest : List Char

namespace Cursor

def start (text : List Char) : Cursor := ⟨0, none, text⟩

def place (c : Cursor) : Place := ⟨c.offset, c.before, c.rest.head?⟩

/-- The cursor behind `used`, where `rest` follows. -/
def past (c : Cursor) (used rest : List Char) : Cursor :=
  ⟨c.offset + used.length, used.getLast?.or c.before, rest⟩

@[simp] theorem past_rest (c : Cursor) (used rest : List Char) : (c.past used rest).rest = rest :=
  rfl

@[simp] theorem past_offset (c : Cursor) (used rest : List Char) :
    (c.past used rest).offset = c.offset + used.length := rfl

@[simp] theorem past_nil (c : Cursor) : c.past [] c.rest = c := by
  simp [past]

theorem past_past (c : Cursor) (u v rest rest' : List Char) :
    (c.past u rest).past v rest' = c.past (u ++ v) rest' := by
  simp [past, List.getLast?_append, Option.or_assoc, Nat.add_assoc]

end Cursor

/-- The cursors of a text from a place on. -/
def cursorsFrom : Nat → Option Char → List Char → List Cursor
  | offset, before, [] => [⟨offset, before, []⟩]
  | offset, before, a :: rest =>
    ⟨offset, before, a :: rest⟩ :: cursorsFrom (offset + 1) (some a) rest

theorem mem_cursorsFrom {o : Nat} {b : Option Char} {text : List Char} {c : Cursor} :
    c ∈ cursorsFrom o b text ↔
      ∃ used rest, text = used ++ rest ∧ c = (Cursor.mk o b text).past used rest := by
  induction text generalizing o b with
  | nil =>
    simp only [cursorsFrom, List.mem_singleton]
    constructor
    · rintro rfl
      exact ⟨[], [], rfl, (Cursor.past_nil _).symm⟩
    · rintro ⟨used, rest, h, rfl⟩
      obtain ⟨rfl, rfl⟩ := List.append_eq_nil_iff.mp h.symm
      exact Cursor.past_nil _
  | cons a text ih =>
    simp only [cursorsFrom, List.mem_cons, ih]
    constructor
    · rintro (rfl | ⟨used, rest, rfl, rfl⟩)
      · exact ⟨[], a :: text, rfl, (Cursor.past_nil _).symm⟩
      · exact ⟨a :: used, rest, rfl, Cursor.past_past ⟨o, b, _⟩ [a] used (used ++ rest) rest⟩
    · rintro ⟨used, rest, h, rfl⟩
      cases used with
      | nil => exact .inl (by rw [List.nil_append] at h; subst h; exact Cursor.past_nil ⟨o, b, _⟩)
      | cons d used =>
        obtain ⟨rfl, rfl⟩ := List.cons.inj h
        exact .inr ⟨used, rest, rfl,
          (Cursor.past_past ⟨o, b, _⟩ [a] used (used ++ rest) rest).symm⟩

variable {α : Type}

inductive Way : Node α → Cursor → List Mark → Cursor → Prop where
  | empty (c : Cursor) : Way .empty c [] c
  | set {chars : CharSet} {note : α} {a : Char} {rest : List Char} {c : Cursor}
      (mem : chars.mem a) (here : c.rest = a :: rest) :
      Way (.set chars note) c [] (c.past [a] rest)
  | look {l : Look} {c : Cursor} (holds : l.holds c.before c.rest.head?) : Way (.look l) c [] c
  | group {i : Nat} {body : Node α} {c c' : Cursor} {ms : List Mark} (inner : Way body c ms c') :
      Way (.group i body) c (.opened i c.offset :: (ms ++ [.closed i c'.offset])) c'
  | cat {a b : Node α} {c c' c'' : Cursor} {ms ms' : List Mark}
      (first : Way a c ms c') (second : Way b c' ms' c'') : Way (.cat a b) c (ms ++ ms') c''
  | altFirst {a b : Node α} {c c' : Cursor} {ms : List Mark} (way : Way a c ms c') :
      Way (.alt a b) c ms c'
  | altRest {a b : Node α} {c c' : Cursor} {ms : List Mark} (way : Way b c ms c') :
      Way (.alt a b) c ms c'
  | starStop {greedy : Bool} {body : Node α} (c : Cursor) : Way (.star greedy body) c [] c
  | starMore {greedy : Bool} {body : Node α} {c c' c'' : Cursor} {ms ms' : List Mark}
      (first : Way body c ms c') (more : Way (.star greedy body) c' ms' c'') :
      Way (.star greedy body) c (ms ++ ms') c''
  | plus {greedy : Bool} {body : Node α} {c c' c'' : Cursor} {ms ms' : List Mark}
      (first : Way body c ms c') (more : Way (.star greedy body) c' ms' c'') :
      Way (.plus greedy body) c (ms ++ ms') c''
  | loop {greedy : Bool} {body : Node α} {c c' c'' : Cursor} {ms ms' : List Mark}
      (first : Way body c ms c') (more : Way (.star greedy body) c' ms' c'') :
      Way (.loop greedy body) c (ms ++ ms') c''

namespace Way

theorem look_iff {l : Look} {c c' : Cursor} {ms : List Mark} :
    Way (.look l : Node α) c ms c' ↔ l.holds c.before c.rest.head? ∧ ms = [] ∧ c' = c := by
  constructor
  · rintro ⟨⟩
    exact ⟨‹_›, rfl, rfl⟩
  · rintro ⟨h, rfl, rfl⟩
    exact .look h

theorem group_iff {i : Nat} {body : Node α} {c c' : Cursor} {ms : List Mark} :
    Way (.group i body) c ms c' ↔
      ∃ inner, Way body c inner c' ∧
        ms = .opened i c.offset :: (inner ++ [.closed i c'.offset]) := by
  constructor
  · rintro ⟨⟩
    exact ⟨_, ‹_›, rfl⟩
  · rintro ⟨inner, h, rfl⟩
    exact .group h

theorem cat_iff {a b : Node α} {c c'' : Cursor} {ms : List Mark} :
    Way (.cat a b) c ms c'' ↔
      ∃ first second c', Way a c first c' ∧ Way b c' second c'' ∧ ms = first ++ second := by
  constructor
  · rintro ⟨⟩
    exact ⟨_, _, _, ‹_›, ‹_›, rfl⟩
  · rintro ⟨first, second, c', ha, hb, rfl⟩
    exact .cat ha hb

/-- A way passes over some of what follows, and the cursor it leads to stands behind it. -/
theorem exists_past {n : Node α} {c c' : Cursor} {ms : List Mark} (h : Way n c ms c') :
    ∃ used, c.rest = used ++ c'.rest ∧ c' = c.past used c'.rest := by
  -- Consecutive stretches add up, so one fact serves sequences and all loops.
  have join : ∀ {c c' c'' : Cursor},
      (∃ u, c.rest = u ++ c'.rest ∧ c' = c.past u c'.rest) →
      (∃ v, c'.rest = v ++ c''.rest ∧ c'' = c'.past v c''.rest) →
      ∃ w, c.rest = w ++ c''.rest ∧ c'' = c.past w c''.rest := by
    rintro c c' c'' ⟨u, hu, hc⟩ ⟨v, hv, hc'⟩
    refine ⟨u ++ v, by rw [hu, hv, List.append_assoc], ?_⟩
    rw [← Cursor.past_past c u v c'.rest, ← hc]
    exact hc'
  induction h with
  | empty c => exact ⟨[], rfl, (Cursor.past_nil c).symm⟩
  | set mem here => exact ⟨[_], here, rfl⟩
  | look holds => exact ⟨[], rfl, (Cursor.past_nil _).symm⟩
  | group inner ih => exact ih
  | cat first second ih ih' => exact join ih ih'
  | altFirst way ih => exact ih
  | altRest way ih => exact ih
  | starStop c => exact ⟨[], rfl, (Cursor.past_nil c).symm⟩
  | starMore first more ih ih' => exact join ih ih'
  | plus first more ih ih' => exact join ih ih'
  | loop first more ih ih' => exact join ih ih'

theorem rest_length_le {n : Node α} {c c' : Cursor} {ms : List Mark} (h : Way n c ms c') :
    c'.rest.length ≤ c.rest.length := by
  obtain ⟨used, hrest, -⟩ := h.exists_past
  rw [hrest, List.length_append]
  omega

end Way

namespace Node

/-- Every way of the node passes over a character. -/
@[simp] def consumes : Node α → Bool
  | .empty => false
  | .set _ _ => true
  | .look _ => false
  | .group _ body => consumes body
  | .cat a b => consumes a || consumes b
  | .alt a b => consumes a && consumes b
  | .star _ _ => false
  | .plus _ body => consumes body
  | .loop _ body => consumes body

theorem rest_length_lt {n : Node α} {c c' : Cursor} {ms : List Mark} (hn : n.consumes)
    (h : Way n c ms c') : c'.rest.length < c.rest.length := by
  induction h with
  | empty c => simp at hn
  | set mem here => simp [here]
  | look holds => simp at hn
  | group inner ih => exact ih hn
  | cat first second ih ih' =>
    have hfirst := first.rest_length_le
    have hsecond := second.rest_length_le
    rcases Bool.or_eq_true_iff.mp hn with ha | hb
    · exact Nat.lt_of_le_of_lt hsecond (ih ha)
    · exact Nat.lt_of_lt_of_le (ih' hb) hfirst
  | altFirst way ih => exact ih (Bool.and_eq_true_iff.mp hn).1
  | altRest way ih => exact ih (Bool.and_eq_true_iff.mp hn).2
  | starStop c => simp at hn
  | starMore first more ih ih' => simp at hn
  | plus first more ih ih' => exact Nat.lt_of_le_of_lt more.rest_length_le (ih hn)
  | loop first more ih ih' => exact Nat.lt_of_le_of_lt more.rest_length_le (ih hn)

/-- No groups and no conditions. -/
@[simp] def silent : Node α → Bool
  | .empty => true
  | .set _ _ => true
  | .look _ => false
  | .group _ _ => false
  | .cat a b => silent a && silent b
  | .alt a b => silent a && silent b
  | .star _ body => silent body
  | .plus _ body => silent body
  | .loop _ body => silent body

/-- The words a node passes over, whatever its conditions say. -/
def language : Node α → Language Char
  | .empty => 1
  | .set chars _ => { w | ∃ a, chars.mem a ∧ w = [a] }
  | .look _ => 1
  | .group _ body => language body
  | .cat a b => language a * language b
  | .alt a b => language a + language b
  | .star _ body => KStar.kstar (language body)
  | .plus _ body => language body * KStar.kstar (language body)
  | .loop _ body => language body * KStar.kstar (language body)

/-- The word of a way that sets no marks. -/
def Reads (L : Language Char) (c : Cursor) (ms : List Mark) (c' : Cursor) : Prop :=
  ms = [] ∧ ∃ used rest, c.rest = used ++ rest ∧ c' = c.past used rest ∧ used ∈ L

theorem Reads.append {K L M : Language Char} {c c' c'' : Cursor} {ms ms' : List Mark}
    (h : Reads K c ms c') (h' : Reads L c' ms' c'')
    (mem : ∀ u ∈ K, ∀ v ∈ L, u ++ v ∈ M) : Reads M c (ms ++ ms') c'' := by
  obtain ⟨rfl, u, rest, hu, rfl, hK⟩ := h
  obtain ⟨rfl, v, rest', hv, rfl, hL⟩ := h'
  rw [Cursor.past_rest] at hv
  refine ⟨rfl, u ++ v, rest', ?_, Cursor.past_past c u v rest rest', mem u hK v hL⟩
  rw [hu, hv, List.append_assoc]

theorem Reads.mono {K L : Language Char} {c c' : Cursor} {ms : List Mark} (h : Reads K c ms c')
    (mem : ∀ u ∈ K, u ∈ L) : Reads L c ms c' := by
  obtain ⟨rfl, u, rest, hu, rfl, hK⟩ := h
  exact ⟨rfl, u, rest, hu, rfl, mem u hK⟩

theorem reads_one (c : Cursor) : Reads 1 c [] c :=
  ⟨rfl, [], c.rest, rfl, (Cursor.past_nil c).symm, rfl⟩

open Computability in
theorem append_mem_kstar {K : Language Char} {u v : List Char} (hu : u ∈ K) (hv : v ∈ K∗) :
    u ++ v ∈ K∗ :=
  Set.mem_of_mem_of_subset (Language.append_mem_mul hu hv) (mul_kstar_le_kstar (a := K))

open Computability in
theorem reads_of_way {n : Node α} {c c' : Cursor} {ms : List Mark} (hn : n.silent)
    (h : Way n c ms c') : Reads n.language c ms c' := by
  induction h with
  | empty c => exact reads_one c
  | set mem here => exact ⟨rfl, [_], _, here, rfl, _, mem, rfl⟩
  | look holds => simp at hn
  | group inner ih => simp at hn
  | cat first second ih ih' =>
    obtain ⟨ha, hb⟩ := Bool.and_eq_true_iff.mp hn
    exact (ih ha).append (ih' hb) fun u hu v hv => Language.append_mem_mul hu hv
  | altFirst way ih => exact (ih (Bool.and_eq_true_iff.mp hn).1).mono fun u hu => .inl hu
  | altRest way ih => exact (ih (Bool.and_eq_true_iff.mp hn).2).mono fun u hu => .inr hu
  | starStop c =>
    refine (reads_one c).mono fun u hu => ?_
    rw [(Language.mem_one u).mp hu]
    exact Language.nil_mem_kstar _
  | starMore first more ih ih' =>
    exact (ih hn).append (ih' hn) fun u hu v hv => append_mem_kstar hu hv
  | plus first more ih ih' =>
    exact (ih hn).append (ih' hn) fun u hu v hv => Language.append_mem_mul hu hv
  | loop first more ih ih' =>
    exact (ih hn).append (ih' hn) fun u hu v hv => Language.append_mem_mul hu hv

/-- Rounds of a body that lead on from each other, one for each word. -/
theorem way_star_of_words {greedy : Bool} {body : Node α}
    (round : ∀ (c : Cursor) (u rest : List Char), c.rest = u ++ rest → u ∈ body.language →
      Way body c [] (c.past u rest))
    (words : List (List Char)) (mem : ∀ u ∈ words, u ∈ body.language) (c : Cursor)
    (rest : List Char) (here : c.rest = words.flatten ++ rest) :
    Way (.star greedy body) c [] (c.past words.flatten rest) := by
  induction words generalizing c with
  | nil =>
    rw [List.flatten_nil, List.nil_append] at here
    subst here
    exact Cursor.past_nil c ▸ .starStop c
  | cons u words ih =>
    rw [List.flatten_cons, List.append_assoc] at here
    have first := round c u _ here (mem u (List.mem_cons_self ..))
    have more := ih (fun v hv => mem v (List.mem_cons_of_mem u hv)) (c.past u _) rfl
    rw [Cursor.past_past] at more
    exact .starMore first more

theorem way_of_mem_language {n : Node α} (hn : n.silent) (c : Cursor) (used rest : List Char)
    (here : c.rest = used ++ rest) (mem : used ∈ n.language) : Way n c [] (c.past used rest) := by
  -- A word of a product splits, and the second part is read behind the first.
  have split : ∀ {K L : Language Char} (c : Cursor) (used rest : List Char),
      c.rest = used ++ rest → used ∈ K * L →
      ∃ u v, u ∈ K ∧ v ∈ L ∧ c.rest = u ++ (v ++ rest) ∧
        c.past used rest = (c.past u (v ++ rest)).past v rest := by
    intro K L c used rest here mem
    obtain ⟨u, hu, v, hv, rfl⟩ := Language.mem_mul.mp mem
    exact ⟨u, v, hu, hv, by rw [here, List.append_assoc], (Cursor.past_past ..).symm⟩
  induction n generalizing c used rest with
  | empty =>
    rw [language, Language.mem_one] at mem
    subst mem
    rw [List.nil_append] at here
    exact here ▸ (Cursor.past_nil c).symm ▸ .empty c
  | set chars note =>
    obtain ⟨a, ha, rfl⟩ := mem
    exact .set ha here
  | look l => simp at hn
  | group i body ih => simp at hn
  | cat a b iha ihb =>
    obtain ⟨ha, hb⟩ := Bool.and_eq_true_iff.mp hn
    obtain ⟨u, v, hu, hv, hrest, hpast⟩ := split c used rest here mem
    rw [hpast]
    exact .cat (iha ha c u _ hrest hu) (ihb hb (c.past u _) v rest rfl hv)
  | alt a b iha ihb =>
    obtain ⟨ha, hb⟩ := Bool.and_eq_true_iff.mp hn
    rcases mem with mem | mem
    · exact .altFirst (iha ha c used rest here mem)
    · exact .altRest (ihb hb c used rest here mem)
  | star greedy body ih =>
    obtain ⟨words, rfl, hwords⟩ := Language.mem_kstar.mp mem
    exact way_star_of_words (fun c u rest => ih hn c u rest) words hwords c rest here
  | plus greedy body ih =>
    obtain ⟨u, v, hu, hv, hrest, hpast⟩ := split c used rest here mem
    obtain ⟨words, rfl, hwords⟩ := Language.mem_kstar.mp hv
    rw [hpast]
    exact .plus (ih hn c u _ hrest hu)
      (way_star_of_words (fun c u rest => ih hn c u rest) words hwords (c.past u _) rest rfl)
  | loop greedy body ih =>
    obtain ⟨u, v, hu, hv, hrest, hpast⟩ := split c used rest here mem
    obtain ⟨words, rfl, hwords⟩ := Language.mem_kstar.mp hv
    rw [hpast]
    exact .loop (ih hn c u _ hrest hu)
      (way_star_of_words (fun c u rest => ih hn c u rest) words hwords (c.past u _) rest rfl)

/-- The ways of a node without groups and conditions are the words of its language. -/
theorem way_iff_reads {n : Node α} (hn : n.silent) {c c' : Cursor} {ms : List Mark} :
    Way n c ms c' ↔ Reads n.language c ms c' := by
  constructor
  · exact reads_of_way hn
  · rintro ⟨rfl, used, rest, here, rfl, mem⟩
    exact way_of_mem_language hn c used rest here mem

/-- A group around such a node marks where the word begins and where it ends. -/
theorem way_group_iff {n : Node α} (hn : n.silent) {i : Nat} {c c' : Cursor} {ms : List Mark} :
    Way (.group i n) c ms c' ↔ ∃ used rest, c.rest = used ++ rest ∧ c' = c.past used rest ∧
      used ∈ n.language ∧ ms = [.opened i c.offset, .closed i (c.offset + used.length)] := by
  rw [Way.group_iff]
  simp only [way_iff_reads hn, Reads]
  constructor
  · rintro ⟨_, ⟨rfl, used, rest, here, rfl, mem⟩, rfl⟩
    exact ⟨used, rest, here, rfl, mem, rfl⟩
  · rintro ⟨used, rest, here, rfl, mem, rfl⟩
    exact ⟨[], ⟨rfl, used, rest, here, rfl, mem⟩, rfl⟩

end Node

end Codemod.Pattern
