import Codemod.Pattern
import Codemod.Proofs.Pattern.Search

/-! Replacing the matches of a pattern, one cursor at a time.
Where no way begins the character at the cursor is kept, and where one begins its rendering
takes the place of what it passes over. For a pattern that always passes over something these
two rules determine the text in which all matches are replaced. -/

namespace Codemod.Pattern

theorem lastClosed_append_closed (group offset : Nat) (ms : List Mark) :
    lastClosed group (ms ++ [.closed group offset]) = some offset := by
  induction ms with
  | nil => simp [lastClosed]
  | cons m ms ih => cases m <;> simp [lastClosed, ih]

/-- The match of a way. -/
def matchOf (c : Cursor) (ms : List Mark) (c' : Cursor) : Match :=
  ⟨c.offset, c'.offset, c.rest.take (c'.offset - c.offset), ms⟩

/-- A group holds the text between its marks. -/
theorem group_matchOf (front middle back : List Char) {c : Cursor} {used rest : List Char}
    {ms : List Mark} {group : Nat} (hrest : c.rest = used ++ rest)
    (hused : used = front ++ (middle ++ back))
    (hopened : lastOpened group ms = some (c.offset + front.length))
    (hclosed : lastClosed group ms = some (c.offset + front.length + middle.length)) :
    (matchOf c ms (c.past used rest)).group? group = some middle := by
  have hspan : (matchOf c ms (c.past used rest)).span? group =
      some (c.offset + front.length, c.offset + front.length + middle.length) := by
    simp only [Match.span?, matchOf, hopened, hclosed]
  have hchars : (matchOf c ms (c.past used rest)).chars = used := by
    simp [matchOf, hrest]
  rw [Match.group?, hspan, Option.map_some, Match.slice, hchars, hused]
  simp [matchOf]

/-- The end of a match is where its outermost group was closed. -/
theorem lastClosed_of_way {body : Node Outcome} {c c' : Cursor} {ms : List Mark}
    (h : Way (.group 0 body) c ms c') : lastClosed 0 ms = some c'.offset := by
  obtain ⟨inner, -, rfl⟩ := Way.group_iff.mp h
  exact lastClosed_append_closed 0 c'.offset (.opened 0 c.offset :: inner)

/-- Outcomes before the end of the last match are passed over. -/
theorem pickMatches_skip (hits : Cursor → Outcome) (c : Cursor) (used rest : List Char)
    (barred : Option Nat) :
    pickMatches c.offset (c.offset + used.length) barred (used ++ rest)
        ((cursorsFrom c.offset c.before (used ++ rest)).map hits) =
      pickMatches (c.past used rest).offset (c.offset + used.length) barred rest
        ((cursorsFrom (c.past used rest).offset (c.past used rest).before rest).map hits) := by
  induction used generalizing c with
  | nil => simp [Cursor.past]
  | cons a used ih =>
    have step := ih (c.past [a] (used ++ rest))
    have hlen : (c.past [a] (used ++ rest)).offset + used.length =
        c.offset + (a :: used).length := by
      simp [Cursor.past]
      omega
    rw [Cursor.past_past, hlen] at step
    rw [List.singleton_append] at step
    rw [← step]
    simp only [List.cons_append, cursorsFrom, List.map_cons, pickMatches]
    split
    · rfl
    · rw [if_pos (by simp)]
      rfl

/-- Where no way begins, picking goes on behind the next character. -/
theorem pickMatches_miss {hits : Cursor → Outcome} {c : Cursor} {a : Char} {rest : List Char}
    (miss : hits c = none) (hrest : c.rest = a :: rest) (resume : Nat) (barred : Option Nat) :
    pickMatches c.offset resume barred c.rest
        ((cursorsFrom c.offset c.before c.rest).map hits) =
      pickMatches (c.past [a] rest).offset resume barred rest
        ((cursorsFrom (c.past [a] rest).offset (c.past [a] rest).before rest).map hits) := by
  obtain ⟨offset, before, text⟩ := c
  subst hrest
  simp [cursorsFrom, pickMatches, miss, Cursor.past]

/-- Where a way begins its match is picked, and picking goes on where the way ends. -/
theorem pickMatches_hit {hits : Cursor → Outcome} {c c' : Cursor} {ms : List Mark} {a : Char}
    {used : List Char} {resume : Nat} {barred : Option Nat} (hit : hits c = some ms)
    (hstop : lastClosed 0 ms = some c'.offset) (hrest : c.rest = a :: (used ++ c'.rest))
    (hpast : c' = c.past (a :: used) c'.rest) (hresume : resume ≤ c.offset) :
    pickMatches c.offset resume barred c.rest
        ((cursorsFrom c.offset c.before c.rest).map hits) =
      matchOf c ms c' :: pickMatches c'.offset c'.offset (some c'.offset) c'.rest
        ((cursorsFrom c'.offset c'.before c'.rest).map hits) := by
  have skip := pickMatches_skip hits (c.past [a] (used ++ c'.rest)) used c'.rest (some c'.offset)
  rw [Cursor.past_past, List.singleton_append, ← hpast] at skip
  have hused : c'.offset = c.offset + (used.length + 1) := by
    rw [hpast]
    rfl
  have hoffset : (c.past [a] (used ++ c'.rest)).offset + used.length = c'.offset := by
    simp only [Cursor.past_offset, List.length_singleton, hused]
    omega
  rw [hoffset] at skip
  rw [← skip]
  obtain ⟨offset, before, rest⟩ := c
  subst hrest
  have hne : ¬ (c'.offset = offset ∧ barred = some offset) := by
    simp only at hused
    omega
  simp only [cursorsFrom, List.map_cons, pickMatches, hit, hstop, Option.getD_some, matchOf]
  rw [if_neg (Nat.not_lt.mpr hresume), if_neg hne]
  rfl

/-- The rendering of a match follows the text `held` before it. -/
theorem splice_matchOf {c c' : Cursor} {used held : List Char} {offset : Nat}
    (hrest : c.rest = used ++ c'.rest) (hpast : c' = c.past used c'.rest)
    (hoffset : c.offset = offset + held.length) (render : Match → List Char) (ms : List Mark)
    (found : List Match) :
    splice render offset (held ++ c.rest) (matchOf c ms c' :: found) =
      held ++ (render (matchOf c ms c') ++ splice render c'.offset c'.rest found) := by
  have hused : c'.offset = c.offset + used.length := by
    rw [hpast]
    rfl
  have htake : (held ++ c.rest).take ((matchOf c ms c').start - offset) = held := by
    simp [matchOf, hoffset]
  have hdrop : (held ++ c.rest).drop ((matchOf c ms c').stop - offset) = c'.rest := by
    have hlen : (matchOf c ms c').stop - offset = (held ++ used).length := by
      simp only [matchOf, hused, hoffset, List.length_append]
      omega
    rw [hlen, hrest, ← List.append_assoc, List.drop_left]
  rw [splice, htake, hdrop]
  rfl

/-- What a text becomes from each cursor on when the ways of a pattern are rendered. -/
structure Rewrites (root : Node Outcome) (render : Match → List Char) (f : Cursor → List Char) :
    Prop where
  finish : ∀ c, c.rest = [] → f c = []
  keep : ∀ c a rest, c.rest = a :: rest → (∀ ms c', ¬ Way root c ms c') →
    f c = a :: f (c.past [a] rest)
  render : ∀ c ms c', Way root c ms c' → f c = render (matchOf c ms c') ++ f c'

/-- `held` is the text before the cursor that is kept since the last match. -/
theorem splice_pickMatches {body : Node Outcome} (hroot : (Node.group 0 body).steady)
    (hbody : body.consumes) {render : Match → List Char} {f : Cursor → List Char}
    (hf : Rewrites (.group 0 body) render f) (c : Cursor) (offset resume : Nat)
    (barred : Option Nat) (held : List Char) (hoffset : c.offset = offset + held.length)
    (hresume : resume ≤ c.offset) :
    splice render offset (held ++ c.rest) (pickMatches c.offset resume barred c.rest
      ((cursorsFrom c.offset c.before c.rest).map (Node.group 0 body).hit)) = held ++ f c := by
  -- A kept character and a match both leave less of the text behind the cursor.
  induction hlen : c.rest.length using Nat.strong_induction_on
    generalizing c offset resume barred held with
  | _ len ih =>
    cases hit : (Node.group 0 body).hit c with
    | none =>
      have noWay := (Node.hit_eq_none_iff hroot).mp hit
      cases hrest : c.rest with
      | nil =>
        rw [hf.finish c hrest]
        obtain ⟨o, b, rest⟩ := c
        subst hrest
        simp [cursorsFrom, pickMatches, hit, splice]
      | cons a rest =>
        have shorter : rest.length < len := by
          rw [← hlen, hrest, List.length_cons]
          omega
        have hheld : (c.past [a] rest).offset = offset + (held ++ [a]).length := by
          rw [Cursor.past_offset, hoffset, List.length_append, Nat.add_assoc]
        have step := ih rest.length shorter (c.past [a] rest) offset resume barred (held ++ [a])
          hheld (Nat.le_add_right_of_le hresume) rfl
        rw [Cursor.past_rest, List.append_assoc, List.append_assoc, List.singleton_append,
          List.singleton_append] at step
        rw [hf.keep c a rest hrest noWay, ← step, ← pickMatches_miss hit hrest, hrest]
    | some ms =>
      obtain ⟨c', way⟩ := Node.exists_way_of_hit hroot hit
      have shorter := Node.rest_length_lt (n := .group 0 body) hbody way
      obtain ⟨used, hrest, hpast⟩ := way.exists_past
      cases used with
      | nil =>
        rw [hrest] at shorter
        exact absurd shorter (Nat.lt_irrefl _)
      | cons a used =>
        have step := ih c'.rest.length (by omega) c' c'.offset c'.offset (some c'.offset) []
          rfl (Nat.le_refl _) rfl
        rw [List.nil_append, List.nil_append] at step
        rw [pickMatches_hit hit (lastClosed_of_way way) hrest hpast hresume,
          splice_matchOf hrest hpast hoffset, step, hf.render c ms c' way]

theorem replaceAll_eq (p : Pattern) (text : List Char) {render : Match → List Char}
    {f : Cursor → List Char} (hsteady : (p.root text.length).steady)
    (hconsumes : (p.root text.length).consumes) (hf : Rewrites (p.root text.length) render f) :
    (p.replaceAll? render text).getD text = f (Cursor.start text) := by
  have scan := splice_pickMatches hsteady hconsumes hf (Cursor.start text) 0 0 none [] rfl
    (Nat.le_refl 0)
  rw [List.nil_append, List.nil_append] at scan
  rw [← scan, replaceAll?, findAll, Node.sweep_eq]
  cases hms : pickMatches 0 0 none text
      ((cursorsFrom 0 none text).map (p.root text.length).hit) with
  | nil =>
    simp only [Cursor.start, root] at hms ⊢
    rw [hms]
    rfl
  | cons m ms =>
    simp only [Cursor.start, root] at hms ⊢
    rw [hms]
    rfl

/-- A pattern matches somewhere if it has a way from some place of the text. -/
theorem isMatch_iff (p : Pattern) (text : List Char) (hsteady : (p.root text.length).steady) :
    p.isMatch text ↔ ∃ used rest ms c', text = used ++ rest ∧
      Way (p.root text.length) ((Cursor.start text).past used rest) ms c' := by
  rw [isMatch, Node.sweep_eq, List.any_map, List.any_eq_true]
  simp only [mem_cursorsFrom, Function.comp_apply]
  constructor
  · rintro ⟨c, ⟨used, rest, htext, rfl⟩, hhit⟩
    obtain ⟨ms, hms⟩ := Option.isSome_iff_exists.mp hhit
    obtain ⟨c', way⟩ := Node.exists_way_of_hit hsteady hms
    exact ⟨used, rest, ms, c', htext, way⟩
  · rintro ⟨used, rest, ms, c', htext, way⟩
    refine ⟨_, ⟨used, rest, htext, rfl⟩, ?_⟩
    rw [Option.isSome_iff_ne_none]
    intro hnone
    exact (Node.hit_eq_none_iff hsteady).mp hnone ms c' way

/-- A pattern without groups and conditions matches where a word of its language occurs. -/
theorem isMatch_of_infix {p : Pattern} {text : List Char} (word : List Char)
    (hsteady : (p.root text.length).steady)
    (hsilent : (Node.ofExpr text.length (none : Outcome) p.expr).silent)
    (hword : word ∈ (Node.ofExpr text.length (none : Outcome) p.expr).language)
    (h : word <:+: text) : p.isMatch text := by
  obtain ⟨front, back, rfl⟩ := h
  rw [isMatch_iff p _ hsteady]
  exact ⟨front, word ++ back, _, _, List.append_assoc ..,
    (Node.way_group_iff hsilent).mpr ⟨word, back, rfl, rfl, hword, rfl⟩⟩

/-- It matches nowhere else. -/
theorem isMatch_iff_infix {p : Pattern} {text : List Char}
    (hsteady : (p.root text.length).steady)
    (hsilent : (Node.ofExpr text.length (none : Outcome) p.expr).silent) :
    p.isMatch text ↔
      ∃ word ∈ (Node.ofExpr text.length (none : Outcome) p.expr).language, word <:+: text := by
  constructor
  · intro h
    obtain ⟨front, rest, ms, c', rfl, way⟩ := (isMatch_iff p text hsteady).mp h
    obtain ⟨word, back, hrest, -, hword, -⟩ := (Node.way_group_iff hsilent).mp way
    rw [Cursor.past_rest] at hrest
    exact ⟨word, hword, front, back, by rw [hrest, List.append_assoc]⟩
  · rintro ⟨word, hword, h⟩
    exact isMatch_of_infix word hsteady hsilent hword h

end Codemod.Pattern
