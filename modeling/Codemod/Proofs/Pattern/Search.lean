import Codemod.Proofs.Pattern.Way

/-! The search from right to left finds a way wherever there is one.
`outcomeAt n k c` is what the notes of `n` say at cursor `c` when `k` gives the outcome of
leaving `n` at each cursor. It obeys one equation for each kind of node, and from these
equations an outcome belongs to a way, and a way gives an outcome. Loops whose body may pass
over nothing are left out. -/

namespace Codemod.Pattern.Node

attribute [simp] enter annotate survey

/-- The notes of a node at an offset, where `rest` follows and `k` gives the outcome of leaving
the node at each cursor behind that place. -/
@[simp] def notes (n : Node Outcome) (k : Cursor → Outcome) : Nat → List Char → Node Outcome
  | _, [] => n
  | offset, a :: rest =>
    (annotate ⟨offset + 1, some a, rest.head?⟩ (notes n k (offset + 1) rest)
      (k ⟨offset + 1, some a, rest⟩)).2

/-- The outcome of entering a node at a cursor. -/
def outcomeAt (n : Node Outcome) (k : Cursor → Outcome) (c : Cursor) : Outcome :=
  enter c.place (n.notes k c.offset c.rest) (k c)

theorem annotate_fst (p : Place) (n : Node Outcome) (k : Outcome) :
    (annotate p n k).1 = enter p n k := by
  induction n generalizing k with
  | cat a b iha ihb => simp only [annotate, enter, iha, ihb]
  | group i body ih => simp only [annotate, enter, ih]
  | alt a b iha ihb => simp only [annotate, enter, iha, ihb]
  | _ => rfl

theorem consumes_survey (p : Place) (n : Node Outcome) (leave : Passage) :
    ((survey p n).2 leave).consumes = n.consumes := by
  induction n generalizing leave with
  | cat a b iha ihb => simp only [survey, consumes, iha, ihb]
  | group i body ih => simp only [survey, consumes, ih]
  | alt a b iha ihb => simp only [survey, consumes, iha, ihb]
  | plus greedy body ih => simp only [survey, consumes, ih]
  | loop greedy body ih => simp only [survey, consumes, ih]
  | _ => rfl

theorem consumes_annotate (p : Place) (n : Node Outcome) (k : Outcome) :
    (annotate p n k).2.consumes = n.consumes := by
  induction n generalizing k with
  | cat a b iha ihb => simp only [annotate, consumes, iha, ihb]
  | group i body ih => simp only [annotate, consumes, ih]
  | alt a b iha ihb => simp only [annotate, consumes, iha, ihb]
  | plus greedy body ih => simp only [annotate, consumes, ih]
  | loop greedy body ih => simp only [annotate, consumes, consumes_survey]
  | _ => rfl

theorem consumes_notes (n : Node Outcome) (k : Cursor → Outcome) (offset : Nat)
    (rest : List Char) : (n.notes k offset rest).consumes = n.consumes := by
  induction rest generalizing offset with
  | nil => rfl
  | cons a rest ih => rw [notes, consumes_annotate, ih]

/-- What consumes a character is never left at the place where it is entered. -/
theorem enter_of_consumes {n : Node Outcome} (hn : n.consumes) (p : Place) (k k' : Outcome) :
    enter p n k = enter p n k' := by
  induction n generalizing k k' with
  | empty => simp at hn
  | set chars note => rfl
  | look l => simp at hn
  | group i body ih => rw [enter, enter, ih hn]
  | cat a b iha ihb =>
    rcases Bool.or_eq_true_iff.mp hn with ha | hb
    · rw [enter, enter, iha ha]
    · rw [enter, enter, ihb hb]
  | alt a b iha ihb =>
    obtain ⟨ha, hb⟩ := Bool.and_eq_true_iff.mp hn
    rw [enter, enter, iha ha k k', ihb hb k k']
  | star greedy body ih => simp at hn
  | plus greedy body ih => rfl
  | loop greedy body ih => exact ih hn k k'

theorem outcomeAt_empty (k : Cursor → Outcome) (c : Cursor) : outcomeAt .empty k c = k c := by
  have notes_empty : ∀ offset rest, notes .empty k offset rest = .empty := by
    intro offset rest
    induction rest generalizing offset with
    | nil => rfl
    | cons a rest ih => rw [notes, ih, annotate]
  rw [outcomeAt, notes_empty, enter]

theorem outcomeAt_set (chars : CharSet) (note : Outcome) (k : Cursor → Outcome) (c : Cursor) :
    outcomeAt (.set chars note) k c =
      match c.rest with
      | [] => none
      | a :: rest => if chars.mem a then k (c.past [a] rest) else none := by
  have notes_set : ∀ offset a rest, notes (.set chars note) k offset (a :: rest) =
      .set chars (k ⟨offset + 1, some a, rest⟩) := by
    intro offset a rest
    induction rest generalizing offset a with
    | nil => rfl
    | cons b rest ih => rw [notes, ih, annotate]
  obtain ⟨offset, before, rest⟩ := c
  cases rest with
  | nil => rfl
  | cons a rest =>
    rw [outcomeAt, notes_set, enter, Cursor.place]
    rfl

theorem outcomeAt_look (l : Look) (k : Cursor → Outcome) (c : Cursor) :
    outcomeAt (.look l) k c = if l.holds c.before c.rest.head? then k c else none := by
  have notes_look : ∀ offset rest, notes (.look l) k offset rest = .look l := by
    intro offset rest
    induction rest generalizing offset with
    | nil => rfl
    | cons a rest ih => rw [notes, ih, annotate]
  rw [outcomeAt, notes_look, enter, Cursor.place]

theorem outcomeAt_group (i : Nat) (body : Node Outcome) (k : Cursor → Outcome) (c : Cursor) :
    outcomeAt (.group i body) k c =
      (outcomeAt body (fun c => (k c).closing i c.place) c).opening i c.place := by
  have notes_group : ∀ offset rest, notes (.group i body) k offset rest =
      .group i (notes body (fun c => (k c).closing i c.place) offset rest) := by
    intro offset rest
    induction rest generalizing offset with
    | nil => rfl
    | cons a rest ih => rw [notes, ih, annotate, notes, Cursor.place]
  rw [outcomeAt, notes_group, enter, outcomeAt]

theorem outcomeAt_cat (a b : Node Outcome) (k : Cursor → Outcome) (c : Cursor) :
    outcomeAt (.cat a b) k c = outcomeAt a (outcomeAt b k) c := by
  have notes_cat : ∀ offset rest, notes (.cat a b) k offset rest =
      .cat (notes a (outcomeAt b k) offset rest) (notes b k offset rest) := by
    intro offset rest
    induction rest generalizing offset with
    | nil => rfl
    | cons d rest ih => simp only [notes, ih, annotate, annotate_fst, outcomeAt, Cursor.place]
  rw [outcomeAt, notes_cat, enter, outcomeAt, outcomeAt]

theorem outcomeAt_alt (a b : Node Outcome) (k : Cursor → Outcome) (c : Cursor) :
    outcomeAt (.alt a b) k c = (outcomeAt a k c).or (outcomeAt b k c) := by
  have notes_alt : ∀ offset rest, notes (.alt a b) k offset rest =
      .alt (notes a k offset rest) (notes b k offset rest) := by
    intro offset rest
    induction rest generalizing offset with
    | nil => rfl
    | cons d rest ih => rw [notes, ih, annotate, notes, notes]
  rw [outcomeAt, notes_alt, enter, outcomeAt, outcomeAt]

/-- After each round a star is entered anew. -/
theorem notes_star (greedy : Bool) (body : Node Outcome) (k : Cursor → Outcome) (offset : Nat)
    (rest : List Char) :
    notes (.star greedy body) k offset rest =
      .star greedy (notes body (outcomeAt (.star greedy body) k) offset rest) := by
  induction rest generalizing offset with
  | nil => rfl
  | cons a rest ih => rw [notes, ih, annotate, notes, outcomeAt, ih, enter, Cursor.place]

theorem outcomeAt_star {greedy : Bool} {body : Node Outcome} (hbody : body.consumes)
    (k : Cursor → Outcome) (c : Cursor) :
    outcomeAt (.star greedy body) k c =
      Outcome.prefer greedy (outcomeAt body (outcomeAt (.star greedy body) k) c) (k c) := by
  have hnotes := consumes_notes body (outcomeAt (.star greedy body) k) c.offset c.rest
  rw [outcomeAt, notes_star, enter, outcomeAt,
    enter_of_consumes (hnotes.trans hbody) c.place none]

theorem outcomeAt_plus {greedy : Bool} {body : Node Outcome} (hbody : body.consumes)
    (k : Cursor → Outcome) (c : Cursor) :
    outcomeAt (.plus greedy body) k c =
      outcomeAt body (outcomeAt (.star greedy body) k) c := by
  have notes_plus : ∀ offset rest, notes (.plus greedy body) k offset rest =
      .plus greedy (notes body (outcomeAt (.star greedy body) k) offset rest) := by
    intro offset rest
    induction rest generalizing offset with
    | nil => rfl
    | cons a rest ih =>
      rw [notes, ih, annotate, notes, outcomeAt, notes_star, enter, Cursor.place]
  have hnotes := consumes_notes body (outcomeAt (.star greedy body) k) c.offset c.rest
  rw [outcomeAt, notes_plus, enter, outcomeAt,
    enter_of_consumes (hnotes.trans hbody) c.place none]

/-- Every loop consumes a character in each round. -/
@[simp] def steady : Node Outcome → Bool
  | .empty => true
  | .set _ _ => true
  | .look _ => true
  | .group _ body => steady body
  | .cat a b => steady a && steady b
  | .alt a b => steady a && steady b
  | .star _ body => body.consumes && steady body
  | .plus _ body => body.consumes && steady body
  | .loop _ _ => false

theorem prefer_eq_some {greedy : Bool} {again leave : Outcome} {ms : List Mark}
    (h : Outcome.prefer greedy again leave = some ms) : again = some ms ∨ leave = some ms := by
  cases greedy <;> simp only [Outcome.prefer] at h <;>
    cases again <;> cases leave <;> simp_all

theorem isSome_prefer {greedy : Bool} {again leave : Outcome}
    (h : again.isSome ∨ leave.isSome) : (Outcome.prefer greedy again leave).isSome := by
  cases greedy <;> cases again <;> cases leave <;> simp_all [Outcome.prefer]

/-- What an outcome tells: a way to some cursor and the outcome of leaving there. -/
def Explained (n : Node Outcome) (k : Cursor → Outcome) (c : Cursor) (ms : List Mark) : Prop :=
  ∃ first c' second, Way n c first c' ∧ k c' = some second ∧ ms = first ++ second

theorem explained_star {greedy : Bool} {body : Node Outcome} (hbody : body.consumes)
    (round : ∀ (k : Cursor → Outcome) (c : Cursor) (ms : List Mark),
      outcomeAt body k c = some ms → Explained body k c ms)
    (k : Cursor → Outcome) (c : Cursor) (ms : List Mark)
    (h : outcomeAt (.star greedy body) k c = some ms) :
    Explained (.star greedy body) k c ms := by
  -- Each round leaves less of the text, so the induction is on what follows the cursor.
  induction hlen : c.rest.length using Nat.strong_induction_on generalizing c ms with
  | _ len ih =>
    rw [outcomeAt_star hbody] at h
    rcases prefer_eq_some h with again | leave
    · obtain ⟨first, c', second, way, hc', rfl⟩ := round _ c ms again
      have shorter := rest_length_lt hbody way
      obtain ⟨more, c'', third, way', hc'', rfl⟩ := ih c'.rest.length (by omega) c' second hc' rfl
      exact ⟨first ++ more, c'', third, .starMore way way', hc'', by rw [List.append_assoc]⟩
    · exact ⟨[], c, ms, .starStop c, leave, rfl⟩

/-- An outcome is the marks of a way followed by the outcome of leaving at its end. -/
theorem explained_of_outcomeAt {n : Node Outcome} (hn : n.steady) (k : Cursor → Outcome)
    (c : Cursor) (ms : List Mark) (h : outcomeAt n k c = some ms) : Explained n k c ms := by
  induction n generalizing k c ms with
  | empty =>
    rw [outcomeAt_empty] at h
    exact ⟨[], c, ms, .empty c, h, rfl⟩
  | set chars note =>
    rw [outcomeAt_set] at h
    split at h
    · cases h
    · next a rest here =>
      split at h
      · next mem => exact ⟨[], _, ms, .set mem here, h, rfl⟩
      · cases h
  | look l =>
    rw [outcomeAt_look] at h
    split at h
    · next holds => exact ⟨[], c, ms, .look holds, h, rfl⟩
    · cases h
  | group i body ih =>
    rw [outcomeAt_group] at h
    obtain ⟨inner, hinner, rfl⟩ := Option.map_eq_some_iff.mp h
    obtain ⟨first, c', second, way, hclosed, rfl⟩ := ih hn _ c inner hinner
    obtain ⟨third, hc', rfl⟩ := Option.map_eq_some_iff.mp hclosed
    exact ⟨_, c', third, .group way, hc', by simp [Cursor.place]⟩
  | cat a b iha ihb =>
    obtain ⟨ha, hb⟩ := Bool.and_eq_true_iff.mp hn
    rw [outcomeAt_cat] at h
    obtain ⟨first, c', second, way, hc', rfl⟩ := iha ha _ c ms h
    obtain ⟨third, c'', fourth, way', hc'', rfl⟩ := ihb hb k c' second hc'
    exact ⟨first ++ third, c'', fourth, .cat way way', hc'', by rw [List.append_assoc]⟩
  | alt a b iha ihb =>
    obtain ⟨ha, hb⟩ := Bool.and_eq_true_iff.mp hn
    rw [outcomeAt_alt] at h
    rcases Option.or_eq_some_iff.mp h with h | ⟨-, h⟩
    · obtain ⟨first, c', second, way, hc', rfl⟩ := iha ha k c ms h
      exact ⟨first, c', second, .altFirst way, hc', rfl⟩
    · obtain ⟨first, c', second, way, hc', rfl⟩ := ihb hb k c ms h
      exact ⟨first, c', second, .altRest way, hc', rfl⟩
  | star greedy body ih =>
    obtain ⟨hbody, hsteady⟩ := Bool.and_eq_true_iff.mp hn
    exact explained_star hbody (fun k c ms => ih hsteady k c ms) k c ms h
  | plus greedy body ih =>
    obtain ⟨hbody, hsteady⟩ := Bool.and_eq_true_iff.mp hn
    rw [outcomeAt_plus hbody] at h
    obtain ⟨first, c', second, way, hc', rfl⟩ := ih hsteady _ c ms h
    obtain ⟨more, c'', third, way', hc'', rfl⟩ :=
      explained_star hbody (fun k c ms => ih hsteady k c ms) k c' second hc'
    exact ⟨first ++ more, c'', third, .plus way way', hc'', by rw [List.append_assoc]⟩
  | loop greedy body ih => simp at hn

/-- Where a way ends at a cursor that can be left, there is an outcome. -/
theorem isSome_outcomeAt_of_way {n : Node Outcome} {c c' : Cursor} {ms : List Mark}
    (h : Way n c ms c') (hn : n.steady) (k : Cursor → Outcome) (hk : (k c').isSome) :
    (outcomeAt n k c).isSome := by
  induction h generalizing k with
  | empty c => rwa [outcomeAt_empty]
  | set mem here => simpa [outcomeAt_set, here, mem] using hk
  | look holds => rwa [outcomeAt_look, if_pos holds]
  | group inner ih =>
    rw [outcomeAt_group, Outcome.opening, Option.isSome_map]
    apply ih hn
    rwa [Outcome.closing, Option.isSome_map]
  | cat first second ih ih' =>
    obtain ⟨ha, hb⟩ := Bool.and_eq_true_iff.mp hn
    rw [outcomeAt_cat]
    exact ih ha _ (ih' hb k hk)
  | altFirst way ih =>
    have first := ih (Bool.and_eq_true_iff.mp hn).1 k hk
    rw [outcomeAt_alt, Option.isSome_or, first, Bool.true_or]
  | altRest way ih =>
    have rest := ih (Bool.and_eq_true_iff.mp hn).2 k hk
    rw [outcomeAt_alt, Option.isSome_or, rest, Bool.or_true]
  | starStop c =>
    rw [outcomeAt_star (Bool.and_eq_true_iff.mp hn).1]
    exact isSome_prefer (.inr hk)
  | starMore first more ih ih' =>
    obtain ⟨hbody, hsteady⟩ := Bool.and_eq_true_iff.mp hn
    rw [outcomeAt_star hbody]
    exact isSome_prefer (.inl (ih hsteady _ (ih' hn k hk)))
  | plus first more ih ih' =>
    obtain ⟨hbody, hsteady⟩ := Bool.and_eq_true_iff.mp hn
    rw [outcomeAt_plus hbody]
    exact ih hsteady _ (ih' hn k hk)
  | loop first more ih ih' => simp at hn

/-- The outcome of the whole pattern at a cursor. -/
def hit (root : Node Outcome) (c : Cursor) : Outcome :=
  outcomeAt root (fun _ => some []) c

theorem exists_way_of_hit {root : Node Outcome} (hroot : root.steady) {c : Cursor}
    {ms : List Mark} (h : root.hit c = some ms) : ∃ c', Way root c ms c' := by
  obtain ⟨first, c', second, way, hc', rfl⟩ := explained_of_outcomeAt hroot _ c ms h
  cases hc'
  rw [List.append_nil]
  exact ⟨c', way⟩

theorem hit_eq_none_iff {root : Node Outcome} (hroot : root.steady) {c : Cursor} :
    root.hit c = none ↔ ∀ ms c', ¬ Way root c ms c' := by
  constructor
  · intro h ms c' way
    have some := isSome_outcomeAt_of_way way hroot (fun _ => some []) rfl
    rw [hit] at h
    rw [h] at some
    cases some
  · intro h
    rw [Option.eq_none_iff_forall_ne_some]
    intro ms hms
    obtain ⟨c', way⟩ := exists_way_of_hit hroot hms
    exact h ms c' way

/-- The sweep gives the outcome at every cursor of the text. -/
theorem sweep_eq (root : Node Outcome) (text : List Char) :
    root.sweep text = (cursorsFrom 0 none text).map root.hit := by
  -- The state of the fold is the notes for the place before, and the outcomes so far.
  have fold : ∀ offset before,
      (placesFrom offset before text).foldr (fun p state =>
          let r := annotate p state.1 (some [])
          (r.2, r.1 :: state.2)) (root, []) =
        ((annotate ⟨offset, before, text.head?⟩ (root.notes (fun _ => some []) offset text)
          (some [])).2, (cursorsFrom offset before text).map root.hit) := by
    induction text with
    | nil =>
      intro offset before
      simp [placesFrom, cursorsFrom, hit, outcomeAt, Cursor.place, annotate_fst]
    | cons a text ih =>
      intro offset before
      rw [placesFrom, List.foldr_cons, ih]
      simp [cursorsFrom, hit, outcomeAt, Cursor.place, annotate_fst]
  rw [sweep, places, fold]

end Codemod.Pattern.Node
