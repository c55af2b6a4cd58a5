import Codemod.Proofs.Pattern.Search

/-! The languages of the nodes that expressions are written out to, for the shapes that
patterns of fixed words and character runs consist of. -/

namespace Codemod.Pattern.Node

variable {α : Type}

@[simp] theorem silent_literal (note : α) (cs : List Char) : (literal note cs).silent := by
  induction cs with
  | nil => rfl
  | cons c rest ih =>
    cases rest with
    | nil => rfl
    | cons d rest => exact ih

@[simp] theorem steady_literal (note : Outcome) (cs : List Char) : (literal note cs).steady := by
  induction cs with
  | nil => rfl
  | cons c rest ih =>
    cases rest with
    | nil => rfl
    | cons d rest => exact ih

@[simp] theorem consumes_literal (note : α) (c : Char) (cs : List Char) :
    (literal note (c :: cs)).consumes := by
  cases cs <;> rfl

theorem mem_language_set {chars : CharSet} {note : α} {w : List Char} :
    w ∈ (set chars note).language ↔ ∃ a, chars.mem a ∧ w = [a] :=
  Iff.rfl

@[simp] theorem mem_language_literal {note : α} {cs w : List Char} :
    w ∈ (literal note cs).language ↔ w = cs := by
  induction cs generalizing w with
  | nil => exact Language.mem_one w
  | cons c rest ih =>
    have single : ∀ {w}, w ∈ (set (.single c) note).language ↔ w = [c] := by
      intro w
      simp only [mem_language_set, CharSet.mem_single, decide_eq_true_eq]
      exact ⟨fun ⟨a, ha, hw⟩ => ha ▸ hw, fun hw => ⟨c, rfl, hw⟩⟩
    cases rest with
    | nil => exact single
    | cons d rest =>
      rw [show literal note (c :: d :: rest) =
        .cat (.set (.single c) note) (literal note (d :: rest)) from rfl, language,
        Language.mem_mul]
      constructor
      · rintro ⟨u, hu, v, hv, rfl⟩
        rw [single.mp hu, ih.mp hv, List.singleton_append]
      · rintro rfl
        exact ⟨[c], single.mpr rfl, d :: rest, ih.mpr rfl, rfl⟩

theorem mem_language_cat {a b : Node α} {w : List Char} :
    w ∈ (cat a b).language ↔ ∃ u ∈ a.language, ∃ v ∈ b.language, u ++ v = w :=
  Language.mem_mul

/-- A run of characters of a set. -/
theorem mem_language_star_set {greedy : Bool} {chars : CharSet} {note : α} {w : List Char} :
    w ∈ (star greedy (set chars note)).language ↔ ∀ a ∈ w, chars.mem a := by
  rw [language, Language.mem_kstar]
  constructor
  · rintro ⟨words, rfl, h⟩ a ha
    obtain ⟨word, hword, ha⟩ := List.mem_flatten.mp ha
    obtain ⟨b, hb, rfl⟩ := mem_language_set.mp (h word hword)
    rwa [List.mem_singleton.mp ha]
  · intro h
    refine ⟨w.map ([·]), ?_, ?_⟩
    · induction w with
      | nil => rfl
      | cons a w ih =>
        rw [List.map_cons, List.flatten_cons, ← ih fun b hb => h b (List.mem_cons_of_mem a hb)]
        rfl
    · intro word hword
      obtain ⟨a, ha, rfl⟩ := List.mem_map.mp hword
      exact ⟨a, h a ha, rfl⟩

/-- An optional character. -/
theorem mem_language_maybe {c : Char} {note : α} {w : List Char} :
    w ∈ (alt (literal note [c]) .empty).language ↔ w = [] ∨ w = [c] := by
  rw [language, Language.mem_add, mem_language_literal, language, Language.mem_one, or_comm]

section Branches

variable (room : Nat) (words : List (List Char))

theorem ofExpr_branches (note : α) (w : List Char) (v : List Char) (rest : List (List Char)) :
    ofExpr room note (.ofBranches ((w :: v :: rest).map .literal)) =
      .alt (literal note w) (ofExpr room note (.ofBranches ((v :: rest).map .literal))) := rfl

theorem silent_branches (note : α) :
    (ofExpr room note (.ofBranches (words.map .literal))).silent := by
  induction words with
  | nil => rfl
  | cons w words ih =>
    cases words with
    | nil => exact silent_literal note w
    | cons v rest =>
      rw [ofExpr_branches, silent, silent_literal, ih]
      rfl

theorem steady_branches (note : Outcome) :
    (ofExpr room note (.ofBranches (words.map .literal))).steady := by
  induction words with
  | nil => rfl
  | cons w words ih =>
    cases words with
    | nil => exact steady_literal note w
    | cons v rest =>
      rw [ofExpr_branches, steady, steady_literal, ih]
      rfl

/-- A choice between words. -/
theorem mem_language_branches {note : α} {w : List Char} :
    w ∈ (ofExpr room note (.ofBranches (words.map .literal))).language ↔ w ∈ words := by
  induction words with
  | nil =>
    simp only [List.map_nil, Expr.ofBranches, ofExpr, mem_language_set, List.not_mem_nil, iff_false]
    rintro ⟨a, ha, -⟩
    simp [CharSet.mem, CharSet.empty, CharSet.inRuns] at ha
  | cons v words ih =>
    cases words with
    | nil =>
      simp only [List.map_cons, List.map_nil, Expr.ofBranches, ofExpr, mem_language_literal,
        List.mem_singleton]
    | cons u rest =>
      rw [ofExpr_branches, language, Language.mem_add, mem_language_literal, ih,
        List.mem_cons (a := w) (b := v)]

end Branches

end Codemod.Pattern.Node
