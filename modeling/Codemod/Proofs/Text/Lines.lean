import Codemod.Proofs.Pattern.Scan
import Mathlib.Data.List.Flatten

/-! Lines of a text and the removal of some of them.
`pieces` cuts a text behind every newline, so the last piece is the only one without one.
A pattern whose ways begin at the start of a line and pass over that whole line removes lines:
it leaves the other pieces as they are and in their order. -/

namespace Codemod.Text

/-- The lines of a text with their newlines, and what follows the last newline. -/
def pieces : List Char → List (List Char)
  | [] => [[]]
  | c :: rest =>
    if c = '\n' then [c] :: pieces rest
    else match pieces rest with
      | [] => [[c]]
      | p :: ps => (c :: p) :: ps

/-- A line that ends with its only newline. -/
def Terminated (l : List Char) : Prop :=
  ∃ line, '\n' ∉ line ∧ l = line ++ ['\n']

theorem pieces_ne_nil (t : List Char) : pieces t ≠ [] := by
  cases t with
  | nil => simp [pieces]
  | cons c rest =>
    rw [pieces]
    split
    · simp
    · split <;> simp

theorem pieces_cons_of_ne {c : Char} (hc : c ≠ '\n') {rest : List Char} {p : List Char}
    {ps : List (List Char)} (h : pieces rest = p :: ps) :
    pieces (c :: rest) = (c :: p) :: ps := by
  rw [pieces, if_neg hc, h]

theorem pieces_newline (rest : List Char) : pieces ('\n' :: rest) = ['\n'] :: pieces rest := by
  rw [pieces, if_pos rfl]

theorem flatten_pieces (t : List Char) : (pieces t).flatten = t := by
  induction t with
  | nil => rfl
  | cons c rest ih =>
    by_cases hc : c = '\n'
    · rw [hc, pieces_newline, List.flatten_cons, ih, List.singleton_append]
    · obtain ⟨p, ps, h⟩ := List.exists_cons_of_ne_nil (pieces_ne_nil rest)
      rw [h, List.flatten_cons] at ih
      rw [pieces_cons_of_ne hc h, List.flatten_cons, List.cons_append, ih]

theorem infix_of_mem_pieces {l t : List Char} (h : l ∈ pieces t) : l <:+: t := by
  obtain ⟨front, back, hsplit⟩ := List.append_of_mem h
  refine ⟨front.flatten, back.flatten, ?_⟩
  rw [← flatten_pieces t, hsplit, List.flatten_append, List.flatten_cons, List.append_assoc]

theorem pieces_append_of_not_mem {front rest p : List Char} {ps : List (List Char)}
    (h : '\n' ∉ front) (hrest : pieces rest = p :: ps) :
    pieces (front ++ rest) = (front ++ p) :: ps := by
  induction front with
  | nil => exact hrest
  | cons c front ih =>
    rw [List.mem_cons, not_or] at h
    exact pieces_cons_of_ne (Ne.symm h.1) (ih h.2)

theorem pieces_of_not_mem {t : List Char} (h : '\n' ∉ t) : pieces t = [t] := by
  have whole := pieces_append_of_not_mem h (show pieces [] = [] :: [] from rfl)
  rwa [List.append_nil] at whole

theorem pieces_line {line : List Char} (h : '\n' ∉ line) (rest : List Char) :
    pieces (line ++ '\n' :: rest) = (line ++ ['\n']) :: pieces rest :=
  pieces_append_of_not_mem h (pieces_newline rest)

/-- A text is its first line and a text, or has no newline. -/
theorem lines_induction {P : List Char → Prop} (last : ∀ t, '\n' ∉ t → P t)
    (line : ∀ line rest, '\n' ∉ line → P rest → P (line ++ '\n' :: rest)) (t : List Char) :
    P t := by
  induction hlen : t.length using Nat.strong_induction_on generalizing t with
  | _ len ih =>
    by_cases h : '\n' ∈ t
    · obtain ⟨front, rest, rfl, hfront⟩ := List.eq_append_cons_of_mem h
      have shorter : rest.length < len := by
        rw [List.length_append, List.length_cons] at hlen
        omega
      exact line front rest hfront (ih rest.length shorter rest rfl)
    · exact last t h

theorem not_terminated_of_not_mem {t : List Char} (h : '\n' ∉ t) : ¬ Terminated t := by
  rintro ⟨line, -, rfl⟩
  simp at h

/-- The text without the pieces of some form. -/
def removeLines (drop : List Char → Bool) (t : List Char) : List Char :=
  ((pieces t).filter (!drop ·)).flatten

theorem removeLines_eq_self {drop : List Char → Bool} {t : List Char}
    (h : ∀ l ∈ pieces t, drop l = false) : removeLines drop t = t := by
  rw [removeLines, List.filter_eq_self.mpr fun l hl => by simp [h l hl], flatten_pieces]

section Removing

variable {drop : List Char → Bool} (hdrop : ∀ l, drop l → Terminated l)
include hdrop

theorem removeLines_of_not_mem {t : List Char} (h : '\n' ∉ t) : removeLines drop t = t := by
  apply removeLines_eq_self
  rw [pieces_of_not_mem h, List.forall_mem_singleton, Bool.eq_false_iff]
  exact fun hd => not_terminated_of_not_mem h (hdrop t hd)

omit hdrop in
theorem removeLines_line {line : List Char} (h : '\n' ∉ line) (rest : List Char) :
    removeLines drop (line ++ '\n' :: rest) =
      (if drop (line ++ ['\n']) then [] else line ++ ['\n']) ++ removeLines drop rest := by
  rw [removeLines, pieces_line h, List.filter_cons]
  cases drop (line ++ ['\n']) <;> simp [removeLines]

/-- The lines that are left are the lines that were not removed. -/
theorem pieces_removeLines (t : List Char) :
    pieces (removeLines drop t) = (pieces t).filter (!drop ·) := by
  induction t using lines_induction with
  | last t h =>
    rw [removeLines_of_not_mem hdrop h, pieces_of_not_mem h]
    have kept : drop t = false := by
      rw [Bool.eq_false_iff]
      exact fun hd => not_terminated_of_not_mem h (hdrop t hd)
    simp [kept]
  | line line rest h ih =>
    rw [removeLines_line h, pieces_line h, List.filter_cons]
    cases hd : drop (line ++ ['\n']) with
    | true => simpa using ih
    | false => simp [pieces_line h, ih]

theorem removeLines_eq_self_iff {t : List Char} :
    removeLines drop t = t ↔ ∀ l ∈ pieces t, drop l = false := by
  constructor
  · intro h
    have same := pieces_removeLines hdrop t
    rw [h] at same
    simpa using List.filter_eq_self.mp same.symm
  · exact removeLines_eq_self

theorem removeLines_comp (drop' : List Char → Bool) (t : List Char) :
    removeLines drop' (removeLines drop t) = removeLines (fun l => drop l || drop' l) t := by
  rw [removeLines, pieces_removeLines hdrop, List.filter_filter]
  simp [removeLines, Bool.and_comm]

theorem removeLines_removeLines (t : List Char) :
    removeLines drop (removeLines drop t) = removeLines drop t := by
  rw [removeLines_comp hdrop]
  simp only [Bool.or_self]

/-- What is removed has a newline, so a text that changes loses one. -/
theorem count_removeLines_lt {t : List Char} (h : removeLines drop t ≠ t) :
    (removeLines drop t).count '\n' < t.count '\n' := by
  induction t using lines_induction with
  | last t hmem => exact absurd (removeLines_of_not_mem hdrop hmem) h
  | line line rest hmem ih =>
    rw [removeLines_line hmem] at h ⊢
    have hle : (removeLines drop rest).count '\n' ≤ rest.count '\n' := by
      by_cases hrest : removeLines drop rest = rest
      · rw [hrest]
      · exact Nat.le_of_lt (ih hrest)
    cases hd : drop (line ++ ['\n']) with
    | true =>
      simp only [↓reduceIte, List.nil_append, List.count_append, List.count_cons_self]
      omega
    | false =>
      have hrest : removeLines drop rest ≠ rest := by
        intro hrest
        apply h
        simp [hd, hrest]
      have := ih hrest
      simp only [Bool.false_eq_true, ↓reduceIte, List.count_append, List.count_cons_self,
        List.count_nil]
      omega

end Removing

theorem removeLines_sublist (drop : List Char → Bool) (t : List Char) :
    (removeLines drop t).Sublist t := by
  conv => rhs; rw [← flatten_pieces t]
  exact List.filter_sublist.flatten

open Pattern

/-- The text from a cursor on without the lines of some form; what is left of the line that the
cursor stands in is kept. -/
def removeLinesFrom (drop : List Char → Bool) (c : Cursor) : List Char :=
  if Look.lineStart.holds c.before c.rest.head? then removeLines drop c.rest
  else (pieces c.rest).headD [] ++ ((pieces c.rest).tail.filter (!drop ·)).flatten

theorem removeLinesFrom_past_newline (drop : List Char → Bool) (c : Cursor) (l rest : List Char) :
    removeLinesFrom drop (c.past (l ++ ['\n']) rest) = removeLines drop rest := by
  simp [removeLinesFrom, Cursor.past, Look.holds]

/-- Unless the cursor stands before a line that is removed, its character is kept. -/
theorem removeLinesFrom_cons {drop : List Char → Bool} {c : Cursor} {a : Char} {rest : List Char}
    (hrest : c.rest = a :: rest)
    (kept : Look.lineStart.holds c.before c.rest.head? →
      drop ((pieces c.rest).headD []) = false) :
    removeLinesFrom drop c = a :: removeLinesFrom drop (c.past [a] rest) := by
  obtain ⟨p, ps, hp⟩ := List.exists_cons_of_ne_nil (pieces_ne_nil c.rest)
  have first : removeLinesFrom drop c = p ++ (ps.filter (!drop ·)).flatten := by
    rw [hp, List.headD_cons] at kept
    rw [removeLinesFrom, removeLines, hp]
    split
    · next hstart => simp [kept hstart]
    · rfl
  rw [first]
  rw [hrest] at hp
  by_cases ha : a = '\n'
  · subst ha
    rw [pieces_newline] at hp
    obtain ⟨rfl, rfl⟩ := List.cons.inj hp
    exact congrArg ('\n' :: ·) (removeLinesFrom_past_newline drop c [] rest).symm
  · obtain ⟨q, qs, hq⟩ := List.exists_cons_of_ne_nil (pieces_ne_nil rest)
    rw [pieces_cons_of_ne ha hq] at hp
    obtain ⟨rfl, rfl⟩ := List.cons.inj hp
    simp [removeLinesFrom, Cursor.past, Look.holds, ha, hq]

/-- A pattern that passes over whole lines of some form, rendered as nothing, removes them. -/
theorem replaceAll_removeLines {p : Pattern} {text : List Char} {render : Match → List Char}
    {drop : List Char → Bool} (hdrop : ∀ l, drop l → Terminated l)
    (hsteady : (p.root text.length).steady) (hconsumes : (p.root text.length).consumes)
    (hrender : ∀ m, render m = [])
    (ways : ∀ c c', (∃ ms, Way (p.root text.length) c ms c') ↔
      Look.lineStart.holds c.before c.rest.head? ∧
        ∃ l rest, drop l ∧ c.rest = l ++ rest ∧ c' = c.past l rest) :
    (p.replaceAll? render text).getD text = removeLines drop text := by
  apply replaceAll_eq p text hsteady hconsumes (f := removeLinesFrom drop)
  constructor
  · intro c hrest
    have hnil : removeLines drop [] = [] := removeLines_of_not_mem hdrop (by simp)
    simp [removeLinesFrom, hrest, hnil, pieces]
  · intro c a rest hrest noWay
    apply removeLinesFrom_cons hrest
    intro hstart
    obtain ⟨p, ps, hp⟩ := List.exists_cons_of_ne_nil (pieces_ne_nil c.rest)
    rw [hp, List.headD_cons, Bool.eq_false_iff]
    intro hd
    have whole : c.rest = p ++ ps.flatten := by
      rw [← flatten_pieces c.rest, hp, List.flatten_cons]
    obtain ⟨ms, way⟩ := (ways c _).mpr ⟨hstart, p, ps.flatten, hd, whole, rfl⟩
    exact noWay ms _ way
  · intro c ms c' way
    obtain ⟨hstart, l, rest, hl, hrest, rfl⟩ := (ways c c').mp ⟨ms, way⟩
    obtain ⟨line, hline, rfl⟩ := hdrop l hl
    rw [hrender, List.nil_append, removeLinesFrom_past_newline, removeLinesFrom, if_pos hstart,
      hrest, List.append_assoc, List.singleton_append, removeLines_line hline, if_pos hl,
      List.nil_append]

end Codemod.Text
