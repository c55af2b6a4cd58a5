import Codemod.Proofs.Text.Words

/-! Words at their places.
The words of a separable table do not overlap, so around an occurrence of one the text is rewritten
as if its two sides stood alone. Where replacements are as long as their words, no character moves:
within an occurrence it comes from the replacement, elsewhere it is the one that stood there. -/

namespace Codemod.Text

theorem getElem?_of_prefix_drop {word text : List Char} {k j : Nat} (h : word <+: text.drop k)
    (hj : j < word.length) : text[k + j]? = word[j]? := by
  obtain ⟨back, hback⟩ := h
  rw [← List.getElem?_drop, ← hback, List.getElem?_append_left hj]

section Separable

variable {mark : Char} {table : List (List Char × List Char)} (hsep : separable mark table)
include hsep

/-- Every occurrence of a word is replaced. -/
theorem replaceEach_append_word {e : List Char × List Char} (he : e ∈ table)
    (front back : List Char) :
    replaceEach table (front ++ (e.1 ++ back)) =
      replaceEach table front ++ (e.2 ++ replaceEach table back) := by
  obtain ⟨tail, htail, -⟩ := word_marked hsep he
  induction front using replaceEach_induction hsep with
  | nil => rw [List.nil_append, replaceEach_word hsep he, replaceEach, List.nil_append]
  | word d hd front ih =>
    rw [List.append_assoc, replaceEach_word hsep hd, ih, replaceEach_word hsep hd,
      List.append_assoc]
  | char c front h ih =>
    rw [List.cons_append, replaceEach_cons, ih, replaceEach_cons h, List.cons_append]
    -- A word that began here and reached into the occurrence would hold the mark twice.
    intro d hd hpre
    obtain ⟨body, hbody, hmark⟩ := word_marked hsep hd
    rw [hbody, htail, List.cons_append, List.cons_prefix_cons,
      prefix_append_cons_iff hmark] at hpre
    apply h d hd
    rw [hbody, List.cons_prefix_cons]
    exact hpre

/-- If every replacement counts as much as its word, no text counts more or less than before. -/
theorem measure_replaceEach {m : List Char → Nat} (hadd : ∀ s t, m (s ++ t) = m s + m t)
    (heq : ∀ e ∈ table, m e.2 = m e.1) (text : List Char) :
    m (replaceEach table text) = m text := by
  induction text using replaceEach_induction hsep with
  | nil => rw [replaceEach]
  | word e he rest ih => rw [replaceEach_word hsep he, hadd, hadd, heq e he, ih]
  | char c rest h ih =>
    have hcons : ∀ t, m (c :: t) = m [c] + m t := hadd [c]
    rw [replaceEach_cons h, hcons, hcons rest, ih]

section EqualLengths

variable (hlen : ∀ e ∈ table, e.2.length = e.1.length)
include hlen

theorem length_replaceEach (text : List Char) :
    (replaceEach table text).length = text.length :=
  measure_replaceEach hsep (fun _ _ => List.length_append) hlen text

theorem getElem?_replaceEach_of_word {e : List Char × List Char} (he : e ∈ table)
    {text : List Char} {k j : Nat} (h : e.1 <+: text.drop k) (hj : j < e.1.length) :
    (replaceEach table text)[k + j]? = e.2[j]? := by
  obtain ⟨back, hback⟩ := h
  have hk : k < text.length := by
    have := congrArg List.length hback
    rw [List.length_append, List.length_drop] at this
    omega
  have hfront : (replaceEach table (text.take k)).length = k := by
    rw [length_replaceEach hsep hlen, List.length_take, Nat.min_eq_left (Nat.le_of_lt hk)]
  rw [← List.take_append_drop k text, ← hback, replaceEach_append_word hsep he,
    List.getElem?_append_right (by omega), hfront, Nat.add_sub_cancel_left,
    List.getElem?_append_left (by rw [hlen e he]; exact hj)]

/-- A place keeps its character if no occurrence brings another one there. -/
theorem getElem?_replaceEach_of_kept {text : List Char} {i : Nat}
    (h : ∀ e ∈ table, ∀ k j, e.1 <+: text.drop k → i = k + j → e.2[j]? = e.1[j]?) :
    (replaceEach table text)[i]? = text[i]? := by
  induction text using replaceEach_induction hsep generalizing i with
  | nil => rw [replaceEach]
  | word e he rest ih =>
    rw [replaceEach_word hsep he]
    rcases Nat.lt_or_ge i e.1.length with hi | hi
    · rw [List.getElem?_append_left (by rw [hlen e he]; exact hi), List.getElem?_append_left hi]
      exact h e he 0 i (List.prefix_append e.1 rest) (Nat.zero_add i).symm
    · rw [List.getElem?_append_right (by rw [hlen e he]; exact hi),
        List.getElem?_append_right hi, hlen e he]
      apply ih
      intro d hd k j hpre hplace
      have hshift : (e.1 ++ rest).drop (e.1.length + k) = rest.drop k :=
        List.drop_length_add_append k
      exact h d hd (e.1.length + k) j (hshift ▸ hpre) (by omega)
  | char c rest hnone ih =>
    rw [replaceEach_cons hnone]
    cases i with
    | zero => rfl
    | succ i =>
      rw [List.getElem?_cons_succ, List.getElem?_cons_succ]
      apply ih
      intro e he k j hpre hplace
      exact h e he (k + 1) j hpre (by omega)

end EqualLengths

end Separable

end Codemod.Text
