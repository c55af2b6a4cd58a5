import Codemod.Text.Blank
import Mathlib.Data.List.DropRight

/-! Texts without case and without blanks around them.
Lowering ASCII letters neither makes nor removes blanks, or other characters below the capitals. A
trimmed text begins and ends with no blank, and so is its own trimmed text. -/

namespace Codemod.Text

theorem toLower_cases (c : Char) :
    c.toLower = c ∨ 65 ≤ c.toNat ∧ c.toNat ≤ 90 ∧ c.toLower.toNat = c.toNat + 32 := by
  unfold Char.toLower
  split
  case isTrue h =>
    have low : 65 ≤ c.toNat := h.1
    have high : c.toNat ≤ 90 := h.2
    have raised : (c.val + ('a'.val - 'A'.val)).toNat = (c.toNat + 32) % 2 ^ 32 :=
      UInt32.toNat_add c.val 32
    refine .inr ⟨low, high, ?_⟩
    change (c.val + ('a'.val - 'A'.val)).toNat = c.toNat + 32
    omega
  case isFalse => exact .inl rfl

/-- No capital is made of a character below the capitals, and none is made into one. -/
theorem toLower_eq_iff {c d : Char} (hd : d.toNat < 65) : c.toLower = d ↔ c = d := by
  rcases toLower_cases c with same | ⟨low, -, raised⟩
  · rw [same]
  · have left : c.toLower ≠ d := by
      intro heq
      rw [heq] at raised
      omega
    have right : c ≠ d := by
      intro heq
      rw [heq] at low
      omega
    exact iff_of_false left right

theorem isBlank_toLower (c : Char) : isBlank c.toLower = isBlank c := by
  rcases toLower_cases c with same | ⟨low, high, raised⟩
  · rw [same]
  · simp only [isBlank, CharSet.mem, CharSet.blank, CharSet.inRuns, raised]
    grind

theorem toLower_toLower (c : Char) : c.toLower.toLower = c.toLower := by
  rcases toLower_cases c with same | ⟨low, high, raised⟩
  · rw [same, same]
  · rcases toLower_cases c.toLower with settled | ⟨-, high', -⟩
    · exact settled
    · omega

theorem lowerAscii_lowerAscii (cs : List Char) : lowerAscii (lowerAscii cs) = lowerAscii cs := by
  rw [lowerAscii, lowerAscii, List.map_map]
  exact List.map_congr_left fun c _ => toLower_toLower c

@[simp] theorem length_lowerAscii (cs : List Char) : (lowerAscii cs).length = cs.length :=
  List.length_map Char.toLower

/-- What does not depend on case holds at the ends of a text just if it holds without case. -/
theorem ends_lowerAscii {p : Char → Bool} (hp : ∀ c, p c.toLower = p c) (cs : List Char) :
    ((∀ c ∈ (lowerAscii cs).head?, p c = false) ↔ ∀ c ∈ cs.head?, p c = false) ∧
      ((∀ c ∈ (lowerAscii cs).getLast?, p c = false) ↔ ∀ c ∈ cs.getLast?, p c = false) := by
  simp only [lowerAscii, List.head?_map, List.getLast?_map, Option.mem_def,
    Option.map_eq_some_iff, forall_exists_index, and_imp, forall_apply_eq_imp_iff₂, hp, true_and]

theorem mem_lowerAscii_iff {cs : List Char} {d : Char} (hd : d.toNat < 65) :
    d ∈ lowerAscii cs ↔ d ∈ cs := by
  simp [lowerAscii, toLower_eq_iff hd]

theorem dropWhile_of_head {p : Char → Bool} {cs : List Char} (h : ∀ c ∈ cs.head?, p c = false) :
    cs.dropWhile p = cs := by
  cases cs with
  | nil => rfl
  | cons c rest => rw [List.dropWhile_cons_of_neg (by simp [h c rfl])]

theorem trim_of_ends {cs : List Char} (hfirst : ∀ c ∈ cs.head?, isBlank c = false)
    (hlast : ∀ c ∈ cs.getLast?, isBlank c = false) : trim cs = cs := by
  have start : trimStart cs = cs := dropWhile_of_head hfirst
  have finish : cs.reverse.dropWhile isBlank = cs.reverse :=
    dropWhile_of_head (by simpa using hlast)
  rw [trim, start, trimEnd, finish, List.reverse_reverse]

theorem head_dropWhile {p : Char → Bool} {cs : List Char} :
    ∀ c ∈ (cs.dropWhile p).head?, p c = false := by
  intro c hc
  have hne : cs.dropWhile p ≠ [] := by
    intro hnil
    simp [hnil] at hc
  rw [← (List.head_eq_iff_head?_eq_some hne).mpr hc]
  exact List.head_dropWhile_not p hne

theorem last_trim {cs : List Char} : ∀ c ∈ (trim cs).getLast?, isBlank c = false := by
  rw [trim, trimEnd, List.getLast?_reverse]
  exact head_dropWhile

theorem head_trim {cs : List Char} : ∀ c ∈ (trim cs).head?, isBlank c = false := by
  intro c hc
  obtain ⟨blanks, hblanks⟩ := List.rdropWhile_prefix isBlank (trimStart cs)
  have kept : ((trimStart cs).rdropWhile isBlank).head? = some c := hc
  have hfirst : (trimStart cs).head? = some c := by
    rw [← hblanks, List.head?_append, kept, Option.some_or]
  exact head_dropWhile c hfirst

@[simp] theorem trim_trim (cs : List Char) : trim (trim cs) = trim cs :=
  trim_of_ends head_trim last_trim

/-- Nothing is dropped behind a text that ends with no blank. -/
theorem trim_of_last {cs : List Char} (h : ∀ c ∈ cs.getLast?, isBlank c = false) :
    trim cs = trimStart cs := by
  have finish : (trimStart cs).reverse.dropWhile isBlank = (trimStart cs).reverse := by
    apply dropWhile_of_head
    intro c hc
    rw [List.head?_reverse] at hc
    obtain ⟨blanks, hblanks⟩ := List.dropWhile_suffix (l := cs) isBlank
    apply h c
    rw [← hblanks, List.getLast?_append, Option.mem_def, Option.or_eq_some_iff]
    exact .inl hc
  rw [trim, trimEnd, finish, List.reverse_reverse]

theorem trim_lowerAscii (cs : List Char) : trim (lowerAscii cs) = lowerAscii (trim cs) := by
  have blanks : isBlank ∘ Char.toLower = isBlank := funext isBlank_toLower
  simp only [trim, trimEnd, trimStart, lowerAscii, List.dropWhile_map, blanks, ← List.map_reverse]

/-- A text gets shorter if it begins with a blank. -/
theorem length_trim_lt {c : Char} (h : isBlank c = true) (rest : List Char) :
    (trim (c :: rest)).length < (c :: rest).length := by
  have drop : trimStart (c :: rest) = trimStart rest := by simp [trimStart, h]
  have start := (List.dropWhile_suffix (l := rest) isBlank).length_le
  have finish := (List.rdropWhile_prefix isBlank (trimStart (c :: rest))).length_le
  calc (trim (c :: rest)).length
      ≤ (trimStart (c :: rest)).length := finish
    _ = (rest.dropWhile isBlank).length := by rw [drop]; rfl
    _ < (c :: rest).length := Nat.lt_succ_of_le start

end Codemod.Text
