import Codemod.Walk
import Mathlib.Data.List.Lex
import Mathlib.Data.List.Sort
import Mathlib.Data.Prod.Lex
import Mathlib.Data.String.Basic

/-! The order of paths and the list in which files are collected.
The key of a path is the list of its components, each as its kind and its text. Paths are compared
by their keys, and the collected files are increasing in them, so that the keys of what was added
say what the keys of the list are. -/

namespace Codemod

/-- The place of a component in the order: by kind, then by text. -/
def Component.key (c : Component) : ℕ ×ₗ String :=
  toLex (c.rank, c.text)

theorem Component.key_injective : Function.Injective Component.key := by
  intro a b h
  obtain ⟨hrank, htext⟩ := Prod.mk.inj (toLex.injective h)
  cases a <;> cases b <;> simp_all [rank, text]

theorem Component.lt_iff (a b : Component) : a.lt b ↔ a.key < b.key := by
  simp [Component.lt, key, Prod.Lex.toLex_lt_toLex]

namespace Path

def key (p : Path) : List (ℕ ×ₗ String) :=
  p.components.map Component.key

theorem key_eq_iff {p q : Path} : p.key = q.key ↔ p.components = q.components :=
  Component.key_injective.list_map.eq_iff

theorem same_iff {p q : Path} : p.same q ↔ p.key = q.key := by
  rw [key_eq_iff, same, beq_iff_eq]

theorem ltComponents_iff (as bs : List Component) :
    ltComponents as bs ↔ as.map Component.key < bs.map Component.key := by
  induction as generalizing bs with
  | nil => cases bs <;> simp [ltComponents]
  | cons a as ih =>
    cases bs with
    | nil => simp [ltComponents]
    | cons b bs =>
      simp [ltComponents, List.cons_lt_cons_iff, Component.lt_iff, ih,
        Component.key_injective.eq_iff]

theorem lt_iff {p q : Path} : p.lt q ↔ p.key < q.key :=
  ltComponents_iff p.components q.components

end Path

namespace Candidates

/-- Files that were added one after the other. -/
def insertAll (added files : List Path) : List Path :=
  added.foldl (fun files p => insertPath p files) files

theorem mem_insertPath {p q : Path} {files : List Path} (h : q ∈ insertPath p files) :
    q = p ∨ q ∈ files := by
  induction files with
  | nil => exact .inl (List.mem_singleton.mp h)
  | cons r rest ih =>
    rw [insertPath] at h
    split_ifs at h
    · exact List.mem_cons.mp h
    · exact .inr h
    · rcases List.mem_cons.mp h with rfl | htail
      · simp
      · exact (ih htail).imp_right (List.mem_cons_of_mem r)

theorem key_mem_insertPath (p : Path) (files : List Path) (k : List (ℕ ×ₗ String)) :
    k ∈ (insertPath p files).map Path.key ↔ k = p.key ∨ k ∈ files.map Path.key := by
  induction files with
  | nil => simp [insertPath]
  | cons r rest ih =>
    rw [insertPath]
    split_ifs with hlt hsame
    · simp
    · rw [Path.same_iff] at hsame
      simp [hsame]
    · rw [List.map_cons, List.mem_cons, ih, List.map_cons, List.mem_cons]
      exact or_left_comm

theorem increasing_insertPath (p : Path) {files : List Path}
    (h : files.Pairwise (·.key < ·.key)) : (insertPath p files).Pairwise (·.key < ·.key) := by
  induction files with
  | nil => simp [insertPath]
  | cons r rest ih =>
    obtain ⟨hhead, htail⟩ := List.pairwise_cons.mp h
    rw [insertPath]
    split_ifs with hlt hsame
    · rw [Path.lt_iff] at hlt
      refine List.pairwise_cons.mpr ⟨fun q hq => ?_, h⟩
      rcases List.mem_cons.mp hq with rfl | hq
      · exact hlt
      · exact hlt.trans (hhead q hq)
    · exact h
    · rw [Path.lt_iff] at hlt
      rw [Path.same_iff] at hsame
      refine List.pairwise_cons.mpr ⟨fun q hq => ?_, ih htail⟩
      rcases mem_insertPath hq with rfl | hq
      · exact lt_of_le_of_ne (not_lt.mp hlt) (Ne.symm hsame)
      · exact hhead q hq

section All

variable (added files : List Path)

theorem mem_insertAll {q : Path} (h : q ∈ insertAll added files) : q ∈ added ∨ q ∈ files := by
  induction added generalizing files with
  | nil => exact .inr h
  | cons p rest ih =>
    rcases ih _ h with hrest | hfirst
    · exact .inl (List.mem_cons_of_mem p hrest)
    · rcases mem_insertPath hfirst with rfl | hfiles
      · exact .inl List.mem_cons_self
      · exact .inr hfiles

theorem key_mem_insertAll (k : List (ℕ ×ₗ String)) :
    k ∈ (insertAll added files).map Path.key ↔
      k ∈ added.map Path.key ∨ k ∈ files.map Path.key := by
  induction added generalizing files with
  | nil => simp [insertAll]
  | cons p rest ih =>
    rw [insertAll, List.foldl_cons, ← insertAll, ih, key_mem_insertPath, List.map_cons,
      List.mem_cons, or_left_comm, or_assoc]

theorem increasing_insertAll (h : files.Pairwise (·.key < ·.key)) :
    (insertAll added files).Pairwise (·.key < ·.key) := by
  induction added generalizing files with
  | nil => exact h
  | cons p rest ih => exact ih _ (increasing_insertPath p h)

end All

/-- Increasing lists of files with the same keys differ only in how the files are spelled. -/
theorem components_eq_of_increasing {files files' : List Path}
    (h : files.Pairwise (·.key < ·.key)) (h' : files'.Pairwise (·.key < ·.key))
    (hkeys : ∀ k, k ∈ files.map Path.key ↔ k ∈ files'.map Path.key) :
    files.map Path.components = files'.map Path.components := by
  have hsorted : ∀ {l : List Path}, l.Pairwise (·.key < ·.key) → (l.map Path.key).SortedLT :=
    fun hl => List.sortedLT_iff_pairwise.mpr (List.pairwise_map.mpr hl)
  have heq := (hsorted h).eq_of_mem_iff (hsorted h') hkeys
  apply Component.key_injective.list_map.list_map
  rw [List.map_map, List.map_map]
  exact heq

end Candidates

end Codemod
