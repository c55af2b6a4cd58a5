import Codemod.Pattern
import Mathlib.Tactic.Common

/-! The groups of a pattern.
Simplifying an expression may lose groups and makes none, so every group of a pattern was opened by a
parenthesis of its source. Its number fits 32 bits, and its name, if it has one, does not begin with
a digit. -/

namespace Codemod

namespace Unicode.RunReader

/-- A table is read from its start: what was read stays in front. -/
theorem runs_step (r : RunReader) (c : Char) : r.runs <:+ (r.step c).runs := by
  rw [step]
  split_ifs
  · exact List.suffix_cons _ r.runs
  · exact List.suffix_rfl
  · exact List.suffix_rfl

theorem runs_foldl_step (cs : List Char) (r : RunReader) :
    r.runs <:+ (cs.foldl step r).runs := by
  induction cs generalizing r with
  | nil => exact List.suffix_rfl
  | cons c cs ih => exact (runs_step r c).trans (ih (r.step c))

theorem runs_line (line : List Char) (r : RunReader) :
    r.runs <:+ (line.foldl step r).close.runs :=
  (runs_foldl_step line r).trans (List.suffix_cons _ _)

end Unicode.RunReader

namespace Unicode

theorem runs_readRuns (front back : List Char) (lines : List String) :
    (front.foldl RunReader.step {}).runs.reverse <+:
      (readRuns (String.ofList (front ++ back) :: lines)).runs := by
  have hlines : ∀ (lines : List String) (r : RunReader), r.runs <:+
      (lines.foldl (fun r line => (line.toList.foldl RunReader.step r).close) r).runs := by
    intro lines
    induction lines with
    | nil => exact fun r => List.suffix_rfl
    | cons line lines ih => exact fun r => (RunReader.runs_line line.toList r).trans (ih _)
  rw [readRuns, List.reverse_prefix, List.foldl_cons, String.toList_ofList, List.foldl_append]
  exact (RunReader.runs_line back _).trans (hlines lines _)

/-- The first letter of all is a capital A. -/
theorem mem_alphabetic_of_lt {c : Char} (h : c.toNat < 65) : alphabetic.mem c = false := by
  obtain ⟨back, lines, hdata⟩ : ∃ back lines,
      alphabeticData = String.ofList ("41-5a ".toList ++ back) :: lines :=
    ⟨_, _, rfl⟩
  obtain ⟨runs, hruns⟩ := runs_readRuns "41-5a ".toList back lines
  have hfirst : ("41-5a ".toList.foldl RunReader.step {}).runs.reverse = [(65, 90)] := by decide
  rw [CharSet.mem, alphabetic, hdata, ← hruns, hfirst, List.singleton_append, CharSet.inRuns]
  simp [Nat.not_le.mpr h]

end Unicode

namespace Pattern

namespace Expr

@[simp] theorem groups_items (e : Expr) : e.items.flatMap groups = e.groups := by
  induction e with
  | cat first rest _ ih => rw [items, List.flatMap_cons, ih, groups]
  | _ => simp [items, groups]

@[simp] theorem groups_branches (e : Expr) : e.branches.flatMap groups = e.groups := by
  induction e with
  | alt first rest _ ih => rw [branches, List.flatMap_cons, ih, groups]
  | _ => simp [branches, groups]

theorem groups_ofItems (parts : List Expr) : (ofItems parts).groups = parts.flatMap groups := by
  induction parts with
  | nil => rfl
  | cons e parts ih =>
    cases parts with
    | nil => simp [ofItems]
    | cons e' parts =>
      rw [List.flatMap_cons, ← ih]
      rfl

theorem groups_ofBranches (parts : List Expr) :
    (ofBranches parts).groups = parts.flatMap groups := by
  induction parts with
  | nil => rfl
  | cons e parts ih =>
    cases parts with
    | nil => simp [ofBranches]
    | cons e' parts =>
      rw [List.flatMap_cons, ← ih]
      rfl

theorem groups_consItem (e : Expr) (rest : List Expr) :
    (consItem e rest).flatMap groups = e.groups ++ rest.flatMap groups := by
  unfold consItem
  split
  · simp [groups]
  · rfl

theorem groups_concat (parts : List Expr) : (concat parts).groups = parts.flatMap groups := by
  have hjoined : ∀ items : List Expr,
      (items.foldr consItem []).flatMap groups = items.flatMap groups := by
    intro items
    induction items with
    | nil => rfl
    | cons e items ih => rw [List.foldr_cons, groups_consItem, ih, List.flatMap_cons]
  rw [concat, groups_ofItems, hjoined, List.flatMap_assoc]
  simp only [groups_items]

@[simp] theorem groups_ofSet (s : CharSet) : (ofSet s).groups = [] := by
  rw [ofSet]
  split <;> rfl

theorem commonItems_subset (as bs : List Expr) : commonItems as bs ⊆ as := by
  induction as generalizing bs with
  | nil => simp [commonItems]
  | cons a as ih =>
    cases bs with
    | nil => simp [commonItems]
    | cons b bs =>
      rw [commonItems]
      split_ifs
      · exact List.cons_subset_cons a (ih bs)
      · exact List.nil_subset _

/-- What all branches begin with is a part of the first one. -/
theorem groups_sharedItems {parts : List Expr} {g : Nat × Option String}
    (h : g ∈ (sharedItems parts).flatMap groups) : ∃ e ∈ parts, g ∈ e.groups := by
  have hshared : ∀ rest shared : List Expr,
      rest.foldl (fun shared b => commonItems shared b.items) shared ⊆ shared := by
    intro rest
    induction rest with
    | nil => exact fun shared => List.Subset.refl shared
    | cons b rest ih =>
      exact fun shared => List.Subset.trans (ih _) (commonItems_subset shared b.items)
  cases parts with
  | nil => simp [sharedItems] at h
  | cons e rest =>
    rw [sharedItems] at h
    split_ifs at h
    · obtain ⟨item, hitem, hg⟩ := List.mem_flatMap.mp h
      refine ⟨e, List.mem_cons_self, ?_⟩
      rw [← groups_items]
      exact List.mem_flatMap.mpr ⟨item, hshared rest e.items hitem, hg⟩
    · simp at h

theorem groups_dropItems {e : Expr} {n : Nat} {g : Nat × Option String}
    (h : g ∈ (concat (e.items.drop n)).groups) : g ∈ e.groups := by
  rw [groups_concat] at h
  obtain ⟨item, hitem, hg⟩ := List.mem_flatMap.mp h
  rw [← groups_items]
  exact List.mem_flatMap.mpr ⟨item, List.mem_of_mem_drop hitem, hg⟩

theorem groups_alternationWith (fuel : Nat) {parts : List Expr} {g : Nat × Option String}
    (h : g ∈ (alternationWith fuel parts).groups) : ∃ e ∈ parts, g ∈ e.groups := by
  induction fuel generalizing parts with
  | zero =>
    rw [alternationWith, groups_ofBranches] at h
    exact List.mem_flatMap.mp h
  | succ fuel ih =>
    -- Flattening the branches first keeps their groups.
    suffices hflat : ∃ e ∈ parts.flatMap branches, g ∈ e.groups by
      have hall := List.mem_flatMap.mpr hflat
      rw [List.flatMap_assoc] at hall
      simpa only [groups_branches, List.mem_flatMap] using hall
    rw [alternationWith] at h
    revert h
    generalize parts.flatMap branches = parts
    intro h
    split_ifs at h
    · rw [groups_ofBranches] at h
      exact List.mem_flatMap.mp h
    · split at h
      · -- characters, which are joined to a set
        simp at h
      · split at h
        · simp at h
        · dsimp only at h
          split_ifs at h
          · rw [groups_ofBranches] at h
            exact List.mem_flatMap.mp h
          · -- a shared beginning, moved to the front
            rw [groups_concat, List.flatMap_append, List.mem_append, List.flatMap_singleton] at h
            rcases h with h | h
            · exact groups_sharedItems h
            · obtain ⟨tail, htail, hg⟩ := ih h
              obtain ⟨e, he, rfl⟩ := List.mem_map.mp htail
              exact ⟨e, he, groups_dropItems hg⟩

theorem groups_repetition {least : Nat} {most : Option Nat} {greedy : Bool} {body : Expr}
    {g : Nat × Option String} (h : g ∈ (repetition least most greedy body).groups) :
    g ∈ body.groups := by
  rw [repetition] at h
  split_ifs at h <;> simp_all [groups]

end Expr

theorem groups_primitive {f : Flags} {prim : Primitive} {e : Expr} (h : prim.expr? f = some e) :
    e.groups = [] := by
  have hchar : ∀ c, (f.charExpr c).groups = [] := by
    intro c
    rw [Flags.charExpr]
    split_ifs
    · exact Expr.groups_ofSet _
    · rfl
  have hset : ∀ {s : Option CharSet}, s.map Expr.ofSet = some e → e.groups = [] := by
    intro s hs
    obtain ⟨chars, -, rfl⟩ := Option.map_eq_some_iff.mp hs
    exact Expr.groups_ofSet chars
  cases prim with
  | char c =>
    cases h
    exact hchar c
  | byte c =>
    rw [Primitive.expr?] at h
    split_ifs at h
    cases h
    exact hchar c
  | dot => exact hset h
  | look l =>
    cases h
    rfl
  | named name negated => exact hset h
  | property chars negated => exact hset h

/-- The group has a number of 32 bits and no name or one that a name may begin like. -/
structure IsGroup (g : Nat × Option String) : Prop where
  number : g.1 ≤ groupLimit
  name : ∀ name ∈ g.2, ∃ c more, name.toList = c :: more ∧ isNameStart c

theorem groupName_start {cs rest : List Char} {name : String}
    (h : groupName cs = some (name, rest)) : ∃ c more, name.toList = c :: more ∧ isNameStart c := by
  unfold groupName at h
  dsimp only at h
  split at h
  · next c more hdrop hname =>
    split_ifs at h with hvalid
    cases h
    rw [String.toList_ofList, hname]
    exact ⟨c, more, rfl, (Bool.and_eq_true_iff.mp hvalid).1⟩
  · cases h

theorem Scope.isGroup_named {s s' : Scope} {cs rest : List Char} {index : Nat}
    {name : Option String} (h : s.named cs = some (index, name, s', rest)) :
    IsGroup (index, name) := by
  obtain ⟨⟨found, tail⟩, hname, h⟩ := Option.bind_eq_some_iff.mp h
  split_ifs at h with hrefused
  cases h
  simp only [Bool.or_eq_true, decide_eq_true_eq, not_or] at hrefused
  refine ⟨Nat.lt_of_not_le hrefused.1, fun name hmem => ?_⟩
  cases hmem
  exact groupName_start hname

/-- Every numbered group is opened by a parenthesis. -/
theorem isGroup_opening {f g : Flags} {s s' : Scope} {cs rest : List Char}
    {index : Nat × Option String} (h : opening f s cs = some (.group (some index) g, s', rest)) :
    IsGroup index := by
  have hnamed : ∀ tail, (s.named tail).map (fun r =>
      ((.group (some (r.1, r.2.1)) f : Opening), r.2.2.1, r.2.2.2)) =
        some (.group (some index) g, s', rest) → IsGroup index := by
    intro tail hmap
    obtain ⟨⟨number, name, scope, tail'⟩, hscope, heq⟩ := Option.map_eq_some_iff.mp hmap
    cases heq
    exact Scope.isGroup_named hscope
  unfold opening at h
  split at h
  · cases h
  · cases h
  · cases h
  · cases h
  · exact hnamed _ h
  · exact hnamed _ h
  · split at h
    · split_ifs at h
      cases h
    · cases h
    · cases h
  · split_ifs at h with hlimit
    cases h
    exact ⟨Nat.lt_of_not_le hlimit, fun name hname => by cases hname⟩

/-- All groups of a piece have proper numbers and names. -/
def Piece.Proper (p : Piece) : Prop :=
  ∀ g ∈ p.expr.groups, IsGroup g

namespace Piece

theorem proper_of_nil {p : Piece} (h : p.expr.groups = []) : p.Proper := by
  simp [Proper, h]

theorem proper_sequence {pieces : List Piece} (h : ∀ p ∈ pieces, p.Proper) :
    (sequence pieces).Proper := by
  match pieces with
  | [] => exact proper_of_nil rfl
  | [p] => exact h p (by simp)
  | p :: q :: others =>
    intro g (hg : g ∈ (Expr.concat ((p :: q :: others).reverse.map (·.expr))).groups)
    rw [Expr.groups_concat] at hg
    obtain ⟨e, he, hg⟩ := List.mem_flatMap.mp hg
    obtain ⟨piece, hpiece, rfl⟩ := List.mem_map.mp he
    exact h piece (List.mem_reverse.mp hpiece) g hg

theorem proper_choice {pieces : List Piece} (h : ∀ p ∈ pieces, p.Proper) :
    (choice pieces).Proper := by
  match pieces with
  | [] => exact proper_of_nil rfl
  | [p] => exact h p (by simp)
  | p :: q :: others =>
    intro g hg
    obtain ⟨e, he, hg⟩ := Expr.groups_alternationWith _ hg
    obtain ⟨piece, hpiece, rfl⟩ := List.mem_map.mp he
    exact h piece (List.mem_reverse.mp hpiece) g hg

theorem proper_enclose {index : Option (Nat × Option String)} {body : Piece}
    (hindex : ∀ g ∈ index, IsGroup g) (hbody : body.Proper) : (enclose index body).Proper := by
  cases index with
  | none => exact hbody
  | some g =>
    intro g' hg'
    rcases List.mem_cons.mp hg' with rfl | hg'
    · exact hindex g rfl
    · exact hbody g' hg'

end Piece

/-- Reading keeps to groups with proper numbers and names. -/
theorem proper_readBranches (fuel : Nat) {f : Flags} {s s' : Scope} {pieces done : List Piece}
    {cs rest : List Char} {piece : Piece} (hpieces : ∀ p ∈ pieces, p.Proper)
    (hdone : ∀ p ∈ done, p.Proper)
    (h : readBranches fuel f s pieces done cs = some (piece, s', rest)) : piece.Proper := by
  induction fuel generalizing f s s' pieces done cs rest piece with
  | zero => cases h
  | succ fuel ih =>
    have hbranches : ∀ p ∈ Piece.sequence pieces :: done, p.Proper :=
      List.forall_mem_cons.mpr ⟨Piece.proper_sequence hpieces, hdone⟩
    have hpush : ∀ p : Piece, p.Proper → ∀ q ∈ p :: pieces, q.Proper :=
      fun p hp => List.forall_mem_cons.mpr ⟨hp, hpieces⟩
    rw [readBranches] at h
    split at h
    · cases h
      exact Piece.proper_choice hbranches
    · split_ifs at h
      · -- a closing parenthesis
        cases h
        exact Piece.proper_choice hbranches
      · -- another branch
        exact ih (by simp) hbranches h
      · -- a parenthesis that sets flags or opens a group
        obtain ⟨⟨opened, scope, tail⟩, hopening, h⟩ := Option.bind_eq_some_iff.mp h
        cases opened with
        | flags g => exact ih (hpush _ (Piece.proper_of_nil rfl)) hdone h
        | group index g =>
          obtain ⟨⟨body, inner, after⟩, hbody, h⟩ := Option.bind_eq_some_iff.mp h
          have hproper := ih (by simp) (by simp) hbody
          split at h
          · next heq =>
            cases heq
            refine ih (hpush _ ?_) hdone h
            exact Piece.proper_enclose (fun g hg => isGroup_opening (hg ▸ hopening)) hproper
          · cases h
      · -- a set of characters
        obtain ⟨r, -, h⟩ := Option.bind_eq_some_iff.mp h
        exact ih (hpush _ (Piece.proper_of_nil (Expr.groups_ofSet _))) hdone h
      · -- a repetition of the last piece
        split at h
        · cases h
        · next p before =>
          split_ifs at h
          obtain ⟨r, -, h⟩ := Option.bind_eq_some_iff.mp h
          rw [List.forall_mem_cons] at hpieces
          refine ih (List.forall_mem_cons.mpr ⟨fun g hg => ?_, hpieces.2⟩) hdone h
          exact hpieces.1 g (Expr.groups_repetition hg)
      · -- a single character, a class or a place
        obtain ⟨r, -, h⟩ := Option.bind_eq_some_iff.mp h
        obtain ⟨e, he, h⟩ := Option.bind_eq_some_iff.mp h
        exact ih (hpush _ (Piece.proper_of_nil (groups_primitive he))) hdone h

theorem isGroup_of_compile {source : List Char} {p : Pattern} (h : compile source = .ok p)
    {g : Nat × Option String} (hg : g ∈ p.expr.groups) : IsGroup g := by
  have hparse : parse source = some p.expr := by
    rw [compile] at h
    split at h
    · cases h
    · next e he =>
      split_ifs at h
      cases h
      exact he
  rw [parse] at hparse
  split at hparse
  · next piece scope hread =>
    split_ifs at hparse
    rw [← Option.some.inj hparse] at hg
    exact proper_readBranches _ (by simp) (by simp) hread g hg
  · cases hparse

theorem groupCount_eq (p : Pattern) :
    p.groupCount = (p.expr.groups.map (·.1)).max?.getD 0 + 1 := by
  rw [groupCount, List.foldl_max, Nat.zero_max]

theorem lt_groupCount {p : Pattern} {g : Nat × Option String} (hg : g ∈ p.expr.groups) :
    g.1 < p.groupCount := by
  have hmem : g.1 ∈ p.expr.groups.map (·.1) := List.mem_map_of_mem hg
  rw [groupCount_eq]
  cases hmax : (p.expr.groups.map (·.1)).max? with
  | none =>
    rw [List.max?_eq_none_iff.mp hmax] at hmem
    cases hmem
  | some greatest => exact Nat.lt_succ_of_le ((List.max?_eq_some_iff.mp hmax).2 g.1 hmem)

theorem groupCount_le_of_compile {source : List Char} {p : Pattern} (h : compile source = .ok p) :
    p.groupCount ≤ groupLimit + 1 := by
  rw [groupCount_eq]
  cases hmax : (p.expr.groups.map (·.1)).max? with
  | none => exact Nat.le_add_left 1 groupLimit
  | some greatest =>
    obtain ⟨g, hg, rfl⟩ := List.mem_map.mp (List.max?_eq_some_iff.mp hmax).1
    exact Nat.succ_le_succ (isGroup_of_compile h hg).number

theorem mem_groups_of_groupNamed {p : Pattern} {name : String} {n : Nat}
    (h : p.groupNamed? name = some n) : (n, some name) ∈ p.expr.groups := by
  obtain ⟨g, hfind, rfl⟩ := Option.map_eq_some_iff.mp h
  have hname : g.2 = some name := by simpa using List.find?_some hfind
  rw [← hname]
  exact List.mem_of_find?_eq_some hfind

theorem isSome_groupNamed_iff {p : Pattern} {name : String} :
    (p.groupNamed? name).isSome ↔ ∃ n, (n, some name) ∈ p.expr.groups := by
  constructor
  · intro h
    obtain ⟨n, hn⟩ := Option.isSome_iff_exists.mp h
    exact ⟨n, mem_groups_of_groupNamed hn⟩
  · rintro ⟨n, hn⟩
    rw [groupNamed?, Option.isSome_map, List.find?_isSome]
    exact ⟨_, hn, by simp⟩

theorem isNameStart_of_isDigit {c : Char} (h : c.isDigit) : isNameStart c = false := by
  have hnine : '9'.toNat = 57 := by decide
  rw [Char.isDigit_iff_toNat] at h
  have hletter : Unicode.alphabetic.mem c = false := Unicode.mem_alphabetic_of_lt (by omega)
  have hne : c ≠ '_' := by
    rintro rfl
    exact absurd h (by decide)
  simp [isNameStart, hletter, hne]

/-- No group is named by a text that begins with a digit. -/
theorem groupNamed?_of_digit {source : List Char} {p : Pattern} (h : compile source = .ok p)
    {c : Char} (hc : c.isDigit) (more : List Char) :
    p.groupNamed? (String.ofList (c :: more)) = none := by
  rw [← Option.not_isSome_iff_eq_none, isSome_groupNamed_iff]
  rintro ⟨n, hn⟩
  obtain ⟨d, rest, hname, hstart⟩ := (isGroup_of_compile h hn).name _ rfl
  rw [String.toList_ofList, List.cons.injEq] at hname
  rw [← hname.1, isNameStart_of_isDigit hc] at hstart
  cases hstart

end Pattern

end Codemod
