import Codemod.Proofs.Catalog.Compiled
import Codemod.Proofs.Catalog.Defects
import Mathlib.Data.List.Forall2
import Mathlib.Data.Nat.Find

/-! A catalog from its definitions.
What a definition is compiled to does not depend on the others; they can only take its name away.
So a catalog is compiled just if each definition is, alone, and their names are different, and the
first definition for which this does not hold decides the error, whatever follows. -/

namespace Codemod

namespace RuleSetDef

/-- Taken names turn a definition away and have no other effect. A definition without a name is
turned away first. -/
theorem compile_eq_of_taken (taken : List String) (d : RuleSetDef) :
    d.compile taken =
      if d.trimmedName ≠ "" ∧ d.trimmedName ∈ taken then .error (.duplicateRuleSet d.trimmedName)
      else d.compile [] := by
  have empty : d.trimmedName.isEmpty = true ↔ d.trimmedName = "" := String.isEmpty_iff
  simp only [compile, empty, List.contains_iff_mem, List.not_mem_nil, if_false]
  by_cases hname : d.trimmedName = ""
  · simp [hname]
  · by_cases htaken : d.trimmedName ∈ taken
    · simp [hname, htaken]
    · simp [hname, htaken]

end RuleSetDef

namespace Catalog

theorem compile_singleton (d : RuleSetDef) : compile [d] = (d.compile []).map ([·]) := by
  rw [compile, compileFrom]
  cases d.compile [] with
  | error e => rfl
  | ok s => rfl

theorem compile_singleton_eq_ok_iff {d : RuleSetDef} {s : RuleSet} :
    compile [d] = .ok [s] ↔ d.compile [] = .ok s := by
  rw [compile_singleton]
  cases d.compile [] with
  | error e => simp [Except.map]
  | ok s' => simp [Except.map]

theorem compile_singleton_eq_error_iff {d : RuleSetDef} {e : CatalogError} :
    compile [d] = .error e ↔ d.compile [] = .error e := by
  rw [compile_singleton]
  cases d.compile [] with
  | error e' => simp [Except.map]
  | ok s => simp [Except.map]

/-- A definition is compiled after others just if it is compiled alone and its name is free. -/
theorem compile_eq_ok_iff_of_taken {taken : List String} {d : RuleSetDef} {s : RuleSet} :
    d.compile taken = .ok s ↔ compile [d] = .ok [s] ∧ d.trimmedName ∉ taken := by
  rw [compile_singleton_eq_ok_iff, RuleSetDef.compile_eq_of_taken]
  split_ifs with h
  · simp [h.2]
  · constructor
    · intro hs
      refine ⟨hs, fun htaken => ?_⟩
      have unnamed : d.trimmedName = "" := by
        by_contra hname
        exact h ⟨hname, htaken⟩
      have hfails : Fails (d.compile []) := (d.fails_compile_iff []).mpr (.inl (.name unnamed))
      rw [hs] at hfails
      exact not_fails_ok s hfails
    · exact fun hs => hs.1

/-- The names of the definitions so far, the last of them first, are those that are taken. -/
def takenBy (defs : List RuleSetDef) : List String :=
  (defs.map RuleSetDef.trimmedName).reverse

@[simp] theorem mem_takenBy {defs : List RuleSetDef} {name : String} :
    name ∈ takenBy defs ↔ name ∈ defs.map RuleSetDef.trimmedName := by
  rw [takenBy, List.mem_reverse]

theorem compileFrom_eq_ok_iff {taken : List String} {defs : List RuleSetDef}
    {sets : List RuleSet} :
    compileFrom taken defs = .ok sets ↔
      List.Forall₂ (fun d s => compile [d] = .ok [s]) defs sets ∧
        (defs.map RuleSetDef.trimmedName).Nodup ∧ ∀ d ∈ defs, d.trimmedName ∉ taken := by
  induction defs generalizing taken sets with
  | nil =>
    have done : compileFrom taken [] = .ok sets ↔ sets = [] := by
      simp [compileFrom, eq_comm]
    simp [done]
  | cons d rest ih =>
    have step : compileFrom taken (d :: rest) = .ok sets ↔
        ∃ s others, d.compile taken = .ok s ∧
          compileFrom (d.trimmedName :: taken) rest = .ok others ∧ s :: others = sets := by
      simp only [compileFrom, bind_eq_ok_iff, exists_and_left, pure, Except.pure, Except.ok.injEq]
    rw [step, List.forall_mem_cons, List.map_cons, List.nodup_cons]
    simp only [ih, compile_eq_ok_iff_of_taken, List.forall₂_cons_left_iff, List.mem_cons, not_or]
    constructor
    · rintro ⟨s, others, ⟨hs, hfree⟩, ⟨hothers, hnodup, hrest⟩, hsets⟩
      have hnew : d.trimmedName ∉ rest.map RuleSetDef.trimmedName := by
        intro hmem
        obtain ⟨d', hd', heq⟩ := List.mem_map.mp hmem
        exact (hrest d' hd').1 heq
      exact ⟨⟨s, others, hs, hothers, hsets.symm⟩, ⟨hnew, hnodup⟩, hfree,
        fun d' hd' => (hrest d' hd').2⟩
    · rintro ⟨⟨s, others, hs, hothers, hsets⟩, ⟨hnew, hnodup⟩, hfree, hrest⟩
      refine ⟨s, others, ⟨hs, hfree⟩, ⟨hothers, hnodup, fun d' hd' => ⟨?_, hrest d' hd'⟩⟩,
        hsets.symm⟩
      exact fun heq => hnew (List.mem_map.mpr ⟨d', hd', heq⟩)

/-- The definitions after some others are compiled with the names of these taken. -/
theorem compileFrom_append (taken : List String) (front back : List RuleSetDef) :
    compileFrom taken (front ++ back) =
      (compileFrom taken front >>= fun sets =>
        (compileFrom (takenBy front ++ taken) back).map (sets ++ ·)) := by
  induction front generalizing taken with
  | nil =>
    cases h : compileFrom taken back with
    | error e => simp [takenBy, compileFrom, h, bind, Except.bind, Except.map]
    | ok sets => simp [takenBy, compileFrom, h, bind, Except.bind, Except.map]
  | cons d rest ih =>
    have names : takenBy (d :: rest) ++ taken = takenBy rest ++ d.trimmedName :: taken := by
      simp [takenBy]
    rw [List.cons_append, compileFrom, compileFrom, names]
    cases d.compile taken with
    | error e => rfl
    | ok s =>
      simp only [bind, Except.bind, ih]
      cases compileFrom (d.trimmedName :: taken) rest with
      | error e => rfl
      | ok sets =>
        cases compileFrom (takenBy rest ++ d.trimmedName :: taken) back with
        | error e => rfl
        | ok others => rfl

/-- An error stands, whatever follows. -/
theorem compile_append_of_error {defs : List RuleSetDef} {e : CatalogError}
    (h : compile defs = .error e) (more : List RuleSetDef) :
    compile (defs ++ more) = .error e := by
  rw [compile] at h
  rw [compile, compileFrom_append, h]
  rfl

theorem compile_concat {front : List RuleSetDef} {sets : List RuleSet}
    (h : compile front = .ok sets) (d : RuleSetDef) :
    compile (front ++ [d]) = (d.compile (takenBy front)).map fun s => sets ++ [s] := by
  rw [compile] at h
  rw [compile, compileFrom_append, h, compileFrom, List.append_nil]
  cases d.compile (takenBy front) with
  | error e => rfl
  | ok s => rfl

/-- The definitions up to the one at a position cannot be compiled, and those before it can. -/
def LeastFailing (defs : List RuleSetDef) (k : Nat) : Prop :=
  Fails (compile (defs.take (k + 1))) ∧ ∀ j < k, ¬ Fails (compile (defs.take (j + 1)))

theorem exists_leastFailing {defs : List RuleSetDef} (h : Fails (compile defs)) :
    ∃ k d, defs[k]? = some d ∧ LeastFailing defs k := by
  have some_prefix : ∃ k, Fails (compile (defs.take (k + 1))) := by
    refine ⟨defs.length, ?_⟩
    rwa [List.take_of_length_le (Nat.le_succ _)]
  have least : LeastFailing defs (Nat.find some_prefix) :=
    ⟨Nat.find_spec some_prefix, fun j hj => Nat.find_min some_prefix hj⟩
  generalize Nat.find some_prefix = k at least
  have inside : k < defs.length := by
    by_contra beyond
    have whole : ∀ j, defs.length ≤ j → defs.take j = defs :=
      fun j hj => List.take_of_length_le hj
    cases k with
    | zero =>
      have hnil : defs = [] := List.eq_nil_of_length_eq_zero (by omega)
      subst hnil
      exact absurd h (not_fails_ok [])
    | succ j =>
      apply least.2 j (Nat.lt_succ_self j)
      rwa [whole (j + 1) (by omega)]
  exact ⟨k, defs[k], List.getElem?_eq_getElem inside, least⟩

/-- What is reported is the defect of the first definition that cannot be compiled. -/
theorem compile_at_leastFailing {defs : List RuleSetDef} {e : CatalogError}
    (he : compile defs = .error e) {k : Nat} {d : RuleSetDef} (hd : defs[k]? = some d)
    (h : LeastFailing defs k) : d.compile (takenBy (defs.take k)) = .error e := by
  have before : ∃ sets, compile (defs.take k) = .ok sets := by
    cases k with
    | zero => exact ⟨[], rfl⟩
    | succ j => exact (fails_or_ok _).resolve_left (h.2 j (Nat.lt_succ_self j))
  obtain ⟨sets, hsets⟩ := before
  have upTo : compile (defs.take (k + 1)) =
      (d.compile (takenBy (defs.take k))).map fun s => sets ++ [s] := by
    rw [List.take_add_one, hd, Option.toList_some, compile_concat hsets]
  cases hcompile : d.compile (takenBy (defs.take k)) with
  | ok s =>
    have hfails := h.1
    rw [upTo, hcompile] at hfails
    exact absurd hfails (not_fails_ok _)
  | error e' =>
    rw [hcompile] at upTo
    have whole := compile_append_of_error upTo (defs.drop (k + 1))
    rw [List.take_append_drop, he] at whole
    rw [Except.error.inj whole]

theorem compile_eq_ok_iff {defs : List RuleSetDef} {sets : List RuleSet} :
    compile defs = .ok sets ↔
      List.Forall₂ (fun d s => compile [d] = .ok [s]) defs sets ∧
        (defs.map RuleSetDef.trimmedName).Nodup := by
  rw [compile, compileFrom_eq_ok_iff]
  simp

theorem exists_forall₂_iff {α β : Type} {related : α → β → Prop} {as : List α} :
    (∃ bs, List.Forall₂ related as bs) ↔ ∀ a ∈ as, ∃ b, related a b := by
  induction as with
  | nil => simp
  | cons a rest ih =>
    rw [List.forall_mem_cons, ← ih]
    constructor
    · rintro ⟨_, hrelated⟩
      cases hrelated with
      | cons hfirst hrest => exact ⟨⟨_, hfirst⟩, _, hrest⟩
    · rintro ⟨⟨b, hfirst⟩, bs, hrest⟩
      exact ⟨b :: bs, .cons hfirst hrest⟩

/-- What is related item by item is still so after both lists are reordered alike. -/
theorem exists_forall₂_of_perm {α β : Type} {related : α → β → Prop} {as as' : List α}
    (h : as.Perm as') {bs : List β} (hrelated : List.Forall₂ related as bs) :
    ∃ bs', List.Forall₂ related as' bs' ∧ (as.zip bs).Perm (as'.zip bs') := by
  induction h generalizing bs with
  | nil => exact ⟨bs, hrelated, .refl _⟩
  | cons a _ ih =>
    cases hrelated with
    | cons hfirst hrest =>
      obtain ⟨bs', hrest', hperm⟩ := ih hrest
      exact ⟨_ :: bs', .cons hfirst hrest', hperm.cons _⟩
  | swap a a' _ =>
    cases hrelated with
    | cons hfirst htail =>
      cases htail with
      | cons hsecond hrest =>
        exact ⟨_, .cons hsecond (.cons hfirst hrest), .swap _ _ _⟩
  | trans _ _ ih ih' =>
    obtain ⟨bs', hrelated', hperm⟩ := ih hrelated
    obtain ⟨bs'', hrelated'', hperm'⟩ := ih' hrelated'
    exact ⟨bs'', hrelated'', hperm.trans hperm'⟩

/-- A catalog is compiled just if every definition is, alone, and their names are different; the
result is that of each, in order, and is reordered with the definitions. Else the error is that of
the first definition which those before it do not go with: its name is taken, or it has a defect
of its own. What follows does not change the error. -/
theorem compile_one_by_one (defs : List RuleSetDef) :
    ((∃ sets, compile defs = .ok sets) ↔
      (∀ d ∈ defs, ∃ s, compile [d] = .ok [s]) ∧
        (defs.map RuleSetDef.trimmedName).Nodup) ∧
    (∀ sets, compile defs = .ok sets →
      List.Forall₂ (fun d s => compile [d] = .ok [s]) defs sets ∧
      ∀ defs', defs.Perm defs' →
        ∃ sets', compile defs' = .ok sets' ∧ (defs.zip sets).Perm (defs'.zip sets')) ∧
    ∀ e, compile defs = .error e →
      (∃ k d, defs[k]? = some d ∧ LeastFailing defs k ∧
        if d.trimmedName ≠ "" ∧ d.trimmedName ∈ (defs.take k).map RuleSetDef.trimmedName then
          e = .duplicateRuleSet d.trimmedName
        else compile [d] = .error e) ∧
      ∀ more, compile (defs ++ more) = .error e := by
  refine ⟨?_, fun sets hsets => ?_, fun e he => ⟨?_, compile_append_of_error he⟩⟩
  · rw [exists_congr fun sets => compile_eq_ok_iff, exists_and_right, exists_forall₂_iff]
  · have both := compile_eq_ok_iff.mp hsets
    refine ⟨both.1, fun defs' hperm => ?_⟩
    obtain ⟨sets', hsets', hzip⟩ := exists_forall₂_of_perm hperm both.1
    have hnodup : (defs'.map RuleSetDef.trimmedName).Nodup :=
      (hperm.map RuleSetDef.trimmedName).nodup_iff.mp both.2
    exact ⟨sets', compile_eq_ok_iff.mpr ⟨hsets', hnodup⟩, hzip⟩
  · obtain ⟨k, d, hd, hleast⟩ := exists_leastFailing ⟨e, he⟩
    have herror := compile_at_leastFailing he hd hleast
    refine ⟨k, d, hd, hleast, ?_⟩
    rw [RuleSetDef.compile_eq_of_taken] at herror
    simp only [mem_takenBy] at herror
    split_ifs at herror ⊢ with htaken
    · exact (Except.error.inj herror).symm
    · exact compile_singleton_eq_error_iff.mpr herror

/-- Two definitions in either order; with a third that has no rules, the name of the first and
blanks around it, of which only the name is reported. -/
theorem compile_one_by_one_three :
    let rules : List RuleDef := [⟨some "x", none, ""⟩]
    let first : RuleSetDef := ⟨"first", none, none, rules⟩
    let second : RuleSetDef := ⟨" second", none, some [".ts"], rules⟩
    let third : RuleSetDef := ⟨" first ", none, none, []⟩
    let set : RuleSet := ⟨"first", [.literal ['x'] []], none, none⟩
    let set' : RuleSet := ⟨"second", [.literal ['x'] []], none, some ["ts"]⟩
    compile [first, second] = .ok [set, set'] ∧
      (∃ sets, compile [second, first] = .ok sets ∧
        [(first, set), (second, set')].Perm ([second, first].zip sets)) ∧
      compile [third] = .error (.noRules "first") ∧
      compile [first, second, third] = .error (.duplicateRuleSet "first") ∧
      ∀ more, compile ([first, second, third] ++ more) = .error (.duplicateRuleSet "first") := by
  intro rules first second third set set'
  have hsets : compile [first, second] = .ok [set, set'] := by decide +kernel
  have herror : compile [first, second, third] = .error (.duplicateRuleSet "first") := by
    decide +kernel
  refine ⟨hsets, ?_, by decide +kernel, herror, ?_⟩
  · exact ((compile_one_by_one [first, second]).2.1 _ hsets).2 _ (.swap _ _ _)
  · exact ((compile_one_by_one [first, second, third]).2.2 _ herror).2

end Catalog

end Codemod
