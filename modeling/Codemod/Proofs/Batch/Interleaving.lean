import Codemod.Batch.Workers
import Codemod.Proofs.Batch.Process
import Mathlib.Data.List.Pairwise

/-! Paths processed at the same time.
Workers may take the steps of different paths in any order. If the paths lead to different files
with nothing beside them, the order does not matter: each path has the event that it has alone, and
each file that is changed holds what it would hold alone. Taking both steps of one path after the
other is one such order. -/

namespace Codemod.Batch

open FileTree

namespace Schedule

/-- All files are read before one is committed. -/
def allRead : Schedule where
  turns count := List.range count ++ List.range count
  complete count i hi := by
    have once : 0 < (List.range count).count i := List.count_pos_iff.mpr (List.mem_range.mpr hi)
    rw [List.count_append]
    omega

/-- All files are read before one is committed, both from the last one on. -/
def lastFirst : Schedule where
  turns count := (allRead.turns count).reverse
  complete count i hi := by
    rw [List.count_reverse]
    exact allRead.complete count i hi

end Schedule

/-- The steps that were taken on a path. -/
def Work.steps : Work → Nat
  | .waiting => 0
  | .loaded _ => 1
  | .done _ => 2

/-- Both steps were taken on every path. -/
def Running.Complete {σ : Type} (r : Running σ) : Prop :=
  ∀ item ∈ r.work, item.2.steps = 2

section Progress

variable {σ : Type} {store : Store σ} {sets : List RuleSet} {o : Options}

theorem steps_next (p : Path) (w : Work) (s : σ) :
    (w.next store sets o p s).1.steps = min 2 (w.steps + 1) := by
  cases w <;> rfl

theorem turn_of_some {r : Running σ} {i : Nat} {p : Path} {w : Work}
    (h : r.work[i]? = some (p, w)) :
    r.turn store sets o i =
      ⟨(w.next store sets o p r.state).2, r.work.set i (p, (w.next store sets o p r.state).1)⟩ := by
  rw [Running.turn, h]

/-- A turn concerns the work at its own position. -/
theorem getElem?_work_turn (r : Running σ) (i j : Nat) :
    (r.turn store sets o i).work[j]? =
      if i = j then
        (r.work[j]?).map fun item => (item.1, (item.2.next store sets o item.1 r.state).1)
      else r.work[j]? := by
  cases h : r.work[i]? with
  | none =>
    have idle : r.turn store sets o i = r := by rw [Running.turn, h]
    by_cases hij : i = j
    · subst hij
      simp [idle, h]
    · simp [idle, hij]
  | some item =>
    obtain ⟨hi, -⟩ := List.getElem?_eq_some_iff.mp h
    rw [turn_of_some h]
    by_cases hij : i = j
    · subst hij
      rw [List.getElem?_set_self hi, h, if_pos rfl]
      rfl
    · rw [List.getElem?_set_ne hij, if_neg hij]

theorem steps_turn {r : Running σ} {j : Nat} {p : Path} {w : Work} (h : r.work[j]? = some (p, w))
    (i : Nat) :
    ∃ w', (r.turn store sets o i).work[j]? = some (p, w') ∧
      w'.steps = min 2 (w.steps + if i = j then 1 else 0) := by
  rw [getElem?_work_turn, h]
  by_cases hij : i = j
  · refine ⟨(w.next store sets o p r.state).1, by simp [hij], ?_⟩
    rw [steps_next, if_pos hij]
  · refine ⟨w, by simp [hij], ?_⟩
    rw [if_neg hij]
    cases w <;> rfl

/-- As many steps were taken on a path as it had turns, up to the second. -/
theorem steps_interleave {r : Running σ} {j : Nat} {p : Path} {w : Work}
    (h : r.work[j]? = some (p, w)) (schedule : List Nat) :
    ∃ w', (r.interleave store sets o schedule).work[j]? = some (p, w') ∧
      w'.steps = min 2 (w.steps + schedule.count j) := by
  induction schedule generalizing r w with
  | nil =>
    refine ⟨w, h, ?_⟩
    cases w <;> rfl
  | cons i rest ih =>
    obtain ⟨w₁, hwork₁, hsteps₁⟩ : ∃ w', (r.turn store sets o i).work[j]? = some (p, w') ∧ _ :=
      steps_turn h i
    obtain ⟨w₂, hwork₂, hsteps₂⟩ := ih hwork₁
    refine ⟨w₂, hwork₂, ?_⟩
    rw [hsteps₂, hsteps₁, List.count_cons]
    simp only [beq_iff_eq]
    omega

theorem paths_turn (r : Running σ) (i : Nat) :
    (r.turn store sets o i).work.map Prod.fst = r.work.map Prod.fst := by
  apply List.ext_getElem?
  intro j
  rw [List.getElem?_map, List.getElem?_map, getElem?_work_turn]
  split_ifs
  · rw [Option.map_map]
    rfl
  · rfl

theorem paths_interleave (r : Running σ) (turns : List Nat) :
    (r.interleave store sets o turns).work.map Prod.fst = r.work.map Prod.fst := by
  induction turns generalizing r with
  | nil => rfl
  | cons i rest ih => exact (ih (r.turn store sets o i)).trans (paths_turn r i)

theorem paths_start (paths : List Path) (s : σ) :
    (Running.start paths s).work.map Prod.fst = paths := by
  simp [Running.start, Function.comp_def]

/-- Every order in which each path has its two turns completes a batch. -/
theorem complete_interleave (store : Store σ) (sets : List RuleSet) (o : Options)
    {paths : List Path} (s : σ) {turns : List Nat}
    (hturns : ∀ i < paths.length, 2 ≤ turns.count i) :
    ((Running.start paths s).interleave store sets o turns).Complete := by
  rintro ⟨p, w⟩ hitem
  obtain ⟨i, hi⟩ := List.mem_iff_getElem?.mp hitem
  have hpath : paths[i]? = some p := by
    have hpaths : ((Running.start paths s).interleave store sets o turns).work.map Prod.fst =
        paths := (paths_interleave _ turns).trans (paths_start paths s)
    rw [← hpaths, List.getElem?_map, hi, Option.map_some]
  have hstart : (Running.start paths s).work[i]? = some (p, .waiting) := by
    simp [Running.start, hpath]
  obtain ⟨w', hwork, hsteps⟩ : ∃ w', _ = some (p, w') ∧ _ := steps_interleave hstart turns
  have hcount := hturns i (List.getElem?_eq_some_iff.mp hpath).1
  obtain rfl := (Prod.mk.inj (Option.some.inj (hi.symm.trans hwork))).2
  rw [hsteps, Nat.min_eq_left (Nat.le_add_left_of_le hcount)]

end Progress

section Sequential

variable {σ : Type} (store : Store σ) (sets : List RuleSet) (o : Options)

/-- Processes files in order. -/
def processAll : List Path → σ → List Event × σ
  | [], s => ([], s)
  | p :: rest, s =>
    let (event, s) := process store sets o p s
    let (events, s) := processAll rest s
    (event :: events, s)

theorem turn_turn (done rest : List (Path × Work)) (p : Path) (s : σ) :
    ((⟨s, done ++ (p, .waiting) :: rest⟩ : Running σ).turn store sets o done.length).turn
        store sets o done.length =
      ⟨(process store sets o p s).2, done ++ (p, .done (process store sets o p s).1) :: rest⟩ := by
  have hread : (⟨s, done ++ (p, .waiting) :: rest⟩ : Running σ).turn store sets o done.length =
      ⟨s, done ++ (p, .loaded (readSource store p s)) :: rest⟩ := by
    rw [turn_of_some (p := p) (w := .waiting) (by simp)]
    simp [Work.next]
  rw [hread, turn_of_some (p := p) (w := .loaded (readSource store p s)) (by simp)]
  simp [Work.next, process]

/-- Processing paths in order is taking turns one path after the other. -/
theorem interleave_sequential (paths : List Path) (done : List (Path × Work)) (s : σ) :
    let r : Running σ := ⟨s, done ++ paths.map fun p => (p, .waiting)⟩
    let final := r.interleave store sets o (sequential done.length paths.length)
    final.state = (processAll store sets o paths s).2 ∧
      final.events = (⟨s, done⟩ : Running σ).events ++ (processAll store sets o paths s).1 := by
  induction paths generalizing done s with
  | nil => simp [sequential, Running.interleave, processAll, Running.events]
  | cons p rest ih =>
    have schedule : sequential done.length (p :: rest).length =
        done.length :: done.length :: sequential (done.length + 1) rest.length := by
      simp [sequential, List.range'_succ]
    have tail := ih (done ++ [(p, .done (process store sets o p s).1)]) (process store sets o p s).2
    rw [List.length_append, List.length_singleton] at tail
    simp only [schedule, Running.interleave, List.foldl_cons, List.map_cons, turn_turn, processAll]
    simp only [Running.interleave, List.append_assoc, List.singleton_append] at tail
    refine ⟨tail.1, tail.2.trans ?_⟩
    simp [Running.events]

end Sequential

section Disk

variable {t : FileTree} {sets : List RuleSet} {o : Options}

/-- Two paths do not lead to the same file. -/
def Apart (t : FileTree) (p q : Path) : Prop :=
  ∀ loc, t.LeadsToFile p loc → ¬ t.LeadsToFile q loc

instance (t : FileTree) (p q : Path) : Decidable (Apart t p q) :=
  match h : t.resolve .follow p with
  | .error _ => .isTrue fun _ hleads => nomatch h.symm.trans hleads.1
  | .ok loc =>
    decidable_of_iff (t.IsFile loc → t.resolve .follow q ≠ .ok loc) <| by
      constructor
      · intro happart loc' hleads hother
        obtain rfl := Except.ok.inj (h.symm.trans hleads.1)
        exact happart hleads.2 hother.1
      · intro happart hfile hother
        exact happart loc ⟨h, hfile⟩ ⟨hother, hfile⟩

theorem Apart.symm {p q : Path} (h : Apart t p q) : Apart t q p :=
  fun loc hleads hother => h loc hother hleads

/-- Among paths that lead to different files, one leads to a file. -/
theorem eq_of_pairwise_apart {paths : List Path} (h : paths.Pairwise (Apart t)) {p q : Path}
    (hp : p ∈ paths) (hq : q ∈ paths) {loc : Location} (hleads : t.LeadsToFile p loc)
    (hother : t.LeadsToFile q loc) : p = q := by
  by_contra hne
  have hsymm : Std.Symm (Apart t) := ⟨fun _ _ => Apart.symm⟩
  exact h.forall hp hq hne loc hleads hother

/-- Paths lead to different files, and nothing stands beside these. -/
structure Independent (t : FileTree) (paths : List Path) : Prop where
  apart : paths.Pairwise (Apart t)
  clear : ∀ p ∈ paths, Clear t p

instance (t : FileTree) (paths : List Path) : Decidable (Independent t paths) :=
  decidable_of_iff (paths.Pairwise (Apart t) ∧ ∀ p ∈ paths, Clear t p)
    ⟨fun h => ⟨h.1, h.2⟩, fun h => ⟨h.apart, h.clear⟩⟩

theorem Independent.ne {paths : List Path} (h : Independent t paths) {i j : Nat} {p q : Path}
    (hp : paths[i]? = some p) (hq : paths[j]? = some q) (hij : i ≠ j) {loc : Location}
    (hleads : t.LeadsToFile p loc) : ¬ t.LeadsToFile q loc := by
  obtain ⟨hi, rfl⟩ := List.getElem?_eq_some_iff.mp hp
  obtain ⟨hj, rfl⟩ := List.getElem?_eq_some_iff.mp hq
  have ordered := List.pairwise_iff_getElem.mp h.apart
  rcases Nat.lt_or_gt_of_ne hij with hlt | hgt
  · exact ordered i j hi hj hlt loc hleads
  · exact fun hother => ordered j i hj hi hgt loc hother hleads

/-- A batch under way on a tree: each path was read as in that tree or has the event that it has
alone, the files of paths with a change hold what was revised, and nothing else has changed. -/
structure Consistent (t : FileTree) (sets : List RuleSet) (o : Options) (paths : List Path)
    (r : Running FileTree) : Prop where
  paths_eq : ∀ i : Nat, (r.work[i]?).map Prod.fst = paths[i]?
  shape : t.SameShape r.state
  work : ∀ {i : Nat} {p w}, r.work[i]? = some (p, w) → w = .waiting ∨
    w = .loaded (readSource Store.disk p t) ∨ w = .done (process Store.disk sets o p t).1
  rewritten : ∀ {i : Nat} {p event}, r.work[i]? = some (p, .done event) → event.result = .changed →
    ∀ {loc entry}, Revises t sets p loc entry → r.state.get? loc = some entry
  kept : ∀ {loc}, (∀ (i : Nat) p event, r.work[i]? = some (p, .done event) →
    event.result = .changed → ¬ t.LeadsToFile p loc) → r.state.get? loc = t.get? loc

theorem consistent_start (paths : List Path) (sets : List RuleSet) (o : Options) (t : FileTree) :
    Consistent t sets o paths (.start paths t) := by
  have waiting : ∀ {i : Nat} {p w}, (Running.start paths t).work[i]? = some (p, w) →
      w = .waiting := by
    intro i p w h
    simp only [Running.start, List.getElem?_map, Option.map_eq_some_iff] at h
    obtain ⟨q, -, hq⟩ := h
    exact (Prod.mk.inj hq).2.symm
  refine ⟨fun i => ?_, .refl t, fun h => .inl (waiting h), fun h => ?_, fun _ => rfl⟩
  · rw [← List.getElem?_map, paths_start]
  · cases waiting h

theorem getElem?_set_eq_some {work : List (Path × Work)} {i j : Nat} {item item' : Path × Work}
    (h : (work.set i item)[j]? = some item') :
    (i = j ∧ item' = item) ∨ (i ≠ j ∧ work[j]? = some item') := by
  rw [List.getElem?_set] at h
  split_ifs at h with hij hlen
  · exact .inl ⟨hij, (Option.some.inj h).symm⟩
  · exact .inr ⟨hij, h⟩

theorem ne_of_done {work : List (Path × Work)} {i j : Nat} {p q : Path} {w : Work} {event : Event}
    (hwork : work[i]? = some (p, w)) (hopen : w.steps < 2)
    (hdone : work[j]? = some (q, .done event)) : i ≠ j := by
  rintro rfl
  obtain rfl := (Prod.mk.inj (Option.some.inj (hwork.symm.trans hdone))).2
  exact Nat.lt_irrefl 2 hopen

section Turn

variable {paths : List Path} {r : Running FileTree} (h : Consistent t sets o paths r)
  {i : Nat} {p : Path} {w : Work} (hwork : r.work[i]? = some (p, w))
include h hwork

theorem Consistent.path_eq : paths[i]? = some p := by
  rw [← h.paths_eq, hwork, Option.map_some]

theorem Consistent.paths_set (w' : Work) (j : Nat) :
    ((r.work.set i (p, w'))[j]?).map Prod.fst = paths[j]? := by
  rw [List.getElem?_set]
  by_cases hij : i = j
  · subst hij
    rw [h.path_eq hwork]
    simp [(List.getElem?_eq_some_iff.mp hwork).1]
  · rw [if_neg hij, h.paths_eq]

/-- The file of a path that is not done is as it was. -/
theorem Consistent.own_kept (hpaths : Independent t paths) (hopen : w.steps < 2) {loc : Location}
    (hleads : t.LeadsToFile p loc) : r.state.get? loc = t.get? loc := by
  apply h.kept
  intro j q event hdone _ hother
  exact hpaths.ne (h.path_eq hwork) (h.path_eq hdone) (ne_of_done hwork hopen hdone) hleads hother

/-- Work goes on without a change. -/
theorem Consistent.set_kept {w' : Work}
    (hw' : w' = .loaded (readSource Store.disk p t) ∨ w' = .done (process Store.disk sets o p t).1)
    (hopen : w.steps < 2) (hquiet : ∀ event, w' = .done event → event.result ≠ .changed) :
    Consistent t sets o paths ⟨r.state, r.work.set i (p, w')⟩ := by
  refine ⟨h.paths_set hwork w', h.shape, ?_, ?_, ?_⟩
  · intro j q v hv
    rcases getElem?_set_eq_some hv with ⟨-, heq⟩ | ⟨-, hold⟩
    · obtain ⟨rfl, rfl⟩ := Prod.mk.inj heq
      exact .inr hw'
    · exact h.work hold
  · intro j q event hdone hchanged
    rcases getElem?_set_eq_some hdone with ⟨-, heq⟩ | ⟨-, hold⟩
    · exact absurd hchanged (hquiet event (Prod.mk.inj heq).2.symm)
    · exact h.rewritten hold hchanged
  · intro loc hothers
    apply h.kept
    intro j q event hdone
    apply hothers j q event
    rw [List.getElem?_set_ne (ne_of_done hwork hopen hdone), hdone]

/-- The entry of a path is written. -/
theorem Consistent.set_put (hpaths : Independent t paths) (hopen : w.steps < 2) {loc : Location}
    {entry : Entry} (hrevises : Revises t sets p loc entry)
    (hchanged : (process Store.disk sets o p t).1.result = .changed) :
    Consistent t sets o paths
      ⟨r.state.put loc entry, r.work.set i (p, .done (process Store.disk sets o p t).1)⟩ := by
  have hleads := hrevises.leadsToFile
  have htop : loc ≠ [] := by
    rintro rfl
    obtain ⟨bytes, mode, hfile⟩ := hleads.2
    cases hfile
  have hset : (r.work.set i (p, .done (process Store.disk sets o p t).1))[i]? =
      some (p, .done (process Store.disk sets o p t).1) :=
    List.getElem?_set_self (List.getElem?_eq_some_iff.mp hwork).1
  refine ⟨h.paths_set hwork _, ?_, ?_, ?_, ?_⟩
  · obtain ⟨bytes, mode, text, -, hfile, -, -, rfl⟩ := hrevises
    exact h.shape.put hfile _
  · intro j q v hv
    rcases getElem?_set_eq_some hv with ⟨-, heq⟩ | ⟨-, hold⟩
    · obtain ⟨rfl, rfl⟩ := Prod.mk.inj heq
      exact .inr (.inr rfl)
    · exact h.work hold
  · intro j q event hdone hresult loc' entry' hrevises'
    rw [get?_put _ _ htop]
    rcases getElem?_set_eq_some hdone with ⟨-, heq⟩ | ⟨hij, hold⟩
    · obtain ⟨rfl, -⟩ := Prod.mk.inj heq
      obtain ⟨rfl, rfl⟩ := hrevises.unique hrevises'
      exact if_pos rfl
    · have hne : loc' ≠ loc := by
        rintro rfl
        exact hpaths.ne (h.path_eq hwork) (h.path_eq hold) hij hleads hrevises'.leadsToFile
      rw [if_neg hne]
      exact h.rewritten hold hresult hrevises'
  · intro loc' hothers
    have hne : loc' ≠ loc := by
      rintro rfl
      exact hothers i p _ hset hchanged hleads
    rw [get?_put _ _ htop, if_neg hne]
    apply h.kept
    intro j q event hdone
    apply hothers j q event
    rw [List.getElem?_set_ne (ne_of_done hwork hopen hdone), hdone]

end Turn

/-- Every turn keeps a batch consistent. -/
theorem Consistent.turn {paths : List Path} {r : Running FileTree} (ht : t.WellFormed)
    (hpaths : Independent t paths) (h : Consistent t sets o paths r) (i : Nat) :
    Consistent t sets o paths (r.turn Store.disk sets o i) := by
  cases hitem : r.work[i]? with
  | none =>
    rw [Running.turn, hitem]
    exact h
  | some item =>
    obtain ⟨p, w⟩ := item
    rw [turn_of_some hitem]
    rcases h.work hitem with rfl | rfl | rfl
    · -- The path is read: its own file is as it was.
      have hread : readSource Store.disk p r.state = readSource Store.disk p t :=
        readSource_congr h.shape fun loc => h.own_kept hitem hpaths Nat.zero_lt_two
      simp only [Work.next, hread]
      exact h.set_kept hitem (.inl rfl) Nat.zero_lt_two (by simp)
    · -- The path is committed, as it would be in the tree where it was read.
      have hclear := hpaths.clear p (List.mem_of_getElem? (h.path_eq hitem))
      obtain ⟨event, ⟨hquiet, hfinish⟩ | ⟨hchanged, loc, entry, hrevises, hfinish⟩⟩ :=
        finish_cases ht hclear sets o
      · have halone : (process Store.disk sets o p t).1 = event :=
          congrArg Prod.fst (hfinish t (.refl t))
        simp only [Work.next, hfinish r.state h.shape]
        refine h.set_kept hitem (.inr (by rw [halone])) Nat.one_lt_two ?_
        intro other heq
        rw [← Work.done.inj heq]
        exact hquiet
      · have halone : (process Store.disk sets o p t).1 = event :=
          congrArg Prod.fst (hfinish t (.refl t))
        simp only [Work.next, hfinish r.state h.shape, ← halone]
        exact h.set_put hitem hpaths Nat.one_lt_two hrevises (halone ▸ hchanged)
    · obtain ⟨hi, hget⟩ := List.getElem?_eq_some_iff.mp hitem
      simp only [Work.next, ← hget, List.set_getElem_self]
      exact h

/-- Whatever the order of the turns, a batch stays consistent. -/
theorem Consistent.interleave {paths : List Path} {r : Running FileTree} (ht : t.WellFormed)
    (hpaths : Independent t paths) (h : Consistent t sets o paths r) (schedule : List Nat) :
    Consistent t sets o paths (r.interleave Store.disk sets o schedule) := by
  induction schedule generalizing r with
  | nil => exact h
  | cons i rest ih => exact ih (h.turn ht hpaths i)

section Finished

variable {paths : List Path} {r : Running FileTree} (h : Consistent t sets o paths r)
  (hdone : r.Complete)
include h hdone

/-- When all paths are done, each has the event that it has alone. -/
theorem Consistent.work_eq :
    r.work = paths.map fun p => (p, .done (process Store.disk sets o p t).1) := by
  apply List.ext_getElem?
  intro i
  rw [List.getElem?_map, ← h.paths_eq]
  cases hitem : r.work[i]? with
  | none => rfl
  | some item =>
    obtain ⟨p, w⟩ := item
    have hsteps := hdone (p, w) (List.mem_of_getElem? hitem)
    rcases h.work hitem with rfl | rfl | rfl
    · cases hsteps
    · cases hsteps
    · rfl

theorem Consistent.events_eq :
    r.events = paths.map fun p => (process Store.disk sets o p t).1 := by
  rw [Running.events, h.work_eq hdone, List.filterMap_map]
  exact congrFun List.filterMap_eq_map paths

/-- When all paths are done, the files of those with a change hold what was revised. -/
theorem Consistent.get?_of_changed {p : Path} (hp : p ∈ paths)
    (hchanged : (process Store.disk sets o p t).1.result = .changed) {loc : Location}
    {entry : Entry} (hrevises : Revises t sets p loc entry) : r.state.get? loc = some entry := by
  obtain ⟨i, hi⟩ := List.mem_iff_getElem?.mp hp
  have hitem : r.work[i]? = some (p, .done (process Store.disk sets o p t).1) := by
    rw [h.work_eq hdone, List.getElem?_map, hi, Option.map_some]
  exact h.rewritten hitem hchanged hrevises

theorem Consistent.get?_of_kept {loc : Location} (hothers : ∀ p ∈ paths,
    (process Store.disk sets o p t).1.result = .changed → ¬ t.LeadsToFile p loc) :
    r.state.get? loc = t.get? loc := by
  apply h.kept
  intro i p event hitem hchanged
  have hpath := h.path_eq hitem
  have hp := List.mem_of_getElem? hpath
  rw [h.work_eq hdone, List.getElem?_map, hpath, Option.map_some] at hitem
  obtain rfl := Work.done.inj (Prod.mk.inj (Option.some.inj hitem)).2
  exact hothers p hp hchanged

end Finished

section Complete

variable (ht : t.WellFormed) {paths : List Path} (hpaths : Independent t paths)
include ht hpaths

/-- What workers make of the paths, if each path has its two turns. -/
theorem exists_consistent_pool (sets : List RuleSet) (o : Options) {turns : List Nat}
    (hturns : ∀ i < paths.length, 2 ≤ turns.count i) :
    ∃ r, Consistent t sets o paths r ∧ r.Complete ∧
      pool Store.disk sets o turns paths t = (r.events, r.state) :=
  ⟨_, (consistent_start paths sets o t).interleave ht hpaths turns,
    complete_interleave Store.disk sets o t hturns, rfl⟩

/-- Two complete batches leave the same tree. -/
theorem Consistent.get?_eq {r r' : Running FileTree} (h : Consistent t sets o paths r)
    (hdone : r.Complete) (h' : Consistent t sets o paths r') (hdone' : r'.Complete)
    (loc : Location) :
    r.state.get? loc = r'.state.get? loc := by
  by_cases hloc : ∃ p ∈ paths, (process Store.disk sets o p t).1.result = .changed ∧
      t.LeadsToFile p loc
  · obtain ⟨p, hp, hchanged, hleads⟩ := hloc
    obtain ⟨loc', entry, hrevises⟩ := exists_revises_of_changed ht (hpaths.clear p hp) hchanged
    obtain rfl := hleads.unique hrevises.leadsToFile
    rw [h.get?_of_changed hdone hp hchanged hrevises,
      h'.get?_of_changed hdone' hp hchanged hrevises]
  · have hothers : ∀ p ∈ paths, (process Store.disk sets o p t).1.result = .changed →
        ¬ t.LeadsToFile p loc :=
      fun p hp hchanged hleads => hloc ⟨p, hp, hchanged, hleads⟩
    rw [h.get?_of_kept hdone hothers, h'.get?_of_kept hdone' hothers]

end Complete

end Disk

end Codemod.Batch
