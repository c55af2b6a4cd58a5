import Codemod.Proofs.FileTree.Joining
import Codemod.Proofs.Walk.Order
import Mathlib.Data.List.Nodup

/-! Which files a walk collects.
A walk opens the directory of its root, and in each directory that it opened those that are not
excluded and that it can open; it lists the files in the directories it opened, and notes the
directories that it cannot open. The files collected below some roots are those that are listed
below one of them, in the order of their paths. -/

namespace Codemod

namespace Extension

theorem mem_insert {s e : String} {extensions : List String} :
    e ∈ insert s extensions ↔ e = s ∨ e ∈ extensions := by
  induction extensions with
  | nil => simp [insert]
  | cons x rest ih =>
    rw [insert]
    split_ifs with hlt heq
    · simp
    · simp [heq]
    · rw [List.mem_cons, ih, List.mem_cons, or_left_comm]

theorem mem_scope {e : String} {extensions : List String} :
    e ∈ scope extensions ↔ ∃ x ∈ extensions, normalize x = e := by
  have hfold : ∀ added acc : List String,
      e ∈ added.foldl (fun acc x => insert x acc) acc ↔ e ∈ added ∨ e ∈ acc := by
    intro added
    induction added with
    | nil => simp
    | cons x rest ih =>
      intro acc
      rw [List.foldl_cons, ih, mem_insert, List.mem_cons, or_left_comm, or_assoc]
  rw [scope, hfold]
  simp

end Extension

/-- The extension of a path, without ASCII case, is one of some extensions in normal form, and is
not empty. -/
def HasExtension (extensions : List String) (p : Path) : Prop :=
  ∃ e ∈ p.extension?, ∃ x ∈ extensions,
    Extension.normalize x ≠ "" ∧ Extension.normalize x = String.ofList (Text.lowerAscii e.toList)

theorem accepts_ofLists_iff {extensions excluded : List String} {p : Path} :
    (WalkFilter.ofLists extensions excluded).accepts p ↔ HasExtension extensions p := by
  simp only [WalkFilter.accepts, WalkFilter.ofLists, Extension.accepts, HasExtension,
    Option.any_eq_true, Option.mem_def, List.contains_iff_mem, List.mem_filter,
    Extension.mem_scope, Bool.not_eq_true', ← Bool.not_eq_true, String.isEmpty_iff]
  constructor
  · rintro ⟨e, he, ⟨x, hx, heq⟩, hne⟩
    exact ⟨e, he, x, hx, by rwa [heq], heq⟩
  · rintro ⟨e, he, x, hx, hne, heq⟩
    exact ⟨e, he, ⟨x, hx, heq⟩, by rwa [← heq]⟩

/-- What a walk comes upon: a file, or a directory that cannot be opened. -/
inductive Find where
  | file (p : Path)
  | refused (p : Path) (cause : IoError)

namespace Find

def file? : Find → Option Path
  | file p => some p
  | refused _ _ => none

def failure? : Find → Option FileError
  | file _ => none
  | refused p cause => some (.read p (.during p.spelling cause))

theorem mem_filterMap_file? {p : Path} {items : List Find} :
    p ∈ items.filterMap file? ↔ file p ∈ items := by
  rw [List.mem_filterMap]
  constructor
  · rintro ⟨q | _, hmem, hfile⟩
    · obtain rfl := Option.some.inj hfile
      exact hmem
    · cases hfile
  · exact fun hmem => ⟨_, hmem, rfl⟩

theorem mem_filterMap_failure? {e : FileError} {items : List Find} :
    e ∈ items.filterMap failure? ↔
      ∃ p cause, refused p cause ∈ items ∧ e = .read p (.during p.spelling cause) := by
  rw [List.mem_filterMap]
  constructor
  · rintro ⟨_ | ⟨p, cause⟩, hmem, hfailure⟩
    · cases hfailure
    · exact ⟨p, cause, hmem, (Option.some.inj hfailure).symm⟩
  · rintro ⟨p, cause, hmem, rfl⟩
    exact ⟨_, hmem, rfl⟩

end Find

namespace Candidates

/-- Adds what a walk comes upon. -/
def note (c : Candidates) : Find → Candidates
  | .file p => c.addFile p
  | .refused p cause => c.addUnreadable (.read p (.during p.spelling cause))

theorem foldl_note (items : List Find) (c : Candidates) :
    items.foldl note c =
      ⟨insertAll (items.filterMap Find.file?) c.files,
        c.unreadable ++ items.filterMap Find.failure?⟩ := by
  induction items generalizing c with
  | nil => simp [insertAll]
  | cons item rest ih =>
    rw [List.foldl_cons, ih]
    cases item with
    | file p => rfl
    | refused p cause =>
      simp [note, addUnreadable, List.filterMap_cons, Find.file?, Find.failure?]

end Candidates

namespace FileTree

/-- A path leads to a directory that may be listed. -/
def CanOpen (t : FileTree) (path : Path) (dir : Location) : Prop :=
  t.resolve .follow path = .ok dir ∧ t.isDir dir ∧ t.mayRead dir

theorem openDir_eq_ok_iff {t : FileTree} {path : Path} {dir : Location} :
    t.openDir path = .ok dir ↔ t.CanOpen path dir := by
  rw [openDir, CanOpen]
  cases t.resolve .follow path with
  | error cause => simp [bind, Except.bind]
  | ok loc =>
    simp only [bind, Except.bind, throw, throwThe, MonadExceptOf.throw, pure, Except.pure,
      Except.ok.injEq]
    split_ifs with hfile hclosed
    · refine iff_of_false nofun ?_
      rintro ⟨rfl, hdir, -⟩
      simp [hdir] at hfile
    · refine iff_of_false nofun ?_
      rintro ⟨rfl, -, hopen⟩
      simp [hopen] at hclosed
    · rw [Except.ok.injEq]
      refine ⟨?_, And.left⟩
      rintro rfl
      exact ⟨rfl, by simpa using hfile, by simpa using hclosed⟩

section Spec

variable (t : FileTree) (excluded : List String) (root : Path)

/-- A walk from a root opens a directory under a path. -/
inductive Opened : Path → Location → Prop where
  | root {dir : Location} : t.CanOpen root dir → Opened root dir
  | enter {path : Path} {dir : Location} {name : String} : Opened path dir →
      t.isDir (dir ++ [name]) → name ∉ excluded → t.CanOpen (path.join name) (dir ++ [name]) →
      Opened (path.join name) (dir ++ [name])

/-- A walk from a root comes upon a file under a path: in a directory that it opened, or at the
root. -/
inductive Listed : Path → Prop where
  | root {loc : Location} : t.resolve .keep root = .ok loc → t.IsFile loc → Listed root
  | inside {path : Path} {dir : Location} {name : String} : t.Opened excluded root path dir →
      t.IsFile (dir ++ [name]) → Listed (path.join name)

/-- A walk from a root comes upon a directory under a path that it cannot open: in a directory that
it opened, or at the root. -/
inductive Refused : Path → IoError → Prop where
  | root {dir : Location} {cause : IoError} : t.resolve .follow root = .ok dir → t.isDir dir →
      t.openDir root = .error cause → Refused root cause
  | inside {path : Path} {dir : Location} {name : String} {cause : IoError} :
      t.Opened excluded root path dir → t.isDir (dir ++ [name]) → name ∉ excluded →
      t.openDir (path.join name) = .error cause → Refused (path.join name) cause

end Spec

theorem Opened.canOpen {t : FileTree} {excluded : List String} {root path : Path} {dir : Location}
    (h : t.Opened excluded root path dir) : t.CanOpen path dir := by
  cases h with
  | root h => exact h
  | enter _ _ _ h => exact h

/-- What is come upon below the directory that a path leads to, in order. -/
def listing (t : FileTree) (f : WalkFilter) : (fuel : Nat) → Path → List Find
  | 0, _ => []
  | fuel + 1, path =>
    match t.openDir path with
    | .error cause => [.refused path cause]
    | .ok dir => (t.children dir).flatMap fun child =>
      match child.2 with
      | .file _ _ => if f.accepts (path.join child.1) then [.file (path.join child.1)] else []
      | .dir =>
        if f.excludeDirs.contains child.1 then [] else listing t f fuel (path.join child.1)
      | .link _ => []

theorem walkDir_eq (t : FileTree) (f : WalkFilter) (fuel : Nat) (path : Path) (found : Candidates) :
    t.walkDir f fuel path found = (t.listing f fuel path).foldl Candidates.note found := by
  induction fuel generalizing path found with
  | zero => rfl
  | succ fuel ih =>
    rw [walkDir, listing]
    cases t.openDir path with
    | error cause => rfl
    | ok dir =>
      simp only [List.foldl_flatMap]
      congr 1
      funext found child
      rcases child with ⟨name, ⟨bytes, mode⟩ | _ | target⟩
      · dsimp only
        split_ifs <;> rfl
      · dsimp only
        split_ifs
        · rfl
        · exact ih _ _
      · rfl

section WellFormed

variable {t : FileTree} (ht : t.WellFormed)
include ht

theorem WellFormed.get?_eq_some_iff {loc : Location} (hloc : loc ≠ []) {e : Entry} :
    t.get? loc = some e ↔ (loc, e) ∈ t.entries := by
  rw [get?, if_neg hloc, List.lookup_eq_some_iff]
  constructor
  · rintro ⟨before, after, hentries, -⟩
    simp [hentries]
  · intro hmem
    obtain ⟨before, after, hentries⟩ := List.append_of_mem hmem
    refine ⟨before, after, hentries, fun other hother => ?_⟩
    have hdistinct := ht.distinct
    rw [hentries, List.map_append, List.nodup_append] at hdistinct
    have hne := hdistinct.2.2 other.1 (List.mem_map_of_mem hother) loc (by simp)
    simpa using hne.symm

theorem WellFormed.mem_children_iff {dir : Location} {name : String} {e : Entry} :
    (name, e) ∈ t.children dir ↔ t.get? (dir ++ [name]) = some e := by
  rw [ht.get?_eq_some_iff (by simp), children, List.mem_filterMap]
  constructor
  · rintro ⟨⟨loc, e'⟩, hmem, hchild⟩
    rcases List.eq_nil_or_concat loc with rfl | ⟨above, last, rfl⟩
    · cases hchild
    · simp only [List.concat_eq_append, List.getLast?_concat, List.dropLast_concat,
        Option.ite_none_right_eq_some, Option.some.injEq, Prod.mk.injEq] at hchild
      obtain ⟨rfl, rfl, rfl⟩ := hchild
      simpa using hmem
  · intro hmem
    exact ⟨_, hmem, by simp⟩

/-- A location is no longer than the tree has entries: one stands at each location above it. -/
theorem WellFormed.length_le {dir : Location} (h : t.isDir dir) :
    dir.length ≤ t.entries.length := by
  -- The locations on the way down are entries, each longer than those above it.
  have hway : ∃ way : List Location, way.length = dir.length ∧ way.Nodup ∧
      way ⊆ t.entries.map Prod.fst ∧ ∀ loc ∈ way, loc.length ≤ dir.length := by
    induction dir using List.reverseRecOn with
    | nil => exact ⟨[], rfl, .nil, by simp, by simp⟩
    | append_singleton dir name ih =>
      have hdir := ht.isDir_dropLast h
      rw [List.dropLast_concat] at hdir
      obtain ⟨way, hlength, hnodup, hsubset, hshorter⟩ := ih hdir
      have hnew : dir ++ [name] ∉ way := fun hmem => by
        have hle := hshorter _ hmem
        simp at hle
      have hentry := (ht.get?_eq_some_iff (by simp)).mp (isDir_iff.mp h)
      refine ⟨(dir ++ [name]) :: way, by simp [hlength], hnodup.cons hnew, ?_, ?_⟩
      · exact List.cons_subset.mpr ⟨List.mem_map_of_mem hentry, hsubset⟩
      · intro loc hloc
        rcases List.mem_cons.mp hloc with rfl | hloc
        · exact Nat.le_refl _
        · exact (hshorter loc hloc).trans (by simp)
  obtain ⟨way, hlength, hnodup, hsubset, -⟩ := hway
  calc dir.length = way.length := hlength.symm
    _ ≤ (t.entries.map Prod.fst).length := (List.subperm_of_subset hnodup hsubset).length_le
    _ = t.entries.length := List.length_map _

variable {f : WalkFilter} {root : Path}

theorem WellFormed.mem_listing_succ {fuel : Nat} {path : Path} {item : Find} :
    item ∈ t.listing f (fuel + 1) path ↔
      (∃ cause, t.openDir path = .error cause ∧ item = .refused path cause) ∨
      ∃ dir, t.CanOpen path dir ∧
        ((∃ name, t.IsFile (dir ++ [name]) ∧ f.accepts (path.join name) ∧
            item = .file (path.join name)) ∨
          ∃ name, t.isDir (dir ++ [name]) ∧ name ∉ f.excludeDirs ∧
            item ∈ t.listing f fuel (path.join name)) := by
  simp only [← openDir_eq_ok_iff]
  rw [listing]
  cases t.openDir path with
  | error cause =>
    simp only [List.mem_singleton, Except.error.injEq, exists_eq_left', reduceCtorEq, false_and,
      exists_false, or_false]
  | ok dir =>
    simp only [reduceCtorEq, false_and, exists_false, false_or, Except.ok.injEq, exists_eq_left',
      List.mem_flatMap]
    constructor
    · rintro ⟨⟨name, ⟨bytes, mode⟩ | _ | target⟩, hchild, hitem⟩ <;>
        rw [ht.mem_children_iff] at hchild
      · simp only [List.mem_ite_nil_right, List.mem_singleton] at hitem
        exact .inl ⟨name, ⟨bytes, mode, hchild⟩, hitem⟩
      · simp only [List.contains_eq_mem, decide_eq_true_eq, List.mem_ite_nil_left] at hitem
        exact .inr ⟨name, isDir_iff.mpr hchild, hitem⟩
      · cases hitem
    · rintro (⟨name, ⟨bytes, mode, hfile⟩, haccepts, rfl⟩ | ⟨name, hdir, hexcluded, hitem⟩)
      · exact ⟨(name, .file bytes mode), ht.mem_children_iff.mpr hfile, by simp [haccepts]⟩
      · exact ⟨(name, .dir), ht.mem_children_iff.mpr (isDir_iff.mp hdir),
          by simp [hexcluded, hitem]⟩

/-- A walk from a root comes upon an item, which is one of those that it looks for. -/
def ComesUpon (t : FileTree) (f : WalkFilter) (root : Path) : Find → Prop
  | .file p => t.Listed f.excludeDirs root p ∧ f.accepts p
  | .refused p cause => t.Refused f.excludeDirs root p cause

/-- What is found below a directory that a walk comes to is come upon. -/
theorem WellFormed.comesUpon_of_mem_listing {fuel : Nat} {path : Path} {item : Find}
    (hopen : ∀ dir, t.CanOpen path dir → t.Opened f.excludeDirs root path dir)
    (hrefuse : ∀ cause, t.openDir path = .error cause → t.Refused f.excludeDirs root path cause)
    (h : item ∈ t.listing f fuel path) : t.ComesUpon f root item := by
  induction fuel generalizing path with
  | zero => cases h
  | succ fuel ih =>
    rcases ht.mem_listing_succ.mp h with ⟨cause, hcause, rfl⟩ | ⟨dir, hdir, hbelow⟩
    · exact hrefuse cause hcause
    · have hopened := hopen dir hdir
      rcases hbelow with ⟨name, hfile, haccepts, rfl⟩ | ⟨name, hchild, hexcluded, hitem⟩
      · exact ⟨.inside hopened hfile, haccepts⟩
      · have hentry := isDir_iff.mp hchild
        obtain ⟨-, hname, hfits⟩ := ht.placed_of_isSome (Option.isSome_of_eq_some hentry)
        refine ih (fun loc hloc => ?_) (fun cause => .inside hopened hchild hexcluded) hitem
        obtain ⟨-, -, rfl⟩ :=
          (resolve_join_eq_ok_iff hdir.1 hdir.2.1 hname hfits hentry (by simp)).mp hloc.1
        exact .enter hopened hchild hexcluded hloc

/-- What is found below a directory that was opened is found from the root, with as many steps more
as the directory is deeper. -/
theorem WellFormed.listing_subset_of_opened {path : Path} {dir : Location}
    (h : t.Opened f.excludeDirs root path dir) :
    ∃ top depth, t.CanOpen root top ∧ dir.length = top.length + depth ∧
      ∀ fuel, t.listing f (fuel + 1) path ⊆ t.listing f (fuel + 1 + depth) root := by
  induction h with
  | root hroot => exact ⟨_, 0, hroot, rfl, fun fuel => List.Subset.refl _⟩
  | @enter path dir name hopened hdir hexcluded _ ih =>
    obtain ⟨top, depth, htop, hdepth, hsubset⟩ := ih
    refine ⟨top, depth + 1, htop, by simp [hdepth, Nat.add_assoc], fun fuel item hitem => ?_⟩
    have hmem : item ∈ t.listing f (fuel + 1 + 1) path :=
      ht.mem_listing_succ.mpr (.inr ⟨dir, hopened.canOpen, .inr ⟨name, hdir, hexcluded, hitem⟩⟩)
    have hsteps : fuel + 1 + (depth + 1) = fuel + 1 + 1 + depth := by omega
    rw [hsteps]
    exact hsubset (fuel + 1) hmem

/-- The steps that a walk may take suffice to come upon all that there is. -/
theorem WellFormed.mem_listing_root_iff {top : Location} (htop : t.resolve .follow root = .ok top)
    (hdir : t.isDir top) {item : Find} :
    item ∈ t.listing f (t.entries.length + 1) root ↔ t.ComesUpon f root item := by
  constructor
  · exact ht.comesUpon_of_mem_listing (fun _ => .root) fun _ => .root htop hdir
  · -- An opened directory is no deeper than there are entries, so that steps are left below it.
    have hleft : ∀ {path dir}, t.Opened f.excludeDirs root path dir → ∃ depth,
        dir.length = top.length + depth ∧ ∀ fuel,
          t.listing f (fuel + 1) path ⊆ t.listing f (fuel + 1 + depth) root := by
      intro path dir hopened
      obtain ⟨top', depth, htop', hdepth, hsubset⟩ := ht.listing_subset_of_opened hopened
      obtain rfl := Except.ok.inj (htop.symm.trans htop'.1)
      exact ⟨depth, hdepth, hsubset⟩
    cases item with
    | file p =>
      rintro ⟨hlisted, haccepts⟩
      cases hlisted with
      | root hkeep hfile =>
        obtain rfl := Except.ok.inj (htop.symm.trans (resolve_of_keep_file hkeep hfile))
        obtain ⟨bytes, mode, hfile⟩ := hfile
        cases hfile.symm.trans (isDir_iff.mp hdir)
      | @inside path dir name hopened hfile =>
        obtain ⟨depth, hdepth, hsubset⟩ := hleft hopened
        have hmem : .file (path.join name) ∈ t.listing f (t.entries.length - depth + 1) path :=
          ht.mem_listing_succ.mpr (.inr ⟨dir, hopened.canOpen, .inl ⟨name, hfile, haccepts, rfl⟩⟩)
        have hdeep := ht.length_le hopened.canOpen.2.1
        have hsteps : t.entries.length - depth + 1 + depth = t.entries.length + 1 := by omega
        rw [← hsteps]
        exact hsubset _ hmem
    | refused p cause =>
      intro hrefused
      cases hrefused with
      | root _ _ hcause => exact ht.mem_listing_succ.mpr (.inl ⟨cause, hcause, rfl⟩)
      | @inside path dir name _ hopened hchild hexcluded hcause =>
        obtain ⟨depth, hdepth, hsubset⟩ := hleft hopened
        have hdeep := ht.length_le hchild
        rw [List.length_append, List.length_singleton] at hdeep
        obtain ⟨fuel, hfuel⟩ : ∃ fuel, t.entries.length = fuel + 1 + depth :=
          ⟨t.entries.length - depth - 1, by omega⟩
        have hbelow : .refused (path.join name) cause ∈ t.listing f (fuel + 1) (path.join name) :=
          ht.mem_listing_succ.mpr (.inl ⟨cause, hcause, rfl⟩)
        have hmem : .refused (path.join name) cause ∈ t.listing f (fuel + 1 + 1) path :=
          ht.mem_listing_succ.mpr
            (.inr ⟨dir, hopened.canOpen, .inr ⟨name, hchild, hexcluded, hbelow⟩⟩)
        have hsteps : t.entries.length + 1 = fuel + 1 + 1 + depth := by omega
        rw [hsteps]
        exact hsubset _ hmem

/-- What one root adds. -/
theorem WellFormed.walkRoot_eq (f : WalkFilter) (hexists : t.exists? root) :
    ∃ items : List Find, (∀ found, t.walkRoot f root found = items.foldl Candidates.note found) ∧
      ∀ item, item ∈ items ↔ t.ComesUpon f root item := by
  cases htop : t.resolve .follow root with
  | error cause => simp [exists?, htop, Except.isOk, Except.toBool] at hexists
  | ok top =>
    obtain ⟨own, hown⟩ : ∃ own, t.resolve .keep root = .ok own := by
      rcases resolve_keep_cases (t := t) root with heq | ⟨own, _, hown, _⟩
      · exact ⟨top, heq.trans htop⟩
      · exact ⟨own, hown⟩
    rcases ht.sound_resolve htop with hdir | ⟨bytes, mode, hfile⟩
    · refine ⟨t.listing f (t.entries.length + 1) root, fun found => ?_, fun item =>
        ht.mem_listing_root_iff htop hdir⟩
      simp only [walkRoot, hown, htop, isDir_iff.mp hdir, walkDir_eq]
    · -- No directory is come upon from a root that is a file.
      have hclosed : ∀ {path dir}, ¬ t.Opened f.excludeDirs root path dir := by
        intro path dir hopened
        obtain ⟨top', _, htop', -, -⟩ := ht.listing_subset_of_opened (f := f) hopened
        obtain rfl := Except.ok.inj (htop.symm.trans htop'.1)
        cases hfile.symm.trans (isDir_iff.mp htop'.2.1)
      refine ⟨if own = top ∧ f.accepts root then [.file root] else [], fun found => ?_,
        fun item => ?_⟩
      · simp only [walkRoot, hown, htop, hfile]
        split_ifs <;> rfl
      · rw [List.mem_ite_nil_right, List.mem_singleton]
        constructor
        · rintro ⟨⟨rfl, haccepts⟩, rfl⟩
          exact ⟨.root hown ⟨bytes, mode, hfile⟩, haccepts⟩
        · intro hcome
          cases item with
          | file p =>
            obtain ⟨hlisted, haccepts⟩ := hcome
            cases hlisted with
            | root hkeep hown' =>
              have hsame := htop.symm.trans (resolve_of_keep_file hkeep hown')
              exact ⟨⟨Except.ok.inj (hown.symm.trans (hkeep.trans hsame.symm)), haccepts⟩, rfl⟩
            | inside hopened _ => exact absurd hopened hclosed
          | refused p cause =>
            cases hcome with
            | root hdir hisDir _ =>
              obtain rfl := Except.ok.inj (htop.symm.trans hdir)
              cases hfile.symm.trans (isDir_iff.mp hisDir)
            | inside hopened _ _ _ => exact absurd hopened hclosed

/-- What all roots add, if all exist. -/
theorem WellFormed.collect_eq (f : WalkFilter) {roots : List Path}
    (hexists : ∀ r ∈ roots, t.exists? r) :
    ∃ items : List Find,
      (∀ found, t.collect f roots found = .ok (items.foldl Candidates.note found)) ∧
      ∀ item, item ∈ items ↔ ∃ root ∈ roots, t.ComesUpon f root item := by
  induction roots with
  | nil => exact ⟨[], fun found => rfl, by simp⟩
  | cons root rest ih =>
    obtain ⟨hroot, hrest⟩ := List.forall_mem_cons.mp hexists
    obtain ⟨first, hfirst, hmem⟩ := ht.walkRoot_eq f hroot
    obtain ⟨others, hothers, hmem'⟩ := ih hrest
    refine ⟨first ++ others, fun found => ?_, fun item => ?_⟩
    · rw [collect, if_pos hroot, hothers, hfirst, List.foldl_append]
    · rw [List.mem_append, hmem, hmem']
      simp

theorem WellFormed.candidates_eq {roots : List Path} (hexists : ∀ r ∈ roots, t.exists? r)
    (extensions excluded : List String) :
    ∃ found, t.candidates roots extensions excluded = .ok found ∧
      found.files.Pairwise (·.key < ·.key) ∧
      (∀ p ∈ found.files, ∃ root ∈ roots, t.Listed excluded root p ∧ HasExtension extensions p) ∧
      (∀ k, k ∈ found.files.map Path.key ↔
        ∃ root ∈ roots, ∃ p, (t.Listed excluded root p ∧ HasExtension extensions p) ∧
          p.key = k) ∧
      ∀ e, e ∈ found.unreadable ↔ ∃ root ∈ roots, ∃ p cause, t.Refused excluded root p cause ∧
        e = .read p (.during p.spelling cause) := by
  obtain ⟨items, hcollect, hitems⟩ :=
    ht.collect_eq (WalkFilter.ofLists extensions excluded) hexists
  have hlisted (p : Path) : p ∈ items.filterMap Find.file? ↔
      ∃ root ∈ roots, t.Listed excluded root p ∧ HasExtension extensions p := by
    rw [Find.mem_filterMap_file?, hitems]
    simp only [ComesUpon, accepts_ofLists_iff]
    rfl
  refine ⟨_, hcollect ⟨[], []⟩, ?_⟩
  rw [Candidates.foldl_note]
  refine ⟨Candidates.increasing_insertAll _ [] .nil, fun p hp => ?_, fun k => ?_, fun e => ?_⟩
  · rcases Candidates.mem_insertAll _ [] hp with hp | hp
    · exact (hlisted p).mp hp
    · cases hp
  · rw [Candidates.key_mem_insertAll, List.map_nil, List.mem_map]
    constructor
    · rintro (⟨p, hp, hkey⟩ | hnone)
      · obtain ⟨root, hroot, hlisted⟩ := (hlisted p).mp hp
        exact ⟨root, hroot, p, hlisted, hkey⟩
      · cases hnone
    · rintro ⟨root, hroot, p, hp, hkey⟩
      exact .inl ⟨p, (hlisted p).mpr ⟨root, hroot, hp⟩, hkey⟩
  · rw [List.nil_append, Find.mem_filterMap_failure?]
    simp only [hitems, ComesUpon]
    constructor
    · rintro ⟨p, cause, ⟨root, hroot, hrefused⟩, rfl⟩
      exact ⟨root, hroot, p, cause, hrefused, rfl⟩
    · rintro ⟨root, hroot, p, cause, hrefused, rfl⟩
      exact ⟨p, cause, ⟨root, hroot, hrefused⟩, rfl⟩

end WellFormed

theorem collect_eq_error_iff {t : FileTree} {f : WalkFilter} {roots : List Path}
    {found : Candidates} {root : Path} :
    t.collect f roots found = .error root ↔ roots.find? (fun r => !t.exists? r) = some root := by
  induction roots generalizing found with
  | nil => simp [collect]
  | cons r rest ih =>
    rw [collect, List.find?_cons]
    by_cases hexists : t.exists? r <;> simp [hexists, ih]

/-- The first root that does not exist is named. If all exist, every file collected is listed below
a root and has one of the extensions, every such file is collected in some spelling, the files
increase in the order of paths, what could not be read are the directories that could not be opened,
and which roots there are decides which files, whatever the order of the roots and however often
each is given. -/
theorem candidates_listed {t : FileTree} (ht : t.WellFormed) (roots : List Path)
    (extensions excluded : List String) :
    (∀ root, t.candidates roots extensions excluded = .error root ↔
      roots.find? (fun r => !t.exists? r) = some root) ∧
    ((∀ r ∈ roots, t.exists? r) → ∃ found, t.candidates roots extensions excluded = .ok found ∧
      (∀ p ∈ found.files, ∃ root ∈ roots, t.Listed excluded root p ∧ HasExtension extensions p) ∧
      (∀ root ∈ roots, ∀ p, t.Listed excluded root p → HasExtension extensions p →
        ∃ q ∈ found.files, q.components = p.components) ∧
      found.files.Pairwise (·.key < ·.key) ∧
      (∀ e, e ∈ found.unreadable ↔ ∃ root ∈ roots, ∃ p cause, t.Refused excluded root p cause ∧
        e = .read p (.during p.spelling cause)) ∧
      ∀ roots', (∀ r, r ∈ roots' ↔ r ∈ roots) → ∃ found',
        t.candidates roots' extensions excluded = .ok found' ∧
        found'.files.map Path.components = found.files.map Path.components) := by
  refine ⟨fun root => collect_eq_error_iff, fun hexists => ?_⟩
  obtain ⟨found, hfound, hincreasing, hsound, hkeys, hunreadable⟩ :=
    ht.candidates_eq hexists extensions excluded
  refine ⟨found, hfound, hsound, ?_, hincreasing, hunreadable, ?_⟩
  · intro root hroot p hlisted hextension
    have hkey := (hkeys p.key).mpr ⟨root, hroot, p, ⟨hlisted, hextension⟩, rfl⟩
    obtain ⟨q, hq, hsame⟩ := List.mem_map.mp hkey
    exact ⟨q, hq, Path.key_eq_iff.mp hsame⟩
  · intro roots' hroots
    obtain ⟨found', hfound', hincreasing', -, hkeys', -⟩ :=
      ht.candidates_eq (fun r hr => hexists r ((hroots r).mp hr)) extensions excluded
    refine ⟨found', hfound', Candidates.components_eq_of_increasing hincreasing' hincreasing ?_⟩
    intro k
    rw [hkeys, hkeys']
    simp only [hroots]

/-- A link to a directory as a root, a directory inside it as another, and a root that is a link to
a file: links below a root and what an excluded directory holds are left out, and so is what a
directory holds that may not be listed, or may not be passed. -/
theorem candidates_listed_through_link :
    let text : Entry := .file [] 0o644
    let t : FileTree := ⟨[(["pkg"], .link "src"), (["src"], .dir), (["src", "b.TS"], text),
      (["src", "a.ts"], text), (["src", "lib"], .dir), (["src", "lib", "c.tsx"], text),
      (["src", "dist"], .dir), (["src", "dist", "d.ts"], text), (["src", "e.ts"], .link "a.ts"),
      (["src", "locked"], .dir), (["src", "locked", "hidden.ts"], text),
      (["src", "shut"], .dir), (["src", "shut", "h.ts"], text), (["src", "shut", "in"], .dir),
      (["src", "shut", "in", "i.ts"], text), (["f.ts"], text), (["g.ts"], .link "f.ts")], [],
      { reading := [["src", "locked"]], passing := [["src", "locked"], ["src", "shut"]] }⟩
    let roots : List Path := [⟨"pkg"⟩, ⟨"src//lib"⟩, ⟨"g.ts"⟩, ⟨"f.ts"⟩, ⟨"src/lib/"⟩]
    let extensions := [".ts", " TSX"]
    t.WellFormed ∧ (∀ r ∈ roots, t.exists? r) ∧
      t.candidates (roots ++ [⟨"gone"⟩]) extensions ["dist"] = .error ⟨"gone"⟩ ∧
      ∃ found, t.candidates roots extensions ["dist"] = .ok found ∧
        found.files = [⟨"f.ts"⟩, ⟨"pkg/a.ts"⟩, ⟨"pkg/b.TS"⟩, ⟨"pkg/lib/c.tsx"⟩, ⟨"pkg/shut/h.ts"⟩,
          ⟨"src//lib/c.tsx"⟩] ∧
        found.unreadable = [.read ⟨"pkg/locked"⟩ (.during "pkg/locked" .denied),
          .read ⟨"pkg/shut/in"⟩ (.during "pkg/shut/in" .denied)] ∧
        (∀ p ∈ found.files, ∃ root ∈ roots, t.Listed ["dist"] root p ∧
          HasExtension extensions p) ∧
        (∃ root ∈ roots, ∃ p cause, t.Refused ["dist"] root p cause ∧
          .read ⟨"pkg/locked"⟩ (.during "pkg/locked" .denied) =
            FileError.read p (.during p.spelling cause)) ∧
        ∃ found', t.candidates roots.reverse extensions ["dist"] = .ok found' ∧
          found'.files.map Path.components = found.files.map Path.components := by
  intro text t roots extensions
  have hformed : t.WellFormed := by decide +kernel
  have hexists : ∀ r ∈ roots, t.exists? r := by decide +kernel
  have hcollected : (t.candidates roots extensions ["dist"]).toOption.map
      (fun found => (found.files, found.unreadable)) =
        some ([⟨"f.ts"⟩, ⟨"pkg/a.ts"⟩, ⟨"pkg/b.TS"⟩, ⟨"pkg/lib/c.tsx"⟩, ⟨"pkg/shut/h.ts"⟩,
          ⟨"src//lib/c.tsx"⟩], [.read ⟨"pkg/locked"⟩ (.during "pkg/locked" .denied),
          .read ⟨"pkg/shut/in"⟩ (.during "pkg/shut/in" .denied)]) := by
    decide +kernel
  obtain ⟨-, hdone⟩ := candidates_listed hformed roots extensions ["dist"]
  obtain ⟨found, hfound, hsound, -, -, hrefused, hroots⟩ := hdone hexists
  rw [hfound] at hcollected
  obtain ⟨hfiles, hunreadable⟩ := Prod.mk.inj (Option.some.inj hcollected)
  refine ⟨hformed, hexists, ?_, found, hfound, hfiles, hunreadable, hsound,
    (hrefused _).mp (by rw [hunreadable]; exact List.mem_cons_self), hroots roots.reverse (by simp)⟩
  obtain ⟨herror, -⟩ := candidates_listed hformed (roots ++ [⟨"gone"⟩]) extensions ["dist"]
  exact (herror ⟨"gone"⟩).mpr (by decide +kernel)

end FileTree

end Codemod
