import Codemod.Proofs.Batch.Reporting
import Codemod.Proofs.FileTree.Spelling
import Codemod.Proofs.Walk.Reach

/-! Files that are collected twice.
A file is collected once for each way in which the paths to it are spelled, and that is how its root
is spelled, with the names from there on. So no file is collected twice just if roots that have a
file in common are spelled alike: the one further down as the other one, with the names between
them. -/

namespace Codemod.FileTree

open Batch

/-- A walk from a root comes upon a file with one of some extensions. -/
def Collects (t : FileTree) (extensions excluded : List String) (root p : Path) : Prop :=
  t.Listed excluded root p ∧ HasExtension extensions p

/-- Two roots have a file in common. -/
def Overlap (t : FileTree) (extensions excluded : List String) (outer inner : Path) : Prop :=
  ∃ p q loc, t.Collects extensions excluded outer p ∧ t.Collects extensions excluded inner q ∧
    t.LeadsToFile p loc ∧ t.LeadsToFile q loc

/-- Where two roots have a file in common, one is spelled as the other with the names between
them. -/
def SpelledAlike (t : FileTree) (extensions excluded : List String) (roots : List Path) : Prop :=
  ∀ outer ∈ roots, ∀ inner ∈ roots, ∀ top below,
    t.resolve .follow outer = .ok top → t.resolve .follow inner = .ok (top ++ below) →
    t.Overlap extensions excluded outer inner →
    inner.components = outer.components ++ below.map .name

section Below

variable {t : FileTree} (ht : t.WellFormed) {excluded : List String} {root : Path}
include ht

theorem WellFormed.components_of_entry {path : Path} {dir : Location} {name : String}
    (h : t.resolve .follow path = .ok dir) (hentry : (t.get? (dir ++ [name])).isSome)
    {below : List String} (hpath : path.components = root.components ++ below.map .name) :
    (path.join name).components = root.components ++ (below ++ [name]).map .name := by
  obtain ⟨-, hname, -⟩ := ht.placed_of_isSome hentry
  obtain ⟨⟨-, hne, -⟩, -⟩ := resolve_eq_ok_iff.mp h
  rw [Path.components_join hne hname, hpath, List.map_append, List.append_assoc]
  rfl

/-- What is opened below a root is spelled as the root with the names from there on. -/
theorem WellFormed.components_of_opened {path : Path} {dir : Location}
    (h : t.Opened excluded root path dir) :
    ∃ top below, t.resolve .follow root = .ok top ∧ dir = top ++ below ∧
      path.components = root.components ++ below.map .name := by
  induction h with
  | @root dir hroot => exact ⟨dir, [], hroot.1, by simp, by simp⟩
  | @enter path dir name hopened hdir _ _ ih =>
    obtain ⟨top, below, htop, rfl, hpath⟩ := ih
    have hentry := Option.isSome_of_eq_some (isDir_iff.mp hdir)
    exact ⟨top, below ++ [name], htop, by simp,
      ht.components_of_entry hopened.canOpen.1 hentry hpath⟩

/-- Where the path of a file leads that stands in an opened directory, if it can be followed. -/
theorem WellFormed.eq_of_inside {path : Path} {dir loc : Location} {name : String}
    (hopened : t.Opened excluded root path dir) (hfile : t.IsFile (dir ++ [name]))
    (hleads : t.resolve .follow (path.join name) = .ok loc) : loc = dir ++ [name] := by
  obtain ⟨bytes, mode, hentry⟩ := hfile
  obtain ⟨-, hname, hfits⟩ := ht.placed_of_isSome (Option.isSome_of_eq_some hentry)
  obtain ⟨hpath, hdir, -⟩ := hopened.canOpen
  exact ((resolve_join_eq_ok_iff hpath hdir hname hfits hentry (by simp)).mp hleads).2.2

/-- A path that is listed leads to its file, if it can be followed. -/
theorem WellFormed.leads_of_listed {p : Path} (h : t.Listed excluded root p)
    (hexists : t.exists? p) : ∃ loc, t.LeadsToFile p loc := by
  cases h with
  | root hkeep hfile => exact ⟨_, resolve_of_keep_file hkeep hfile, hfile⟩
  | @inside path dir name hopened hfile =>
    cases hleads : t.resolve .follow (path.join name) with
    | error cause => simp [exists?, hleads, Except.isOk, Except.toBool] at hexists
    | ok loc =>
      obtain rfl := ht.eq_of_inside hopened hfile hleads
      exact ⟨_, hleads, hfile⟩

/-- A file that is listed below a root is spelled as the root with the names from there on. -/
theorem WellFormed.components_of_listed {p : Path} {loc : Location}
    (h : t.Listed excluded root p) (hleads : t.LeadsToFile p loc) :
    ∃ top below, t.resolve .follow root = .ok top ∧ loc = top ++ below ∧
      p.components = root.components ++ below.map .name := by
  cases h with
  | root => exact ⟨loc, [], hleads.1, by simp, by simp⟩
  | @inside path dir name hopened hfile =>
    obtain ⟨top, below, htop, rfl, hpath⟩ := ht.components_of_opened hopened
    obtain rfl := ht.eq_of_inside hopened hfile hleads.1
    obtain ⟨bytes, mode, hentry⟩ := hfile
    exact ⟨top, below ++ [name], htop, by simp,
      ht.components_of_entry hopened.canOpen.1 (Option.isSome_of_eq_some hentry) hpath⟩

end Below

section Roots

variable {t : FileTree} (ht : t.WellFormed) {extensions excluded : List String}
include ht

/-- Roots that are spelled alike have one spelling for a file. -/
theorem WellFormed.components_of_spelledAlike {roots : List Path}
    (halike : t.SpelledAlike extensions excluded roots) {outer inner : Path}
    (houter : outer ∈ roots) (hinner : inner ∈ roots) {p q : Path} {loc : Location}
    (hp : t.Collects extensions excluded outer p) (hq : t.Collects extensions excluded inner q)
    (hleads : t.LeadsToFile p loc) (hother : t.LeadsToFile q loc) :
    p.components = q.components := by
  obtain ⟨top, below, htop, hloc, hcomponents⟩ := ht.components_of_listed hp.1 hleads
  obtain ⟨top', below', htop', hloc', hcomponents'⟩ := ht.components_of_listed hq.1 hother
  rcases List.append_eq_append_iff.mp (hloc.symm.trans hloc') with
    ⟨between, rfl, rfl⟩ | ⟨between, rfl, rfl⟩
  · have hspelled := halike outer houter inner hinner top between htop htop'
      ⟨p, q, loc, hp, hq, hleads, hother⟩
    rw [hcomponents, hcomponents', hspelled]
    simp
  · have hspelled := halike inner hinner outer houter top' between htop' htop
      ⟨q, p, loc, hq, hp, hother, hleads⟩
    rw [hcomponents, hcomponents', hspelled]
    simp

/-- Two spellings of one file that are the same say that the roots are spelled alike. -/
theorem WellFormed.alike_of_components {outer inner p q : Path} {top below loc : Location}
    (htop : t.resolve .follow outer = .ok top)
    (hbelow : t.resolve .follow inner = .ok (top ++ below))
    (hp : t.Collects extensions excluded outer p) (hq : t.Collects extensions excluded inner q)
    (hleads : t.LeadsToFile p loc) (hother : t.LeadsToFile q loc)
    (hsame : p.components = q.components) :
    inner.components = outer.components ++ below.map .name := by
  obtain ⟨top', rest, htop', hloc, hcomponents⟩ := ht.components_of_listed hp.1 hleads
  obtain ⟨deep, rest', hdeep, hloc', hcomponents'⟩ := ht.components_of_listed hq.1 hother
  obtain rfl := Except.ok.inj (htop.symm.trans htop')
  obtain rfl := Except.ok.inj (hbelow.symm.trans hdeep)
  rw [hloc, List.append_assoc, List.append_cancel_left_eq] at hloc'
  rw [hcomponents, hcomponents', hloc', List.map_append, ← List.append_assoc,
    List.append_cancel_right_eq] at hsame
  exact hsame.symm

end Roots

/-- If roots that have a file in common are spelled alike, no two of the files collected are the
same. The converse holds too, if every path that was collected can be followed. -/
theorem candidates_apart {t : FileTree} (ht : t.WellFormed) {roots : List Path}
    (hexists : ∀ r ∈ roots, t.exists? r) (extensions excluded : List String) :
    ∃ found, t.candidates roots extensions excluded = .ok found ∧
      (t.SpelledAlike extensions excluded roots → found.files.Pairwise (Apart t)) ∧
      ((∀ p ∈ found.files, t.exists? p) →
        found.files.Pairwise (Apart t) → t.SpelledAlike extensions excluded roots) := by
  obtain ⟨found, hfound, hincreasing, hsound, hkeys, -⟩ :=
    ht.candidates_eq hexists extensions excluded
  refine ⟨found, hfound, fun halike => ?_, fun hfollowed hapart => ?_⟩
  · refine hincreasing.imp_of_mem fun {p q} hp hq hlt loc hleads hother => ?_
    obtain ⟨outer, houter, hcollects⟩ := hsound p hp
    obtain ⟨inner, hinner, hcollects'⟩ := hsound q hq
    have hsame := ht.components_of_spelledAlike halike houter hinner hcollects hcollects' hleads
      hother
    exact absurd (Path.key_eq_iff.mpr hsame) (ne_of_lt hlt)
  · intro outer houter inner hinner top below htop hbelow hoverlap
    obtain ⟨p, q, loc, hp, hq, hleads, hother⟩ := hoverlap
    -- The spelling that was kept for a file leads to it, too.
    have hkept : ∀ root ∈ roots, ∀ r, t.Collects extensions excluded root r →
        t.LeadsToFile r loc →
        ∃ r' ∈ found.files, r'.components = r.components ∧ t.LeadsToFile r' loc := by
      intro root hroot r hr hrleads
      obtain ⟨r', hr', hkey⟩ := List.mem_map.mp ((hkeys r.key).mpr ⟨root, hroot, r, hr, rfl⟩)
      have hsame := Path.key_eq_iff.mp hkey
      obtain ⟨_, _, hlisted, _⟩ := hsound r' hr'
      obtain ⟨loc', hleads'⟩ := ht.leads_of_listed hlisted (hfollowed r' hr')
      obtain rfl := resolve_unique hsame hleads'.1 hrleads.1
      exact ⟨r', hr', hsame, hleads'⟩
    obtain ⟨p', hp', hsame, hleads'⟩ := hkept outer houter p hp hleads
    obtain ⟨q', hq', hsame', hother'⟩ := hkept inner hinner q hq hother
    have hone := eq_of_pairwise_apart hapart hp' hq' hleads' hother'
    exact ht.alike_of_components htop hbelow hp hq hleads hother
      (by rw [← hsame, ← hsame', hone])

/-- What can be checked of roots without a walk: that those inside others are spelled alike. -/
theorem spelledAlike_of_nested {t : FileTree} {roots : List Path}
    (h : ∀ outer ∈ roots, ∀ inner ∈ roots, ∀ top ∈ (t.resolve .follow outer).toOption,
      ∀ loc ∈ (t.resolve .follow inner).toOption, top <+: loc →
        inner.components = outer.components ++ (loc.drop top.length).map .name)
    (extensions excluded : List String) : t.SpelledAlike extensions excluded roots := by
  intro outer houter inner hinner top below htop hbelow _
  have hspelled := h outer houter inner hinner top (by simp [htop, Except.toOption]) (top ++ below)
    (by simp [hbelow, Except.toOption]) (List.prefix_append top below)
  rwa [List.drop_left] at hspelled

/-- Roots inside others, a root that is given twice, and a file. -/
theorem candidates_apart_nested :
    let text : Entry := .file [] 0o644
    let t : FileTree := ⟨[(["src"], .dir), (["src", "a.ts"], text), (["src", "lib"], .dir),
      (["src", "lib", "b.ts"], text)], [], {}⟩
    let roots : List Path := [⟨"./src"⟩, ⟨".//src/lib/"⟩, ⟨"./src/lib/b.ts"⟩, ⟨"./src/."⟩]
    t.WellFormed ∧ (∀ r ∈ roots, t.exists? r) ∧ t.SpelledAlike ["ts"] [] roots ∧
      ∃ found, t.candidates roots ["ts"] [] = .ok found ∧
        found.files = [⟨"./src/a.ts"⟩, ⟨"./src/lib/b.ts"⟩] ∧ found.files.Pairwise (Apart t) := by
  intro text t roots
  have hformed : t.WellFormed := by decide +kernel
  have hexists : ∀ r ∈ roots, t.exists? r := by decide +kernel
  have halike : t.SpelledAlike ["ts"] [] roots :=
    spelledAlike_of_nested (by decide +kernel) ["ts"] []
  have hfiles : (t.candidates roots ["ts"] []).toOption.map Candidates.files =
      some [⟨"./src/a.ts"⟩, ⟨"./src/lib/b.ts"⟩] := by decide +kernel
  obtain ⟨found, hfound, hapart, hconverse⟩ := candidates_apart hformed hexists ["ts"] []
  rw [hfound] at hfiles
  have hfiles : found.files = [⟨"./src/a.ts"⟩, ⟨"./src/lib/b.ts"⟩] := Option.some.inj hfiles
  have hfollowed : ∀ p ∈ found.files, t.exists? p := by
    rw [hfiles]
    decide +kernel
  exact ⟨hformed, hexists, hconverse hfollowed (hapart halike), found, hfound, hfiles,
    hapart halike⟩

/-- The working directory and a directory in it, a dot more or less, a way up and down, a path from
the top and a link to a directory: the one file below these roots is collected twice. A dry run
counts it twice, and what a run says about it depends on the order in which workers take their
steps. -/
theorem candidates_twice :
    let t : FileTree := ⟨[(["src"], .dir), (["pkg"], .link "src"),
      (["src", "a.ts"], .file (Utf8.encode "x".toList) 0o644)], [], {}⟩
    let files (roots : List Path) := (t.candidates roots ["ts"] []).toOption.map Candidates.files
    let sets : List RuleSet := [⟨"shorten", [.literal "x".toList []], none, none⟩]
    let paths : List Path := [⟨"./src/a.ts"⟩, ⟨"src/a.ts"⟩]
    let results (schedule : List Nat) :=
      ((Running.start paths t).interleave Store.disk sets {} schedule).events.map Event.result
    t.WellFormed ∧ files [⟨"."⟩, ⟨"src"⟩] = some paths ∧
      (∀ root ∈ [".", "./src", "src/../src", "/src", "pkg"], t.exists? ⟨root⟩ ∧
        (files [⟨root⟩, ⟨"src"⟩]).map List.length = some 2) ∧
      t.LeadsToFile ⟨"./src/a.ts"⟩ ["src", "a.ts"] ∧ t.LeadsToFile ⟨"src/a.ts"⟩ ["src", "a.ts"] ∧
      ¬ paths.Pairwise (Apart t) ∧
      (Summary.ofEvents (run Store.dryRun sets {} .inOrder ⟨paths, []⟩ t).1).changed = 2 ∧
      results [0, 0, 1, 1] = [.changed, .unchanged] ∧
      results [0, 1, 0, 1] = [.changed, .changed] := by
  intro t files sets paths results
  have hleads : t.resolve .follow ⟨"./src/a.ts"⟩ = .ok ["src", "a.ts"] ∧
      t.resolve .follow ⟨"src/a.ts"⟩ = .ok ["src", "a.ts"] := by decide +kernel
  have hrest : t.WellFormed ∧ files [⟨"."⟩, ⟨"src"⟩] = some paths ∧
      (∀ root ∈ [".", "./src", "src/../src", "/src", "pkg"], t.exists? ⟨root⟩ ∧
        (files [⟨root⟩, ⟨"src"⟩]).map List.length = some 2) ∧
      ¬ paths.Pairwise (Apart t) ∧
      (Summary.ofEvents (run Store.dryRun sets {} .inOrder ⟨paths, []⟩ t).1).changed = 2 ∧
      results [0, 0, 1, 1] = [.changed, .unchanged] ∧
      results [0, 1, 0, 1] = [.changed, .changed] := by decide +kernel
  obtain ⟨hformed, hfiles, hlengths, htwice, hcounted, hresults⟩ := hrest
  exact ⟨hformed, hfiles, hlengths, ⟨hleads.1, _, _, rfl⟩, ⟨hleads.2, _, _, rfl⟩, htwice, hcounted,
    hresults⟩

end Codemod.FileTree
