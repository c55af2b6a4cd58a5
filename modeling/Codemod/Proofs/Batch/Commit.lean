import Codemod.Batch
import Codemod.Proofs.FileTree.Replacement

/-! What committing a file does to a file tree.
A commit that is not in the way of a file or link beside its target touches nothing but the
target, and nothing at all if it fails. -/

namespace Codemod.Batch

/-- A commit touched nothing but the file that its path leads to, and nothing if it failed. -/
def Contained (before : FileTree) (p : Path) (result : FileResult) (after : FileTree) : Prop :=
  after.cwd = before.cwd ∧
    (∀ loc, ¬ before.LeadsToFile p loc → after.get? loc = before.get? loc) ∧
    ∀ cause, result = .failed cause → ∀ loc, after.get? loc = before.get? loc

theorem commit_of_ne {σ : Type} (store : Store σ) (p : Path) {loaded revised : List Char}
    (h : revised ≠ loaded) (s : σ) :
    commit store p loaded revised s =
      match store.write p revised s with
      | (.ok (), s) => (.changed, s)
      | (.error cause, s) => (.failed (.write p cause), s) :=
  if_neg h

theorem commit_disk_snd (p : Path) {loaded revised : List Char} (h : revised ≠ loaded)
    (t : FileTree) :
    (commit Store.disk p loaded revised t).2 = (t.replaceContent p revised).2 := by
  rw [commit_of_ne Store.disk p h]
  rcases hwrite : t.replaceContent p revised with ⟨_ | _, after⟩ <;> simp [Store.disk, hwrite]

/-- A commit on disk is contained exactly if no file or link stands where the new content is
first written. -/
theorem contained_commit_iff {t : FileTree} (ht : t.WellFormed) (p : Path)
    {loaded revised : List Char} (hne : revised ≠ loaded) :
    Contained t p (commit Store.disk p loaded revised t).1
        (commit Store.disk p loaded revised t).2 ↔ ¬ t.Obstructed p := by
  constructor
  · rintro ⟨-, hothers, -⟩ ⟨dir, name, e, beside, hpath, he, hwritable, hfits, hthere, hbeside⟩
    obtain ⟨hdir, hname, -⟩ := ht.placed_of_isSome (Option.isSome_of_eq_some he)
    obtain ⟨-, -, hshort⟩ := ht.placed_of_isSome (Option.isSome_of_eq_some hthere)
    obtain ⟨hleads, hreach, -⟩ := FileTree.canonicalize_eq_ok_iff.mp hpath
    have hother : ¬ t.LeadsToFile p (dir ++ [name ++ FileTree.tempSuffix]) := by
      intro htemp
      exact FileTree.temp_ne dir name (Except.ok.inj (htemp.1.symm.trans hleads))
    have hkept := hothers _ hother
    have hgone := FileTree.get?_replaceContent_of_some (ht.standing hdir hreach) hname hpath he
      hwritable ⟨hfits, hshort⟩ hthere hbeside revised
    rw [commit_disk_snd p hne, hgone, hthere] at hkept
    cases hkept
  · intro h
    rw [commit_of_ne Store.disk p hne]
    rcases ht.replaceContent_cases h revised with
      ⟨cause, hfailed⟩ | ⟨loc, old, mode, hleads, hfile, hok⟩
    · simp [Store.disk, hfailed, Contained]
    · have htop : loc ≠ [] := by
        rintro rfl
        cases hfile
      refine ⟨?_, ?_, ?_⟩
      · simp [Store.disk, hok, FileTree.put, FileTree.erase]
      · intro other hother
        have hne : other ≠ loc := by
          rintro rfl
          exact hother ⟨hleads, old, mode, hfile⟩
        simp [Store.disk, hok, FileTree.get?_put t _ htop, hne]
      · simp [Store.disk, hok]

/-- A commit through a link to a file with a directory beside it: it fails and is contained. -/
theorem contained_commit_beside_directory :
    let t : FileTree := ⟨[(["a.ts"], .file (Utf8.encode "old".toList) 0o644),
      (["a.ts.srcfix.tmp"], .dir), (["b.ts"], .link "a.ts")], [], {}⟩
    t.WellFormed ∧ ¬ t.Obstructed ⟨"b.ts"⟩ ∧
      (commit Store.disk ⟨"b.ts"⟩ "old".toList "new".toList t).1 =
        .failed (.write ⟨"b.ts"⟩ .isDirectory) ∧
      Contained t ⟨"b.ts"⟩ (commit Store.disk ⟨"b.ts"⟩ "old".toList "new".toList t).1
        (commit Store.disk ⟨"b.ts"⟩ "old".toList "new".toList t).2 := by
  intro t
  have hformed : t.WellFormed := by decide +kernel
  have hpath : t.canonicalize ⟨"b.ts"⟩ = .ok ["a.ts"] := by decide +kernel
  have hdir : t.get? ([] ++ ["a.ts" ++ FileTree.tempSuffix]) = some .dir := by decide +kernel
  have hclear : ¬ t.Obstructed ⟨"b.ts"⟩ := by
    rintro ⟨dir, name, e, beside, htarget, -, -, -, hthere, hbeside⟩
    have heq : dir ++ [name] = [] ++ ["a.ts"] := Except.ok.inj (htarget.symm.trans hpath)
    obtain ⟨rfl, hname⟩ := List.append_inj' heq rfl
    obtain rfl := List.singleton_inj.mp hname
    exact hbeside (Option.some.inj (hthere.symm.trans hdir))
  exact ⟨hformed, hclear, by decide +kernel,
    (contained_commit_iff hformed ⟨"b.ts"⟩ (by decide +kernel)).mpr hclear⟩

/-- With a link beside the target the content goes where that link leads, and the target becomes
the link. With a link to a directory there the commit fails, and the link is gone. -/
theorem commit_through_link_beside :
    let t : FileTree := ⟨[(["a.ts"], .file (Utf8.encode "old".toList) 0o644),
      (["a.ts.srcfix.tmp"], .link "notes.md"),
      (["notes.md"], .file (Utf8.encode "keep".toList) 0o600),
      (["b.ts"], .file (Utf8.encode "old".toList) 0o644), (["b.ts.srcfix.tmp"], .link "docs"),
      (["docs"], .dir)], [], {}⟩
    let a := commit Store.disk ⟨"a.ts"⟩ "old".toList "new".toList t
    let b := commit Store.disk ⟨"b.ts"⟩ "old".toList "new".toList t
    t.WellFormed ∧
      (a.1 = .changed ∧ a.2.get? ["notes.md"] = some (.file (Utf8.encode "new".toList) 0o644) ∧
        a.2.get? ["a.ts"] = some (.link "notes.md") ∧ ¬ Contained t ⟨"a.ts"⟩ a.1 a.2) ∧
      b.1 = .failed (.write ⟨"b.ts"⟩ .isDirectory) ∧ b.2.get? ["b.ts.srcfix.tmp"] = none ∧
        ¬ Contained t ⟨"b.ts"⟩ b.1 b.2 := by
  intro t a b
  have hnotes : a.2.get? ["notes.md"] ≠ t.get? ["notes.md"] := by decide +kernel
  have hlink : b.2.get? ["b.ts.srcfix.tmp"] ≠ t.get? ["b.ts.srcfix.tmp"] := by decide +kernel
  have hfailed : b.1 = .failed (.write ⟨"b.ts"⟩ .isDirectory) := by decide +kernel
  refine ⟨by decide +kernel, ⟨by decide +kernel, by decide +kernel, by decide +kernel, ?_⟩,
    hfailed, by decide +kernel, ?_⟩
  · rintro ⟨-, hothers, -⟩
    apply hnotes
    apply hothers
    rintro ⟨hleads, -⟩
    exact absurd hleads (by decide +kernel)
  · rintro ⟨-, -, hkept⟩
    exact hlink (hkept _ hfailed _)

end Codemod.Batch
