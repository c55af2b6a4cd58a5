import Codemod.Proofs.Batch.Process
import Codemod.Proofs.Text.Utf8

/-! When a content can be written, and what is read afterwards.
Where nothing stands beside the file that a path leads to, writing succeeds just if there is such a
file, it can be reached from the top, some write permission is set on it, and neither the name nor
the path that it is first written under is too long. The path leads to the same file afterwards,
through the same links, and the file holds the content under the mode it had. -/

namespace Codemod

namespace Batch

open FileTree

/-- A path leads to a file that can be reached from the top and on which some write permission is
set, and the name and the path that its content is first written under are not too long. -/
def CanWrite (t : FileTree) (p : Path) : Prop :=
  ∃ dir name old mode, t.resolve .follow p = .ok (dir ++ [name]) ∧
    t.get? (dir ++ [name]) = some (.file old mode) ∧ t.reachable (dir ++ [name]) ∧
    isWritable mode ∧ Fits dir (name ++ tempSuffix)

theorem CanWrite.leadsToFile {t : FileTree} {p : Path} (h : CanWrite t p) :
    ∃ loc, t.LeadsToFile p loc := by
  obtain ⟨dir, name, old, mode, hleads, hfile, -⟩ := h
  exact ⟨dir ++ [name], hleads, old, mode, hfile⟩

theorem canWrite_iff {t : FileTree} {p : Path} {dir : Location} {name : String}
    {old : List UInt8} {mode : Nat} (hleads : t.resolve .follow p = .ok (dir ++ [name]))
    (hfile : t.get? (dir ++ [name]) = some (.file old mode)) :
    CanWrite t p ↔ t.verdict dir name mode = .ok () := by
  rw [verdict_eq_ok_iff]
  constructor
  · rintro ⟨dir', name', old', mode', hleads', hfile', hcan⟩
    obtain ⟨rfl, hlast⟩ := List.append_inj' (Except.ok.inj (hleads.symm.trans hleads')) rfl
    obtain rfl := List.singleton_inj.mp hlast
    obtain ⟨-, rfl⟩ := Entry.file.inj (Option.some.inj (hfile.symm.trans hfile'))
    exact hcan
  · exact fun hcan => ⟨dir, name, old, mode, hleads, hfile, hcan⟩

/-- A write fails, or puts the content into the file that the path leads to. -/
theorem write_cases {t : FileTree} (ht : t.WellFormed) {p : Path} (hclear : Clear t p)
    (content : List Char) :
    (¬ CanWrite t p ∧ ∃ cause, (Store.disk.write p content t).1 = .error cause) ∨
      (CanWrite t p ∧ ∃ loc old mode, t.resolve .follow p = .ok loc ∧
        t.get? loc = some (.file old mode) ∧
        Store.disk.write p content t = (.ok (), t.put loc (.file (Utf8.encode content) mode))) := by
  have hstore : Store.disk.write p content t = t.replaceContent p content := rfl
  rw [hstore]
  by_cases hsome : ∃ loc, t.LeadsToFile p loc
  · obtain ⟨loc, hleads, old, mode, hfile⟩ := hsome
    rcases List.eq_nil_or_concat loc with rfl | ⟨dir, name, rfl⟩
    · cases hfile
    · rw [List.concat_eq_append] at hleads hfile
      obtain ⟨hdir, hname, -⟩ := ht.placed_of_isSome (Option.isSome_of_eq_some hfile)
      rw [replaceContent_of_file (ht.standing hdir) hname hleads hfile
        (hclear dir name ⟨hleads, old, mode, hfile⟩), canWrite_iff hleads hfile]
      cases t.verdict dir name mode with
      | error cause => exact .inl ⟨by simp, cause, rfl⟩
      | ok done => exact .inr ⟨rfl, dir ++ [name], old, mode, hleads, hfile, rfl⟩
  · rw [not_exists] at hsome
    refine .inl ⟨fun hcan => ?_, ht.replaceContent_of_no_file hsome content⟩
    obtain ⟨loc, hleads⟩ := hcan.leadsToFile
    exact hsome loc hleads

/-- The result of a path in a tree: there is nothing to change in its text, or it is changed, which
must be allowed. -/
theorem result_process_iff {t : FileTree} (ht : t.WellFormed) {p : Path} (hclear : Clear t p)
    (sets : List RuleSet) (o : Options) :
    let result := (process Store.disk sets o p t).1.result
    let revised := fun text => (Pipeline.revise sets (.ofContent p text)).1.current
    (result = .unchanged ↔ ∃ text, Holds t p text ∧ revised text = text) ∧
      (result = .changed ↔ ∃ text, Holds t p text ∧ revised text ≠ text ∧ CanWrite t p) := by
  intro result revised
  simp only [← readSource_eq_ok_iff]
  cases hread : readSource Store.disk p t with
  | error cause =>
    have hfailed : result = .failed cause := by
      simp only [result, process, hread, finish]
    simp [hfailed]
  | ok text =>
    have hcommit : result = (commit Store.disk p text (revised text) t).1 := by
      simp only [result, process, hread, finish_ok, loadedEvent, revised]
    simp only [Except.ok.injEq, exists_eq_left']
    rw [hcommit]
    by_cases hsame : revised text = text
    · rw [commit, if_pos hsame]
      simp [hsame]
    · rw [commit_of_ne Store.disk p hsame]
      rcases write_cases ht hclear (revised text) with
        ⟨hcannot, cause, hfailed⟩ | ⟨hcan, loc, old, mode, -, -, hwritten⟩
      · rcases hwrite : Store.disk.write p (revised text) t with ⟨_ | done, after⟩
        · simp [hsame, hcannot]
        · simp [hwrite] at hfailed
      · simp [hwritten, hsame, hcan]

theorem readSource_of_file {t : FileTree} {p : Path} {loc : Location} {content : List Char}
    {mode : Nat} (hleads : t.resolve .follow p = .ok loc)
    (hfile : t.get? loc = some (.file (Utf8.encode content) mode)) :
    readSource Store.disk p t =
      if t.mayRead loc then .ok content else .error (.read p .denied) := by
  by_cases hmay : t.mayRead loc
  · rw [if_pos hmay]
    exact readSource_eq_ok_iff.mpr
      ⟨loc, _, mode, hleads, hfile, hmay, Utf8.decode_encode content⟩
  · have hread : Store.disk.read p t = .error .denied := by
      simp [Store.disk, readFile, hleads, hmay, bind, Except.bind, throw, throwThe,
        MonadExceptOf.throw]
    rw [readSource, hread, if_neg hmay]

/-- Where nothing stands beside its file, a content is written just if it can be. After that the
path leads to the same file as before, which holds the content under its old mode; what is read is
the content, if the file may be read at all; every link of the tree is the link that it was; and
nothing is left to commit. -/
theorem write_ok_iff_canWrite {t : FileTree} (ht : t.WellFormed) {p : Path} (hclear : Clear t p)
    (content : List Char) :
    let done := Store.disk.write p content t
    (done.1 = .ok () ↔ CanWrite t p) ∧
      (done.1 = .ok () →
        (∃ loc old mode, t.resolve .follow p = .ok loc ∧ t.get? loc = some (.file old mode) ∧
          done.2.resolve .follow p = .ok loc ∧
          done.2.get? loc = some (.file (Utf8.encode content) mode) ∧
          readSource Store.disk p done.2 =
            if t.mayRead loc then .ok content else .error (.read p .denied)) ∧
        (∀ loc target, t.get? loc = some (.link target) →
          done.2.get? loc = some (.link target)) ∧
        commit Store.disk p content content done.2 = (.unchanged, done.2)) := by
  intro done
  rcases write_cases ht hclear content with
    ⟨hcannot, cause, hfailed⟩ | ⟨hcan, loc, old, mode, hleads, hfile, hwritten⟩
  · have hnot : done.1 ≠ .ok () := by
      intro hok
      cases hfailed.symm.trans hok
    exact ⟨⟨fun hok => absurd hok hnot, fun hcan => absurd hcan hcannot⟩,
      fun hok => absurd hok hnot⟩
  · have hok : done.1 = .ok () := congrArg Prod.fst hwritten
    have htree : done.2 = t.put loc (.file (Utf8.encode content) mode) :=
      congrArg Prod.snd hwritten
    have htop : loc ≠ [] := by
      rintro rfl
      cases hfile
    have hleads' : done.2.resolve .follow p = .ok loc := by
      rw [htree, ((SameShape.refl t).put hfile _).resolve_eq, hleads]
    have hfile' : done.2.get? loc = some (.file (Utf8.encode content) mode) := by
      rw [htree, get?_put_self t _ htop]
    have hread := readSource_of_file hleads' hfile'
    have hdenied : done.2.denied = t.denied := by
      rw [htree]
      rfl
    rw [mayRead_congr hdenied] at hread
    refine ⟨⟨fun _ => hcan, fun _ => hok⟩, fun _ =>
      ⟨⟨loc, old, mode, hleads, hfile, hleads', hfile', hread⟩, ?_, if_pos rfl⟩⟩
    intro other target hlink
    have hother : other ≠ loc := by
      rintro rfl
      cases hlink.symm.trans hfile
    rw [htree, get?_put t _ htop, if_neg hother, hlink]

/-- A write through two links to a file with a mode of its own, beside one without write
permission. -/
theorem write_ok_iff_canWrite_two_links :
    let t : FileTree := ⟨[(["lib"], .dir),
      (["lib", "a.ts"], .file (Utf8.encode "old".toList) 0o600),
      (["src"], .dir), (["src", "a.ts"], .link "../lib/a.ts"), (["b.ts"], .link "src/a.ts"),
      (["c.ts"], .file (Utf8.encode "old".toList) 0o444)], [], {}⟩
    let done := Store.disk.write ⟨"b.ts"⟩ "né".toList t
    t.WellFormed ∧ Clear t ⟨"b.ts"⟩ ∧ Clear t ⟨"c.ts"⟩ ∧ ¬ CanWrite t ⟨"c.ts"⟩ ∧
      CanWrite t ⟨"b.ts"⟩ ∧ readSource Store.disk ⟨"b.ts"⟩ done.2 = .ok "né".toList ∧
      done.2.get? ["lib", "a.ts"] = some (.file (Utf8.encode "né".toList) 0o600) ∧
      done.2.get? ["src", "a.ts"] = some (.link "../lib/a.ts") := by
  intro t done
  have hformed : t.WellFormed := by decide +kernel
  have hclear : Clear t ⟨"b.ts"⟩ := by decide +kernel
  have hclear' : Clear t ⟨"c.ts"⟩ := by decide +kernel
  have hrefused : (Store.disk.write ⟨"c.ts"⟩ "né".toList t).1 ≠ .ok () := by decide +kernel
  have hok : done.1 = .ok () := by decide +kernel
  obtain ⟨hiff, hafter⟩ := write_ok_iff_canWrite hformed hclear "né".toList
  obtain ⟨⟨loc, -, -, hleads, -, -, -, hread⟩, hlinks, -⟩ := hafter hok
  have hmay : t.mayRead loc := rfl
  refine ⟨hformed, hclear, hclear', ?_, hiff.mp hok, hread.trans (if_pos hmay), by decide +kernel,
    hlinks _ _ (by decide +kernel)⟩
  exact fun hcan => hrefused ((write_ok_iff_canWrite hformed hclear' "né".toList).1.mpr hcan)

end Batch

end Codemod
