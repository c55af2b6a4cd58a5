import Codemod.Proofs.Batch.Commit

/-! What processing one path does to a file tree.
If nothing stands beside its file, the event about a path and the entry that it writes depend
only on the tree in which the path was read: in any other tree of the same shape the commit ends
in the same way, and puts the same entry at the same place. -/

namespace Codemod.Batch

open FileTree

/-- Nothing stands beside the file that a path leads to. -/
def Clear (t : FileTree) (p : Path) : Prop :=
  ∀ dir name, t.LeadsToFile p (dir ++ [name]) → t.get? (dir ++ [name ++ tempSuffix]) = none

instance (t : FileTree) (p : Path) : Decidable (Clear t p) :=
  match h : t.resolve .follow p with
  | .error _ => .isTrue fun _ _ hleads => nomatch h.symm.trans hleads.1
  | .ok loc =>
    decidable_of_iff (∀ name ∈ loc.getLast?, t.IsFile loc →
        t.get? (loc.dropLast ++ [name ++ tempSuffix]) = none) <| by
      constructor
      · intro hclear dir name hleads
        obtain rfl := Except.ok.inj (h.symm.trans hleads.1)
        simpa using hclear name (by simp) hleads.2
      · intro hclear name hname hfile
        have hloc : loc.dropLast ++ [name] = loc := List.dropLast_append_getLast? name hname
        exact hclear _ name ⟨by rw [hloc, h], by rwa [hloc]⟩

/-- The file that a path leads to, and the entry that its revised content makes of it. -/
def Revises (t : FileTree) (sets : List RuleSet) (p : Path) (loc : Location) (entry : Entry) :
    Prop :=
  ∃ bytes mode text, t.resolve .follow p = .ok loc ∧ t.get? loc = some (.file bytes mode) ∧
    Utf8.decode bytes = .ok text ∧
    (Pipeline.revise sets (.ofContent p text)).1.current ≠ text ∧
    entry = .file (Utf8.encode (Pipeline.revise sets (.ofContent p text)).1.current) mode

theorem Revises.leadsToFile {t : FileTree} {sets : List RuleSet} {p : Path} {loc : Location}
    {entry : Entry} (h : Revises t sets p loc entry) : t.LeadsToFile p loc := by
  obtain ⟨bytes, mode, _, hleads, hfile, -⟩ := h
  exact ⟨hleads, bytes, mode, hfile⟩

theorem Revises.unique {t : FileTree} {sets : List RuleSet} {p : Path} {loc loc' : Location}
    {entry entry' : Entry} (h : Revises t sets p loc entry) (h' : Revises t sets p loc' entry') :
    loc = loc' ∧ entry = entry' := by
  obtain rfl := h.leadsToFile.unique h'.leadsToFile
  obtain ⟨bytes, mode, text, -, hfile, htext, -, rfl⟩ := h
  obtain ⟨bytes', mode', text', -, hfile', htext', -, rfl⟩ := h'
  obtain ⟨rfl, rfl⟩ := Entry.file.inj (Option.some.inj (hfile.symm.trans hfile'))
  obtain rfl := Except.ok.inj (htext.symm.trans htext')
  exact ⟨rfl, rfl⟩

/-- The event about a path that was loaded, by the result of its commit. -/
def loadedEvent (sets : List RuleSet) (o : Options) (p : Path) (text : List Char)
    (result : FileResult) : Event where
  path := p
  result := result
  applied := (Pipeline.revise sets (.ofContent p text)).2
  unstable := if o.verify then Pipeline.unstable sets p text else []

theorem finish_ok {σ : Type} (store : Store σ) (sets : List RuleSet) (o : Options) (p : Path)
    (text : List Char) (s : σ) :
    finish store sets o p (.ok text) s =
      let done := commit store p text (Pipeline.revise sets (.ofContent p text)).1.current s
      (loadedEvent sets o p text done.1, done.2) :=
  rfl

/-- A path leads to a file that may be read and holds a text. -/
def Holds (t : FileTree) (p : Path) (text : List Char) : Prop :=
  ∃ loc bytes mode, t.resolve .follow p = .ok loc ∧ t.get? loc = some (.file bytes mode) ∧
    t.mayRead loc ∧ Utf8.decode bytes = .ok text

theorem readFile_eq_ok_iff {t : FileTree} {p : Path} {bytes : List UInt8} :
    t.readFile p = .ok bytes ↔
      ∃ loc mode, t.resolve .follow p = .ok loc ∧ t.get? loc = some (.file bytes mode) ∧
        t.mayRead loc := by
  rw [readFile]
  cases hleads : t.resolve .follow p with
  | error cause => simp [bind, Except.bind]
  | ok loc =>
    by_cases hmay : t.mayRead loc
    · rcases hentry : t.get? loc with _ | (⟨held, mode⟩ | _ | _) <;>
        simp [hmay, hentry, bind, Except.bind, pure, Except.pure, throw, throwThe,
          MonadExceptOf.throw]
    · simp [hmay, bind, Except.bind, throw, throwThe, MonadExceptOf.throw]

theorem readSource_eq_ok_iff {t : FileTree} {p : Path} {text : List Char} :
    readSource Store.disk p t = .ok text ↔ Holds t p text := by
  have hread : readSource Store.disk p t = .ok text ↔
      ∃ bytes, t.readFile p = .ok bytes ∧ Utf8.decode bytes = .ok text := by
    have hstore : Store.disk.read p t = t.readFile p := rfl
    rw [readSource, hstore]
    cases t.readFile p with
    | error cause => simp
    | ok bytes => cases hdecode : Utf8.decode bytes <;> simp [hdecode]
  rw [hread]
  simp only [readFile_eq_ok_iff, Holds]
  constructor
  · rintro ⟨bytes, ⟨loc, mode, hleads, hfile, hmay⟩, htext⟩
    exact ⟨loc, bytes, mode, hleads, hfile, hmay, htext⟩
  · rintro ⟨loc, bytes, mode, hleads, hfile, hmay, htext⟩
    exact ⟨bytes, ⟨loc, mode, hleads, hfile, hmay⟩, htext⟩

section SameShape

variable {t : FileTree} {p : Path}

/-- A path is read as before in a tree of the same shape, if its own file was not touched. -/
theorem readSource_congr {s : FileTree} (hshape : t.SameShape s)
    (hown : ∀ loc, t.LeadsToFile p loc → s.get? loc = t.get? loc) :
    readSource Store.disk p s = readSource Store.disk p t := by
  have hread : s.readFile p = t.readFile p := by
    rw [readFile, readFile, hshape.resolve_eq]
    cases hleads : t.resolve .follow p with
    | error cause => rfl
    | ok loc =>
      rcases hshape.entry loc with same | ⟨mode, old, new, hold, -⟩
      · simp only [bind, Except.bind, same, mayRead_congr hshape.denied]
      · simp only [bind, Except.bind, hown loc ⟨hleads, old, mode, hold⟩,
          mayRead_congr hshape.denied]
  have hstore : ∀ t : FileTree, Store.disk.read p t = t.readFile p := fun _ => rfl
  rw [readSource, readSource, hstore, hstore, hread]

variable (ht : t.WellFormed) (hclear : Clear t p)
include ht hclear

/-- A commit ends in the same way in all trees of a shape. -/
theorem commit_cases {loc : Location} {old : List UInt8} {mode : Nat}
    (hleads : t.resolve .follow p = .ok loc) (hfile : t.get? loc = some (.file old mode))
    (loaded revised : List Char) :
    (∃ result, result ≠ .changed ∧
      ∀ s, t.SameShape s → commit Store.disk p loaded revised s = (result, s)) ∨
    (revised ≠ loaded ∧ ∀ s, t.SameShape s →
      commit Store.disk p loaded revised s =
        (.changed, s.put loc (.file (Utf8.encode revised) mode))) := by
  by_cases hsame : revised = loaded
  · exact .inl ⟨.unchanged, by simp, fun s _ => if_pos hsame⟩
  · rcases List.eq_nil_or_concat loc with rfl | ⟨dir, name, rfl⟩
    · cases hfile
    · rw [List.concat_eq_append] at hleads hfile ⊢
      obtain ⟨hdir, hname, -⟩ := ht.placed_of_isSome (Option.isSome_of_eq_some hfile)
      have hfree := hclear dir name ⟨hleads, old, mode, hfile⟩
      have hwrite : ∀ s, t.SameShape s → Store.disk.write p revised s =
          (t.verdict dir name mode, s.settle (dir ++ [name]) (.file (Utf8.encode revised) mode)
            (t.verdict dir name mode)) := by
        intro s hshape
        have hfile' : ∃ old', s.get? (dir ++ [name]) = some (.file old' mode) := by
          rcases hshape.entry (dir ++ [name]) with same | ⟨mode', old', new, hold, hnew⟩
          · exact ⟨old, same.trans hfile⟩
          · obtain ⟨-, rfl⟩ := Entry.file.inj (Option.some.inj (hfile.symm.trans hold))
            exact ⟨new, hnew⟩
        obtain ⟨old', hfile'⟩ := hfile'
        have hdir' : s.reachable (dir ++ [name]) → s.Standing dir := by
          rw [reachable_congr hshape.denied]
          exact fun hreach => hshape.standing (ht.standing hdir hreach)
        rw [← verdict_congr hshape.denied]
        exact replaceContent_of_file hdir' hname ((hshape.resolve_eq .follow p).trans hleads) hfile'
          ((hshape.get?_eq_none_iff _).mpr hfree) revised
      cases hverdict : t.verdict dir name mode with
      | error cause =>
        refine .inl ⟨.failed (.write p cause), by simp, fun s hshape => ?_⟩
        rw [commit_of_ne Store.disk p hsame, hwrite s hshape, hverdict, settle]
      | ok done =>
        refine .inr ⟨hsame, fun s hshape => ?_⟩
        rw [commit_of_ne Store.disk p hsame, hwrite s hshape, hverdict, settle]

/-- The event about a path that was read in a tree does not depend on what other files of the tree
hold by the time of the commit; nor does the entry that is written, if one is. -/
theorem finish_cases (sets : List RuleSet) (o : Options) :
    ∃ event : Event,
      (event.result ≠ .changed ∧ ∀ s, t.SameShape s →
        finish Store.disk sets o p (readSource Store.disk p t) s = (event, s)) ∨
      (event.result = .changed ∧ ∃ loc entry, Revises t sets p loc entry ∧ ∀ s, t.SameShape s →
        finish Store.disk sets o p (readSource Store.disk p t) s = (event, s.put loc entry)) := by
  cases hread : readSource Store.disk p t with
  | error cause => exact ⟨_, .inl ⟨by simp, fun s _ => rfl⟩⟩
  | ok text =>
    obtain ⟨loc, bytes, mode, hleads, hfile, -, htext⟩ := readSource_eq_ok_iff.mp hread
    rcases commit_cases ht hclear hleads hfile text
      (Pipeline.revise sets (.ofContent p text)).1.current with
      ⟨result, hresult, hcommit⟩ | ⟨hne, hcommit⟩
    · refine ⟨loadedEvent sets o p text result, .inl ⟨hresult, fun s hshape => ?_⟩⟩
      rw [finish_ok, hcommit s hshape]
    · refine ⟨loadedEvent sets o p text .changed, .inr ⟨rfl, loc, _,
        ⟨bytes, mode, text, hleads, hfile, htext, hne, rfl⟩, fun s hshape => ?_⟩⟩
      rw [finish_ok, hcommit s hshape]

theorem exists_revises_of_changed {sets : List RuleSet} {o : Options}
    (h : (process Store.disk sets o p t).1.result = .changed) :
    ∃ loc entry, Revises t sets p loc entry := by
  obtain ⟨event, ⟨hquiet, hfinish⟩ | ⟨-, loc, entry, hrevises, -⟩⟩ := finish_cases ht hclear sets o
  · rw [process, hfinish t (.refl t)] at h
    exact absurd h hquiet
  · exact ⟨loc, entry, hrevises⟩

end SameShape

end Codemod.Batch
