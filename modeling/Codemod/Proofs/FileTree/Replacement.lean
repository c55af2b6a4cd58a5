import Codemod.Proofs.FileTree.Resolution

/-! Replacing what a file holds.
The new content is first written beside the file. If nothing stands there, a replacement puts
the content into the file and changes nothing else, and a failure changes nothing at all. A
directory there only makes it fail; a file or a link is taken for the writer's own and lost. -/

namespace Codemod.FileTree

/-- A path leads to the file at a location. -/
def LeadsToFile (t : FileTree) (p : Path) (loc : Location) : Prop :=
  t.resolve .follow p = .ok loc ∧ t.IsFile loc

theorem LeadsToFile.unique {t : FileTree} {p : Path} {loc loc' : Location}
    (h : t.LeadsToFile p loc) (h' : t.LeadsToFile p loc') : loc = loc' :=
  Except.ok.inj (h.1.symm.trans h'.1)

theorem toList_tempSuffix :
    tempSuffix.toList = ['.', 's', 'r', 'c', 'f', 'i', 'x', '.', 't', 'm', 'p'] := by
  decide +kernel

theorem isName_temp {name : String} (h : IsName name) : IsName (name ++ tempSuffix) := by
  have chars : (name ++ tempSuffix).toList = name.toList ++ tempSuffix.toList :=
    String.toList_append
  rw [toList_tempSuffix] at chars
  refine ⟨?_, ?_, ?_⟩
  · have long : ∀ other : String, other.toList.length ≤ 2 → name ++ tempSuffix ≠ other := by
      intro other hother heq
      rw [← heq, chars] at hother
      simp at hother
    simp [long "" (by decide +kernel), long "." (by decide +kernel), long ".." (by decide +kernel)]
  · simpa [chars] using h.2.1
  · simpa [chars] using h.2.2

theorem temp_ne (dir : Location) (name : String) : dir ++ [name ++ tempSuffix] ≠ dir ++ [name] := by
  intro h
  have chars := congrArg String.toList (List.singleton_inj.mp (List.append_cancel_left h))
  rw [String.toList_append, toList_tempSuffix] at chars
  simp at chars

/-- A tree with the directories of another, with an entry wherever that has one, and as open to the
program. -/
structure Grown (t t' : FileTree) : Prop where
  isDir : ∀ loc, t'.isDir loc = t.isDir loc
  isSome : ∀ loc, (t.get? loc).isSome → (t'.get? loc).isSome
  denied : t'.denied = t.denied

namespace Grown

variable {t t' : FileTree}

theorem refl (t : FileTree) : t.Grown t :=
  ⟨fun _ => rfl, fun _ h => h, rfl⟩

theorem trans {t'' : FileTree} (h : t.Grown t') (h' : t'.Grown t'') : t.Grown t'' where
  isDir loc := (h'.isDir loc).trans (h.isDir loc)
  isSome loc hloc := h'.isSome loc (h.isSome loc hloc)
  denied := h'.denied.trans h.denied

theorem standing (h : t.Grown t') {dir : Location} (hdir : t.Standing dir) : t'.Standing dir :=
  hdir.congr h.denied fun loc hloc => (h.isDir loc).trans hloc

/-- A tree grows by a file that is put where no directory stands. -/
theorem put {loc : Location} (h : ¬ t.isDir loc) (bytes : List UInt8) (mode : Nat) :
    t.Grown (t.put loc (.file bytes mode)) := by
  have htop : loc ≠ [] := by
    rintro rfl
    exact h rfl
  refine ⟨?_, ?_, rfl⟩
  · intro other
    by_cases hother : other = loc
    · subst hother
      rw [Bool.eq_false_iff.mpr h]
      simp [FileTree.isDir, get?_put t _ htop]
    · simp [FileTree.isDir, get?_put t _ htop, hother]
  · intro other hother
    rw [get?_put t _ htop]
    split
    · rfl
    · exact hother

theorem of_writeFile {p : Path} {bytes : List UInt8} (h : t.writeFile p bytes = .ok t') :
    t.Grown t' := by
  cases hpath : t.resolve .create p with
  | error cause => simp [writeFile, hpath, bind, Except.bind] at h
  | ok loc =>
    rw [writeFile, hpath] at h
    rcases hentry : t.get? loc with _ | (⟨_, mode⟩ | _ | _) <;>
      simp only [bind, Except.bind, hentry, pure, Except.pure, throw, throwThe, MonadExceptOf.throw,
        reduceCtorEq, Except.ok.injEq] at h
    all_goals
      subst h
      exact put (by simp [FileTree.isDir, hentry]) _ _

theorem of_setMode {p : Path} {mode : Nat} (h : t.setMode p mode = .ok t') : t.Grown t' := by
  cases hpath : t.resolve .follow p with
  | error cause => simp [setMode, hpath, bind, Except.bind] at h
  | ok loc =>
    rw [setMode, hpath] at h
    rcases hentry : t.get? loc with _ | (⟨_, mode⟩ | _ | _) <;>
      simp only [bind, Except.bind, hentry, pure, Except.pure, Except.ok.injEq] at h
    all_goals subst h
    · exact refl t
    · exact put (by simp [FileTree.isDir, hentry]) _ _
    · exact refl t
    · exact refl t

end Grown

section Beside

variable {t : FileTree} {dir : Location} {name : String}

theorem removeFile_of_none (hdir : t.Standing dir) (hname : IsName name)
    (hnone : t.get? (dir ++ [name]) = none) : t.removeFile (absolute (dir ++ [name])) = t := by
  rw [removeFile, resolve_absolute hdir hname, hnone]
  by_cases hfits : Fits dir name
  · simp [hfits]
  · simp [hfits]

/-- Removing what stands under a name, unless it is a directory. -/
theorem removeFile_of_some (hdir : t.Standing dir) (hname : IsName name) (hfits : Fits dir name)
    {e : Entry} (hsome : t.get? (dir ++ [name]) = some e) (he : e ≠ .dir) :
    t.removeFile (absolute (dir ++ [name])) = t.erase (dir ++ [name]) := by
  have hplain : t.isDir (dir ++ [name]) = false := by simp [isDir, hsome, he]
  rw [removeFile, resolve_absolute hdir hname, if_pos hfits, hsome]
  cases e with
  | file => simp [hplain]
  | dir => exact absurd rfl he
  | link => simp [hplain]

theorem writeFile_of_none (hdir : t.Standing dir) (hname : IsName name)
    (hnone : t.get? (dir ++ [name]) = none) (bytes : List UInt8) :
    t.writeFile (absolute (dir ++ [name])) bytes =
      if Fits dir name then .ok (t.put (dir ++ [name]) (.file bytes 0o644))
      else .error .nameTooLong := by
  rw [writeFile, resolve_absolute hdir hname, hnone]
  by_cases hfits : Fits dir name
  · simp [hfits, bind, Except.bind, hnone, pure, Except.pure]
  · simp [hfits, bind, Except.bind]

theorem setMode_file (hdir : t.Standing dir) (hname : IsName name) (hfits : Fits dir name)
    {bytes : List UInt8} {old : Nat} (hfile : t.get? (dir ++ [name]) = some (.file bytes old))
    (mode : Nat) :
    t.setMode (absolute (dir ++ [name])) mode =
      .ok (t.put (dir ++ [name]) (.file bytes mode)) := by
  rw [setMode, resolve_absolute hdir hname, hfile, if_pos hfits]
  simp [bind, Except.bind, hfile, pure, Except.pure]

end Beside

theorem get?_of_rename {t t' : FileTree} {source target : Location} (hsource : source ≠ [])
    (htarget : target ≠ []) (hne : source ≠ target) (h : t.rename source target = .ok t') :
    t'.get? source = none := by
  unfold rename at h
  split at h
  · cases h
  · split_ifs at h
    cases h
    rw [get?_put _ _ htarget, if_neg hne, get?_erase t hsource, if_pos rfl]

theorem replaceContent_of_writable {t : FileTree} {p : Path} {dir : Location} {name : String}
    {e : Entry} (hpath : t.canonicalize p = .ok (dir ++ [name]))
    (he : t.get? (dir ++ [name]) = some e) (hwritable : isWritable (modeOf e))
    (content : List Char) :
    t.replaceContent p content =
      match t.writeBeside (dir ++ [name]) (dir ++ [name ++ tempSuffix]) (Utf8.encode content)
        (modeOf e) with
      | (.ok (), t) => (.ok (), t)
      | (.error cause, t) =>
        (.error cause, t.removeFile (absolute (dir ++ [name ++ tempSuffix]))) := by
  rcases hbeside : t.writeBeside (dir ++ [name]) (dir ++ [name ++ tempSuffix])
      (Utf8.encode content) (modeOf e) with ⟨_ | _, after⟩ <;>
    simp [replaceContent, hpath, he, hwritable, hbeside]

section Target

variable {t : FileTree} {dir : Location} {name : String} (hdir : t.Standing dir)
  (hname : IsName name)
include hdir hname

/-- Writing beside a target where nothing stands. -/
theorem writeBeside_of_none (hfree : t.get? (dir ++ [name ++ tempSuffix]) = none)
    (bytes : List UInt8) (mode : Nat) :
    t.writeBeside (dir ++ [name]) (dir ++ [name ++ tempSuffix]) bytes mode =
      if Fits dir (name ++ tempSuffix) then
        if t.isDir (dir ++ [name]) then
          (.error .isDirectory, t.put (dir ++ [name ++ tempSuffix]) (.file bytes mode))
        else (.ok (), t.put (dir ++ [name]) (.file bytes mode))
      else (.error .nameTooLong, t) := by
  have htemp := isName_temp hname
  have hplain : ¬ t.isDir (dir ++ [name ++ tempSuffix]) := by simp [isDir, hfree]
  rw [writeBeside, writeFile_of_none hdir htemp hfree]
  by_cases hfits : Fits dir (name ++ tempSuffix)
  · have hdir' : (t.put (dir ++ [name ++ tempSuffix]) (.file bytes 0o644)).Standing dir :=
      (Grown.put hplain bytes 0o644).standing hdir
    have hwritten : (t.put (dir ++ [name ++ tempSuffix]) (.file bytes 0o644)).get?
        (dir ++ [name ++ tempSuffix]) = some (.file bytes 0o644) :=
      get?_put_self t _ (by simp)
    simp only [hfits, if_true, setMode_file hdir' htemp hfits hwritten, put_put]
    rw [rename, get?_put_self t _ (by simp), (Grown.put hplain bytes mode).isDir, erase_put,
      erase_of_get?_none hfree]
    by_cases htarget : t.isDir (dir ++ [name])
    · simp [htarget]
    · simp [htarget]
  · simp [hfits]

/-- The content of a writable target is replaced, if nothing stands beside it. -/
theorem replaceContent_of_none {p : Path} {e : Entry}
    (hpath : t.canonicalize p = .ok (dir ++ [name])) (he : t.get? (dir ++ [name]) = some e)
    (hfree : t.get? (dir ++ [name ++ tempSuffix]) = none) (content : List Char) :
    t.replaceContent p content =
      if isWritable (modeOf e) then
        if Fits dir (name ++ tempSuffix) then
          if t.isDir (dir ++ [name]) then (.error .isDirectory, t)
          else (.ok (), t.put (dir ++ [name]) (.file (Utf8.encode content) (modeOf e)))
        else (.error .nameTooLong, t)
      else (.error .readOnly, t) := by
  have htemp := isName_temp hname
  by_cases hwritable : isWritable (modeOf e)
  · rw [replaceContent_of_writable hpath he hwritable, writeBeside_of_none hdir hname hfree,
      if_pos hwritable]
    by_cases hfits : Fits dir (name ++ tempSuffix)
    · by_cases htarget : t.isDir (dir ++ [name])
      · have hplain : ¬ t.isDir (dir ++ [name ++ tempSuffix]) := by simp [isDir, hfree]
        have hdir' : (t.put (dir ++ [name ++ tempSuffix])
            (.file (Utf8.encode content) (modeOf e))).Standing dir :=
          (Grown.put hplain _ _).standing hdir
        have hgone := removeFile_of_some hdir' htemp hfits (get?_put_self t _ (by simp)) (by simp)
        simp [hfits, htarget, hgone, erase_put, erase_of_get?_none hfree]
      · simp [hfits, htarget]
    · simp [hfits, removeFile_of_none hdir htemp hfree]
  · simp [replaceContent, hpath, he, hwritable]

/-- A directory beside the target, or a path beside it that is too long, stops a replacement. -/
theorem replaceContent_of_blocked {p : Path} {e : Entry}
    (hpath : t.canonicalize p = .ok (dir ++ [name])) (he : t.get? (dir ++ [name]) = some e)
    (hblocked : t.isDir (dir ++ [name ++ tempSuffix]) ∨ ¬ Fits dir (name ++ tempSuffix))
    (content : List Char) : ∃ cause, t.replaceContent p content = (.error cause, t) := by
  have htemp := isName_temp hname
  by_cases hwritable : isWritable (modeOf e)
  · rw [replaceContent_of_writable hpath he hwritable]
    by_cases hfits : Fits dir (name ++ tempSuffix)
    · have hthere := hblocked.resolve_right (not_not_intro hfits)
      have hentry := isDir_iff.mp hthere
      have hwrite : t.writeFile (absolute (dir ++ [name ++ tempSuffix])) (Utf8.encode content) =
          .error .isDirectory := by
        rw [writeFile, resolve_absolute hdir htemp, if_pos hfits, hentry]
        simp [bind, Except.bind, hentry, throw, throwThe, MonadExceptOf.throw]
      have hremove : t.removeFile (absolute (dir ++ [name ++ tempSuffix])) = t := by
        rw [removeFile, resolve_absolute hdir htemp, if_pos hfits, hentry]
        simp [hthere]
      exact ⟨.isDirectory, by simp [writeBeside, hwrite, hremove]⟩
    · have hwrite : t.writeFile (absolute (dir ++ [name ++ tempSuffix])) (Utf8.encode content) =
          .error .nameTooLong := by
        rw [writeFile, resolve_absolute hdir htemp, if_neg hfits]
        rfl
      have hremove : t.removeFile (absolute (dir ++ [name ++ tempSuffix])) = t := by
        rw [removeFile, resolve_absolute hdir htemp, if_neg hfits]
      exact ⟨.nameTooLong, by simp [writeBeside, hwrite, hremove]⟩
  · exact ⟨.readOnly, by simp [replaceContent, hpath, he, hwritable]⟩

/-- The clean-up takes a file or link away that stood beside the target from the start. -/
theorem get?_removeFile_of_grown {t' : FileTree} (hgrown : t.Grown t') (hfits : Fits dir name)
    {e : Entry} (hthere : t.get? (dir ++ [name]) = some e) (he : e ≠ .dir) :
    (t'.removeFile (absolute (dir ++ [name]))).get? (dir ++ [name]) = none := by
  have hplain : t'.isDir (dir ++ [name]) = false := by
    rw [hgrown.isDir]
    simp [isDir, hthere, he]
  obtain ⟨e', he'⟩ := Option.isSome_iff_exists.mp
    (hgrown.isSome (dir ++ [name]) (by rw [hthere]; rfl))
  have hkind : e' ≠ .dir := by
    rintro rfl
    simp [isDir, he'] at hplain
  rw [removeFile_of_some (hgrown.standing hdir) hname hfits he' hkind, get?_erase t' (by simp),
    if_pos rfl]

/-- A file or link beside a writable target is gone after a replacement, however that ends. -/
theorem get?_replaceContent_of_some {p : Path} {e beside : Entry}
    (hpath : t.canonicalize p = .ok (dir ++ [name])) (he : t.get? (dir ++ [name]) = some e)
    (hwritable : isWritable (modeOf e)) (hfits : Fits dir (name ++ tempSuffix))
    (hthere : t.get? (dir ++ [name ++ tempSuffix]) = some beside) (hbeside : beside ≠ .dir)
    (content : List Char) :
    (t.replaceContent p content).2.get? (dir ++ [name ++ tempSuffix]) = none := by
  have htemp := isName_temp hname
  have hgone : ∀ {t'}, t.Grown t' →
      (t'.removeFile (absolute (dir ++ [name ++ tempSuffix]))).get?
        (dir ++ [name ++ tempSuffix]) = none :=
    fun hgrown => get?_removeFile_of_grown hdir htemp hgrown hfits hthere hbeside
  rw [replaceContent_of_writable hpath he hwritable, writeBeside]
  cases hwrite : t.writeFile (absolute (dir ++ [name ++ tempSuffix])) (Utf8.encode content) with
  | error cause => exact hgone (.refl t)
  | ok t₁ =>
    have hgrown₁ := Grown.of_writeFile hwrite
    dsimp only
    cases hmode : t₁.setMode (absolute (dir ++ [name ++ tempSuffix])) (modeOf e) with
    | error cause => exact hgone hgrown₁
    | ok t₂ =>
      have hgrown₂ := hgrown₁.trans (Grown.of_setMode hmode)
      dsimp only
      cases hmove : t₂.rename (dir ++ [name ++ tempSuffix]) (dir ++ [name]) with
      | error cause => exact hgone hgrown₂
      | ok t₃ => exact get?_of_rename (by simp) (by simp) (temp_ne dir name) hmove

end Target

/-- A location is found if it can be reached, by a path from the top that is not too long. -/
theorem canonicalize_of_resolve {t : FileTree} {p : Path} {loc : Location}
    (h : t.resolve .follow p = .ok loc) :
    t.canonicalize p =
      if !t.reachable loc then .error .denied
      else if pathLimit ≤ (absolute loc).spelling.utf8ByteSize then .error .nameTooLong
      else .ok loc := by
  rw [canonicalize, h]
  simp only [bind, Except.bind, pure, Except.pure, throw, throwThe, MonadExceptOf.throw]

theorem canonicalize_eq_ok_iff {t : FileTree} {p : Path} {loc : Location} :
    t.canonicalize p = .ok loc ↔ t.resolve .follow p = .ok loc ∧ t.reachable loc ∧
      (absolute loc).spelling.utf8ByteSize < pathLimit := by
  cases h : t.resolve .follow p with
  | error cause => simp [canonicalize, h, bind, Except.bind]
  | ok found =>
    rw [canonicalize_of_resolve h, Except.ok.injEq, ← Nat.not_le]
    split_ifs with hreach hlong
    · refine ⟨nofun, ?_⟩
      rintro ⟨rfl, hopen, -⟩
      simp [hopen] at hreach
    · refine ⟨nofun, ?_⟩
      rintro ⟨rfl, -, hshort⟩
      exact absurd hlong hshort
    · rw [Except.ok.injEq]
      refine ⟨?_, And.left⟩
      rintro rfl
      exact ⟨rfl, by simpa using hreach, hlong⟩

/-- How it ends to replace the content of a file with nothing beside it, by where the file stands
and by its mode. -/
def verdict (t : FileTree) (dir : Location) (name : String) (mode : Nat) : Except IoError Unit :=
  if !t.reachable (dir ++ [name]) then .error .denied
  else if (absolute (dir ++ [name])).spelling.utf8ByteSize < pathLimit then
    if isWritable mode then
      if Fits dir (name ++ tempSuffix) then .ok () else .error .nameTooLong
    else .error .readOnly
  else .error .nameTooLong

theorem verdict_congr {t t' : FileTree} (h : t'.denied = t.denied) (dir : Location) (name : String)
    (mode : Nat) : t'.verdict dir name mode = t.verdict dir name mode := by
  rw [verdict, verdict, reachable_congr h]

/-- What is appended to the last name of a location is appended to its path. -/
theorem spelling_absolute_append (dir : Location) (name suffix : String) :
    (absolute (dir ++ [name ++ suffix])).spelling =
      (absolute (dir ++ [name])).spelling ++ suffix := by
  have chars : ∀ names : List (List Char), ['/'].intercalate (names ++ [(name ++ suffix).toList]) =
      ['/'].intercalate (names ++ [name.toList]) ++ suffix.toList := by
    intro names
    induction names with
    | nil => simp [List.intercalate]
    | cons first rest ih =>
      rw [List.cons_append, List.cons_append, Path.intercalate_cons first (by simp),
        Path.intercalate_cons first (by simp), ih]
      simp
  rw [← String.toList_inj, String.toList_append, toList_absolute, toList_absolute, List.map_append,
    List.map_append, List.map_singleton, List.map_singleton, chars, List.cons_append]

/-- A path that still fits with the name of the file beside it fits without. -/
theorem size_absolute_lt {dir : Location} {name : String} (h : Fits dir (name ++ tempSuffix)) :
    (absolute (dir ++ [name])).spelling.utf8ByteSize < pathLimit := by
  have hpath := h.1
  rw [spelling_absolute_append, String.utf8ByteSize_append] at hpath
  omega

theorem verdict_eq_ok_iff {t : FileTree} {dir : Location} {name : String} {mode : Nat} :
    t.verdict dir name mode = .ok () ↔
      t.reachable (dir ++ [name]) ∧ isWritable mode ∧ Fits dir (name ++ tempSuffix) := by
  unfold verdict
  by_cases hreach : t.reachable (dir ++ [name])
  · by_cases hfits : Fits dir (name ++ tempSuffix)
    · rw [if_pos (size_absolute_lt hfits)]
      by_cases hwritable : isWritable mode <;> simp [hreach, hwritable, hfits]
    · split_ifs <;> simp [hfits]
  · simp [hreach]

/-- The tree with an entry at a location, unless putting it there failed. -/
def settle (t : FileTree) (loc : Location) (entry : Entry) : Except IoError Unit → FileTree
  | .ok () => t.put loc entry
  | .error _ => t

/-- The content of a file with nothing beside it is replaced as the verdict says, and nothing
happens if that is a failure. -/
theorem replaceContent_of_file {t : FileTree} {p : Path} {dir : Location} {name : String}
    (hdir : t.reachable (dir ++ [name]) → t.Standing dir) (hname : IsName name)
    (hleads : t.resolve .follow p = .ok (dir ++ [name]))
    {old : List UInt8} {mode : Nat} (hfile : t.get? (dir ++ [name]) = some (.file old mode))
    (hfree : t.get? (dir ++ [name ++ tempSuffix]) = none) (content : List Char) :
    t.replaceContent p content = (t.verdict dir name mode,
      t.settle (dir ++ [name]) (.file (Utf8.encode content) mode) (t.verdict dir name mode)) := by
  have hfound := canonicalize_of_resolve hleads
  unfold verdict
  by_cases hreach : t.reachable (dir ++ [name])
  · by_cases hshort : (absolute (dir ++ [name])).spelling.utf8ByteSize < pathLimit
    · have hpath := canonicalize_eq_ok_iff.mpr ⟨hleads, hreach, hshort⟩
      have hplain : t.isDir (dir ++ [name]) = false := by simp [isDir, hfile]
      rw [replaceContent_of_none (hdir hreach) hname hpath hfile hfree, hplain, if_pos hshort]
      by_cases hwritable : isWritable mode
      · by_cases hfits : Fits dir (name ++ tempSuffix)
        · simp [hreach, hwritable, hfits, modeOf, settle]
        · simp [hreach, hwritable, hfits, modeOf, settle]
      · simp [hreach, hwritable, modeOf, settle]
    · rw [if_pos (Nat.le_of_not_lt hshort)] at hfound
      simp [replaceContent, hfound, hreach, hshort, settle]
  · simp [replaceContent, hfound, hreach, settle]

/-- Nothing is moved onto a directory. -/
theorem writeBeside_of_isDir {t : FileTree} {target : Location} (h : t.isDir target)
    (temp : Location) (bytes : List UInt8) (mode : Nat) :
    ∃ cause after, t.writeBeside target temp bytes mode = (.error cause, after) := by
  unfold writeBeside
  cases hwrite : t.writeFile (absolute temp) bytes with
  | error cause => exact ⟨cause, t, rfl⟩
  | ok written =>
    dsimp only
    cases hmode : written.setMode (absolute temp) mode with
    | error cause => exact ⟨cause, written, rfl⟩
    | ok ready =>
      dsimp only
      have hdir : ready.isDir target := by
        rw [(Grown.of_setMode hmode).isDir, (Grown.of_writeFile hwrite).isDir, h]
      unfold rename
      cases ready.get? temp with
      | none => exact ⟨.notFound, ready, rfl⟩
      | some e => exact ⟨.isDirectory, ready, by simp [hdir]⟩

/-- The content of a directory is not replaced, whatever stands beside it. -/
theorem replaceContent_of_isDir {t : FileTree} {p : Path} {target : Location}
    (hpath : t.canonicalize p = .ok target) (h : t.isDir target) (content : List Char) :
    ∃ cause, (t.replaceContent p content).1 = .error cause := by
  have hentry := isDir_iff.mp h
  rcases List.eq_nil_or_concat target with rfl | ⟨dir, name, rfl⟩
  · exact ⟨.noFileName, by simp [replaceContent, hpath, hentry, modeOf, isWritable]⟩
  · rw [List.concat_eq_append] at hpath h hentry
    obtain ⟨cause, after, hbeside⟩ := writeBeside_of_isDir h (dir ++ [name ++ tempSuffix])
      (Utf8.encode content) (modeOf .dir)
    refine ⟨cause, ?_⟩
    rw [replaceContent_of_writable hpath hentry (by decide), hbeside]

/-- No content is written where a path leads to no file. -/
theorem WellFormed.replaceContent_of_no_file {t : FileTree} (ht : t.WellFormed) {p : Path}
    (h : ∀ loc, ¬ t.LeadsToFile p loc) (content : List Char) :
    ∃ cause, (t.replaceContent p content).1 = .error cause := by
  cases hpath : t.canonicalize p with
  | error cause => exact ⟨cause, by simp [replaceContent, hpath]⟩
  | ok target =>
    have hleads := (canonicalize_eq_ok_iff.mp hpath).1
    rcases ht.sound_resolve hleads with hdir | hfile
    · exact replaceContent_of_isDir hpath hdir content
    · exact absurd ⟨hleads, hfile⟩ (h target)

/-- A file or link stands where the new content of a writable target is first written. -/
def Obstructed (t : FileTree) (p : Path) : Prop :=
  ∃ dir name e beside, t.canonicalize p = .ok (dir ++ [name]) ∧
    t.get? (dir ++ [name]) = some e ∧ isWritable (modeOf e) ∧
    (absolute (dir ++ [name ++ tempSuffix])).spelling.utf8ByteSize < pathLimit ∧
    t.get? (dir ++ [name ++ tempSuffix]) = some beside ∧ beside ≠ .dir

/-- What replacing a content does where nothing is in the way: it fails and changes nothing, or
it puts the content into the file. -/
theorem WellFormed.replaceContent_cases {t : FileTree} (ht : t.WellFormed) {p : Path}
    (h : ¬ t.Obstructed p) (content : List Char) :
    (∃ cause, t.replaceContent p content = (.error cause, t)) ∨
      ∃ loc old mode, t.resolve .follow p = .ok loc ∧ t.get? loc = some (.file old mode) ∧
        t.replaceContent p content = (.ok (), t.put loc (.file (Utf8.encode content) mode)) := by
  cases hpath : t.canonicalize p with
  | error cause => exact .inl ⟨cause, by simp [replaceContent, hpath]⟩
  | ok target =>
    have hleads := (canonicalize_eq_ok_iff.mp hpath).1
    rcases List.eq_nil_or_concat target with rfl | ⟨dir, name, rfl⟩
    · exact .inl ⟨.noFileName, by simp [replaceContent, hpath, get?_top, modeOf, isWritable]⟩
    · rw [List.concat_eq_append] at hpath hleads
      obtain ⟨e, he⟩ : ∃ e, t.get? (dir ++ [name]) = some e := by
        rcases ht.sound_resolve hleads with hdir | ⟨bytes, mode, hfile⟩
        · exact ⟨.dir, isDir_iff.mp hdir⟩
        · exact ⟨_, hfile⟩
      obtain ⟨hdir, hname, -⟩ := ht.placed_of_isSome (Option.isSome_of_eq_some he)
      have hstanding := ht.standing hdir (canonicalize_eq_ok_iff.mp hpath).2.1
      by_cases hblocked : t.isDir (dir ++ [name ++ tempSuffix]) ∨ ¬ Fits dir (name ++ tempSuffix)
      · exact .inl (replaceContent_of_blocked hstanding hname hpath he hblocked content)
      · rw [not_or, not_not] at hblocked
        by_cases hwritable : isWritable (modeOf e)
        · have hfree : t.get? (dir ++ [name ++ tempSuffix]) = none := by
            rw [Option.eq_none_iff_forall_ne_some]
            rintro beside hbeside
            refine h ⟨dir, name, e, beside, hpath, he, hwritable, hblocked.2.1, hbeside, ?_⟩
            rintro rfl
            exact hblocked.1 (isDir_iff.mpr hbeside)
          rw [replaceContent_of_none hstanding hname hpath he hfree, if_pos hwritable,
            if_pos hblocked.2]
          rcases ht.sound_resolve hleads with hdir | ⟨old, mode, hfile⟩
          · exact .inl ⟨.isDirectory, by rw [if_pos hdir]⟩
          · obtain rfl := Option.some.inj (he.symm.trans hfile)
            refine .inr ⟨dir ++ [name], old, mode, hleads, hfile, ?_⟩
            simp [isDir, hfile, modeOf]
        · exact .inl ⟨.readOnly, by simp [replaceContent, hpath, he, hwritable]⟩

end Codemod.FileTree
