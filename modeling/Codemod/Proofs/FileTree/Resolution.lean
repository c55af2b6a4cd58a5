import Codemod.Store
import Mathlib.Data.List.Basic
import Mathlib.Data.List.Induction

/-! File trees as files really stand in them, and where paths lead.
Every entry stands in a directory, under a name, and the working directory is a directory. So
the path of a location from the top leads to that location, if the directories on the way may be
passed, a path that is followed to its end
leads to a file or a directory, and where it leads does not depend on what files hold. -/

namespace Codemod.FileTree

theorem lookup_filter_ne (entries : List (Location × Entry)) (loc other : Location) :
    (entries.filter fun e => e.1 != loc).lookup other =
      if other = loc then none else entries.lookup other := by
  induction entries with
  | nil => simp
  | cons e rest ih =>
    obtain ⟨key, e⟩ := e
    by_cases hkey : key = loc
    · rw [List.filter_cons_of_neg (by simp [hkey]), ih, List.lookup_cons]
      by_cases hother : other = loc
      · simp [hother]
      · have apart : (other == key) = false := by simp [hkey, hother]
        simp [apart]
    · rw [List.filter_cons_of_pos (by simp [hkey]), List.lookup_cons, ih, List.lookup_cons]
      by_cases hother : other = key
      · have apart : other ≠ loc := hother ▸ hkey
        simp [hother, hkey]
      · have apart : (other == key) = false := by simp [hother]
        simp [apart]

theorem get?_top (t : FileTree) : t.get? [] = some .dir := rfl

theorem get?_erase (t : FileTree) {loc : Location} (h : loc ≠ []) (other : Location) :
    (t.erase loc).get? other = if other = loc then none else t.get? other := by
  by_cases htop : other = []
  · simp [get?, htop, Ne.symm h]
  · simp [get?, erase, htop, lookup_filter_ne]

theorem get?_put (t : FileTree) {loc : Location} (e : Entry) (h : loc ≠ []) (other : Location) :
    (t.put loc e).get? other = if other = loc then some e else t.get? other := by
  by_cases hother : other = loc
  · rw [if_pos hother, hother, get?_put_self t e h]
  · have apart : (other == loc) = false := by simp [hother]
    have kept := get?_erase t h other
    rw [if_neg hother] at kept ⊢
    rw [← kept]
    by_cases htop : other = []
    · simp [get?, htop]
    · simp [get?, put, htop, List.lookup_cons, apart]

theorem erase_put (t : FileTree) (loc : Location) (e : Entry) :
    (t.put loc e).erase loc = t.erase loc := by
  simp [put, erase]

theorem put_put (t : FileTree) (loc : Location) (e e' : Entry) :
    (t.put loc e).put loc e' = t.put loc e' := by
  simp [put, erase]

/-- Nothing is removed where nothing stands. -/
theorem erase_of_get?_none {t : FileTree} {loc : Location} (h : t.get? loc = none) :
    t.erase loc = t := by
  have htop : loc ≠ [] := by
    rintro rfl
    cases h
  rw [get?, if_neg htop, List.lookup_eq_none_iff] at h
  have kept : t.entries.filter (fun e => e.1 != loc) = t.entries := by
    rw [List.filter_eq_self]
    intro e he
    rw [bne_comm]
    exact h e he
  rw [erase, kept]

theorem isDir_iff {t : FileTree} {loc : Location} : t.isDir loc ↔ t.get? loc = some .dir :=
  beq_iff_eq

/-- What can be the name of an entry. -/
def IsName (name : String) : Prop :=
  name ∉ ["", ".", ".."] ∧ '/' ∉ name.toList ∧ '\x00' ∉ name.toList

instance (name : String) : Decidable (IsName name) :=
  inferInstanceAs (Decidable (_ ∧ _))

/-- An entry stands in a directory, under a name that is not too long. -/
def Placed (t : FileTree) (loc : Location) : Prop :=
  t.isDir loc.dropLast ∧ ∃ name ∈ loc.getLast?, IsName name ∧ name.utf8ByteSize < nameLimit

instance (t : FileTree) (loc : Location) : Decidable (t.Placed loc) :=
  inferInstanceAs (Decidable (_ ∧ _))

/-- What holds of every tree of files: there is one entry at a location, it is placed in a
directory, and the working directory is a directory. -/
structure WellFormed (t : FileTree) : Prop where
  distinct : (t.entries.map Prod.fst).Nodup
  placed : ∀ e ∈ t.entries, t.Placed e.1
  cwd : t.isDir t.cwd

instance (t : FileTree) : Decidable t.WellFormed :=
  decidable_of_iff ((t.entries.map Prod.fst).Nodup ∧ (∀ e ∈ t.entries, t.Placed e.1) ∧
      t.isDir t.cwd)
    ⟨fun h => ⟨h.1, h.2.1, h.2.2⟩, fun h => ⟨h.distinct, h.placed, h.cwd⟩⟩

theorem mayPass_congr {t t' : FileTree} (h : t'.denied = t.denied) (loc : Location) :
    t'.mayPass loc = t.mayPass loc := by
  rw [mayPass, mayPass, h]

theorem mayRead_congr {t t' : FileTree} (h : t'.denied = t.denied) (loc : Location) :
    t'.mayRead loc = t.mayRead loc := by
  rw [mayRead, mayRead, h]

theorem reachable_congr {t t' : FileTree} (h : t'.denied = t.denied) (loc : Location) :
    t'.reachable loc = t.reachable loc := by
  simp only [reachable, mayPass_congr h]

theorem reachable_concat (t : FileTree) (dir : Location) (name : String) :
    t.reachable (dir ++ [name]) = (t.reachable dir && t.mayPass dir) := by
  have above : ∀ depth ∈ List.range dir.length, t.mayPass ((dir ++ [name]).take depth) =
      t.mayPass (dir.take depth) := by
    intro depth hdepth
    rw [List.take_append_of_le_length (Nat.le_of_lt (List.mem_range.mp hdepth))]
  rw [reachable, List.length_append, List.length_singleton, List.range_succ, List.all_append,
    List.all_cons, List.all_nil, Bool.and_true, List.take_left, reachable]
  congr 1
  rw [Bool.eq_iff_iff, List.all_eq_true, List.all_eq_true]
  exact forall₂_congr fun depth hdepth => by rw [above depth hdepth]

/-- A directory that may be passed, with such directories on all the way up. -/
inductive Standing (t : FileTree) : Location → Prop where
  | top : t.mayPass [] → t.Standing []
  | inside {dir : Location} {name : String} : t.Standing dir → IsName name →
      name.utf8ByteSize < nameLimit → t.isDir (dir ++ [name]) → t.mayPass (dir ++ [name]) →
      t.Standing (dir ++ [name])

theorem Standing.isDir {t : FileTree} {dir : Location} (h : t.Standing dir) : t.isDir dir := by
  cases h with
  | top => rfl
  | inside _ _ _ hdir _ => exact hdir

theorem Standing.mayPass {t : FileTree} {dir : Location} (h : t.Standing dir) :
    t.mayPass dir := by
  cases h with
  | top hpass => exact hpass
  | inside _ _ _ _ hpass => exact hpass

theorem Standing.names {t : FileTree} {dir : Location} (h : t.Standing dir) :
    ∀ name ∈ dir, IsName name := by
  induction h with
  | top => simp
  | inside _ hname _ _ _ ih =>
    intro n hn
    rcases List.mem_append.mp hn with hn | hn
    · exact ih n hn
    · rw [List.mem_singleton.mp hn]
      exact hname

theorem Standing.congr {t t' : FileTree} (hdenied : t'.denied = t.denied)
    (h : ∀ loc, t.isDir loc → t'.isDir loc) {dir : Location} (hdir : t.Standing dir) :
    t'.Standing dir := by
  induction hdir with
  | top hpass => exact .top ((mayPass_congr hdenied _).trans hpass)
  | inside _ hname hfits hdir hpass ih =>
    exact .inside ih hname hfits (h _ hdir) ((mayPass_congr hdenied _).trans hpass)

section WellFormed

variable {t : FileTree} (ht : t.WellFormed)
include ht

theorem WellFormed.placed_of_isSome {dir : Location} {name : String}
    (h : (t.get? (dir ++ [name])).isSome) :
    t.isDir dir ∧ IsName name ∧ name.utf8ByteSize < nameLimit := by
  obtain ⟨e, he⟩ := Option.isSome_iff_exists.mp h
  rw [get?, if_neg (by simp), List.lookup_eq_some_iff] at he
  obtain ⟨before, after, hentries, -⟩ := he
  have placed := ht.placed (dir ++ [name], e) (by simp [hentries])
  simpa [Placed] using placed

/-- The directory of an entry that can be reached. -/
theorem WellFormed.standing {dir : Location} {name : String} (h : t.isDir dir)
    (hreach : t.reachable (dir ++ [name])) : t.Standing dir := by
  induction dir using List.reverseRecOn generalizing name with
  | nil =>
    rw [reachable_concat, Bool.and_eq_true] at hreach
    exact .top hreach.2
  | append_singleton dir last ih =>
    rw [reachable_concat, Bool.and_eq_true] at hreach
    obtain ⟨hdir, hname, hfits⟩ := ht.placed_of_isSome (Option.isSome_of_eq_some (isDir_iff.mp h))
    exact .inside (ih hdir hreach.1) hname hfits h hreach.2

theorem WellFormed.isDir_dropLast {loc : Location} (h : t.isDir loc) : t.isDir loc.dropLast := by
  rcases List.eq_nil_or_concat loc with rfl | ⟨dir, name, rfl⟩
  · rfl
  · rw [List.concat_eq_append] at h ⊢
    rw [List.dropLast_concat]
    exact (ht.placed_of_isSome (Option.isSome_of_eq_some (isDir_iff.mp h))).1

end WellFormed

end Codemod.FileTree

namespace Codemod.Path

theorem pieces_of_not_mem {cs : List Char} (h : '/' ∉ cs) : pieces cs = [cs] := by
  induction cs with
  | nil => rfl
  | cons c rest ih =>
    rw [List.mem_cons, not_or] at h
    simp [pieces, Ne.symm h.1, ih h.2]

theorem pieces_ne_nil (cs : List Char) : pieces cs ≠ [] := by
  fun_cases pieces cs <;> simp

/-- A separator separates. -/
theorem pieces_append_slash (cs rest : List Char) :
    pieces (cs ++ '/' :: rest) = pieces cs ++ pieces rest := by
  induction cs with
  | nil => simp [pieces]
  | cons c cs ih =>
    rw [List.cons_append, pieces, pieces, ih]
    split_ifs
    · rfl
    · cases h : pieces cs with
      | nil => exact absurd h (pieces_ne_nil cs)
      | cons first others => rfl

theorem intercalate_cons (name : List Char) {rest : List (List Char)} (h : rest ≠ []) :
    ['/'].intercalate (name :: rest) = name ++ '/' :: ['/'].intercalate rest := by
  cases rest with
  | nil => exact absurd rfl h
  | cons next rest => simp [List.intercalate]

theorem mem_intercalate {c : Char} {names : List (List Char)}
    (h : c ∈ ['/'].intercalate names) : c = '/' ∨ ∃ name ∈ names, c ∈ name := by
  induction names with
  | nil => cases h
  | cons name rest ih =>
    by_cases hrest : rest = []
    · exact .inr ⟨name, by simp, by simpa [List.intercalate, hrest] using h⟩
    · rw [intercalate_cons name hrest, List.mem_append, List.mem_cons] at h
      rcases h with h | h | h
      · exact .inr ⟨name, by simp, h⟩
      · exact .inl h
      · exact (ih h).imp_right fun ⟨other, hother, hc⟩ => ⟨other, by simp [hother], hc⟩

/-- Names between separators are the pieces again, and the last one ends the text. -/
theorem pieces_intercalate {names : List (List Char)} {last : List Char}
    (h : ∀ name ∈ names ++ [last], '/' ∉ name) :
    pieces (['/'].intercalate (names ++ [last])) = names ++ [last] ∧
      last <:+ ['/'].intercalate (names ++ [last]) := by
  induction names with
  | nil =>
    have alone : ['/'].intercalate ([] ++ [last]) = last := by simp [List.intercalate]
    rw [alone]
    exact ⟨pieces_of_not_mem (h last (by simp)), List.suffix_refl last⟩
  | cons name rest ih =>
    rw [List.cons_append, List.forall_mem_cons] at h
    rw [List.cons_append, intercalate_cons name (by simp), pieces_append_slash,
      pieces_of_not_mem h.1, (ih h.2).1]
    exact ⟨rfl, ((ih h.2).2.trans (List.suffix_cons ..)).trans (List.suffix_append ..)⟩

end Codemod.Path

namespace Codemod.FileTree

theorem toList_absolute (loc : Location) :
    (absolute loc).spelling.toList = '/' :: ['/'].intercalate (loc.map String.toList) := by
  simp [absolute, String.toList_intercalate]

theorem nul_not_mem_absolute {loc : Location} (h : ∀ name ∈ loc, IsName name) :
    '\x00' ∉ (absolute loc).spelling.toList := by
  rw [toList_absolute, List.mem_cons]
  rintro (hslash | hin)
  · cases hslash
  · rcases Path.mem_intercalate hin with hslash | ⟨cs, hcs, hmem⟩
    · cases hslash
    · obtain ⟨name, hname, rfl⟩ := List.mem_map.mp hcs
      exact (h name hname).2.2 hmem

/-- The steps of the path of a location are its names. -/
theorem stepsOf_absolute {loc : Location} (h : ∀ name ∈ loc, IsName name) :
    stepsOf (absolute loc).spelling = loc := by
  induction loc using List.reverseRecOn with
  | nil => rfl
  | append_singleton dir name _ =>
    have whole : ∀ cs ∈ dir.map String.toList ++ [name.toList], '/' ∉ cs ∧ cs ≠ [] := by
      intro cs hcs
      rw [← List.map_singleton, ← List.map_append] at hcs
      obtain ⟨n, hn, rfl⟩ := List.mem_map.mp hcs
      have hname := h n hn
      exact ⟨hname.2.1, fun hnil => hname.1 (by simp [String.toList_eq_nil_iff.mp hnil])⟩
    obtain ⟨hpieces, front, hlast⟩ := Path.pieces_intercalate fun cs hcs => (whole cs hcs).1
    have hname := whole name.toList (by simp)
    have bare : (absolute (dir ++ [name])).spelling.toList.getLast? ≠ some '/' := by
      rw [toList_absolute, List.map_append, List.map_singleton, ← hlast, ← List.cons_append,
        List.getLast?_append_of_ne_nil _ hname.2]
      intro hslash
      exact hname.1 (List.mem_of_getLast? hslash)
    have steps : (Path.pieces (absolute (dir ++ [name])).spelling.toList).filter (!·.isEmpty) =
        (dir ++ [name]).map String.toList := by
      rw [toList_absolute, List.map_append, List.map_singleton, ← List.nil_append ('/' :: _),
        Path.pieces_append_slash, hpieces, Path.pieces_of_not_mem (by simp), List.singleton_append,
        List.filter_cons_of_neg (by simp), List.filter_eq_self]
      intro cs hcs
      simp [(whole cs hcs).2]
    simp only [stepsOf, bare, steps, decide_false, Bool.false_and, Bool.false_eq_true, if_false]
    simp

/-- Neither a name nor its path from the top, through a directory, is too long. -/
def Fits (dir : Location) (name : String) : Prop :=
  (absolute (dir ++ [name])).spelling.utf8ByteSize < pathLimit ∧ name.utf8ByteSize < nameLimit

instance (dir : Location) (name : String) : Decidable (Fits dir name) :=
  inferInstanceAs (Decidable (_ ∧ _))

section Advance

variable {t : FileTree} {last : Last}

/-- A way from the top through standing directories. -/
theorem advance_standing {dir : Location} (hdir : t.Standing dir) {name : String}
    (hname : name ≠ "") (rest : List String) :
    t.advance last [] (dir ++ name :: rest) = t.advance last dir (name :: rest) := by
  induction hdir generalizing name rest with
  | top => rfl
  | @inside dir step hdir hstep hfits hin _ ih =>
    rw [List.append_assoc, List.singleton_append, ih (fun h => hstep.1 (by simp [h]))]
    have honto : (name :: rest) ≠ [""] := by simp [hname]
    have hplain : step.isEmpty = false ∧ step ≠ "." ∧ step ≠ ".." := by
      simpa [IsName] using hstep.1
    rw [advance]
    simp [hdir.isDir, hdir.mayPass, hplain, honto, Nat.not_le.mpr hfits, isDir_iff.mp hin]

/-- What the last step of a way finds in its directory. -/
theorem advance_name {dir : Location} (hdir : t.isDir dir) (hpass : t.mayPass dir) {name : String}
    (hname : IsName name) :
    t.advance last dir [name] =
      if nameLimit ≤ name.utf8ByteSize then .error .nameTooLong
      else match t.get? (dir ++ [name]) with
        | none => if last = .create then .ok (.arrived (dir ++ [name])) else .error .notFound
        | some (.link target) =>
          if last = .keep then .ok (.arrived (dir ++ [name])) else .ok (.link dir target [])
        | some _ => .ok (.arrived (dir ++ [name])) := by
  have hplain : name.isEmpty = false ∧ name ≠ "." ∧ name ≠ ".." := by
    simpa [IsName] using hname.1
  rcases hentry : t.get? (dir ++ [name]) with _ | (_ | _ | target) <;>
    simp [advance, hdir, hpass, hplain, hentry]

/-- Where the path of a location from the top leads. -/
theorem resolve_absolute {dir : Location} (hdir : t.Standing dir) {name : String}
    (hname : IsName name) :
    t.resolve last (absolute (dir ++ [name])) =
      if Fits dir name then
        match t.get? (dir ++ [name]) with
        | none => if last = .create then .ok (dir ++ [name]) else .error .notFound
        | some (.link target) =>
          if last = .keep then .ok (dir ++ [name])
          else t.travel last (linkLimit - 1) (startOf dir target) (stepsOf target)
        | some _ => .ok (dir ++ [name])
      else .error .nameTooLong := by
  have names : ∀ n ∈ dir ++ [name], IsName n := by
    simpa [or_imp, forall_and] using ⟨hdir.names, hname⟩
  have clean := nul_not_mem_absolute names
  have start : startOf t.cwd (absolute (dir ++ [name])).spelling = [] := by
    simp [startOf, toList_absolute]
  have spelled : (absolute (dir ++ [name])).spelling ≠ "" := by
    intro h
    have slash := toList_absolute (dir ++ [name])
    simp [h] at slash
  rw [resolve, start, stepsOf_absolute names]
  simp only [List.contains_iff_mem, clean, if_false, String.isEmpty_iff, spelled]
  have hstep : name ≠ "" := fun h => hname.1 (by simp [h])
  rw [travel, advance_standing hdir hstep, advance_name hdir.isDir hdir.mayPass hname]
  by_cases hfits : Fits dir name
  · rw [if_pos hfits, if_neg (Nat.not_le.mpr hfits.1), if_neg (Nat.not_le.mpr hfits.2)]
    rcases t.get? (dir ++ [name]) with _ | (_ | _ | target)
    · by_cases hlast : last = .create <;> simp [hlast]
    · rfl
    · rfl
    · by_cases hlast : last = .keep <;> simp [hlast, linkLimit]
  · rw [if_neg hfits]
    by_cases hpath : pathLimit ≤ (absolute (dir ++ [name])).spelling.utf8ByteSize
    · rw [if_pos hpath]
    · have hlong : nameLimit ≤ name.utf8ByteSize :=
        Nat.le_of_not_lt fun h => hfits ⟨Nat.lt_of_not_le hpath, h⟩
      rw [if_neg hpath, if_pos hlong]

end Advance

/-- A file stands at a location. -/
def IsFile (t : FileTree) (loc : Location) : Prop :=
  ∃ bytes mode, t.get? loc = some (.file bytes mode)

instance (t : FileTree) (loc : Location) : Decidable (t.IsFile loc) :=
  match h : t.get? loc with
  | some (.file bytes mode) => .isTrue ⟨bytes, mode, h⟩
  | none | some .dir | some (.link _) => .isFalse (by simp [IsFile, h])

/-- A way that is followed stands on a file or a directory, and a link in a directory. -/
def Progress.Sound (t : FileTree) : Progress → Prop
  | .arrived loc => t.isDir loc ∨ t.IsFile loc
  | .link dir _ _ => t.isDir dir

section Followed

variable {t : FileTree} (ht : t.WellFormed)
include ht

theorem WellFormed.sound_advance {loc : Location} {steps : List String} {progress : Progress}
    (h : t.isDir loc ∨ t.IsFile loc) (hadvance : t.advance .follow loc steps = .ok progress) :
    progress.Sound t := by
  fun_induction advance t .follow loc steps with
  | case1 loc =>
    cases hadvance
    exact h
  | case2 | case4 | case7 | case8 | case10 => cases hadvance
  | case3 loc step rest _ _ ih => exact ih h hadvance
  | case5 loc rest _ _ _ ih => exact ih h hadvance
  | case6 loc rest hdir _ _ _ ih =>
    exact ih (.inl (ht.isDir_dropLast (by simpa using hdir))) hadvance
  | case9 _ _ _ _ _ _ _ _ _ _ _ hmake => simp at hmake
  | case11 _ _ _ _ _ _ _ _ _ _ _ _ hkeep => simp at hkeep
  | case12 loc step rest hdir =>
    cases hadvance
    exact (by simpa using hdir : t.isDir loc)
  | case13 loc step rest _ _ _ _ _ _ _ entry hentry hget ih =>
    apply ih _ hadvance
    cases entry with
    | file bytes mode => exact .inr ⟨bytes, mode, hget⟩
    | dir => exact .inl (isDir_iff.mpr hget)
    | link target => exact absurd rfl (hentry target)

theorem WellFormed.sound_travel {links : Nat} {loc found : Location} {steps : List String}
    (h : t.isDir loc ∨ t.IsFile loc) (htravel : t.travel .follow links loc steps = .ok found) :
    t.isDir found ∨ t.IsFile found := by
  fun_induction travel t .follow links loc steps with
  | case1 | case3 => cases htravel
  | case2 links loc steps arrived hadvance =>
    cases htravel
    exact ht.sound_advance h hadvance
  | case4 loc steps dir target rest hadvance links ih =>
    have hdir : t.isDir dir := ht.sound_advance h hadvance
    apply ih _ htravel
    unfold startOf
    split
    · exact .inl rfl
    · exact .inl hdir

/-- A path that is followed to its end leads to a file or a directory. -/
theorem WellFormed.sound_resolve {p : Path} {loc : Location}
    (h : t.resolve .follow p = .ok loc) : t.isDir loc ∨ t.IsFile loc := by
  unfold resolve at h
  split_ifs at h
  apply ht.sound_travel _ h
  unfold startOf
  split
  · exact .inl rfl
  · exact .inl ht.cwd

end Followed

/-- Two trees that differ in the contents of files only. -/
structure SameShape (t t' : FileTree) : Prop where
  cwd : t'.cwd = t.cwd
  denied : t'.denied = t.denied
  entry : ∀ loc, t'.get? loc = t.get? loc ∨
    ∃ mode old new, t.get? loc = some (.file old mode) ∧ t'.get? loc = some (.file new mode)

namespace SameShape

variable {t t' : FileTree}

theorem refl (t : FileTree) : t.SameShape t :=
  ⟨rfl, rfl, fun _ => .inl rfl⟩

/-- A file may get another content. -/
theorem put (h : t.SameShape t') {loc : Location} {old : List UInt8} {mode : Nat}
    (hfile : t.get? loc = some (.file old mode)) (new : List UInt8) :
    t.SameShape (t'.put loc (.file new mode)) := by
  have htop : loc ≠ [] := by
    rintro rfl
    cases hfile
  refine ⟨h.cwd, h.denied, fun other => ?_⟩
  rw [get?_put t' _ htop]
  by_cases hother : other = loc
  · subst hother
    exact .inr ⟨mode, old, new, hfile, if_pos rfl⟩
  · rw [if_neg hother]
    exact h.entry other

section Congruence

variable (h : t.SameShape t')
include h

theorem isDir_eq (loc : Location) : t'.isDir loc = t.isDir loc := by
  rcases h.entry loc with same | ⟨mode, old, new, hold, hnew⟩
  · rw [isDir, same, isDir]
  · simp [isDir, hold, hnew]

theorem get?_eq_none_iff (loc : Location) : t'.get? loc = none ↔ t.get? loc = none := by
  rcases h.entry loc with same | ⟨mode, old, new, hold, hnew⟩
  · rw [same]
  · simp [hold, hnew]

theorem standing {dir : Location} (hdir : t.Standing dir) : t'.Standing dir :=
  hdir.congr h.denied fun loc hloc => (h.isDir_eq loc).trans hloc

theorem advance_eq (last : Last) (loc : Location) (steps : List String) :
    t'.advance last loc steps = t.advance last loc steps := by
  induction steps generalizing loc with
  | nil => rfl
  | cons step rest ih =>
    rw [advance, advance, h.isDir_eq, mayPass_congr h.denied, ih, ih, ih]
    rcases h.entry (loc ++ [step]) with same | ⟨mode, old, new, hold, hnew⟩
    · rw [same]
    · rw [hold, hnew]

theorem travel_eq (last : Last) (links : Nat) (loc : Location) (steps : List String) :
    t'.travel last links loc steps = t.travel last links loc steps := by
  induction links generalizing loc steps with
  | zero => rw [travel, travel, h.advance_eq]
  | succ links ih =>
    rw [travel, travel, h.advance_eq]
    simp only [ih]

/-- Where a path leads does not depend on what files hold. -/
theorem resolve_eq (last : Last) (p : Path) : t'.resolve last p = t.resolve last p := by
  rw [resolve, resolve, h.cwd, h.travel_eq]

end Congruence

end SameShape

end Codemod.FileTree
