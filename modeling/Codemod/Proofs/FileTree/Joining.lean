import Codemod.Proofs.FileTree.Resolution

/-! Where the path of an entry leads.
A way that is followed to its end can be continued from there, so the path of an entry of a
directory leads to the entry, if the path of the directory leads to the directory. A way whose last
link is kept ends where it would end if that was followed, or at the link. -/

namespace Codemod.Path

/-- A separator is put before a name unless there is one. -/
theorem toList_join {p : Path} (h : p.spelling ≠ "") (name : String) :
    (p.join name).spelling.toList =
      if p.spelling.toList.getLast? = some '/' then p.spelling.toList ++ name.toList
      else p.spelling.toList ++ '/' :: name.toList := by
  simp only [join, Bool.or_eq_true, String.isEmpty_iff, h, false_or, beq_iff_eq]
  split_ifs <;> simp

/-- The names on the way of a path. -/
theorem filter_pieces_join {p : Path} (h : p.spelling ≠ "") {name : String} (hname : name ≠ "")
    (hwhole : '/' ∉ name.toList) :
    (pieces (p.join name).spelling.toList).filter (!·.isEmpty) =
      (pieces p.spelling.toList).filter (!·.isEmpty) ++ [name.toList] := by
  have hlast : (pieces name.toList).filter (!·.isEmpty) = [name.toList] := by
    rw [pieces_of_not_mem hwhole]
    simp [hname]
  rw [toList_join h]
  split_ifs with hslash
  · obtain ⟨front, hfront⟩ := List.getLast?_eq_some_iff.mp hslash
    rw [hfront, List.append_assoc, List.singleton_append, pieces_append_slash,
      pieces_append_slash, List.filter_append, List.filter_append, hlast]
    simp [pieces]
  · rw [pieces_append_slash, List.filter_append, hlast]

end Codemod.Path

namespace Codemod.FileTree

variable {t : FileTree}

theorem advance_append (loc : Location) (steps more : List String) :
    t.advance .follow loc (steps ++ more) =
      match t.advance .follow loc steps with
      | .error e => .error e
      | .ok (.arrived dir) => t.advance .follow dir more
      | .ok (.link dir target rest) => .ok (.link dir target (rest ++ more)) := by
  induction steps generalizing loc with
  | nil => rfl
  | cons step steps ih =>
    simp only [List.cons_append, advance, ih, reduceCtorEq, decide_false, Bool.and_false,
      Bool.false_eq_true, if_false]
    split_ifs
    · rfl
    · rfl
    · rfl
    · rfl
    · rfl
    · rfl
    · rcases t.get? (loc ++ [step]) with _ | (_ | _ | target) <;> rfl

/-- A way that led to a directory goes on from there, and ends as it ends from there if it comes
upon no link. -/
theorem travel_append {links : Nat} {loc dir : Location} {steps more : List String}
    {found : Except IoError Location} (h : t.travel .follow links loc steps = .ok dir)
    (hmore : t.advance .follow dir more = found.map .arrived) :
    t.travel .follow links loc (steps ++ more) = found := by
  fun_induction t.travel .follow links loc steps with
  | case1 links loc steps e hsteps => cases h
  | case2 links loc steps dir hsteps =>
    obtain rfl := Except.ok.inj h
    rw [travel, advance_append, hsteps]
    simp only [hmore]
    cases found <;> rfl
  | case3 loc steps stop target rest hsteps => cases h
  | case4 loc steps stop target rest hsteps links ih =>
    rw [travel, advance_append, hsteps]
    simpa only [List.append_assoc] using ih h

theorem advance_keep_cases (loc : Location) (steps : List String) :
    t.advance .keep loc steps = t.advance .follow loc steps ∨
      ∃ own target, t.advance .keep loc steps = .ok (.arrived own) ∧
        t.get? own = some (.link target) := by
  induction steps generalizing loc with
  | nil => exact .inl rfl
  | cons step steps ih =>
    simp only [advance, reduceCtorEq, decide_false, decide_true, Bool.and_false, Bool.and_true,
      Bool.false_eq_true, if_false]
    split_ifs with hblocked hblank hdenied hstay hup hlong hlast
    · exact .inl rfl
    · exact ih loc
    · exact .inl rfl
    · exact ih loc
    · exact ih loc.dropLast
    · exact .inl rfl
    · rcases hentry : t.get? (loc ++ [step]) with _ | (_ | _ | target)
      · exact .inl rfl
      · exact ih (loc ++ [step])
      · exact ih (loc ++ [step])
      · exact .inr ⟨loc ++ [step], target, rfl, hentry⟩
    · rcases t.get? (loc ++ [step]) with _ | (_ | _ | target)
      · exact .inl rfl
      · exact ih (loc ++ [step])
      · exact ih (loc ++ [step])
      · exact .inl rfl

theorem travel_keep_cases (links : Nat) (loc : Location) (steps : List String) :
    t.travel .keep links loc steps = t.travel .follow links loc steps ∨
      ∃ own target, t.travel .keep links loc steps = .ok own ∧
        t.get? own = some (.link target) := by
  induction links generalizing loc steps with
  | zero =>
    rw [travel, travel]
    rcases advance_keep_cases loc steps with heq | ⟨own, target, heq, hlink⟩
    · exact .inl (by rw [heq])
    · exact .inr ⟨own, target, by rw [heq], hlink⟩
  | succ links ih =>
    rw [travel, travel]
    rcases advance_keep_cases loc steps with heq | ⟨own, target, heq, hlink⟩
    · rw [heq]
      rcases t.advance .follow loc steps with _ | (_ | ⟨stop, target, rest⟩)
      · exact .inl rfl
      · exact .inl rfl
      · exact ih _ _
    · exact .inr ⟨own, target, by rw [heq], hlink⟩

/-- Keeping the last link of a path makes a difference only where the path leads to a link. -/
theorem resolve_keep_cases (p : Path) :
    t.resolve .keep p = t.resolve .follow p ∨
      ∃ own target, t.resolve .keep p = .ok own ∧ t.get? own = some (.link target) := by
  unfold resolve
  split_ifs
  · exact .inl rfl
  · exact .inl rfl
  · exact .inl rfl
  · exact travel_keep_cases _ _ _

theorem resolve_of_keep_file {p : Path} {loc : Location} (h : t.resolve .keep p = .ok loc)
    (hfile : t.IsFile loc) : t.resolve .follow p = .ok loc := by
  rcases resolve_keep_cases p with heq | ⟨own, target, hown, hlink⟩
  · rw [← heq, h]
  · obtain rfl := Except.ok.inj (h.symm.trans hown)
    obtain ⟨bytes, mode, hfile⟩ := hfile
    cases hfile.symm.trans hlink

theorem resolve_eq_ok_iff {last : Last} {p : Path} {loc : Location} :
    t.resolve last p = .ok loc ↔
      ('\x00' ∉ p.spelling.toList ∧ p.spelling ≠ "" ∧ p.spelling.utf8ByteSize < pathLimit) ∧
        t.travel last linkLimit (startOf t.cwd p.spelling) (stepsOf p.spelling) = .ok loc := by
  unfold resolve
  split_ifs with hnul hempty hlong
  · simp_all
  · simp_all
  · simp [Nat.not_lt.mpr hlong]
  · simp_all

theorem stepsOf_cases (spelling : String) :
    let names := ((Path.pieces spelling.toList).filter (!·.isEmpty)).map String.ofList
    stepsOf spelling = names ∨ stepsOf spelling = names ++ [""] := by
  simp only [stepsOf]
  split_ifs
  · exact .inr (by simp)
  · exact .inl rfl

theorem stepsOf_join {p : Path} (h : p.spelling ≠ "") {name : String} (hname : IsName name) :
    stepsOf (p.join name).spelling =
      ((Path.pieces p.spelling.toList).filter (!·.isEmpty)).map String.ofList ++ [name] := by
  have hne : name ≠ "" := fun hempty => hname.1 (by simp [hempty])
  have hlast : (p.join name).spelling.toList.getLast? ≠ some '/' := by
    have hend : name.toList.getLast? ≠ some '/' :=
      fun hslash => hname.2.1 (List.mem_of_getLast? hslash)
    rw [Path.toList_join h]
    split_ifs
    · rwa [List.getLast?_append_of_ne_nil _ (by simpa using hne)]
    · rwa [List.getLast?_append_of_ne_nil _ (by simp),
        List.getLast?_cons_of_ne_nil (by simpa using hne)]
  simp only [stepsOf, hlast, decide_false, Bool.false_and, Bool.false_eq_true, if_false]
  rw [Path.filter_pieces_join h hne hname.2.1, List.map_append]
  simp

/-- An empty step before others makes no difference. -/
theorem travel_blank (links : Nat) (loc : Location) (steps : List String) (step : String) :
    t.travel .follow links loc (steps ++ ["", step]) =
      t.travel .follow links loc (steps ++ [step]) := by
  have hblank : ∀ dir, t.advance .follow dir ["", step] = t.advance .follow dir [step] := by
    intro dir
    rw [advance]
    by_cases hdir : t.isDir dir
    · simp [hdir]
    · simp [hdir, advance]
  induction links generalizing loc steps with
  | zero =>
    rw [travel, travel, advance_append, advance_append]
    rcases t.advance .follow loc steps with _ | (dir | _)
    · rfl
    · simp only [hblank]
    · rfl
  | succ links ih =>
    rw [travel, travel, advance_append, advance_append]
    rcases t.advance .follow loc steps with _ | (dir | ⟨stop, target, rest⟩)
    · rfl
    · simp only [hblank]
    · simpa only [List.append_assoc] using ih (startOf stop target) (stepsOf target ++ rest)

/-- The step to an entry that is no link. -/
theorem advance_entry {dir : Location} (hdir : t.isDir dir) {name : String} (hname : IsName name)
    (hfits : name.utf8ByteSize < nameLimit) {e : Entry} (hentry : t.get? (dir ++ [name]) = some e)
    (hreal : ∀ target, e ≠ .link target) :
    t.advance .follow dir [name] =
      if t.mayPass dir then .ok (.arrived (dir ++ [name])) else .error .denied := by
  by_cases hpass : t.mayPass dir
  · rw [advance_name hdir hpass hname, if_neg (Nat.not_le.mpr hfits), hentry, if_pos hpass]
    cases e with
    | file bytes mode => rfl
    | dir => rfl
    | link target => exact absurd rfl (hreal target)
  · have hne : name.isEmpty = false := by
      have hplain : name ≠ "" := fun hempty => hname.1 (by simp [hempty])
      simpa using hplain
    simp [advance, hdir, hpass, hne]

/-- The path of an entry, no link, leads to it, if its directory may be passed and the path is not
too long. -/
theorem resolve_join {p : Path} {dir : Location} (h : t.resolve .follow p = .ok dir)
    (hdir : t.isDir dir) {name : String} (hname : IsName name)
    (hfits : name.utf8ByteSize < nameLimit) {e : Entry} (hentry : t.get? (dir ++ [name]) = some e)
    (hreal : ∀ target, e ≠ .link target) :
    t.resolve .follow (p.join name) =
      if pathLimit ≤ (p.join name).spelling.utf8ByteSize then .error .nameTooLong
      else if t.mayPass dir then .ok (dir ++ [name]) else .error .denied := by
  obtain ⟨⟨hnul, hempty, -⟩, htravel⟩ := resolve_eq_ok_iff.mp h
  have hlast : t.advance .follow dir [name] =
      (if t.mayPass dir then Except.ok (dir ++ [name]) else .error .denied).map .arrived := by
    rw [advance_entry hdir hname hfits hentry hreal]
    split_ifs <;> rfl
  have hsome : p.spelling.toList ≠ [] := by simpa using hempty
  obtain ⟨more, hjoin⟩ : ∃ more, (p.join name).spelling.toList = p.spelling.toList ++ more := by
    rw [Path.toList_join hempty]
    split_ifs
    · exact ⟨_, rfl⟩
    · exact ⟨_, rfl⟩
  have hstart : startOf t.cwd (p.join name).spelling = startOf t.cwd p.spelling := by
    rw [startOf, startOf, hjoin, List.head?_append_of_ne_nil _ hsome]
  have hclean : '\x00' ∉ (p.join name).spelling.toList := by
    rw [Path.toList_join hempty]
    split_ifs <;> simp [hnul, hname.2.2]
  have hspelled : (p.join name).spelling ≠ "" := by
    rw [ne_eq, ← String.toList_eq_nil_iff, hjoin]
    simp [hempty]
  have hgo : t.travel .follow linkLimit (startOf t.cwd p.spelling)
      (stepsOf (p.join name).spelling) =
      if t.mayPass dir then .ok (dir ++ [name]) else .error .denied := by
    rw [stepsOf_join hempty hname]
    rcases stepsOf_cases p.spelling with hsteps | hsteps
    · rw [← hsteps]
      exact travel_append htravel hlast
    · rw [← travel_blank, ← List.singleton_append, ← List.append_assoc, ← hsteps]
      exact travel_append htravel hlast
  rw [resolve, hstart, hgo]
  simp only [List.contains_iff_mem, hclean, if_false, String.isEmpty_iff, hspelled]

theorem resolve_join_eq_ok_iff {p : Path} {dir loc : Location}
    (h : t.resolve .follow p = .ok dir) (hdir : t.isDir dir) {name : String} (hname : IsName name)
    (hfits : name.utf8ByteSize < nameLimit) {e : Entry} (hentry : t.get? (dir ++ [name]) = some e)
    (hreal : ∀ target, e ≠ .link target) :
    t.resolve .follow (p.join name) = .ok loc ↔
      (p.join name).spelling.utf8ByteSize < pathLimit ∧ t.mayPass dir ∧ loc = dir ++ [name] := by
  rw [resolve_join h hdir hname hfits hentry hreal, ← Nat.not_le]
  split_ifs with hlong hpass
  · simp [hlong]
  · simp [hlong, hpass, eq_comm]
  · simp [hpass]

end Codemod.FileTree
