import Codemod.Proofs.FileTree.Joining

/-! Spellings of the same path.
Two paths may have the same components and yet not the same steps: separators and dots between the
names come and go. Such steps stay where they are, so if both paths lead somewhere, then to the same
location. -/

namespace Codemod

def Component.ofPiece (piece : List Char) : Component :=
  if piece = ['.', '.'] then .parent else .name (String.ofList piece)

theorem Component.ofPiece_injective : Function.Injective Component.ofPiece := by
  intro a b h
  unfold ofPiece at h
  split_ifs at h with ha hb
  · rw [ha, hb]
  · exact String.ofList_injective (Component.name.inj h)

namespace Path

/-- A piece that is neither empty nor a dot. -/
def counts (piece : List Char) : Bool :=
  !(piece = [] || piece = ['.'])

/-- The pieces of a path that count. -/
def names (p : Path) : List (List Char) :=
  (pieces p.spelling.toList).filter counts

/-- What comes before the names: a path may begin with a separator or a dot. -/
def lead (p : Path) : List Component :=
  if p.spelling.toList.head? = some '/' then [.root]
  else if (pieces p.spelling.toList).head? = some ['.'] then [.here]
  else []

theorem filterMap_component (ps : List (List Char)) :
    ps.filterMap component? = (ps.filter counts).map Component.ofPiece := by
  induction ps with
  | nil => rfl
  | cons piece rest ih =>
    by_cases h : piece = [] ∨ piece = ['.']
    · have skipped : counts piece = false := by rcases h with rfl | rfl <;> rfl
      rw [List.filterMap_cons, component?, if_pos h, List.filter_cons_of_neg (by simp [skipped]),
        ih]
    · have kept : counts piece = true := by
        rw [not_or] at h
        simp [counts, h.1, h.2]
      rw [List.filterMap_cons, component?, if_neg h, List.filter_cons_of_pos kept, List.map_cons,
        Component.ofPiece, ← ih]
      split_ifs <;> rfl

theorem components_eq (p : Path) : p.components = p.lead ++ p.names.map Component.ofPiece := by
  unfold components lead names
  split
  case h_1 rest heq =>
    simp only [heq, pieces, List.head?_cons, if_true]
    rw [filterMap_component]
    rfl
  case h_2 hplain =>
    have hhead : p.spelling.toList.head? ≠ some '/' := by
      intro hslash
      obtain ⟨rest, hrest⟩ := List.head?_eq_some_iff.mp hslash
      exact hplain rest hrest
    rw [if_neg hhead]
    split
    case h_1 rest heq =>
      rw [heq, filterMap_component]
      rfl
    case h_2 hdot =>
      have hfirst : (pieces p.spelling.toList).head? ≠ some ['.'] := by
        intro hfirst
        obtain ⟨rest, hrest⟩ := List.head?_eq_some_iff.mp hfirst
        exact hdot rest hrest
      rw [if_neg hfirst, filterMap_component]
      rfl

/-- The components that begin a path, and the others. -/
theorem filter_components (p : Path) :
    p.components.filter (·.rank < 2) = p.lead ∧
      p.components.filter (2 ≤ ·.rank) = p.names.map Component.ofPiece := by
  have hlead : ∀ c ∈ p.lead, c.rank < 2 := by
    rw [lead]
    split_ifs <;> simp [Component.rank]
  have hnames : ∀ c ∈ p.names.map Component.ofPiece, 2 ≤ c.rank := by
    intro c hc
    obtain ⟨piece, -, rfl⟩ := List.mem_map.mp hc
    rw [Component.ofPiece]
    split_ifs <;> simp [Component.rank]
  have hkept : p.lead.filter (·.rank < 2) = p.lead ∧ p.lead.filter (2 ≤ ·.rank) = [] :=
    ⟨List.filter_eq_self.mpr fun c hc => decide_eq_true (hlead c hc),
      List.filter_eq_nil_iff.mpr fun c hc h =>
        Nat.not_le_of_lt (hlead c hc) (of_decide_eq_true h)⟩
  have hrest : (p.names.map Component.ofPiece).filter (·.rank < 2) = [] ∧
      (p.names.map Component.ofPiece).filter (2 ≤ ·.rank) = p.names.map Component.ofPiece :=
    ⟨List.filter_eq_nil_iff.mpr fun c hc h =>
        Nat.not_lt_of_le (hnames c hc) (of_decide_eq_true h),
      List.filter_eq_self.mpr fun c hc => decide_eq_true (hnames c hc)⟩
  rw [components_eq, List.filter_append, List.filter_append, hkept.1, hkept.2, hrest.1, hrest.2]
  exact ⟨List.append_nil _, rfl⟩

/-- The components tell what comes before the names, and the names. -/
theorem lead_names_of_components {p q : Path} (h : p.components = q.components) :
    p.lead = q.lead ∧ p.names = q.names := by
  obtain ⟨hlead, hnames⟩ := filter_components p
  rw [h, (filter_components q).1] at hlead
  rw [h, (filter_components q).2] at hnames
  exact ⟨hlead.symm, (Component.ofPiece_injective.list_map hnames).symm⟩

/-- Where a path starts shows in what comes before its names. -/
theorem startOf_eq (dir : Location) (p : Path) :
    FileTree.startOf dir p.spelling = if p.lead = [.root] then [] else dir := by
  rw [FileTree.startOf, lead]
  split_ifs <;> simp_all

theorem head?_pieces_append_slash (cs rest : List Char) :
    (pieces (cs ++ '/' :: rest)).head? = (pieces cs).head? := by
  rw [pieces_append_slash, List.head?_append_of_ne_nil _ (pieces_ne_nil cs)]

section Join

variable {p : Path} (h : p.spelling ≠ "") {name : String} (hname : FileTree.IsName name)
include h hname

omit hname in
theorem lead_join : (p.join name).lead = p.lead := by
  have hsome : p.spelling.toList ≠ [] := by simpa using h
  have hstart : (p.join name).spelling.toList.head? = p.spelling.toList.head? ∧
      (pieces (p.join name).spelling.toList).head? = (pieces p.spelling.toList).head? := by
    rw [toList_join h]
    split_ifs with hslash
    · obtain ⟨front, hfront⟩ := List.getLast?_eq_some_iff.mp hslash
      refine ⟨List.head?_append_of_ne_nil _ hsome, ?_⟩
      rw [hfront, List.append_assoc, List.singleton_append, head?_pieces_append_slash,
        head?_pieces_append_slash]
    · exact ⟨List.head?_append_of_ne_nil _ hsome, head?_pieces_append_slash _ _⟩
  rw [lead, lead, hstart.1, hstart.2]

theorem names_join : (p.join name).names = p.names ++ [name.toList] := by
  have hne : name ≠ "" := fun hempty => hname.1 (by simp [hempty])
  have hnames : ∀ ps : List (List Char),
      ps.filter counts = (ps.filter (!·.isEmpty)).filter counts := by
    intro ps
    rw [List.filter_filter]
    apply List.filter_congr
    intro piece _
    cases piece <;> simp [counts]
  have hcounts : counts name.toList := by
    have hplain : name ≠ "" ∧ name ≠ "." ∧ name ≠ ".." := by simpa using hname.1
    have hdot : name.toList ≠ ".".toList := fun heq => hplain.2.1 (String.toList_inj.mp heq)
    simpa [counts] using ⟨hplain.1, hdot⟩
  rw [names, hnames, filter_pieces_join h hne hname.2.1, List.filter_append, ← hnames, names,
    List.filter_cons_of_pos hcounts, List.filter_nil]

/-- The path of an entry has one component more. -/
theorem components_join : (p.join name).components = p.components ++ [.name name] := by
  have hlast : Component.ofPiece name.toList = .name name := by
    have hup : name.toList ≠ ['.', '.'] := by
      intro heq
      have hdots : name = ".." := String.toList_inj.mp heq
      exact hname.1 (by simp [hdots])
    rw [Component.ofPiece, if_neg hup, String.ofList_toList]
  rw [components_eq, components_eq, lead_join h, names_join h hname, List.map_append,
    List.map_singleton, hlast, List.append_assoc]

end Join

end Path

namespace FileTree

variable {t : FileTree}

/-- A step that stays where it is. -/
def stays (step : String) : Bool :=
  step.isEmpty || step = "."

/-- Steps without those that stay where they are. -/
def thin (steps : List String) : List String :=
  steps.filter fun step => !stays step

def Progress.thin : Progress → Progress
  | .arrived loc => .arrived loc
  | .link dir target rest => .link dir target (FileTree.thin rest)

theorem thin_cons_of_stays {step : String} (h : stays step) (rest : List String) :
    thin (step :: rest) = thin rest :=
  List.filter_cons_of_neg (by simpa using h)

theorem thin_cons_of_not_stays {step : String} (h : ¬ stays step) (rest : List String) :
    thin (step :: rest) = step :: thin rest :=
  List.filter_cons_of_pos (by simpa using h)

theorem thin_append (steps more : List String) : thin (steps ++ more) = thin steps ++ thin more :=
  List.filter_append ..

/-- One step of a way that is followed. -/
theorem advance_cons (loc : Location) (step : String) (rest : List String) :
    t.advance .follow loc (step :: rest) =
      if !t.isDir loc then .error .notDirectory
      else if !step.isEmpty && !t.mayPass loc then .error .denied
      else if stays step then t.advance .follow loc rest
      else if step = ".." then t.advance .follow loc.dropLast rest
      else if nameLimit ≤ step.utf8ByteSize then .error .nameTooLong
      else match t.get? (loc ++ [step]) with
        | none => .error .notFound
        | some (.link target) => .ok (.link loc target rest)
        | some _ => t.advance .follow (loc ++ [step]) rest := by
  simp only [advance, stays, reduceCtorEq, decide_false, Bool.and_false, Bool.false_eq_true,
    if_false]
  by_cases hempty : step.isEmpty
  · simp [hempty]
  · rcases t.get? (loc ++ [step]) with _ | (_ | _ | target) <;> simp [hempty]

theorem advance_thin {loc : Location} {steps : List String} {r : Progress}
    (h : t.advance .follow loc steps = .ok r) :
    t.advance .follow loc (thin steps) = .ok r.thin := by
  induction steps generalizing loc with
  | nil =>
    obtain rfl := Except.ok.inj h
    rfl
  | cons step rest ih =>
    rw [advance_cons] at h
    by_cases hstays : stays step
    · rw [thin_cons_of_stays hstays]
      rw [if_pos hstays] at h
      split_ifs at h
      exact ih h
    · rw [thin_cons_of_not_stays hstays, advance_cons]
      rw [if_neg hstays] at h ⊢
      split_ifs at h ⊢ with hdir hpass hup hlong
      · exact ih h
      · rcases hentry : t.get? (loc ++ [step]) with _ | (_ | _ | target) <;> rw [hentry] at h
        · cases h
        · exact ih h
        · exact ih h
        · obtain rfl := Except.ok.inj h
          rfl

theorem thin_unique {loc : Location} {steps steps' : List String} {r r' : Progress}
    (hsame : thin steps = thin steps') (h : t.advance .follow loc steps = .ok r)
    (h' : t.advance .follow loc steps' = .ok r') : r.thin = r'.thin := by
  have hthin := advance_thin h
  rw [hsame, advance_thin h'] at hthin
  exact (Except.ok.inj hthin).symm

/-- A way that is followed to its end has no link, or goes on from the first one. -/
theorem travel_cases {links : Nat} {loc dir : Location} {steps : List String}
    (h : t.travel .follow links loc steps = .ok dir) :
    t.advance .follow loc steps = .ok (.arrived dir) ∨ ∃ fewer stop target rest,
      links = fewer + 1 ∧ t.advance .follow loc steps = .ok (.link stop target rest) ∧
        t.travel .follow fewer (startOf stop target) (stepsOf target ++ rest) = .ok dir := by
  rw [travel] at h
  split at h
  case h_1 => cases h
  case h_2 stop hsteps =>
    obtain rfl := Except.ok.inj h
    exact .inl hsteps
  case h_3 stop target rest hsteps =>
    cases links with
    | zero => cases h
    | succ fewer => exact .inr ⟨fewer, stop, target, rest, rfl, hsteps, h⟩

/-- Ways with the same steps, but for those that stay where they are, end at the same location. -/
theorem travel_unique {links : Nat} {loc dir dir' : Location} {steps steps' : List String}
    (hsame : thin steps = thin steps') (h : t.travel .follow links loc steps = .ok dir)
    (h' : t.travel .follow links loc steps' = .ok dir') : dir = dir' := by
  induction links generalizing loc steps steps' with
  | zero =>
    rcases travel_cases h with hr | ⟨_, _, _, _, hlinks, -⟩
    · rcases travel_cases h' with hr' | ⟨_, _, _, _, hlinks, -⟩
      · exact Progress.arrived.inj (thin_unique hsame hr hr')
      · cases hlinks
    · cases hlinks
  | succ links ih =>
    rcases travel_cases h with hr | ⟨_, stop, target, rest, hlinks, hr, hgo⟩ <;>
      rcases travel_cases h' with hr' | ⟨_, stop', target', rest', hlinks', hr', hgo'⟩
    · exact Progress.arrived.inj (thin_unique hsame hr hr')
    · cases thin_unique hsame hr hr'
    · cases thin_unique hsame hr hr'
    · obtain rfl := Nat.succ.inj hlinks
      obtain rfl := Nat.succ.inj hlinks'
      obtain ⟨rfl, rfl, hrest⟩ := Progress.link.inj (thin_unique hsame hr hr')
      exact ih (by rw [thin_append, thin_append, hrest]) hgo hgo'

theorem stays_ofList (piece : List Char) : stays (String.ofList piece) = !Path.counts piece := by
  have hempty : (String.ofList piece).isEmpty = decide (piece = []) := by
    rw [Bool.eq_iff_iff, String.isEmpty_iff, decide_eq_true_eq, String.ofList_eq_empty_iff]
  have hdot : String.ofList piece = "." ↔ piece = ['.'] :=
    ⟨fun h => by simpa using congrArg String.toList h, fun h => by rw [h]⟩
  simp only [stays, Path.counts, hempty, hdot, Bool.not_not]

/-- The steps of a path are its names, but for those that stay where they are. -/
theorem thin_stepsOf (p : Path) : thin (stepsOf p.spelling) = p.names.map String.ofList := by
  have hplain (ps : List (List Char)) :
      thin ((ps.filter (!·.isEmpty)).map String.ofList) =
        (ps.filter Path.counts).map String.ofList := by
    rw [thin, List.filter_map, List.filter_filter]
    congr 1
    apply List.filter_congr
    intro piece _
    rw [Function.comp_apply, stays_ofList, Bool.not_not]
    cases piece <;> simp [Path.counts]
  have hblank : thin [""] = [] := rfl
  rcases stepsOf_cases p.spelling with hsteps | hsteps
  · rw [hsteps, hplain, Path.names]
  · rw [hsteps, thin_append, hplain, hblank, List.append_nil, Path.names]

/-- Paths with the same components lead to the same location, if both lead anywhere. -/
theorem resolve_unique {p q : Path} (hsame : p.components = q.components) {loc loc' : Location}
    (hp : t.resolve .follow p = .ok loc) (hq : t.resolve .follow q = .ok loc') : loc = loc' := by
  obtain ⟨hlead, hnames⟩ := Path.lead_names_of_components hsame
  obtain ⟨-, hp⟩ := resolve_eq_ok_iff.mp hp
  obtain ⟨-, hq⟩ := resolve_eq_ok_iff.mp hq
  rw [Path.startOf_eq, hlead, ← Path.startOf_eq] at hp
  exact travel_unique (by rw [thin_stepsOf, thin_stepsOf, hnames]) hp hq

end FileTree

end Codemod
