import Codemod.Config
import Codemod.Proofs.Catalog.Composition
import Codemod.Proofs.FileTree.Spelling
import Codemod.Proofs.Text.Trimming
import Codemod.Proofs.Walk.Reach

/-! Extensions as a walk and as a rule set read them.
A walk brings the extensions it is given into normal form once, and a rule set twice. This is the
same for an extension in which no blank follows the leading dots. In any other the dots hide the
blank from the first reading, and the second one drops it. -/

namespace Codemod

namespace Extension

/-- What is left of an extension without blanks around it and dots before it. -/
def core (s : String) : List Char :=
  (Text.trim s.toList).dropWhile (· == '.')

theorem normalize_eq (s : String) : normalize s = String.ofList (Text.lowerAscii (core s)) :=
  rfl

theorem head_core (s : String) : ∀ c ∈ (core s).head?, (c == '.') = false :=
  Text.head_dropWhile

theorem last_core (s : String) : ∀ c ∈ (core s).getLast?, isBlank c = false := by
  intro c hc
  obtain ⟨dots, hdots⟩ := List.dropWhile_suffix (l := Text.trim s.toList) (· == '.')
  have hlast : (Text.trim s.toList).getLast? = some c := by
    rw [← hdots, List.getLast?_append]
    simp [core] at hc
    simp [hc]
  exact Text.last_trim c hlast

/-- No blank follows the dots before an extension. -/
def Settled (s : String) : Prop :=
  ∀ c ∈ (core s).head?, isBlank c = false

instance (s : String) : Decidable (Settled s) :=
  decidable_of_iff ((core s).head?.all (!isBlank ·)) (by simp [Settled, Option.all_eq_true])

/-- A normal form is its own normal form just if no blank follows the dots. -/
theorem normalize_normalize_iff (s : String) :
    normalize (normalize s) = normalize s ↔ Settled s := by
  have dot : ∀ c : Char, (c.toLower == '.') = (c == '.') := by
    intro c
    rw [Bool.eq_iff_iff, beq_iff_eq, beq_iff_eq, Text.toLower_eq_iff (by decide)]
  have blanks := Text.ends_lowerAscii Text.isBlank_toLower (core s)
  have dots := Text.ends_lowerAscii (p := (· == '.')) dot (core s)
  have again : normalize (normalize s) = normalize s ↔
      Text.lowerAscii ((Text.trim (Text.lowerAscii (core s))).dropWhile (· == '.')) =
        Text.lowerAscii (core s) := by
    rw [normalize_eq s, normalize, String.toList_ofList, String.ofList_inj]
  rw [again]
  constructor
  · intro heq
    rw [Settled, ← blanks.1]
    intro c hc
    obtain ⟨rest, hrest⟩ := List.head?_eq_some_iff.mp hc
    by_contra hblank
    have shorter := Text.length_trim_lt (Bool.eq_true_of_not_eq_false hblank) rest
    have kept := (List.dropWhile_suffix (l := Text.trim (c :: rest)) (· == '.')).length_le
    have same := congrArg List.length heq
    rw [Text.length_lowerAscii, hrest] at same
    omega
  · intro settled
    rw [Text.trim_of_ends (blanks.1.mpr settled) (blanks.2.mpr (last_core s)),
      Text.dropWhile_of_head (dots.1.mpr (head_core s)), Text.lowerAscii_lowerAscii]

theorem normalize_lowered (s : String) :
    String.ofList (Text.lowerAscii (normalize s).toList) = normalize s := by
  rw [normalize_eq, String.toList_ofList, Text.lowerAscii_lowerAscii]

theorem isBlankExtension_iff (s : String) : Config.isBlankExtension s ↔ normalize s = "" := by
  have empty : normalize s = "" ↔ Text.lowerAscii (core s) = [] := by
    rw [normalize_eq, ← String.ofList_inj]
  rw [empty, Config.isBlankExtension, List.isEmpty_iff, Text.lowerAscii, List.map_eq_nil_iff]
  rfl

/-- A text that the extension of a path can be. -/
def Possible (x : String) : Prop :=
  '.' ∉ x.toList ∧ '/' ∉ x.toList

end Extension

namespace Path

theorem slash_not_mem_of_mem_pieces {cs piece : List Char} (h : piece ∈ pieces cs) :
    '/' ∉ piece := by
  induction cs generalizing piece with
  | nil => simp_all [pieces]
  | cons c rest ih =>
    rw [pieces] at h
    split_ifs at h with hc
    · rcases List.mem_cons.mp h with hnil | hrest
      · simp [hnil]
      · exact ih hrest
    · cases hpieces : pieces rest with
      | nil => exact absurd hpieces (pieces_ne_nil rest)
      | cons p ps =>
        simp only [hpieces, List.mem_cons] at h ih
        rcases h with hfirst | hrest
        · simp [hfirst, Ne.symm hc, ih (.inl rfl)]
        · exact ih (.inr hrest)

theorem slash_not_mem_fileName {p : Path} {name : String} (h : p.fileName? = some name) :
    '/' ∉ name.toList := by
  have hlast : p.components.getLast? = some (.name name) := by
    rw [fileName?] at h
    split at h
    · simp_all
    · cases h
  have hmem := List.mem_of_getLast? hlast
  rw [components_eq, List.mem_append] at hmem
  have hpiece : ∃ piece ∈ p.names, Component.ofPiece piece = .name name := by
    rcases hmem with hlead | hname
    · rw [lead] at hlead
      split_ifs at hlead <;> simp at hlead
    · exact List.mem_map.mp hname
  obtain ⟨piece, hmem, hof⟩ := hpiece
  have hname : name = String.ofList piece := by
    rw [Component.ofPiece] at hof
    split_ifs at hof
    exact (Component.name.inj hof).symm
  rw [hname, String.toList_ofList]
  exact slash_not_mem_of_mem_pieces (List.mem_filter.mp hmem).1

theorem possible_extension {p : Path} {e : String} (h : p.extension? = some e) :
    Extension.Possible e := by
  simp only [extension?, Option.bind_eq_some_iff, Option.map_eq_some_iff] at h
  obtain ⟨name, hname, cs, hcs, rfl⟩ := h
  rw [extensionOf] at hcs
  split_ifs at hcs
  obtain rfl := Option.some.inj hcs
  rw [Extension.Possible, String.toList_ofList, List.mem_reverse, List.mem_reverse]
  constructor
  · intro hdot
    have := List.mem_takeWhile_imp hdot
    simp at this
  · intro hslash
    have hin := (List.takeWhile_sublist _).mem hslash
    exact slash_not_mem_fileName hname (List.mem_reverse.mp hin)

/-- Every text that can be an extension is that of some path. -/
theorem extension_of_possible {x : String} (h : Extension.Possible x) :
    (⟨"f." ++ x⟩ : Path).extension? = some x := by
  have spelled : ("f." ++ x).toList = 'f' :: '.' :: x.toList := by
    rw [String.toList_append]
    rfl
  have whole : '/' ∉ 'f' :: '.' :: x.toList := by simp [h.2]
  have hname : (⟨"f." ++ x⟩ : Path).fileName? = some ("f." ++ x) := by
    have hcomponents : (⟨"f." ++ x⟩ : Path).components = [.name ("f." ++ x)] := by
      have hof : Component.ofPiece ('f' :: '.' :: x.toList) = .name ("f." ++ x) := by
        rw [Component.ofPiece, if_neg (by simp), ← spelled, String.ofList_toList]
      rw [components_eq, names, lead, spelled, pieces_of_not_mem whole]
      simp [counts, hof]
    rw [fileName?, hcomponents]
    rfl
  have htail : ("f." ++ x).toList.reverse.takeWhile (· != '.') = x.toList.reverse := by
    have hall : ∀ c ∈ x.toList.reverse, (c != '.') = true := by
      intro c hc
      have hne : c ≠ '.' := by
        intro heq
        exact h.1 (List.mem_reverse.mp (heq ▸ hc))
      simp [hne]
    rw [spelled, List.reverse_cons, List.reverse_cons, List.append_assoc,
      List.takeWhile_append_of_pos hall]
    simp
  have hextension : extensionOf ("f." ++ x).toList = some x.toList := by
    rw [extensionOf, htail, spelled, List.reverse_reverse]
    exact if_pos (by simp)
  rw [extension?, hname, Option.bind_some, hextension, Option.map_some, String.ofList_toList]

end Path

theorem Catalog.compile_of_mem_zip {defs : List RuleSetDef} {sets : List RuleSet}
    (h : compile defs = .ok sets) {d : RuleSetDef} {s : RuleSet} (hmem : (d, s) ∈ defs.zip sets) :
    d.compile [] = .ok s := by
  have each := (compile_eq_ok_iff.mp h).1
  exact compile_singleton_eq_ok_iff.mp ((List.forall₂_iff_zip.mp each).2 hmem)

namespace Extension

/-- What a walk looks for that is given some extensions. -/
def Sought (listed : List String) (x : String) : Prop :=
  ∃ e ∈ listed, normalize e ≠ "" ∧ normalize e = x

/-- What the scope of a rule set holds that lists some extensions. -/
def Scoped (listed : List String) (x : String) : Prop :=
  ∃ e ∈ listed, normalize e ≠ "" ∧ normalize (normalize e) = x

theorem mem_scope_kept {listed : List String} {x : String} :
    x ∈ scope ((listed.map normalize).filter (!·.isEmpty)) ↔ Scoped listed x := by
  simp only [mem_scope, List.mem_filter, List.mem_map, Scoped, Bool.not_eq_true',
    ← Bool.not_eq_true, String.isEmpty_iff]
  constructor
  · rintro ⟨_, ⟨⟨e, he, rfl⟩, hne⟩, heq⟩
    exact ⟨e, he, hne, heq⟩
  · rintro ⟨e, he, hne, heq⟩
    exact ⟨_, ⟨⟨e, he, rfl⟩, hne⟩, heq⟩

theorem sought_iff_scoped {listed : List String} (h : ∀ e ∈ listed, Settled e) (x : String) :
    Sought listed x ↔ Scoped listed x := by
  constructor
  · rintro ⟨e, he, hne, hx⟩
    exact ⟨e, he, hne, by rw [(normalize_normalize_iff e).mpr (h e he), hx]⟩
  · rintro ⟨e, he, hne, hx⟩
    exact ⟨e, he, hne, by rw [← hx, (normalize_normalize_iff e).mpr (h e he)]⟩

/-- Only what is in lower case is looked for, or in scope. -/
theorem lowered_of_sought_or_scoped {listed : List String} {x : String}
    (h : Sought listed x ∨ Scoped listed x) : String.ofList (Text.lowerAscii x.toList) = x := by
  rcases h with ⟨e, -, -, hx⟩ | ⟨e, -, -, hx⟩
  · rw [← hx, normalize_lowered]
  · rw [← hx, normalize_lowered]

theorem possible_lowered {x : String} (h : Possible x) :
    Possible (String.ofList (Text.lowerAscii x.toList)) := by
  rw [Possible, String.toList_ofList, Text.mem_lowerAscii_iff (by decide),
    Text.mem_lowerAscii_iff (by decide)]
  exact h

section Compiled

variable {d : RuleSetDef} {s : RuleSet} (hcompile : d.compile [] = .ok s) {listed : List String}
  (hscope : d.extensions? = some listed)
include hcompile hscope

theorem not_blank_of_compile : listed.all Config.isBlankExtension = false := by
  obtain ⟨-, bare, -, hextensions⟩ := RuleSetDef.parts_of_compile hcompile
  have hok : ¬ Fails (RuleSetDef.compileExtensions bare d.extensions?) := by
    rw [hextensions]
    exact not_fails_ok _
  rw [RuleSetDef.fails_compileExtensions_iff, hscope] at hok
  rw [← Bool.not_eq_true, List.all_eq_true]
  intro hblank
  exact hok ⟨listed, rfl, fun e he => (isBlankExtension_iff e).mp (hblank e he)⟩

theorem acceptsPath_iff (p : Path) :
    s.acceptsPath p ↔
      ∃ e ∈ p.extension?, Scoped listed (String.ofList (Text.lowerAscii e.toList)) := by
  obtain ⟨-, bare, -, hextensions⟩ := RuleSetDef.parts_of_compile hcompile
  rw [hscope, RuleSetDef.compileExtensions] at hextensions
  split_ifs at hextensions
  have hscope : s.extensions? = some (scope ((listed.map normalize).filter (!·.isEmpty))) :=
    congrArg RuleSet.extensions? (Except.ok.inj hextensions).symm
  rw [RuleSet.acceptsPath, hscope, Option.all_some, accepts]
  simp only [Option.any_eq_true, Option.mem_def, List.contains_iff_mem, mem_scope_kept]

end Compiled

end Extension

open Extension

theorem accepts_ofLists_iff_sought {listed excluded : List String} {p : Path} :
    (WalkFilter.ofLists listed excluded).accepts p ↔
      ∃ e ∈ p.extension?, Sought listed (String.ofList (Text.lowerAscii e.toList)) :=
  accepts_ofLists_iff

/-- A list of extensions that a rule set may have may also be given to a walk. The walk and the
rule set accept the same paths if no blank follows the dots before an extension; else just if what
the one looks for and the other has in scope is the same, as far as a path can have it. -/
theorem accepts_eq_acceptsPath_iff {defs : List RuleSetDef} {sets : List RuleSet}
    (hcompile : Catalog.compile defs = .ok sets) {d : RuleSetDef} {s : RuleSet}
    (hmem : (d, s) ∈ defs.zip sets) {listed : List String} (hscope : d.extensions? = some listed)
    (excluded : List String) :
    listed.all Config.isBlankExtension = false ∧
    ((∀ e ∈ listed, Settled e) →
      ∀ p, (WalkFilter.ofLists listed excluded).accepts p = s.acceptsPath p) ∧
    ((∀ p, (WalkFilter.ofLists listed excluded).accepts p = s.acceptsPath p) ↔
      ∀ x, Possible x → (Sought listed x ↔ Scoped listed x)) := by
  have hd := Catalog.compile_of_mem_zip hcompile hmem
  have agree : (∀ p, (WalkFilter.ofLists listed excluded).accepts p = s.acceptsPath p) ↔
      ∀ x, Possible x → (Sought listed x ↔ Scoped listed x) := by
    have at_path (p : Path) : (WalkFilter.ofLists listed excluded).accepts p = s.acceptsPath p ↔
        ((∃ e ∈ p.extension?, Sought listed (String.ofList (Text.lowerAscii e.toList))) ↔
          ∃ e ∈ p.extension?, Scoped listed (String.ofList (Text.lowerAscii e.toList))) := by
      rw [Bool.eq_iff_iff, accepts_ofLists_iff_sought, acceptsPath_iff hd hscope]
    rw [forall_congr' at_path]
    constructor
    · intro h x hx
      by_cases lowered : String.ofList (Text.lowerAscii x.toList) = x
      · have at_x := h ⟨"f." ++ x⟩
        simpa [Path.extension_of_possible hx, lowered] using at_x
      · have neither : ¬ (Sought listed x ∨ Scoped listed x) :=
          fun h => lowered (lowered_of_sought_or_scoped h)
        rw [not_or] at neither
        exact iff_of_false neither.1 neither.2
    · intro h p
      refine exists_congr fun e => and_congr_right fun he => ?_
      exact h _ (possible_lowered (Path.possible_extension he))
  refine ⟨not_blank_of_compile hd hscope, fun hsettled => ?_, agree⟩
  exact agree.mpr fun x _ => sought_iff_scoped hsettled x

/-- Blanks and dots in any number before an extension, and capitals. -/
theorem accepts_eq_acceptsPath_dotted :
    let listed := [" ..TSX ", ".js", "."]
    let d : RuleSetDef := ⟨"a", none, some listed, [⟨some "x", none, "y"⟩]⟩
    let s : RuleSet := ⟨"a", [.literal ['x'] ['y']], none, some ["js", "tsx"]⟩
    Catalog.compile [d] = .ok [s] ∧ (∀ e ∈ listed, Settled e) ∧
      listed.all Config.isBlankExtension = false ∧ s.acceptsPath ⟨"src/App.Tsx"⟩ = true ∧
      (∀ p, (WalkFilter.ofLists listed []).accepts p = s.acceptsPath p) ∧
      ∀ x, Possible x → (Sought listed x ↔ Scoped listed x) := by
  intro listed d s
  have hcompile : Catalog.compile [d] = .ok [s] := by decide +kernel
  have hsettled : ∀ e ∈ listed, Settled e := by decide +kernel
  have both := accepts_eq_acceptsPath_iff hcompile (List.mem_singleton_self (d, s)) rfl []
  have agree := both.2.1 hsettled
  exact ⟨hcompile, hsettled, both.1, by decide +kernel, agree, both.2.2.mp agree⟩

/-- A blank after the dot of an extension: the walk looks for files whose extension begins with
the blank, and the rule set is for those whose extension does not. -/
theorem accepts_ne_acceptsPath :
    let listed := [". ts"]
    let d : RuleSetDef := ⟨"a", none, some listed, [⟨some "x", none, "y"⟩]⟩
    let s : RuleSet := ⟨"a", [.literal ['x'] ['y']], none, some ["ts"]⟩
    let c : Config := { files := { extensions := listed }, ruleSets := [d] }
    c.problem? = none ∧ Catalog.compile c.ruleSets = .ok [s] ∧
      (WalkFilter.ofLists c.files.extensions []).accepts ⟨"src/a. ts"⟩ = true ∧
      s.acceptsPath ⟨"src/a. ts"⟩ = false ∧
      (WalkFilter.ofLists c.files.extensions []).accepts ⟨"src/a.ts"⟩ = false ∧
      s.acceptsPath ⟨"src/a.ts"⟩ = true := by
  decide +kernel

end Codemod
