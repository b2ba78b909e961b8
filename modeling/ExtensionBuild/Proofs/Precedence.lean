import ExtensionBuild.Proofs.Decoding
import ExtensionBuild.Proofs.Layers
import Mathlib.Data.List.Induction

/-! Settings laid one over the other in any number of steps. Each program is the one that the last
step supplying it gives, and the translate section is, as a whole, that of the last document with
such a section. The settings of files follow this law unless the last such section stands in a
document with an unsound point in time, which is passed over. -/
namespace ExtensionBuild

section

variable {α β σ : Type}

/-- What the last of the items that supply something supplies. -/
def last? (supply : β → Option α) (items : List β) : Option α := (items.filterMap supply).getLast?

theorem last?_concat (supply : β → Option α) (items : List β) (b : β) :
    last? supply (items ++ [b]) = (supply b).or (last? supply items) := by
  cases supplied : supply b <;> simp [last?, List.filterMap_append, supplied]

theorem last?_append_toList (supply : β → Option α) (lower upper : Option β) :
    last? supply (lower.toList ++ upper.toList) =
      (upper.bind supply).or (lower.bind supply) := by
  cases upper with
  | none => cases lower <;> simp [last?]
  | some b =>
    rw [Option.toList_some, last?_concat]
    cases lower <;> simp [last?]

theorem get_foldl (overlay : σ → β → σ) (get : σ → Option α) (supply : β → Option α)
    (step : ∀ s b, get (overlay s b) = (supply b).or (get s)) (s : σ) (items : List β) :
    get (items.foldl overlay s) = (last? supply items).or (get s) := by
  induction items using List.reverseRecOn with
  | nil => rfl
  | append_singleton items b ih =>
    rw [List.foldl_append, List.foldl_cons, List.foldl_nil, step, ih, last?_concat,
      Option.or_assoc]

end

namespace Settings

/-- A text that loads as settings. -/
structure Document where
  content : String
  settings : Settings
  loads : (parse content).toOption = some settings

namespace Document

def entries (d : Document) : List (String × Data) := (Toml.read d.content).getD []

def program? (key : String) (d : Document) : Option Path := programIn d.entries key

def translate (d : Document) : TranslateOptions := translateIn d.entries

def hasTranslate (d : Document) : Bool := d.entries.any (·.1 == translateKey)

def isSound (d : Document) : Bool := Toml.entryMomentsAreSound d.entries

/-- Whether the translate section of a document is found when the document is laid over others. -/
def isSeen (d : Document) : Bool := d.isSound && d.hasTranslate

theorem parse_eq (d : Document) : parse d.content = .ok d.settings := by
  have loads := d.loads
  cases parsed : parse d.content with
  | error e =>
    rw [parsed] at loads
    cases loads
  | ok settings =>
    rw [parsed] at loads
    exact congrArg Except.ok (Option.some.inj loads)

theorem read_eq (d : Document) :
    Toml.read d.content = some d.entries ∧ decode (.table d.entries) = .ok d.settings := by
  have loads := d.parse_eq
  unfold parse Toml.decode at loads
  unfold entries
  cases read : Toml.read d.content with
  | none =>
    rw [read] at loads
    cases loads
  | some entries =>
    rw [read] at loads
    refine ⟨rfl, ?_⟩
    change decode (.table entries) = _
    dsimp only at loads
    cases decoded : decode (.table entries) with
    | error e =>
      rw [decoded] at loads
      cases loads
    | ok settings =>
      rw [decoded] at loads
      exact congrArg Except.ok (Except.ok.inj loads)

theorem settings_eq (d : Document) :
    d.settings = ⟨⟨d.program? "pkg-config", d.program? "cython"⟩, d.translate⟩ :=
  decode_ok d.read_eq.2

theorem hasKey_eq (d : Document) : Toml.hasKey translateKey d.content = d.isSeen := by
  rw [Toml.hasKey, d.read_eq.1]
  rfl

end Document

/-- What is laid over settings in one step. -/
inductive Step
  | document (d : Document)
  | environment (vars : Variables)

def overlay (s : Settings) : Step → Settings
  | .document d => s.merge d.settings d.hasTranslate
  | .environment vars => s.withVariables vars

namespace Step

/-- The program that a step supplies: a document under a key, even an empty name, and the
environment in a variable that is not empty. -/
def program? (key name : String) : Step → Option Path
  | document d => d.program? key
  | environment vars => (vars.nonempty? name).map Path.ofText

def translate? : Step → Option TranslateOptions
  | document d => if d.hasTranslate then some d.translate else none
  | environment _ => none

end Step

/-- Final settings in which everything is as the last step supplying it gives it, and as it was
before the steps if none does. -/
structure LastWins (s : Settings) (steps : List Step) (final : Settings) : Prop where
  pkgConfig : final.tools.pkgConfig =
    (last? (Step.program? "pkg-config" "PKG_CONFIG") steps).or s.tools.pkgConfig
  cython : final.tools.cython =
    (last? (Step.program? "cython" "CYTHON") steps).or s.tools.cython
  translate : final.translate = (last? Step.translate? steps).getD s.translate

theorem lastWins_foldl (s : Settings) (steps : List Step) :
    LastWins s steps (steps.foldl overlay s) where
  pkgConfig := by
    apply get_foldl overlay (·.tools.pkgConfig)
    rintro s (d | vars)
    · simp [overlay, d.settings_eq, merge, Step.program?]
    · simp [overlay, withVariables, Step.program?, pkgConfigVariable]
  cython := by
    apply get_foldl overlay (·.tools.cython)
    rintro s (d | vars)
    · simp [overlay, d.settings_eq, merge, Step.program?]
    · simp [overlay, withVariables, Step.program?, cythonVariable]
  translate := by
    have whole : some (steps.foldl overlay s).translate =
        (last? Step.translate? steps).or (some s.translate) := by
      apply get_foldl overlay (some ·.translate)
      rintro s (d | vars)
      · cases has : d.hasTranslate <;> simp [overlay, d.settings_eq, merge, Step.translate?, has]
      · rfl
    rw [Option.or_some] at whole
    exact Option.some.inj whole

theorem LastWins.unique {s final other : Settings} {steps : List Step}
    (first : LastWins s steps final) (second : LastWins s steps other) : final = other := by
  have tools : final.tools = other.tools := by
    rw [show final.tools = ⟨final.tools.pkgConfig, final.tools.cython⟩ from rfl, first.pkgConfig,
      first.cython, ← second.pkgConfig, ← second.cython]
  have translate : final.translate = other.translate :=
    first.translate.trans second.translate.symm
  cases final
  cases other
  rw [Settings.mk.injEq]
  exact ⟨tools, translate⟩

/-- Settings with those of a document over them; its translate section is laid over them if the
document counts. -/
def overlayBy (counts : Document → Bool) (s : Settings) (d : Document) : Settings :=
  s.merge d.settings (counts d)

theorem tools_foldl_overlayBy (counts others : Document → Bool) (s : Settings)
    (documents : List Document) :
    (documents.foldl (overlayBy counts) s).tools =
      (documents.foldl (overlayBy others) s).tools := by
  induction documents using List.reverseRecOn with
  | nil => rfl
  | append_singleton documents d ih => simp [overlayBy, merge, ih]

theorem translate_foldl_overlayBy (counts : Document → Bool) (s : Settings)
    (documents : List Document) :
    (documents.foldl (overlayBy counts) s).translate =
      ((documents.filter counts).getLast?.map Document.translate).getD s.translate := by
  induction documents using List.reverseRecOn with
  | nil => rfl
  | append_singleton documents d ih =>
    cases counted : counts d <;> simp [overlayBy, merge, d.settings_eq, counted, ih]

/-- Of the documents with a translate section the last one decides whether what is seen of the
sections is what is written in them. -/
theorem translate_foldl_eq_iff (s : Settings) (documents : List Document) :
    let seen := (documents.foldl (overlayBy Document.isSeen) s).translate
    seen = (documents.foldl (overlayBy Document.hasTranslate) s).translate ↔
      ∀ d ∈ (documents.filter Document.hasTranslate).getLast?,
        d.isSound = true ∨ d.translate = seen := by
  intro seen
  have narrowed : documents.filter Document.isSeen =
      (documents.filter Document.hasTranslate).filter Document.isSound := by
    rw [List.filter_filter]
    rfl
  have seen_eq : seen = _ := translate_foldl_overlayBy Document.isSeen s documents
  rw [narrowed] at seen_eq
  rw [translate_foldl_overlayBy]
  cases last : (documents.filter Document.hasTranslate).getLast? with
  | none =>
    rw [List.getLast?_eq_none_iff.mp last] at seen_eq
    simpa using seen_eq
  | some d =>
    obtain ⟨front, cut⟩ := List.getLast?_eq_some_iff.mp last
    rw [cut, List.filter_append] at seen_eq
    rw [Option.map_some, Option.getD_some]
    constructor
    · rintro same e member
      rw [← Option.some.inj member]
      exact .inr same.symm
    · intro either
      rcases either d rfl with sound | same
      · rw [seen_eq]
        simp [sound]
      · exact same.symm

section

variable {here : Surroundings} {path : Path}

/-- What stands at a path: a document that loads, or nothing. -/
def Holds (here : Surroundings) (path : Path) : Option Document → Prop
  | none => here.isPresent path = false
  | some d => here.read path = .ok d.content

/-- What stands at a path that may be left out. -/
def HoldsIfAny (here : Surroundings) : Option Path → Option Document → Prop
  | none, found => found = none
  | some path, found => Holds here path found

theorem layer_of_holds {found : Option Document} (s : Settings) (holds : Holds here path found) :
    (layer here s path).1 = found.toList.foldl (overlayBy Document.isSeen) s := by
  cases found with
  | none => exact layer_of_absent s holds
  | some d =>
    have readable : here.read path = .ok d.content := holds
    have present := Surroundings.isPresent_of_read readable
    have loaded : load here path = .ok d.settings := by
      simp [load, readable, d.parse_eq, Except.mapError]
    have flag : hasTranslate here path = d.isSeen := by
      rw [hasTranslate, readable]
      exact d.hasKey_eq
    simp [layer, loadOrStandard, present, loaded, flag, overlayBy]

theorem ofFiles_of_holds {global : Option Path} {project : Path} {lower upper : Option Document}
    (below : HoldsIfAny here global lower) (above : Holds here project upper) :
    (ofFiles here global project).1 =
      (lower.toList ++ upper.toList).foldl (overlayBy Document.isSeen) standard := by
  rw [ofFiles_fst, layer_of_holds _ above, List.foldl_append]
  cases global with
  | none =>
    rw [show lower = none from below]
    rfl
  | some path => rw [Option.map_some, Option.getD_some, layer_of_holds _ below]

/-- Settings as documents and the environment decide them: a program is the one that the environment
gives, else the last document that gives one, and the translate section is that of the last document
in which one is seen. -/
structure DecidedBy (documents : List Document) (vars : Variables) (s : Settings) : Prop where
  pkgConfig : s.tools.pkgConfig = ((vars.nonempty? "PKG_CONFIG").map Path.ofText).or
    (last? (Document.program? "pkg-config") documents)
  cython : s.tools.cython = ((vars.nonempty? "CYTHON").map Path.ofText).or
    (last? (Document.program? "cython") documents)
  translate : s.translate =
    ((documents.filter Document.isSeen).getLast?.map Document.translate).getD ⟨3, true⟩

theorem program_foldl (key : String) (program : Settings → Option Path)
    (step : ∀ s d, program (overlayBy Document.isSeen s d) = (d.program? key).or (program s))
    (absent : program standard = none) (documents : List Document) :
    program (documents.foldl (overlayBy Document.isSeen) standard) =
      last? (Document.program? key) documents := by
  rw [get_foldl _ program (Document.program? key) step, absent, Option.or_none]

theorem decidedBy_foldl (documents : List Document) (vars : Variables) :
    DecidedBy documents vars
      ((documents.foldl (overlayBy Document.isSeen) standard).withVariables vars) where
  pkgConfig := by
    have folded := program_foldl "pkg-config" (·.tools.pkgConfig)
      (fun s d => by simp [overlayBy, merge, d.settings_eq]) rfl documents
    simp [withVariables, pkgConfigVariable, folded]
  cython := by
    have folded := program_foldl "cython" (·.tools.cython)
      (fun s d => by simp [overlayBy, merge, d.settings_eq]) rfl documents
    simp [withVariables, cythonVariable, folded]
  translate := translate_foldl_overlayBy Document.isSeen standard documents

theorem decidedBy_ofFiles {global : Option Path} {project : Path} {lower upper : Option Document}
    (vars : Variables) (below : HoldsIfAny here global lower) (above : Holds here project upper) :
    DecidedBy (lower.toList ++ upper.toList) vars
      ((ofFiles here global project).1.withVariables vars) := by
  rw [ofFiles_of_holds below above]
  exact decidedBy_foldl _ vars

theorem merge_merge (s upper : Settings) (replaces : Bool) :
    (s.merge upper replaces).merge upper replaces = s.merge upper replaces := by
  obtain ⟨⟨pkgConfig, cython⟩, translate⟩ := upper
  cases pkgConfig <;> cases cython <;> cases replaces <;> rfl

theorem layer_layer (here : Surroundings) (s : Settings) (path : Path) :
    (layer here (layer here s path).1 path).1 = (layer here s path).1 := by
  unfold layer
  split
  · exact merge_merge ..
  · rfl

end

/-- The settings that any steps leave are those that the last of them supply. Those of two files,
each missing or loadable, and of the environment over them take every program from the environment,
else from the project's file, else from the user's. They follow the law altogether unless the last
document with a translate section is unsound in its points in time, which loses it that section. -/
theorem ofFiles_lastWins_iff (here : Surroundings) (global : Option Path) (project : Path)
    (vars : Variables) (lower upper : Option Document) (below : HoldsIfAny here global lower)
    (above : Holds here project upper) :
    let documents := lower.toList ++ upper.toList
    let loaded := (ofFiles here global project).1.withVariables vars
    let program (name key : String) : Path :=
      (((vars.nonempty? name).map Path.ofText).or
        ((upper.bind (·.program? key)).or (lower.bind (·.program? key)))).getD (Path.ofText key)
    (∀ s steps, LastWins s steps (steps.foldl overlay s)) ∧
    loaded.pkgConfig = program "PKG_CONFIG" "pkg-config" ∧
    loaded.cython = program "CYTHON" "cython" ∧
    (LastWins standard (documents.map Step.document ++ [Step.environment vars]) loaded ↔
      ∀ d ∈ (documents.filter (·.hasTranslate)).getLast?,
        d.isSound = true ∨ d.translate = loaded.translate) ∧
    ∀ path, (ofFiles here (some path) path).1 = (ofFiles here none path).1 := by
  intro documents loaded program
  have files : (ofFiles here global project).1 =
      documents.foldl (overlayBy Document.isSeen) standard := ofFiles_of_holds below above
  let steps := documents.map Step.document ++ [Step.environment vars]
  have law : LastWins standard steps (steps.foldl overlay standard) := lastWins_foldl standard steps
  have wanted : steps.foldl overlay standard =
      (documents.foldl (overlayBy Document.hasTranslate) standard).withVariables vars := by
    rw [List.foldl_append, List.foldl_map]
    rfl
  have tools : loaded.tools = (steps.foldl overlay standard).tools := by
    rw [wanted]
    simp only [loaded, files, withVariables,
      tools_foldl_overlayBy Document.isSeen Document.hasTranslate]
  -- The tools follow the law in any case, so only the translate section is left to compare.
  have follows : LastWins standard steps loaded ↔
      loaded.translate = (steps.foldl overlay standard).translate := by
    constructor
    · intro last
      rw [last.unique law]
    · intro translate
      exact ⟨tools ▸ law.pkgConfig, tools ▸ law.cython, translate ▸ law.translate⟩
  have decided : DecidedBy documents vars loaded := decidedBy_ofFiles vars below above
  refine ⟨lastWins_foldl, ?_, ?_, ?_, ?_⟩
  · rw [pkgConfig, decided.pkgConfig, last?_append_toList]
  · rw [cython, decided.cython, last?_append_toList]
  · rw [follows, wanted]
    simp only [loaded, files]
    exact translate_foldl_eq_iff standard documents
  · intro path
    rw [ofFiles_fst, ofFiles_fst]
    exact layer_layer here standard path

/-- A project's file whose program counts and whose translate section does not, since its tools
begin with the reserved key of a point in time and hold none. -/
theorem ofFiles_not_lastWins_of_unsound :
    let userText := "[translate]\nlanguage-level = 2\n"
    let projectText := "[tools]\n\"$__toml_private_datetime\" = \"soon\"\npkg-config = \"pc\"\n" ++
      "[translate]\nlanguage-level = 4\n"
    let bytes (s : String) : List UInt8 := s.toList.map fun c => c.toNat.toUInt8
    let place : Place → Option Entry
      | [] => some .directory
      | [['u']] => some (.file (bytes userText) false)
      | [['p']] => some (.file (bytes projectText) false)
      | _ => none
    let here : Surroundings := ⟨⟨[]⟩, Path.ofText "/", ⟨place⟩⟩
    let loaded := (ofFiles here (some (Path.ofText "u")) (Path.ofText "p")).1.withVariables ⟨[]⟩
    ∃ lower upper : Document, lower.content = userText ∧ upper.content = projectText ∧
      HoldsIfAny here (some (Path.ofText "u")) (some lower) ∧
      Holds here (Path.ofText "p") (some upper) ∧
      loaded = ⟨⟨some (Path.ofText "pc"), none⟩, ⟨2, true⟩⟩ ∧ upper.translate = ⟨4, true⟩ ∧
      ¬ LastWins standard [.document lower, .document upper, .environment ⟨[]⟩] loaded := by
  intro userText projectText bytes place here loaded
  let lower : Document := ⟨userText, ⟨.none, ⟨2, true⟩⟩, by decide +kernel⟩
  let upper : Document :=
    ⟨projectText, ⟨⟨some (Path.ofText "pc"), none⟩, ⟨4, true⟩⟩, by decide +kernel⟩
  have below : here.read (Path.ofText "u") = .ok lower.content := by decide +kernel
  have above : here.read (Path.ofText "p") = .ok upper.content := by decide +kernel
  have got : loaded = ⟨⟨some (Path.ofText "pc"), none⟩, ⟨2, true⟩⟩ := by decide +kernel
  have level : loaded.translate = ⟨2, true⟩ := congrArg translate got
  have written : upper.translate = ⟨4, true⟩ := (congrArg translate upper.settings_eq).symm
  have unsound : upper.isSound = false := by decide +kernel
  have last : ([lower, upper].filter (·.hasTranslate)).getLast? = some upper := by
    have has : upper.hasTranslate = true := by decide +kernel
    simp [has]
  refine ⟨lower, upper, rfl, rfl, below, above, got, written, ?_⟩
  intro follows
  have law := (ofFiles_lastWins_iff here (some (Path.ofText "u")) (Path.ofText "p") ⟨[]⟩
    (some lower) (some upper) below above).2.2.2.1.mp follows
  rcases law upper last with sound | same
  · rw [unsound] at sound
    cases sound
  · rw [written, level] at same
    revert same
    decide

end Settings
end ExtensionBuild
