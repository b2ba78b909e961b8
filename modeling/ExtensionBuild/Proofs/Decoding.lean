import ExtensionBuild.Settings

/-! The settings of a document, key by key. A document that is read as settings gives nothing or a
value of the right kind for each key, so its settings can be told from its entries alone. -/
namespace ExtensionBuild

namespace Data

def text? : Data → Option String
  | .string s => some s
  | _ => none

def byte? : Data → Option UInt8
  | .integer i => some (UInt8.ofNat i.toNat)
  | _ => none

def truth? : Data → Option Bool
  | .boolean b => some b
  | _ => none

end Data

namespace Schema

theorem bind_ok {α β ε : Type} {x : Except ε α} {f : α → Except ε β} {b : β}
    (ok : (x >>= f) = .ok b) : ∃ a, x = .ok a ∧ f a = .ok b := by
  cases x with
  | error e => cases ok
  | ok a => exact ⟨a, rfl, ok⟩

theorem pathText_ok {d : Data} {s : String} (ok : pathText d = .ok s) : d.text? = some s := by
  cases d with
  | string text => exact congrArg some (Except.ok.inj ok)
  | _ => cases ok

theorem byte_ok {d : Data} {n : UInt8} (ok : byte d = .ok n) : d.byte? = some n := by
  cases d with
  | integer i =>
    rw [byte] at ok
    split at ok
    · exact congrArg some (Except.ok.inj ok)
    · cases ok
  | _ => cases ok

theorem boolean_ok {d : Data} {b : Bool} (ok : boolean d = .ok b) : d.truth? = some b := by
  cases d with
  | boolean truth => exact congrArg some (Except.ok.inj ok)
  | _ => cases ok

variable {α : Type} {decoder : Decoder α} {view : Data → Option α}
  {entries : List (String × Data)} {key : String}

theorem optional_ok (viewed : ∀ d a, decoder d = .ok a → view d = some a) {value : Option α}
    (ok : optional entries key decoder = .ok value) : value = (entries.lookup key).bind view := by
  unfold optional at ok
  cases found : entries.lookup key with
  | none =>
    rw [found] at ok
    exact (Except.ok.inj ok).symm
  | some d =>
    rw [found] at ok
    dsimp only at ok
    cases read : decoder d with
    | error e =>
      rw [read] at ok
      cases ok
    | ok a =>
      rw [read] at ok
      rw [← Except.ok.inj ok]
      exact (viewed d a read).symm

theorem defaulted_ok (viewed : ∀ d a, decoder d = .ok a → view d = some a) {default value : α}
    (ok : defaulted entries key decoder default = .ok value) :
    value = ((entries.lookup key).bind view).getD default := by
  unfold defaulted at ok
  cases found : entries.lookup key with
  | none =>
    rw [found] at ok
    exact (Except.ok.inj ok).symm
  | some d =>
    rw [found] at ok
    rw [Option.bind_some, viewed d value ok, Option.getD_some]

/-- The entries that a value gives for a record, as a table or as a list of the fields. -/
def Record.given (r : Record) : Data → List (String × Data)
  | .table entries => entries
  | .list items => r.keys.zip items
  | _ => []

theorem Record.entries_eq {r : Record} {dialect : Dialect} {d : Data}
    {entries : List (String × Data)} (ok : r.entries dialect d = .ok entries) :
    entries = r.given d := by
  cases d with
  | table es =>
    obtain ⟨-, -, same⟩ := bind_ok ok
    exact (Except.ok.inj same).symm
  | list items =>
    obtain ⟨-, -, rest⟩ := bind_ok ok
    obtain ⟨-, -, same⟩ := bind_ok rest
    exact (Except.ok.inj same).symm
  | _ => cases ok

end Schema

namespace Settings

/-- What a document gives for a key of one of its sections. -/
def given? (entries : List (String × Data)) (part : String) (r : Schema.Record) (key : String) :
    Option Data :=
  (entries.lookup part).bind fun d => (r.given d).lookup key

/-- The program that a document names under a key; an empty name counts. -/
def programIn (entries : List (String × Data)) (key : String) : Option Path :=
  ((given? entries "tools" Tools.record key).bind Data.text?).map Path.ofText

/-- The translate section of a document. A key that is missing has its standard value. -/
def translateIn (entries : List (String × Data)) : TranslateOptions where
  languageLevel :=
    ((given? entries translateKey TranslateOptions.record "language-level").bind Data.byte?).getD 3
  embedSignature :=
    ((given? entries translateKey TranslateOptions.record "embed-signature").bind
      Data.truth?).getD true

theorem tools_ok {d : Data} {tools : Tools} (ok : Tools.decode d = .ok tools) :
    let program (key : String) :=
      (((Tools.record.given d).lookup key).bind Data.text?).map Path.ofText
    tools = ⟨program "pkg-config", program "cython"⟩ := by
  obtain ⟨fields, checked, ok⟩ := Schema.bind_ok ok
  obtain ⟨pkgConfig, first, ok⟩ := Schema.bind_ok ok
  obtain ⟨cython, second, ok⟩ := Schema.bind_ok ok
  rw [Schema.optional_ok (fun _ _ => Schema.pathText_ok) first,
    Schema.optional_ok (fun _ _ => Schema.pathText_ok) second,
    Schema.Record.entries_eq checked] at ok
  exact (Except.ok.inj ok).symm

theorem translate_ok {d : Data} {options : TranslateOptions}
    (ok : TranslateOptions.decode d = .ok options) :
    let fields := TranslateOptions.record.given d
    options = ⟨((fields.lookup "language-level").bind Data.byte?).getD 3,
      ((fields.lookup "embed-signature").bind Data.truth?).getD true⟩ := by
  obtain ⟨fields, checked, ok⟩ := Schema.bind_ok ok
  obtain ⟨level, first, ok⟩ := Schema.bind_ok ok
  obtain ⟨signature, second, ok⟩ := Schema.bind_ok ok
  rw [Schema.defaulted_ok (fun _ _ => Schema.byte_ok) first,
    Schema.defaulted_ok (fun _ _ => Schema.boolean_ok) second,
    Schema.Record.entries_eq checked] at ok
  exact (Except.ok.inj ok).symm

/-- A document that is read as settings has the settings that its keys give. -/
theorem decode_ok {entries : List (String × Data)} {s : Settings}
    (ok : decode (.table entries) = .ok s) :
    s = ⟨⟨programIn entries "pkg-config", programIn entries "cython"⟩, translateIn entries⟩ := by
  obtain ⟨fields, checked, rest⟩ := Schema.bind_ok ok
  obtain ⟨tools, first, rest⟩ := Schema.bind_ok rest
  obtain ⟨options, second, rest⟩ := Schema.bind_ok rest
  have same : fields = entries := Schema.Record.entries_eq checked
  have toolsEq :=
    Schema.defaulted_ok (fun _ _ read => congrArg some (tools_ok read).symm) first
  have optionsEq :=
    Schema.defaulted_ok (fun _ _ read => congrArg some (translate_ok read).symm) second
  rw [← Except.ok.inj rest, toolsEq, optionsEq, same]
  unfold programIn translateIn given?
  cases entries.lookup "tools" <;> cases entries.lookup translateKey <;> rfl

end Settings
end ExtensionBuild
