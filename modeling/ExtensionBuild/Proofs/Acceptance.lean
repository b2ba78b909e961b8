import ExtensionBuild.Proofs.Documents
import ExtensionBuild.Proofs.Endings
import ExtensionBuild.Proofs.Records

/-! Which documents are manifests, and what a manifest keeps of its document. Records are checked
entry by entry and then read key by key; no table of a document has a key twice, so both see the same
values. -/
namespace ExtensionBuild

namespace Define

/-- A table that names a macro and perhaps gives its value, both as texts. -/
def ReadFrom (item : Data) (d : Define) : Prop :=
  ∃ entries, item = .table entries ∧ entries.lookup "name" = some (.string d.name) ∧
    entries.lookup "value" = d.value.map .string

theorem value_iff {entries : List (String × Data)} (proper : (Data.table entries).Proper)
    {value : Option String} :
    Schema.defaulted entries "value" (Schema.nullable Schema.string) none = .ok value ↔
      entries.lookup "value" = value.map .string := by
  rw [Schema.defaulted]
  cases found : entries.lookup "value" with
  | none => cases value <;> simp
  | some d =>
    have sound := proper.of_lookup found
    cases sound <;> cases value <;> simp [Schema.nullable, Schema.string, Except.map]

theorem find?_eq_none {key : String} (name : key ≠ "name") (value : key ≠ "value") :
    record.find? key = none := by
  simp [Schema.Record.find?, record, Schema.field, name.symm, value.symm]

theorem admits_of_readFrom {entries : List (String × Data)} (proper : (Data.table entries).Proper)
    {d : Define} (name : entries.lookup "name" = some (.string d.name))
    (value : entries.lookup "value" = d.value.map .string) :
    ∀ entry ∈ entries, record.Admits entry := by
  rintro ⟨key, found⟩ member
  have held := Schema.lookup_of_mem proper.nodup member
  by_cases isName : key = "name"
  · subst isName
    rw [name] at held
    cases held
    exact rfl
  by_cases isValue : key = "value"
  · subst isValue
    rw [value] at held
    obtain ⟨text, -, rfl⟩ := Option.map_eq_some_iff.mp held
    exact rfl
  rw [Schema.Record.Admits, find?_eq_none isName isValue]
  rfl

theorem decode_iff {entries : List (String × Data)} (proper : (Data.table entries).Proper)
    {d : Define} : decode .toml (.table entries) = .ok d ↔ ReadFrom (.table entries) d := by
  rw [decode, Schema.bind_ok_iff]
  constructor
  · rintro ⟨fields, checked, ok⟩
    obtain ⟨rfl, -⟩ := (Schema.Record.entries_table_iff ..).mp checked
    obtain ⟨name, named, ok⟩ := Schema.bind_ok ok
    obtain ⟨value, valued, same⟩ := Schema.bind_ok ok
    cases same
    obtain ⟨text, found, read⟩ := Schema.required_iff.mp named
    rw [Schema.string_iff.mp read] at found
    exact ⟨_, rfl, found, (value_iff proper).mp valued⟩
  · rintro ⟨_, same, name, value⟩
    cases same
    refine ⟨entries, (Schema.Record.entries_table_iff ..).mpr
      ⟨rfl, admits_of_readFrom proper name value⟩, ?_⟩
    exact Schema.bind_ok_iff.mpr ⟨d.name, Schema.required_iff.mpr ⟨_, name, rfl⟩,
      Schema.bind_ok_iff.mpr ⟨d.value, (value_iff proper).mpr value, rfl⟩⟩

theorem exists_readFrom_iff {item : Data} :
    (∃ d, ReadFrom item d) ↔ ∃ entries, item = .table entries ∧
      (∃ s, entries.lookup "name" = some (.string s)) ∧
      ∀ value, entries.lookup "value" = some value → ∃ s, value = .string s := by
  constructor
  · rintro ⟨d, entries, same, name, value⟩
    exact ⟨entries, same, ⟨d.name, name⟩, Schema.exists_text_iff.mp ⟨d.value, value⟩⟩
  · rintro ⟨entries, same, ⟨name, named⟩, texts⟩
    obtain ⟨value, valued⟩ := Schema.exists_text_iff.mpr texts
    exact ⟨⟨name, value⟩, entries, same, named, valued⟩

theorem exists_readFrom_each_iff {items : List Data} :
    (∃ ds, List.Forall₂ ReadFrom items ds) ↔ ∀ item ∈ items, ∃ d, ReadFrom item d := by
  induction items with
  | nil => simp
  | cons item rest ih =>
    rw [List.forall_mem_cons, ← ih]
    constructor
    · rintro ⟨ds, read⟩
      cases read with
      | cons first later => exact ⟨⟨_, first⟩, _, later⟩
    · rintro ⟨⟨d, first⟩, ds, later⟩
      exact ⟨d :: ds, .cons first later⟩

end Define

namespace Extension

/-- A list of macros, each read from its table. -/
def MacrosFrom (d : Data) (macros : List Define) : Prop :=
  ∃ items, d = .list items ∧ List.Forall₂ Define.ReadFrom items macros

/-- Where a section has a list of macros, each of them is a table. -/
def MacrosAreTables (fields : List (String × Data)) : Prop :=
  ∀ items, fields.lookup "define-macros" = some (.list items) →
    ∀ item ∈ items, ∃ entries, item = .table entries

/-- The keys under which a list of texts may stand. -/
def listKeys : List String :=
  ["libraries", "include-dirs", "library-dirs", "link-libraries", "extra-compile-args",
    "extra-link-args"]

def keys : List String := ["name", "source", "pkg-config-flag", "define-macros"] ++ listKeys

/-- The section of a manifest has no keys but its own, a name that is not blank, and values of the
right kinds. -/
structure Conforms (fields : List (String × Data)) : Prop where
  known : ∀ key ∈ fields.map (·.1), key ∈ keys
  name : ∃ s, fields.lookup "name" = some (.string s) ∧ ∃ c ∈ s.toList, Text.isBlank c = false
  texts : ∀ key ∈ ["source", "pkg-config-flag"], ∀ d, fields.lookup key = some d →
    ∃ s, d = .string s
  macros : ∀ d, fields.lookup "define-macros" = some d → ∃ items, d = .list items ∧
    ∀ item ∈ items, ∃ entries, item = .table entries ∧
      (∃ s, entries.lookup "name" = some (.string s)) ∧
      ∀ value, entries.lookup "value" = some value → ∃ s, value = .string s
  lists : ∀ key ∈ listKeys, ∀ d, fields.lookup key = some d → ∃ items, d = Data.strings items

/-- A list of texts under a key; a missing one is empty. -/
def Lists (fields : List (String × Data)) (key : String) (items : List String) : Prop :=
  Schema.Given fields key (fun d items => d = Data.strings items) [] items

/-- The extension is what the fields of the section say, no more and no less. -/
structure ReadFrom (fields : List (String × Data)) (e : Extension) : Prop where
  name : fields.lookup "name" = some (.string e.name)
  source : fields.lookup "source" = e.source.map fun path => .string path.text
  libraries : Lists fields "libraries" e.libraries
  pkgConfigFlag : fields.lookup "pkg-config-flag" = e.pkgConfigFlag.map .string
  macros : Schema.Given fields "define-macros" MacrosFrom [] e.macros
  includeDirs : Lists fields "include-dirs" e.includeDirs
  libraryDirs : Lists fields "library-dirs" e.libraryDirs
  linkLibraries : Lists fields "link-libraries" e.linkLibraries
  compileArgs : Lists fields "extra-compile-args" e.compileArgs
  linkArgs : Lists fields "extra-link-args" e.linkArgs

section

variable {fields : List (String × Data)} {e : Extension}

theorem list_iff {key : String} {items : List String} :
    Schema.defaulted fields key strings [] = .ok items ↔ Lists fields key items :=
  Schema.defaulted_iff fun _ _ _ => Schema.strings_iff

theorem defines_iff {d : Data} (proper : d.Proper)
    (tables : ∀ items, d = .list items → ∀ item ∈ items, ∃ entries, item = .table entries)
    {macros : List Define} : defines d = .ok macros ↔ MacrosFrom d macros := by
  cases d with
  | list items =>
    have each (item : Data) (one : Define) (pair : (item, one) ∈ items.zip macros) :
        Define.decode .toml item = .ok one ↔ Define.ReadFrom item one := by
      have member := (List.of_mem_zip pair).1
      obtain ⟨entries, rfl⟩ := tables items rfl item member
      exact Define.decode_iff (proper.of_mem member)
    rw [defines, Schema.listOf, Schema.mapM_iff, List.forall₂_iff_zip]
    constructor
    · rintro ⟨size, read⟩
      exact ⟨items, rfl, List.forall₂_iff_zip.mpr
        ⟨size, fun pair => (each _ _ pair).mp (read pair)⟩⟩
    · rintro ⟨_, same, read⟩
      cases same
      obtain ⟨size, read⟩ := List.forall₂_iff_zip.mp read
      exact ⟨size, fun pair => (each _ _ pair).mpr (read pair)⟩
  | _ => simp [defines, Schema.listOf, MacrosFrom]

theorem find?_of_listKey {key : String} (listed : key ∈ listKeys) :
    record.find? key = some (Schema.field key strings false) := by
  simp only [listKeys, List.mem_cons, List.not_mem_nil, or_false] at listed
  rcases listed with rfl | rfl | rfl | rfl | rfl | rfl <;> rfl

theorem record_keys : record.keys.Perm keys := by decide

theorem known_of_admits (admits : ∀ entry ∈ fields, record.Admits entry) :
    ∀ key ∈ fields.map (·.1), key ∈ keys := by
  intro key member
  obtain ⟨entry, inside, rfl⟩ := List.mem_map.mp member
  have admitted := admits entry inside
  unfold Schema.Record.Admits at admitted
  split at admitted
  · cases admitted
  · rename_i f found
    have same : f.key = entry.1 := by simpa using List.find?_some found
    rw [← same]
    exact record_keys.mem_iff.mp (List.mem_map_of_mem (List.mem_of_find?_eq_some found))

theorem ReadFrom.lists (read : ReadFrom fields e) {key : String} (listed : key ∈ listKeys) :
    ∃ items, Lists fields key items := by
  simp only [listKeys, List.mem_cons, List.not_mem_nil, or_false] at listed
  rcases listed with rfl | rfl | rfl | rfl | rfl | rfl
  · exact ⟨_, read.libraries⟩
  · exact ⟨_, read.includeDirs⟩
  · exact ⟨_, read.libraryDirs⟩
  · exact ⟨_, read.linkLibraries⟩
  · exact ⟨_, read.compileArgs⟩
  · exact ⟨_, read.linkArgs⟩

/-- Every entry is checked, and the one under its key is read; they are the same. -/
theorem admits_of_readFrom (proper : (Data.table fields).Proper)
    (tables : MacrosAreTables fields)
    (known : ∀ key ∈ fields.map (·.1), key ∈ keys) (read : ReadFrom fields e) :
    ∀ entry ∈ fields, record.Admits entry := by
  rintro ⟨key, d⟩ member
  have held := Schema.lookup_of_mem proper.nodup member
  have sound := proper.of_lookup held
  have accepted {f : Schema.Field} (found : record.find? key = some f) (ok : f.check d = .ok ()) :
      record.Admits (key, d) := by
    rw [Schema.Record.Admits, found]
    exact ok
  -- Four keys are read each in its own way, all others as lists of texts.
  rcases List.mem_append.mp (known key (List.mem_map_of_mem member)) with single | listed
  · simp only [List.mem_cons, List.not_mem_nil, or_false] at single
    rcases single with rfl | rfl | rfl | rfl
    · rw [read.name] at held
      cases held
      exact accepted rfl rfl
    · rw [read.source] at held
      obtain ⟨path, -, rfl⟩ := Option.map_eq_some_iff.mp held
      exact accepted rfl rfl
    · rw [read.pkgConfigFlag] at held
      obtain ⟨flag, -, rfl⟩ := Option.map_eq_some_iff.mp held
      exact accepted rfl rfl
    · have macros := read.macros
      rw [Schema.Given, held] at macros
      exact accepted rfl ((Schema.Record.field_check_iff ..).mpr
        ⟨_, (defines_iff sound fun items same => tables items (same ▸ held)).mpr macros⟩)
  · obtain ⟨items, given⟩ := read.lists listed
    rw [Lists, Schema.Given, held] at given
    exact accepted (find?_of_listKey listed) ((Schema.Record.field_check_iff ..).mpr
      ⟨_, Schema.strings_iff.mpr given⟩)

theorem macros_iff (proper : (Data.table fields).Proper)
    (tables : MacrosAreTables fields) {macros : List Define} :
    Schema.defaulted fields "define-macros" defines [] = .ok macros ↔
      Schema.Given fields "define-macros" MacrosFrom [] macros :=
  Schema.defaulted_iff fun _ found _ =>
    defines_iff (proper.of_lookup found) fun items same => tables items (same ▸ found)

theorem readFrom_of_decode (proper : (Data.table fields).Proper)
    (tables : MacrosAreTables fields)
    (ok : decode (.table fields) = .ok e) :
    (∀ key ∈ fields.map (·.1), key ∈ keys) ∧ ReadFrom fields e := by
  obtain ⟨_, checked, rest⟩ := Schema.bind_ok ok
  obtain ⟨rfl, admits⟩ := (Schema.Record.entries_table_iff ..).mp checked
  obtain ⟨name, named, rest⟩ := Schema.bind_ok rest
  obtain ⟨source, sourced, rest⟩ := Schema.bind_ok rest
  obtain ⟨libraries, listed₁, rest⟩ := Schema.bind_ok rest
  obtain ⟨flag, flagged, rest⟩ := Schema.bind_ok rest
  obtain ⟨macros, defined, rest⟩ := Schema.bind_ok rest
  obtain ⟨includeDirs, listed₂, rest⟩ := Schema.bind_ok rest
  obtain ⟨libraryDirs, listed₃, rest⟩ := Schema.bind_ok rest
  obtain ⟨linkLibraries, listed₄, rest⟩ := Schema.bind_ok rest
  obtain ⟨compileArgs, listed₅, rest⟩ := Schema.bind_ok rest
  obtain ⟨linkArgs, listed₆, rest⟩ := Schema.bind_ok rest
  cases rest
  obtain ⟨d, found, text⟩ := Schema.required_iff.mp named
  refine ⟨known_of_admits admits, ?_, ?_, list_iff.mp listed₁, ?_,
    (macros_iff proper tables).mp defined, list_iff.mp listed₂, list_iff.mp listed₃,
    list_iff.mp listed₄, list_iff.mp listed₅, list_iff.mp listed₆⟩
  · rw [found, Schema.string_iff.mp text]
  · rw [(Schema.optional_text_iff fun _ _ => Schema.pathText_iff).mp sourced]
    cases source <;> simp
  · exact (Schema.optional_text_iff fun _ _ => Schema.string_iff).mp flagged

theorem decode_of_readFrom (proper : (Data.table fields).Proper)
    (tables : MacrosAreTables fields)
    (known : ∀ key ∈ fields.map (·.1), key ∈ keys) (read : ReadFrom fields e) :
    decode (.table fields) = .ok e := by
  have checked : record.entries .toml (.table fields) = .ok fields :=
    (Schema.Record.entries_table_iff ..).mpr ⟨rfl, admits_of_readFrom proper tables known read⟩
  have named : Schema.required fields "name" Schema.string = .ok e.name :=
    Schema.required_iff.mpr ⟨_, read.name, rfl⟩
  have sourced : Schema.optional fields "source" Schema.pathText = .ok (e.source.map Path.text) := by
    rw [Schema.optional_text_iff fun _ _ => Schema.pathText_iff, read.source]
    cases e.source <;> rfl
  have flagged : Schema.optional fields "pkg-config-flag" Schema.string = .ok e.pkgConfigFlag :=
    (Schema.optional_text_iff fun _ _ => Schema.string_iff).mpr read.pkgConfigFlag
  rw [decode, checked]
  dsimp only [bind, Except.bind]
  rw [named, sourced, flagged, (macros_iff proper tables).mpr read.macros,
    list_iff.mpr read.libraries, list_iff.mpr read.includeDirs, list_iff.mpr read.libraryDirs,
    list_iff.mpr read.linkLibraries, list_iff.mpr read.compileArgs, list_iff.mpr read.linkArgs]
  dsimp only
  rw [Option.map_map, Path.ofText_comp_text, Option.map_id]
  rfl

/-- The section is read as what it says if its keys are known, and refused otherwise. -/
theorem decode_iff (proper : (Data.table fields).Proper)
    (tables : MacrosAreTables fields) :
    decode (.table fields) = .ok e ↔
      (∀ key ∈ fields.map (·.1), key ∈ keys) ∧ ReadFrom fields e :=
  ⟨readFrom_of_decode proper tables,
    fun ⟨known, read⟩ => decode_of_readFrom proper tables known read⟩

theorem exists_macrosFrom_iff {d : Data} :
    (∃ macros, MacrosFrom d macros) ↔ ∃ items, d = .list items ∧
      ∀ item ∈ items, ∃ entries, item = .table entries ∧
        (∃ s, entries.lookup "name" = some (.string s)) ∧
        ∀ value, entries.lookup "value" = some value → ∃ s, value = .string s := by
  simp only [MacrosFrom, ← Define.exists_readFrom_iff, ← Define.exists_readFrom_each_iff]
  constructor
  · rintro ⟨macros, items, same, read⟩
    exact ⟨items, same, macros, read⟩
  · rintro ⟨items, same, macros, read⟩
    exact ⟨macros, items, same, read⟩

/-- The section conforms if there is an extension that can be read from it. -/
theorem conforms_iff :
    Conforms fields ↔ (∀ key ∈ fields.map (·.1), key ∈ keys) ∧
      ∃ e, ReadFrom fields e ∧ Text.isBlankText e.name = false := by
  have visible (s : String) :
      Text.isBlankText s = false ↔ ∃ c ∈ s.toList, Text.isBlank c = false := by
    rw [Text.isBlankText_eq, List.all_eq_false]
    simp
  constructor
  · intro conforms
    have lists (key : String) (listed : key ∈ listKeys) : ∃ items, Lists fields key items :=
      Schema.exists_given_iff.mpr (conforms.lists key listed)
    obtain ⟨name, named, shown⟩ := conforms.name
    obtain ⟨source, sourced⟩ := Schema.exists_text_iff.mpr (conforms.texts "source" (by simp))
    obtain ⟨flag, flagged⟩ := Schema.exists_text_iff.mpr (conforms.texts "pkg-config-flag" (by simp))
    obtain ⟨macros, defined⟩ := Schema.exists_given_iff.mpr
      fun d found => exists_macrosFrom_iff.mpr (conforms.macros d found)
    obtain ⟨libraries, listed₁⟩ := lists "libraries" (by decide)
    obtain ⟨includeDirs, listed₂⟩ := lists "include-dirs" (by decide)
    obtain ⟨libraryDirs, listed₃⟩ := lists "library-dirs" (by decide)
    obtain ⟨linkLibraries, listed₄⟩ := lists "link-libraries" (by decide)
    obtain ⟨compileArgs, listed₅⟩ := lists "extra-compile-args" (by decide)
    obtain ⟨linkArgs, listed₆⟩ := lists "extra-link-args" (by decide)
    refine ⟨conforms.known, ⟨name, source.map Path.ofText, libraries, flag, macros, includeDirs,
      libraryDirs, linkLibraries, compileArgs, linkArgs⟩, ?_, (visible name).mpr shown⟩
    refine ⟨named, ?_, listed₁, flagged, defined, listed₂, listed₃, listed₄, listed₅, listed₆⟩
    rw [sourced]
    cases source <;> simp
  · rintro ⟨known, e, read, shown⟩
    refine ⟨known, ⟨e.name, read.name, (visible e.name).mp shown⟩, ?_, ?_, ?_⟩
    · intro key single
      simp only [List.mem_cons, List.not_mem_nil, or_false] at single
      apply Schema.exists_text_iff.mp
      rcases single with rfl | rfl
      · exact ⟨e.source.map Path.text, by rw [read.source]; cases e.source <;> rfl⟩
      · exact ⟨e.pkgConfigFlag, read.pkgConfigFlag⟩
    · intro d found
      exact exists_macrosFrom_iff.mp (Schema.exists_given_iff.mp ⟨e.macros, read.macros⟩ d found)
    · intro key listed
      exact Schema.exists_given_iff.mp (read.lists listed)

end

end Extension

namespace Manifest

section

variable {entries : List (String × Data)} {e : Extension}

theorem key_of_admits {entry : String × Data} (admitted : record.Admits entry) :
    entry.1 = "extension" := by
  by_contra other
  have unknown : record.find? entry.1 = none := by
    simp [Schema.Record.find?, record, Schema.field, Ne.symm other]
  rw [Schema.Record.Admits, unknown] at admitted
  cases admitted

theorem eq_singleton_of_known (proper : (Data.table entries).Proper)
    (known : ∀ entry ∈ entries, record.Admits entry) {d : Data}
    (found : entries.lookup "extension" = some d) : entries = [("extension", d)] := by
  have only (entry : String × Data) (member : entry ∈ entries) : entry = ("extension", d) := by
    obtain ⟨key, value⟩ := entry
    obtain rfl : key = "extension" := key_of_admits (known _ member)
    have held := Schema.lookup_of_mem proper.nodup member
    rw [found] at held
    rw [Option.some.inj held]
  have distinct : entries.Nodup := .of_map _ proper.nodup
  have one : entries.Perm [("extension", d)] := by
    rw [List.perm_ext_iff_of_nodup distinct (List.nodup_singleton _)]
    intro entry
    rw [List.mem_singleton]
    refine ⟨only entry, ?_⟩
    rintro rfl
    exact Schema.mem_of_lookup found
  exact List.perm_singleton.mp one

/-- The section of a document, where it has one, is a table, and so is each of its macros. -/
def Tabular (entries : List (String × Data)) : Prop :=
  ∀ d, entries.lookup "extension" = some d →
    ∃ fields, d = .table fields ∧ Extension.MacrosAreTables fields

def isTabular (entries : List (String × Data)) : Bool :=
  match entries.lookup "extension" with
  | none => true
  | some (.table fields) =>
    match fields.lookup "define-macros" with
    | some (.list items) => items.all fun
      | .table _ => true
      | _ => false
    | _ => true
  | some _ => false

theorem tabular_of_isTabular (checked : isTabular entries = true) : Tabular entries := by
  intro d found
  rw [isTabular, found] at checked
  cases d with
  | table fields =>
    refine ⟨fields, rfl, ?_⟩
    intro items listed item member
    dsimp only at checked
    rw [listed] at checked
    have table := List.all_eq_true.mp checked item member
    cases item with
    | table entries => exact ⟨entries, rfl⟩
    | _ => cases table
  | _ => cases checked

theorem decode_iff (proper : (Data.table entries).Proper) (tabular : Tabular entries) :
    decode (.table entries) = .ok e ↔ ∃ fields, entries = [("extension", .table fields)] ∧
      (∀ key ∈ fields.map (·.1), key ∈ Extension.keys) ∧ Extension.ReadFrom fields e := by
  have inner {fields : List (String × Data)} (found : entries.lookup "extension" = some (.table fields)) :
      Extension.decode (.table fields) = .ok e ↔
        (∀ key ∈ fields.map (·.1), key ∈ Extension.keys) ∧ Extension.ReadFrom fields e := by
    obtain ⟨_, same, tables⟩ := tabular _ found
    cases same
    exact Extension.decode_iff (proper.of_lookup found) tables
  rw [decode, Schema.bind_ok_iff]
  constructor
  · rintro ⟨_, checked, ok⟩
    obtain ⟨rfl, admits⟩ := (Schema.Record.entries_table_iff ..).mp checked
    obtain ⟨d, found, decoded⟩ := Schema.required_iff.mp ok
    obtain ⟨fields, rfl, -⟩ := tabular d found
    exact ⟨fields, eq_singleton_of_known proper admits found, (inner found).mp decoded⟩
  · rintro ⟨fields, rfl, accepted⟩
    have decoded := (inner rfl).mpr accepted
    have admits : ∀ entry ∈ [("extension", Data.table fields)], record.Admits entry := by
      intro entry member
      rw [List.mem_singleton.mp member]
      exact (Schema.Record.field_check_iff ..).mpr ⟨e, decoded⟩
    exact ⟨_, (Schema.Record.entries_table_iff ..).mpr ⟨rfl, admits⟩,
      Schema.required_iff.mpr ⟨_, rfl, decoded⟩⟩

theorem parse_ok_iff {content : String} {path : Path} {m : Manifest}
    (document : Toml.read content = some entries) :
    parse content path = .ok m ↔ decode (.table entries) = .ok m.extension ∧
      Text.isBlankText m.extension.name = false ∧ m.dir = path.parent.getD (Path.ofText ".") := by
  rw [parse, Toml.decode, document]
  dsimp only
  cases decode (.table entries) with
  | error e => simp [Except.mapError]
  | ok extension =>
    obtain ⟨own, dir⟩ := m
    dsimp only [Except.mapError]
    cases blank : Text.isBlankText extension.name with
    | true =>
      refine ⟨fun refused => (by cases refused), ?_⟩
      rintro ⟨same, shown, -⟩
      rw [← Except.ok.inj same, blank] at shown
      cases shown
    | false =>
      constructor
      · intro ok
        cases ok
        exact ⟨rfl, blank, rfl⟩
      · rintro ⟨same, -, rfl⟩
        cases same
        rfl

/-- What a section says about the flags: each list under the key of its own category, and the
macros. -/
structure FlagsFrom (fields : List (String × Data)) (f : Flags) : Prop where
  includeDirs : Extension.Lists fields "include-dirs" f.includeDirs
  libraryDirs : Extension.Lists fields "library-dirs" f.libraryDirs
  libraries : Extension.Lists fields "link-libraries" f.libraries
  compileArgs : Extension.Lists fields "extra-compile-args" f.compileArgs
  linkArgs : Extension.Lists fields "extra-link-args" f.linkArgs
  macros : Schema.Given fields "define-macros" Extension.MacrosFrom [] f.macros

end

/-- A document is accepted if and only if it is one section that conforms. The manifest holds what
the section says, with the name as it stands there, and queries start from the flags among it; the
libraries to ask about are not among these. -/
theorem parse_accepts_iff (content : String) (path : Path) {entries : List (String × Data)}
    (document : Toml.read content = some entries) (tabular : Tabular entries) :
    ((∃ m, parse content path = .ok m) ↔
      ∃ fields, entries = [("extension", .table fields)] ∧ Extension.Conforms fields) ∧
    ∀ m, parse content path = .ok m → ∃ fields, entries = [("extension", .table fields)] ∧
      Extension.ReadFrom fields m.extension ∧ FlagsFrom fields m.baseFlags ∧
      m.dir = path.parent.getD (Path.ofText ".") := by
  have proper := Toml.read_proper document
  have accepts (e : Extension) := decode_iff (e := e) proper tabular
  refine ⟨⟨?_, ?_⟩, ?_⟩
  · rintro ⟨m, ok⟩
    obtain ⟨decoded, shown, -⟩ := (parse_ok_iff document).mp ok
    obtain ⟨fields, only, known, read⟩ := (accepts m.extension).mp decoded
    exact ⟨fields, only, Extension.conforms_iff.mpr ⟨known, m.extension, read, shown⟩⟩
  · rintro ⟨fields, only, conforms⟩
    obtain ⟨known, e, read, shown⟩ := Extension.conforms_iff.mp conforms
    have decoded := (accepts e).mpr ⟨fields, only, known, read⟩
    exact ⟨⟨e, path.parent.getD (Path.ofText ".")⟩,
      (parse_ok_iff document).mpr ⟨decoded, shown, rfl⟩⟩
  · intro m ok
    obtain ⟨decoded, -, dir⟩ := (parse_ok_iff document).mp ok
    obtain ⟨fields, only, -, read⟩ := (accepts m.extension).mp decoded
    have flags : FlagsFrom fields m.baseFlags := ⟨read.includeDirs, read.libraryDirs,
      read.linkLibraries, read.compileArgs, read.linkArgs, read.macros⟩
    exact ⟨fields, only, read, flags, dir⟩

/-- A manifest whose two lists of libraries go to different places. -/
theorem parse_accepts_two_lists :
    let content := "[extension]\nname = \" osd\"\nlibraries = [\"zlib\"]\nlink-libraries = [\"m\"]\n" ++
      "define-macros = [\x7b name = \"X\", value = \"1\" \x7d, \x7b name = \"Y\" \x7d]\n"
    let path := Path.ofText "Extconf.toml"
    let manifest : Manifest := ⟨⟨" osd", none, ["zlib"], none, [⟨"X", some "1"⟩, ⟨"Y", none⟩], [], [],
      ["m"], [], []⟩, Path.ofText ""⟩
    ∃ entries, Toml.read content = some entries ∧ Tabular entries ∧
      (parse content path).toOption = some manifest ∧
      ∃ fields, entries = [("extension", .table fields)] ∧ Extension.Conforms fields ∧
        Extension.ReadFrom fields manifest.extension ∧ FlagsFrom fields manifest.baseFlags := by
  intro content path manifest
  have accepted : (parse content path).toOption = some manifest := by decide +kernel
  have checked : (Toml.read content).any isTabular = true := by decide +kernel
  cases document : Toml.read content with
  | none =>
    rw [document] at checked
    cases checked
  | some entries =>
    rw [document] at checked
    have tabular := tabular_of_isTabular checked
    have law := parse_accepts_iff content path document tabular
    refine ⟨entries, rfl, tabular, accepted, ?_⟩
    cases ok : parse content path with
    | error e =>
      rw [ok] at accepted
      cases accepted
    | ok m =>
      rw [ok] at accepted
      obtain rfl := Option.some.inj accepted
      obtain ⟨fields, only, conforms⟩ := law.1.mp ⟨manifest, ok⟩
      obtain ⟨fields', only', read, flags, -⟩ := law.2 manifest ok
      cases only.symm.trans only'
      exact ⟨fields, only, conforms, read, flags⟩

end Manifest
end ExtensionBuild
