import ExtensionBuild.Proofs.DescriptorText
import ExtensionBuild.Proofs.Records
import Mathlib.Data.List.Nodup

/-! Flags written as JSON and read again. Reading undoes writing, also through the text. A table
that is read gives each list under its key as it stands there, and an empty one where the key is
missing; so what was read once is read the same way again. -/
namespace ExtensionBuild

namespace Schema

namespace Record

theorem find?_of_mem {r : Record} (distinct : r.keys.Nodup) {f : Field} (member : f ∈ r.fields) :
    r.find? f.key = some f := by
  cases found : r.find? f.key with
  | none => exact absurd (List.find?_eq_none.mp found f member) (by simp)
  | some g =>
    have same : g.key = f.key := by simpa using List.find?_some found
    rw [List.inj_on_of_nodup_map distinct (List.mem_of_find?_eq_some found) member same]

/-- An open record takes a table if every value under a key of its fields is accepted there. -/
theorem admits_iff {r : Record} (opened : r.closed = false) (distinct : r.keys.Nodup)
    (entries : List (String × Data)) :
    (∀ entry ∈ entries, r.Admits entry) ↔
      ∀ f ∈ r.fields, ∀ d, (f.key, d) ∈ entries → f.check d = .ok () := by
  constructor
  · intro admits f member d inside
    have admitted := admits _ inside
    rwa [Admits, find?_of_mem distinct member] at admitted
  · rintro checks ⟨key, d⟩ inside
    rw [Admits]
    cases found : r.find? key with
    | none => exact opened
    | some f =>
      have same : f.key = key := by simpa using List.find?_some found
      exact checks f (List.mem_of_find?_eq_some found) d (same ▸ inside)

end Record

/-- What an optional text means: null is no text. -/
def MeansText (d : Data) (value : Option String) : Prop := d = (value.map .string).getD .null

theorem nullable_string_iff {d : Data} {value : Option String} :
    nullable string d = .ok value ↔ MeansText d value := by
  cases d <;> cases value <;> simp [nullable, string, MeansText, Except.map]

end Schema

namespace Define

/-- How a macro may be given in JSON: as a table with its name and perhaps a value, or as a list of
these two. A null value is none, and other keys are passed over. -/
inductive GivenBy : Data → Define → Prop
  | table {entries : List (String × Data)} {d : Define}
      (texts : ∀ x, ("name", x) ∈ entries → ∃ s, x = .string s)
      (values : ∀ x, ("value", x) ∈ entries → ∃ value, Schema.MeansText x value)
      (name : entries.lookup "name" = some (.string d.name))
      (value : Schema.Given entries "value" Schema.MeansText none d.value) :
      GivenBy (.table entries) d
  | name (s : String) : GivenBy (.list [.string s]) ⟨s, none⟩
  | both (s : String) {x : Data} {value : Option String} (means : Schema.MeansText x value) :
      GivenBy (.list [.string s, x]) ⟨s, value⟩

theorem admits_iff (entries : List (String × Data)) :
    (∀ entry ∈ entries, record.Admits entry) ↔
      (∀ x, ("name", x) ∈ entries → ∃ s, x = .string s) ∧
        ∀ x, ("value", x) ∈ entries → ∃ value, Schema.MeansText x value := by
  rw [Schema.Record.admits_iff rfl (by decide), record]
  simp only [List.forall_mem_cons, List.not_mem_nil, false_imp_iff, implies_true, and_true]
  simp only [Schema.Record.field_check_iff, Schema.string_iff, Schema.nullable_string_iff]
  rfl

theorem value_given_iff {entries : List (String × Data)} {value : Option String} :
    Schema.defaulted entries "value" (Schema.nullable Schema.string) none = .ok value ↔
      Schema.Given entries "value" Schema.MeansText none value :=
  Schema.defaulted_iff fun _ _ _ => Schema.nullable_string_iff

theorem decode_table_iff {entries : List (String × Data)} {d : Define} :
    decode .json (.table entries) = .ok d ↔ GivenBy (.table entries) d := by
  rw [decode, Schema.bind_ok_iff]
  constructor
  · rintro ⟨fields, checked, ok⟩
    obtain ⟨rfl, admits⟩ := (Schema.Record.entries_table_iff ..).mp checked
    obtain ⟨texts, values⟩ := (admits_iff _).mp admits
    obtain ⟨name, named, ok⟩ := Schema.bind_ok ok
    obtain ⟨value, valued, same⟩ := Schema.bind_ok ok
    cases same
    obtain ⟨x, found, text⟩ := Schema.required_iff.mp named
    rw [Schema.string_iff.mp text] at found
    exact .table texts values found (value_given_iff.mp valued)
  · rintro ⟨texts, values, name, value⟩
    have admits := (admits_iff entries).mpr ⟨texts, values⟩
    have named : Schema.required entries "name" Schema.string = .ok d.name :=
      Schema.required_iff.mpr ⟨_, name, rfl⟩
    refine ⟨entries, (Schema.Record.entries_table_iff ..).mpr ⟨rfl, admits⟩, ?_⟩
    rw [named, value_given_iff.mpr value]
    rfl

theorem decode_list_iff {items : List Data} {d : Define} :
    decode .json (.list items) = .ok d ↔ GivenBy (.list items) d := by
  constructor
  · intro ok
    obtain ⟨fields, checked, ok⟩ := Schema.bind_ok ok
    obtain ⟨_, admitted, checked⟩ := Schema.bind_ok checked
    obtain ⟨_, fits, same⟩ := Schema.bind_ok checked
    cases same
    obtain ⟨name, named, ok⟩ := Schema.bind_ok ok
    obtain ⟨value, valued, same⟩ := Schema.bind_ok ok
    cases same
    rcases items with _ | ⟨x, _ | ⟨y, _ | ⟨z, rest⟩⟩⟩
    · cases fits
    · obtain rfl := Schema.string_iff.mp named
      cases valued
      exact .name name
    · obtain rfl := Schema.string_iff.mp named
      exact .both name (Schema.nullable_string_iff.mp valued)
    · cases fits
  · intro given
    cases given with
    | name s => rfl
    | @both s x value means =>
      let entries := [("name", Data.string s), ("value", x)]
      have admits : record.checkEntries entries = .ok () := by
        have means : ∃ v, Schema.MeansText x v := ⟨value, means⟩
        rw [Schema.Record.checkEntries_iff, admits_iff]
        simpa [entries] using means
      have checked : record.entries .json (.list [.string s, x]) = .ok entries := by
        show (record.checkEntries entries >>= fun _ => _) = _
        rw [admits]
        rfl
      have valued : Schema.defaulted entries "value" (Schema.nullable Schema.string) none =
          .ok value := value_given_iff.mpr means
      rw [decode, checked]
      show (Schema.defaulted entries "value" _ _ >>= fun _ => _) = _
      rw [valued]
      rfl

/-- Reading a macro from JSON. -/
theorem decode_json_iff {item : Data} {d : Define} :
    decode .json item = .ok d ↔ GivenBy item d := by
  cases item with
  | table entries => exact decode_table_iff
  | list items => exact decode_list_iff
  | _ => exact ⟨fun ok => (by cases ok), fun given => (by cases given)⟩

theorem macros_iff {d : Data} {macros : List Define} :
    Schema.listOf (decode .json) d = .ok macros ↔
      ∃ items, d = .list items ∧ List.Forall₂ GivenBy items macros := by
  cases d with
  | list items => simp [Schema.listOf, Schema.mapM_iff, decode_json_iff]
  | _ => simp [Schema.listOf]

theorem givenBy_data (d : Define) : GivenBy d.data d := by
  obtain ⟨name, value⟩ := d
  cases value with
  | none => exact .table (by simp) (by simp) rfl rfl
  | some value =>
    have means : ∃ v, Schema.MeansText (.string value) v := ⟨some value, rfl⟩
    exact .table (by simp) (by simpa using means) rfl rfl

end Define

namespace Flags

/-- What a list of macros means. -/
def MeansMacros (d : Data) (macros : List Define) : Prop :=
  ∃ items, d = .list items ∧ List.Forall₂ Define.GivenBy items macros

/-- Each list stands under the key of its category, and is empty without it. -/
structure GivenBy (entries : List (String × Data)) (f : Flags) : Prop where
  lists : ∀ c : Category,
    Schema.Given entries c.key (fun d items => d = Data.strings items) [] (f.get c)
  macros : Schema.Given entries "define_macros" MeansMacros [] f.macros

/-- A table whose values under the known keys are lists, of texts for the categories and of macros.
Other keys may stand anywhere. -/
structure Accepted (entries : List (String × Data)) : Prop where
  lists : ∀ c : Category, ∀ d, (c.key, d) ∈ entries → ∃ items, d = Data.strings items
  macros : ∀ d, ("define_macros", d) ∈ entries → ∃ macros, MeansMacros d macros

variable {entries : List (String × Data)}

theorem admits_iff :
    (∀ entry ∈ entries, (record .json).Admits entry) ↔ Accepted entries := by
  rw [Schema.Record.admits_iff rfl (by decide), record]
  simp only [List.forall_mem_append, List.forall_mem_map, List.forall_mem_singleton,
    Schema.Record.field_check_iff, strings, Schema.strings_iff, Define.macros_iff]
  exact ⟨fun ⟨lists, macros⟩ => ⟨fun c => lists c c.mem_all, macros⟩,
    fun accepted => ⟨fun c _ => accepted.lists c, accepted.macros⟩⟩

theorem list_iff {key : String} {items : List String} :
    Schema.defaulted entries key strings [] = .ok items ↔
      Schema.Given entries key (fun d items => d = Data.strings items) [] items :=
  Schema.defaulted_iff fun _ _ _ => Schema.strings_iff

theorem macros_given_iff {macros : List Define} :
    Schema.defaulted entries "define_macros" (Schema.listOf (Define.decode .json)) [] = .ok macros ↔
      Schema.Given entries "define_macros" MeansMacros [] macros :=
  Schema.defaulted_iff fun _ _ _ => Define.macros_iff

theorem decode_iff {f : Flags} :
    decode .json (.table entries) = .ok f ↔ Accepted entries ∧ GivenBy entries f := by
  rw [decode, Schema.bind_ok_iff]
  constructor
  · rintro ⟨fields, checked, ok⟩
    obtain ⟨rfl, admits⟩ := (Schema.Record.entries_table_iff ..).mp checked
    obtain ⟨includeDirs, listed₁, ok⟩ := Schema.bind_ok ok
    obtain ⟨libraryDirs, listed₂, ok⟩ := Schema.bind_ok ok
    obtain ⟨libraries, listed₃, ok⟩ := Schema.bind_ok ok
    obtain ⟨compileArgs, listed₄, ok⟩ := Schema.bind_ok ok
    obtain ⟨linkArgs, listed₅, ok⟩ := Schema.bind_ok ok
    obtain ⟨macros, defined, same⟩ := Schema.bind_ok ok
    cases same
    refine ⟨admits_iff.mp admits, fun c => ?_, macros_given_iff.mp defined⟩
    cases c
    · exact list_iff.mp listed₁
    · exact list_iff.mp listed₂
    · exact list_iff.mp listed₃
    · exact list_iff.mp listed₄
    · exact list_iff.mp listed₅
  · rintro ⟨accepted, given⟩
    refine ⟨entries, (Schema.Record.entries_table_iff ..).mpr ⟨rfl, admits_iff.mpr accepted⟩, ?_⟩
    have listed (c : Category) : Schema.defaulted entries c.key strings [] = .ok (f.get c) :=
      list_iff.mpr (given.lists c)
    dsimp only
    rw [listed .includeDirs, listed .libraryDirs, listed .libraries, listed .compileArgs,
      listed .linkArgs, macros_given_iff.mpr given.macros]
    rfl

theorem exists_givenBy (accepted : Accepted entries) : ∃ f, GivenBy entries f := by
  have lists (c : Category) : ∃ items,
      Schema.Given entries c.key (fun d items => d = Data.strings items) [] items :=
    Schema.exists_given_iff.mpr fun d found => accepted.lists c d (Schema.mem_of_lookup found)
  choose list listed using lists
  obtain ⟨macros, defined⟩ := Schema.exists_given_iff.mpr
    fun d found => accepted.macros d (Schema.mem_of_lookup found)
  refine ⟨⟨list .includeDirs, list .libraryDirs, list .libraries, list .compileArgs,
    list .linkArgs, macros⟩, fun c => ?_, defined⟩
  cases c <;> exact listed _

/-- Where no key is repeated, a table that gives flags is accepted. -/
theorem GivenBy.accepted {f : Flags} (given : GivenBy entries f)
    (distinct : (entries.map (·.1)).Nodup) : Accepted entries where
  lists c d member :=
    Schema.exists_given_iff.mp ⟨_, given.lists c⟩ d (Schema.lookup_of_mem distinct member)
  macros d member :=
    Schema.exists_given_iff.mp ⟨_, given.macros⟩ d (Schema.lookup_of_mem distinct member)

theorem givenBy_entries (f : Flags) : GivenBy f.entries f where
  lists c := by cases c <;> rfl
  macros :=
    ⟨_, rfl, List.forall₂_map_left_iff.mpr (List.forall₂_same.mpr fun m _ => m.givenBy_data)⟩

theorem decode_data (f : Flags) : decode .json f.data = .ok f :=
  decode_iff.mpr ⟨f.givenBy_entries.accepted (by rw [keys_entries]; decide), f.givenBy_entries⟩

/-- Reading undoes writing, as data and as text in every layout, and what is read once is read the
same way again. A table is accepted if and only if its values under the known keys are of the right
kind, whatever else stands in it; then each list is read as it stands there, and a missing one as
the empty list. -/
theorem decode_normalises :
    (∀ f : Flags, decode .json f.data = .ok f ∧ ∀ layout,
      (Json.read (String.ofList (Json.text layout f.data))).map (decode .json) = some (.ok f)) ∧
    (∀ d, (do let f ← decode .json d; decode .json f.data) = decode .json d) ∧
    ∀ entries, (Accepted entries ↔ ∃ f, decode .json (.table entries) = .ok f) ∧
      ∀ f, decode .json (.table entries) = .ok f → GivenBy entries f := by
  refine ⟨fun f => ⟨f.decode_data, fun layout => ?_⟩, fun d => ?_, fun entries => ⟨?_, ?_⟩⟩
  · rw [← Json.readWith_latest, Json.readWith_text _ (f.isTextual_data 124), Option.map_some,
      f.decode_data]
  · cases decode .json d with
    | error e => rfl
    | ok f => exact f.decode_data
  · constructor
    · intro accepted
      obtain ⟨f, given⟩ := exists_givenBy accepted
      exact ⟨f, decode_iff.mpr ⟨accepted, given⟩⟩
    · rintro ⟨f, ok⟩
      exact (decode_iff.mp ok).1
  · intro f ok
    exact (decode_iff.mp ok).2

/-- A null value is none, an empty one is not, and a missing list is empty. -/
example :
    let content := "\x7b\"x\": 1, \"define_macros\": [" ++
      "\x7b\"value\": null, \"y\": [], \"name\": \"A\"\x7d, " ++
      "\x7b\"name\": \"B\", \"value\": \"\"\x7d, [\"C\"]], \"libraries\": [\"m\", \"m\"]\x7d"
    ((Json.read content).bind fun d => (decode .json d).toOption) =
      some ⟨[], [], ["m", "m"], [], [], [⟨"A", none⟩, ⟨"B", some ""⟩, ⟨"C", none⟩]⟩ := by
  decide +kernel

end Flags
end ExtensionBuild
