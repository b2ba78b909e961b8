import ExtensionBuild.Proofs.Acceptance

/-! Keys that no schema names. At the root of a manifest and in its section they are refused. In the
table of a macro they are passed over: the manifest is the one of the document without them. -/
namespace ExtensionBuild

namespace Data

def keys : Data → List String
  | .table entries => entries.map (·.1)
  | _ => []

end Data

namespace Schema

/-- The entries with the value of one key changed. -/
def mapAt (key : String) (f : Data → Data) (entries : List (String × Data)) :
    List (String × Data) :=
  entries.map fun entry => (entry.1, if entry.1 = key then f entry.2 else entry.2)

theorem lookup_mapAt (key other : String) (f : Data → Data) (entries : List (String × Data)) :
    (mapAt key f entries).lookup other =
      (entries.lookup other).map fun d => if other = key then f d else d := by
  induction entries with
  | nil => rfl
  | cons entry rest ih =>
    obtain ⟨k, d⟩ := entry
    rw [mapAt, List.map_cons, List.lookup_cons, List.lookup_cons, ← mapAt, ih]
    cases here : other == k with
    | true =>
      obtain rfl := eq_of_beq here
      rfl
    | false => rfl

theorem lookup_mapAt_self (key : String) (f : Data → Data) (entries : List (String × Data)) :
    (mapAt key f entries).lookup key = (entries.lookup key).map f := by
  simp [lookup_mapAt]

theorem lookup_mapAt_of_ne {key other : String} (apart : other ≠ key) (f : Data → Data)
    (entries : List (String × Data)) : (mapAt key f entries).lookup other = entries.lookup other := by
  simp [lookup_mapAt, apart]

theorem mapAt_eq_self {key : String} {entries : List (String × Data)}
    (absent : key ∉ entries.map (·.1)) (f : Data → Data) : mapAt key f entries = entries := by
  have unchanged : ∀ entry ∈ entries,
      (entry.1, if entry.1 = key then f entry.2 else entry.2) = entry := by
    intro entry member
    have apart : entry.1 ≠ key := by
      rintro rfl
      exact absent (List.mem_map_of_mem member)
    rw [if_neg apart]
  rw [mapAt, List.map_congr_left unchanged, List.map_id']

/-- In a list given for a record, one item is the value of one key. -/
theorem zip_modify {keys : List String} (distinct : keys.Nodup) {i : Nat} {key : String}
    (stands : keys[i]? = some key) (f : Data → Data) (items : List Data) :
    keys.zip (items.modify i f) = mapAt key f (keys.zip items) := by
  induction keys generalizing i items with
  | nil => cases stands
  | cons k keys ih =>
    obtain ⟨absent, apart⟩ := List.nodup_cons.mp distinct
    cases items with
    | nil => simp [mapAt]
    | cons d rest =>
      cases i with
      | zero =>
        obtain rfl := Option.some.inj stands
        have untouched : k ∉ (keys.zip rest).map (·.1) := by
          intro member
          obtain ⟨pair, inside, rfl⟩ := List.mem_map.mp member
          exact absent (List.of_mem_zip inside).1
        have tail := mapAt_eq_self untouched f
        simp only [mapAt] at tail ⊢
        simp [tail]
      | succ i =>
        have other : k ≠ key := by
          rintro rfl
          exact absent (List.mem_of_getElem? stands)
        have tail := ih apart stands rest
        simp only [mapAt] at tail ⊢
        simp [tail, other]

theorem lookup_filter (p : String → Bool) {key : String} (kept : p key = true)
    (entries : List (String × Data)) :
    (entries.filter fun entry => p entry.1).lookup key = entries.lookup key := by
  induction entries with
  | nil => rfl
  | cons entry rest ih =>
    obtain ⟨k, d⟩ := entry
    rw [List.lookup_cons, List.filter_cons]
    cases here : key == k with
    | true =>
      obtain rfl := eq_of_beq here
      simp [kept]
    | false =>
      dsimp only
      split
      · rw [List.lookup_cons, here, ih]
      · exact ih

namespace Record

theorem checkEntries_mapAt (r : Record) {key : String} {f : Data → Data}
    (same : ∀ field d, r.find? key = some field → field.check (f d) = field.check d)
    (entries : List (String × Data)) :
    r.checkEntries (mapAt key f entries) = r.checkEntries entries := by
  induction entries with
  | nil => rfl
  | cons entry rest ih =>
    obtain ⟨k, d⟩ := entry
    rw [mapAt, List.map_cons, ← mapAt, checkEntries, checkEntries, ih]
    by_cases here : k = key
    · subst here
      rw [if_pos rfl]
      cases found : r.find? k with
      | none => rfl
      | some field =>
        dsimp only
        rw [same field d found]
    · rw [if_neg here]

/-- An open record does not look at entries that it has no field for. -/
theorem checkEntries_filter (r : Record) (opened : r.closed = false)
    (entries : List (String × Data)) :
    r.checkEntries (entries.filter fun entry => (r.find? entry.1).isSome) =
      r.checkEntries entries := by
  induction entries with
  | nil => rfl
  | cons entry rest ih =>
    obtain ⟨k, d⟩ := entry
    cases found : r.find? k with
    | none =>
      rw [List.filter_cons_of_neg (by simp [found]), ih]
      simp [checkEntries, found, opened]
    | some field =>
      rw [List.filter_cons_of_pos (by simp [found])]
      simp only [checkEntries, found, ih]

end Record
end Schema

namespace Define

/-- The table of a macro without the keys that it has no field for. -/
def pruned : Data → Data
  | .table entries => .table (entries.filter fun entry => (record.find? entry.1).isSome)
  | other => other

theorem decode_pruned (d : Data) : decode .toml (pruned d) = decode .toml d := by
  cases d with
  | table entries =>
    have checked := record.checkEntries_filter rfl entries
    rw [pruned, decode, decode, Schema.Record.entries, Schema.Record.entries, checked]
    cases record.checkEntries entries with
    | error e => rfl
    | ok u =>
      have kept (key : String) (field : (record.find? key).isSome = true) :=
        Schema.lookup_filter (fun key => (record.find? key).isSome) field entries
      simp only [bind, Except.bind, pure, Except.pure, Schema.required, Schema.defaulted,
        kept "name" rfl, kept "value" rfl]
  | _ => rfl

theorem find?_isSome (key : String) :
    (record.find? key).isSome = ["name", "value"].contains key := by
  by_cases name : key = "name"
  · subst name
    rfl
  by_cases value : key = "value"
  · subst value
    rfl
  simp [find?_eq_none name value, name, value]

theorem keys_pruned (d : Data) :
    (pruned d).keys = d.keys.filter (["name", "value"].contains ·) := by
  cases d with
  | table entries =>
    simp only [pruned, Data.keys, find?_isSome, List.filter_map]
    rfl
  | _ => rfl

end Define

namespace Extension

def prunedMacros : Data → Data
  | .list items => .list (items.map Define.pruned)
  | other => other

/-- The section with its macros pruned, whether it is a table or a list of the fields. -/
def pruned : Data → Data
  | .table fields => .table (Schema.mapAt "define-macros" prunedMacros fields)
  | .list items => .list (items.modify 4 prunedMacros)
  | other => other

theorem defines_pruned (d : Data) : defines (prunedMacros d) = defines d := by
  cases d with
  | list items =>
    rw [prunedMacros, defines, Schema.listOf, Schema.listOf, List.mapM_map]
    congr 1
    funext item
    exact Define.decode_pruned item
  | _ => rfl

theorem given_pruned (d : Data) :
    record.given (pruned d) = Schema.mapAt "define-macros" prunedMacros (record.given d) := by
  cases d with
  | list items => exact Schema.zip_modify (by decide) rfl prunedMacros items
  | _ => rfl

theorem checkEntries_pruned (fields : List (String × Data)) :
    record.checkEntries (Schema.mapAt "define-macros" prunedMacros fields) =
      record.checkEntries fields := by
  apply Schema.Record.checkEntries_mapAt
  intro field d found
  cases found
  show (defines (prunedMacros d)).map _ = (defines d).map _
  rw [defines_pruned]

theorem entries_pruned (d : Data) :
    record.entries .toml (pruned d) =
      (record.entries .toml d).map (Schema.mapAt "define-macros" prunedMacros) := by
  have given := given_pruned d
  cases d with
  | table fields =>
    rw [pruned, Schema.Record.entries, Schema.Record.entries, checkEntries_pruned]
    cases record.checkEntries fields <;> rfl
  | list items =>
    have zipped : record.keys.zip (items.modify 4 prunedMacros) = _ := given
    rw [pruned, Schema.Record.entries, Schema.Record.entries, zipped, List.length_modify]
    dsimp only [Schema.Record.given]
    rw [checkEntries_pruned]
    cases record.checkEntries (record.keys.zip items) with
    | error e => rfl
    | ok u => cases record.checkLength .toml items.length <;> rfl
  | _ => rfl

theorem decode_pruned (d : Data) : decode (pruned d) = decode d := by
  -- Ten keys are read from the changed entries; only one of them sees a changed value.
  rw [decode, decode, entries_pruned]
  cases record.entries .toml d with
  | error e => rfl
  | ok fields =>
    let changed := Schema.mapAt "define-macros" prunedMacros fields
    have others (key : String) (apart : key ≠ "define-macros") :
        changed.lookup key = fields.lookup key := Schema.lookup_mapAt_of_ne apart prunedMacros fields
    have named : Schema.required changed "name" Schema.string =
        Schema.required fields "name" Schema.string := by
      rw [Schema.required, Schema.required, others "name" (by decide)]
    have sourced : Schema.optional changed "source" Schema.pathText =
        Schema.optional fields "source" Schema.pathText := by
      rw [Schema.optional, Schema.optional, others "source" (by decide)]
    have flagged : Schema.optional changed "pkg-config-flag" Schema.string =
        Schema.optional fields "pkg-config-flag" Schema.string := by
      rw [Schema.optional, Schema.optional, others "pkg-config-flag" (by decide)]
    have macros : Schema.defaulted changed "define-macros" defines [] =
        Schema.defaulted fields "define-macros" defines [] := by
      rw [Schema.defaulted, Schema.defaulted, Schema.lookup_mapAt_self]
      cases fields.lookup "define-macros" with
      | none => rfl
      | some d => exact defines_pruned d
    have listed (key : String) (apart : key ≠ "define-macros") :
        Schema.defaulted changed key strings [] = Schema.defaulted fields key strings [] := by
      rw [Schema.defaulted, Schema.defaulted, others key apart]
    dsimp only [Except.map, bind, Except.bind]
    rw [named, sourced, flagged, macros, listed "libraries" (by decide),
      listed "include-dirs" (by decide), listed "library-dirs" (by decide),
      listed "link-libraries" (by decide), listed "extra-compile-args" (by decide),
      listed "extra-link-args" (by decide)]

end Extension

namespace Manifest

/-- The document with the macros of its section pruned. -/
def pruned (entries : List (String × Data)) : List (String × Data) :=
  Schema.mapAt "extension" Extension.pruned entries

theorem decode_pruned (entries : List (String × Data)) :
    decode (.table (pruned entries)) = decode (.table entries) := by
  have checked : record.checkEntries (pruned entries) = record.checkEntries entries := by
    apply Schema.Record.checkEntries_mapAt
    intro field d found
    cases found
    show (Extension.decode (Extension.pruned d)).map _ = (Extension.decode d).map _
    rw [Extension.decode_pruned]
  have read : Schema.required (pruned entries) "extension" Extension.decode =
      Schema.required entries "extension" Extension.decode := by
    rw [Schema.required, Schema.required, pruned, Schema.lookup_mapAt_self]
    cases entries.lookup "extension" with
    | none => rfl
    | some d => exact Extension.decode_pruned d
  rw [decode, decode, Schema.Record.entries, Schema.Record.entries, checked]
  dsimp only [bind, Except.bind]
  cases record.checkEntries entries with
  | error e => rfl
  | ok u => exact read

/-- What becomes of a document once it is read. -/
def accept (path : Path) (entries : List (String × Data)) : Except Error Manifest :=
  match decode (.table entries) with
  | .error e => .error (.invalid path (.mismatched e))
  | .ok extension =>
    if Text.isBlankText extension.name then .error (.blankName path)
    else .ok ⟨extension, path.parent.getD (Path.ofText ".")⟩

theorem parse_eq_accept {content : String} {entries : List (String × Data)}
    (document : Toml.read content = some entries) (path : Path) :
    parse content path = accept path entries := by
  rw [parse, Toml.decode, document, accept]
  dsimp only
  cases decode (.table entries) <;> rfl

/-- The keys in the section of a document. -/
def sectionKeys (entries : List (String × Data)) : List String :=
  match entries.lookup "extension" with
  | some d => d.keys
  | none => []

/-- The keys in the macros of a document. -/
def macroKeys (entries : List (String × Data)) : List String :=
  match Settings.given? entries "extension" Extension.record "define-macros" with
  | some (.list items) => items.flatMap Data.keys
  | _ => []

/-- A key that nothing names, at the root or in the section. -/
def StrayAbove (entries : List (String × Data)) : Prop :=
  (∃ key ∈ entries.map (·.1), key ≠ "extension") ∨
    ∃ key ∈ sectionKeys entries, key ∉ Extension.keys

/-- A key that nothing names, in a macro. -/
def StrayInMacro (entries : List (String × Data)) : Prop :=
  ∃ key ∈ macroKeys entries, key ∉ ["name", "value"]

instance (entries : List (String × Data)) : Decidable (StrayInMacro entries) :=
  inferInstanceAs (Decidable (∃ key ∈ macroKeys entries, key ∉ ["name", "value"]))

theorem given?_pruned (entries : List (String × Data)) :
    Settings.given? (pruned entries) "extension" Extension.record "define-macros" =
      (Settings.given? entries "extension" Extension.record "define-macros").map
        Extension.prunedMacros := by
  rw [Settings.given?, Settings.given?, pruned, Schema.lookup_mapAt_self]
  cases entries.lookup "extension" with
  | none => rfl
  | some d =>
    show (Extension.record.given (Extension.pruned d)).lookup "define-macros" = _
    rw [Extension.given_pruned, Schema.lookup_mapAt_self]
    rfl

/-- Pruning takes the keys that nothing names out of the macros, and no others. -/
theorem macroKeys_pruned (entries : List (String × Data)) :
    macroKeys (pruned entries) = (macroKeys entries).filter (["name", "value"].contains ·) := by
  rw [macroKeys, macroKeys, given?_pruned]
  cases Settings.given? entries "extension" Extension.record "define-macros" with
  | none => rfl
  | some d =>
    cases d with
    | list items =>
      show (items.map Define.pruned).flatMap Data.keys = _
      rw [List.flatMap_map, List.filter_flatMap]
      congr 1
      funext item
      exact Define.keys_pruned item
    | _ => rfl

theorem decode_of_strayAbove {entries : List (String × Data)} (stray : StrayAbove entries)
    (e : Extension) : decode (.table entries) ≠ .ok e := by
  intro ok
  obtain ⟨_, checked, read⟩ := Schema.bind_ok ok
  obtain ⟨rfl, admits⟩ := (Schema.Record.entries_table_iff ..).mp checked
  rcases stray with ⟨key, member, unknown⟩ | ⟨key, member, unknown⟩
  · obtain ⟨entry, inside, rfl⟩ := List.mem_map.mp member
    exact unknown (key_of_admits (admits entry inside))
  · obtain ⟨d, found, decoded⟩ := Schema.required_iff.mp read
    rw [sectionKeys, found] at member
    cases d with
    | table fields =>
      obtain ⟨_, checked', -⟩ := Schema.bind_ok decoded
      have admits' := ((Schema.Record.entries_table_iff ..).mp checked').2
      exact unknown (Extension.known_of_admits admits' key member)
    | _ => exact absurd member List.not_mem_nil

/-- A key that nothing names is refused at the root and in the section. In a macro it is passed over,
and what the document becomes is what it becomes without the key. So the documents with such keys
that are accepted are those with the keys in their macros that would be accepted without them, and a
document that differs in these keys only is not told apart. -/
theorem parse_strays (content : String) (path : Path) {entries : List (String × Data)}
    (document : Toml.read content = some entries) :
    (StrayAbove entries → ∃ e, parse content path = .error e) ∧
    parse content path = accept path (pruned entries) ∧
    macroKeys (pruned entries) = (macroKeys entries).filter (["name", "value"].contains ·) ∧
    (∀ m, (StrayAbove entries ∨ StrayInMacro entries) ∧ parse content path = .ok m ↔
      StrayInMacro entries ∧ accept path (pruned entries) = .ok m) ∧
    ∀ other others, Toml.read other = some others → pruned others = pruned entries →
      parse other path = parse content path := by
  have without {content : String} {entries : List (String × Data)}
      (document : Toml.read content = some entries) :
      parse content path = accept path (pruned entries) := by
    rw [parse_eq_accept document, accept, accept, decode_pruned]
  have above (stray : StrayAbove entries) (m : Manifest) : parse content path ≠ .ok m := by
    intro ok
    exact decode_of_strayAbove stray m.extension ((parse_ok_iff document).mp ok).1
  refine ⟨?_, without document, macroKeys_pruned entries, ?_, ?_⟩
  · intro stray
    cases result : parse content path with
    | error e => exact ⟨e, rfl⟩
    | ok m => exact absurd result (above stray m)
  · intro m
    rw [without document]
    constructor
    · rintro ⟨stray | stray, ok⟩
      · exact absurd ((without document).trans ok) (above stray m)
      · exact ⟨stray, ok⟩
    · rintro ⟨stray, ok⟩
      exact ⟨.inr stray, ok⟩
  · intro other others document' same
    rw [without document', without document, same]

/-- A misspelt key in a macro: its value is lost, and nothing is reported. -/
theorem parse_misspelt_value :
    let macros (key : String) := "[extension]\nname = \"osd\"\n" ++
      "define-macros = [\x7b name = \"X\", " ++ key ++ " = \"1\" \x7d]\n"
    let content := macros "valu"
    let path := Path.ofText "Extconf.toml"
    ∃ entries m, Toml.read content = some entries ∧ StrayInMacro entries ∧
      parse content path = .ok m ∧ accept path (pruned entries) = .ok m ∧
      m.baseFlags.compileFlags = ["-DX"] ∧
      (parse (macros "value") path).toOption.map (·.baseFlags.compileFlags) = some ["-DX=1"] := by
  intro macros content path
  have strays : (Toml.read content).any (fun entries => decide (StrayInMacro entries)) = true := by
    decide +kernel
  have given : (parse content path).toOption.map (·.baseFlags.compileFlags) = some ["-DX"] := by
    decide +kernel
  have meant : (parse (macros "value") path).toOption.map (·.baseFlags.compileFlags) =
      some ["-DX=1"] := by decide +kernel
  cases document : Toml.read content with
  | none =>
    rw [document] at strays
    cases strays
  | some entries =>
    rw [document] at strays
    have stray : StrayInMacro entries := of_decide_eq_true strays
    cases ok : parse content path with
    | error e =>
      rw [ok] at given
      cases given
    | ok m =>
      rw [ok] at given
      have law := (parse_strays content path document).2.2.2.1 m
      exact ⟨entries, m, rfl, stray, rfl, (law.mp ⟨.inr stray, ok⟩).2, Option.some.inj given, meant⟩

end Manifest

end ExtensionBuild
