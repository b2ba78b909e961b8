import ExtensionBuild.Toml.Reader
import Mathlib.Data.List.Nodup

/-! What every TOML document has in common, whatever it was written for: nothing in it is null, and
no table holds a key twice. The invariant starts at the scanners of single values and is kept by each
statement that adds to the tree. -/
namespace ExtensionBuild

/-- Without a null, and with every key of a table only once, at any depth. -/
inductive Data.Proper : Data → Prop
  | boolean (b : Bool) : Proper (.boolean b)
  | integer (i : Int) : Proper (.integer i)
  | number (x : Floating) : Proper (.number x)
  | string (s : String) : Proper (.string s)
  | list {items : List Data} (each : ∀ d ∈ items, Proper d) : Proper (.list items)
  | table {entries : List (String × Data)} (distinct : (entries.map (·.1)).Nodup)
      (each : ∀ entry ∈ entries, Proper entry.2) : Proper (.table entries)

namespace Data.Proper

variable {entries : List (String × Data)} {key : String} {d : Data}

theorem nodup (proper : (Data.table entries).Proper) : (entries.map (·.1)).Nodup := by
  cases proper with
  | table distinct each => exact distinct

theorem of_lookup (proper : (Data.table entries).Proper) (found : entries.lookup key = some d) :
    d.Proper := by
  obtain ⟨before, after, rfl, -⟩ := List.lookup_eq_some_iff.mp found
  cases proper with
  | table distinct each => exact each (key, d) (by simp)

theorem of_mem {items : List Data} (proper : (Data.list items).Proper) (member : d ∈ items) :
    d.Proper := by
  cases proper with
  | list each => exact each d member

end Data.Proper

namespace Text.Scan

variable {α β : Type} {P : α → Prop} {Q : β → Prop}

/-- Whatever the scanner gives, in whatever text, has the property. -/
def Yields (p : Scan α) (P : α → Prop) : Prop := ∀ s a rest, p s = some (a, rest) → P a

namespace Yields

theorem pure {a : α} (holds : P a) : Yields (Pure.pure a) P := by
  intro s b rest found
  cases found
  exact holds

theorem failure : Yields (failure : Scan α) P := by
  intro s a rest found
  cases found

theorem bind {p : Scan α} {f : α → Scan β} (first : Yields p P)
    (next : ∀ a, P a → Yields (f a) Q) : Yields (p >>= f) Q := by
  intro s b rest found
  obtain ⟨⟨a, between⟩, scanned, found⟩ := Option.bind_eq_some_iff.mp found
  exact next a (first s a between scanned) between b rest found

/-- What comes first is looked at by what comes next, and not returned. -/
theorem after (p : Scan α) {f : α → Scan β} (next : ∀ a, Yields (f a) Q) : Yields (p >>= f) Q :=
  bind (P := fun _ => True) (fun _ _ _ _ => trivial) fun a _ => next a

theorem orElse {p q : Scan α} (first : Yields p P) (second : Yields q P) : Yields (p <|> q) P := by
  intro s a rest found
  have tried : (p s).orElse (fun _ => q s) = some (a, rest) := found
  cases scanned : p s with
  | none =>
    rw [scanned] at tried
    exact second s a rest tried
  | some result =>
    rw [scanned] at tried
    cases tried
    exact first s a rest scanned

theorem map {p : Scan α} {f : α → β} (first : Yields p P) (image : ∀ a, P a → Q (f a)) :
    Yields (f <$> p) Q := by
  rw [map_eq_pure_bind]
  exact first.bind fun a holds => pure (image a holds)

theorem optional {p : Scan α} (inner : Yields p P) :
    Yields (optional p) fun found => ∀ a ∈ found, P a :=
  orElse (map inner fun a holds b found => by cases found; exact holds)
    (pure fun a absent => by cases absent)

theorem repeated {p : Scan α} (inner : Yields p P) (s : List Char) :
    ∀ a ∈ (Scan.repeated p s).1, P a := by
  fun_induction Scan.repeated p s with
  | case1 => exact fun a absent => absurd absent List.not_mem_nil
  | case2 s a rest found short others last eq ih =>
    rw [eq] at ih
    exact List.forall_mem_cons.mpr ⟨inner s a rest found, ih⟩
  | case3 => exact fun a absent => absurd absent List.not_mem_nil

theorem many {p : Scan α} (inner : Yields p P) : Yields (many p) fun found => ∀ a ∈ found, P a := by
  intro s items rest found
  have scanned : Scan.repeated p s = (items, rest) := Option.some.inj found
  have each := repeated inner s
  rwa [scanned] at each

theorem separated {item : Scan α} (inner : Yields item P) (separator : Scan Unit) :
    Yields (separated item separator) fun found => ∀ a ∈ found, P a :=
  inner.bind fun _ holds => (many (after separator fun _ => inner)).bind fun _ each =>
    pure (List.forall_mem_cons.mpr ⟨holds, each⟩)

theorem ofOption {found : Option α} (holds : ∀ a ∈ found, P a) : Yields (ofOption found) P := by
  cases found with
  | none => exact failure
  | some a => exact pure (holds a rfl)

end Yields
end Text.Scan

namespace Toml
open Text (Scan)
open Text.Scan

/-! The values that hold no others. -/

theorem proper_momentData (text : List Char) : (momentData text).Proper := by
  refine .table (List.nodup_singleton _) ?_
  intro entry member
  rw [List.mem_singleton.mp member]
  exact .string _

theorem yields_radixInteger (letter : Char) (base : Nat) (p : Char → Bool) :
    Yields (radixInteger letter base p) Data.Proper := by
  refine .after _ fun _ => .after _ fun _ => .after _ fun ds => ?_
  dsimp only
  split
  · exact .pure (.integer _)
  · exact .failure

theorem yields_decimalInteger : Yields decimalInteger Data.Proper := by
  refine .after _ fun negative => .after _ fun ds => ?_
  dsimp only
  split
  · split
    · exact .pure (.integer _)
    · exact .failure
  · split
    · exact .pure (.integer _)
    · exact .failure

theorem yields_integer : Yields integer Data.Proper :=
  .orElse (yields_radixInteger _ _ _) (.orElse (yields_radixInteger _ _ _)
    (.orElse (yields_radixInteger _ _ _) yields_decimalInteger))

theorem yields_fractional : Yields fractional Data.Proper := by
  refine .after _ fun negative => .after _ fun whole => .after _ fun fraction =>
    .after _ fun exponent => ?_
  dsimp only
  split
  · refine .after _ fun _ => ?_
    split
    · exact .failure
    · exact .pure (.number _)
  · split
    · exact .failure
    · exact .pure (.number _)

theorem yields_special : Yields special Data.Proper :=
  .after _ fun _ => .orElse (.after _ fun _ => .pure (.number _))
    (.after _ fun _ => .pure (.number _))

theorem yields_boolean : Yields boolean Data.Proper :=
  .orElse (.after _ fun _ => .pure (.boolean true)) (.after _ fun _ => .pure (.boolean false))

theorem yields_moment : Yields moment Data.Proper :=
  .after _ fun text => .pure (proper_momentData text)

theorem yields_scalar : Yields scalar Data.Proper := by
  refine .after _ fun next => ?_
  split
  · exact .after _ fun s => .pure (.string s)
  · exact .after _ fun s => .pure (.string s)
  · exact .orElse yields_boolean (.orElse yields_special (.orElse yields_moment
      (.orElse yields_fractional yields_integer)))
  · exact .failure

/-! Tables while they are built. -/

theorem entriesData_eq (entries : Entries) :
    entriesData entries = entries.map fun (key, node) => (key, node.data) := by
  induction entries with
  | nil => rfl
  | cons entry rest ih =>
    obtain ⟨key, node⟩ := entry
    rw [entriesData, ih, List.map_cons]

theorem tablesData_eq (items : List Entries) :
    tablesData items = items.map fun entries => .table (entriesData entries) := by
  induction items with
  | nil => rfl
  | cons entries rest ih => rw [tablesData, ih, List.map_cons]

/-- The table that the entries amount to is proper. -/
structure ProperEntries (entries : Entries) : Prop where
  distinct : (entries.map (·.1)).Nodup
  each : ∀ entry ∈ entries, entry.2.data.Proper

namespace ProperEntries

variable {entries : Entries} {key : String} {node : Node}

theorem table (proper : ProperEntries entries) : (Data.table (entriesData entries)).Proper := by
  rw [entriesData_eq]
  refine .table ?_ ?_
  · rw [List.map_map]
    exact proper.distinct
  · intro entry member
    obtain ⟨source, inside, rfl⟩ := List.mem_map.mp member
    exact proper.each source inside

theorem ofTable (proper : (Data.table (entriesData entries)).Proper) : ProperEntries entries := by
  rw [entriesData_eq] at proper
  cases proper with
  | table distinct each =>
    rw [List.map_map] at distinct
    exact ⟨distinct, fun entry member => each _ (List.mem_map_of_mem member)⟩

theorem empty : ProperEntries [] := ⟨.nil, fun _ absent => absurd absent List.not_mem_nil⟩

theorem lookup (proper : ProperEntries entries) (found : entries.lookup key = some node) :
    node.data.Proper := by
  obtain ⟨before, after, rfl, -⟩ := List.lookup_eq_some_iff.mp found
  exact proper.each (key, node) (by simp)

theorem concat (proper : ProperEntries entries) (fresh : entries.lookup key = none)
    (value : node.data.Proper) : ProperEntries (entries ++ [(key, node)]) := by
  constructor
  · rw [List.map_append]
    refine List.nodup_append.mpr ⟨proper.distinct, List.nodup_singleton _, ?_⟩
    intro old member new last
    obtain ⟨entry, inside, rfl⟩ := List.mem_map.mp member
    have other := List.lookup_eq_none_iff.mp fresh entry inside
    rw [List.mem_singleton.mp last]
    exact Ne.symm (by simpa using other)
  · intro entry member
    rcases List.mem_append.mp member with before | last
    · exact proper.each entry before
    · rw [List.mem_singleton.mp last]
      exact value

theorem replace (proper : ProperEntries entries) (value : node.data.Proper) :
    ProperEntries (replace key node entries) := by
  constructor
  · have keys : (Toml.replace key node entries).map (·.1) = entries.map (·.1) := by
      rw [Toml.replace, List.map_map]
      apply List.map_congr_left
      intro entry _
      simp only [Function.comp_apply]
      split <;> rfl
    rw [keys]
    exact proper.distinct
  · intro entry member
    obtain ⟨old, inside, rfl⟩ := List.mem_map.mp member
    dsimp only
    split
    · exact value
    · exact proper.each old inside

theorem filter (proper : ProperEntries entries) (p : String × Node → Bool) :
    ProperEntries (entries.filter p) where
  distinct := proper.distinct.sublist (List.filter_sublist.map _)
  each entry member := proper.each entry (List.mem_of_mem_filter member)

end ProperEntries

theorem proper_tables {items : List Entries} :
    (Node.tables items).data.Proper ↔ ∀ entries ∈ items, ProperEntries entries := by
  rw [Node.data, tablesData_eq]
  constructor
  · intro proper entries member
    cases proper with
    | list each => exact .ofTable (each _ (List.mem_map_of_mem member))
  · intro each
    refine .list ?_
    intro d member
    obtain ⟨entries, inside, rfl⟩ := List.mem_map.mp member
    exact (each entries inside).table

/-- A change keeps a tree proper wherever its path leads, if the edit at the end of the path does. -/
theorem change_proper {α : Type} {Q : α → Prop} {dotted : Bool}
    {edit : Origin → Entries → Option (Entries × α)}
    (kept : ∀ origin entries edited a, ProperEntries entries →
      edit origin entries = some (edited, a) → ProperEntries edited ∧ Q a)
    {path : List String} {origin : Origin} {entries changed : Entries} {a : α}
    (proper : ProperEntries entries)
    (ok : change dotted edit path origin entries = some (changed, a)) :
    ProperEntries changed ∧ Q a := by
  -- One key of the path is one table down; a list of tables is entered at its last one, and the
  -- tables before it are those of the old list.
  induction path generalizing origin entries changed with
  | nil => exact kept origin entries changed a proper ok
  | cons key path ih =>
    rw [change] at ok
    split at ok
    · rename_i fresh
      obtain ⟨⟨inner, b⟩, below, same⟩ := Option.bind_eq_some_iff.mp ok
      cases same
      obtain ⟨proper', holds⟩ := ih .empty below
      exact ⟨proper.concat fresh proper'.table, holds⟩
    · cases ok
    · rename_i origin' inner found
      split at ok
      · cases ok
      obtain ⟨⟨inner', b⟩, below, same⟩ := Option.bind_eq_some_iff.mp ok
      cases same
      obtain ⟨proper', holds⟩ := ih (.ofTable (proper.lookup found)) below
      exact ⟨proper.replace proper'.table, holds⟩
    · rename_i items found
      split at ok
      · cases ok
      rename_i last ends
      have each := proper_tables.mp (proper.lookup found)
      obtain ⟨⟨last', b⟩, below, same⟩ := Option.bind_eq_some_iff.mp ok
      cases same
      obtain ⟨proper', holds⟩ := ih (each last (List.mem_of_getLast? ends)) below
      refine ⟨proper.replace (proper_tables.mpr ?_), holds⟩
      intro entries member
      rcases List.mem_append.mp member with before | final
      · exact each entries (List.dropLast_subset _ before)
      · rw [List.mem_singleton.mp final]
        exact proper'

theorem put_proper {entries added : Entries} {path : List String} {key : String} {d : Data}
    (proper : ProperEntries entries) (value : d.Proper)
    (ok : put entries path key d = some added) : ProperEntries added := by
  obtain ⟨⟨changed, _⟩, changes, rfl⟩ := Option.map_eq_some_iff.mp ok
  refine (change_proper (Q := fun _ => True) ?_ proper changes).1
  intro origin inner edited _ proper edits
  split at edits
  · cases edits
  split at edits
  · cases edits
  rename_i fresh
  cases edits
  exact ⟨proper.concat (Option.not_isSome_iff_eq_none.mp fresh) value, trivial⟩

/-- The value of an assignment is proper; the other statements have none. -/
def Statement.Proper : Statement → Prop
  | .assign _ d => d.Proper
  | _ => True

namespace Draft

structure Proper (draft : Draft) : Prop where
  root : ProperEntries draft.root
  current : ProperEntries draft.current

variable {draft after : Draft}

theorem Proper.close {root : Entries} (proper : draft.Proper) (ok : draft.close = some root) :
    ProperEntries root := by
  unfold Draft.close at ok
  split at ok
  · cases ok
    exact proper.current
  rename_i key listed placed
  obtain ⟨⟨changed, _⟩, changes, rfl⟩ := Option.map_eq_some_iff.mp ok
  refine (change_proper (Q := fun _ => True) ?_ proper.root changes).1
  intro origin entries edited _ proper' edits
  split at edits
  · rename_i fresh
    cases edits
    refine ⟨proper'.concat fresh (proper_tables.mpr ?_), trivial⟩
    intro entries member
    rw [List.mem_singleton.mp member]
    exact proper.current
  · rename_i items found
    cases edits
    refine ⟨proper'.replace (proper_tables.mpr ?_), trivial⟩
    intro entries member
    rcases List.mem_append.mp member with before | last
    · exact proper_tables.mp (proper'.lookup found) entries before
    · rw [List.mem_singleton.mp last]
      exact proper.current
  · rename_i fresh
    cases edits
    exact ⟨proper'.concat fresh proper.current.table, trivial⟩
  · cases edits

theorem Proper.openTable {key : Key} (proper : draft.Proper)
    (ok : draft.openTable key = some after) : after.Proper := by
  obtain ⟨root, closed, ok⟩ := Option.bind_eq_some_iff.mp ok
  obtain ⟨⟨changed, current⟩, changes, same⟩ := Option.bind_eq_some_iff.mp ok
  cases same
  have both := change_proper (Q := ProperEntries) ?_ (proper.close closed) changes
  · exact ⟨both.1, both.2⟩
  intro origin entries edited inner proper' edits
  split at edits
  · cases edits
    exact ⟨proper', .empty⟩
  · rename_i implied found
    cases edits
    exact ⟨proper'.filter _, .ofTable (proper'.lookup found)⟩
  · cases edits

theorem Proper.openTables {key : Key} (proper : draft.Proper)
    (ok : draft.openTables key = some after) : after.Proper := by
  obtain ⟨root, closed, ok⟩ := Option.bind_eq_some_iff.mp ok
  obtain ⟨⟨changed, _⟩, changes, same⟩ := Option.bind_eq_some_iff.mp ok
  cases same
  refine ⟨(change_proper (Q := fun _ => True) ?_ (proper.close closed) changes).1, .empty⟩
  intro origin entries edited _ proper' edits
  split at edits
  · rename_i fresh
    cases edits
    exact ⟨proper'.concat fresh (proper_tables.mpr fun _ absent =>
      absurd absent List.not_mem_nil), trivial⟩
  · cases edits
    exact ⟨proper', trivial⟩
  · cases edits

theorem Proper.step {statement : Statement} (proper : draft.Proper) (stated : statement.Proper)
    (ok : draft.step statement = some after) : after.Proper := by
  cases statement with
  | assign key d =>
    obtain ⟨current, puts, same⟩ := Option.bind_eq_some_iff.mp ok
    cases same
    exact ⟨proper.root, put_proper proper.current stated puts⟩
  | openTable key => exact proper.openTable ok
  | openTables key => exact proper.openTables ok

theorem Proper.run {statements : List Statement} (proper : draft.Proper)
    (stated : ∀ s ∈ statements, s.Proper)
    (ok : statements.foldlM Draft.step draft = some after) : after.Proper := by
  induction statements generalizing draft with
  | nil =>
    cases ok
    exact proper
  | cons s rest ih =>
    rw [List.foldlM_cons] at ok
    obtain ⟨next, steps, ok⟩ := Option.bind_eq_some_iff.mp ok
    obtain ⟨head, tail⟩ := List.forall_mem_cons.mp stated
    exact ih (proper.step head steps) tail ok

end Draft

theorem build_proper {statements : List Statement} (stated : ∀ s ∈ statements, s.Proper)
    {entries : List (String × Data)} (ok : build statements = some entries) :
    (Data.table entries).Proper := by
  obtain ⟨draft, runs, ok⟩ := Option.bind_eq_some_iff.mp ok
  obtain ⟨root, closed, same⟩ := Option.bind_eq_some_iff.mp ok
  cases same
  have start : Draft.empty.Proper := ⟨.empty, .empty⟩
  exact ((start.run stated runs).close closed).table

/-! The text of a document. -/

theorem yields_array {item : Scan Data} (inner : Yields item Data.Proper) :
    Yields (array item) Data.Proper := by
  have one : Yields (do
      filler
      let d ← item
      filler
      Pure.pure d) Data.Proper :=
    .after _ fun _ => inner.bind fun d proper => .after _ fun _ => .pure proper
  have items := one.separated (char ',')
  refine .after _ fun _ => (Yields.optional (items.bind fun found each =>
    .after _ fun _ => .pure each)).bind fun found each => .after _ fun _ => .after _ fun _ =>
      .pure (.list ?_)
  cases found with
  | none => exact fun _ absent => absurd absent List.not_mem_nil
  | some ds => exact each ds rfl

theorem put_all_proper {pairs : List (Key × Data)} (each : ∀ pair ∈ pairs, pair.2.Proper)
    {entries added : Entries} (proper : ProperEntries entries)
    (ok : pairs.foldlM (fun es (k, d) => put es k.path k.last d) entries = some added) :
    ProperEntries added := by
  induction pairs generalizing entries with
  | nil =>
    cases ok
    exact proper
  | cons pair rest ih =>
    rw [List.foldlM_cons] at ok
    obtain ⟨next, puts, ok⟩ := Option.bind_eq_some_iff.mp ok
    obtain ⟨head, tail⟩ := List.forall_mem_cons.mp each
    exact ih tail (put_proper proper head puts) ok

theorem yields_inlineTable {item : Scan Data} (inner : Yields item Data.Proper) :
    Yields (inlineTable item) Data.Proper := by
  have one : Yields (do
      let k ← key
      char '='
      spaces
      let d ← item
      spaces
      Pure.pure (k, d)) fun pair => pair.2.Proper :=
    .after _ fun _ => .after _ fun _ => .after _ fun _ => inner.bind fun d proper =>
      .after _ fun _ => .pure proper
  refine .after _ fun _ => (Yields.optional (one.separated (char ','))).bind fun found each =>
    .after _ fun _ => .after _ fun _ => (Yields.ofOption (P := ProperEntries) ?_).bind
      fun entries proper => .pure proper.table
  intro entries puts
  refine put_all_proper ?_ .empty puts
  cases found with
  | none => exact fun _ absent => absurd absent List.not_mem_nil
  | some pairs => exact each pairs rfl

theorem yields_value (depth : Nat) : Yields (value depth) Data.Proper := by
  induction depth with
  | zero => exact yields_scalar
  | succ depth ih =>
    refine .after _ fun next => ?_
    split
    · exact yields_array ih
    · exact yields_inlineTable ih
    · exact yields_scalar

theorem yields_assignment : Yields assignment Statement.Proper :=
  .after _ fun _ => .after _ fun _ => .after _ fun _ => (yields_value maxDepth).bind fun _ proper =>
    .after _ fun _ => .pure proper

theorem yields_header : Yields header Statement.Proper :=
  .after _ fun _ => .after _ fun _ => .after _ fun _ => .after _ fun _ => .pure trivial

theorem yields_listHeader : Yields listHeader Statement.Proper :=
  .after _ fun _ => .after _ fun _ => .after _ fun _ => .after _ fun _ => .pure trivial

theorem yields_line : Yields line fun statement => ∀ s ∈ statement, s.Proper := by
  have nothing : ∀ s ∈ (none : Option Statement), s.Proper := fun _ absent => by cases absent
  have stated {p : Scan Statement} (inner : Yields p Statement.Proper) :
      Yields (some <$> p) fun statement => ∀ s ∈ statement, s.Proper :=
    inner.map fun s proper t same => by
      cases same
      exact proper
  have either : Yields _ _ := Yields.orElse (.after comment fun _ => .after (newline <|> atEnd)
    fun _ => .pure nothing) (.orElse (.after newline fun _ => .pure nothing)
      (.orElse (stated yields_listHeader) (.orElse (stated yields_header)
        (stated yields_assignment))))
  exact either.bind fun statement proper => .after _ fun _ => .pure proper

theorem yields_document : Yields document fun statements => ∀ s ∈ statements, s.Proper := by
  refine .after _ fun _ => .after _ fun _ => yields_line.many.bind fun lines each => .pure ?_
  intro s member
  obtain ⟨statement, inside, same⟩ := List.mem_filterMap.mp member
  exact each statement inside s same

/-- Every document that is read is proper. -/
theorem read_proper {s : String} {entries : List (String × Data)} (ok : read s = some entries) :
    (Data.table entries).Proper := by
  obtain ⟨statements, scanned, builds⟩ := Option.bind_eq_some_iff.mp ok
  refine build_proper ?_ builds
  unfold whole at scanned
  split at scanned
  · rename_i found
    cases scanned
    exact yields_document _ _ _ found
  · cases scanned

end Toml
end ExtensionBuild
