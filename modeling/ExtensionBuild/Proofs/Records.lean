import ExtensionBuild.Proofs.Decoding
import Mathlib.Data.List.Forall2

/-! Reading typed values as conditions on the data. A record takes a table if it admits every entry,
and each reader of a key gives a value exactly when the value is what stands there. -/
namespace ExtensionBuild

namespace Schema

theorem bind_ok_iff {α β ε : Type} {x : Except ε α} {f : α → Except ε β} {b : β} :
    (x >>= f) = .ok b ↔ ∃ a, x = .ok a ∧ f a = .ok b := by
  refine ⟨bind_ok, ?_⟩
  rintro ⟨a, rfl, ok⟩
  exact ok

theorem map_ok_iff {α β ε : Type} {x : Except ε α} {f : α → β} {b : β} :
    x.map f = .ok b ↔ ∃ a, x = .ok a ∧ f a = b := by
  cases x <;> simp [Except.map]

theorem lookup_of_mem {entries : List (String × Data)} (distinct : (entries.map (·.1)).Nodup)
    {key : String} {d : Data} (member : (key, d) ∈ entries) : entries.lookup key = some d := by
  induction entries with
  | nil => cases member
  | cons entry rest ih =>
    obtain ⟨other, first⟩ := entry
    rw [List.map_cons, List.nodup_cons] at distinct
    rcases List.mem_cons.mp member with same | later
    · cases same
      exact List.lookup_cons_self
    · have apart : key ≠ other := by
        rintro rfl
        exact distinct.1 (List.mem_map.mpr ⟨_, later, rfl⟩)
      rw [List.lookup_cons, beq_eq_false_iff_ne.mpr apart]
      exact ih distinct.2 later

theorem mem_of_lookup {entries : List (String × Data)} {key : String} {d : Data}
    (found : entries.lookup key = some d) : (key, d) ∈ entries := by
  obtain ⟨before, after, rfl, -⟩ := List.lookup_eq_some_iff.mp found
  simp

namespace Record

/-- Whether the record takes an entry: its field accepts the value, or there is none and the record
is open. -/
def Admits (r : Record) (entry : String × Data) : Prop :=
  match r.find? entry.1 with
  | none => r.closed = false
  | some f => f.check entry.2 = .ok ()

theorem checkEntries_iff (r : Record) (entries : List (String × Data)) :
    r.checkEntries entries = .ok () ↔ ∀ entry ∈ entries, r.Admits entry := by
  induction entries with
  | nil => simp [checkEntries]
  | cons entry rest ih =>
    obtain ⟨key, d⟩ := entry
    rw [checkEntries, List.forall_mem_cons, ← ih, Admits]
    dsimp only
    cases r.find? key with
    | none => cases r.closed <;> simp
    | some f =>
      dsimp only
      cases f.check d with
      | error e => simp
      | ok u => simp

theorem entries_table_iff (r : Record) (dialect : Dialect) (fields entries : List (String × Data)) :
    r.entries dialect (.table fields) = .ok entries ↔
      entries = fields ∧ ∀ entry ∈ fields, r.Admits entry := by
  rw [Record.entries, bind_ok_iff, ← checkEntries_iff]
  constructor
  · rintro ⟨_, checked, same⟩
    exact ⟨(Except.ok.inj same).symm, checked⟩
  · rintro ⟨rfl, checked⟩
    exact ⟨(), checked, rfl⟩

theorem field_check_iff {α : Type} (key : String) (decoder : Decoder α) (needed : Bool) (d : Data) :
    (field key decoder needed).check d = .ok () ↔ ∃ a, decoder d = .ok a := by
  rw [field, map_ok_iff]
  simp

end Record

/-- What a key stands for: what its value means, or the default without one. -/
def Given {α : Type} (entries : List (String × Data)) (key : String) (means : Data → α → Prop)
    (default value : α) : Prop :=
  match entries.lookup key with
  | none => value = default
  | some d => means d value

section

variable {α : Type} {decoder : Decoder α} {means : Data → α → Prop}
  {entries : List (String × Data)} {key : String}

theorem exists_given_iff {default : α} :
    (∃ value, Given entries key means default value) ↔
      ∀ d, entries.lookup key = some d → ∃ value, means d value := by
  simp only [Given]
  cases entries.lookup key <;> simp

theorem exists_text_iff :
    (∃ value : Option String, entries.lookup key = value.map .string) ↔
      ∀ d, entries.lookup key = some d → ∃ s, d = .string s := by
  cases entries.lookup key with
  | none => exact ⟨fun _ _ absent => (by cases absent), fun _ => ⟨none, rfl⟩⟩
  | some found =>
    constructor
    · rintro ⟨_ | s, same⟩ d held
      · cases same
      · cases same
        cases held
        exact ⟨s, rfl⟩
    · intro text
      obtain ⟨s, rfl⟩ := text found rfl
      exact ⟨some s, rfl⟩

theorem required_iff {a : α} :
    required entries key decoder = .ok a ↔ ∃ d, entries.lookup key = some d ∧ decoder d = .ok a := by
  rw [required]
  cases entries.lookup key <;> simp

theorem defaulted_iff (reads : ∀ d, entries.lookup key = some d → ∀ a, decoder d = .ok a ↔ means d a)
    {default value : α} :
    defaulted entries key decoder default = .ok value ↔ Given entries key means default value := by
  rw [defaulted, Given]
  cases found : entries.lookup key with
  | none => simp [eq_comm]
  | some d => exact reads d found value

theorem string_iff {d : Data} {s : String} : string d = .ok s ↔ d = .string s := by
  cases d <;> simp [string]

theorem pathText_iff {d : Data} {s : String} : pathText d = .ok s ↔ d = .string s := by
  cases d <;> simp [pathText]

theorem optional_text_iff {decoder : Decoder String} (text : ∀ d s, decoder d = .ok s ↔ d = .string s)
    {value : Option String} :
    optional entries key decoder = .ok value ↔ entries.lookup key = value.map .string := by
  rw [optional]
  cases entries.lookup key with
  | none => cases value <;> simp
  | some d =>
    rw [map_ok_iff]
    cases value <;> simp [text]

theorem mapM_iff {item : Decoder α} {items : List Data} {values : List α} :
    items.mapM item = .ok values ↔ List.Forall₂ (fun d a => item d = .ok a) items values := by
  induction items generalizing values with
  | nil => cases values <;> simp [pure, Except.pure]
  | cons d rest ih =>
    rw [List.mapM_cons, bind_ok_iff]
    constructor
    · rintro ⟨a, first, ok⟩
      obtain ⟨others, later, same⟩ := bind_ok ok
      cases same
      exact .cons first (ih.mp later)
    · rintro (_ | ⟨first, later⟩)
      exact ⟨_, first, bind_ok_iff.mpr ⟨_, ih.mpr later, rfl⟩⟩

theorem strings_iff {d : Data} {values : List String} :
    listOf string d = .ok values ↔ d = Data.strings values := by
  cases d with
  | list items =>
    rw [listOf, mapM_iff, Data.strings, Data.list.injEq]
    simp only [string_iff]
    rw [← List.forall₂_eq_eq_eq, List.forall₂_map_right_iff]
  | _ => simp [listOf, Data.strings]

end

end Schema
end ExtensionBuild
