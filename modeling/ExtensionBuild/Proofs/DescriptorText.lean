import ExtensionBuild.Descriptor
import ExtensionBuild.Proofs.ReadBack
import Mathlib.Data.List.Forall2

/-! The text of a descriptor. It is one JSON document, every reader finds the same entries in it,
and they show the descriptor: its keys once each and in order, its values as they are. So two
descriptors never have the same text. -/
namespace ExtensionBuild

namespace Data

theorem strings_injective : Function.Injective strings := by
  intro items others same
  exact List.map_injective_iff.mpr (fun _ _ => Data.string.inj) (Data.list.inj same)

theorem isTextual_strings (items : List String) (n : Nat) : (strings items).IsTextual (n + 1) := by
  refine .list ?_
  intro d member
  obtain ⟨s, -, rfl⟩ := List.mem_map.mp member
  exact .string s

end Data

namespace Define

/-- A table that names the macro, and gives its value under a second key if and only if it has
one. -/
structure ShownBy (d : Define) (item : Data) : Prop where
  keys : ∃ entries, item = .table entries ∧
    entries.map (·.1) = if d.value.isSome then ["name", "value"] else ["name"]
  name : item.get? "name" = some (.string d.name)
  value : item.get? "value" = d.value.map .string

theorem shownBy_data (d : Define) : d.ShownBy d.data := by
  obtain ⟨name, value⟩ := d
  cases value with
  | none => exact ⟨⟨_, rfl, rfl⟩, rfl, rfl⟩
  | some value => exact ⟨⟨_, rfl, rfl⟩, rfl, rfl⟩

theorem leftUnique_shownBy : Relator.LeftUnique ShownBy := by
  rintro ⟨name, value⟩ ⟨otherName, otherValue⟩ item shown again
  have names : some (Data.string name) = some (.string otherName) :=
    shown.name.symm.trans again.name
  have values : value.map Data.string = otherValue.map .string :=
    shown.value.symm.trans again.value
  obtain rfl := Data.string.inj (Option.some.inj names)
  rw [Option.map_injective (fun _ _ => Data.string.inj) values]

theorem isTextual_data (d : Define) (n : Nat) : d.data.IsTextual (n + 1) := by
  obtain ⟨name, value⟩ := d
  cases value with
  | none => exact .table (by simp) (by simp; exact .string name)
  | some value => exact .table (by simp) (by simp; exact ⟨.string name, .string value⟩)

end Define

namespace Flags

theorem keys_entries (f : Flags) : f.entries.map (·.1) =
    ["include_dirs", "library_dirs", "libraries", "extra_compile_args", "extra_link_args",
      "define_macros"] := rfl

theorem isTextual_of_mem_entries (f : Flags) (n : Nat) :
    ∀ entry ∈ f.entries, entry.2.IsTextual (n + 2) := by
  intro entry member
  rcases List.mem_append.mp member with listed | last
  · obtain ⟨c, -, rfl⟩ := List.mem_map.mp listed
    exact Data.isTextual_strings _ _
  · rw [List.mem_singleton.mp last]
    refine .list ?_
    intro d inside
    obtain ⟨m, -, rfl⟩ := List.mem_map.mp inside
    exact m.isTextual_data n

theorem isTextual_data (f : Flags) (n : Nat) : f.data.IsTextual (n + 3) :=
  .table (by rw [keys_entries]; decide) (f.isTextual_of_mem_entries n)

end Flags

namespace Descriptor

/-- The entries are those of the descriptor and no others. -/
structure ShownBy (d : Descriptor) (entries : List (String × Data)) : Prop where
  keys : entries.map (·.1) =
    ["name", "source"] ++ (if d.generatedFrom.isSome then ["generated_from"] else []) ++
      ["include_dirs", "library_dirs", "libraries", "extra_compile_args", "extra_link_args",
        "define_macros"]
  name : entries.lookup "name" = some (.string d.name)
  source : entries.lookup "source" = some (.string d.source.text)
  generatedFrom : entries.lookup "generated_from" = d.generatedFrom.map fun p => .string p.text
  includeDirs : entries.lookup "include_dirs" = some (Data.strings d.flags.includeDirs)
  libraryDirs : entries.lookup "library_dirs" = some (Data.strings d.flags.libraryDirs)
  libraries : entries.lookup "libraries" = some (Data.strings d.flags.libraries)
  compileArgs : entries.lookup "extra_compile_args" = some (Data.strings d.flags.compileArgs)
  linkArgs : entries.lookup "extra_link_args" = some (Data.strings d.flags.linkArgs)
  macros : ∃ items, entries.lookup "define_macros" = some (.list items) ∧
    List.Forall₂ Define.ShownBy d.flags.macros items

theorem exists_shownBy (d : Descriptor) :
    ∃ entries, d.data = .table entries ∧ d.ShownBy entries := by
  refine ⟨_, rfl, ?_⟩
  have macros : List.Forall₂ Define.ShownBy d.flags.macros (d.flags.macros.map Define.data) :=
    List.forall₂_map_right_iff.mpr (List.forall₂_same.mpr fun m _ => m.shownBy_data)
  obtain ⟨name, source, generatedFrom, flags⟩ := d
  cases generatedFrom with
  | none => exact ⟨rfl, rfl, rfl, rfl, rfl, rfl, rfl, rfl, rfl, _, rfl, macros⟩
  | some origin => exact ⟨rfl, rfl, rfl, rfl, rfl, rfl, rfl, rfl, rfl, _, rfl, macros⟩

theorem ShownBy.unique {d other : Descriptor} {entries : List (String × Data)}
    (shown : d.ShownBy entries) (again : other.ShownBy entries) : d = other := by
  have listed {items others : List String} {key : String}
      (one : entries.lookup key = some (Data.strings items))
      (two : entries.lookup key = some (Data.strings others)) : items = others :=
    Data.strings_injective (Option.some.inj (one.symm.trans two))
  have sameText {p q : Path} (same : Data.string p.text = .string q.text) : p = q := by
    rw [← Path.ofText_text p, Data.string.inj same, Path.ofText_text]
  have name := Data.string.inj (Option.some.inj (shown.name.symm.trans again.name))
  have source := sameText (Option.some.inj (shown.source.symm.trans again.source))
  have generatedFrom := Option.map_injective (fun p q same => sameText same)
    (shown.generatedFrom.symm.trans again.generatedFrom)
  obtain ⟨items, found, macros⟩ := shown.macros
  obtain ⟨others, found', macros'⟩ := again.macros
  obtain rfl := Data.list.inj (Option.some.inj (found.symm.trans found'))
  have flags : d.flags = other.flags := by
    refine Flags.ext_get ?_ (List.left_unique_forall₂' Define.leftUnique_shownBy macros macros')
    intro c
    cases c
    · exact listed shown.includeDirs again.includeDirs
    · exact listed shown.libraryDirs again.libraryDirs
    · exact listed shown.libraries again.libraries
    · exact listed shown.compileArgs again.compileArgs
    · exact listed shown.linkArgs again.linkArgs
  cases d
  cases other
  simp_all

theorem isTextual_data (d : Descriptor) (n : Nat) : d.data.IsTextual (n + 3) := by
  obtain ⟨entries, same, shown⟩ := d.exists_shownBy
  have distinct : (entries.map (·.1)).Nodup := by
    rw [shown.keys]
    cases d.generatedFrom <;> simp
  obtain ⟨name, source, generatedFrom, flags⟩ := d
  rw [same]
  refine .table distinct ?_
  cases same
  intro entry member
  rcases List.mem_append.mp member with front | listed
  · rcases List.mem_append.mp front with named | origin
    · simp only [List.mem_cons, List.not_mem_nil, or_false] at named
      rcases named with rfl | rfl
      · exact .string name
      · exact .string source.text
    · cases generatedFrom with
      | none => cases origin
      | some p =>
        rw [List.mem_singleton.mp origin]
        exact .string p.text
  · exact flags.isTextual_of_mem_entries n entry listed

theorem readWith_json (d : Descriptor) (repeats : Json.Repeats) :
    Json.readWith repeats d.json = some d.data := by
  rw [json, Json.pretty]
  exact Json.readWith_text repeats (d.isTextual_data 124) (some 0)

/-- The text of a descriptor reads back to the entries that show it. -/
theorem exists_read_json (d : Descriptor) :
    ∃ entries, Json.read d.json = some (.table entries) ∧ d.ShownBy entries := by
  obtain ⟨entries, same, shown⟩ := d.exists_shownBy
  refine ⟨entries, ?_, shown⟩
  rw [← Json.readWith_latest, readWith_json, same]

/-- A descriptor is printed as one JSON document. Every reader finds in it the entries that show the
descriptor, each key once and in order, and no other descriptor is printed the same way. -/
theorem json_read_back (d : Descriptor) :
    ∃ entries, d.ShownBy entries ∧ Json.read d.json = some (.table entries) ∧
      (∀ repeats, Json.readWith repeats d.json = some (.table entries)) ∧
      ∀ other : Descriptor, other.json = d.json ↔ other = d := by
  obtain ⟨entries, same, shown⟩ := d.exists_shownBy
  refine ⟨entries, shown, ?_, ?_, ?_⟩
  · rw [← Json.readWith_latest, readWith_json, same]
  · intro repeats
    rw [readWith_json, same]
  · intro other
    constructor
    · intro equal
      obtain ⟨others, otherSame, otherShown⟩ := other.exists_shownBy
      have data : other.data = d.data := by
        have read := other.readWith_json .latest
        rw [equal, readWith_json] at read
        exact (Option.some.inj read).symm
      obtain rfl := Data.table.inj (otherSame.symm.trans (data.trans same))
      exact otherShown.unique shown
    · rintro rfl
      rfl

end Descriptor
end ExtensionBuild
