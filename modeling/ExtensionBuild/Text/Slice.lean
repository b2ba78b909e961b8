/-! Cutting a text at a byte. The bytes of one character belong together, so a text can be cut where
a character begins and at its end, and a cut anywhere else fails. -/
namespace ExtensionBuild.Text

/-- The characters, each with the byte at which it begins, counted from `start`. -/
def indexed (start : Nat) : List Char → List (Nat × Char)
  | [] => []
  | c :: rest => (start, c) :: indexed (start + c.utf8Size) rest

/-- The text from a byte on. -/
def sliceFrom? (s : String) (byte : Nat) : Option String :=
  if boundary : (String.Pos.Raw.mk byte).IsValid s then
    some (s.sliceFrom (s.pos ⟨byte⟩ boundary)).copy
  else none

/-- The text without its first `n` characters, cut at the byte where the next one begins. -/
def withoutFirst? (s : String) (n : Nat) : Option String :=
  match (indexed 0 s.toList)[n]? with
  | some (byte, _) => sliceFrom? s byte
  | none => some ""

theorem getElem?_indexed (start : Nat) (s : List Char) (n : Nat) :
    (indexed start s)[n]? =
      s[n]?.map (start + (String.ofList (s.take n)).utf8ByteSize, ·) := by
  induction s generalizing start n with
  | nil => rfl
  | cons c rest ih =>
    cases n with
    | zero => simp [indexed]
    | succ n =>
      have size : (String.ofList (c :: rest.take n)).utf8ByteSize =
          c.utf8Size + (String.ofList (rest.take n)).utf8ByteSize := by
        rw [← List.singleton_append, String.ofList_append, String.utf8ByteSize_append,
          ← String.singleton_eq_ofList, String.utf8ByteSize_singleton]
      rw [indexed, List.getElem?_cons_succ, ih, List.getElem?_cons_succ, List.take_succ_cons, size,
        Nat.add_assoc]

theorem isValid_append (first second : String) :
    (String.Pos.Raw.mk first.utf8ByteSize).IsValid (first ++ second) :=
  String.Pos.Raw.isValid_iff_exists_append.mpr ⟨first, second, rfl, rfl⟩

theorem sliceFrom?_append (first second : String) :
    sliceFrom? (first ++ second) first.utf8ByteSize = some second := by
  have boundary := isValid_append first second
  have cut : ((first ++ second).pos ⟨first.utf8ByteSize⟩ boundary).Splits first second := ⟨rfl, rfl⟩
  rw [sliceFrom?, dif_pos boundary, (String.Pos.splits _).eq_right cut]

private theorem take_append_drop (s : String) (n : Nat) :
    String.ofList (s.toList.take n) ++ String.ofList (s.toList.drop n) = s := by
  rw [← String.ofList_append, List.take_append_drop, String.ofList_toList]

/-- Every character begins at a boundary. -/
theorem isValid_of_mem_indexed {s : String} {byte : Nat} {c : Char}
    (member : (byte, c) ∈ indexed 0 s.toList) : (String.Pos.Raw.mk byte).IsValid s := by
  obtain ⟨n, found⟩ := List.mem_iff_getElem?.mp member
  rw [getElem?_indexed, Nat.zero_add] at found
  obtain ⟨_, _, same⟩ := Option.map_eq_some_iff.mp found
  have boundary := isValid_append (String.ofList (s.toList.take n)) (.ofList (s.toList.drop n))
  rw [take_append_drop, (Prod.mk.inj same).1] at boundary
  exact boundary

theorem withoutFirst?_eq (s : String) (n : Nat) :
    withoutFirst? s n = some (String.ofList (s.toList.drop n)) := by
  rw [withoutFirst?, getElem?_indexed, Nat.zero_add]
  cases next : s.toList[n]? with
  | none =>
    rw [List.drop_eq_nil_of_le (List.getElem?_eq_none_iff.mp next)]
    rfl
  | some c =>
    have cut := sliceFrom?_append (String.ofList (s.toList.take n)) (.ofList (s.toList.drop n))
    rwa [take_append_drop] at cut

example : sliceFrom? "-éa" 2 = none ∧ withoutFirst? "-éa" 2 = some "a" := by decide +kernel

/-- The text without its first `n` characters; no such cut fails. -/
def withoutFirst (s : String) (n : Nat) : String :=
  (withoutFirst? s n).get (by rw [withoutFirst?_eq]; rfl)

theorem withoutFirst_eq (s : String) (n : Nat) :
    withoutFirst s n = String.ofList (s.toList.drop n) := by
  simp [withoutFirst, withoutFirst?_eq]

end ExtensionBuild.Text
