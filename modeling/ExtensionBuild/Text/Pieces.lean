/-! Cutting a text at marked characters and putting it together again, for texts of characters and
of bytes alike. The pieces are never an empty list, none of them holds a marked character, and for a
single separator the cut is undone by joining. -/
namespace ExtensionBuild.Text

variable {α : Type}

/-- The stretches between the characters that `cut` marks, empty stretches included. -/
def pieces (cut : α → Bool) : List α → List (List α)
  | [] => [[]]
  | c :: rest =>
    if cut c then [] :: pieces cut rest
    else match pieces cut rest with
      | [] => [[c]]
      | piece :: others => (c :: piece) :: others

def joined (separator : List α) : List (List α) → List α
  | [] => []
  | [piece] => piece
  | piece :: others => piece ++ separator ++ joined separator others

def joinedStrings (separator : String) (parts : List String) : String :=
  String.ofList (joined separator.toList (parts.map String.toList))

def occursIn [BEq α] (part : List α) : List α → Bool
  | [] => part.isEmpty
  | c :: rest => part.isPrefixOf (c :: rest) || occursIn part rest

theorem pieces_ne_nil (cut : α → Bool) (s : List α) : pieces cut s ≠ [] := by
  cases s with
  | nil => simp [pieces]
  | cons c rest =>
    simp only [pieces]
    split
    · simp
    · split <;> simp

private theorem joined_cons_head (separator : List α) (c : α) (piece : List α)
    (others : List (List α)) :
    joined separator ((c :: piece) :: others) = c :: joined separator (piece :: others) := by
  cases others <;> simp [joined]

private theorem joined_empty_head (separator : List α) {rest : List (List α)}
    (some : rest ≠ []) : joined separator ([] :: rest) = separator ++ joined separator rest := by
  cases rest with
  | nil => exact absurd rfl some
  | cons piece others => simp [joined]

theorem joined_eq_intercalate (separator : List α) (parts : List (List α)) :
    joined separator parts = separator.intercalate parts := by
  induction parts with
  | nil => rfl
  | cons piece others ih =>
    cases others with
    | nil => simp [joined]
    | cons next rest =>
      rw [List.intercalate_cons_cons, ← ih]
      rfl

theorem joinedStrings_eq_intercalate (separator : String) (parts : List String) :
    joinedStrings separator parts = separator.intercalate parts := by
  apply String.toList_injective
  rw [joinedStrings, String.toList_ofList, joined_eq_intercalate, String.toList_intercalate]

theorem joined_pieces [BEq α] [LawfulBEq α] (separator : α) (s : List α) :
    joined [separator] (pieces (· == separator) s) = s := by
  induction s with
  | nil => simp [pieces, joined]
  | cons c rest ih =>
    simp only [pieces]
    split
    · rename_i same
      rw [joined_empty_head _ (pieces_ne_nil _ _), ih]
      simp_all
    · split
      · rename_i none
        exact absurd none (pieces_ne_nil _ _)
      · rename_i piece others cutRest
        rw [joined_cons_head, ← cutRest, ih]

end ExtensionBuild.Text
