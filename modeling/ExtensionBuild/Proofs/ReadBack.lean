import ExtensionBuild.Json.Printer
import ExtensionBuild.Json.Reader

/-! Printed JSON is read back as the value that was printed, in every layout. Readers of JSON may
differ in what they make of an object that repeats a key; the law holds of all of them, since no
object that is printed here does. -/
namespace ExtensionBuild

/-- Made of texts alone, with at most so many levels of lists and tables, and with every key of a
table only once. -/
inductive Data.IsTextual : Nat → Data → Prop
  | string {n : Nat} (s : String) : IsTextual n (.string s)
  | list {n : Nat} {items : List Data} (each : ∀ d ∈ items, IsTextual n d) :
      IsTextual (n + 1) (.list items)
  | table {n : Nat} {entries : List (String × Data)} (distinct : (entries.map (·.1)).Nodup)
      (each : ∀ entry ∈ entries, IsTextual n entry.2) : IsTextual (n + 1) (.table entries)

namespace Text.Scan

variable {α β : Type}

theorem bind_of_some {p : Scan α} {s rest : List Char} {a : α} (scanned : p s = some (a, rest))
    (f : α → Scan β) : (p >>= f) s = f a rest := by
  show (p s).bind _ = _
  rw [scanned]
  rfl

theorem bind_of_none {p : Scan α} {s : List Char} (refused : p s = none) (f : α → Scan β) :
    (p >>= f) s = none := by
  show (p s).bind _ = _
  rw [refused]
  rfl

theorem char_self (c : Char) (rest : List Char) : char c (c :: rest) = some ((), rest) := by
  simp [char]

theorem char_of_ne {c d : Char} (apart : c ≠ d) (rest : List Char) : char c (d :: rest) = none := by
  simp [char, apart]

theorem optional_of_some {p : Scan α} {s rest : List Char} {a : α}
    (scanned : p s = some (a, rest)) : optional p s = some (some a, rest) := by
  show ((some <$> p) s).orElse _ = _
  rw [map_eq_pure_bind, bind_of_some scanned]
  rfl

theorem optional_of_none {p : Scan α} {s : List Char} (refused : p s = none) :
    optional p s = some (none, s) := by
  show ((some <$> p) s).orElse _ = _
  rw [map_eq_pure_bind, bind_of_none refused]
  rfl

theorem repeated_of_some {p : Scan α} {s rest : List Char} {a : α}
    (scanned : p s = some (a, rest)) (short : rest.length < s.length) :
    repeated p s = (a :: (repeated p rest).1, (repeated p rest).2) := by
  rw [repeated, scanned]
  exact dif_pos short

theorem repeated_of_none {p : Scan α} {s : List Char} (refused : p s = none) :
    repeated p s = ([], s) := by
  rw [repeated, refused]

end Text.Scan

namespace Json
open Text (Scan)
open Text.Scan

/-! ## Strings -/

theorem fourHex_control : ∀ n < 0x20,
    fourHex '0' '0' (hexDigit (n / 16)) (hexDigit (n % 16)) = some n := by
  decide +kernel

variable {rest others last : List Char}

/-- An escape of four digits is read by itself, whatever follows it. -/
theorem stringRest_unit {a b c d one : Char} {n : Nat} (digits : fourHex a b c d = some n)
    (single : unitChar? n = some one) (later : stringRest rest = some (others, last)) :
    stringRest ('\\' :: 'u' :: a :: b :: c :: d :: rest) = some (one :: others, last) := by
  -- The reader looks for the second half of a pair first, and finds none to belong to this unit.
  by_cases pair : ∃ e f g h behind, rest = '\\' :: 'u' :: e :: f :: g :: h :: behind
  · obtain ⟨e, f, g, h, behind, rfl⟩ := pair
    simp [stringRest.eq_3, digits, single, later]
  · have alone (e f g h : Char) (behind : List Char)
        (same : rest = '\\' :: 'u' :: e :: f :: g :: h :: behind) : False :=
      pair ⟨e, f, g, h, behind, same⟩
    rw [stringRest.eq_4 _ _ _ _ _ alone]
    simp [digits, single, later]

theorem stringRest_simple {c one : Char} (escape : simpleEscape? c = some one)
    (later : stringRest rest = some (others, last)) :
    stringRest ('\\' :: c :: rest) = some (one :: others, last) := by
  have other : c ≠ 'u' := by
    rintro rfl
    cases escape
  rw [stringRest.eq_5 _ _ (fun _ _ _ _ _ _ _ _ _ same => absurd same other)
    (fun _ _ _ _ _ same => absurd same other)]
  simp [escape, later]

theorem stringRest_plain {c : Char} (quote : c ≠ '"') (backslash : c ≠ '\\')
    (visible : ¬ c.toNat < 0x20) (later : stringRest rest = some (others, last)) :
    stringRest (c :: rest) = some (c :: others, last) := by
  rw [stringRest.eq_6 _ _ quote (fun _ _ _ _ _ _ _ _ _ same => absurd same backslash)
    (fun _ _ _ _ _ same => absurd same backslash) (fun _ _ same => absurd same backslash)]
  simp [visible, later]

theorem stringRest_escapedChar (c : Char) (later : stringRest rest = some (others, last)) :
    stringRest (escapedChar c ++ rest) = some (c :: others, last) := by
  unfold escapedChar
  split
  case h_8 quote backslash _ _ _ _ _ =>
    split
    · rename_i control
      have same : unitChar? c.toNat = some c := by
        have low : ¬ 0xD800 ≤ c.toNat := by omega
        simp [unitChar?, low]
      exact stringRest_unit (fourHex_control c.toNat control) same later
    · rename_i visible
      exact stringRest_plain quote backslash visible later
  all_goals exact stringRest_simple rfl later

theorem stringRest_written (s : List Char) (rest : List Char) :
    stringRest (s.flatMap escapedChar ++ '"' :: rest) = some (s, rest) := by
  induction s with
  | nil => rw [List.flatMap_nil, List.nil_append, stringRest]
  | cons c s ih =>
    rw [List.flatMap_cons, List.append_assoc]
    exact stringRest_escapedChar c ih

theorem string_written (s : String) (rest : List Char) :
    string (stringText s ++ rest) = some (s, rest) := by
  have shape : stringText s ++ rest = '"' :: (s.toList.flatMap escapedChar ++ '"' :: rest) := by
    simp [stringText]
  rw [string, shape, bind_of_some (char_self ..), bind_of_some (stringRest_written ..),
    String.ofList_toList]
  rfl

/-! ## Blanks -/

theorem isSpace_newline (layout : Layout) : ∀ c ∈ layout.newline, isSpace c = true := by
  intro c member
  cases layout with
  | none => cases member
  | some n =>
    rcases List.mem_cons.mp member with rfl | blank
    · rfl
    · rw [(List.mem_replicate.mp blank).2]
      rfl

theorem isSpace_colon (layout : Layout) :
    ∃ blanks, layout.colon = ':' :: blanks ∧ ∀ c ∈ blanks, isSpace c = true := by
  cases layout with
  | none => exact ⟨[], rfl, fun c member => by cases member⟩
  | some n => exact ⟨[' '], rfl, fun c member => by rw [List.mem_singleton.mp member]; rfl⟩

/-- A text that begins with something to read. -/
def BeginsVisibly (s : List Char) : Prop := ∃ c rest, s = c :: rest ∧ isSpace c = false

theorem BeginsVisibly.append {s : List Char} (visible : BeginsVisibly s) (rest : List Char) :
    BeginsVisibly (s ++ rest) := by
  obtain ⟨c, behind, rfl, shown⟩ := visible
  exact ⟨c, behind ++ rest, rfl, shown⟩

theorem spaces_visible {blanks s : List Char} (blank : ∀ c ∈ blanks, isSpace c = true)
    (visible : BeginsVisibly s) : spaces (blanks ++ s) = some ((), s) := by
  obtain ⟨c, rest, rfl, shown⟩ := visible
  show some ((), (blanks ++ c :: rest).dropWhile isSpace) = _
  rw [List.dropWhile_append_of_pos blank, List.dropWhile_cons_of_neg (by simp [shown])]

/-! ## Items and entries -/

/-- What is written behind the first item of a list or a table. -/
def following {α : Type} (layout : Layout) (closing : Char) (written : α → List Char) :
    List α → List Char
  | [] => layout.newline ++ [closing]
  | a :: others =>
    ',' :: layout.deeper.newline ++ written a ++ following layout closing written others

/-- The scanner reads the item from what is written for it, whatever follows. -/
structure Restores {α : Type} (item : Scan α) (written : α → List Char) (a : α) : Prop where
  visible : BeginsVisibly (written a)
  reads : ∀ rest, item (written a ++ rest) = some (a, rest)

section

variable {α : Type} {written : α → List Char} {item : Scan α}

/-- An item is read up to what stands behind the blanks that follow it. -/
theorem spaced_following {blanks tail : List Char} (blank : ∀ c ∈ blanks, isSpace c = true) {a : α}
    (restores : Restores item written a) :
    spaced item (blanks ++ written a ++ tail) = some (a, tail.dropWhile isSpace) := by
  rw [spaced, List.append_assoc, bind_of_some (spaces_visible blank (restores.visible.append tail)),
    bind_of_some (restores.reads tail)]
  rfl

theorem repeated_following (layout : Layout) {closing : Char} (ends : isSpace closing = false)
    (apart : ',' ≠ closing) {others : List α} (restores : ∀ a ∈ others, Restores item written a)
    (rest : List Char) :
    repeated (do char ','; spaced item)
        ((following layout closing written others ++ rest).dropWhile isSpace) =
      (others, closing :: rest) := by
  induction others with
  | nil =>
    have bare : (following layout closing written [] ++ rest).dropWhile isSpace =
        closing :: rest := by
      rw [following, List.append_assoc, List.dropWhile_append_of_pos (isSpace_newline layout)]
      exact List.dropWhile_cons_of_neg (by simp [ends])
    rw [bare]
    exact repeated_of_none (bind_of_none (char_of_ne apart rest) _)
  | cons a others ih =>
    obtain ⟨first, later⟩ := List.forall_mem_cons.mp restores
    let tail := following layout closing written others ++ rest
    let opened := ',' :: (layout.deeper.newline ++ written a ++ tail)
    have dropped : (following layout closing written (a :: others) ++ rest).dropWhile isSpace =
        opened := by
      rw [following]
      simp [opened, tail, isSpace]
    have scanned : (do char ','; spaced item) opened = some (a, tail.dropWhile isSpace) := by
      rw [bind_of_some (char_self ..)]
      exact spaced_following (isSpace_newline _) first
    have short : (tail.dropWhile isSpace).length < opened.length := by
      have fewer := (List.dropWhile_sublist (l := tail) isSpace).length_le
      simp only [opened, List.length_cons, List.length_append]
      omega
    rw [dropped, repeated_of_some scanned short, ih later]

theorem separated_following (layout : Layout) (closing : Char) (ends : isSpace closing = false)
    (apart : ',' ≠ closing) {a : α} {others : List α}
    (restores : ∀ b ∈ a :: others, Restores item written b) (rest : List Char) :
    separated (spaced item) (char ',')
        (written a ++ following layout closing written others ++ rest) =
      some (a :: others, closing :: rest) := by
  obtain ⟨first, later⟩ := List.forall_mem_cons.mp restores
  have scanned : spaced item (written a ++ (following layout closing written others ++ rest)) =
      some (a, (following layout closing written others ++ rest).dropWhile isSpace) :=
    spaced_following (List.forall_mem_nil _) first
  have found := repeated_following layout ends apart later rest
  rw [separated, List.append_assoc, bind_of_some scanned]
  exact bind_of_some (congrArg some found) _

end

theorem itemsText_eq (layout : Layout) (items : List Data) :
    itemsText layout items = following layout ']' (text layout.deeper) items := by
  induction items with
  | nil => rw [itemsText, following]
  | cons item items ih => rw [itemsText, following, ih]

/-- A key with its value. -/
def entryText (layout : Layout) (entry : String × Data) : List Char :=
  stringText entry.1 ++ layout.colon ++ text layout entry.2

theorem colon_deeper (layout : Layout) : layout.deeper.colon = layout.colon := by
  cases layout <;> rfl

theorem entriesText_eq (layout : Layout) (entries : List (String × Data)) :
    entriesText layout entries = following layout '\x7d' (entryText layout.deeper) entries := by
  induction entries with
  | nil => rw [entriesText, following]
  | cons entry entries ih =>
    obtain ⟨key, value⟩ := entry
    rw [entriesText, following, ih, entryText, colon_deeper]
    simp

theorem text_string (layout : Layout) (s : String) : text layout (.string s) = stringText s := by
  rw [text]
  · rfl
  all_goals simp

theorem text_list (layout : Layout) (item : Data) (items : List Data) :
    text layout (.list (item :: items)) = '[' :: (layout.deeper.newline ++
      (text layout.deeper item ++ following layout ']' (text layout.deeper) items)) := by
  rw [text, itemsText_eq]
  simp

theorem text_table (layout : Layout) (entry : String × Data) (entries : List (String × Data)) :
    text layout (.table (entry :: entries)) = '\x7b' :: (layout.deeper.newline ++
      (entryText layout.deeper entry ++
        following layout '\x7d' (entryText layout.deeper) entries)) := by
  obtain ⟨key, value⟩ := entry
  rw [text, entriesText_eq, entryText, colon_deeper]
  simp

/-! ## Readers -/

/-- What a reader makes of the entries of an object, in the order of the text. Where no key is
repeated, it is the table of all of them. -/
structure Repeats where
  table? : List (String × Data) → Option Data
  table?_of_nodup : ∀ entries, (entries.map (·.1)).Nodup →
    table? entries = some (.table entries)

theorem foldl_insertEntry {before entries : List (String × Data)}
    (distinct : ((before ++ entries).map (·.1)).Nodup) :
    entries.foldl (fun es (k, v) => insertEntry es k v) before = before ++ entries := by
  induction entries generalizing before with
  | nil => simp
  | cons entry entries ih =>
    obtain ⟨key, d⟩ := entry
    have fresh : before.any (·.1 == key) = false := by
      rw [List.any_eq_false]
      rintro other member same
      rw [List.map_append, List.nodup_append] at distinct
      exact distinct.2.2 other.1 (List.mem_map_of_mem member) key (by simp) (eq_of_beq same)
    have added : insertEntry before key d = before ++ [(key, d)] := by
      simp only [insertEntry, fresh, Bool.false_eq_true, if_false]
    rw [List.foldl_cons]
    dsimp only
    rw [added, ih (by simpa using distinct), List.append_assoc, List.singleton_append]

/-- Of two entries with one key, the later value stands at the earlier place. -/
def Repeats.latest : Repeats where
  table? entries := some (.table (entries.foldl (fun es (k, v) => insertEntry es k v) []))
  table?_of_nodup entries distinct := by
    rw [foldl_insertEntry (List.nil_append entries ▸ distinct), List.nil_append]

def tableWith (repeats : Repeats) (item : Scan Data) : Scan Data := do
  char '\x7b'
  spaces
  let entries ← optional (separated (spaced (entry item)) (char ','))
  char '\x7d'
  ofOption (repeats.table? (entries.getD []))

def valueWith (repeats : Repeats) : Nat → Scan Data
  | 0 => scalar
  | depth + 1 => do
    match ← next? with
    | some '[' => list (valueWith repeats depth)
    | some '\x7b' => tableWith repeats (valueWith repeats depth)
    | _ => scalar

/-- Reads a text as one value with blanks around it. -/
def readWith (repeats : Repeats) (s : String) : Option Data :=
  whole (do
    spaces
    let d ← valueWith repeats maxDepth
    spaces
    return d) s.toList

theorem valueWith_latest (depth : Nat) : valueWith .latest depth = value depth := by
  induction depth with
  | zero => rfl
  | succ depth ih =>
    rw [valueWith, value, ih]
    rfl

theorem readWith_latest (s : String) : readWith .latest s = read s := by
  rw [readWith, read, valueWith_latest]
  rfl

/-! ## Values -/

section

variable (repeats : Repeats) {n : Nat} (layout : Layout) (rest : List Char)

theorem scalar_string (s : String) : scalar (stringText s ++ rest) = some (.string s, rest) := by
  have next : next? (stringText s ++ rest) = some (some '"', stringText s ++ rest) := rfl
  rw [scalar, bind_of_some next]
  exact bind_of_some (string_written s rest) _

theorem valueWith_string (s : String) :
    valueWith repeats n (stringText s ++ rest) = some (.string s, rest) := by
  have next : next? (stringText s ++ rest) = some (some '"', stringText s ++ rest) := rfl
  cases n with
  | zero => exact scalar_string rest s
  | succ n =>
    rw [valueWith, bind_of_some next]
    exact scalar_string rest s

/-- No value begins with the end of a list. -/
theorem valueWith_close : valueWith repeats n (']' :: rest) = none := by
  cases n <;> rfl

theorem list_nil {item : Scan Data} (refused : item (']' :: rest) = none) :
    list item ('[' :: ']' :: rest) = some (.list [], rest) := by
  have blanks : spaces (']' :: rest) = some ((), ']' :: rest) := rfl
  have none : separated (spaced item) (char ',') (']' :: rest) = none := by
    rw [separated, spaced, bind_of_none]
    rw [bind_of_some blanks, bind_of_none refused]
  rw [list, bind_of_some (char_self ..), bind_of_some blanks, bind_of_some (optional_of_none none),
    bind_of_some (char_self ..)]
  rfl

theorem list_cons {item : Scan Data} {d : Data} {items : List Data}
    (restores : ∀ x ∈ d :: items, Restores item (text layout.deeper) x) :
    list item (text layout (.list (d :: items)) ++ rest) = some (.list (d :: items), rest) := by
  have visible := (restores d (by simp)).visible.append
    (following layout ']' (text layout.deeper) items)
  have blanks := spaces_visible (isSpace_newline layout.deeper) (visible.append rest)
  have found := separated_following layout ']' rfl (by decide) restores rest
  rw [text_list, list, List.cons_append, bind_of_some (char_self ..), List.append_assoc,
    bind_of_some blanks, bind_of_some (optional_of_some found), bind_of_some (char_self ..)]
  rfl

theorem entry_restores {item : Scan Data} {e : String × Data}
    (restores : Restores item (text layout) e.2) : Restores (entry item) (entryText layout) e where
  visible := by
    rw [entryText, List.append_assoc]
    exact BeginsVisibly.append ⟨'"', _, rfl, rfl⟩ _
  reads rest := by
    obtain ⟨blanks, colon, blank⟩ := isSpace_colon layout
    let behind := ':' :: (blanks ++ (text layout e.2 ++ rest))
    have before : spaces behind = some ((), behind) := rfl
    rw [entry, entryText, colon, List.append_assoc, List.append_assoc,
      bind_of_some (string_written ..), List.cons_append, bind_of_some before,
      bind_of_some (char_self ..),
      bind_of_some (spaces_visible blank (restores.visible.append rest)),
      bind_of_some (restores.reads rest)]
    rfl

theorem tableWith_nil (item : Scan Data) :
    tableWith repeats item ('\x7b' :: '\x7d' :: rest) = some (.table [], rest) := by
  have blanks : spaces ('\x7d' :: rest) = some ((), '\x7d' :: rest) := rfl
  have none : separated (spaced (entry item)) (char ',') ('\x7d' :: rest) = none := rfl
  rw [tableWith, bind_of_some (char_self ..), bind_of_some blanks,
    bind_of_some (optional_of_none none), bind_of_some (char_self ..), Option.getD_none,
    repeats.table?_of_nodup [] List.nodup_nil]
  rfl

theorem tableWith_cons {item : Scan Data} {e : String × Data} {entries : List (String × Data)}
    (distinct : ((e :: entries).map (·.1)).Nodup)
    (restores : ∀ x ∈ e :: entries, Restores item (text layout.deeper) x.2) :
    tableWith repeats item (text layout (.table (e :: entries)) ++ rest) =
      some (.table (e :: entries), rest) := by
  have each (x : String × Data) (member : x ∈ e :: entries) :
      Restores (entry item) (entryText layout.deeper) x :=
    entry_restores layout.deeper (restores x member)
  have visible := (each e (by simp)).visible.append
    (following layout '\x7d' (entryText layout.deeper) entries)
  have blanks := spaces_visible (isSpace_newline layout.deeper) (visible.append rest)
  have found := separated_following layout '\x7d' rfl (by decide) each rest
  rw [text_table, tableWith, List.cons_append, bind_of_some (char_self ..), List.append_assoc,
    bind_of_some blanks, bind_of_some (optional_of_some found), bind_of_some (char_self ..),
    Option.getD_some, repeats.table?_of_nodup _ distinct]
  rfl

end

/-- A textual value is read back from its text by every reader that goes deep enough. -/
theorem valueWith_restores (repeats : Repeats) {n : Nat} {d : Data} (textual : d.IsTextual n)
    (layout : Layout) : Restores (valueWith repeats n) (text layout) d := by
  induction textual generalizing layout with
  | string s =>
    refine ⟨⟨'"', _, text_string layout s, rfl⟩, fun rest => ?_⟩
    rw [text_string]
    exact valueWith_string repeats rest s
  | @list n items each ih =>
    cases items with
    | nil =>
      have shape : text layout (.list []) = ['[', ']'] := by rw [text]
      refine ⟨⟨'[', _, shape, rfl⟩, fun rest => ?_⟩
      rw [shape]
      exact list_nil rest (valueWith_close repeats rest)
    | cons item items =>
      refine ⟨⟨'[', _, text_list layout item items, rfl⟩, fun rest => ?_⟩
      have opened : valueWith repeats (n + 1) (text layout (.list (item :: items)) ++ rest) =
          list (valueWith repeats n) (text layout (.list (item :: items)) ++ rest) := by
        rw [text_list]
        rfl
      rw [opened]
      exact list_cons layout rest fun x member => ih x member layout.deeper
  | @table n entries distinct each ih =>
    cases entries with
    | nil =>
      have shape : text layout (.table []) = ['\x7b', '\x7d'] := by rw [text]
      refine ⟨⟨'\x7b', _, shape, rfl⟩, fun rest => ?_⟩
      rw [shape]
      exact tableWith_nil repeats rest (valueWith repeats n)
    | cons e entries =>
      refine ⟨⟨'\x7b', _, text_table layout e entries, rfl⟩, fun rest => ?_⟩
      have opened : valueWith repeats (n + 1) (text layout (.table (e :: entries)) ++ rest) =
          tableWith repeats (valueWith repeats n)
            (text layout (.table (e :: entries)) ++ rest) := by
        rw [text_table]
        rfl
      rw [opened]
      exact tableWith_cons repeats layout rest distinct fun x member => ih x member layout.deeper

theorem readWith_text (repeats : Repeats) {d : Data} (textual : d.IsTextual maxDepth)
    (layout : Layout) : readWith repeats (String.ofList (text layout d)) = some d := by
  have restores := valueWith_restores repeats textual layout
  have blanks := spaces_visible (List.forall_mem_nil _) restores.visible
  have found := restores.reads []
  rw [List.nil_append] at blanks
  rw [List.append_nil] at found
  rw [readWith, whole, String.toList_ofList, bind_of_some blanks, bind_of_some found]
  rfl

end Json
end ExtensionBuild
