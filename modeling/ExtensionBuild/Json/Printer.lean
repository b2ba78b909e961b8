import ExtensionBuild.Data
import ExtensionBuild.Decimal
import ExtensionBuild.Text.Pieces

/-! JSON text of structured values, on one line or with two blanks of indentation for each level.
Table entries keep their order; characters outside the controls stand as they are. -/
namespace ExtensionBuild.Json

def hexDigit (n : Nat) : Char := (Nat.toDigits 16 n).headD '0'

def escapedChar (c : Char) : List Char :=
  match c with
  | '"' => ['\\', '"']
  | '\\' => ['\\', '\\']
  | '\x08' => ['\\', 'b']
  | '\t' => ['\\', 't']
  | '\n' => ['\\', 'n']
  | '\x0c' => ['\\', 'f']
  | '\r' => ['\\', 'r']
  | c =>
    if c.toNat < 0x20 then ['\\', 'u', '0', '0', hexDigit (c.toNat / 16), hexDigit (c.toNat % 16)]
    else [c]

def stringText (s : String) : List Char := '"' :: s.toList.flatMap escapedChar ++ ['"']

def scalarText : Data → List Char
  | .null => "null".toList
  | .boolean true => "true".toList
  | .boolean false => "false".toList
  | .integer i => (toString i).toList
  | .number x => (x.text .compact).toList
  | .string s => stringText s
  | .list _ => []
  | .table _ => []

/-- Where line breaks and blanks go: `none` writes everything on one line, `some n` indents by `n`
levels. -/
abbrev Layout := Option Nat

namespace Layout

def deeper : Layout → Layout := Option.map (· + 1)

/-- What stands in front of an item of this level. -/
def newline : Layout → List Char
  | none => []
  | some n => '\n' :: List.replicate (2 * n) ' '

def colon : Layout → List Char
  | none => [':']
  | some _ => [':', ' ']

end Layout

mutual

def text (layout : Layout) : Data → List Char
  | .list [] => ['[', ']']
  | .table [] => ['\x7b', '\x7d']
  | .list (item :: items) =>
    '[' :: layout.deeper.newline ++ text layout.deeper item ++ itemsText layout items
  | .table ((key, value) :: entries) =>
    '\x7b' :: layout.deeper.newline ++ stringText key ++ layout.colon ++ text layout.deeper value ++
      entriesText layout entries
  | other => scalarText other

def itemsText (layout : Layout) : List Data → List Char
  | [] => layout.newline ++ [']']
  | item :: items =>
    ',' :: layout.deeper.newline ++ text layout.deeper item ++ itemsText layout items

def entriesText (layout : Layout) : List (String × Data) → List Char
  | [] => layout.newline ++ ['\x7d']
  | (key, value) :: entries =>
    ',' :: layout.deeper.newline ++ stringText key ++ layout.colon ++ text layout.deeper value ++
      entriesText layout entries

end

def compact (d : Data) : String := String.ofList (text none d)

def pretty (d : Data) : String := String.ofList (text (some 0) d)

end ExtensionBuild.Json
