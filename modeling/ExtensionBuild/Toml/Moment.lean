import ExtensionBuild.Data
import ExtensionBuild.Toml.Quoted

/-! Points in time: a date, a time of day or both, and with both perhaps an offset. A point in time
is kept as its text, in a table with one entry under a reserved key; so a table that begins with
this key stands for a point in time, and must then hold the text of one. -/
namespace ExtensionBuild.Toml
open Text (Scan)
open Text.Scan

def twoDigits (low high : Nat) : Scan (List Char) := do
  let s ← exactly Char.isDigit 2
  let n := valueIn 10 s
  if low ≤ n && n ≤ high then return s else failure

def isLeapYear (year : Nat) : Bool := year % 4 == 0 && (year % 100 != 0 || year % 400 == 0)

def daysIn (year month : Nat) : Nat :=
  if month == 2 then (if isLeapYear year then 29 else 28)
  else if [4, 6, 9, 11].contains month then 30
  else 31

def date : Scan (List Char) := do
  let year ← exactly Char.isDigit 4
  char '-'
  let month ← twoDigits 1 12
  char '-'
  let day ← twoDigits 1 31
  if valueIn 10 day ≤ daysIn (valueIn 10 year) (valueIn 10 month) then
    return year ++ '-' :: month ++ '-' :: day
  else failure

def time : Scan (List Char) := do
  let hour ← twoDigits 0 23
  char ':'
  let minute ← twoDigits 0 59
  char ':'
  let second ← twoDigits 0 60
  let fraction ← optional do
    char '.'
    run1 Char.isDigit
  return hour ++ ':' :: minute ++ ':' :: second ++ (fraction.map ('.' :: ·)).getD []

def offset : Scan (List Char) := (do
  let _ ← one (fun c => c == 'Z' || c == 'z')
  return ['Z']) <|> (do
  let mark ← one (fun c => c == '+' || c == '-')
  let hour ← twoDigits 0 23
  char ':'
  let minute ← twoDigits 0 59
  return mark :: hour ++ ':' :: minute)

/-- The text of a point in time, written in one way. -/
def momentText : Scan (List Char) := (do
  let day ← date
  let rest ← optional do
    let _ ← one (fun c => c == 'T' || c == 't' || c == ' ')
    let clock ← time
    let zone ← optional offset
    return 'T' :: clock ++ zone.getD []
  return day ++ rest.getD []) <|> time

def momentKey : String := "$__toml_private_datetime"

def momentData (text : List Char) : Data := .table [(momentKey, .string (String.ofList text))]

mutual

/-- Whether every table in a value that begins with the reserved key has the text of a point in time
there. What else is in such a table does not count. -/
def momentsAreSound : Data → Bool
  | .list items => allMomentsAreSound items
  | .table [] => true
  | .table ((key, value) :: entries) =>
    if key == momentKey then
      match value with
      | .string s => (whole momentText s.toList).isSome
      | _ => false
    else momentsAreSound value && entryMomentsAreSound entries
  | _ => true

def allMomentsAreSound : List Data → Bool
  | [] => true
  | item :: items => momentsAreSound item && allMomentsAreSound items

def entryMomentsAreSound : List (String × Data) → Bool
  | [] => true
  | (_, value) :: entries => momentsAreSound value && entryMomentsAreSound entries

end

end ExtensionBuild.Toml
