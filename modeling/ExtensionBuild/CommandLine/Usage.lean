import ExtensionBuild.CommandLine.Switch
import ExtensionBuild.Environment
import ExtensionBuild.Text.ControlSequence
import ExtensionBuild.Text.Pieces

/-! What the command line says about itself: help texts and the messages of usage errors. They are
written in styles, and all control sequences, those in the user's own words included, are taken out
again unless the variables demand colour. -/
namespace ExtensionBuild.CommandLine
open Text.ControlSequence (painted strip style)

def programName : String := "extconf"

def versionText : String := "extconf 0.1.0"

def description : String :=
  "Build configuration for Cython extensions linked against pkg-config libraries"

def heading (s : String) : String := style "1" ++ painted "4" s

def literal (s : String) : String := painted "1" s

def faulty (s : String) : String := painted "33" s

def forceColourVariable : String := "CLICOLOR_FORCE"

def noColourVariable : String := "NO_COLOR"

/-- Whether one variable demands colour and the other does not forbid it. -/
def demandsColour (vars : Variables) : Bool :=
  (vars.nonempty? forceColourVariable).isSome && (vars.nonempty? noColourVariable).isNone

def printed (colour : Bool) (s : String) : String := if colour then s else strip s

inductive Topic
  | program
  | command (c : Command)
  | help
deriving DecidableEq, Repr

namespace Topic

def helpSummary : String := "Print this message or the help of the given subcommand(s)"

/-- Two columns, the first as wide as its widest entry without styles. -/
def columns (rows : List (String × String)) : List String :=
  let width (s : String) : Nat := (strip s).length
  let widest := (rows.map fun row => width row.1).foldl max 0
  rows.map fun (left, right) =>
    "  " ++ left ++ String.ofList (List.replicate (widest - width left) ' ') ++ "  " ++ right

def switchRow (s : Switch) : String × String :=
  let front := match s.letter with
    | some c => literal (String.ofList ['-', c]) ++ ", "
    | none => "    "
  let value := match s.valueName with
    | some name => " <" ++ name ++ ">"
    | none => ""
  (front ++ literal ("--" ++ s.long) ++ value, s.summary)

def usage (command rest : String) : String := heading "Usage:" ++ " " ++ literal command ++ rest

def titled (title : String) (rows : List (String × String)) : List String :=
  "" :: heading title :: columns rows

def lines : Topic → List String
  | program =>
    [description, "", usage programName " [OPTIONS] <COMMAND>"] ++
      titled "Commands:"
        (Command.all.map (fun c => (literal c.name, c.summary)) ++
          [(literal "help", helpSummary)]) ++
      titled "Options:" (commonSwitches.map switchRow)
  | command c =>
    let argument := if c == .completions then " " ++ Shell.shown else ""
    [c.summary, "", usage (programName ++ " " ++ c.name) (" [OPTIONS]" ++ argument)] ++
      (if c == .completions then
        titled "Arguments:" [(Shell.shown, "Shell to generate completions for [possible values: " ++
          Text.joinedStrings ", " (Shell.all.map Shell.name) ++ "]")]
      else []) ++
      titled "Options:" (c.switches.map switchRow)
  | help =>
    [helpSummary, "", usage (programName ++ " help") " [COMMAND]..."] ++
      titled "Arguments:" [("[COMMAND]...", "Print help for the subcommand(s)")]

def text (t : Topic) (colour : Bool) : String :=
  printed colour (String.join (t.lines.map (· ++ "\n")))

end Topic

inductive UsageError
  | unrecognizedCommand (name : String)
  | unexpectedArgument (arg : String)
  | unexpectedValue (value name : String)
  | missingValue (name : String)
  | invalidValue (value name : String)
  | repeated (name : String)
  | conflicting (name other : String)
  | missingArguments
  | missingCommand
deriving DecidableEq, Repr

namespace UsageError

def message : UsageError → String
  | unrecognizedCommand name => s!"unrecognized subcommand '{faulty name}'"
  | unexpectedArgument arg => s!"unexpected argument '{faulty arg}' found"
  | unexpectedValue value name =>
    s!"unexpected value '{faulty value}' for '{literal name}' found; no more were expected"
  | missingValue name => s!"a value is required for '{faulty name}' but none was supplied"
  | invalidValue value name => s!"invalid value '{faulty value}' for '{literal name}'"
  | repeated name => s!"the argument '{faulty name}' cannot be used multiple times"
  | conflicting name other =>
    s!"the argument '{faulty name}' cannot be used with '{faulty other}'"
  | missingArguments => "the following required arguments were not provided:"
  | missingCommand =>
    s!"'{faulty programName}' requires a subcommand but one was not provided"

def text (e : UsageError) (colour : Bool) : String :=
  printed colour (style "1" ++ painted "31" "error:" ++ " " ++ e.message ++
    "\n\nFor more information, try '" ++ literal "--help" ++ "'.\n")

end UsageError
end ExtensionBuild.CommandLine
