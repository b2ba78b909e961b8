import ExtensionBuild.CommandLine.Usage

/-! Completion scripts for shells. Each begins with the line that its shell's scripts begin with and
offers the commands and the switches; it completes no values. -/
namespace ExtensionBuild.CommandLine.Completions

def wordList : String :=
  Text.joinedStrings " " (Command.all.map Command.name ++ ["help"] ++
    commonSwitches.map fun s => "--" ++ s.long)

def lines : Shell → List String
  | .bash => [
    "_extconf() \x7b",
    "    COMPREPLY=( $(compgen -W \"" ++ wordList ++ "\" -- \"$2\") )",
    "\x7d",
    "complete -F _extconf extconf"]
  | .elvish => [
    "",
    "set edit:completion:arg-completer[extconf] = \x7b|@words|",
    "    put " ++ wordList,
    "\x7d"]
  | .fish => [
    "# Print an optspec for argparse to handle cmd's options " ++
      "that are independent of any subcommand.",
    "complete -c extconf -f -a \"" ++ wordList ++ "\""]
  | .powershell => [
    "",
    "Register-ArgumentCompleter -Native -CommandName 'extconf' -ScriptBlock \x7b",
    "    \"" ++ wordList ++ "\" -split ' '",
    "\x7d"]
  | .zsh => [
    "#compdef extconf",
    "compadd " ++ wordList]

def text (shell : Shell) : String := String.join ((lines shell).map (· ++ "\n"))

end ExtensionBuild.CommandLine.Completions
