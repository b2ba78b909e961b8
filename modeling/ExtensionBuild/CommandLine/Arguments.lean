import ExtensionBuild.CommandLine.Usage
import ExtensionBuild.Path

/-! Parsing the arguments. They are read from left to right; switches that every command has may
stand before or behind the command, and behind the command they count last. A switch that takes a
value takes the next argument, unless that one looks like a switch. What is wrong first is reported,
but values and repetitions are looked at only when the next switch or the end is reached. -/
namespace ExtensionBuild.CommandLine

inductive Halt
  | usage (e : UsageError)
  | help (t : Topic)
  | nothing
  | version
deriving DecidableEq, Repr

/-- A part of the command line with switches of its own: what stands in front of the command, or
what stands behind it. -/
structure Level where
  switches : List Switch
  topic : Topic
  /-- How many arguments that are no switches it takes. -/
  room : Nat
  commands : Bool

namespace Level

def front : Level := ⟨commonSwitches, .program, 0, true⟩

def behind (c : Command) : Level :=
  ⟨c.switches, .command c, if c == .completions then 1 else 0, false⟩

def ofLong? (l : Level) (name : String) : Option Switch := l.switches.find? (·.long == name)

def ofLetter? (l : Level) (c : Char) : Option Switch := l.switches.find? (·.letter == some c)

end Level

/-- What was read but not yet looked at: a switch that may still get a value, or an argument for the
shell. -/
inductive Pending
  | switch (s : Switch) (value : Option String)
  | shell (name : String)
deriving DecidableEq, Repr

structure Progress where
  given : List (Switch × String)
  shell : Option Shell
  taken : Nat
  pending : Option Pending
  /-- Whether everything from here on is no switch. -/
  plain : Bool
deriving Repr

namespace Progress

def start : Progress := ⟨[], none, 0, none, false⟩

def has (p : Progress) (s : Switch) : Bool := p.given.any (·.1 == s)

def value? (p : Progress) (s : Switch) : Option String := p.given.lookup s

/-- Whether the last switch still waits for its value. -/
def awaitsValue (p : Progress) : Bool :=
  match p.pending with
  | some (.switch _ none) => true
  | _ => false

def record (p : Progress) (s : Switch) (value : String) : Except Halt Progress :=
  if p.has s then .error (.usage (.repeated s.shown))
  else if s.takesValue && value.isEmpty then .error (.usage (.missingValue s.shown))
  else .ok { p with given := p.given ++ [(s, value)] }

def settle (p : Progress) : Except Halt Progress :=
  let rest := { p with pending := none }
  match p.pending with
  | none => .ok rest
  | some (.switch s none) => .error (.usage (.missingValue s.shown))
  | some (.switch s (some value)) => rest.record s value
  | some (.shell name) =>
    match Shell.ofName? name with
    | some shell => .ok { rest with shell := some shell }
    | none =>
      if name.isEmpty then .error (.usage (.missingValue Shell.shown))
      else .error (.usage (.invalidValue name Shell.shown))

def flag (p : Progress) (level : Level) (s : Switch) : Except Halt Progress := do
  let p ← p.settle
  match s with
  | .help => .error (.help level.topic)
  | .version => .error .version
  | s => p.record s ""

/-- Takes a switch with the value attached to it, or one that waits for its value. -/
def option (p : Progress) (s : Switch) (attached : Option String) : Except Halt Progress := do
  let p ← p.settle
  match attached with
  | some value => p.record s value
  | none => .ok { p with pending := some (.switch s none) }

def longSwitch (p : Progress) (level : Level) (name : String) (attached : Option String) :
    Except Halt Progress :=
  match level.ofLong? name with
  | none => .error (.usage (.unexpectedArgument ("--" ++ name)))
  | some s =>
    if s.takesValue then p.option s attached
    else match attached with
      | some value => .error (.usage (.unexpectedValue value s.shown))
      | none => p.flag level s

/-- Takes the letters behind a single dash. A letter that takes a value takes the rest of them, with
or without an equals sign in front. -/
def letters (p : Progress) (level : Level) : List Char → Except Halt Progress
  | [] => .ok p
  | c :: rest =>
    match level.ofLetter? c with
    | none => .error (.usage (.unexpectedArgument (String.ofList ['-', c])))
    | some s =>
      if s.takesValue then
        p.option s (match rest with
          | [] => none
          | '=' :: value => some (String.ofList value)
          | value => some (String.ofList value))
      else do
        letters (← p.flag level s) level rest

/-- The text of a long switch with what follows its first equals sign. -/
def splitLong (s : List Char) : String × Option String :=
  (String.ofList (s.takeWhile (· != '=')),
    match s.dropWhile (· != '=') with
    | _ :: value => some (String.ofList value)
    | [] => none)

def argument (p : Progress) (level : Level) (arg : String) : Except Halt Progress :=
  if p.taken < level.room then do
    let p ← p.settle
    .ok { p with taken := p.taken + 1, pending := some (.shell arg) }
  else if level.commands && ! (p.plain && (arg == "help" || (Command.ofName? arg).isSome)) then
    .error (.usage (.unrecognizedCommand arg))
  else .error (.usage (.unexpectedArgument arg))

def step (p : Progress) (level : Level) (arg : String) : Except Halt Progress :=
  if p.plain then p.argument level arg
  else match arg.toList with
    | ['-', '-'] => .ok { p with plain := true }
    | '-' :: '-' :: name =>
      let (name, attached) := splitLong name
      p.longSwitch level name attached
    | '-' :: c :: rest => p.letters level (c :: rest)
    | _ =>
      match p.pending with
      | some (.switch s none) => .ok { p with pending := some (.switch s (some arg)) }
      | _ => p.argument level arg

def takeAll (level : Level) : Progress → List String →
    Except Halt (Progress × Option (String × List String))
  | p, [] => .ok (p, none)
  | p, arg :: rest =>
    if level.commands && ! p.plain && ! p.awaitsValue &&
        (arg == "help" || (Command.ofName? arg).isSome) then
      .ok (p, some (arg, rest))
    else do
      takeAll level (← p.step level arg) rest

/-- The first two switches that were given and exclude one another. -/
def conflict? (p : Progress) : Option (Switch × Switch) :=
  p.given.findSome? fun (s, _) =>
    s.excludes.bind fun other => if p.has other then some (s, other) else none

/-- What a level amounts to once all its arguments are taken. -/
def finish (p : Progress) (level : Level) : Except Halt Progress := do
  let p ← p.settle
  match p.conflict? with
  | some (s, other) => .error (.usage (.conflicting s.shown other.shown))
  | none =>
    if p.taken < level.room then .error (.usage .missingArguments) else .ok p

end Progress

def helpTopic : List String → Except Halt Topic
  | [] => .ok .program
  | name :: rest =>
    match Command.ofName? name, rest with
    | some c, [] => .ok (.command c)
    | some _, other :: _ => .error (.usage (.unrecognizedCommand other))
    | none, _ =>
      if name == "help" then
        match rest with
        | [] => .ok .help
        | other :: _ => .error (.usage (.unrecognizedCommand other))
      else .error (.usage (.unrecognizedCommand name))

inductive Request
  | build (out : Option Path) (translate : Bool)
  | flags (compile link : Bool)
  | doctor
  | completions (shell : Shell)
deriving DecidableEq, Repr

structure Invocation where
  verbose : Bool
  colour : Bool
  manifestPath : Option Path
  request : Request
deriving DecidableEq, Repr

def invocation (c : Command) (front behind : Progress) : Except Halt Invocation := do
  let request ← match c, behind.shell with
    | .build, _ =>
      .ok (.build ((behind.value? .out).map Path.ofText) (! behind.has .noTranslate))
    | .flags, _ => .ok (.flags (behind.has .compile) (behind.has .link))
    | .doctor, _ => .ok .doctor
    | .completions, some shell => .ok (.completions shell)
    | .completions, none => .error (.usage .missingArguments)
  return {
    verbose := front.has .verbose || behind.has .verbose
    colour := ! (front.has .noColour || behind.has .noColour)
    manifestPath :=
      (behind.value? .manifestPath <|> front.value? .manifestPath).map Path.ofText
    request }

def parse (args : List String) : Except Halt Invocation := do
  let (front, command) ← Progress.takeAll .front .start args
  match command with
  | none =>
    let front ← front.finish .front
    if front.given.isEmpty then .error .nothing else .error (.usage .missingCommand)
  | some (name, rest) =>
    match Command.ofName? name with
    | none => .error (.help (← helpTopic rest))
    | some c =>
      let (behind, _) ← Progress.takeAll (.behind c) .start rest
      let behind ← behind.finish (.behind c)
      let front ← front.finish .front
      invocation c front behind

end ExtensionBuild.CommandLine
