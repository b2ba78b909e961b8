import ExtensionBuild.Data
import ExtensionBuild.Decimal
import ExtensionBuild.Text.Pieces
import ExtensionBuild.Text.Quoted

/-! Reading structured values as typed ones. A record is described by its fields; its entries are
checked in document order, so the first offence in the document is the one reported, and missing
fields come last, in the order of the description. A record may also be given as a list of its
fields in that order. -/
namespace ExtensionBuild.Schema

inductive Error
  | missingField (name : String)
  | unknownField (name : String) (known : List String)
  | unknownChoice (name : String) (known : List String)
  | wrongType (found : Data) (expected : String)
  | wrongValue (found : Data) (expected : String)
  | wrongLength (found : Nat) (expected : String)
deriving Repr, Inhabited

/-- What differs between file formats: whether a list given for a record may go on behind its
fields, and how numbers are shown. -/
structure Dialect where
  surplus : Bool
  numbers : Decimal.Style

/-- JSON refuses items behind the last field; TOML passes over them. -/
def Dialect.json : Dialect := ⟨false, .compact⟩

def Dialect.toml : Dialect := ⟨true, .positional⟩

def describe (dialect : Dialect) : Data → String
  | .null => "null"
  | .boolean b => s!"boolean `{b}`"
  | .integer i => s!"integer `{i}`"
  | .number x => s!"floating point `{x.text dialect.numbers}`"
  | .string s => "string " ++ Text.quoted s
  | .list _ => "sequence"
  | .table _ => "map"

def alternatives (known : List String) : String :=
  let marked := known.map fun name => "`" ++ name ++ "`"
  match marked with
  | [] => "nothing"
  | [one] => one
  | [one, other] => one ++ " or " ++ other
  | many => "one of " ++ Text.joinedStrings ", " many

def Error.message (dialect : Dialect) : Error → String
  | missingField name => s!"missing field `{name}`"
  | unknownField name known => s!"unknown field `{name}`, expected {alternatives known}"
  | unknownChoice name known => s!"unknown variant `{name}`, expected {alternatives known}"
  | wrongType found expected => s!"invalid type: {describe dialect found}, expected {expected}"
  | wrongValue found expected => s!"invalid value: {describe dialect found}, expected {expected}"
  | wrongLength found expected => s!"invalid length {found}, expected {expected}"

abbrev Decoder (α : Type) := Data → Except Error α

def string : Decoder String
  | .string s => .ok s
  | other => .error (.wrongType other "a string")

def pathText : Decoder String
  | .string s => .ok s
  | other => .error (.wrongType other "path string")

def boolean : Decoder Bool
  | .boolean b => .ok b
  | other => .error (.wrongType other "a boolean")

def byte : Decoder UInt8
  | .integer i =>
    if 0 ≤ i ∧ i < 256 then .ok (UInt8.ofNat i.toNat) else .error (.wrongValue (.integer i) "u8")
  | other => .error (.wrongType other "u8")

def listOf (item : Decoder α) : Decoder (List α)
  | .list items => items.mapM item
  | other => .error (.wrongType other "a sequence")

def nullable (item : Decoder α) : Decoder (Option α)
  | .null => .ok none
  | other => (item other).map some

/-- One field of a record: what it accepts, and whether a list that ends before it is too short. -/
structure Field where
  key : String
  check : Data → Except Error Unit
  needed : Bool

def field (key : String) (decoder : Decoder α) (needed : Bool) : Field :=
  ⟨key, fun d => (decoder d).map fun _ => (), needed⟩

structure Record where
  title : String
  fields : List Field
  closed : Bool

namespace Record

def keys (r : Record) : List String := r.fields.map (·.key)

def find? (r : Record) (key : String) : Option Field := r.fields.find? (·.key == key)

/-- Checks entries in their order. -/
def checkEntries (r : Record) : List (String × Data) → Except Error Unit
  | [] => .ok ()
  | (key, value) :: rest =>
    match r.find? key with
    | none => if r.closed then .error (.unknownField key r.keys) else checkEntries r rest
    | some f =>
      match f.check value with
      | .error e => .error e
      | .ok () => checkEntries r rest

def size (r : Record) : String :=
  let n := r.fields.length
  s!"{r.title} with {n} element" ++ if n == 1 then "" else "s"

/-- Checks that a list of `count` items reaches every field it must. -/
def checkLength (r : Record) (dialect : Dialect) (count : Nat) : Except Error Unit :=
  match (r.fields.zipIdx.find? fun (f, i) => f.needed && count ≤ i) with
  | some (_, i) => .error (.wrongLength i r.size)
  | none =>
    if r.fields.length < count && ! dialect.surplus then
      .error (.wrongLength count "fewer elements in array")
    else .ok ()

/-- The entries of a value given for the record, once all of them are known to be acceptable. -/
def entries (r : Record) (dialect : Dialect) : Data → Except Error (List (String × Data))
  | .table entries => do
    checkEntries r entries
    return entries
  | .list items => do
    let entries := r.keys.zip items
    checkEntries r entries
    checkLength r dialect items.length
    return entries
  | other => .error (.wrongType other r.title)

end Record

def required (entries : List (String × Data)) (key : String) (decoder : Decoder α) :
    Except Error α :=
  match entries.lookup key with
  | none => .error (.missingField key)
  | some value => decoder value

def optional (entries : List (String × Data)) (key : String) (decoder : Decoder α) :
    Except Error (Option α) :=
  match entries.lookup key with
  | none => .ok none
  | some value => (decoder value).map some

def defaulted (entries : List (String × Data)) (key : String) (decoder : Decoder α) (default : α) :
    Except Error α :=
  match entries.lookup key with
  | none => .ok default
  | some value => decoder value

def choice (options : List (String × α)) : Decoder α
  | .string s =>
    match options.lookup s with
    | some value => .ok value
    | none => .error (.unknownChoice s (options.map (·.1)))
  | .table [(key, value)] =>
    match options.lookup key, value with
    | none, _ => .error (.unknownChoice key (options.map (·.1)))
    | some chosen, .null => .ok chosen
    | some _, other => .error (.wrongType other "unit")
  | .table entries => .error (.wrongValue (.table entries) "map with a single key")
  | other => .error (.wrongType other "string or map")

end ExtensionBuild.Schema
