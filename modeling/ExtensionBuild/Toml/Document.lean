import ExtensionBuild.Toml.Scalar

/-! TOML documents as a tree. Tables remember how they came about: written out under a header of
their own, implied by the header of a table inside them, or by a dotted key. That decides which
later statement may still add to them. -/
namespace ExtensionBuild.Toml

inductive Origin
  | header
  | implied
  | dotted
deriving DecidableEq, Repr

inductive Node
  | value (d : Data)
  | table (origin : Origin) (entries : List (String × Node))
  | tables (items : List (List (String × Node)))
deriving Inhabited

abbrev Entries := List (String × Node)

mutual

def Node.data : Node → Data
  | .value d => d
  | .table _ entries => .table (entriesData entries)
  | .tables items => .list (tablesData items)

def entriesData : List (String × Node) → List (String × Data)
  | [] => []
  | (key, node) :: rest => (key, node.data) :: entriesData rest

def tablesData : List (List (String × Node)) → List Data
  | [] => []
  | entries :: rest => .table (entriesData entries) :: tablesData rest

end

def replace (key : String) (node : Node) (entries : Entries) : Entries :=
  entries.map fun (k, old) => if k == key then (k, node) else (k, old)

/-- Changes the table that `path` leads to from a table with the given origin and entries. Tables
that are missing on the way are made; a list of tables is entered at its last one. A dotted key may
not pass through a table that has a header. -/
def change (dotted : Bool) (edit : Origin → Entries → Option (Entries × α)) :
    List String → Origin → Entries → Option (Entries × α)
  | [], origin, entries => edit origin entries
  | key :: path, _, entries =>
    match entries.lookup key with
    | none => do
      let origin := if dotted then Origin.dotted else Origin.implied
      let (inner, a) ← change dotted edit path origin []
      return (entries ++ [(key, .table origin inner)], a)
    | some (.value _) => none
    | some (.table origin inner) =>
      if dotted && origin == .header then none
      else do
        let (inner, a) ← change dotted edit path origin inner
        return (replace key (.table origin inner) entries, a)
    | some (.tables items) =>
      match items.getLast? with
      | none => none
      | some last => do
        let (last, a) ← change dotted edit path .header last
        return (replace key (.tables (items.dropLast ++ [last])) entries, a)

/-- Puts a value under a key that may be dotted, into a table that has a header. A dotted key may
add only to tables that dotted keys made, and no key is set twice. -/
def put (entries : Entries) (path : List String) (key : String) (d : Data) : Option Entries :=
  let edit (origin : Origin) (inner : Entries) : Option (Entries × Unit) :=
    if (origin == .dotted) == path.isEmpty then none
    else if (inner.lookup key).isSome then none
    else some (inner ++ [(key, .value d)], ())
  (change true edit path .header entries).map (·.1)

structure Key where
  path : List String
  last : String
deriving Repr

inductive Statement
  | assign (key : Key) (d : Data)
  | openTable (key : Key)
  | openTables (key : Key)

/-- A document while its statements are read: what is complete, and the table that assignments go
to, which joins the rest at the next header. -/
structure Draft where
  root : Entries
  place : Option (Key × Bool)
  current : Entries

namespace Draft

def empty : Draft := ⟨[], none, []⟩

/-- The complete part with the current table put in its place. -/
def close (draft : Draft) : Option Entries :=
  match draft.place with
  | none => some draft.current
  | some (key, listed) =>
    let edit (_ : Origin) (entries : Entries) : Option (Entries × Unit) :=
      match listed, entries.lookup key.last with
      | true, none => some (entries ++ [(key.last, .tables [draft.current])], ())
      | true, some (.tables items) =>
        some (replace key.last (.tables (items ++ [draft.current])) entries, ())
      | false, none => some (entries ++ [(key.last, .table .header draft.current)], ())
      | _, _ => none
    (change false edit key.path .header draft.root).map (·.1)

/-- Opens the table of a header. One that was only implied so far keeps its entries. -/
def openTable (draft : Draft) (key : Key) : Option Draft := do
  let root ← draft.close
  let edit (_ : Origin) (entries : Entries) : Option (Entries × Entries) :=
    match entries.lookup key.last with
    | none => some (entries, [])
    | some (.table .implied inner) => some (entries.filter (·.1 != key.last), inner)
    | some _ => none
  let (root, current) ← change false edit key.path .header root
  return ⟨root, some (key, false), current⟩

/-- Opens one more table of a list of tables. -/
def openTables (draft : Draft) (key : Key) : Option Draft := do
  let root ← draft.close
  let edit (_ : Origin) (entries : Entries) : Option (Entries × Unit) :=
    match entries.lookup key.last with
    | none => some (entries ++ [(key.last, .tables [])], ())
    | some (.tables _) => some (entries, ())
    | some _ => none
  let (root, _) ← change false edit key.path .header root
  return ⟨root, some (key, true), []⟩

def step (draft : Draft) : Statement → Option Draft
  | .assign key d => do
    return { draft with current := ← put draft.current key.path key.last d }
  | .openTable key => draft.openTable key
  | .openTables key => draft.openTables key

end Draft

def build (statements : List Statement) : Option (List (String × Data)) := do
  let draft ← statements.foldlM Draft.step Draft.empty
  let root ← draft.close
  return entriesData root

end ExtensionBuild.Toml
