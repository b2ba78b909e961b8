import ExtensionBuild.Flags
import ExtensionBuild.Schema

/-! Flags and macros as structured values. Writing keeps the order of declaration; reading takes any
subset of the keys in any order, fills the rest with empty lists and passes over other keys. -/
namespace ExtensionBuild

namespace Define

def data (d : Define) : Data :=
  .table (("name", .string d.name) ::
    match d.value with
    | none => []
    | some value => [("value", .string value)])

def record : Schema.Record where
  title := "struct Define"
  fields := [
    Schema.field "name" Schema.string true,
    Schema.field "value" (Schema.nullable Schema.string) false]
  closed := false

def decode (dialect : Schema.Dialect) : Schema.Decoder Define := fun d => do
  let entries ← record.entries dialect d
  return {
    name := ← Schema.required entries "name" Schema.string
    value := ← Schema.defaulted entries "value" (Schema.nullable Schema.string) none }

end Define

namespace Category

def decode : Schema.Decoder Category := Schema.choice (all.map fun c => (c.key, c))

end Category

namespace Flags

def entries (f : Flags) : List (String × Data) :=
  (Category.all.map fun c => (c.key, Data.strings (f.get c))) ++
    [("define_macros", .list (f.macros.map Define.data))]

def data (f : Flags) : Data := .table f.entries

def strings : Schema.Decoder (List String) := Schema.listOf Schema.string

def record (dialect : Schema.Dialect) : Schema.Record where
  title := "struct BuildConfig"
  fields := (Category.all.map fun c => Schema.field c.key strings false) ++
    [Schema.field "define_macros" (Schema.listOf (Define.decode dialect)) false]
  closed := false

def decode (dialect : Schema.Dialect) : Schema.Decoder Flags := fun d => do
  let entries ← (record dialect).entries dialect d
  let list (c : Category) := Schema.defaulted entries c.key strings []
  return {
    includeDirs := ← list .includeDirs
    libraryDirs := ← list .libraryDirs
    libraries := ← list .libraries
    compileArgs := ← list .compileArgs
    linkArgs := ← list .linkArgs
    macros := ← Schema.defaulted entries "define_macros"
      (Schema.listOf (Define.decode dialect)) [] }

end Flags
end ExtensionBuild
