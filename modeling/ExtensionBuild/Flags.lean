/-! The inputs of a compiler and a linker for one extension: five categories of flags, each an
ordered list, and the macros. Entries are only ever appended, so the compiler sees them in the order
in which they were found. -/
namespace ExtensionBuild

inductive Category
  | includeDirs
  | libraryDirs
  | libraries
  | compileArgs
  | linkArgs
deriving DecidableEq, Repr

namespace Category

def all : List Category := [includeDirs, libraryDirs, libraries, compileArgs, linkArgs]

def key : Category → String
  | includeDirs => "include_dirs"
  | libraryDirs => "library_dirs"
  | libraries => "libraries"
  | compileArgs => "extra_compile_args"
  | linkArgs => "extra_link_args"

theorem mem_all (c : Category) : c ∈ all := by cases c <;> simp [all]

end Category

structure Define where
  name : String
  value : Option String
deriving DecidableEq, Repr

namespace Define

def flag (d : Define) : String :=
  match d.value with
  | none => "-D" ++ d.name
  | some value => "-D" ++ d.name ++ "=" ++ value

theorem flag_eq : flag = fun d => "-D" ++ d.name ++ d.value.elim "" ("=" ++ ·) := by
  funext d
  cases value : d.value <;> simp [flag, value, String.append_assoc]

end Define

structure Flags where
  includeDirs : List String
  libraryDirs : List String
  libraries : List String
  compileArgs : List String
  linkArgs : List String
  macros : List Define
deriving DecidableEq, Repr

namespace Flags

def empty : Flags := ⟨[], [], [], [], [], []⟩

def ofMacros (macros : List Define) : Flags := { empty with macros }

def get (f : Flags) : Category → List String
  | .includeDirs => f.includeDirs
  | .libraryDirs => f.libraryDirs
  | .libraries => f.libraries
  | .compileArgs => f.compileArgs
  | .linkArgs => f.linkArgs

def extend (f : Flags) (c : Category) (items : List String) : Flags :=
  match c with
  | .includeDirs => { f with includeDirs := f.includeDirs ++ items }
  | .libraryDirs => { f with libraryDirs := f.libraryDirs ++ items }
  | .libraries => { f with libraries := f.libraries ++ items }
  | .compileArgs => { f with compileArgs := f.compileArgs ++ items }
  | .linkArgs => { f with linkArgs := f.linkArgs ++ items }

def define (f : Flags) (d : Define) : Flags := { f with macros := f.macros ++ [d] }

/-- Whether no category has an entry; macros do not count. -/
def hasNoFlags (f : Flags) : Bool := Category.all.all fun c => (f.get c).isEmpty

/-- What a compiler needs: the include directories, the macros, then the other flags. -/
def compileFlags (f : Flags) : List String :=
  f.includeDirs.map ("-I" ++ ·) ++ f.macros.map Define.flag ++ f.compileArgs

/-- What a linker needs: the library directories, the libraries, then the other flags. -/
def linkFlags (f : Flags) : List String :=
  f.libraryDirs.map ("-L" ++ ·) ++ f.libraries.map ("-l" ++ ·) ++ f.linkArgs

@[simp] theorem get_extend_self (f : Flags) (c : Category) (items : List String) :
    (f.extend c items).get c = f.get c ++ items := by
  cases c <;> rfl

theorem get_extend_of_ne (f : Flags) {c other : Category} (items : List String) (h : other ≠ c) :
    (f.extend c items).get other = f.get other := by
  cases c <;> cases other <;> first | rfl | exact absurd rfl h

@[simp] theorem macros_extend (f : Flags) (c : Category) (items : List String) :
    (f.extend c items).macros = f.macros := by
  cases c <;> rfl

@[simp] theorem get_define (f : Flags) (d : Define) (c : Category) :
    (f.define d).get c = f.get c := by
  cases c <;> rfl

@[simp] theorem macros_define (f : Flags) (d : Define) :
    (f.define d).macros = f.macros ++ [d] := rfl

theorem ext_get {f g : Flags} (flags : ∀ c, f.get c = g.get c) (macros : f.macros = g.macros) :
    f = g := by
  have h1 := flags .includeDirs
  have h2 := flags .libraryDirs
  have h3 := flags .libraries
  have h4 := flags .compileArgs
  have h5 := flags .linkArgs
  cases f
  cases g
  simp_all [get]

end Flags
end ExtensionBuild
