import ExtensionBuild.Flags
import Mathlib.Data.List.Induction

/-! Flags as they grow. Whatever is done to them puts entries behind those of one category or a
macro behind the macros, so what a run of changes leaves is what was there at first with the
additions behind it, in the order of the changes. What the compiler and the linker are given counts
every entry once. -/
namespace ExtensionBuild.Flags

inductive Change
  | extend (c : Category) (items : List String)
  | define (d : Define)
deriving DecidableEq, Repr

namespace Change

def apply (f : Flags) : Change → Flags
  | extend c items => f.extend c items
  | define d => f.define d

/-- What a change brings to a category: nothing unless it names it. -/
def additions (c : Category) : Change → List String
  | extend named items => if named = c then items else []
  | define _ => []

def definitions : Change → List Define
  | extend .. => []
  | define d => [d]

theorem get_apply (f : Flags) (change : Change) (c : Category) :
    (change.apply f).get c = f.get c ++ change.additions c := by
  cases change with
  | extend named items =>
    by_cases same : named = c
    · subst same
      simp [apply, additions]
    · simp [apply, additions, same, get_extend_of_ne f items (Ne.symm same)]
  | define d => simp [apply, additions]

theorem macros_apply (f : Flags) (change : Change) :
    (change.apply f).macros = f.macros ++ change.definitions := by
  cases change <;> simp [apply, definitions]

end Change

def run (f : Flags) (changes : List Change) : Flags := changes.foldl Change.apply f

theorem run_append (f : Flags) (before after : List Change) :
    f.run (before ++ after) = (f.run before).run after :=
  List.foldl_append

theorem run_concat (f : Flags) (changes : List Change) (change : Change) :
    f.run (changes ++ [change]) = change.apply (f.run changes) :=
  run_append f changes [change]

/-- What every change only adds to, a run adds to in the order of its changes. -/
theorem view_run (view : Flags → List α) {added : Change → List α}
    (grows : ∀ f change, view (Change.apply f change) = view f ++ added change)
    (f : Flags) (changes : List Change) :
    view (f.run changes) = view f ++ changes.flatMap added := by
  induction changes using List.reverseRecOn with
  | nil => simp [run]
  | append_singleton changes change ih =>
    rw [run_concat, grows, ih, List.flatMap_append, List.append_assoc]
    simp

theorem get_run (f : Flags) (changes : List Change) (c : Category) :
    (f.run changes).get c = f.get c ++ changes.flatMap (Change.additions c) :=
  view_run (·.get c) (fun f change => Change.get_apply f change c) f changes

theorem macros_run (f : Flags) (changes : List Change) :
    (f.run changes).macros = f.macros ++ changes.flatMap Change.definitions :=
  view_run Flags.macros Change.macros_apply f changes

theorem prefix_get_run (f : Flags) (changes : List Change) (c : Category) :
    f.get c <+: (f.run changes).get c := by
  rw [get_run]
  exact List.prefix_append _ _

theorem prefix_macros_run (f : Flags) (changes : List Change) :
    f.macros <+: (f.run changes).macros := by
  rw [macros_run]
  exact List.prefix_append _ _

theorem length_compileFlags (f : Flags) :
    f.compileFlags.length =
      (f.get .includeDirs).length + f.macros.length + (f.get .compileArgs).length := by
  simp [compileFlags, get, Nat.add_assoc]

theorem length_linkFlags (f : Flags) :
    f.linkFlags.length =
      (f.get .libraryDirs).length + (f.get .libraries).length + (f.get .linkArgs).length := by
  simp [linkFlags, get, Nat.add_assoc]

theorem length_flags (f : Flags) :
    f.compileFlags.length + f.linkFlags.length =
      (Category.all.flatMap f.get).length + f.macros.length := by
  rw [length_compileFlags, length_linkFlags]
  simp only [Category.all, List.flatMap_cons, List.flatMap_nil, List.length_append,
    List.length_nil]
  omega

theorem hasNoFlags_iff (f : Flags) : f.hasNoFlags = true ↔ ∀ c, f.get c = [] := by
  rw [hasNoFlags, List.all_eq_true]
  simp [Category.mem_all]

theorem hasNoFlags_iff_rendered (f : Flags) :
    f.hasNoFlags = true ↔ f.linkFlags = [] ∧
      f.compileFlags = f.macros.map fun d => "-D" ++ d.name ++ d.value.elim "" ("=" ++ ·) := by
  rw [hasNoFlags_iff, ← Define.flag_eq]
  constructor
  · intro none
    have includes : f.includeDirs = [] := none .includeDirs
    have directories : f.libraryDirs = [] := none .libraryDirs
    have names : f.libraries = [] := none .libraries
    have compile : f.compileArgs = [] := none .compileArgs
    have link : f.linkArgs = [] := none .linkArgs
    constructor
    · simp [linkFlags, directories, names, link]
    · simp [compileFlags, includes, compile]
  · -- the lengths are enough: each of the five lists is counted in one of the two sums
    rintro ⟨unlinked, macros⟩ c
    have linked := length_linkFlags f
    have compiled := length_compileFlags f
    rw [unlinked, List.length_nil] at linked
    rw [macros, List.length_map] at compiled
    apply List.eq_nil_of_length_eq_zero
    cases c <;> omega

/-- After any run of changes every category holds what it held at first and behind it the entries of
the changes that named it, and so do the macros; what a longer run leaves begins with what a shorter
one left, and one more change leaves all but its own list alone. In each state the flags are void
exactly when the linker is given nothing and the compiler one flag for each macro, and the two are
given as many flags as there are entries. -/
theorem run_appends (f : Flags) (before after : List Change) :
    let now := f.run before
    let later := f.run (before ++ after)
    (∀ c, now.get c = f.get c ++ before.flatMap (Change.additions c)) ∧
    now.macros = f.macros ++ before.flatMap Change.definitions ∧
    (∀ c, now.get c <+: later.get c) ∧ now.macros <+: later.macros ∧
    (∀ c items,
      (∀ other, other ≠ c → (now.extend c items).get other = now.get other) ∧
      (now.extend c items).macros = now.macros) ∧
    (∀ d c, (now.define d).get c = now.get c) ∧
    (now.hasNoFlags = true ↔
      now.linkFlags = [] ∧
      now.compileFlags = now.macros.map fun d =>
        "-D" ++ d.name ++ d.value.elim "" ("=" ++ ·)) ∧
    now.compileFlags.length + now.linkFlags.length =
      (Category.all.flatMap now.get).length + now.macros.length := by
  intro now later
  have continued : later = now.run after := run_append f before after
  refine ⟨get_run f before, macros_run f before, ?_, ?_, ?_, get_define now,
    hasNoFlags_iff_rendered now, length_flags now⟩
  · rw [continued]
    exact prefix_get_run now after
  · rw [continued]
    exact prefix_macros_run now after
  · intro c items
    exact ⟨fun other apart => get_extend_of_ne now items apart, macros_extend now c items⟩

end ExtensionBuild.Flags
