import ExtensionBuild.Proofs.Verbatim

/-! The order of the libraries. Where the answer to a command hangs on nothing but the command, a
library yields the same entries wherever it stands in the list. So the list decides in which order
these blocks follow one another, and neither whether the pass is complete nor what is in a block. -/
namespace ExtensionBuild

/-- Whatever was run before, each command is answered as `answer` says. -/
def Executor.Follows (executor : Executor σ) (answer : Command → Answer) : Prop :=
  ∀ c s, (executor.step c s).1 = answer c

theorem Executor.Follows.answers_eq {executor : Executor σ} {answer : Command → Answer}
    (follows : executor.Follows answer) (commands : List Command) (s : σ) :
    executor.answers commands s = commands.map answer := by
  induction commands generalizing s with
  | nil => rfl
  | cons c rest ih => rw [answers, follows, ih, List.map_cons]

theorem Resolution.eq_complete {r : Resolution} (complete : r.isComplete = true) :
    r = .complete r.flags := by
  cases r with
  | complete flags => rfl
  | stopped flags failure skipped => cases complete

namespace PkgConfig

/-- What one library adds to a category. -/
def entries (answer : Command → Answer) (p : PkgConfig) (c : Category) (library : String) :
    List String :=
  (Query.table.filter (·.category == c)).flatMap fun q =>
    q.items (Answer.stdout (answer (p.command q library)))

/-- A pass is complete when every answer succeeds, also those that it would have come to later. -/
theorem isComplete_resolve_iff (executor : Executor σ) (p : PkgConfig) (libraries : List String)
    (base : Flags) (j : Journal σ) :
    (p.resolve executor libraries base j).1.isComplete = true ↔
      ∀ r ∈ p.replies executor (Question.all libraries) j.state, Answer.succeeded r.2 = true := by
  rw [← List.all_eq_true, ← unbroken_eq_length_iff]
  cases found : (p.replies executor (Question.all libraries) j.state)[unbroken
      (p.replies executor (Question.all libraries) j.state)]? with
  | none =>
    rw [resolve_complete executor p libraries base j rfl found]
    have all := List.getElem?_eq_none_iff.mp found
    exact iff_of_true rfl (Nat.le_antisymm List.findIdx_le_length all)
  | some r =>
    rw [resolve_stopped executor p libraries base j rfl found]
    obtain ⟨inside, -⟩ := List.getElem?_eq_some_iff.mp found
    exact iff_of_false Bool.false_ne_true (Nat.ne_of_lt inside)

section

variable {executor : Executor σ} {answer : Command → Answer} (follows : executor.Follows answer)
  (p : PkgConfig)

include follows

theorem replies_of_follows (asked : List Question) (s : σ) :
    p.replies executor asked s = asked.map fun question => (question, answer (p.ask question)) := by
  rw [replies, follows.answers_eq, List.map_map, ← List.zip_map', List.map_id']
  rfl

theorem isComplete_resolve_of_follows (libraries : List String) (base : Flags) (j : Journal σ) :
    (p.resolve executor libraries base j).1.isComplete = true ↔
      ∀ library ∈ libraries, ∀ q ∈ Query.table,
        Answer.succeeded (answer (p.command q library)) = true := by
  rw [isComplete_resolve_iff, replies_of_follows follows, List.forall_mem_map, Question.all]
  simp only [List.forall_mem_flatMap, List.forall_mem_map]
  rfl

theorem get_gather_of_follows (libraries : List String) (base : Flags) (s : σ) (c : Category) :
    (base.gather (p.replies executor (Question.all libraries) s)).get c =
      base.get c ++ libraries.flatMap (p.entries answer c) := by
  rw [Flags.get_gather, replies_of_follows follows, Question.all]
  congr 1
  induction libraries with
  | nil => rfl
  | cons library rest ih =>
    rw [List.flatMap_cons, List.map_append, List.filter_append, List.flatMap_append, ih,
      List.flatMap_cons]
    congr 1
    rw [List.map_map, List.filter_map, List.flatMap_map]
    rfl

theorem flags_of_isComplete {libraries : List String} {base : Flags} {j : Journal σ}
    (complete : (p.resolve executor libraries base j).1.isComplete = true) :
    let flags := (p.resolve executor libraries base j).1.flags
    flags.macros = base.macros ∧
      ∀ c, flags.get c = base.get c ++ libraries.flatMap (p.entries answer c) := by
  intro flags
  have gathered : flags = base.gather (p.replies executor (Question.all libraries) j.state) :=
    (gather_of_complete executor p libraries base j (Resolution.eq_complete complete)).1
  rw [gathered]
  exact ⟨Flags.macros_gather _ _, get_gather_of_follows follows p libraries base j.state⟩

end

/-- Two passes over the same libraries in different orders, repetitions included. Both are complete
or neither is. If they are, they have the macros of the base, and in every category the entries of
the base come first and then one block for each library, the same in both, in the order in which
the libraries stand. -/
theorem resolve_of_perm {executor : Executor σ} {answer : Command → Answer}
    (follows : executor.Follows answer) (p : PkgConfig) {first second : List String}
    (reordered : first.Perm second) (base : Flags) (j k : Journal σ) :
    let one := (p.resolve executor first base j).1
    let other := (p.resolve executor second base k).1
    (one.isComplete = true ↔ other.isComplete = true) ∧
    (one.isComplete = true →
      one.flags.macros = base.macros ∧ other.flags.macros = base.macros ∧
      ∀ c,
        one.flags.get c = base.get c ++ first.flatMap (p.entries answer c) ∧
        other.flags.get c = base.get c ++ second.flatMap (p.entries answer c) ∧
        (first.flatMap (p.entries answer c)).Perm (second.flatMap (p.entries answer c))) := by
  intro one other
  have same : one.isComplete = true ↔ other.isComplete = true := by
    rw [isComplete_resolve_of_follows follows, isComplete_resolve_of_follows follows]
    simp only [reordered.mem_iff]
  refine ⟨same, ?_⟩
  intro complete
  obtain ⟨macros, block⟩ := flags_of_isComplete follows p complete
  obtain ⟨macros', block'⟩ := flags_of_isComplete follows p (same.mp complete)
  refine ⟨macros, macros', ?_⟩
  intro c
  exact ⟨block c, block' c, reordered.flatMap_right _⟩

/-- A library that is listed twice, first around another and then behind it. The executor counts its
commands and answers alike all the same. -/
theorem resolve_of_perm_with_repetition :
    let answer (c : Command) : Answer :=
      let stdout := match c.args with
        | ["--libs-only-l", "osd"] => "-losd -lm"
        | ["--libs-only-l", library] => "-l" ++ library
        | _ => ""
      .ok ⟨some 0, stdout, ""⟩
    let executor : Executor Nat := ⟨fun c n => (answer c, n + 1)⟩
    let p : PkgConfig := ⟨Path.ofText "pkg-config", none⟩
    let base : Flags := ⟨[], [], ["c"], [], [], [⟨"NDEBUG", none⟩]⟩
    let one := (p.resolve executor ["osd", "zlib", "osd"] base (.start 0)).1
    let other := (p.resolve executor ["zlib", "osd", "osd"] base (.start 7)).1
    executor.Follows answer ∧ ["osd", "zlib", "osd"].Perm ["zlib", "osd", "osd"] ∧
    one.isComplete = true ∧ other.isComplete = true ∧
    one.flags.get .libraries = ["c", "osd", "m", "zlib", "osd", "m"] ∧
    other.flags.get .libraries = ["c", "zlib", "osd", "m", "osd", "m"] := by
  intro answer executor p base one other
  have follows : executor.Follows answer := fun _ _ => rfl
  have reordered : ["osd", "zlib", "osd"].Perm ["zlib", "osd", "osd"] := by decide
  have complete : one.isComplete = true := by decide +kernel
  obtain ⟨same, blocks⟩ := resolve_of_perm follows p reordered base (.start 0) (.start 7)
  obtain ⟨-, -, block⟩ := blocks complete
  refine ⟨follows, reordered, complete, same.mp complete, ?_, ?_⟩
  · rw [(block .libraries).1]
    decide +kernel
  · rw [(block .libraries).2.1]
    decide +kernel

end PkgConfig
end ExtensionBuild
