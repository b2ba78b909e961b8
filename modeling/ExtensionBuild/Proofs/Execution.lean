import ExtensionBuild.Session

/-! What an executor answers when commands are run one after the other, and how the journal of a
session records it. The answers are those of actual steps from a state: running two lists in turn
is running their concatenation. -/
namespace ExtensionBuild

namespace Answer

/-- Only a command that was started and left the code zero has succeeded. -/
def succeeded : Answer → Bool
  | .ok o => o.code == some 0
  | .error _ => false

theorem succeeded_ok (o : Output) : succeeded (.ok o) = o.succeeded := rfl

def failed (a : Answer) : Bool := ! succeeded a

def stdout : Answer → String
  | .ok o => o.stdout
  | .error _ => ""

end Answer

namespace Executor

/-- The answers to commands that are run in order, whatever each of them is. -/
def answers (executor : Executor σ) : List Command → σ → List Answer
  | [], _ => []
  | c :: rest, s => (executor.step c s).1 :: answers executor rest (executor.step c s).2

def after (executor : Executor σ) (commands : List Command) (s : σ) : σ :=
  commands.foldl (fun s c => (executor.step c s).2) s

@[simp] theorem length_answers (executor : Executor σ) (commands : List Command) (s : σ) :
    (executor.answers commands s).length = commands.length := by
  induction commands generalizing s with
  | nil => rfl
  | cons c rest ih => simp [answers, ih]

theorem answers_append (executor : Executor σ) (first second : List Command) (s : σ) :
    executor.answers (first ++ second) s =
      executor.answers first s ++ executor.answers second (executor.after first s) := by
  induction first generalizing s with
  | nil => rfl
  | cons c rest ih =>
    simp only [List.cons_append, answers, after, List.foldl_cons] at ih ⊢
    rw [ih]

theorem after_append (executor : Executor σ) (first second : List Command) (s : σ) :
    executor.after (first ++ second) s = executor.after second (executor.after first s) := by
  simp [after]

end Executor

def Journal.exchanges (j : Journal σ) : List (Command × Answer) :=
  j.events.filterMap fun
    | .ran c a => some (c, a)
    | .noted _ => none

theorem Journal.commands_eq (j : Journal σ) : j.commands = j.exchanges.map (·.1) := by
  unfold commands exchanges
  rw [List.map_filterMap]
  congr
  funext event
  cases event <;> rfl

namespace Session

theorem bind_apply (x : Session σ α) (f : α → Session σ β) (j : Journal σ) :
    (x >>= f) j = f (x j).1 (x j).2 := rfl

theorem pure_apply (a : α) (j : Journal σ) : (pure a : Session σ α) j = (a, j) := rfl

theorem map_apply (f : α → β) (x : Session σ α) (j : Journal σ) :
    (f <$> x) j = (f (x j).1, (x j).2) := rfl

theorem run_fst (executor : Executor σ) (c : Command) (j : Journal σ) :
    (run executor c j).1 = (executor.step c j.state).1 := rfl

@[simp] theorem state_run (executor : Executor σ) (c : Command) (j : Journal σ) :
    (run executor c j).2.state = (executor.step c j.state).2 := rfl

@[simp] theorem exchanges_run (executor : Executor σ) (c : Command) (j : Journal σ) :
    (run executor c j).2.exchanges = j.exchanges ++ [(c, (executor.step c j.state).1)] := by
  simp [run, Journal.exchanges]

@[simp] theorem state_note (line : Log.Line) (j : Journal σ) :
    (note line j).2.state = j.state := rfl

@[simp] theorem exchanges_note (line : Log.Line) (j : Journal σ) :
    (note line j).2.exchanges = j.exchanges := by
  simp [note, Journal.exchanges]

/-- Started from the journal `j`, the session runs these commands, one after the other, and returns
this result. -/
structure Issues (executor : Executor σ) (x : Session σ α) (j : Journal σ)
    (commands : List Command) (result : α) : Prop where
  result : (x j).1 = result
  exchanges : (x j).2.exchanges = j.exchanges ++ commands.zip (executor.answers commands j.state)
  state : (x j).2.state = executor.after commands j.state

namespace Issues

variable {executor : Executor σ} {j : Journal σ}

theorem pure (a : α) : Issues executor (pure a) j [] a := ⟨rfl, (List.append_nil _).symm, rfl⟩

theorem run (c : Command) :
    Issues executor (Session.run executor c) j [c] (executor.step c j.state).1 :=
  ⟨rfl, exchanges_run executor c j, rfl⟩

theorem bind {x : Session σ α} {f : α → Session σ β} {first second : List Command} {a : α} {b : β}
    (head : Issues executor x j first a) (tail : Issues executor (f a) (x j).2 second b) :
    Issues executor (x >>= f) j (first ++ second) b := by
  have next : (x >>= f) j = f a (x j).2 := by rw [bind_apply, head.result]
  refine ⟨?_, ?_, ?_⟩
  · rw [next, tail.result]
  · rw [next, tail.exchanges, head.exchanges, head.state, Executor.answers_append,
      List.zip_append (by simp), List.append_assoc]
  · rw [next, tail.state, head.state, Executor.after_append]

/-- What is made of a result without running anything more. -/
theorem andThen {x : Session σ α} {commands : List Command} {a : α}
    (head : Issues executor x j commands a) (f : α → β) :
    Issues executor (x >>= fun r => Pure.pure (f r)) j commands (f a) := by
  have whole := head.bind (f := fun r => Pure.pure (f r)) (.pure (f a))
  rwa [List.append_nil] at whole

end Issues
end Session
end ExtensionBuild
