import ExtensionBuild.Libraries.Resolution
import ExtensionBuild.Proofs.Execution
import ExtensionBuild.Proofs.Tokens
import Mathlib.Data.List.Forall2

/-! A resolution pass as a flat one. Every library with every question about it makes one list; the
nested pass runs the commands of that list up to the first that fails, gathers what the answers
before it yield, and names the libraries behind it by their position. -/
namespace ExtensionBuild

structure Question where
  library : String
  query : Query
deriving DecidableEq, Repr

namespace Question

def all (libraries : List String) : List Question :=
  libraries.flatMap fun library => Query.table.map (mk library)

theorem all_getElem? (libraries : List String) (n : Nat) :
    (all libraries)[n]? =
      (libraries[n / 5]?).bind fun library => (Query.table[n % 5]?).map (mk library) := by
  induction libraries generalizing n with
  | nil => rfl
  | cons library rest ih =>
    have rows : (Query.table.map (mk library)).length = 5 := rfl
    change (Query.table.map (mk library) ++ all rest)[n]? = _
    by_cases inside : n < 5
    · rw [List.getElem?_append_left (by omega), Nat.div_eq_of_lt inside, Nat.mod_eq_of_lt inside]
      simp
    · have place : n / 5 = (n - 5) / 5 + 1 := by omega
      have row : n % 5 = (n - 5) % 5 := by omega
      rw [List.getElem?_append_right (by omega), rows, ih, place, row]
      simp

theorem all_eq_some {libraries : List String} {n : Nat} {question : Question}
    (found : (all libraries)[n]? = some question) :
    libraries[n / 5]? = some question.library ∧ Query.table[n % 5]? = some question.query := by
  rw [all_getElem?] at found
  obtain ⟨library, listed, row⟩ := Option.bind_eq_some_iff.mp found
  obtain ⟨q, tabled, rfl⟩ := Option.map_eq_some_iff.mp row
  exact ⟨listed, tabled⟩

end Question

/-- A successful answer yields one item for each maximal run without a blank in what was printed, in
order: the run without as many characters as the row of the question strips. -/
def Yields (r : Question × Answer) (items : List String) : Prop :=
  ∃ o runs, r.2 = .ok o ∧ o.code = some 0 ∧ Text.Runs o.stdout.toList runs ∧
    items = runs.map fun run => String.ofList (run.drop r.1.query.strip)

theorem yields_items {r : Question × Answer} (succeeded : Answer.succeeded r.2 = true) :
    Yields r (r.1.query.items (Answer.stdout r.2)) := by
  obtain ⟨question, a⟩ := r
  cases a with
  | error e => cases succeeded
  | ok o =>
    refine ⟨o, Text.words o.stdout.toList, rfl, ?_, Text.runs_words _, ?_⟩
    · simpa [Answer.succeeded] using succeeded
    · rw [Query.items_eq]
      rfl

theorem forall₂_yields_items {replies : List (Question × Answer)}
    (succeeded : ∀ r ∈ replies, Answer.succeeded r.2 = true) :
    List.Forall₂ Yields replies
      (replies.map fun r => r.1.query.items (Answer.stdout r.2)) := by
  rw [List.forall₂_map_right_iff, List.forall₂_same]
  intro r member
  exact yields_items (succeeded r member)

/-- The flags with the words of successful answers behind those of their categories. -/
def Flags.gather (flags : Flags) (replies : List (Question × Answer)) : Flags :=
  replies.foldl (fun f r => f.extend r.1.query.category (r.1.query.items (Answer.stdout r.2))) flags

namespace Flags

theorem gather_append (flags : Flags) (first second : List (Question × Answer)) :
    flags.gather (first ++ second) = (flags.gather first).gather second := by
  simp [gather]

theorem get_gather (flags : Flags) (replies : List (Question × Answer)) (c : Category) :
    (flags.gather replies).get c = flags.get c ++
      (replies.filter (·.1.query.category == c)).flatMap fun r =>
        r.1.query.items (Answer.stdout r.2) := by
  induction replies generalizing flags with
  | nil => simp [gather]
  | cons r rest ih =>
    simp only [gather, List.foldl_cons] at ih ⊢
    rw [ih]
    by_cases same : r.1.query.category = c
    · subst same
      simp
    · rw [get_extend_of_ne _ _ (Ne.symm same)]
      simp [same]

theorem macros_gather (flags : Flags) (replies : List (Question × Answer)) :
    (flags.gather replies).macros = flags.macros := by
  induction replies generalizing flags with
  | nil => rfl
  | cons r rest ih =>
    simp only [gather, List.foldl_cons] at ih ⊢
    rw [ih, macros_extend]

end Flags

def unbroken (replies : List (Question × Answer)) : Nat :=
  replies.findIdx fun r => Answer.failed r.2

theorem unbroken_append (first second : List (Question × Answer)) :
    unbroken (first ++ second) =
      if unbroken first < first.length then unbroken first
      else first.length + unbroken second := by
  rw [Nat.add_comm]
  exact List.findIdx_append

theorem succeeded_of_mem_take_unbroken {replies : List (Question × Answer)}
    {r : Question × Answer} (member : r ∈ replies.take (unbroken replies)) :
    Answer.succeeded r.2 = true := by
  obtain ⟨i, before, found⟩ := List.mem_take_iff_getElem.mp member
  have unfailed := List.not_of_lt_findIdx (Nat.lt_of_lt_of_le before (Nat.min_le_left _ _))
  simpa [Answer.failed, found] using unfailed

theorem unbroken_eq_length_iff (replies : List (Question × Answer)) :
    unbroken replies = replies.length ↔ (replies.all fun r => Answer.succeeded r.2) = true := by
  simp [unbroken, List.findIdx_eq_length, Answer.failed]

namespace PkgConfig

def ask (p : PkgConfig) (question : Question) : Command :=
  p.command question.query question.library

def replies (executor : Executor σ) (p : PkgConfig) (asked : List Question) (s : σ) :
    List (Question × Answer) :=
  asked.zip (executor.answers (asked.map p.ask) s)

def failureOf (p : PkgConfig) (r : Question × Answer) : QueryFailure where
  library := r.1.library
  category := r.1.query.category
  command := (p.ask r.1).display
  reason := match r.2 with
    | .error e => e.message
    | .ok o => reason o

theorem read_eq (p : PkgConfig) (q : Query) (library : String) (a : Answer) :
    p.read q library a =
      if Answer.failed a then .error (p.failureOf (⟨library, q⟩, a))
      else .ok (q.items (Answer.stdout a)) := by
  cases a with
  | error e => rfl
  | ok o =>
    cases ok : o.succeeded <;>
      simp [read, failureOf, ask, Answer.failed, Answer.succeeded_ok, Answer.stdout, ok]

@[simp] theorem length_replies (executor : Executor σ) (p : PkgConfig) (asked : List Question)
    (s : σ) : (p.replies executor asked s).length = asked.length := by
  simp [replies]

theorem replies_map_ask (executor : Executor σ) (p : PkgConfig) (asked : List Question) (s : σ) :
    ((p.replies executor asked s).map fun r => p.ask r.1) = asked.map p.ask := by
  have firsts : (p.replies executor asked s).map Prod.fst = asked :=
    List.map_fst_zip (by simp)
  calc
    _ = ((p.replies executor asked s).map Prod.fst).map p.ask := by rw [List.map_map]; rfl
    _ = _ := by rw [firsts]

theorem replies_append (executor : Executor σ) (p : PkgConfig) (first second : List Question)
    (s : σ) :
    p.replies executor (first ++ second) s =
      p.replies executor first s ++
        p.replies executor second (executor.after (first.map p.ask) s) := by
  unfold replies
  rw [List.map_append, Executor.answers_append, List.zip_append (by simp)]

theorem askAll_eq (executor : Executor σ) (p : PkgConfig) (library : String)
    (queries : List Query) (flags : Flags) (j : Journal σ) :
    let replies := p.replies executor (queries.map (Question.mk library)) j.state
    let n := unbroken replies
    (p.askAll executor library queries flags j).1 =
        (flags.gather (replies.take n), replies[n]?.map p.failureOf) ∧
      (p.askAll executor library queries flags j).2.exchanges =
        j.exchanges ++ (replies.take (n + 1)).map (fun r => (p.ask r.1, r.2)) ∧
      (p.askAll executor library queries flags j).2.state =
        executor.after ((replies.take (n + 1)).map fun r => p.ask r.1) j.state := by
  induction queries generalizing flags j with
  | nil => simp [askAll, Session.pure_apply, replies, unbroken, Flags.gather, Executor.after]
  | cons q rest ih =>
    rcases step : executor.step (p.command q library) j.state with ⟨a, s⟩
    have first : p.replies executor ((q :: rest).map (Question.mk library)) j.state =
        (⟨library, q⟩, a) :: p.replies executor (rest.map (Question.mk library)) s := by
      simp [replies, Executor.answers, ask, step]
    have asked : p.query executor q library j =
        (p.read q library a, (Session.run executor (p.command q library) j).2) := by
      simp [query, Session.bind_apply, Session.pure_apply, Session.run_fst, step]
    simp only [first, askAll, Session.bind_apply, asked, read_eq]
    by_cases broken : Answer.failed a = true
    · simp [unbroken, List.findIdx_cons, broken, Session.pure_apply, Flags.gather, Executor.after,
        ask, step]
    · rw [if_neg broken]
      simp only [Session.bind_apply]
      generalize noted : (Session.note _ (Session.run executor (p.command q library) j).2).2 = next
      have state : next.state = s := by simp [← noted, step]
      have exchanges : next.exchanges = j.exchanges ++ [(p.command q library, a)] := by
        simp [← noted, step]
      have tail := ih (flags.extend q.category (q.items (Answer.stdout a))) next
      rw [state, exchanges] at tail
      simpa [unbroken, List.findIdx_cons, broken, Flags.gather, Executor.after, ask, step]
        using tail

/-- The pass over a list of libraries. The failing question tells how many libraries were left out:
all behind the one it is about, counted by position. -/
theorem resolve_eq (executor : Executor σ) (p : PkgConfig) (libraries : List String)
    (flags : Flags) (j : Journal σ) :
    let replies := p.replies executor (Question.all libraries) j.state
    let n := unbroken replies
    (p.resolve executor libraries flags j).1 =
        (match replies[n]? with
          | none => .complete (flags.gather (replies.take n))
          | some r => .stopped (flags.gather (replies.take n)) (p.failureOf r)
              (libraries.drop (n / 5 + 1))) ∧
      (p.resolve executor libraries flags j).2.exchanges =
        j.exchanges ++ (replies.take (n + 1)).map (fun r => (p.ask r.1, r.2)) ∧
      (p.resolve executor libraries flags j).2.state =
        executor.after ((replies.take (n + 1)).map fun r => p.ask r.1) j.state := by
  induction libraries generalizing flags j with
  | nil =>
    simp [resolve, Session.pure_apply, replies, Question.all, unbroken, Flags.gather,
      Executor.after]
  | cons library rest ih =>
    obtain ⟨result, exchanges, state⟩ := askAll_eq executor p library Query.table flags j
    have whole : p.replies executor (Question.all (library :: rest)) j.state =
        p.replies executor (Query.table.map (Question.mk library)) j.state ++
          p.replies executor (Question.all rest)
            (executor.after ((Query.table.map (Question.mk library)).map p.ask) j.state) :=
      replies_append ..
    have five : (p.replies executor (Query.table.map (Question.mk library)) j.state).length = 5 := by
      simp [Query.table]
    have questions := replies_map_ask executor p (Query.table.map (Question.mk library)) j.state
    rw [whole]
    generalize p.replies executor (Query.table.map (Question.mk library)) j.state = own at *
    simp only [resolve, Session.bind_apply, result, unbroken_append]
    -- Either the failure is among the five answers about this library, and nothing later is asked,
    -- or the pass over the rest starts from the state that these answers left.
    by_cases broken : unbroken own < own.length
    · obtain ⟨r, found⟩ : ∃ r, own[unbroken own]? = some r := ⟨_, List.getElem?_eq_getElem broken⟩
      have start : unbroken own / 5 = 0 := Nat.div_eq_of_lt (five ▸ broken)
      rw [if_pos broken, List.getElem?_append_left broken,
        List.take_append_of_le_length (by omega), List.take_append_of_le_length (by omega)]
      simp [found, Session.bind_apply, Session.pure_apply, exchanges, state, start]
    · have full : unbroken own = own.length :=
        Nat.le_antisymm List.findIdx_le_length (Nat.le_of_not_lt broken)
      rw [full, List.take_of_length_le (Nat.le_succ _)] at exchanges state
      have tail := ih (flags.gather own) (p.askAll executor library Query.table flags j).2
      rw [exchanges, state, questions] at tail
      generalize p.replies executor (Question.all rest) _ = later at tail ⊢
      obtain ⟨result, exchanges, state⟩ := tail
      rw [if_neg broken, full, Nat.add_assoc, List.take_length_add_append,
        List.take_length_add_append, List.getElem?_append_right (Nat.le_add_right ..),
        Nat.add_sub_cancel_left, List.take_length, List.getElem?_eq_none (Nat.le_refl _)]
      refine ⟨?_, ?_, ?_⟩
      · have skip : (own.length + unbroken later) / 5 + 1 = unbroken later / 5 + 1 + 1 := by omega
        rw [skip, List.drop_succ_cons, Flags.gather_append]
        exact result
      · rw [List.map_append, ← List.append_assoc]
        exact exchanges
      · rw [List.map_append, Executor.after_append, questions]
        exact state

theorem resolve_complete (executor : Executor σ) (p : PkgConfig) (libraries : List String)
    (flags : Flags) (j : Journal σ) {replies : List (Question × Answer)}
    (all : replies = p.replies executor (Question.all libraries) j.state)
    (absent : replies[unbroken replies]? = none) :
    (p.resolve executor libraries flags j).1 =
      .complete (flags.gather (replies.take (unbroken replies))) := by
  subst all
  rw [(resolve_eq executor p libraries flags j).1, absent]

theorem resolve_stopped (executor : Executor σ) (p : PkgConfig) (libraries : List String)
    (flags : Flags) (j : Journal σ) {replies : List (Question × Answer)} {r : Question × Answer}
    (all : replies = p.replies executor (Question.all libraries) j.state)
    (found : replies[unbroken replies]? = some r) :
    (p.resolve executor libraries flags j).1 =
      .stopped (flags.gather (replies.take (unbroken replies))) (p.failureOf r)
        (libraries.drop (unbroken replies / 5 + 1)) := by
  subst all
  rw [(resolve_eq executor p libraries flags j).1, found]

theorem resolve_flags (executor : Executor σ) (p : PkgConfig) (libraries : List String)
    (flags : Flags) (j : Journal σ) :
    let replies := p.replies executor (Question.all libraries) j.state
    (p.resolve executor libraries flags j).1.flags =
      flags.gather (replies.take (unbroken replies)) := by
  intro replies
  rw [(resolve_eq executor p libraries flags j).1]
  split <;> rfl

theorem resolve_commands (executor : Executor σ) (p : PkgConfig) (libraries : List String)
    (flags : Flags) (j : Journal σ) :
    (p.resolve executor libraries flags j).2.commands =
      j.commands ++ ((Question.all libraries).map p.ask).take
        (unbroken (p.replies executor (Question.all libraries) j.state) + 1) := by
  have issued := (resolve_eq executor p libraries flags j).2.1
  rw [Journal.commands_eq, issued, List.map_append, ← Journal.commands_eq, List.map_map,
    ← replies_map_ask executor p _ j.state, ← List.map_take]
  rfl

/-- The nested pass refines the flat one over all pairs of a library and a row of the table. It
issues the commands of the flat list as far as the first answer that fails, the `n`-th; what the
answers in front of it yield goes into the flags, and nothing else does. -/
theorem resolve_refines_flat_pass (executor : Executor σ) (program : Path) (flag : Option String)
    (libraries : List String) (base : Flags) (j : Journal σ) :
    let asked := Question.all libraries
    let commands := asked.map fun question =>
      (⟨program, (flag.filter (! ·.isEmpty)).toList ++ [question.query.option, question.library]⟩ :
        Command)
    let replies := asked.zip (executor.answers commands j.state)
    let n := replies.findIdx fun r => Answer.failed r.2
    let resolution := ((ofSettings program flag).resolve executor libraries base j).1
    let after := ((ofSettings program flag).resolve executor libraries base j).2
    after.commands = j.commands ++ commands.take (n + 1) ∧
    (∀ c, ∃ items,
      List.Forall₂ Yields ((replies.take n).filter (·.1.query.category == c)) items ∧
      resolution.flags.get c = base.get c ++ items.flatten) ∧
    resolution.flags.macros = base.macros ∧
    if replies.all fun r => Answer.succeeded r.2 then
      after.commands = j.commands ++ commands ∧ resolution = .complete resolution.flags
    else ∃ i row library q failure,
      let words := (flag.filter (! ·.isEmpty)).toList ++ [q.option, library]
      libraries[i]? = some library ∧ Query.table[row]? = some q ∧ n = 5 * i + row ∧
      after.commands.length = j.commands.length + (5 * i + row + 1) ∧
      resolution = .stopped resolution.flags failure (libraries.drop (i + 1)) ∧
      failure.library = library ∧ failure.category = q.category ∧
      after.commands.getLast? = some ⟨program, words⟩ ∧
      failure.command = " ".intercalate (program.text :: words) := by
  intro asked commands replies n resolution after
  have issued : after.commands = j.commands ++ commands.take (n + 1) :=
    resolve_commands executor (ofSettings program flag) libraries base j
  have gathered : resolution.flags = base.gather (replies.take n) :=
    resolve_flags executor (ofSettings program flag) libraries base j
  have counted : replies.length = asked.length := by simp [replies, commands]
  refine ⟨issued, ?_, ?_, ?_⟩
  · intro c
    refine ⟨_, forall₂_yields_items ?_, ?_⟩
    · intro r member
      exact succeeded_of_mem_take_unbroken (List.mem_of_mem_filter member)
    · rw [gathered, Flags.get_gather, List.flatMap_def]
  · rw [gathered, Flags.macros_gather]
  by_cases whole : (replies.all fun r => Answer.succeeded r.2) = true
  · have last : n = replies.length := (unbroken_eq_length_iff replies).mpr whole
    have complete : resolution = .complete (base.gather (replies.take n)) :=
      resolve_complete executor _ libraries base j rfl
        (List.getElem?_eq_none (Nat.le_of_eq last.symm))
    rw [if_pos whole]
    refine ⟨?_, ?_⟩
    · rw [issued, List.take_of_length_le (by simp [commands, last, counted])]
    · rw [gathered, complete]
  · have short : n < replies.length := Nat.lt_of_le_of_ne List.findIdx_le_length
      (mt (unbroken_eq_length_iff replies).mp whole)
    obtain ⟨⟨question, a⟩, found⟩ : ∃ r, replies[n]? = some r :=
      ⟨_, List.getElem?_eq_getElem short⟩
    have stopped := resolve_stopped executor (ofSettings program flag) libraries base j rfl found
    have position : asked[n]? = some question := (List.getElem?_zip_eq_some.mp found).1
    have last : commands[n]? = some ((ofSettings program flag).ask question) := by
      rw [List.getElem?_map, position]
      rfl
    obtain ⟨listed, tabled⟩ := Question.all_eq_some position
    rw [if_neg whole]
    refine ⟨n / 5, n % 5, question.library, question.query,
      (ofSettings program flag).failureOf (question, a), listed, tabled,
      (Nat.div_add_mod n 5).symm, ?_, ?_, rfl, rfl, ?_, ?_⟩
    · rw [Nat.div_add_mod, issued, List.length_append, List.length_take]
      simp only [commands, List.length_map]
      omega
    · rw [gathered]
      exact stopped
    · rw [issued, List.take_add_one, last, ← List.append_assoc]
      simp only [Option.toList_some, List.getLast?_concat]
      rfl
    · exact Text.joinedStrings_eq_intercalate _ _

end PkgConfig
end ExtensionBuild
