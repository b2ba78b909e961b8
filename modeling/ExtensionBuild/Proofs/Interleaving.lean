import ExtensionBuild.Proofs.Execution
import ExtensionBuild.Proofs.RuleHistory
import Mathlib.Logic.Function.Iterate

/-! Scripted answers and the order of calls. A rule for a single call names one command exactly, so
that a call never takes a rule away from another command. What a call gets hangs on its command and
on the number of earlier calls with the same text, and runs that keep the order of calls with one
text cannot be told apart by any of them. -/
namespace ExtensionBuild.Script

/-- The ways to prepare a script. -/
inductive Setting
  | always (command : String) (o : Output)
  | once (command : String) (o : Output)
  | starting (start : String) (o : Output)
  | containing (part : String) (o : Output)
  | unstartable (start : String) (reason : String)
  | otherwise (o : Output)

def Setting.move : Setting → Move
  | always command o => .add ⟨.exact command, .output o, false⟩
  | once command o => .add ⟨.exact command, .output o, true⟩
  | starting start o => .add ⟨.start start, .output o, false⟩
  | containing part o => .add ⟨.part part, .output o, false⟩
  | unstartable start reason => .add ⟨.start start, .spawnError reason, false⟩
  | otherwise o => .preset o

def prepared (settings : List Setting) : Script := Script.empty.playAll (settings.map Setting.move)

/-- The answer to a call when `earlier` calls before it had the same text. The rules that accept it
answer in turn, those for a single call once each, up to the first lasting one. -/
def answerTo (s : Script) (c : Command) (earlier : Nat) : Answer :=
  let accepting := s.rules.filter (·.pattern.accepts c.display)
  answerBy s.fallback c accepting[min earlier (accepting.takeWhile (·.once)).length]?

namespace History

/-- Only a rule for exactly one command is for a single call. -/
def Narrow (h : History) : Prop :=
  ∀ rule ∈ h.rules, rule.once = true → ∃ text, rule.pattern = .exact text

/-- The accepting rules that are left when the first of them has answered. -/
def served : List (Rule × Nat) → List (Rule × Nat)
  | [] => []
  | p :: others => if p.1.once then others else p :: others

theorem head?_iterate_served (n : Nat) (ps : List (Rule × Nat)) :
    (served^[n] ps).head? = ps[min n (ps.takeWhile (·.1.once)).length]? := by
  induction n generalizing ps with
  | zero => simp [List.head?_eq_getElem?]
  | succ n ih =>
    rw [Function.iterate_succ_apply, ih]
    cases ps with
    | nil => simp [served]
    | cons p others =>
      cases once : p.1.once with
      | true => simp [served, once, Nat.add_min_add_right]
      | false => simp [served, once]

section

variable {h : History} {c : Command} {answerer : Option Nat} {a : Answer}

theorem mem_rules {rule : Rule} : rule ∈ h.rules ↔ Move.add rule ∈ h.map Event.move := by
  have same (e : Event) : e.rule? = some rule ↔ e.move = .add rule := by
    cases e <;> simp [Event.rule?, Event.move]
  simp [rules, same]

theorem narrow_of_settings {settings : List Setting}
    (moves : h.map Event.move = settings.map Setting.move) : h.Narrow := by
  intro rule added once
  rw [mem_rules, moves, List.mem_map] at added
  obtain ⟨setting, -, same⟩ := added
  cases setting with
  | once command o =>
    cases same
    exact ⟨command, rfl⟩
  | otherwise o => cases same
  | _ =>
    cases same
    cases once

/-- A rule for a single call accepts one text alone. -/
theorem Narrow.eq_of_accepts (narrow : h.Narrow) {rule : Rule} (added : rule ∈ h.rules)
    (once : rule.once = true) {text text' : String}
    (accepted : rule.pattern.accepts text = true)
    (accepted' : rule.pattern.accepts text' = true) : text = text' := by
  obtain ⟨only, exact⟩ := narrow rule added once
  rw [exact, Pattern.accepts, beq_iff_eq] at accepted accepted'
  exact accepted.trans accepted'.symm

/-- A call serves the rules that accept its own command, and leaves those of every other alone. -/
theorem accepting_called (narrow : h.Narrow) (answered : h.Answered c answerer a) (text : String) :
    accepting (h ++ [.called c answerer a]) text =
      if c.display = text then served (h.accepting text) else h.accepting text := by
  have left :
      accepting (h ++ [.called c answerer a]) text = spared answerer (h.accepting text) := by
    simp only [accepting, spared, present_called, List.filter_filter, Bool.and_comm]
  rw [left]
  have idle (unmatched : h.accepting c.display = []) : spared none (h.accepting text) =
      if c.display = text then served (h.accepting text) else h.accepting text := by
    rw [spared_none]
    split
    · rename_i same
      rw [← same, unmatched, served]
    · rfl
  cases answered with
  | fallback unmatched last => exact idle unmatched
  | unexpected unmatched unset => exact idle unmatched
  | @rule rule i accepts first =>
    obtain ⟨others, candidates, apart⟩ := accepting_eq_cons accepts first
    split
    · rename_i same
      rw [← same, candidates, spared, List.filter_cons, ← spared, spared_of_lt apart, served]
      cases rule.once <;> simp
    · rename_i different
      rw [spared, List.filter_eq_self]
      intro p member
      rw [Bool.not_eq_true', Bool.and_eq_false_imp]
      intro once
      rw [beq_eq_false_iff_ne]
      -- The rule in the place of the one that answered is that rule, and it accepts one text.
      rintro ⟨⟩
      obtain ⟨⟨there, -⟩, accepted⟩ := h.mem_accepting.mp accepts
      obtain ⟨⟨here, -⟩, accepted'⟩ := h.mem_accepting.mp member
      obtain rfl : rule = p.1 := Option.some.inj (there.symm.trans here)
      exact different (narrow.eq_of_accepts (List.mem_of_getElem? here) once accepted accepted')

end

/-- Calls alone add no rules. -/
theorem rules_append_calls (h : History) {later : History} {commands : List Command}
    (calls : later.map Event.move = commands.map Move.call) : rules (h ++ later) = h.rules := by
  have none : rules later = [] := by
    rw [List.eq_nil_iff_forall_not_mem]
    intro rule added
    rw [mem_rules, calls] at added
    simp at added
  rw [rules, List.filterMap_append, ← rules, ← rules, none, List.append_nil]

/-- Calls serve the rules that accept a text as often as there are calls with it among them. -/
theorem accepting_append_calls {h later : History} (narrow : h.Narrow)
    (sound : Sound (h ++ later)) {commands : List Command}
    (calls : later.map Event.move = commands.map Move.call) (text : String) :
    accepting (h ++ later) text =
      served^[commands.countP (·.display == text)] (h.accepting text) := by
  induction commands using List.reverseRecOn generalizing later with
  | nil =>
    obtain rfl := List.map_eq_nil_iff.mp calls
    simp
  | append_singleton commands c ih =>
    rw [List.map_append] at calls
    obtain ⟨before, e, rfl, earlier, now⟩ := exists_concat calls
    cases e with
    | added rule => cases now
    | preset o => cases now
    | called c' answerer a =>
      cases now
      rw [← List.append_assoc] at sound ⊢
      obtain ⟨sound, reply⟩ := sound.of_concat
      have unwidened : Narrow (h ++ before) := by
        rw [Narrow, rules_append_calls h earlier]
        exact narrow
      rw [accepting_called unwidened (reply _ _ _ rfl) text, ih sound earlier, List.countP_append,
        List.countP_singleton]
      by_cases same : c.display = text
      · rw [if_pos same, if_pos (by simpa using same), Function.iterate_succ_apply']
      · rw [if_neg same, if_neg (by simpa using same), Nat.add_zero]

/-- Runs with the same calls for each text use up the same rules, each in its place. -/
theorem present_append_calls {h later other : History} (narrow : h.Narrow)
    (sound : Sound (h ++ later)) (sound' : Sound (h ++ other)) {first second : List Command}
    (calls : later.map Event.move = first.map Move.call)
    (calls' : other.map Event.move = second.map Move.call)
    (same : ∀ text, first.filter (·.display == text) = second.filter (·.display == text)) :
    present (h ++ later) = present (h ++ other) := by
  have accepting_eq (text : String) :
      accepting (h ++ later) text = accepting (h ++ other) text := by
    rw [accepting_append_calls narrow sound calls, accepting_append_calls narrow sound' calls',
      List.countP_eq_length_filter, same text, ← List.countP_eq_length_filter]
  rw [present, present, rules_append_calls h calls, rules_append_calls h calls']
  refine List.filter_congr ?_
  rintro ⟨rule, i⟩ place
  have added := List.mem_zipIdx_iff_getElem?.mp place
  cases once : rule.once with
  | false => rfl
  | true =>
    obtain ⟨text, exact⟩ := narrow rule (List.mem_of_getElem? added) once
    -- A rule for a single call is among those that accept its text until it has answered.
    have waiting (run : History) (known : run.rules[i]? = some rule) :
        (rule, i) ∈ run.accepting text ↔ some i ∉ run.answerers := by
      simp [mem_accepting, known, once, exact, Pattern.accepts]
    have left := waiting (h ++ later) (by rwa [rules_append_calls h calls])
    have right := waiting (h ++ other) (by rwa [rules_append_calls h calls'])
    rw [accepting_eq, right, not_iff_not] at left
    simp [left]

/-- What happened when a script was prepared and then ran these commands. -/
structure Records (h : History) (settings : List Setting) (commands : List Command) : Prop where
  sound : h.Sound
  moves : h.map Event.move = settings.map Setting.move ++ commands.map Move.call
  leaves : h.Leaves (executor.after commands (prepared settings))

theorem exists_prepared (settings : List Setting) :
    ∃ h : History, h.Narrow ∧ h.Records settings [] := by
  obtain ⟨h, sound, leaves, moves, -⟩ := Sound.start.extend .start (settings.map Setting.move)
  exact ⟨h, narrow_of_settings moves, sound, by simpa using moves, leaves⟩

/-- The run of some commands goes on from the history of the preparation. -/
theorem Records.run {h : History} {settings : List Setting} (start : h.Records settings [])
    (commands : List Command) :
    ∃ later : History, later.map Event.move = commands.map Move.call ∧
      Records (h ++ later) settings commands := by
  obtain ⟨later, sound, leaves, calls, -⟩ := start.sound.extend start.leaves (commands.map .call)
  refine ⟨later, calls, sound, ?_, ?_⟩
  · rw [List.map_append, start.moves, calls, List.map_nil, List.append_nil]
  · rwa [playAll, List.foldl_map] at leaves

end History

theorem fallback_after (commands : List Command) (s : Script) :
    (executor.after commands s).fallback = s.fallback := by
  induction commands generalizing s with
  | nil => rfl
  | cons c rest ih =>
    have kept : (step c s).2.fallback = s.fallback := by
      simp only [step]
      split <;> rfl
    exact (ih _).trans kept

/-- A call is answered as its command and the number of earlier calls with its text decide. -/
theorem step_after (settings : List Setting) (before : List Command) (c : Command) :
    (step c (executor.after before (prepared settings))).1 =
      (prepared settings).answerTo c (before.countP (·.display == c.display)) := by
  obtain ⟨h, narrow, start⟩ := History.exists_prepared settings
  obtain ⟨later, calls, record⟩ := start.run before
  obtain ⟨answerer, answered, -⟩ := record.leaves.called c
  have accepting : (prepared settings).rules.filter (·.pattern.accepts c.display) =
      (h.accepting c.display).map (·.1) := by
    have left : (prepared settings).rules = h.present.map (·.1) := start.leaves.rules
    rw [left, List.filter_map]
    rfl
  rw [answered.eq_head.2, ← record.leaves.fallback, fallback_after,
    History.accepting_append_calls narrow record.sound calls, History.head?_iterate_served,
    answerTo, accepting, List.takeWhile_map, List.length_map, List.getElem?_map]
  rfl

/-- The calls with one text and their answers, which are those of their ranks among themselves. -/
theorem exchanges_filter (settings : List Setting) (commands : List Command) (text : String) :
    (commands.zip (executor.answers commands (prepared settings))).filter (·.1.display == text) =
      (commands.filter (·.display == text)).zipIdx.map fun p =>
        (p.1, (prepared settings).answerTo p.1 p.2) := by
  induction commands using List.reverseRecOn with
  | nil => rfl
  | append_singleton commands c ih =>
    have answered : executor.answers [c] (executor.after commands (prepared settings)) =
        [(prepared settings).answerTo c (commands.countP (·.display == c.display))] :=
      congrArg (fun a => [a]) (step_after settings commands c)
    rw [Executor.answers_append, answered, List.zip_append (by simp), List.filter_append, ih,
      List.filter_append, List.zipIdx_append, List.map_append]
    congr 1
    by_cases same : c.display = text
    · simp [same, List.countP_eq_length_filter]
    · simp [same]

/-- The order of calls with different texts does not matter to a script that is prepared before the
run. Each call gets what its command and the number of earlier calls with its text decide. Where
two runs have the same calls with each text, in one order, each call is answered alike in both, and
the same rules are used up. -/
theorem answers_of_interleaving (settings : List Setting) :
    let s := prepared settings
    (∀ before c, (step c (executor.after before s)).1 =
      s.answerTo c (before.countP (·.display == c.display))) ∧
    ∀ first second : List Command,
      (∀ text, first.filter (·.display == text) = second.filter (·.display == text)) →
      (∀ text, (first.zip (executor.answers first s)).filter (·.1.display == text) =
        (second.zip (executor.answers second s)).filter (·.1.display == text)) ∧
      (executor.after first s).rules = (executor.after second s).rules ∧
      ∃ h h' : History, h.Records settings first ∧ h'.Records settings second ∧
        h.present = h'.present := by
  refine ⟨step_after settings, ?_⟩
  intro first second same
  obtain ⟨h, narrow, start⟩ := History.exists_prepared settings
  obtain ⟨later, calls, record⟩ := start.run first
  obtain ⟨later', calls', record'⟩ := start.run second
  have present := History.present_append_calls narrow record.sound record'.sound calls calls' same
  refine ⟨?_, ?_, _, _, record, record', present⟩
  · intro text
    rw [exchanges_filter, exchanges_filter, same text]
  · rw [record.leaves.rules, record'.leaves.rules, present]

end ExtensionBuild.Script
