import ExtensionBuild.Script
import Mathlib.Data.List.Induction

/-! The history of a script. Rules are added, a fallback is set and commands are run in any order,
and the history keeps all of it, with the rule that answered each call. Nothing in it is ever taken
away; the rules of the script are those of its history, without the ones for a single call that have
answered one. -/
namespace ExtensionBuild.Script

inductive Move
  | add (rule : Rule)
  | preset (o : Output)
  | call (c : Command)

def play (s : Script) : Move → Script
  | .add rule => s.add rule
  | .preset o => s.setFallback o
  | .call c => (step c s).2

/-- The answer to a call from the rule that gives it, or without one from the fallback. -/
def answerBy (fallback : Option Output) (c : Command) : Option Rule → Answer
  | some rule => answer c rule.reply
  | none =>
    match fallback with
    | some o => .ok o
    | none => .error (.unexpected c.display)

/-- The answer that a move gets, if it is a call. -/
def answer? (s : Script) : Move → Option Answer
  | .call c => some (step c s).1
  | _ => none

def playAll (s : Script) (moves : List Move) : Script := moves.foldl play s

/-- The answers to the calls among the moves. -/
def answers (s : Script) : List Move → List Answer
  | [] => []
  | m :: rest => (s.answer? m).toList ++ answers (s.play m) rest

/-- What happened: a call goes with its answer and the rule that gave it, named by its place in the
order of addition. -/
inductive Event
  | added (rule : Rule)
  | preset (o : Output)
  | called (c : Command) (answerer : Option Nat) (answer : Answer)

namespace Event

def move : Event → Move
  | added rule => .add rule
  | preset o => .preset o
  | called c _ _ => .call c

def rule? : Event → Option Rule
  | added rule => some rule
  | _ => none

def fallback? : Event → Option Output
  | preset o => some o
  | _ => none

def command? : Event → Option Command
  | called c _ _ => some c
  | _ => none

def answerer? : Event → Option (Option Nat)
  | called _ answerer _ => some answerer
  | _ => none

def answer? : Event → Option Answer
  | called _ _ answer => some answer
  | _ => none

end Event

abbrev History := List Event

namespace History

def rules (h : History) : List Rule := h.filterMap Event.rule?

def fallbacks (h : History) : List Output := h.filterMap Event.fallback?

def commands (h : History) : List Command := h.filterMap Event.command?

def answerers (h : History) : List (Option Nat) := h.filterMap Event.answerer?

def answers (h : History) : List Answer := h.filterMap Event.answer?

/-- The rules that were ever added, each with its place, without those for a single call that have
answered one. -/
def present (h : History) : List (Rule × Nat) :=
  h.rules.zipIdx.filter fun p => ! (p.1.once && h.answerers.contains (some p.2))

/-- The rules that are left when the one at this place has answered. -/
def spared (answerer : Option Nat) (ps : List (Rule × Nat)) : List (Rule × Nat) :=
  ps.filter fun p => ! (p.1.once && answerer == some p.2)

/-- The rules present that accept a command, in the order of addition. -/
def accepting (h : History) (command : String) : List (Rule × Nat) :=
  h.present.filter (·.1.pattern.accepts command)

/-- Who answers a call that comes next, and how: of the rules present that accept it the one that
was added first, else the fallback that was set last, else nobody. -/
inductive Answered (h : History) (c : Command) : Option Nat → Answer → Prop
  | rule {rule : Rule} {i : Nat} (accepts : (rule, i) ∈ h.accepting c.display)
      (first : ∀ other ∈ h.accepting c.display, i ≤ other.2) :
      Answered h c (some i) (answer c rule.reply)
  | fallback {o : Output} (unmatched : h.accepting c.display = [])
      (last : h.fallbacks.getLast? = some o) : Answered h c none (.ok o)
  | unexpected (unmatched : h.accepting c.display = []) (unset : h.fallbacks = []) :
      Answered h c none (.error (.unexpected c.display))

/-- Every call was answered as what had happened before it demands. -/
inductive Sound : History → Prop
  | start : Sound []
  | added {h : History} (sound : Sound h) (rule : Rule) : Sound (h ++ [.added rule])
  | preset {h : History} (sound : Sound h) (o : Output) : Sound (h ++ [.preset o])
  | called {h : History} (sound : Sound h) {c : Command} {answerer : Option Nat} {a : Answer}
      (answered : h.Answered c answerer a) : Sound (h ++ [.called c answerer a])

/-- The script is what the history leaves of it. -/
structure Leaves (h : History) (s : Script) : Prop where
  rules : s.rules = h.present.map (·.1)
  fallback : s.fallback = h.fallbacks.getLast?
  calls : s.calls = h.commands.map Command.display

theorem spared_none (ps : List (Rule × Nat)) : spared none ps = ps :=
  List.filter_eq_self.mpr (by simp)

theorem spared_of_lt {i : Nat} {ps : List (Rule × Nat)} (later : ∀ p ∈ ps, i < p.2) :
    spared (some i) ps = ps := by
  rw [spared, List.filter_eq_self]
  intro p member
  simp [Nat.ne_of_lt (later p member)]

section

variable (h : History)

@[simp] theorem rules_concat (e : Event) : rules (h ++ [e]) = h.rules ++ e.rule?.toList := by
  cases e <;> simp [rules, Event.rule?]

@[simp] theorem fallbacks_concat (e : Event) :
    fallbacks (h ++ [e]) = h.fallbacks ++ e.fallback?.toList := by
  cases e <;> simp [fallbacks, Event.fallback?]

@[simp] theorem commands_concat (e : Event) :
    commands (h ++ [e]) = h.commands ++ e.command?.toList := by
  cases e <;> simp [commands, Event.command?]

@[simp] theorem answerers_concat (e : Event) :
    answerers (h ++ [e]) = h.answerers ++ e.answerer?.toList := by
  cases e <;> simp [answerers, Event.answerer?]

theorem mem_present {rule : Rule} {i : Nat} :
    (rule, i) ∈ h.present ↔
      h.rules[i]? = some rule ∧ ¬ (rule.once = true ∧ some i ∈ h.answerers) := by
  rw [present, List.mem_filter, List.mem_zipIdx_iff_getElem?]
  cases rule.once <;> simp

theorem mem_accepting {rule : Rule} {i : Nat} {text : String} :
    (rule, i) ∈ h.accepting text ↔
      (h.rules[i]? = some rule ∧ ¬ (rule.once = true ∧ some i ∈ h.answerers)) ∧
        rule.pattern.accepts text = true := by
  rw [accepting, List.mem_filter, mem_present]

theorem pairwise_present : h.present.Pairwise (·.2 < ·.2) := by
  refine List.Pairwise.filter _ (List.pairwise_map.mp ?_)
  rw [List.zipIdx_map_snd]
  exact List.pairwise_lt_range'

theorem pairwise_accepting (command : String) : (h.accepting command).Pairwise (·.2 < ·.2) :=
  h.pairwise_present.filter _

theorem present_preset (o : Output) : present (h ++ [.preset o]) = h.present := by
  simp [present, Event.rule?, Event.answerer?]

theorem present_called (c : Command) (answerer : Option Nat) (a : Answer) :
    present (h ++ [.called c answerer a]) = spared answerer h.present := by
  simp only [present, spared, rules_concat, answerers_concat, Event.rule?, Event.answerer?,
    Option.toList_none, Option.toList_some, List.append_nil, List.filter_filter]
  congr 1
  funext p
  have last : [answerer].contains (some p.2) = (answerer == some p.2) := by
    rw [List.contains_cons, List.contains_nil, Bool.or_false, Bool.beq_comm]
  rw [List.contains_append, last]
  cases p.1.once <;> simp [Bool.and_comm]

end

section

variable {h : History}

/-- Only a rule that was added before has answered. -/
theorem Sound.lt_of_mem (sound : Sound h) {i : Nat} (answered : some i ∈ h.answerers) :
    i < h.rules.length := by
  induction sound with
  | start => cases answered
  | added sound rule ih =>
    have earlier := ih (by simpa [Event.answerer?] using answered)
    simp only [rules_concat, List.length_append]
    omega
  | preset sound o ih =>
    simpa [Event.rule?] using ih (by simpa [Event.answerer?] using answered)
  | @called h sound c answerer a reply ih =>
    have places : some i ∈ h.answerers ∨ some i = answerer := by
      simpa [Event.answerer?] using answered
    have before : i < h.rules.length := by
      rcases places with earlier | now
      · exact ih earlier
      · subst now
        cases reply with
        | @rule rule i accepts first =>
          obtain ⟨⟨added, -⟩, -⟩ := h.mem_accepting.mp accepts
          exact (List.getElem?_eq_some_iff.mp added).1
    simpa [Event.rule?] using before

theorem Sound.present_added (sound : Sound h) (rule : Rule) :
    present (h ++ [.added rule]) = h.present ++ [(rule, h.rules.length)] := by
  have unused : some h.rules.length ∉ h.answerers :=
    fun answered => absurd (sound.lt_of_mem answered) (Nat.lt_irrefl _)
  simp [present, Event.rule?, Event.answerer?, List.zipIdx_append, unused]

theorem pick_map (command : String) {ps : List (Rule × Nat)} (ordered : ps.Pairwise (·.2 < ·.2)) :
    pick command (ps.map (·.1)) = (ps.filter (·.1.pattern.accepts command)).head?.map fun p =>
      (p.1, (spared (some p.2) ps).map (·.1)) := by
  induction ps with
  | nil => rfl
  | cons p rest ih =>
    obtain ⟨before, ordered⟩ := List.pairwise_cons.mp ordered
    rw [List.map_cons, pick]
    by_cases accepts : p.1.pattern.accepts command = true
    · rw [if_pos accepts, List.filter_cons, if_pos accepts, List.head?_cons, Option.map_some,
        spared, List.filter_cons, ← spared, spared_of_lt before]
      cases p.1.once <;> simp
    · rw [if_neg accepts, List.filter_cons, if_neg accepts, ih ordered, Option.map_map]
      cases found : (rest.filter (·.1.pattern.accepts command)).head? with
      | none => rfl
      | some q =>
        have member := (List.mem_filter.mp (List.mem_of_head? found)).1
        have apart := before q member
        simp [spared, Nat.ne_of_gt apart]

theorem Leaves.start : Leaves [] .empty := ⟨rfl, rfl, rfl⟩

theorem Leaves.added (sound : Sound h) {s : Script} (leaves : Leaves h s) (rule : Rule) :
    Leaves (h ++ [.added rule]) (s.add rule) where
  rules := by simp [sound.present_added, add, leaves.rules]
  fallback := by simp [Event.fallback?, add, leaves.fallback]
  calls := by simp [Event.command?, add, leaves.calls]

theorem Leaves.preset {s : Script} (leaves : Leaves h s) (o : Output) :
    Leaves (h ++ [.preset o]) (s.setFallback o) where
  rules := by simp [present_preset, setFallback, leaves.rules]
  fallback := by simp [Event.fallback?, setFallback]
  calls := by simp [Event.command?, setFallback, leaves.calls]

/-- A script answers a call as its history demands. -/
theorem Leaves.called {s : Script} (leaves : Leaves h s) (c : Command) :
    ∃ answerer, h.Answered c answerer (step c s).1 ∧
      Leaves (h ++ [.called c answerer (step c s).1]) (step c s).2 := by
  have picked : pick c.display s.rules = (h.accepting c.display).head?.map fun p =>
      (p.1, (spared (some p.2) h.present).map (·.1)) := by
    rw [leaves.rules]
    exact pick_map c.display h.pairwise_present
  have frame (answerer : Option Nat) (a : Answer) :
      s.fallback = (fallbacks (h ++ [.called c answerer a])).getLast? ∧
        s.calls ++ [c.display] = (commands (h ++ [.called c answerer a])).map Command.display := by
    simp [Event.fallback?, Event.command?, leaves.fallback, leaves.calls]
  cases candidates : h.accepting c.display with
  | nil =>
    rw [candidates, List.head?_nil, Option.map_none] at picked
    have kept (a : Answer) : s.rules = (present (h ++ [.called c none a])).map (·.1) := by
      rw [present_called, spared_none, leaves.rules]
    have known := leaves.fallback
    cases preset : s.fallback with
    | none =>
      have stepped : step c s = (.error (.unexpected c.display),
          { s with calls := s.calls ++ [c.display] }) := by
        simp [step, picked, preset]
      rw [preset] at known
      have unset : h.fallbacks = [] := List.getLast?_eq_none_iff.mp known.symm
      rw [stepped]
      exact ⟨none, .unexpected candidates unset, kept _, (frame ..).1, (frame ..).2⟩
    | some o =>
      have stepped : step c s = (.ok o, { s with calls := s.calls ++ [c.display] }) := by
        simp [step, picked, preset]
      rw [preset] at known
      rw [stepped]
      exact ⟨none, .fallback candidates known.symm, kept _, (frame ..).1, (frame ..).2⟩
  | cons p others =>
    have ordered := h.pairwise_accepting c.display
    rw [candidates, List.head?_cons, Option.map_some] at picked
    rw [candidates] at ordered
    have stepped : step c s = (answer c p.1.reply, { s with
        rules := (spared (some p.2) h.present).map (·.1)
        calls := s.calls ++ [c.display] }) := by
      simp [step, picked]
    have accepts : (p.1, p.2) ∈ h.accepting c.display := by simp [candidates]
    have first : ∀ other ∈ h.accepting c.display, p.2 ≤ other.2 := by
      rw [candidates, List.forall_mem_cons]
      exact ⟨Nat.le_refl _, fun other member =>
        Nat.le_of_lt ((List.pairwise_cons.mp ordered).1 other member)⟩
    rw [stepped]
    exact ⟨some p.2, .rule accepts first, by rw [present_called], (frame ..).1, (frame ..).2⟩

end

section

variable {h : History} {c : Command} {answerer : Option Nat} {a : Answer}

theorem accepting_eq_cons {p : Rule × Nat} {text : String} (accepts : p ∈ h.accepting text)
    (first : ∀ other ∈ h.accepting text, p.2 ≤ other.2) :
    ∃ others, h.accepting text = p :: others ∧ ∀ other ∈ others, p.2 < other.2 := by
  have ordered := h.pairwise_accepting text
  cases candidates : h.accepting text with
  | nil =>
    rw [candidates] at accepts
    cases accepts
  | cons q others =>
    rw [candidates] at accepts first ordered
    have apart := (List.pairwise_cons.mp ordered).1
    rcases List.mem_cons.mp accepts with rfl | later
    · exact ⟨others, rfl, apart⟩
    · exact absurd (apart p later) (Nat.not_lt.mpr (first q List.mem_cons_self))

theorem Answered.eq_head (answered : h.Answered c answerer a) :
    answerer = (h.accepting c.display).head?.map (·.2) ∧
      a = answerBy h.fallbacks.getLast? c ((h.accepting c.display).head?.map (·.1)) := by
  cases answered with
  | rule accepts first =>
    obtain ⟨others, candidates, -⟩ := accepting_eq_cons accepts first
    simp [candidates, answerBy]
  | fallback unmatched last => simp [unmatched, last, answerBy]
  | unexpected unmatched unset => simp [unmatched, unset, answerBy]

theorem Answered.unique (answered : h.Answered c answerer a) {answerer' : Option Nat} {a' : Answer}
    (answered' : h.Answered c answerer' a') : answerer = answerer' ∧ a = a' :=
  ⟨answered.eq_head.1.trans answered'.eq_head.1.symm,
    answered.eq_head.2.trans answered'.eq_head.2.symm⟩

theorem Sound.of_concat {e : Event} (sound : Sound (h ++ [e])) :
    Sound h ∧ ∀ c answerer a, e = .called c answerer a → h.Answered c answerer a := by
  generalize whole : h ++ [e] = g at sound
  cases sound with
  | start => simp at whole
  | added sound rule =>
    obtain ⟨rfl, last⟩ := List.append_inj' whole rfl
    cases last
    exact ⟨sound, nofun⟩
  | preset sound o =>
    obtain ⟨rfl, last⟩ := List.append_inj' whole rfl
    cases last
    exact ⟨sound, nofun⟩
  | called sound answered =>
    obtain ⟨rfl, last⟩ := List.append_inj' whole rfl
    cases last
    refine ⟨sound, ?_⟩
    rintro _ _ _ ⟨⟩
    exact answered

theorem exists_concat {moves : List Move} {m : Move} (same : h.map Event.move = moves ++ [m]) :
    ∃ (before : History) (e : Event), h = before ++ [e] ∧ before.map Event.move = moves ∧
      e.move = m := by
  obtain ⟨before, last, rfl, earlier, single⟩ := List.map_eq_append_iff.mp same
  obtain ⟨e, rfl, now⟩ := List.map_eq_singleton_iff.mp single
  exact ⟨before, e, rfl, earlier, now⟩

/-- The moves alone decide the history. -/
theorem Sound.unique {other : History} (sound : h.Sound) (sound' : other.Sound)
    (same : h.map Event.move = other.map Event.move) : h = other := by
  induction h using List.reverseRecOn generalizing other with
  | nil => exact (List.map_eq_nil_iff.mp same.symm).symm
  | append_singleton h e ih =>
    rw [List.map_append] at same
    obtain ⟨before, e', rfl, same, now⟩ := exists_concat same.symm
    obtain ⟨sound, reply⟩ := sound.of_concat
    obtain ⟨sound', reply'⟩ := sound'.of_concat
    obtain rfl := ih sound sound' same.symm
    cases e <;> cases e' <;> cases now
    · rfl
    · rfl
    · obtain ⟨rfl, rfl⟩ := (reply _ _ _ rfl).unique (reply' _ _ _ rfl)
      rfl

end

/-- The history of the moves that come next, from a script with a history. -/
theorem Sound.extend {h : History} (sound : Sound h) {s : Script} (leaves : Leaves h s)
    (moves : List Move) :
    ∃ later : History, Sound (h ++ later) ∧ Leaves (h ++ later) (s.playAll moves) ∧
      later.map Event.move = moves ∧ later.answers = s.answers moves := by
  induction moves generalizing h s with
  | nil =>
    refine ⟨[], ?_, ?_, rfl, rfl⟩
    · rwa [List.append_nil]
    · rwa [List.append_nil]
  | cons m moves ih =>
    have next : ∃ e : Event, Sound (h ++ [e]) ∧ Leaves (h ++ [e]) (s.play m) ∧
        e.move = m ∧ e.answer? = s.answer? m := by
      cases m with
      | add rule => exact ⟨_, sound.added rule, leaves.added sound rule, rfl, rfl⟩
      | preset o => exact ⟨_, sound.preset o, leaves.preset o, rfl, rfl⟩
      | call c =>
        obtain ⟨answerer, answered, left⟩ := leaves.called c
        exact ⟨_, sound.called answered, left, rfl, rfl⟩
    obtain ⟨e, sound, leaves, same, answer⟩ := next
    obtain ⟨later, sound, leaves, moved, answers⟩ := ih sound leaves
    rw [List.append_assoc, List.singleton_append] at sound leaves
    refine ⟨e :: later, sound, leaves, by rw [List.map_cons, same, moved], ?_⟩
    rw [Script.answers, ← answer, ← answers]
    cases e <;> rfl

end History

end ExtensionBuild.Script
