import ExtensionBuild.Libraries.Query
import ExtensionBuild.Proofs.Execution
import ExtensionBuild.Proofs.SourcePath
import ExtensionBuild.Text.Slice

/-! The items of an answer about flags. They are the maximal runs without a blank, each without as
many characters as its row strips; nothing else of the answer is kept or lost. Where the characters
are stripped the text is cut at a byte, and that byte is the beginning of a character whatever the
text is. -/
namespace ExtensionBuild

namespace Text

/-- The maximal runs without a blank, in order. A run goes on to the next blank or to the end, and
what is in no run is blank. -/
inductive Runs : List Char → List (List Char) → Prop
  | nil : Runs [] []
  | blank {c s runs} (blank : isBlank c = true) (behind : Runs s runs) : Runs (c :: s) runs
  | run {run rest runs} (inhabited : run ≠ []) (solid : ∀ c ∈ run, isBlank c = false)
      (ends : ∀ c ∈ rest.head?, isBlank c = true) (behind : Runs rest runs) :
      Runs (run ++ rest) (run :: runs)

theorem words_append {run rest : List Char} (inhabited : run ≠ [])
    (solid : ∀ c ∈ run, isBlank c = false) (ends : ∀ c ∈ rest.head?, isBlank c = true) :
    words (run ++ rest) = run :: words rest := by
  have alone : pieces isBlank run = [run] := pieces_of_forall_not _ _ solid
  cases rest with
  | nil => simp [words, alone, pieces, inhabited]
  | cons c rest =>
    have blank : isBlank c = true := ends c rfl
    rw [words_blank_cons blank, words, pieces_append_cons _ _ _ blank, alone]
    simp [words, inhabited]

theorem Runs.words_eq {s : List Char} {runs : List (List Char)} (split : Runs s runs) :
    words s = runs := by
  induction split with
  | nil => rfl
  | blank blank _ ih => rw [words_blank_cons blank, ih]
  | run inhabited solid ends _ ih => rw [words_append inhabited solid ends, ih]

/-- A text that does not begin with a blank begins with a run. -/
theorem exists_run {c : Char} (ink : isBlank c = false) (rest : List Char) :
    ∃ run behind, c :: rest = run ++ behind ∧ run ≠ [] ∧ (∀ d ∈ run, isBlank d = false) ∧
      ∀ d ∈ behind.head?, isBlank d = true := by
  refine ⟨(c :: rest).takeWhile (! isBlank ·), (c :: rest).dropWhile (! isBlank ·),
    List.takeWhile_append_dropWhile.symm, ?_, ?_, ?_⟩
  · rw [List.takeWhile_cons_of_pos (by simp [ink])]
    exact List.cons_ne_nil _ _
  · intro d member
    simpa using List.mem_takeWhile_imp member
  · intro d head
    have stop := List.head?_dropWhile_not (! isBlank ·) (c :: rest)
    rw [show List.head? _ = some d from head] at stop
    simpa using stop

theorem runs_words (s : List Char) : Runs s (words s) := by
  induction size : s.length using Nat.strong_induction_on generalizing s with
  | h n ih =>
    subst size
    cases s with
    | nil => exact .nil
    | cons c rest =>
      cases blank : isBlank c with
      | true =>
        rw [words_blank_cons blank]
        exact .blank blank (ih rest.length (by simp) rest rfl)
      | false =>
        obtain ⟨run, behind, whole, inhabited, solid, ends⟩ := exists_run blank rest
        have shorter : behind.length < (c :: rest).length := by
          rw [whole, List.length_append]
          exact Nat.lt_add_of_pos_left (List.length_pos_of_ne_nil inhabited)
        rw [whole, words_append inhabited solid ends]
        exact .run inhabited solid ends (ih behind.length shorter behind rfl)

theorem runs_iff {s : List Char} {runs : List (List Char)} : Runs s runs ↔ runs = words s := by
  constructor
  · intro split
    exact split.words_eq.symm
  · rintro rfl
    exact runs_words s

theorem Runs.solid {s : List Char} {runs : List (List Char)} (split : Runs s runs) :
    ∀ run ∈ runs, run ≠ [] ∧ ∀ c ∈ run, isBlank c = false := by
  induction split with
  | nil => exact List.forall_mem_nil _
  | blank _ _ ih => exact ih
  | run inhabited solid _ _ ih => exact List.forall_mem_cons.mpr ⟨⟨inhabited, solid⟩, ih⟩

theorem Runs.flatten_eq {s : List Char} {runs : List (List Char)} (split : Runs s runs) :
    runs.flatten = s.filter (! isBlank ·) := by
  induction split with
  | nil => rfl
  | blank blank _ ih => rw [ih, List.filter_cons_of_neg (by simp [blank])]
  | @run run _ _ _ solid _ _ ih =>
    have kept : run.filter (! isBlank ·) = run :=
      List.filter_eq_self.mpr fun c member => by simp [solid c member]
    rw [List.flatten_cons, ih, List.filter_append, kept]

end Text

namespace PkgConfig

theorem read_ok_iff (p : PkgConfig) (q : Query) (library : String) (a : Answer)
    (items : List String) :
    p.read q library a = .ok items ↔
      ∃ o, a = .ok o ∧ o.succeeded = true ∧ items = q.items o.stdout := by
  constructor
  · intro ok
    cases a with
    | error e => cases ok
    | ok o =>
      dsimp only [read] at ok
      split at ok
      · rename_i succeeded
        exact ⟨o, rfl, succeeded, (Except.ok.inj ok).symm⟩
      · cases ok
  · rintro ⟨o, rfl, succeeded, rfl⟩
    exact if_pos succeeded

/-- A question about a library is answered with items exactly when its command succeeds, and then
with one item for each maximal run without a blank, in order: the run without the characters that
the row strips. So no item has a blank, and where nothing is stripped the items are all of the
answer but its blanks. Stripping cuts a text at the beginning of a character and always yields
what is left. -/
theorem query_tokenises (executor : Executor σ) (p : PkgConfig) (q : Query) (library : String)
    (j : Journal σ) :
    let answer := (executor.step (p.command q library) j.state).1
    let result := (p.query executor q library j).1
    (∀ items, result = .ok items ↔ ∃ o runs, answer = .ok o ∧ o.succeeded = true ∧
      Text.Runs o.stdout.toList runs ∧
      items = runs.map fun run => String.ofList (run.drop q.strip)) ∧
    (∀ items o, result = .ok items → answer = .ok o →
      (∀ item ∈ items, ∀ c ∈ item.toList, Text.isBlank c = false) ∧
      (q.strip = 0 → (∀ item ∈ items, item ≠ "") ∧
        String.join items = String.ofList (o.stdout.toList.filter (! Text.isBlank ·)))) ∧
    ∀ token n,
      (∀ byte c, (byte, c) ∈ Text.indexed 0 token.toList →
        (String.Pos.Raw.mk byte).IsValid token) ∧
      Text.withoutFirst? token n = some (String.ofList (token.toList.drop n)) := by
  intro answer result
  have exact_items (items : List String) : result = .ok items ↔ ∃ o runs, answer = .ok o ∧
      o.succeeded = true ∧ Text.Runs o.stdout.toList runs ∧
      items = runs.map fun run => String.ofList (run.drop q.strip) := by
    refine (read_ok_iff p q library answer items).trans (exists_congr fun o => ?_)
    simp only [Text.runs_iff, exists_and_left, exists_eq_left, Query.items_eq]
  refine ⟨exact_items, ?_, ?_⟩
  · intro items o asked answered
    obtain ⟨other, runs, same, -, split, rfl⟩ := (exact_items items).mp asked
    obtain rfl : other = o := Except.ok.inj (same.symm.trans answered)
    refine ⟨?_, ?_⟩
    · intro item member c inside
      obtain ⟨run, listed, rfl⟩ := List.mem_map.mp member
      rw [String.toList_ofList] at inside
      exact (split.solid run listed).2 c (List.mem_of_mem_drop inside)
    · intro bare
      simp only [bare, List.drop_zero]
      refine ⟨?_, ?_⟩
      · intro item member empty
        obtain ⟨run, listed, rfl⟩ := List.mem_map.mp member
        exact (split.solid run listed).1 (String.ofList_eq_empty_iff.mp empty)
      · rw [← split.flatten_eq]
        apply String.toList_injective
        simp [List.flatMap_def]
  · intro token n
    exact ⟨fun byte c => Text.isValid_of_mem_indexed, Text.withoutFirst?_eq token n⟩

end PkgConfig
end ExtensionBuild
