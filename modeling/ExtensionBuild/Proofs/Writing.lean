import ExtensionBuild.Proofs.Decoding
import ExtensionBuild.Proofs.SourcePath

/-! What writing a file does to a tree. Where it goes, and whether it is possible at all, does not
depend on what is written; the place is the one that the path leads to, before and afterwards, and
at every other place the tree stays as it was. -/
namespace ExtensionBuild

namespace Path

/-- A path that does not end in a slash ends in the segment behind its last one, with or without
the empty segments. -/
theorem segments_eq_append_tail {p : Path} (unclosed : p.tail ≠ []) :
    ∃ before, segments p.chars = before ++ [p.tail] ∧
      (segments p.chars).filter (! ·.isEmpty) = before.filter (! ·.isEmpty) ++ [p.tail] := by
  obtain ⟨before, parts, -⟩ := segments_append p.isFront_front p.slash_not_mem_tail
  rw [p.front_append_tail] at parts
  refine ⟨before, parts, ?_⟩
  rw [parts, List.filter_append, List.filter_cons_of_pos (by simpa using unclosed), List.filter_nil]

theorem tail_ne_nil {p : Path} (long : p.chars ≠ []) (unclosed : p.chars.getLast? ≠ some '/') :
    p.tail ≠ [] := by
  intro empty
  have whole := p.front_append_tail
  rw [empty, List.append_nil] at whole
  rcases p.isFront_front with none | ⟨before, closed⟩
  · exact long (whole.symm.trans none)
  · rw [← whole, closed, List.getLast?_concat] at unclosed
    exact unclosed rfl

end Path

namespace FileTree

variable {tree : FileTree} {here place : Place} {segments : List Segment}

/-- A step of a walk starts from a directory, and its segment alone says where the rest starts. -/
theorem walk_cons_ok {s : Segment} (walked : tree.walk here (s :: segments) = .ok place) :
    tree.entryAt here = some .directory ∧ ∃ next, tree.walk next segments = .ok place ∧
      ∀ (other : FileTree) (rest : List Segment), other.entryAt here = some .directory →
        other.walk here (s :: rest) = other.walk next rest := by
  rw [walk] at walked
  split at walked
  · cases walked
  · cases walked
  rename_i standing
  refine ⟨standing, ?_⟩
  split at walked
  · rename_i filler
    refine ⟨here, walked, fun other rest same => ?_⟩
    rw [walk, same]
    exact if_pos filler
  rename_i named
  split at walked
  · rename_i up
    refine ⟨here.dropLast, walked, fun other rest same => ?_⟩
    rw [walk, same]
    exact (if_neg named).trans (if_pos up)
  rename_i down
  split at walked
  · cases walked
  rename_i short
  refine ⟨here ++ [s], walked, fun other rest same => ?_⟩
  rw [walk, same]
  exact (if_neg named).trans ((if_neg down).trans (if_neg short))

/-- A walk passes through directories only, so an entry that is none can be set without changing
where it leads. -/
theorem walk_set {target : Place} (solid : tree.entryAt target ≠ some .directory) (e : Entry)
    (walked : tree.walk here segments = .ok place) :
    (tree.set target e).walk here segments = .ok place := by
  -- The walk may end at the target but never stands on it, since it goes on from directories only.
  induction segments generalizing here with
  | nil => exact walked
  | cons s rest ih =>
    obtain ⟨standing, next, later, step⟩ := walk_cons_ok walked
    have other : here ≠ target := by
      rintro rfl
      exact solid standing
    rw [step _ rest ((tree.entryAt_set_of_ne e other).trans standing)]
    exact ih later

theorem walk_append {middle : Place} {first second : List Segment}
    (walked : tree.walk here first = .ok middle) :
    tree.walk here (first ++ second) = tree.walk middle second := by
  induction first generalizing here with
  | nil => rw [List.nil_append, Except.ok.inj walked]
  | cons s rest ih =>
    obtain ⟨standing, next, later, step⟩ := walk_cons_ok walked
    rw [List.cons_append, step tree _ standing, ih later]

theorem entryAt_start (walked : tree.walk here segments = .ok place)
    (standing : tree.entryAt place = some .directory) : tree.entryAt here = some .directory := by
  cases segments with
  | nil => rwa [Except.ok.inj walked]
  | cons s rest => exact (walk_cons_ok walked).1

/-- Empty segments change nothing on the way to a directory. -/
theorem walk_of_filter (walked : tree.walk here (segments.filter (! ·.isEmpty)) = .ok place)
    (standing : tree.entryAt place = some .directory) :
    tree.walk here segments = .ok place := by
  induction segments generalizing here with
  | nil => exact walked
  | cons s rest ih =>
    cases s with
    | nil =>
      rw [List.filter_cons_of_neg (by simp)] at walked
      rw [walk, entryAt_start walked standing]
      exact ih walked
    | cons c name =>
      rw [List.filter_cons_of_pos (by simp)] at walked
      obtain ⟨start, next, later, step⟩ := walk_cons_ok walked
      rw [step tree rest start]
      exact ih later

theorem chars_ne_nil_of_textFault {p : Path} (sound : textFault p = none) : p.chars ≠ [] := by
  intro empty
  rw [textFault, empty] at sound
  cases sound

theorem walk_last {parent : Place} {last : Segment} (standing : tree.entryAt parent = some .directory)
    (named : Path.isFiller last = false) (proper : last ≠ ['.', '.'])
    (short : ¬ longestName < (String.ofList last).utf8ByteSize) :
    tree.walk parent [last] = .ok (parent ++ [last]) := by
  rw [walk, standing]
  simp [named, proper, short, walk]

/-- Where a path leads when what stands behind its last slash is a name in an existing directory. -/
theorem place_eq {cwd p : Path} {parent : Place} {last : Segment} (sound : textFault p = none)
    (walked : tree.walk (if p.isAbsolute then [] else placeOf cwd)
      ((Path.segments p.chars).filter (! ·.isEmpty)).dropLast = .ok parent)
    (standing : tree.entryAt parent = some .directory)
    (ends : ((Path.segments p.chars).filter (! ·.isEmpty)).getLast? = some last)
    (unclosed : p.chars.getLast? ≠ some '/') (named : Path.isFiller last = false)
    (proper : last ≠ ['.', '.']) (short : ¬ longestName < (String.ofList last).utf8ByteSize) :
    tree.place cwd p = .ok (parent ++ [last]) := by
  obtain ⟨before, parts, filtered⟩ := Path.segments_eq_append_tail
    (Path.tail_ne_nil (chars_ne_nil_of_textFault sound) unclosed)
  rw [filtered, List.getLast?_concat] at ends
  rw [filtered, List.dropLast_concat] at walked
  rw [place, sound]
  dsimp only
  rw [parts, Option.some.inj ends, walk_append (walk_of_filter walked standing)]
  exact walk_last standing named proper short

/-- Where a file can be written, any content can: the path leads to a place that is no directory,
and the entry there becomes a file with that content. -/
theorem write_ok {tree after : FileTree} {cwd p : Path} {content : List UInt8}
    (ok : tree.write cwd p content = .ok after) :
    ∃ place executable, tree.place cwd p = .ok place ∧
      tree.entryAt place ≠ some .directory ∧
      ∀ other, tree.write cwd p other = .ok (tree.set place (.file other executable)) := by
  unfold write at ok
  split at ok
  · cases ok
  rename_i sound
  obtain ⟨parent, walked, ok⟩ := Schema.bind_ok ok
  split at ok
  · cases ok
  · cases ok
  · cases ok
  rename_i last standing ends
  split at ok
  · cases ok
  rename_i plain
  split at ok
  · cases ok
  rename_i short
  have decided : (p.chars.getLast? ≠ some '/' ∧ Path.isFiller last = false) ∧
      last ≠ ['.', '.'] := by simpa using plain
  obtain ⟨⟨unclosed, named⟩, proper⟩ := decided
  have leads := place_eq sound walked standing ends unclosed named proper short
  cases target : tree.entryAt (parent ++ [last]) with
  | none =>
    refine ⟨_, false, leads, by simp [target], fun other => ?_⟩
    simp [write, sound, walked, standing, ends, unclosed, named, proper, short, target, bind,
      Except.bind]
  | some entry =>
    cases entry with
    | directory =>
      rw [target] at ok
      cases ok
    | file old executable =>
      refine ⟨_, executable, leads, by simp [target], fun other => ?_⟩
      simp [write, sound, walked, standing, ends, unclosed, named, proper, short, target, bind,
        Except.bind]

/-- After a write, the path leads to what was written. -/
theorem lookup_set {cwd p : Path} {e : Entry} (leads : tree.place cwd p = .ok place)
    (solid : tree.entryAt place ≠ some .directory) :
    (tree.set place e).lookup cwd p = .ok e := by
  have again : (tree.set place e).place cwd p = .ok place := by
    unfold FileTree.place at leads ⊢
    split at leads
    · cases leads
    · exact walk_set solid e leads
  simp [lookup, again, bind, Except.bind, entryAt_set_self]

end FileTree
end ExtensionBuild
