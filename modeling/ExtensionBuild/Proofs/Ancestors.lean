import ExtensionBuild.Proofs.SourcePath

/-! Going up from a path. The parent has one component less, the last one, whatever slashes and dots
stand between the segments. So the paths above a path are as many as its components, with the empty
path on top of a relative one, and going up comes to an end. -/
namespace ExtensionBuild

namespace Text

variable {α : Type}

/-- Cutting undoes joining for pieces that do not hold the separator. -/
theorem pieces_joined [BEq α] [LawfulBEq α] (separator : α) {parts : List (List α)}
    (some : parts ≠ []) (uncut : ∀ piece ∈ parts, separator ∉ piece) :
    pieces (· == separator) (joined [separator] parts) = parts := by
  have whole {piece : List α} (member : piece ∈ parts) :
      pieces (· == separator) piece = [piece] := by
    apply pieces_of_forall_not
    intro c inside
    exact beq_eq_false_iff_ne.mpr fun same => uncut piece member (same ▸ inside)
  induction parts with
  | nil => exact absurd rfl some
  | cons piece others ih =>
    cases others with
    | nil => exact whole List.mem_cons_self
    | cons next more =>
      have rest := ih (List.cons_ne_nil _ _)
        (fun part member => uncut part (List.mem_cons_of_mem _ member))
        (fun member => whole (List.mem_cons_of_mem _ member))
      rw [joined, List.append_assoc, List.singleton_append,
        pieces_append_cons (· == separator) _ _ (beq_self_eq_true separator),
        whole List.mem_cons_self, rest]
      · rfl
      · exact List.cons_ne_nil _ _

theorem joined_append (separator : α) {first second : List (List α)} (some : first ≠ [])
    (more : second ≠ []) :
    joined [separator] (first ++ second) =
      joined [separator] first ++ separator :: joined [separator] second := by
  induction first with
  | nil => exact absurd rfl some
  | cons piece others ih =>
    cases others with
    | nil =>
      cases second with
      | nil => exact absurd rfl more
      | cons next rest => simp [joined]
    | cons next rest => simpa [joined] using ih (List.cons_ne_nil _ _)

end Text

namespace Path

/-- What a lead stands for among the components. -/
def leading : List Char → List Component
  | ['/'] => [.root]
  | ['.'] => [.here]
  | _ => []

def Component.ofSegment (s : Segment) : Component := if s == ['.', '.'] then .up else .name s

theorem filter_dropWhile_isFiller (parts : List Segment) :
    (parts.dropWhile isFiller).filter (! isFiller ·) = parts.filter (! isFiller ·) := by
  induction parts with
  | nil => rfl
  | cons s rest ih =>
    cases filler : isFiller s with
    | true => rw [List.dropWhile_cons_of_pos filler, ih, List.filter_cons_of_neg (by simp [filler])]
    | false => rw [List.dropWhile_cons_of_neg (by simp [filler])]

theorem components_eq (p : Path) :
    p.components = leading (lead p.chars) ++
      ((backwards p).filter (! isFiller ·)).reverse.map Component.ofSegment := by
  rw [backwards, filter_dropWhile_isFiller, List.filter_reverse, List.reverse_reverse]
  rfl

/-- The first two characters of a text tell its lead. -/
theorem lead_cons (c : Char) (rest : List Char) :
    lead (c :: rest) =
      if c = '/' then ['/']
      else if c = '.' ∧ (rest.head? = none ∨ rest.head? = some '/') then ['.'] else [] := by
  by_cases root : c = '/'
  · rw [if_pos root, root, lead]
  · cases rest with
    | nil => by_cases dot : c = '.' <;> simp [lead, root, dot]
    | cons d more =>
      by_cases dot : c = '.'
      · by_cases next : d = '/' <;> simp [lead, dot, next]
      · simp [lead, root, dot]

theorem isAbsolute_eq (p : Path) : p.isAbsolute = (lead p.chars == ['/']) := by
  rw [isAbsolute]
  cases p.chars with
  | nil => rfl
  | cons c rest =>
    rw [lead_cons]
    by_cases root : c = '/'
    · simp [root]
    · rw [if_neg root]
      split <;> simp [root]

/-- A slash behind a text does not change what its lead is. -/
theorem lead_append_slash {s : List Char} (long : s ≠ []) (rest : List Char) :
    lead (s ++ '/' :: rest) = lead s := by
  cases s with
  | nil => exact absurd rfl long
  | cons c more =>
    rw [List.cons_append, lead_cons, lead_cons]
    cases more <;> simp

theorem lead_append_body (s : List Char) : lead s ++ body s = s := by
  unfold lead body
  split <;> simp_all [lead]

/-- A text that ends before one of its segments keeps the lead. It is that lead alone, or it goes on
with a slash. -/
theorem lead_front {s : List Char} {parts others : List Segment}
    (whole : segments (body s) = parts ++ others) (more : others ≠ [])
    (ends : ∀ last ∈ parts.getLast?, last ≠ []) :
    lead (lead s ++ ofSegments parts) = lead s := by
  rcases List.eq_nil_or_concat' parts with rfl | ⟨start, last, rfl⟩
  · rw [ofSegments, Text.joined, List.append_nil]
    rcases lead_eq s with lead | lead | lead <;> rw [lead] <;> rfl
  · have inside : s = (lead s ++ ofSegments (start ++ [last])) ++ '/' :: ofSegments others := by
      calc
        s = lead s ++ ofSegments (segments (body s)) := by
          rw [ofSegments, segments, Text.joined_pieces, lead_append_body]
        _ = lead s ++ (ofSegments (start ++ [last]) ++ '/' :: ofSegments others) := by
          rw [whole, ofSegments, Text.joined_append '/' (by simp) more]
          rfl
        _ = _ := (List.append_assoc ..).symm
    have long : lead s ++ ofSegments (start ++ [last]) ≠ [] := by
      rw [ofSegments, Text.joined_concat]
      simp [ends last (by simp)]
    exact ((congrArg lead inside).trans (lead_append_slash long _)).symm

/-- The parent of a path that names something has the lead of the path, and behind it all segments
but the last. -/
theorem backwards_parent {p : Path} {last : Segment} {before : List Segment}
    (walked : backwards p = last :: before) :
    let q : Path := ⟨lead p.chars ++ ofSegments (before.dropWhile isFiller).reverse⟩
    lead q.chars = lead p.chars ∧ backwards q = before.dropWhile isFiller := by
  intro q
  obtain ⟨fillers, whole⟩ : backwards p <:+ (segments (body p.chars)).reverse :=
    List.dropWhile_suffix _
  have parts : segments (body p.chars) = (before.dropWhile isFiller).reverse ++
      ((before.takeWhile isFiller).reverse ++ last :: fillers.reverse) := by
    rw [← List.reverse_inj, ← whole, walked]
    simp
  have again : (before.dropWhile isFiller).dropWhile isFiller = before.dropWhile isFiller :=
    List.dropWhile_idempotent _ _
  have named := List.head?_dropWhile_not isFiller before
  have same : lead q.chars = lead p.chars := by
    apply lead_front parts (by simp)
    rw [List.getLast?_reverse]
    rintro first member rfl
    rw [member] at named
    cases named
  have uncut : ∀ s ∈ (before.dropWhile isFiller).reverse, '/' ∉ s := by
    intro s member
    apply slash_not_mem_of_mem_segments (s := body p.chars)
    rw [parts]
    exact List.mem_append_left _ member
  refine ⟨same, ?_⟩
  rw [backwards, body, same, List.drop_left]
  cases kept : before.dropWhile isFiller with
  | nil => rfl
  | cons first rest =>
    rw [kept] at again uncut
    rw [segments, ofSegments, Text.pieces_joined '/' (by simp) uncut, List.reverse_reverse, again]

/-- The two ways to go up: from a lone dot to the empty path, and from a segment to those in front
of it. -/
theorem parent_cases {p q : Path} (up : p.parent = some q) :
    (lead p.chars = ['.'] ∧ backwards p = [] ∧ q = ⟨[]⟩) ∨
      ∃ last before, backwards p = last :: before ∧ lead q.chars = lead p.chars ∧
        backwards q = before.dropWhile isFiller := by
  rw [parent] at up
  cases walked : backwards p with
  | nil =>
    rw [walked] at up
    dsimp only at up
    split at up
    · rename_i dot
      exact .inl ⟨beq_iff_eq.mp dot, rfl, (Option.some.inj up).symm⟩
    · cases up
  | cons last before =>
    rw [walked] at up
    rw [← Option.some.inj up]
    exact .inr ⟨last, before, rfl, backwards_parent walked⟩

/-- Going up drops the last component and nothing else. -/
theorem components_parent {p q : Path} (up : p.parent = some q) :
    ∃ c, p.components = q.components ++ [c] := by
  obtain ⟨dot, walked, rfl⟩ | ⟨last, before, walked, same, above⟩ := parent_cases up
  · refine ⟨.here, ?_⟩
    rw [components_eq p, dot, walked]
    rfl
  · refine ⟨.ofSegment last, ?_⟩
    rw [components_eq p, components_eq q, same, above, walked, filter_dropWhile_isFiller,
      List.filter_cons_of_pos (by simp [isFiller_of_backwards walked]), List.reverse_cons,
      List.map_append, List.append_assoc]
    rfl

theorem isAbsolute_of_parent {p q : Path} (up : p.parent = some q) :
    q.isAbsolute = p.isAbsolute := by
  rw [isAbsolute_eq, isAbsolute_eq]
  obtain ⟨dot, -, rfl⟩ | ⟨last, before, -, same, -⟩ := parent_cases up
  · rw [dot]
    rfl
  · rw [same]

/-- How many paths there are upward from a path, itself among them. Above a relative path comes, last
of all, the empty one. -/
def height (p : Path) : Nat := p.components.length + if p.isAbsolute then 0 else 1

theorem height_of_parent {p q : Path} (up : p.parent = some q) : p.height = q.height + 1 := by
  obtain ⟨c, more⟩ := components_parent up
  rw [height, height, more, isAbsolute_of_parent up, List.length_append, List.length_singleton]
  omega

theorem height_of_top {p : Path} (top : p.parent = none) : p.height = 1 := by
  rw [height, components_eq, isAbsolute_eq]
  rw [parent] at top
  cases walked : backwards p with
  | nil =>
    rw [walked] at top
    rcases lead_eq p.chars with lead | lead | lead
    · rw [lead]
      rfl
    · rw [lead]
      rfl
    · rw [lead] at top
      cases top
  | cons last before =>
    rw [walked] at top
    cases top

/-- The path after going up `n` times, if there is one so far up. -/
def ancestor (p : Path) : Nat → Option Path
  | 0 => some p
  | n + 1 => (p.ancestor n).bind parent

theorem ancestor_succ (p : Path) (n : Nat) : p.ancestor (n + 1) = p.parent.bind (·.ancestor n) := by
  induction n with
  | zero => cases above : p.parent <;> simp [ancestor, above]
  | succ n ih =>
    rw [ancestor, ih, Option.bind_assoc]
    rfl

/-- What holds of all paths upward holds of the first and of all upward from its parent. -/
theorem forall_ancestor_iff {p : Path} {P : Path → Prop} :
    (∀ n q, p.ancestor n = some q → P q) ↔
      P p ∧ ∀ above, p.parent = some above → ∀ n q, above.ancestor n = some q → P q := by
  constructor
  · intro all
    refine ⟨all 0 p rfl, ?_⟩
    intro above up n q place
    apply all (n + 1) q
    rw [ancestor_succ, up]
    exact place
  · rintro ⟨first, later⟩ n q place
    cases n with
    | zero =>
      rw [← Option.some.inj place]
      exact first
    | succ n =>
      rw [ancestor_succ] at place
      obtain ⟨above, up, place⟩ := Option.bind_eq_some_iff.mp place
      exact later above up n q place

/-- Going up ends after as many steps as there are components. -/
theorem isSome_ancestor_iff (p : Path) (n : Nat) :
    (p.ancestor n).isSome = true ↔ n < p.height := by
  induction n generalizing p with
  | zero =>
    cases above : p.parent with
    | none => simp [ancestor, height_of_top above]
    | some q => simp [ancestor, height_of_parent above]
  | succ n ih =>
    rw [ancestor_succ]
    cases above : p.parent with
    | none => simp [height_of_top above]
    | some q => simpa [height_of_parent above] using ih q

end Path
end ExtensionBuild
