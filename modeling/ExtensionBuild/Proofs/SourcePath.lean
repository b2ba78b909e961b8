import ExtensionBuild.Translator
import Mathlib.Data.List.DropRight

/-! Paths cut at their last slash. What stands behind it decides the file name and the extension as
long as it is no filler. A stem with an extension behind it therefore keeps its kind unless it ends
in a slash, and its translation is the stem with the other extension unless it ends in a slash or
its last segment is a single dot. Whatever the path, a new extension that is shown at all is the one
that was set. -/
namespace ExtensionBuild

namespace Text

variable {α : Type}

theorem pieces_of_forall_not (cut : α → Bool) (s : List α) (uncut : ∀ c ∈ s, cut c = false) :
    pieces cut s = [s] := by
  induction s with
  | nil => rfl
  | cons c rest ih =>
    have tail := ih fun d member => uncut d (List.mem_cons_of_mem _ member)
    simp [pieces, uncut c List.mem_cons_self, tail]

theorem pieces_append_cons (cut : α → Bool) (first second : List α) {c : α} (marked : cut c = true) :
    pieces cut (first ++ c :: second) = pieces cut first ++ pieces cut second := by
  induction first with
  | nil => simp [pieces, marked]
  | cons d rest ih =>
    cases start : pieces cut rest with
    | nil => exact absurd start (pieces_ne_nil _ _)
    | cons piece others =>
      rw [start] at ih
      by_cases here : cut d = true
      · simp [pieces, here, ih, start]
      · simp [pieces, here, ih, start]

/-- A piece is taken out of the text in order, and nothing in it is marked. -/
theorem of_mem_pieces {cut : α → Bool} {s piece : List α} (member : piece ∈ pieces cut s) :
    piece.Sublist s ∧ ∀ c ∈ piece, cut c = false := by
  induction s generalizing piece with
  | nil =>
    rw [List.mem_singleton.mp member]
    exact ⟨.slnil, List.forall_mem_nil _⟩
  | cons c rest ih =>
    rw [pieces] at member
    by_cases marked : cut c = true
    · rw [if_pos marked] at member
      rcases List.mem_cons.mp member with rfl | later
      · exact ⟨List.nil_sublist _, List.forall_mem_nil _⟩
      · exact ⟨(ih later).1.cons c, (ih later).2⟩
    · rw [if_neg marked] at member
      cases start : pieces cut rest with
      | nil => exact absurd start (pieces_ne_nil _ _)
      | cons first others =>
        rw [start] at member ih
        rcases List.mem_cons.mp member with rfl | later
        · obtain ⟨inside, uncut⟩ := ih List.mem_cons_self
          exact ⟨inside.cons_cons c, List.forall_mem_cons.mpr ⟨by simpa using marked, uncut⟩⟩
        · obtain ⟨inside, uncut⟩ := ih (List.mem_cons_of_mem _ later)
          exact ⟨inside.cons c, uncut⟩

theorem joined_concat (separator : List α) (parts : List (List α)) (last : List α) :
    joined separator (parts ++ [last]) = parts.flatMap (· ++ separator) ++ last := by
  induction parts with
  | nil => simp [joined]
  | cons piece rest ih =>
    cases rest with
    | nil => simp [joined]
    | cons next others => simpa [joined] using ih

end Text

namespace Path

/-- What stands behind the last slash; all of a path without a slash. -/
def tail (p : Path) : Segment := p.chars.rtakeWhile (· != '/')

def front (p : Path) : List Char := p.chars.rdropWhile (· != '/')

/-- A text behind which a new segment begins. -/
def IsFront (s : List Char) : Prop := s = [] ∨ ∃ before, s = before ++ ['/']

theorem front_append_tail (p : Path) : p.front ++ p.tail = p.chars :=
  List.rdropWhile_append_rtakeWhile

theorem slash_not_mem_tail (p : Path) : '/' ∉ p.tail := by
  intro member
  have other := List.mem_rtakeWhile_imp member
  simp at other

theorem isFront_front (p : Path) : IsFront p.front := by
  by_cases empty : p.front = []
  · exact .inl empty
  · have stop := List.rdropWhile_last_not (· != '/') p.chars empty
    have slash : p.front.getLast empty = '/' := by simpa [front] using stop
    refine .inr ⟨p.front.dropLast, ?_⟩
    rw [← slash, List.dropLast_append_getLast]

theorem tail_append {first : List Char} (isFront : IsFront first) (second : List Char) :
    (mk (first ++ second)).tail = (mk second).tail := by
  rcases isFront with rfl | ⟨before, rfl⟩
  · rfl
  · unfold tail List.rtakeWhile
    rw [List.reverse_append, List.reverse_concat, List.takeWhile_append]
    split
    · rename_i all
      rw [(List.takeWhile_prefix _).eq_of_length all]
      simp
    · rfl

theorem tail_join (p q : Path) : (p.join q).tail = q.tail := by
  unfold join
  split
  · rfl
  split
  · rename_i closed
    apply tail_append
    simpa [IsFront, List.getLast?_eq_some_iff] using closed
  · have slash : p.chars ++ '/' :: q.chars = (p.chars ++ ['/']) ++ q.chars := by simp
    rw [slash]
    exact tail_append (.inr ⟨_, rfl⟩) _

theorem lead_isPrefix (first : List Char) {last : Segment} (slash : '/' ∉ last)
    (named : isFiller last = false) : lead (first ++ last) <+: first := by
  cases first with
  | nil =>
    unfold lead
    split
    · simp_all
    · simp_all [isFiller]
    · simp_all
    · exact List.nil_prefix
  | cons c rest =>
    unfold lead
    split
    · rename_i shown
      injection shown with same
      simp [same]
    · rename_i shown
      simp_all [isFiller]
    · rename_i shown
      injection shown with same
      simp [same]
    · exact List.nil_prefix

theorem segments_append {first : List Char} {last : Segment} (isFront : IsFront first)
    (slash : '/' ∉ last) :
    ∃ closed, segments (first ++ last) = closed ++ [last] ∧
      first = closed.flatMap (· ++ ['/']) := by
  have whole : segments last = [last] := by
    apply Text.pieces_of_forall_not
    intro c member
    simpa using ne_of_mem_of_not_mem member slash
  rcases isFront with rfl | ⟨before, rfl⟩
  · exact ⟨[], whole, rfl⟩
  · refine ⟨segments before, ?_, ?_⟩
    · rw [List.append_assoc, List.singleton_append, segments, Text.pieces_append_cons _ _ _ rfl]
      exact congrArg (segments before ++ ·) whole
    · have again := Text.joined_pieces '/' (before ++ ['/'])
      rw [Text.pieces_append_cons _ _ _ rfl, Text.pieces, Text.joined_concat, List.append_nil]
        at again
      exact again.symm

theorem isFront_right {first second : List Char} (isFront : IsFront (first ++ second)) :
    IsFront second := by
  rcases List.eq_nil_or_concat' second with rfl | ⟨start, c, rfl⟩
  · exact .inl rfl
  · rcases isFront with empty | ⟨before, whole⟩
    · simp at empty
    · have last := congrArg List.getLast? whole
      rw [← List.append_assoc, List.getLast?_concat, List.getLast?_concat] at last
      exact .inr ⟨start, by rw [Option.some.inj last]⟩

/-- Walking backwards, a last segment that is no filler comes first, and what comes behind it spells
the front of the path. -/
theorem backwards_append {first : List Char} {last : Segment} (isFront : IsFront first)
    (slash : '/' ∉ last) (named : isFiller last = false) :
    ∃ before, backwards ⟨first ++ last⟩ = last :: before ∧
      lead (first ++ last) ++ before.reverse.flatMap (· ++ ['/']) = first := by
  obtain ⟨rest, cut⟩ := lead_isPrefix first slash named
  unfold backwards body
  generalize lead (first ++ last) = start at cut ⊢
  subst cut
  obtain ⟨closed, parts, spelled⟩ := segments_append (isFront_right isFront) slash
  refine ⟨closed.reverse, ?_, ?_⟩
  · rw [List.append_assoc, List.drop_left, parts, List.reverse_concat,
      List.dropWhile_cons_of_neg (by simp [named])]
  · rw [List.reverse_reverse, ← spelled]

theorem slash_not_mem_of_mem_segments {s : List Char} {segment : Segment}
    (member : segment ∈ segments s) : '/' ∉ segment := by
  intro slash
  have uncut := (Text.of_mem_pieces member).2 '/' slash
  simp at uncut

theorem lead_eq (s : List Char) : lead s = [] ∨ lead s = ['/'] ∨ lead s = ['.'] := by
  unfold lead
  split <;> simp

/-- A dot in front of a path is followed by a slash or by nothing. -/
theorem segments_body_of_dot {s : List Char} (dot : lead s = ['.']) :
    ∃ others, segments (body s) = [] :: others := by
  unfold body
  rw [dot]
  unfold lead at dot
  split at dot
  · cases dot
  · exact ⟨[], rfl⟩
  · exact ⟨_, rfl⟩
  · cases dot

section

variable {p : Path} {last : Segment} {before : List Segment}

theorem fileName_eq_some {name : Segment} (named : p.fileName = some name) :
    ∃ before, backwards p = name :: before := by
  rw [fileName] at named
  split at named
  · cases named
  · rename_i last before walked
    split at named
    · cases named
    · rw [← Option.some.inj named]
      exact ⟨before, walked⟩

theorem mem_segments_of_mem_backwards {s : Segment} (member : s ∈ backwards p) :
    s ∈ segments (body p.chars) :=
  List.mem_reverse.mp (List.dropWhile_subset _ member)

theorem isFiller_of_backwards (walked : backwards p = last :: before) : isFiller last = false := by
  have stop := List.head?_dropWhile_not isFiller (segments (body p.chars)).reverse
  rw [← backwards, walked] at stop
  simpa using stop

/-- What stands in front of the last segment of a path that names something is closed by a slash. -/
theorem isFront_of_backwards (walked : backwards p = last :: before) :
    IsFront (lead p.chars ++ before.reverse.flatMap (· ++ ['/'])) := by
  cases before with
  | cons previous others =>
    refine .inr ⟨lead p.chars ++ others.reverse.flatMap (· ++ ['/']) ++ previous, ?_⟩
    simp
  | nil =>
    rw [List.reverse_nil, List.flatMap_nil, List.append_nil]
    rcases lead_eq p.chars with none | root | dot
    · exact .inl none
    · exact .inr ⟨[], root⟩
    -- Behind the dot stands an empty segment, and it would have to be the one that names something.
    · obtain ⟨others, parts⟩ := segments_body_of_dot dot
      obtain ⟨fillers, whole⟩ : backwards p <:+ (segments (body p.chars)).reverse :=
        List.dropWhile_suffix _
      rw [walked, parts, List.reverse_cons] at whole
      have empty := List.singleton_inj.mp (List.append_inj' whole rfl).2
      have named := isFiller_of_backwards walked
      rw [empty] at named
      cases named

end

theorem fileName_append {first : List Char} {last : Segment} (isFront : IsFront first)
    (slash : '/' ∉ last) (named : isFiller last = false) :
    fileName ⟨first ++ last⟩ = if last == ['.', '.'] then none else some last := by
  obtain ⟨before, walked, -⟩ := backwards_append isFront slash named
  simp only [fileName, walked]

theorem stemAndExtension_append (stem : Segment) {ext : Segment} (dot : '.' ∉ ext) :
    stemAndExtension (stem ++ '.' :: ext) =
      if stem = [] then ('.' :: ext, none) else (stem, some ext) := by
  have plain : ∀ c ∈ ext.reverse, (c != '.') = true := by
    intro c member
    simpa using ne_of_mem_of_not_mem (List.mem_reverse.mp member) dot
  have turned : (stem ++ '.' :: ext).reverse = ext.reverse ++ '.' :: stem.reverse := by simp
  have behind : (stem ++ '.' :: ext).reverse.dropWhile (· != '.') = '.' :: stem.reverse := by
    rw [turned, List.dropWhile_append_of_pos plain, List.dropWhile_cons_of_neg (by simp)]
  have before : (stem ++ '.' :: ext).reverse.takeWhile (· != '.') = ext.reverse := by
    rw [turned, List.takeWhile_append_of_pos plain, List.takeWhile_cons_of_neg (by simp),
      List.append_nil]
  unfold stemAndExtension
  rw [behind, before]
  rcases List.eq_nil_or_concat stem with rfl | ⟨start, c, rfl⟩
  · simp
  · simp

theorem stem_isPrefix (name : Segment) : (stemAndExtension name).1 <+: name := by
  unfold stemAndExtension
  split
  · exact List.prefix_rfl
  · exact List.prefix_rfl
  · rename_i dot stem _ behind
    refine ⟨dot :: (name.reverse.takeWhile (· != '.')).reverse, ?_⟩
    have whole := List.takeWhile_append_dropWhile (p := (· != '.')) (l := name.reverse)
    rw [behind] at whole
    rw [← List.reverse_inj]
    simpa using whole

theorem stem_ne_nil {name : Segment} (long : name ≠ []) : (stemAndExtension name).1 ≠ [] := by
  unfold stemAndExtension
  split
  · exact long
  · exact long
  · rename_i dot stem more _
    intro none
    exact more (List.reverse_eq_nil_iff.mp none)

theorem extension_append {first : List Char} (isFront : IsFront first) {stem ext : Segment}
    (slash : '/' ∉ stem ++ ext) (dot : '.' ∉ ext) (long : ext ≠ []) :
    extension ⟨first ++ (stem ++ '.' :: ext)⟩ = if stem = [] then none else some ext := by
  have named : isFiller (stem ++ '.' :: ext) = false := by
    cases stem <;> simp_all [isFiller]
  have proper : (stem ++ '.' :: ext == ['.', '.']) = false := by
    rcases stem with _ | ⟨c, _ | ⟨d, rest⟩⟩
    · have other : ext ≠ ['.'] := by
        rintro rfl
        exact dot List.mem_cons_self
      simp [other]
    · simp [long]
    · simp
  have slash' : '/' ∉ stem ++ '.' :: ext := by simpa using slash
  have name := fileName_append isFront slash' named
  rw [extension, name, proper, if_neg (by simp), Option.bind_some, stemAndExtension_append stem dot]
  split <;> rfl

/-- A new extension is put behind the stem of the last segment, and the front of the path stays. -/
theorem setExtension_of_named {first : List Char} (isFront : IsFront first) {last : Segment}
    (slash : '/' ∉ last) (named : isFiller last = false) (proper : last ≠ ['.', '.'])
    (ext : Segment) :
    setExtension ⟨first ++ last⟩ ext = ⟨first ++ ((stemAndExtension last).1 ++ '.' :: ext)⟩ := by
  obtain ⟨before, walked, spelled⟩ := backwards_append isFront slash named
  have cut : fileStem ⟨first ++ last⟩ = some (stemAndExtension last).1 := by
    rw [fileStem, fileName_append isFront slash named, if_neg (by simpa using proper),
      Option.map_some]
  simp only [setExtension, walked, cut]
  rw [ofSegments, Text.joined_concat, ← List.append_assoc, spelled]

/-- A stem with a bare dot behind it takes a new extension at that dot. A stem that is itself a dot
would name the parent directory, and nothing changes. -/
theorem setExtension_append {first : List Char} (isFront : IsFront first) {stem : Segment}
    (slash : '/' ∉ stem) (named : stem ≠ []) (ext : Segment) :
    setExtension ⟨first ++ (stem ++ ['.'])⟩ ext =
      if stem = ['.'] then ⟨first ++ (stem ++ ['.'])⟩ else ⟨first ++ (stem ++ '.' :: ext)⟩ := by
  have filler : isFiller (stem ++ ['.']) = false := by
    simp [isFiller, named]
  have slash' : '/' ∉ stem ++ ['.'] := by simpa using slash
  by_cases single : stem = ['.']
  · subst single
    obtain ⟨before, walked, -⟩ := backwards_append isFront slash' filler
    have unnamed : fileStem ⟨first ++ (['.'] ++ ['.'])⟩ = none := by
      rw [fileStem, fileName_append isFront slash' filler]
      rfl
    rw [if_pos rfl]
    simp only [setExtension, walked, unnamed]
  · have proper : stem ++ ['.'] ≠ ['.', '.'] := by
      rcases stem with _ | ⟨c, _ | ⟨d, rest⟩⟩ <;> simp_all
    rw [if_neg single, setExtension_of_named isFront slash' filler proper,
      stemAndExtension_append stem List.not_mem_nil, if_neg named]

/-- A path that has a stem shows the extension that is set on it, and no other path changes. -/
theorem extension_setExtension (p : Path) {ext : Segment} (dot : '.' ∉ ext) (slash : '/' ∉ ext)
    (long : ext ≠ []) : (p.setExtension ext).extension = p.fileStem.map fun _ => ext := by
  cases cut : p.fileStem with
  | none =>
    have unnamed : p.fileName = none := Option.map_eq_none_iff.mp cut
    have same : p.setExtension ext = p := by
      unfold setExtension
      rw [cut]
      split
      · rename_i found
        cases found
      · rfl
    rw [same, extension, unnamed]
    rfl
  | some stem =>
    obtain ⟨name, named, rfl⟩ := Option.map_eq_some_iff.mp cut
    obtain ⟨before, walked⟩ := fileName_eq_some named
    have slash' : '/' ∉ (stemAndExtension name).1 ++ ext := by
      rw [List.mem_append, not_or]
      refine ⟨?_, slash⟩
      intro member
      have behind : name ∈ backwards p := by simp [walked]
      exact slash_not_mem_of_mem_segments (mem_segments_of_mem_backwards behind)
        ((stem_isPrefix name).subset member)
    have stem : (stemAndExtension name).1 ≠ [] := by
      apply stem_ne_nil
      rintro rfl
      cases isFiller_of_backwards walked
    have set : p.setExtension ext =
        ⟨(lead p.chars ++ before.reverse.flatMap (· ++ ['/'])) ++
          ((stemAndExtension name).1 ++ '.' :: ext)⟩ := by
      simp only [setExtension, walked, cut]
      rw [ofSegments, Text.joined_concat, ← List.append_assoc]
    rw [set, extension_append (isFront_of_backwards walked) slash' dot long, if_neg stem]
    rfl

/-- Where the old extension was cut off does not matter to what is shown afterwards. -/
theorem extension_withExtension (p : Path) {ext : Segment} (dot : '.' ∉ ext) (slash : '/' ∉ ext)
    (long : ext ≠ []) :
    (p.withExtension ext).extension = none ∨ (p.withExtension ext).extension = some ext := by
  have set (q : Path) :
      (q.setExtension ext).extension = none ∨ (q.setExtension ext).extension = some ext := by
    rw [extension_setExtension q dot slash long]
    cases q.fileStem with
    | none => exact .inl rfl
    | some stem => exact .inr rfl
  unfold withExtension
  split
  · exact set _
  · exact set _

end Path

namespace SourceKind

theorem extension_isProper (kind : SourceKind) :
    '.' ∉ kind.extension.toList ∧ '/' ∉ kind.extension.toList ∧ kind.extension.toList ≠ [] := by
  cases kind <;> decide

end SourceKind

theorem sourcePath_eq (stem : Path) (kind : SourceKind) :
    sourcePath stem kind = ⟨stem.front ++ (stem.tail ++ '.' :: kind.extension.toList)⟩ := by
  rw [← List.append_assoc, stem.front_append_tail]
  simp [sourcePath, Path.append]

theorem extension_sourcePath (stem : Path) (kind : SourceKind) :
    (sourcePath stem kind).extension =
      if stem.tail = [] then none else some kind.extension.toList := by
  obtain ⟨dot, slash, long⟩ := kind.extension_isProper
  rw [sourcePath_eq]
  exact Path.extension_append stem.isFront_front (by simp [slash, stem.slash_not_mem_tail]) dot long

theorem ofPath?_sourcePath (stem : Path) (kind : SourceKind) :
    SourceKind.ofPath? (sourcePath stem kind) = if stem.tail = [] then none else some kind := by
  rw [SourceKind.ofPath?, extension_sourcePath]
  by_cases named : stem.tail = []
  · rw [if_pos named, if_pos named]
  · rw [if_neg named, if_neg named]
    cases kind <;> rfl

/-- What a named source is translated into: the stem with the other extension, but for a stem that
ends in a single dot. -/
theorem target_sourcePath (stem : Path) (named : stem.tail ≠ []) :
    Translator.target (sourcePath stem .cython) =
      if stem.tail = ['.'] then stem.append "." else sourcePath stem .c := by
  have shown : (sourcePath stem .cython).extension = some ['p', 'y', 'x'] := by
    rw [extension_sourcePath, if_neg named]
    rfl
  have spelled : (sourcePath stem .cython).chars =
      (stem.front ++ (stem.tail ++ ['.'])) ++ ['p', 'y', 'x'] := by
    rw [sourcePath_eq]
    simp [SourceKind.extension]
  have cut : (sourcePath stem .cython).chars.take
      ((sourcePath stem .cython).chars.length - ['p', 'y', 'x'].length) =
        stem.front ++ (stem.tail ++ ['.']) := by
    rw [spelled, List.length_append, Nat.add_sub_cancel, List.take_left]
  have dotted : stem.append "." = ⟨stem.front ++ (stem.tail ++ ['.'])⟩ := by
    rw [← List.append_assoc, stem.front_append_tail]
    rfl
  rw [Translator.target, Path.withExtension, shown, dotted, sourcePath_eq stem .c]
  dsimp only
  rw [cut]
  exact Path.setExtension_append stem.isFront_front stem.slash_not_mem_tail named _

/-- Behind a slash the first extension is all there is of a name, and the second one follows it. -/
theorem target_sourcePath_of_tail_eq_nil (stem : Path) (unnamed : stem.tail = []) :
    Translator.target (sourcePath stem .cython) = stem.append ".pyx.c" := by
  have shown : (sourcePath stem .cython).extension = none := by
    rw [extension_sourcePath, if_pos unnamed]
  have whole : stem.front = stem.chars := by
    rw [← stem.front_append_tail, unnamed, List.append_nil]
  have spelled : sourcePath stem .cython = ⟨stem.front ++ ['.', 'p', 'y', 'x']⟩ := by
    rw [sourcePath_eq, unnamed]
    rfl
  rw [Translator.target, Path.withExtension, shown, spelled]
  dsimp only
  rw [Path.setExtension_of_named stem.isFront_front (by decide) rfl (by decide), whole]
  rfl

theorem Path.append_inj {p : Path} {s t : String} (same : p.append s = p.append t) : s = t := by
  have chars : s.toList = t.toList := by simpa [append] using same
  exact String.toList_injective chars

/-- Exactly which stems keep their kinds and agree with their own translation. What stands behind
the last slash decides: it must not be empty, and for the translation it must not be a single dot
either. Dots inside it, in front of it or behind it are no exception. -/
theorem sourcePath_round_trips_iff (stem : Path) :
    let last := stem.tail
    let translated := (sourcePath stem .cython).withExtension ['c']
    (∀ kind, (SourceKind.ofPath? (sourcePath stem kind) = some kind ↔ last ≠ []) ∧
      (SourceKind.ofPath? (sourcePath stem kind) = none ↔ last = [])) ∧
    (translated = sourcePath stem .c ↔ last ≠ [] ∧ last ≠ ['.']) := by
  intro last translated
  refine ⟨?_, ?_⟩
  · intro kind
    rw [ofPath?_sourcePath]
    by_cases empty : stem.tail = [] <;> simp [last, empty]
  · by_cases empty : stem.tail = []
    · have other : translated = stem.append ".pyx.c" := target_sourcePath_of_tail_eq_nil stem empty
      rw [other]
      refine iff_of_false ?_ fun named => named.1 empty
      intro same
      exact absurd (Path.append_inj same) (by decide)
    · have made : translated = if stem.tail = ['.'] then stem.append "." else sourcePath stem .c :=
        target_sourcePath stem empty
      by_cases dot : stem.tail = ['.']
      · rw [made, if_pos dot]
        refine iff_of_false ?_ fun named => named.2 dot
        intro same
        exact absurd (Path.append_inj same) (by decide)
      · rw [made, if_neg dot]
        exact iff_of_true rfl ⟨empty, dot⟩

example : ∀ stem ∈ ["osd.v2", "osd.pyx", "osd.c", "a//b/..", ".osd", "./osd.."].map Path.ofText,
    (sourcePath stem .cython).withExtension ['c'] = sourcePath stem .c := by
  decide

end ExtensionBuild
