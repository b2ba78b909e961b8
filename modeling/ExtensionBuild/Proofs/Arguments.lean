import ExtensionBuild.CommandLine.Arguments
import ExtensionBuild.Proofs.Decoding
import ExtensionBuild.Proofs.Switches

/-! Calls written out from what they ask for. A value that is taken from the arguments is never
empty, so each build that can be asked for can be asked for again, switch by switch and each with its
value attached, with another destination or with none. -/
namespace ExtensionBuild.CommandLine

/-- The arguments give these switches and this invocation. -/
structure Parses (vars : Variables) (args : List String) (toggles : Toggles) (i : Invocation) :
    Prop where
  switches : (Toggles.resolve vars args).1 = toggles
  parsed : parse (Toggles.resolve vars args).2 = .ok i

namespace Progress

/-- No switch that takes a value was given an empty one. -/
def Valued (p : Progress) : Prop := ∀ s v, (s, v) ∈ p.given → s.takesValue = true → v ≠ ""

namespace Valued

variable {p q : Progress} {l : Level}

theorem start : Valued .start := fun _ _ member => absurd member List.not_mem_nil

theorem record (valued : p.Valued) {s : Switch} {value : String} (ok : p.record s value = .ok q) :
    q.Valued := by
  unfold Progress.record at ok
  split at ok
  · cases ok
  split at ok
  · cases ok
  rename_i full
  cases ok
  intro other v member takes
  rcases List.mem_append.mp member with before | last
  · exact valued other v before takes
  · obtain ⟨rfl, rfl⟩ := Prod.mk.inj (List.mem_singleton.mp last)
    rintro rfl
    exact full (by rw [takes]; rfl)

theorem settle (valued : p.Valued) (ok : p.settle = .ok q) : q.Valued := by
  have rest : Valued { p with pending := none } := valued
  unfold Progress.settle at ok
  dsimp only at ok
  split at ok
  · cases ok
    exact rest
  · cases ok
  · exact rest.record ok
  · split at ok
    · cases ok
      exact rest
    · split at ok <;> cases ok

theorem flag (valued : p.Valued) {s : Switch} (ok : p.flag l s = .ok q) : q.Valued := by
  obtain ⟨settled, settles, ok⟩ := Schema.bind_ok ok
  split at ok
  · cases ok
  · cases ok
  · exact (valued.settle settles).record ok

theorem option (valued : p.Valued) {s : Switch} {attached : Option String}
    (ok : p.option s attached = .ok q) : q.Valued := by
  obtain ⟨settled, settles, ok⟩ := Schema.bind_ok ok
  have rest := valued.settle settles
  split at ok
  · exact rest.record ok
  · cases ok
    exact rest

theorem longSwitch (valued : p.Valued) {name : String} {attached : Option String}
    (ok : p.longSwitch l name attached = .ok q) : q.Valued := by
  unfold Progress.longSwitch at ok
  split at ok
  · cases ok
  split at ok
  · exact valued.option ok
  split at ok
  · cases ok
  · exact valued.flag ok

theorem letters (valued : p.Valued) {cs : List Char} (ok : p.letters l cs = .ok q) : q.Valued := by
  induction cs generalizing p with
  | nil =>
    cases ok
    exact valued
  | cons c rest ih =>
    unfold Progress.letters at ok
    split at ok
    · cases ok
    split at ok
    · exact valued.option ok
    · obtain ⟨next, flags, ok⟩ := Schema.bind_ok ok
      exact ih (valued.flag flags) ok

theorem argument (valued : p.Valued) {arg : String} (ok : p.argument l arg = .ok q) :
    q.Valued := by
  unfold Progress.argument at ok
  split at ok
  · obtain ⟨settled, settles, ok⟩ := Schema.bind_ok ok
    have rest := valued.settle settles
    cases ok
    exact rest
  · split at ok <;> cases ok

theorem step (valued : p.Valued) {arg : String} (ok : p.step l arg = .ok q) : q.Valued := by
  unfold Progress.step at ok
  split at ok
  · exact valued.argument ok
  split at ok
  · cases ok
    exact valued
  · exact valued.longSwitch ok
  · exact valued.letters ok
  · split at ok
    · cases ok
      exact valued
    · exact valued.argument ok

theorem takeAll (valued : p.Valued) {args : List String}
    {command : Option (String × List String)} (ok : Progress.takeAll l p args = .ok (q, command)) :
    q.Valued := by
  induction args generalizing p with
  | nil =>
    cases ok
    exact valued
  | cons arg rest ih =>
    unfold Progress.takeAll at ok
    split at ok
    · cases ok
      exact valued
    · obtain ⟨next, steps, ok⟩ := Schema.bind_ok ok
      exact ih (valued.step steps) ok

theorem finish (valued : p.Valued) (ok : p.finish l = .ok q) : q.Valued := by
  obtain ⟨settled, settles, ok⟩ := Schema.bind_ok ok
  split at ok
  · cases ok
  split at ok
  · cases ok
  · cases ok
    exact valued.settle settles

theorem value (valued : p.Valued) {s : Switch} (takes : s.takesValue = true) {v : String}
    (found : p.value? s = some v) : v ≠ "" := by
  obtain ⟨before, after, whole, -⟩ := List.lookup_eq_some_iff.mp found
  exact valued s v (by rw [whole]; simp) takes

end Valued

end Progress

/-- A call is parsed in two parts, in front of its command and behind it. -/
theorem parse_ok {args : List String} {i : Invocation} (ok : parse args = .ok i) :
    ∃ c front behind, front.Valued ∧ behind.Valued ∧ invocation c front behind = .ok i := by
  obtain ⟨⟨taken, command⟩, takes, ok⟩ := Schema.bind_ok ok
  cases command with
  | none =>
    obtain ⟨front, -, ok⟩ := Schema.bind_ok ok
    split at ok <;> cases ok
  | some found =>
    obtain ⟨name, rest⟩ := found
    dsimp only at ok
    cases named : Command.ofName? name with
    | none =>
      rw [named] at ok
      obtain ⟨topic, -, ok⟩ := Schema.bind_ok ok
      cases ok
    | some c =>
      rw [named] at ok
      obtain ⟨⟨later, _⟩, takes', ok⟩ := Schema.bind_ok ok
      obtain ⟨behind, finishes', ok⟩ := Schema.bind_ok ok
      obtain ⟨front, finishes, ok⟩ := Schema.bind_ok ok
      exact ⟨c, front, behind, (Progress.Valued.start.takeAll takes).finish finishes,
        (Progress.Valued.start.takeAll takes').finish finishes', ok⟩

theorem invocation_manifestPath {c : Command} {front behind : Progress} {i : Invocation}
    (ok : invocation c front behind = .ok i) :
    i.manifestPath =
      (behind.value? .manifestPath <|> front.value? .manifestPath).map Path.ofText := by
  unfold invocation at ok
  split at ok <;> cases ok <;> rfl

/-- Whoever asks for a manifest names it. -/
theorem manifestPath_ne_of_parse {args : List String} {i : Invocation} (ok : parse args = .ok i)
    {path : Path} (asked : i.manifestPath = some path) : path.text ≠ "" := by
  obtain ⟨c, front, behind, valued, valued', ok⟩ := parse_ok ok
  rw [invocation_manifestPath ok] at asked
  obtain ⟨v, found, rfl⟩ := Option.map_eq_some_iff.mp asked
  rw [Path.text_ofText]
  cases own : behind.value? .manifestPath with
  | some w =>
    rw [own] at found
    cases found
    exact valued'.value rfl own
  | none =>
    rw [own] at found
    exact valued.value rfl found

namespace Switch

/-- A switch as one argument, with its value attached. -/
def written (s : Switch) (value : String) : String :=
  "--" ++ s.long ++ if s.takesValue then "=" ++ value else ""

theorem written_toList (s : Switch) (value : String) :
    (s.written value).toList =
      '-' :: '-' :: (s.long.toList ++ if s.takesValue then '=' :: value.toList else []) := by
  unfold written
  split <;> simp

theorem long_ne_nil (s : Switch) : s.long.toList ≠ [] := by cases s <;> decide

theorem long_plain (s : Switch) : ∀ c ∈ s.long.toList, (c != '=') = true := by
  rw [← List.all_eq_true]
  cases s <;> rfl

theorem isFlag_written (s : Switch) (value : String) :
    Toggle.isFlag (s.written value) = false := by
  rw [Bool.eq_false_iff, Ne, Toggle.isFlag_iff]
  rintro ⟨t, same⟩
  have chars := congrArg String.toList same
  rw [written_toList] at chars
  cases t <;> cases s <;> simp [Toggle.flag, long, takesValue, valueName] at chars

end Switch

namespace Progress

variable {l : Level}

theorem splitLong_long (s : Switch) (value : String) :
    splitLong (s.long.toList ++ if s.takesValue then '=' :: value.toList else []) =
      (s.long, if s.takesValue then some value else none) := by
  rw [splitLong, List.takeWhile_append_of_pos s.long_plain, List.dropWhile_append_of_pos s.long_plain]
  split <;> simp

/-- What may be written behind a command of the level: a switch of its own that goes on, with a
value where it takes one. -/
structure Fits (l : Level) (entry : Switch × String) : Prop where
  own : l.ofLong? entry.1.long = some entry.1
  goes : entry.1 ≠ .help ∧ entry.1 ≠ .version
  value : if entry.1.takesValue then entry.2 ≠ "" else entry.2 = ""

theorem settle_idle {p : Progress} (idle : p.pending = none) : p.settle = .ok p := by
  cases p
  subst idle
  rfl

theorem step_written {p : Progress} {s : Switch} {value : String} (fits : Fits l (s, value))
    (idle : p.pending = none) (reading : p.plain = false) :
    p.step l (s.written value) = p.record s value := by
  obtain ⟨own, ⟨noHelp, noVersion⟩, fit⟩ := fits
  have taken : p.step l (s.written value) =
      p.longSwitch l s.long (if s.takesValue then some value else none) := by
    have split := splitLong_long s value
    rw [step, if_neg (by simp [reading]), s.written_toList]
    cases shape : s.long.toList with
    | nil => exact absurd shape s.long_ne_nil
    | cons c name =>
      rw [shape, List.cons_append] at split
      rw [List.cons_append]
      show p.longSwitch l (splitLong _).1 (splitLong _).2 = _
      rw [split]
  rw [taken, longSwitch, own]
  dsimp only at fit noHelp noVersion ⊢
  by_cases takes : s.takesValue = true
  · rw [if_pos takes, option, settle_idle idle, if_pos takes]
    rfl
  · rw [if_neg takes] at fit ⊢
    rw [if_neg takes, flag, settle_idle idle, fit]
    cases s with
    | help => exact absurd rfl noHelp
    | version => exact absurd rfl noVersion
    | verbose | noColour | manifestPath | out | noTranslate | compile | link => rfl

theorem record_fresh {p : Progress} {s : Switch} {value : String} (fits : Fits l (s, value))
    (fresh : s ∉ p.given.map (·.1)) :
    p.record s value = .ok { p with given := p.given ++ [(s, value)] } := by
  have new : p.has s = false := by
    rw [has, Bool.eq_false_iff, Ne, List.any_eq_true]
    rintro ⟨entry, member, same⟩
    exact fresh (List.mem_map.mpr ⟨entry, member, eq_of_beq same⟩)
  have full : ¬ (s.takesValue && value.isEmpty) = true := by
    have fit := fits.value
    intro empty
    rw [Bool.and_eq_true] at empty
    rw [if_pos empty.1] at fit
    exact fit (by simpa using empty.2)
  rw [record, new]
  exact if_neg full

/-- Switches written out, each once, are taken for what they are. -/
theorem takeAll_written (quiet : l.commands = false) {p : Progress} {entries : List (Switch × String)}
    (fit : ∀ entry ∈ entries, Fits l entry) (idle : p.pending = none) (reading : p.plain = false)
    (once : ((p.given ++ entries).map (·.1)).Nodup) :
    takeAll l p (entries.map fun entry => entry.1.written entry.2) =
      .ok ({ p with given := p.given ++ entries }, none) := by
  -- No value is left pending between two switches: each one carries its own.
  induction entries generalizing p with
  | nil => simp [takeAll]
  | cons entry rest ih =>
    obtain ⟨s, value⟩ := entry
    have fits := fit (s, value) List.mem_cons_self
    have fresh : s ∉ p.given.map (·.1) := by
      intro member
      rw [List.map_append, List.map_cons] at once
      exact (List.nodup_append.mp once).2.2 s member s List.mem_cons_self rfl
    have next := ih (p := { p with given := p.given ++ [(s, value)] })
      (fun entry member => fit entry (List.mem_cons_of_mem _ member)) idle reading
      (by rwa [List.append_assoc])
    rw [List.map_cons, takeAll, quiet, step_written fits idle reading, record_fresh fits fresh]
    rw [List.append_assoc] at next
    exact next

end Progress

/-- The switches of a build, each once, in a fixed order. -/
def buildEntries (i : Invocation) (out : Option Path) (translate : Bool) :
    List (Switch × String) :=
  (if i.verbose then [(.verbose, "")] else []) ++
  (if i.colour then [] else [(.noColour, "")]) ++
  (if translate then [] else [(.noTranslate, "")]) ++
  (i.manifestPath.toList.map fun path => (.manifestPath, path.text)) ++
  (out.toList.map fun path => (.out, path.text))

section

variable {i : Invocation} {out : Option Path}

theorem fits_buildEntries (translate : Bool) (named : ∀ path ∈ i.manifestPath, path.text ≠ "")
    (aimed : ∀ path ∈ out, path.text ≠ "") :
    ∀ entry ∈ buildEntries i out translate, Progress.Fits (.behind .build) entry := by
  intro entry member
  simp only [buildEntries, List.mem_append, List.mem_map, Option.mem_toList,
    List.mem_ite_nil_right, List.mem_ite_nil_left, List.mem_singleton] at member
  rcases member with (((⟨-, rfl⟩ | ⟨-, rfl⟩) | ⟨-, rfl⟩) | ⟨path, asked, rfl⟩) | ⟨path, asked, rfl⟩
  · exact ⟨rfl, by decide, rfl⟩
  · exact ⟨rfl, by decide, rfl⟩
  · exact ⟨rfl, by decide, rfl⟩
  · exact ⟨rfl, by simp, named path asked⟩
  · exact ⟨rfl, by simp, aimed path asked⟩

theorem nodup_buildEntries (translate : Bool) :
    ((buildEntries i out translate).map (·.1)).Nodup := by
  obtain ⟨verbose, colour, manifestPath, request⟩ := i
  cases verbose <;> cases colour <;> cases translate <;> cases manifestPath <;> cases out <;>
    simp [buildEntries]

theorem read_buildEntries (i : Invocation) (out : Option Path) (translate : Bool) :
    let p : Progress := { Progress.start with given := buildEntries i out translate }
    p.has .verbose = i.verbose ∧ p.has .noColour = (! i.colour) ∧
      p.has .noTranslate = (! translate) ∧
      p.value? .manifestPath = i.manifestPath.map Path.text ∧ p.value? .out = out.map Path.text := by
  obtain ⟨verbose, colour, manifestPath, request⟩ := i
  cases verbose <;> cases colour <;> cases translate <;> cases manifestPath <;> cases out <;>
    exact ⟨rfl, rfl, rfl, rfl, rfl⟩

theorem invocation_buildEntries {translate : Bool} (request : i.request = .build out translate) :
    invocation .build .start { Progress.start with given := buildEntries i out translate } =
      .ok i := by
  obtain ⟨verbose, colour, skip, manifest, aim⟩ := read_buildEntries i out translate
  rw [invocation]
  dsimp only [bind, Except.bind]
  rw [verbose, colour, skip, manifest, aim]
  have front (s : Switch) : Progress.start.has s = false := rfl
  have front' (s : Switch) : Progress.start.value? s = none := rfl
  simp [front, front', ← request, pure, Except.pure]

/-- A build that is written out is parsed as what it was written for. -/
theorem parse_buildEntries {translate : Bool} (request : i.request = .build out translate)
    (named : ∀ path ∈ i.manifestPath, path.text ≠ "") (aimed : ∀ path ∈ out, path.text ≠ "") :
    parse ("build" :: (buildEntries i out translate).map fun entry => entry.1.written entry.2) =
      .ok i := by
  let behind : Progress := { Progress.start with given := buildEntries i out translate }
  have fits := fits_buildEntries translate named aimed
  have takes : Progress.takeAll (.behind .build) .start
      ((buildEntries i out translate).map fun entry => entry.1.written entry.2) =
        .ok (behind, none) :=
    Progress.takeAll_written rfl fits rfl rfl (nodup_buildEntries translate)
  have agreed : behind.conflict? = none := by
    rw [Progress.conflict?, List.findSome?_eq_none_iff]
    rintro ⟨s, value⟩ member
    have own := List.mem_of_find?_eq_some (fits (s, value) member).own
    have free : ∀ s ∈ (Level.behind .build).switches, s.excludes = none := by decide
    dsimp only
    rw [free s own]
    rfl
  have finishes : behind.finish (.behind .build) = .ok behind := by
    rw [Progress.finish, Progress.settle_idle rfl]
    dsimp only [bind, Except.bind]
    rw [agreed]
    rfl
  have whole := invocation_buildEntries request
  have front : Progress.takeAll .front .start
      ("build" :: (buildEntries i out translate).map fun entry => entry.1.written entry.2) =
        .ok (.start, some ("build", (buildEntries i out translate).map fun entry =>
          entry.1.written entry.2)) := rfl
  rw [parse, front]
  dsimp only [bind, Except.bind]
  rw [show Command.ofName? "build" = some .build from rfl]
  dsimp only
  rw [takes]
  dsimp only
  rw [finishes]
  exact whole

/-- The arguments of a build, with the flags that make up for the switches in front. -/
def buildArguments (toggles : Toggles) (i : Invocation) (out : Option Path) (translate : Bool) :
    List String :=
  (Toggle.all.filter toggles.get).map Toggle.flag ++
    "build" :: (buildEntries i out translate).map fun entry => entry.1.written entry.2

theorem isFlag_of_mem_plain {arg : String} {entries : List (Switch × String)}
    (member : arg ∈ "build" :: entries.map fun entry => entry.1.written entry.2) :
    Toggle.isFlag arg = false := by
  rcases List.mem_cons.mp member with rfl | member
  · rfl
  · obtain ⟨entry, -, rfl⟩ := List.mem_map.mp member
    exact entry.1.isFlag_written entry.2

theorem flag_mem_buildArguments (toggles : Toggles) (i : Invocation) (out : Option Path)
    (translate : Bool) (t : Toggle) :
    t.flag ∈ buildArguments toggles i out translate ↔ toggles.get t = true := by
  rw [buildArguments, List.mem_append]
  constructor
  · rintro (flagged | plain)
    · obtain ⟨u, member, same⟩ := List.mem_map.mp flagged
      rw [← Toggle.flag_injective same]
      exact (List.mem_filter.mp member).2
    · have isFlag : Toggle.isFlag t.flag = true := (Toggle.isFlag_iff _).mpr ⟨t, rfl⟩
      rw [isFlag_of_mem_plain plain] at isFlag
      cases isFlag
  · intro on
    exact .inl (List.mem_map.mpr ⟨t, List.mem_filter.mpr ⟨Toggle.mem_all t, on⟩, rfl⟩)

theorem remaining_buildArguments (toggles : Toggles) (i : Invocation) (out : Option Path)
    (translate : Bool) :
    Toggles.remaining (buildArguments toggles i out translate) =
      "build" :: (buildEntries i out translate).map fun entry => entry.1.written entry.2 := by
  have dropped : ∀ arg ∈ (Toggle.all.filter toggles.get).map Toggle.flag,
      ¬ (! Toggle.isFlag arg) = true := by
    intro arg member
    obtain ⟨u, -, rfl⟩ := List.mem_map.mp member
    simp [(Toggle.isFlag_iff u.flag).mpr ⟨u, rfl⟩]
  have kept : ∀ arg ∈ "build" :: (buildEntries i out translate).map fun entry =>
      entry.1.written entry.2, (! Toggle.isFlag arg) = true := by
    intro arg member
    rw [isFlag_of_mem_plain member]
    rfl
  rw [Toggles.remaining, buildArguments, List.filter_append, List.filter_eq_nil_iff.mpr dropped,
    List.filter_eq_self.mpr kept, List.nil_append]

/-- The build of a call can be asked for with another destination, or with none. -/
theorem Parses.retarget {vars : Variables} {args : List String} {toggles : Toggles}
    (parses : Parses vars args toggles i) (out : Option Path) (translate : Bool)
    (aimed : ∀ path ∈ out, path.text ≠ "") :
    Parses vars (buildArguments toggles i out translate) toggles
      { i with request := .build out translate } := by
  obtain ⟨rfl, parsed⟩ := parses
  have named : ∀ path ∈ i.manifestPath, path.text ≠ "" :=
    fun path asked => manifestPath_ne_of_parse parsed asked
  constructor
  · rw [Toggles.resolve_eq]
    apply Toggles.ext_get
    intro t
    rw [Toggles.get_ofInvocation, Toggles.isOn, Bool.eq_iff_iff, Bool.or_eq_true,
      List.contains_iff_mem, flag_mem_buildArguments]
    apply or_iff_right_of_imp
    intro set
    rw [Toggles.resolve_eq, Toggles.get_ofInvocation, Toggles.isOn, set, Bool.true_or]
  · rw [Toggles.resolve_eq]
    dsimp only
    rw [remaining_buildArguments]
    exact parse_buildEntries (i := { i with request := .build out translate }) rfl named aimed

end

end ExtensionBuild.CommandLine
