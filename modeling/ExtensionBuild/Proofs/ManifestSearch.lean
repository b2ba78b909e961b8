import ExtensionBuild.Manifest
import ExtensionBuild.Proofs.Ancestors

/-! The search for a manifest. It looks in one directory after the other, going up, until one of them
holds a manifest or there is none above; so it always ends, and what it finds is the manifest in the
nearest of these directories. -/
namespace ExtensionBuild.Manifest

/-- A directory holds a manifest when a regular file has the manifest's name in it. -/
def Holds (here : Surroundings) (dir : Path) : Prop :=
  ∃ content executable,
    here.files.lookup here.cwd (dir.joinText fileName) = .ok (.file content executable)

theorem isFile_iff_holds (here : Surroundings) (dir : Path) :
    here.isFile (dir.joinText fileName) = true ↔ Holds here dir := by
  unfold Surroundings.isFile FileTree.isFile Holds
  split
  · rename_i content executable found
    exact iff_of_true rfl ⟨content, executable, found⟩
  · rename_i other
    refine iff_of_false Bool.false_ne_true ?_
    rintro ⟨content, executable, found⟩
    exact other content executable found

/-- The search that began at `start` and has come up to a directory: the directories in which it
looks from there on, and how it ends. -/
inductive Search (here : Surroundings) (start : Path) :
    Path → List Path → Except Error Path → Prop
  | found {dir : Path} (holds : Holds here dir) :
      Search here start dir [dir] (.ok (dir.joinText fileName))
  | exhausted {dir : Path} (lacks : ¬ Holds here dir) (top : dir.parent = none) :
      Search here start dir [dir] (.error (.notFound start))
  | upward {dir above : Path} {looked : List Path} {result : Except Error Path}
      (lacks : ¬ Holds here dir) (up : dir.parent = some above)
      (rest : Search here start above looked result) :
      Search here start dir (dir :: looked) result

/-- The directory `n` steps above, if no nearer one holds a manifest. -/
def Reaches (here : Surroundings) (start : Path) (n : Nat) (dir : Path) : Prop :=
  start.ancestor n = some dir ∧ ∀ m < n, ∀ d, start.ancestor m = some d → ¬ Holds here d

section

variable {here : Surroundings} {start dir : Path}

theorem reaches_zero {d : Path} : Reaches here dir 0 d ↔ d = dir := by
  simp [Reaches, Path.ancestor, eq_comm]

theorem reaches_succ {n : Nat} {d : Path} :
    Reaches here dir (n + 1) d ↔
      ¬ Holds here dir ∧ ∃ above, dir.parent = some above ∧ Reaches here above n d := by
  rw [Reaches, Path.ancestor_succ]
  constructor
  · rintro ⟨place, nearer⟩
    obtain ⟨above, up, place⟩ := Option.bind_eq_some_iff.mp place
    refine ⟨nearer 0 (Nat.succ_pos n) dir rfl, above, up, place, ?_⟩
    intro m less e between
    apply nearer (m + 1) (Nat.succ_lt_succ less) e
    rw [Path.ancestor_succ, up]
    exact between
  · rintro ⟨lacks, above, up, place, nearer⟩
    rw [up]
    refine ⟨place, ?_⟩
    intro m less e between
    cases m with
    | zero =>
      rw [← Option.some.inj between]
      exact lacks
    | succ m =>
      rw [Path.ancestor_succ, up] at between
      exact nearer m (Nat.lt_of_succ_lt_succ less) e between

theorem Search.unique {looked looked' : List Path} {result result' : Except Error Path}
    (one : Search here start dir looked result) (other : Search here start dir looked' result') :
    looked' = looked ∧ result' = result := by
  induction one generalizing looked' result' with
  | found holds =>
    cases other with
    | found => exact ⟨rfl, rfl⟩
    | exhausted lacks | upward lacks => exact absurd holds lacks
  | exhausted lacks top =>
    cases other with
    | found holds => exact absurd holds lacks
    | exhausted => exact ⟨rfl, rfl⟩
    | upward _ up => cases top.symm.trans up
  | upward lacks up rest ih =>
    cases other with
    | found holds => exact absurd holds lacks
    | exhausted _ top => cases top.symm.trans up
    | upward _ up' rest' =>
      cases up.symm.trans up'
      obtain ⟨rfl, rfl⟩ := ih rest'
      exact ⟨rfl, rfl⟩

/-- The search comes to a directory exactly when no nearer one has ended it. -/
theorem Search.getElem?_looked {looked : List Path} {result : Except Error Path}
    (search : Search here start dir looked result) (n : Nat) (d : Path) :
    looked[n]? = some d ↔ Reaches here dir n d := by
  induction search generalizing n with
  | found holds =>
    cases n with
    | zero => simp [reaches_zero, eq_comm]
    | succ n => simp [reaches_succ, holds]
  | exhausted lacks top =>
    cases n with
    | zero => simp [reaches_zero, eq_comm]
    | succ n => simp [reaches_succ, top]
  | upward lacks up rest ih =>
    cases n with
    | zero => simp [reaches_zero, eq_comm]
    | succ n => simp [reaches_succ, lacks, up, ih]

theorem Search.ok_iff {looked : List Path} {result : Except Error Path}
    (search : Search here start dir looked result) (path : Path) :
    result = .ok path ↔
      ∃ n d, Reaches here dir n d ∧ Holds here d ∧ path = d.joinText fileName := by
  induction search with
  | @found dir holds =>
    constructor
    · intro same
      exact ⟨0, dir, reaches_zero.mpr rfl, holds, (Except.ok.inj same).symm⟩
    · rintro ⟨n, d, reached, -, rfl⟩
      cases n with
      | zero => rw [reaches_zero.mp reached]
      | succ n => exact absurd holds (reaches_succ.mp reached).1
  | exhausted lacks top =>
    refine iff_of_false nofun ?_
    rintro ⟨n, d, reached, holds, -⟩
    cases n with
    | zero => exact lacks (reaches_zero.mp reached ▸ holds)
    | succ n =>
      obtain ⟨-, above, up, -⟩ := reaches_succ.mp reached
      cases top.symm.trans up
  | @upward dir above looked result lacks up rest ih =>
    rw [ih]
    constructor
    · rintro ⟨n, d, reached, holds⟩
      exact ⟨n + 1, d, reaches_succ.mpr ⟨lacks, above, up, reached⟩, holds⟩
    · rintro ⟨n, d, reached, holds, same⟩
      cases n with
      | zero => exact absurd (reaches_zero.mp reached ▸ holds) lacks
      | succ n =>
        obtain ⟨-, _, up', reached⟩ := reaches_succ.mp reached
        cases up.symm.trans up'
        exact ⟨n, d, reached, holds, same⟩

theorem Search.error_iff {looked : List Path} {result : Except Error Path}
    (search : Search here start dir looked result) (e : Error) :
    result = .error e ↔
      e = .notFound start ∧ ∀ n d, dir.ancestor n = some d → ¬ Holds here d := by
  induction search with
  | @found dir holds => exact iff_of_false nofun fun none => none.2 0 dir rfl holds
  | exhausted lacks top =>
    rw [Path.forall_ancestor_iff]
    simp [lacks, top, eq_comm]
  | @upward dir above looked result lacks up rest ih =>
    rw [ih, Path.forall_ancestor_iff (p := dir)]
    simp [lacks, up]

end

/-- From every directory the search comes to an end, and this is what is found. -/
theorem exists_search (here : Surroundings) (start dir : Path) :
    ∃ looked, Search here start dir looked
      (match (dir.selfAndAncestors.map (·.joinText fileName)).find? here.isFile with
        | some path => .ok path
        | none => .error (.notFound start)) := by
  fun_induction Path.selfAndAncestors dir with
  | case1 dir top =>
    refine ⟨[dir], ?_⟩
    by_cases holds : Holds here dir
    · rw [List.map_singleton, List.find?_cons_of_pos ((isFile_iff_holds here dir).mpr holds)]
      exact .found holds
    · rw [List.map_singleton, List.find?_cons_of_neg (mt (isFile_iff_holds here dir).mp holds)]
      exact .exhausted holds top
  | case2 dir above up ih =>
    by_cases holds : Holds here dir
    · refine ⟨[dir], ?_⟩
      rw [List.map_cons, List.find?_cons_of_pos ((isFile_iff_holds here dir).mpr holds)]
      exact .found holds
    · obtain ⟨looked, rest⟩ := ih
      refine ⟨dir :: looked, ?_⟩
      rw [List.map_cons, List.find?_cons_of_neg (mt (isFile_iff_holds here dir).mp holds)]
      exact .upward holds up rest

/-- The search for a manifest ends, and what it finds is the nearest one. Upward from the start there
are no more directories than the start has components, with one on top if it is relative. The search
looks in them in order and goes on as long as none of them holds a manifest; a directory or nothing
in the place of one does not end it. It finds the manifest of the directory in which it ends, and
fails when no directory upward from the start holds one. -/
theorem find_nearest (here : Surroundings) (start : Path) :
    (∀ n, (start.ancestor n).isSome = true ↔ n < start.height) ∧
    (∃ looked,
      (∀ looked' result, Search here start start looked' result ↔
        looked' = looked ∧ result = find here start) ∧
      ∀ n dir, looked[n]? = some dir ↔ Reaches here start n dir) ∧
    (∀ path, find here start = .ok path ↔
      ∃ n dir, Reaches here start n dir ∧ Holds here dir ∧ path = dir.joinText fileName) ∧
    (∀ e, find here start = .error e ↔
      e = .notFound start ∧ ∀ n dir, start.ancestor n = some dir → ¬ Holds here dir) := by
  obtain ⟨looked, search⟩ : ∃ looked, Search here start start looked (find here start) :=
    exists_search here start start
  refine ⟨start.isSome_ancestor_iff, ⟨looked, ?_, search.getElem?_looked⟩, search.ok_iff,
    search.error_iff⟩
  intro looked' result
  constructor
  · intro other
    exact search.unique other
  · rintro ⟨rfl, rfl⟩
    exact search

end ExtensionBuild.Manifest
