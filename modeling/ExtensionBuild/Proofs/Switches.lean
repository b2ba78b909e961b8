import ExtensionBuild.Toggles

/-! The flags of the switches among the arguments of a call. The switches are settled one after the
other, each on the arguments that the ones before it left; still a flag counts wherever it stands
and takes nothing else away, so it does what its variable does. -/
namespace ExtensionBuild

namespace Toggle

theorem isFlag_iff (arg : String) : isFlag arg = true ↔ ∃ t : Toggle, t.flag = arg := by
  simp only [isFlag, List.any_eq_true, beq_iff_eq]
  constructor
  · rintro ⟨t, -, same⟩
    exact ⟨t, same⟩
  · rintro ⟨t, same⟩
    exact ⟨t, mem_all t, same⟩

/-- `args` is `plain` with the flags of `switches` put in, in this order and at any places. -/
inductive Interspersed : List Toggle → List String → List String → Prop
  | done : Interspersed [] [] []
  | argument {switches : List Toggle} {plain args : List String} (arg : String)
      (rest : Interspersed switches plain args) :
      Interspersed switches (arg :: plain) (arg :: args)
  | flag {switches : List Toggle} {plain args : List String} (t : Toggle)
      (rest : Interspersed switches plain args) :
      Interspersed (t :: switches) plain (t.flag :: args)

namespace Interspersed

variable {switches : List Toggle} {plain args : List String}

theorem flag_mem_iff (put : Interspersed switches plain args) (t : Toggle) :
    t.flag ∈ args ↔ t ∈ switches ∨ t.flag ∈ plain := by
  induction put with
  | done => simp
  | argument arg rest ih =>
    rw [List.mem_cons, List.mem_cons, ih]
    exact or_left_comm
  | flag u rest ih =>
    have same : t.flag = u.flag ↔ t = u := ⟨flag_injective, congrArg Toggle.flag⟩
    rw [List.mem_cons, List.mem_cons, ih, same]
    exact or_assoc.symm

theorem remaining_eq (put : Interspersed switches plain args) :
    Toggles.remaining args = Toggles.remaining plain := by
  unfold Toggles.remaining
  induction put with
  | done => rfl
  | argument arg rest ih => rw [List.filter_cons, List.filter_cons, ih]
  | flag t rest ih =>
    have dropped : isFlag t.flag = true := (isFlag_iff t.flag).mpr ⟨t, rfl⟩
    rw [List.filter_cons_of_neg (by simp [dropped]), ih]

end Interspersed
end Toggle

namespace Toggles

theorem isOn_iff (vars : Variables) (args : List String) (t : Toggle) :
    isOn vars args t = true ↔ t.variableName ∈ vars.settings.map (·.1) ∨ t.flag ∈ args := by
  rw [isOn, Bool.or_eq_true, Variables.isSet_iff_mem, List.contains_iff_mem]

/-- A list that lost no entry to a flag is as long as it was. -/
theorem length_filter_flag (args : List String) (flag : String) :
    ((args.filter (· != flag)).length != args.length) = args.contains flag := by
  have kept : (args.filter (· != flag)).length = args.length ↔ flag ∉ args := by
    rw [List.length_filter_eq_length_iff]
    constructor
    · intro other member
      simpa using other flag member
    · intro absent arg member
      simpa using ne_of_mem_of_not_mem member absent
  rw [Bool.eq_iff_iff, bne_iff_ne, List.contains_iff_mem, Ne, kept, Decidable.not_not]

variable (vars : Variables)

theorem get_settle (found : Toggles × List String) (one t : Toggle) :
    (settle vars found one).1.get t =
      if t = one then isOn vars found.2 one else found.1.get t := by
  by_cases same : t = one
  · subst same
    rw [if_pos rfl, settle, get_set_self, length_filter_flag, isOn]
  · rw [if_neg same]
    exact get_set_of_ne _ _ same

theorem isOn_settle (found : Toggles × List String) {one t : Toggle} (other : t ≠ one) :
    isOn vars (settle vars found one).2 t = isOn vars found.2 t := by
  have apart : t.flag ≠ one.flag := fun same => other (Toggle.flag_injective same)
  have kept : t.flag ∈ found.2.filter (· != one.flag) ↔ t.flag ∈ found.2 := by
    simp [List.mem_filter, apart]
  rw [Bool.eq_iff_iff, isOn_iff, isOn_iff]
  exact or_congr_right kept

/-- What holds of the switches that were settled, in whatever order, holds of the arguments that
were there at first. -/
theorem foldl_settle (switches : List Toggle) (distinct : switches.Nodup)
    (found : Toggles × List String) :
    let done := switches.foldl (settle vars) found
    done.2 = found.2.filter (fun arg => switches.all (arg != ·.flag)) ∧
      ∀ t, done.1.get t = if t ∈ switches then isOn vars found.2 t else found.1.get t := by
  induction switches generalizing found with
  | nil => exact ⟨(List.filter_eq_self.mpr fun _ _ => rfl).symm, fun _ => rfl⟩
  | cons one rest ih =>
    obtain ⟨absent, apart⟩ := List.nodup_cons.mp distinct
    obtain ⟨left, on⟩ := ih apart (settle vars found one)
    rw [List.foldl_cons]
    refine ⟨?_, ?_⟩
    · rw [left, settle, List.filter_filter]
      simp only [List.all_cons, Bool.and_comm]
    · intro t
      rw [on t, get_settle]
      by_cases same : t = one
      · subst same
        rw [if_neg absent, if_pos rfl, if_pos List.mem_cons_self]
      · rw [isOn_settle vars found same, if_neg same]
        simp only [List.mem_cons, same, false_or]

/-- Settling the switches in turn is to look at all arguments for each of them, and to drop all
flags at once. -/
theorem resolve_eq (args : List String) :
    resolve vars args = (ofInvocation vars args, remaining args) := by
  obtain ⟨left, on⟩ := foldl_settle vars Toggle.all (by decide) (off, args)
  apply Prod.ext
  · apply ext_get
    intro t
    rw [resolve, on t, if_pos (Toggle.mem_all t), get_ofInvocation]
  · rw [resolve, left, remaining]
    apply List.filter_congr
    intro arg _
    simp [Toggle.isFlag, Toggle.all, bne, BEq.comm]

theorem resolve_snd_eq_self {args : List String} (flagless : ∀ t : Toggle, t.flag ∉ args) :
    (resolve vars args).2 = args := by
  rw [resolve_eq]
  apply List.filter_eq_self.mpr
  intro arg member
  rw [Bool.not_eq_true', Bool.eq_false_iff, Ne, Toggle.isFlag_iff]
  rintro ⟨t, rfl⟩
  exact flagless t member

theorem resolve_interspersed {more : Variables} {switches : List Toggle} {plain args : List String}
    (put : Toggle.Interspersed switches plain args)
    (set : ∀ t : Toggle, more.isSet t.variableName = true ↔
      vars.isSet t.variableName = true ∨ t ∈ switches) :
    resolve vars args = resolve more plain := by
  rw [resolve_eq, resolve_eq, put.remaining_eq]
  congr 1
  apply ext_get
  intro t
  rw [get_ofInvocation, get_ofInvocation, Bool.eq_iff_iff]
  simp only [isOn, Bool.or_eq_true, List.contains_iff_mem, put.flag_mem_iff t, set t]
  exact or_assoc.symm

theorem remaining_eq_filter (args : List String) :
    remaining args =
      args.filter fun arg => arg ≠ "--use-cython" ∧ arg ≠ "--cython-coverage" := by
  apply List.filter_congr
  intro arg _
  have flags : Toggle.isFlag arg = true ↔ arg = "--use-cython" ∨ arg = "--cython-coverage" := by
    rw [Toggle.isFlag_iff]
    constructor
    · rintro ⟨t, rfl⟩
      cases t
      · exact .inl rfl
      · exact .inr rfl
    · rintro (rfl | rfl)
      · exact ⟨.regenerate, rfl⟩
      · exact ⟨.coverage, rfl⟩
  rw [Bool.eq_iff_iff, Bool.not_eq_true', Bool.eq_false_iff, Ne, flags, decide_eq_true_iff, not_or]

/-- The flags of the switches, and nothing else, are taken out of the arguments. A switch is on if
its variable is set or its flag was among them, so flags put in anywhere, also between a switch of
the parser and its value, are worth what their variables are worth, and none is left for a second
look. -/
theorem resolve_flags_anywhere (vars : Variables) (args : List String) :
    let found := resolve vars args
    found.2 = args.filter (fun arg => arg ≠ "--use-cython" ∧ arg ≠ "--cython-coverage") ∧
    (found.1.regenerate = true ↔
      "USE_CYTHON" ∈ vars.settings.map (·.1) ∨ "--use-cython" ∈ args) ∧
    (found.1.coverage = true ↔
      "CYTHON_COVERAGE" ∈ vars.settings.map (·.1) ∨ "--cython-coverage" ∈ args) ∧
    (∀ later, (resolve later found.2).2 = found.2) ∧
    ∀ switches plain, Toggle.Interspersed switches plain args → (∀ t : Toggle, t.flag ∉ plain) →
      ∀ more : Variables, (∀ t : Toggle, more.isSet t.variableName = true ↔
          vars.isSet t.variableName = true ∨ t ∈ switches) →
        found = resolve more plain ∧ found.2 = plain := by
  intro found
  have flat : found = (ofInvocation vars args, remaining args) := resolve_eq vars args
  refine ⟨?_, ?_, ?_, ?_, ?_⟩
  · rw [flat, remaining_eq_filter]
  · rw [flat]
    exact isOn_iff vars args .regenerate
  · rw [flat]
    exact isOn_iff vars args .coverage
  · intro later
    apply resolve_snd_eq_self
    intro t member
    rw [flat, remaining, List.mem_filter, (Toggle.isFlag_iff t.flag).mpr ⟨t, rfl⟩] at member
    exact Bool.noConfusion member.2
  · intro switches plain put flagless more set
    have same : found = resolve more plain := resolve_interspersed vars put set
    refine ⟨same, ?_⟩
    rw [same]
    exact resolve_snd_eq_self more flagless

/-- A flag between a switch of the parser and its value does not cut the two apart. -/
theorem resolve_flag_before_value :
    let plain := ["extconf", "build", "--out", "d.json"]
    let args := ["extconf", "build", "--out", "--use-cython", "d.json"]
    Toggle.Interspersed [.regenerate] plain args ∧
    resolve ⟨[]⟩ args = resolve ⟨[("USE_CYTHON", "")]⟩ plain ∧ (resolve ⟨[]⟩ args).2 = plain := by
  intro plain args
  have put : Toggle.Interspersed [.regenerate] plain args :=
    .argument _ (.argument _ (.argument _ (.flag .regenerate (.argument _ .done))))
  have flagless : ∀ t : Toggle, t.flag ∉ plain := by
    intro t
    cases t <;> decide
  have set : ∀ t : Toggle, Variables.isSet ⟨[("USE_CYTHON", "")]⟩ t.variableName = true ↔
      Variables.isSet ⟨[]⟩ t.variableName = true ∨ t ∈ [Toggle.regenerate] := by
    intro t
    cases t <;> decide
  obtain ⟨-, -, -, -, anywhere⟩ := resolve_flags_anywhere ⟨[]⟩ args
  exact ⟨put, anywhere [.regenerate] plain put flagless _ set⟩

end Toggles
end ExtensionBuild
