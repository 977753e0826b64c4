/-
Runs of a transition function whose nondeterminism sits in its labels.  The
invariant rule is stated for runs whose every step meets a side condition; the
unconditional rule is the case of the condition that always holds.
-/
import Mathlib.Init

namespace Runs

universe u v

variable {S : Type u} {E : Type v}

/-- The state after a trace of labels, `none` when some label is not enabled. -/
def run (step : S → E → Option S) : S → List E → Option S
  | state, [] => some state
  | state, label :: rest => (step state label).bind fun next => run step next rest

/-- A state some run passes through. -/
def Reachable (step : S → E → Option S) (start state : S) : Prop :=
  ∃ trace, run step start trace = some state

/-- Every label of the trace meets `allowed` in the state it is taken from. -/
def Along (step : S → E → Option S) (allowed : S → E → Prop) : S → List E → Prop
  | _, [] => True
  | state, label :: rest =>
      allowed state label ∧ ∀ next, step state label = some next →
        Along step allowed next rest

/-- Whether a given trace meets the condition can be computed. -/
instance decidableAlong (step : S → E → Option S) (allowed : S → E → Prop)
    [∀ state label, Decidable (allowed state label)] :
    ∀ state trace, Decidable (Along step allowed state trace)
  | _, [] => isTrue trivial
  | state, label :: rest =>
      match hstep : step state label with
      | none => decidable_of_iff (allowed state label)
          ⟨fun hok => ⟨hok, fun next hnext => by rw [hstep] at hnext; cases hnext⟩, And.left⟩
      | some next =>
          have := decidableAlong step allowed next rest
          decidable_of_iff (allowed state label ∧ Along step allowed next rest)
            ⟨fun ⟨hok, hrest⟩ => ⟨hok, fun other hother => by
              rw [hstep, Option.some.injEq] at hother
              exact hother ▸ hrest⟩,
             fun ⟨hok, hrest⟩ => ⟨hok, hrest next hstep⟩⟩

variable {step : S → E → Option S} {allowed : S → E → Prop}

theorem run_cons_eq_some {state final : S} {label : E} {rest : List E} :
    run step state (label :: rest) = some final ↔
      ∃ next, step state label = some next ∧ run step next rest = some final := by
  simp [run, Option.bind_eq_some_iff]

theorem run_append_eq_some {state final : S} {first second : List E} :
    run step state (first ++ second) = some final ↔
      ∃ mid, run step state first = some mid ∧ run step mid second = some final := by
  induction first generalizing state with
  | nil => simp [run]
  | cons label rest ih =>
      rw [List.cons_append, run_cons_eq_some]
      simp only [ih, run_cons_eq_some]
      constructor
      · rintro ⟨next, hnext, mid, hmid, hfinal⟩
        exact ⟨mid, ⟨next, hnext, hmid⟩, hfinal⟩
      · rintro ⟨mid, ⟨next, hnext, hmid⟩, hfinal⟩
        exact ⟨next, hnext, mid, hmid, hfinal⟩

/-- An invariant kept by every allowed step holds after every allowed run. -/
theorem invariant_of_along {Inv : S → Prop}
    (hstep : ∀ state label next, Inv state → allowed state label →
      step state label = some next → Inv next)
    {state final : S} {trace : List E} (hstart : Inv state)
    (hallowed : Along step allowed state trace)
    (hrun : run step state trace = some final) : Inv final := by
  induction trace generalizing state with
  | nil =>
      simp only [run, Option.some.injEq] at hrun
      exact hrun ▸ hstart
  | cons label rest ih =>
      obtain ⟨next, hnext, hrest⟩ := run_cons_eq_some.mp hrun
      exact ih (hstep state label next hstart hallowed.1 hnext)
        (hallowed.2 next hnext) hrest

theorem along_true (state : S) (trace : List E) :
    Along step (fun _ _ => True) state trace := by
  induction trace generalizing state with
  | nil => trivial
  | cons label rest ih => exact ⟨trivial, fun next _ => ih next⟩

/-- An invariant kept by every step holds in every reachable state. -/
theorem invariant_of_reachable {Inv : S → Prop}
    (hstep : ∀ state label next, Inv state →
      step state label = some next → Inv next)
    {start state : S} (hstart : Inv start)
    (hreach : Reachable step start state) : Inv state := by
  obtain ⟨trace, hrun⟩ := hreach
  have hevery : ∀ state label next, Inv state → True →
      step state label = some next → Inv next :=
    fun state label next hinv _ => hstep state label next hinv
  exact invariant_of_along hevery hstart (along_true start trace) hrun

/-- A condition that holds wherever a run can be cut holds along it. -/
theorem along_of_split {state final : S} {trace : List E}
    (hsplit : ∀ before label after mid, trace = before ++ label :: after →
      run step state before = some mid → run step mid (label :: after) = some final →
      allowed mid label)
    (hrun : run step state trace = some final) : Along step allowed state trace := by
  induction trace generalizing state with
  | nil => trivial
  | cons label rest ih =>
      obtain ⟨next, hnext, hrest⟩ := run_cons_eq_some.mp hrun
      refine ⟨hsplit [] label rest state rfl rfl hrun, ?_⟩
      intro other hother
      obtain rfl : next = other := Option.some.inj (hnext.symm.trans hother)
      apply ih _ hrest
      intro before later after mid htrace hbefore hafter
      apply hsplit (label :: before) later after mid
      · rw [htrace]
        rfl
      · exact run_cons_eq_some.mpr ⟨next, hnext, hbefore⟩
      · exact hafter

section Logged

universe w

variable {N : Type w} {notes : S → E → List N}

/-- The transition function together with a log of what its steps do. -/
def logged (step : S → E → Option S) (notes : S → E → List N) (current : S × List N)
    (label : E) : Option (S × List N) :=
  (step current.1 label).map fun next => (next, current.2 ++ notes current.1 label)

theorem logged_eq_some {current next : S × List N} {label : E} :
    logged step notes current label = some next ↔
      step current.1 label = some next.1 ∧ next.2 = current.2 ++ notes current.1 label := by
  rw [logged, Option.map_eq_some_iff]
  constructor
  · rintro ⟨state, hstep, rfl⟩
    exact ⟨hstep, rfl⟩
  · rintro ⟨hstep, hlog⟩
    exact ⟨next.1, hstep, by rw [← hlog]⟩

/-- A note that one label makes, and makes always, tells whether the label was taken. -/
theorem mem_log_iff {note : N} {special : E}
    (hnote : ∀ state label, note ∈ notes state label ↔ label = special)
    {current final : S × List N} {trace : List E}
    (hrun : run (logged step notes) current trace = some final) :
    note ∈ final.2 ↔ note ∈ current.2 ∨ special ∈ trace := by
  induction trace generalizing current with
  | nil =>
      obtain rfl := Option.some.inj hrun
      simp
  | cons label rest ih =>
      obtain ⟨next, hnext, hrest⟩ := run_cons_eq_some.mp hrun
      rw [ih hrest, (logged_eq_some.mp hnext).2, List.mem_append, hnote, List.mem_cons,
        or_assoc, eq_comm]

end Logged

end Runs
