/-
Updates of a state that is seen through its fields.  An update is confined to some of the
fields: it leaves the others alone, and what it makes of its own depends on these only.
Updates that share no field can be made in any order, and making all of them again changes
nothing when this is so for each of them.
-/
import Mathlib.Data.List.Perm.Basic
import Mathlib.Data.Set.Disjoint
import Mathlib.Data.Set.Lattice
import Mathlib.Logic.Function.Basic
import Mathlib.Logic.Function.Conjugate
import Mathlib.Order.CompletePartialOrder

namespace ConfinedUpdates

universe u v w

variable {State : Type u} {Member : Type v} {Value : Type w}

/-- An update that neither writes nor reads outside its fields. -/
structure ConfinedUpdate (view : State → Member → Value) where
  run : State → State
  fields : Set Member
  frame : ∀ state field, field ∉ fields → view (run state) field = view state field
  reads : ∀ state other, (∀ field ∈ fields, view state field = view other field) →
    ∀ field ∈ fields, view (run state) field = view (run other) field

namespace ConfinedUpdate

variable {view : State → Member → Value}

/-- All updates of a list, one after the other. -/
def runAll (updates : List (ConfinedUpdate view)) (state : State) : State :=
  updates.foldl (fun state update => update.run state) state

theorem runAll_cons (update : ConfinedUpdate view) (updates : List (ConfinedUpdate view))
    (state : State) : runAll (update :: updates) state = runAll updates (update.run state) := rfl

theorem runAll_append (updates later : List (ConfinedUpdate view)) (state : State) :
    runAll (updates ++ later) state = runAll later (runAll updates state) := by
  simp only [runAll, List.foldl_append]

theorem runAll_frame {updates : List (ConfinedUpdate view)} {field : Member}
    (hfield : ∀ update ∈ updates, field ∉ update.fields) (state : State) :
    view (runAll updates state) field = view state field := by
  induction updates generalizing state with
  | nil => rfl
  | cons update updates ih =>
      obtain ⟨hfirst, hlater⟩ := List.forall_mem_cons.mp hfield
      rw [runAll_cons, ih hlater, update.frame state field hfirst]

/-- The last update of a field decides what it holds. -/
theorem runAll_behind {before after : List (ConfinedUpdate view)}
    {update : ConfinedUpdate view} {field : Member}
    (hfield : ∀ later ∈ after, field ∉ later.fields) (state : State) :
    view (runAll (before ++ update :: after) state) field =
      view (update.run (runAll before state)) field := by
  rw [runAll_append, runAll_cons, runAll_frame hfield]

/-- Two updates without a common field, one after the other. -/
theorem commute (hview : Function.Injective view) {update other : ConfinedUpdate view}
    (hdisjoint : Disjoint update.fields other.fields) :
    Function.Commute update.run other.run := by
  intro state
  apply hview
  funext field
  by_cases hupdate : field ∈ update.fields
  · have hother : field ∉ other.fields := Set.disjoint_left.mp hdisjoint hupdate
    rw [other.frame _ field hother]
    apply update.reads _ _ _ field hupdate
    intro member hmember
    exact other.frame state member (Set.disjoint_left.mp hdisjoint hmember)
  · rw [update.frame _ field hupdate]
    by_cases hother : field ∈ other.fields
    · apply other.reads _ _ _ field hother
      intro member hmember
      exact (update.frame state member (Set.disjoint_right.mp hdisjoint hmember)).symm
    · rw [other.frame _ field hother, other.frame _ field hother, update.frame _ field hupdate]

/-- No two updates of the list have a field in common. -/
def Separate (updates : List (ConfinedUpdate view)) : Prop :=
  updates.Pairwise fun update other => Disjoint update.fields other.fields

theorem commute_of_separate (hview : Function.Injective view)
    {updates : List (ConfinedUpdate view)} (hseparate : Separate updates) :
    ∀ update ∈ updates, ∀ other ∈ updates, Function.Commute update.run other.run := by
  apply List.Pairwise.forall_of_forall_of_flip
  · exact fun update _ => Function.Commute.refl update.run
  · exact hseparate.imp fun hdisjoint => commute hview hdisjoint
  · exact hseparate.imp fun hdisjoint => commute hview hdisjoint.symm

theorem runAll_perm (hview : Function.Injective view) {updates others : List (ConfinedUpdate view)}
    (hperm : updates.Perm others) (hseparate : Separate updates) (state : State) :
    runAll updates state = runAll others state := by
  apply hperm.foldl_eq'
  intro update hupdate other hother now
  exact commute_of_separate hview hseparate other hother update hupdate now

theorem commute_runAll {update : ConfinedUpdate view} {updates : List (ConfinedUpdate view)}
    (hcommute : ∀ other ∈ updates, Function.Commute update.run other.run) :
    Function.Commute update.run (runAll updates) := by
  induction updates with
  | nil => exact fun state => rfl
  | cons other updates ih =>
      obtain ⟨hother, hlater⟩ := List.forall_mem_cons.mp hcommute
      intro state
      rw [runAll_cons, runAll_cons, ih hlater (other.run state), hother state]

theorem runAll_twice (hview : Function.Injective view) {updates : List (ConfinedUpdate view)}
    (hseparate : Separate updates)
    (htwice : ∀ update ∈ updates, ∀ state, update.run (update.run state) = update.run state)
    (state : State) : runAll updates (runAll updates state) = runAll updates state := by
  induction updates generalizing state with
  | nil => rfl
  | cons update updates ih =>
      obtain ⟨hfirst, hlater⟩ := List.pairwise_cons.mp hseparate
      obtain ⟨hupdate, htwice⟩ := List.forall_mem_cons.mp htwice
      have hcommute : Function.Commute update.run (runAll updates) :=
        commute_runAll fun other hother => commute hview (hfirst other hother)
      calc runAll (update :: updates) (runAll (update :: updates) state)
          = runAll updates (update.run (runAll updates (update.run state))) := rfl
        _ = runAll updates (runAll updates (update.run (update.run state))) := by
            rw [hcommute (update.run state)]
        _ = runAll updates (update.run state) := by rw [ih hlater htwice, hupdate]

end ConfinedUpdate

end ConfinedUpdates
