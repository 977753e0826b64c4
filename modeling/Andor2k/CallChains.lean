/-
Chains of calls, each with the code it returns: one call after the other until one fails.
What a device is set to afterwards is the work of the calls that succeeded.
-/
import Mathlib.Data.List.Basic

namespace CallChain

universe u v w

variable {Call : Type u} {Code : Type v} {State : Type w} [DecidableEq Code] (success : Code)

/-- The last code, and the calls that have been made. -/
def attempt : List (Call × Code) → Code × List (Call × Code)
  | [] => (success, [])
  | call :: later =>
      if call.2 = success then ((attempt later).1, call :: (attempt later).2)
      else (call.2, [call])

/-- A chain that ends in success has been made whole. -/
theorem attempt_eq_of_success {calls : List (Call × Code)}
    (hsuccess : (attempt success calls).1 = success) :
    (attempt success calls).2 = calls ∧ ∀ call ∈ calls, call.2 = success := by
  induction calls with
  | nil => exact ⟨rfl, nofun⟩
  | cons call later ih =>
      rw [attempt] at hsuccess ⊢
      by_cases hcall : call.2 = success
      · rw [if_pos hcall] at hsuccess ⊢
        obtain ⟨hmade, hlater⟩ := ih hsuccess
        exact ⟨congrArg (call :: ·) hmade, List.forall_mem_cons.mpr ⟨hcall, hlater⟩⟩
      · rw [if_neg hcall] at hsuccess
        exact absurd hsuccess hcall

/-- The state behind the calls: those that failed have changed nothing. -/
def inForce (apply : State → Call → State) (state : State) (calls : List (Call × Code)) : State :=
  calls.foldl (fun state call => if call.2 = success then apply state call.1 else state) state

variable {success}

theorem inForce_of_success {apply : State → Call → State} {calls : List (Call × Code)}
    (hsuccess : ∀ call ∈ calls, call.2 = success) (state : State) :
    inForce success apply state calls = (calls.map Prod.fst).foldl apply state := by
  induction calls generalizing state with
  | nil => rfl
  | cons call later ih =>
      obtain ⟨hcall, hlater⟩ := List.forall_mem_cons.mp hsuccess
      change inForce success apply (if call.2 = success then apply state call.1 else state) later =
        (later.map Prod.fst).foldl apply (apply state call.1)
      rw [if_pos hcall, ih hlater]

theorem inForce_append {apply : State → Call → State} (calls later : List (Call × Code))
    (state : State) :
    inForce success apply state (calls ++ later) =
      inForce success apply (inForce success apply state calls) later :=
  List.foldl_append

end CallChain
