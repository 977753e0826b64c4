/-
Devices that are set up by calls, each of which writes one register.  What a register holds is
the last call that wrote it and succeeded.
-/
import Mathlib.Data.List.Nodup
import Mathlib.Logic.Function.Basic
import Andor2k.CallChains

namespace CallChain

universe u v w

variable {Call : Type u} {Code : Type v} {Register : Type w} [DecidableEq Code]
  [DecidableEq Register] {success : Code} {register : Call → Register}

/-- The device behind one call that succeeds. -/
def write (register : Call → Register) (memory : Register → Option Call) (call : Call) :
    Register → Option Call :=
  Function.update memory (register call) (some call)

/-- The calls that have written a register. -/
def writers (success : Code) (register : Call → Register) (target : Register)
    (calls : List (Call × Code)) : List Call :=
  (calls.filter fun call => call.2 = success ∧ register call.1 = target).map Prod.fst

theorem mem_writers {target : Register} {calls : List (Call × Code)} {call : Call} :
    call ∈ writers success register target calls ↔
      (call, success) ∈ calls ∧ register call = target := by
  simp only [writers, List.mem_map, List.mem_filter, decide_eq_true_eq]
  constructor
  · rintro ⟨⟨made, code⟩, ⟨hmem, rfl, htarget⟩, rfl⟩
    exact ⟨hmem, htarget⟩
  · rintro ⟨hmem, htarget⟩
    exact ⟨(call, success), ⟨hmem, rfl, htarget⟩, rfl⟩

/-- A register holds what was written to it last, or what it held before. -/
theorem inForce_write (memory : Register → Option Call) (calls : List (Call × Code))
    (target : Register) :
    inForce success (write register) memory calls target =
      ((writers success register target calls).getLast?).or (memory target) := by
  induction calls generalizing memory with
  | nil => rfl
  | cons call later ih =>
      change inForce success (write register)
        (if call.2 = success then write register memory call.1 else memory) later target = _
      rw [ih]
      by_cases hwrites : call.2 = success ∧ register call.1 = target
      · have hwriters : writers success register target (call :: later) =
            call.1 :: writers success register target later := by
          simp only [writers, List.filter_cons, hwrites, and_self, decide_true, ↓reduceIte,
            List.map_cons]
        have hstored : (if call.2 = success then write register memory call.1 else memory) target =
            some call.1 := by
          rw [if_pos hwrites.1, write, ← hwrites.2, Function.update_self]
        rw [hwriters, hstored, List.getLast?_cons]
        cases (writers success register target later).getLast? with
        | none => rfl
        | some last => rfl
      · have hwriters : writers success register target (call :: later) =
            writers success register target later := by
          simp only [writers, List.filter_cons, hwrites, decide_false, Bool.false_eq_true,
            ↓reduceIte]
        have hstored : (if call.2 = success then write register memory call.1 else memory) target =
            memory target := by
          split
          · rename_i hsuccess
            exact Function.update_of_ne (fun heq => hwrites ⟨hsuccess, heq.symm⟩) _ _
          · rfl
        rw [hwriters, hstored]

/-- Of calls that write different registers, each that succeeds stays in force. -/
theorem inForce_write_of_nodup (memory : Register → Option Call) {calls : List (Call × Code)}
    (hnodup : (calls.map fun call => register call.1).Nodup) {call : Call}
    (hcall : (call, success) ∈ calls) :
    inForce success (write register) memory calls (register call) = some call := by
  have honly : ∀ other ∈ writers success register (register call) calls, other = call := by
    intro other hother
    obtain ⟨hmade, hregister⟩ := mem_writers.mp hother
    exact congrArg Prod.fst (List.inj_on_of_nodup_map hnodup hmade hcall hregister)
  rw [inForce_write]
  cases hlast : (writers success register (register call) calls).getLast? with
  | none =>
      rw [List.getLast?_eq_none_iff] at hlast
      exact absurd (mem_writers.mpr ⟨hcall, rfl⟩) (hlast ▸ List.not_mem_nil)
  | some last =>
      rw [honly last (List.mem_of_getLast? hlast)]
      rfl

end CallChain
