/-
Updates that treat every cell of a state apart, where the last write counts: of the maps
that may act on a cell, the later of two equal ones hides what the earlier one did, whatever
came between.  Such an update need not be made when it is made again later.
-/
import Mathlib.Data.Set.Insert
import Mathlib.Logic.Function.Basic

namespace LastWrites

universe u v w

variable {State : Type u} {Cell : Type v} {Value : Type w}

/-- The maps that may act on a cell. -/
structure Family (Value : Type w) where
  maps : Set (Value → Value)
  id_mem : id ∈ maps
  comp_mem : ∀ {first second}, first ∈ maps → second ∈ maps → second ∘ first ∈ maps
  hides : ∀ {map other}, map ∈ maps → other ∈ maps →
    ∀ value, map (other (map value)) = map (other value)

/-- Nothing, the writing of any value, and one map more. -/
def Family.constantsAnd (extra : Value → Value)
    (htwice : ∀ value, extra (extra value) = extra value) : Family Value where
  maps := {map | map = id ∨ map = extra ∨ ∃ written, map = Function.const Value written}
  id_mem := Or.inl rfl
  comp_mem := by
    intro first second hfirst hsecond
    rcases hsecond with rfl | rfl | ⟨written, rfl⟩
    · exact hfirst
    · rcases hfirst with rfl | rfl | ⟨written, rfl⟩
      · exact Or.inr (Or.inl rfl)
      · exact Or.inr (Or.inl (funext htwice))
      · exact Or.inr (Or.inr ⟨second written, rfl⟩)
    · exact Or.inr (Or.inr ⟨written, rfl⟩)
  hides := by
    intro map other hmap hother value
    rcases hmap with rfl | rfl | ⟨written, rfl⟩
    · rfl
    · rcases hother with rfl | rfl | ⟨written, rfl⟩
      · exact htwice value
      · rw [htwice]
      · rfl
    · rfl

variable (family : Family Value) (view : State → Cell → Value)

/-- The update acts on each cell by a map of the family. -/
def Cellwise (run : State → State) : Prop :=
  ∃ action : Cell → Value → Value, (∀ cell, action cell ∈ family.maps) ∧
    ∀ state cell, view (run state) cell = action cell (view state cell)

variable {family view}

theorem cellwise_id : Cellwise family view id :=
  ⟨fun _ => id, fun _ => family.id_mem, fun _ _ => rfl⟩

theorem Cellwise.comp {first second : State → State} (hfirst : Cellwise family view first)
    (hsecond : Cellwise family view second) : Cellwise family view (second ∘ first) := by
  obtain ⟨action, haction, hrun⟩ := hfirst
  obtain ⟨later, hlater, hthen⟩ := hsecond
  refine ⟨fun cell => later cell ∘ action cell, fun cell => ?_, fun state cell => ?_⟩
  · exact family.comp_mem (haction cell) (hlater cell)
  · rw [Function.comp_apply, hthen, hrun]
    rfl

/-- What is made again later need not have been made before. -/
theorem Cellwise.hides (hview : Function.Injective view) {run other : State → State}
    (hrun : Cellwise family view run) (hother : Cellwise family view other) (state : State) :
    run (other (run state)) = run (other state) := by
  obtain ⟨action, haction, hacts⟩ := hrun
  obtain ⟨between, hbetween, hactsBetween⟩ := hother
  apply hview
  funext cell
  calc view (run (other (run state))) cell
      = action cell (between cell (action cell (view state cell))) := by
        rw [hacts, hactsBetween, hacts]
    _ = action cell (between cell (view state cell)) :=
        family.hides (haction cell) (hbetween cell) _
    _ = view (run (other state)) cell := by rw [hacts, hactsBetween]

end LastWrites
