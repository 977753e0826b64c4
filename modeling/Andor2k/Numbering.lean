/-
Numbered names.  Some names carry an index, the next name gets the index behind the
highest one in use.  As long as making a name and reading its index back agree, a new
name is never one in use, and the order in which the names in use are read is irrelevant.
-/
import Mathlib.Data.List.Perm.Basic
import Mathlib.Order.Lattice

namespace Numbering

universe u

variable {Name : Type u} (indexOf : Name → Option Int)

/-- The highest index in use; 0 when there is none. -/
def highest : List Name → Int
  | [] => 0
  | name :: rest => max ((indexOf name).getD 0) (highest rest)

theorem highest_nonneg (names : List Name) : 0 ≤ highest indexOf names := by
  induction names with
  | nil => exact Int.le_refl 0
  | cons name rest ih => exact ih.trans (le_max_right _ _)

theorem le_highest {names : List Name} {name : Name} {index : Int} (hmem : name ∈ names)
    (hindex : indexOf name = some index) : index ≤ highest indexOf names := by
  induction names with
  | nil => simp at hmem
  | cons first rest ih =>
      rcases List.mem_cons.mp hmem with rfl | hrest
      · simp only [highest, hindex, Option.getD_some]
        exact le_max_left _ _
      · exact (ih hrest).trans (le_max_right _ _)

theorem highest_perm {names other : List Name} (hperm : names.Perm other) :
    highest indexOf names = highest indexOf other := by
  induction hperm with
  | nil => rfl
  | cons name _ ih => simp only [highest, ih]
  | swap first second rest => simp only [highest, max_left_comm]
  | trans _ _ ihFirst ihSecond => exact ihFirst.trans ihSecond

/-- A name with the next index is not in use. -/
theorem not_mem_of_next_index {names : List Name} {name : Name}
    (hindex : indexOf name = some (highest indexOf names + 1)) : name ∉ names := by
  intro hmem
  have hle := le_highest indexOf hmem hindex
  omega

theorem highest_cons_next {names : List Name} {name : Name}
    (hindex : indexOf name = some (highest indexOf names + 1)) :
    highest indexOf (name :: names) = highest indexOf names + 1 := by
  simp only [highest, hindex, Option.getD_some]
  omega

/-- The names a number of allocations give, each in use from then on. -/
def allocate (make : Int → Name) : Nat → List Name → List Name
  | 0, _ => []
  | count + 1, names =>
      let name := make (highest indexOf names + 1)
      name :: allocate make count (name :: names)

variable {indexOf} {make : Int → Name} {bound : Int}

/-- Up to `bound`, the index of a made name is read back. -/
def ReadsBack (indexOf : Name → Option Int) (make : Int → Name) (bound : Int) : Prop :=
  ∀ index, 0 < index → index ≤ bound → indexOf (make index) = some index

theorem ReadsBack.next (hread : ReadsBack indexOf make bound) (names : List Name)
    (hroom : highest indexOf names + 1 ≤ bound) :
    indexOf (make (highest indexOf names + 1)) = some (highest indexOf names + 1) := by
  apply hread
  · have := highest_nonneg indexOf names
    omega
  · exact hroom

theorem length_allocate (count : Nat) (names : List Name) :
    (allocate indexOf make count names).length = count := by
  induction count generalizing names with
  | zero => rfl
  | succ count ih => simp only [allocate, List.length_cons, ih]

theorem exists_index_of_mem_allocate {count : Nat} {names : List Name} {name : Name}
    (hmem : name ∈ allocate indexOf make count names) : ∃ index, name = make index := by
  induction count generalizing names with
  | zero => simp [allocate] at hmem
  | succ count ih =>
      simp only [allocate] at hmem
      rcases List.mem_cons.mp hmem with rfl | hlater
      · exact ⟨_, rfl⟩
      · exact ih hlater

/-- Allocated names are not in use, and no two of them are the same. -/
theorem allocate_fresh (hread : ReadsBack indexOf make bound) {count : Nat}
    {names : List Name} (hroom : highest indexOf names + count ≤ bound) :
    (allocate indexOf make count names).Nodup ∧
      ∀ name ∈ allocate indexOf make count names, name ∉ names := by
  induction count generalizing names with
  | zero => simp [allocate]
  | succ count ih =>
      have hindex := hread.next names (by omega)
      have hhighest := highest_cons_next indexOf hindex
      obtain ⟨hnodup, hfresh⟩ := ih (by rw [hhighest]; omega)
      simp only [allocate]
      constructor
      · apply List.nodup_cons.mpr
        exact ⟨fun hmem => hfresh _ hmem List.mem_cons_self, hnodup⟩
      · intro name hname
        rcases List.mem_cons.mp hname with rfl | hlater
        · exact not_mem_of_next_index indexOf hindex
        · exact fun hmem => hfresh name hlater (List.mem_cons_of_mem _ hmem)

end Numbering
