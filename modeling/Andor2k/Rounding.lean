/-
Rounding a rational to an integer as `std::round` does: to the nearest one, halves away
from zero.
-/
import Mathlib.Data.Rat.Floor
import Mathlib.Tactic.Linarith
import Mathlib.Tactic.NormNum
import Mathlib.Tactic.Ring

namespace Rounding

/-- `std::round` -/
def halfAway (x : ℚ) : ℤ := if 0 ≤ x then ⌊x + 1 / 2⌋ else -⌊-x + 1 / 2⌋

theorem halfAway_of_nonneg {x : ℚ} (hx : 0 ≤ x) : halfAway x = ⌊x + 1 / 2⌋ := if_pos hx

theorem halfAway_neg (x : ℚ) : halfAway (-x) = -halfAway x := by
  rcases lt_trichotomy x 0 with hx | rfl | hx
  · rw [halfAway, halfAway, if_pos (by linarith), if_neg (by linarith), neg_neg]
  · norm_num [halfAway]
  · rw [halfAway, halfAway, if_neg (by linarith), if_pos hx.le, neg_neg]

/-- Above zero an integer is reached half a unit early. -/
theorem le_halfAway_iff {x : ℚ} {bound : ℤ} (hbound : 0 < bound) :
    bound ≤ halfAway x ↔ bound - 1 / 2 ≤ x := by
  have hone : (1 : ℚ) ≤ bound := by exact_mod_cast hbound
  by_cases hx : 0 ≤ x
  · rw [halfAway_of_nonneg hx, Int.le_floor]
    constructor
    · intro hle
      linarith
    · intro hle
      linarith
  · have hfloor : 0 ≤ ⌊-x + 1 / 2⌋ := by
      rw [Int.floor_nonneg]
      linarith
    rw [halfAway, if_neg hx]
    constructor
    · intro hle
      omega
    · intro hle
      linarith

theorem halfAway_le_neg_iff {x : ℚ} {bound : ℤ} (hbound : 0 < bound) :
    halfAway x ≤ -bound ↔ x ≤ -(bound - 1 / 2) := by
  have hmirror := @le_halfAway_iff (-x) bound hbound
  rw [halfAway_neg] at hmirror
  rw [le_neg, hmirror]
  constructor
  · intro hle
    linarith
  · intro hle
    linarith

/-- Both numbers have passed the same halves on the way from zero. -/
def SameHalves (x y : ℚ) : Prop :=
  ∀ bound : ℤ, 0 < bound →
    (bound - 1 / 2 ≤ x ↔ bound - 1 / 2 ≤ y) ∧
      (x ≤ -(bound - 1 / 2) ↔ y ≤ -(bound - 1 / 2))

theorem halfAway_eq_iff {x y : ℚ} : halfAway x = halfAway y ↔ SameHalves x y := by
  constructor
  · intro hsame bound hbound
    rw [← le_halfAway_iff hbound, ← le_halfAway_iff hbound, ← halfAway_le_neg_iff hbound,
      ← halfAway_le_neg_iff hbound, hsame]
    exact ⟨Iff.rfl, Iff.rfl⟩
  · intro hhalves
    have hreach : ∀ bound : ℤ, 0 < bound →
        (bound ≤ halfAway x ↔ bound ≤ halfAway y) ∧
          (halfAway x ≤ -bound ↔ halfAway y ≤ -bound) := by
      intro bound hbound
      rw [le_halfAway_iff hbound, le_halfAway_iff hbound, halfAway_le_neg_iff hbound,
        halfAway_le_neg_iff hbound]
      exact hhalves bound hbound
    rcases lt_trichotomy (halfAway x) (halfAway y) with hlt | heq | hlt
    · by_cases hpositive : 0 < halfAway y
      · have := (hreach _ hpositive).1
        omega
      · have := (hreach (-halfAway x) (by omega)).2
        omega
    · exact heq
    · by_cases hpositive : 0 < halfAway x
      · have := (hreach _ hpositive).1
        omega
      · have := (hreach (-halfAway y) (by omega)).2
        omega

theorem abs_halfAway_sub_le (x : ℚ) : |(halfAway x : ℚ) - x| ≤ 1 / 2 := by
  have hnonneg : ∀ y : ℚ, 0 ≤ y → |(halfAway y : ℚ) - y| ≤ 1 / 2 := by
    intro y hy
    have hlow := Int.floor_le (y + 1 / 2)
    have hhigh := Int.lt_floor_add_one (y + 1 / 2)
    rw [halfAway_of_nonneg hy, abs_le]
    constructor <;> linarith
  rcases le_total 0 x with hx | hx
  · exact hnonneg x hx
  · have hmirror := hnonneg (-x) (by linarith)
    rw [halfAway_neg, Int.cast_neg] at hmirror
    rw [← abs_neg]
    have hflip : -((halfAway x : ℚ) - x) = -(halfAway x : ℚ) - -x := by ring
    rwa [hflip]

/-- Numbers that round to the same integer are less than one apart. -/
theorem sub_lt_one_of_eq {x y : ℚ} (hsame : halfAway x = halfAway y) : y - x < 1 := by
  by_contra hfar
  rcases lt_trichotomy (halfAway x) 0 with hnegative | hzero | hpositive
  · -- one below is reached by `x` as `y` has reached the common value
    have hy := (@halfAway_le_neg_iff y (-halfAway x) (by omega)).mp (by omega)
    have hx := (@halfAway_le_neg_iff x (-halfAway x + 1) (by omega)).mpr
      (by push_cast at hy ⊢; linarith)
    omega
  · have hx : ¬ x ≤ -((1 : ℤ) - 1 / 2) := fun hle => by
      have := (@halfAway_le_neg_iff x 1 (by omega)).mpr hle
      omega
    have hy : ¬ ((1 : ℤ) - 1 / 2 : ℚ) ≤ y := fun hle => by
      have := (@le_halfAway_iff y 1 (by omega)).mpr hle
      omega
    push_cast at hx hy
    linarith
  · have hx := (@le_halfAway_iff x (halfAway x) hpositive).mp le_rfl
    have hy := (@le_halfAway_iff y (halfAway x + 1) (by omega)).mpr
      (by push_cast; linarith)
    omega

theorem halfAway_nonneg {x : ℚ} (hx : 0 ≤ x) : 0 ≤ halfAway x := by
  rw [halfAway_of_nonneg hx, Int.floor_nonneg]
  linarith

end Rounding
