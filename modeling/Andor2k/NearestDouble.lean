/-
Arithmetic in `double`: the exact result, rounded to the nearest double.
-/
import Mathlib.Data.Rat.Floor
import Mathlib.Tactic.Linarith
import Mathlib.Tactic.NormNum
import Mathlib.Tactic.Positivity
import Andor2k.Ieee

namespace Ieee

namespace Format

/-- A ratio of at least two has a binary logarithm of at least one. -/
theorem one_le_floorLog2 {num den : Nat} (hden : den ≠ 0) (htwo : den * 2 ≤ num) :
    1 ≤ floorLog2 num den := by
  have hlog : Nat.log2 den + 1 ≤ Nat.log2 num := by
    rw [Nat.le_log2 (by omega), pow_succ]
    exact (Nat.mul_le_mul_right 2 (Nat.log2_self_le hden)).trans htwo
  unfold floorLog2
  by_cases hclose : Nat.log2 num = Nat.log2 den + 1
  · have hguess : (Nat.log2 num : Int) - Nat.log2 den = 1 := by omega
    simp [hguess, htwo]
  · simp only []
    split_ifs
    all_goals omega

/-- Rounding does not go below the unit. -/
theorem unit_le_round {num den : Nat} (hden : den ≠ 0) (htwo : den * 2 ≤ num) :
    1023 * double.hidden ≤ double.round num den := by
  have hlog := one_le_floorLog2 hden htwo
  have hscale : (1023 : Int) ≤
      max (floorLog2 num den - (double.precision - 1)) double.minScale - double.minScale := by
    have hleft := le_max_left (floorLog2 num den - (double.precision - 1)) double.minScale
    have hminScale : double.minScale = -1074 := by decide
    have hprecision : (double.precision : Int) - 1 = 52 := by decide
    omega
  unfold round
  rw [if_neg (by omega)]
  simp only []
  refine le_min (by decide) (le_add_right (Nat.mul_le_mul_right _ ?_))
  omega

theorem unit_le_ratio {magnitude : Nat} (hunit : 1023 * double.hidden ≤ magnitude) :
    (double.ratio magnitude).2 ≤ (double.ratio magnitude).1 := by
  have hhidden : double.hidden = 2 ^ 52 := by decide
  have hfield : 1023 ≤ magnitude / double.hidden :=
    (Nat.le_div_iff_mul_le (by decide)).mpr hunit
  have hminScale : double.minScale = -1074 := by decide
  unfold ratio
  simp only [if_neg (by omega : ¬ magnitude / double.hidden = 0)]
  split_ifs with hscale
  · exact Nat.mul_pos (by omega) (Nat.two_pow_pos _)
  · calc
      2 ^ (-(double.minScale + ((magnitude / double.hidden - 1 : Nat) : Int))).toNat ≤ 2 ^ 52 :=
        Nat.pow_le_pow_right (by decide) (by omega)
      _ ≤ double.hidden + magnitude % double.hidden := by omega

theorem ratio_den_pos (format : Format) (magnitude : Nat) : 0 < (format.ratio magnitude).2 := by
  by_cases hscale : 0 ≤ format.minScale + (magnitude / format.hidden - 1 : Nat)
  · simp [ratio, hscale]
  · simp [ratio, hscale]

end Format

/-- The value of a double that is not negative. -/
def doubleValue (magnitude : Nat) : ℚ :=
  let (num, den) := double.ratio magnitude
  num / den

/-- The double nearest to a rational. -/
def nearestDouble (x : ℚ) : ℚ :=
  let nearest := doubleValue (double.round x.num.natAbs x.den)
  if x < 0 then -nearest else nearest

/-- The conversion to an integer type that can hold the result. -/
def truncated (x : ℚ) : Int := x.num.tdiv x.den

theorem doubleValue_nonneg (magnitude : Nat) : 0 ≤ doubleValue magnitude := by
  unfold doubleValue
  positivity

theorem nearestDouble_nonneg {x : ℚ} (hx : 0 ≤ x) : 0 ≤ nearestDouble x := by
  unfold nearestDouble
  rw [if_neg (not_lt.mpr hx)]
  exact doubleValue_nonneg _

/-- Two is far enough from one for the rounding not to get below it. -/
theorem one_le_nearestDouble {x : ℚ} (hx : 2 ≤ x) : 1 ≤ nearestDouble x := by
  have hratio : x.den * 2 ≤ x.num.natAbs := by
    have hden : (0 : ℚ) < x.den := by exact_mod_cast x.den_pos
    have hnum : (x.den * 2 : ℚ) ≤ x.num := by
      rw [← Rat.num_div_den x, le_div_iff₀ hden] at hx
      linarith
    have hint : (x.den * 2 : Int) ≤ x.num := by exact_mod_cast hnum
    omega
  have hunit := Format.unit_le_ratio (Format.unit_le_round x.den_nz hratio)
  have hpos := Format.ratio_den_pos double (double.round x.num.natAbs x.den)
  unfold nearestDouble doubleValue
  rw [if_neg (by linarith)]
  simp only []
  rw [le_div_iff₀ (by exact_mod_cast hpos), one_mul]
  exact_mod_cast hunit

theorem one_le_truncated {x : ℚ} (hx : 1 ≤ x) : 1 ≤ truncated x := by
  have hfloor : 1 ≤ ⌊x⌋ := Int.le_floor.mpr (by exact_mod_cast hx)
  have hnum : 0 ≤ x.num := Rat.num_nonneg.mpr (by linarith)
  rw [truncated, Int.tdiv_eq_ediv_of_nonneg hnum, ← Rat.floor_def]
  exact hfloor

end Ieee
