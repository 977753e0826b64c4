/-
get_ntp_time: the time point out of the two 32-bit words of a reply.  The `double` of
fsec2millisec is an exact rational.
-/
import Mathlib.Tactic.IntervalCases
import Andor2k.CText
import Andor2k.Rounding

namespace Andor2k

open Rounding

/-- `while (dlow > 1) dlow /= 10e0;` -/
def scaledFraction (dlow : ℚ) : ℚ :=
  if 1 < dlow then scaledFraction (dlow / 10) else dlow
termination_by ⌊dlow⌋.toNat
decreasing_by
  rename_i habove
  have hone : 1 ≤ ⌊dlow⌋ := Int.le_floor.mpr (by exact_mod_cast habove.le)
  have hless : ⌊dlow / 10⌋ < ⌊dlow⌋ := by
    rw [Int.floor_lt]
    have hlow : dlow < ⌊dlow⌋ + 1 := Int.lt_floor_add_one dlow
    have hcast : (1 : ℚ) ≤ ⌊dlow⌋ := by exact_mod_cast hone
    linarith
  omega

/-- `static_cast<int>(std::round(dlow * 1e3))` -/
def fsec2millisec (fsec : UInt32) : ℤ := halfAway (scaledFraction fsec.toNat * 1000)

/-- `NTP_TIMESTAMP_DELTA` -/
def ntpTimestampDelta : UInt64 := 2208988800

/-- The time since the Unix epoch in nanoseconds, from `txTm_s` and `txTm_f`. -/
def getNtpTime (txTmS txTmF : UInt32) : ℤ :=
  let txTm := (txTmS.toUInt64 - ntpTimestampDelta).toInt64
  txTm.toInt * 1000000000 + fsec2millisec txTmF * 1000000

/-- The fraction counts 2^-32 seconds. -/
def repliedSeconds (seconds fraction : UInt32) : ℚ :=
  seconds.toNat - 2208988800 + fraction.toNat / 2 ^ 32

/-- At most a millisecond off, and not later than a larger fraction of the same second. -/
structure NtpTimeRight (seconds fraction : UInt32) : Prop where
  accurate : |(getNtpTime seconds fraction : ℚ) / 10 ^ 9 - repliedSeconds seconds fraction| ≤
    1 / 1000
  monotone : ∀ later, fraction ≤ later →
    getNtpTime seconds fraction ≤ getNtpTime seconds later

/-- The unsigned difference is read as a signed one. -/
theorem toInt_txTm (seconds : UInt32) :
    (seconds.toUInt64 - ntpTimestampDelta).toInt64.toInt = seconds.toNat - 2208988800 := by
  have hword := seconds.toNat_lt
  have hdelta : ntpTimestampDelta.toNat = 2208988800 := rfl
  have hdifference : (seconds.toUInt64 - ntpTimestampDelta).toNat =
      (2 ^ 64 - 2208988800 + seconds.toNat) % 2 ^ 64 := by
    rw [UInt64.toNat_sub, hdelta, UInt32.toNat_toUInt64]
  change (seconds.toUInt64 - ntpTimestampDelta).toBitVec.toInt = _
  rw [BitVec.toInt_eq_toNat_bmod, UInt64.toNat_toBitVec, hdifference, Int.bmod_def]
  omega

/-- The loop divides by the power of ten that leads below one. -/
theorem scaledFraction_spec (dlow : ℚ) :
    ∃ turns : ℕ, scaledFraction dlow = dlow / 10 ^ turns ∧ dlow ≤ 10 ^ turns ∧
      ∀ before, turns = before + 1 → 10 ^ before < dlow := by
  induction dlow using scaledFraction.induct with
  | case1 dlow habove ih =>
      obtain ⟨turns, hscaled, hupper, hlower⟩ := ih
      refine ⟨turns + 1, ?_, ?_, ?_⟩
      · rw [scaledFraction, if_pos habove, hscaled, pow_succ, div_div, mul_comm]
      · rw [pow_succ]
        linarith
      · rintro before heq
        obtain rfl : turns = before := Nat.succ.inj heq
        rcases turns with _ | earlier
        · simpa using habove
        · have hbefore := hlower earlier rfl
          rw [pow_succ]
          linarith
  | case2 dlow hbelow =>
      refine ⟨0, ?_, ?_, ?_⟩
      · rw [scaledFraction, if_neg hbelow]
        simp
      · simpa using hbelow
      · rintro before heq
        cases heq

/-- A count that is not zero is taken for at least a fourteenth of a second more or less than
it stands for. -/
theorem scaledFraction_far {count : ℚ} (hone : 1 ≤ count) (hhigh : count < 2 ^ 32) :
    1 / 14 < |scaledFraction count - count / 2 ^ 32| := by
  obtain ⟨turns, hscaled, hupper, hlower⟩ := scaledFraction_spec count
  have hlow : 10 ^ turns / 10 < count := by
    rcases turns with _ | before
    · norm_num
      linarith
    · have hbefore := hlower before rfl
      rw [pow_succ]
      linarith
  have hturns : turns ≤ 10 := by
    by_contra hmany
    have hten : (10 : ℚ) ^ 11 ≤ 10 ^ turns := pow_le_pow_right₀ (by norm_num) (by omega)
    norm_num at hten hhigh
    linarith
  rw [hscaled, lt_abs]
  by_cases hlast : turns = 10
  · subst hlast
    refine Or.inr ?_
    norm_num at hlow ⊢
    linarith
  · refine Or.inl ?_
    have hfew : turns ≤ 9 := by omega
    interval_cases turns
    all_goals
      norm_num at hlow ⊢
      linarith

/-- The time point is off by as much as the milliseconds are. -/
theorem getNtpTime_error (seconds fraction : UInt32) :
    (getNtpTime seconds fraction : ℚ) / 10 ^ 9 - repliedSeconds seconds fraction =
      fsec2millisec fraction / 1000 - fraction.toNat / 2 ^ 32 := by
  rw [getNtpTime, toInt_txTm, repliedSeconds]
  push_cast
  ring

theorem fsec2millisec_far {fraction : UInt32} (hfraction : fraction ≠ 0) :
    1 / 1000 < |(fsec2millisec fraction : ℚ) / 1000 - fraction.toNat / 2 ^ 32| := by
  have hpositive : 0 < fraction.toNat := by
    rw [Nat.pos_iff_ne_zero]
    intro hzero
    exact hfraction (UInt32.toNat_inj.mp hzero)
  have hone : (1 : ℚ) ≤ fraction.toNat := by exact_mod_cast hpositive
  have hhigh : (fraction.toNat : ℚ) < 2 ^ 32 := by exact_mod_cast fraction.toNat_lt
  have hround := abs_le.mp (abs_halfAway_sub_le (scaledFraction fraction.toNat * 1000))
  rw [fsec2millisec, lt_abs]
  rcases lt_abs.mp (scaledFraction_far hone hhigh) with hfar | hfar
  · refine Or.inl ?_
    linarith
  · refine Or.inr ?_
    linarith

theorem fsec2millisec_zero : fsec2millisec 0 = 0 := by
  have hscaled : scaledFraction ((0 : UInt32).toNat : ℚ) = 0 := by
    rw [scaledFraction, if_neg (by norm_num)]
    norm_num
  rw [fsec2millisec, hscaled]
  norm_num [halfAway]

theorem fsec2millisec_nonneg (fraction : UInt32) : 0 ≤ fsec2millisec fraction := by
  obtain ⟨turns, hscaled, -, -⟩ := scaledFraction_spec fraction.toNat
  apply halfAway_nonneg
  rw [hscaled]
  positivity

theorem getNtpTime_le_iff (seconds first second : UInt32) :
    getNtpTime seconds first ≤ getNtpTime seconds second ↔
      fsec2millisec first ≤ fsec2millisec second := by
  simp only [getNtpTime]
  omega

theorem ntpTimeRight_zero (seconds : UInt32) : NtpTimeRight seconds 0 := by
  refine ⟨?_, ?_⟩
  · rw [getNtpTime_error, fsec2millisec_zero]
    norm_num
  · intro later _
    rw [getNtpTime_le_iff, fsec2millisec_zero]
    exact fsec2millisec_nonneg later

theorem not_ntpTimeRight {seconds fraction : UInt32} (hfraction : fraction ≠ 0) :
    ¬ NtpTimeRight seconds fraction := by
  intro hright
  have haccurate := hright.accurate
  rw [getNtpTime_error] at haccurate
  exact absurd (fsec2millisec_far hfraction) (not_lt.mpr haccurate)

/-- A count of one is not divided at all, a count of two is taken for two tenths. -/
theorem fsec2millisec_two_lt_one : fsec2millisec 2 < fsec2millisec 1 := by
  have hone : scaledFraction ((1 : UInt32).toNat : ℚ) = 1 := by
    change scaledFraction (1 : ℕ) = 1
    rw [scaledFraction, if_neg (by norm_num), Nat.cast_one]
  have htwo : scaledFraction ((2 : UInt32).toNat : ℚ) = 1 / 5 := by
    change scaledFraction (2 : ℕ) = 1 / 5
    rw [scaledFraction, if_pos (by norm_num), scaledFraction, if_neg (by norm_num)]
    norm_num
  rw [fsec2millisec, fsec2millisec, hone, htwo]
  decide +kernel

/-- The time point is right at the full seconds only; and in no second does it grow with the
fraction. -/
theorem ntpTimeRight_iff (seconds fraction : UInt32) :
    (NtpTimeRight seconds fraction ↔ fraction = 0) ∧
      ¬ ∀ earlier later, earlier ≤ later →
        getNtpTime seconds earlier ≤ getNtpTime seconds later := by
  refine ⟨⟨?_, ?_⟩, ?_⟩
  · intro hright
    by_contra hfraction
    exact not_ntpTimeRight hfraction hright
  · rintro rfl
    exact ntpTimeRight_zero seconds
  · intro hmonotone
    have hle := hmonotone 1 2 (by decide)
    rw [getNtpTime_le_iff] at hle
    exact absurd fsec2millisec_two_lt_one (not_lt.mpr hle)

/-- Half a second into 2024 is taken for 215 milliseconds. -/
theorem half_second_is_lost :
    getNtpTime 3913056000 2147483648 = 1704067200215000000 ∧
      ¬ NtpTimeRight 3913056000 2147483648 := by
  have hscaled : scaledFraction ((2147483648 : UInt32).toNat : ℚ) = 2147483648 / 10 ^ 10 := by
    change scaledFraction (2147483648 : ℕ) = 2147483648 / 10 ^ 10
    iterate 10 rw [scaledFraction, if_pos (by norm_num)]
    rw [scaledFraction, if_neg (by norm_num)]
    norm_num
  have hmillisec : fsec2millisec 2147483648 = 215 := by
    rw [fsec2millisec, hscaled]
    decide +kernel
  refine ⟨?_, not_ntpTimeRight (by decide)⟩
  rw [getNtpTime, hmillisec]
  decide +kernel

end Andor2k
