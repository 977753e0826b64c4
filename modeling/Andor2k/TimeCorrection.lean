/-
start_time_correction as setup_acquisition calls it: the nanoseconds of TIMECORR.  The
`float`s and `double`s are exact rationals; the exposure is in seconds, the vertical speed in
microseconds per row and the horizontal one, as GetHSSpeed gives it, in MHz.
-/
import Mathlib.Tactic.FieldSimp
import Mathlib.Tactic.Positivity
import Andor2k.ImageWindow
import Andor2k.Rounding

namespace Andor2k

open CText Rounding

def startTimeCorrectionImpl (exposure vsspeed hsspeed : ℚ) (imgRows imgCols : Int) :
    Checked ℚ := do
  let pixels ← checkInt (imgCols * imgRows)
  let readoutTime := imgRows * vsspeed + pixels * hsspeed
  let ftTime := imgRows * vsspeed
  return readoutTime * 1000 + ftTime * 1000 + exposure * 1000000000

/-- `long lcorr_ns = std::round(corr_ns);` where the value has to be a `long`. -/
def roundToLong (value : ℚ) : Checked Int :=
  if -2 ^ 63 ≤ halfAway value ∧ halfAway value < 2 ^ 63 then .ok (halfAway value)
  else .error .signedOverflow

def startTimeCorrection (exposure vsspeed hsspeed : ℚ) (imgRows imgCols : Int) :
    Checked Int := do
  let corrNs ← startTimeCorrectionImpl exposure vsspeed hsspeed imgRows imgCols
  roundToLong corrNs

/-- What `setup_acquisition` puts under TIMECORR, once the size of the image is computed. -/
def setupTimecorr (params : AndorParameters) (actualExposure vsspeed hsspeedMhz : ℚ) :
    Checked (Option Int) := do
  match ← imageSize params with
  | none => return none
  | some (xnumpixels, ynumpixels) =>
      let startTimeCor ← startTimeCorrection actualExposure vsspeed hsspeedMhz ynumpixels xnumpixels
      return some startTimeCor

/-- The exposure, two vertical transfers and the time to read all pixels, in nanoseconds. -/
def timeToRead (exposure vsspeed mhz : ℚ) (rows cols : Nat) : ℚ :=
  10 ^ 9 * exposure + 1000 * (2 * rows * vsspeed + rows * cols / mhz)

/-- The nanoseconds by which a rate in MHz differs from a time in microseconds for all pixels. -/
def rateError (mhz : ℚ) (rows cols : Nat) : ℚ := 1000 * (rows * cols) * (mhz - 1 / mhz)

/-- The value rounds to a `long`. -/
def RoundsToLong (value : ℚ) : Prop := -2 ^ 63 ≤ halfAway value ∧ halfAway value < 2 ^ 63

theorem startTimeCorrectionImpl_eq (exposure vsspeed mhz : ℚ) {rows cols : Nat}
    (hrows : rows ≤ 2048) (hcols : cols ≤ 2048) :
    startTimeCorrectionImpl exposure vsspeed mhz rows cols =
      .ok (timeToRead exposure vsspeed mhz rows cols + rateError mhz rows cols) := by
  have hpixels : cols * rows ≤ 2048 * 2048 := Nat.mul_le_mul hcols hrows
  have hint : checkInt ((cols : Int) * rows) = .ok (cols * rows) := by
    refine checkInt_eq_ok.mpr ⟨?_, rfl⟩
    have hcast : ((cols * rows : Nat) : Int) = cols * rows := Int.natCast_mul cols rows
    omega
  refine (checked_bind_ok hint _).trans ?_
  refine congrArg Except.ok ?_
  rw [timeToRead, rateError]
  push_cast
  ring

theorem roundToLong_eq_ok {value : ℚ} {result : Int} :
    roundToLong value = .ok result ↔ RoundsToLong value ∧ halfAway value = result :=
  checked_ite_eq_ok

section Setup

variable {params : AndorParameters} {exposure vsspeed mhz : ℚ} {cols rows : Nat}

/-- The header says how long it takes to expose and to read the image. -/
def TimecorrRight (params : AndorParameters) (exposure vsspeed mhz : ℚ) (rows cols : Nat) :
    Prop :=
  setupTimecorr params exposure vsspeed mhz =
    .ok (some (halfAway (timeToRead exposure vsspeed mhz rows cols)))

theorem setupTimecorr_eq_ok (hsize : imageSize params = .ok (some (cols, rows))) {result : Int} :
    setupTimecorr params exposure vsspeed mhz = .ok (some result) ↔
      RoundsToLong (timeToRead exposure vsspeed mhz rows cols + rateError mhz rows cols) ∧
        halfAway (timeToRead exposure vsspeed mhz rows cols + rateError mhz rows cols) =
          result := by
  obtain ⟨⟨-, hcols⟩, -, hrows⟩ := imageSize_range hsize
  have himpl := startTimeCorrectionImpl_eq exposure vsspeed mhz hrows hcols
  rw [← roundToLong_eq_ok, setupTimecorr, checked_bind_ok hsize]
  simp only [startTimeCorrection, checked_bind_ok himpl]
  rw [checked_bind_eq_ok]
  constructor
  · rintro ⟨value, hvalue, heq⟩
    rw [hvalue, Option.some.inj (Except.ok.inj heq)]
  · intro hvalue
    exact ⟨result, hvalue, rfl⟩

theorem rateError_one : rateError 1 rows cols = 0 := by
  simp [rateError]

/-- TIMECORR is right at one pixel a microsecond.  At any other rate it is at most where the
error is below a nanosecond and is lost in the rounding. -/
theorem timecorr_right_iff (params : AndorParameters) (exposure vsspeed mhz : ℚ)
    (cols rows : Nat) (hsize : imageSize params = .ok (some (cols, rows))) :
    TimecorrRight params exposure vsspeed mhz rows cols ↔
      RoundsToLong (timeToRead exposure vsspeed mhz rows cols) ∧
        (mhz = 1 ∨ (|rateError mhz rows cols| < 1 ∧
          SameHalves (timeToRead exposure vsspeed mhz rows cols)
            (timeToRead exposure vsspeed mhz rows cols + rateError mhz rows cols))) := by
  rw [TimecorrRight, setupTimecorr_eq_ok hsize]
  constructor
  · rintro ⟨hlong, hsame⟩
    have hdocumented : RoundsToLong (timeToRead exposure vsspeed mhz rows cols) := by
      rw [RoundsToLong, ← hsame]
      exact hlong
    refine ⟨hdocumented, Or.inr ⟨?_, halfAway_eq_iff.mp hsame.symm⟩⟩
    have hover := sub_lt_one_of_eq hsame
    have hunder := sub_lt_one_of_eq hsame.symm
    rw [abs_lt]
    constructor
    · linarith
    · linarith
  · rintro ⟨hlong, hrate⟩
    have hsame : halfAway (timeToRead exposure vsspeed mhz rows cols + rateError mhz rows cols) =
        halfAway (timeToRead exposure vsspeed mhz rows cols) := by
      rcases hrate with rfl | ⟨-, hhalves⟩
      · rw [rateError_one, add_zero]
      · exact (halfAway_eq_iff.mpr hhalves).symm
    refine ⟨?_, hsame⟩
    rw [RoundsToLong, hsame]
    exact hlong

end Setup

/-- A tenth of a second and 16 microseconds a row, for the whole detector. -/
theorem one_megahertz_timecorr_right :
    TimecorrRight (AndorParameters.initial []) (1 / 10) 16 1 2048 2048 :=
  (timecorr_right_iff (AndorParameters.initial []) (1 / 10) 16 1 2048 2048 (by decide)).mpr
    ⟨⟨by decide +kernel, by decide +kernel⟩, Or.inl rfl⟩

/-- At 3 MHz the time to read the pixels is taken nine times as long as it is. -/
theorem three_megahertz_timecorr_wrong :
    setupTimecorr (AndorParameters.initial []) (1 / 10) 16 3 = .ok (some 12748448000) ∧
      halfAway (timeToRead (1 / 10) 16 3 2048 2048) = 1563637333 ∧
      ¬ TimecorrRight (AndorParameters.initial []) (1 / 10) 16 3 2048 2048 := by
  have hmade : setupTimecorr (AndorParameters.initial []) (1 / 10) 16 3 =
      .ok (some 12748448000) := by
    decide +kernel
  have hasked : halfAway (timeToRead (1 / 10) 16 3 2048 2048) = 1563637333 := by
    decide +kernel
  refine ⟨hmade, hasked, ?_⟩
  rw [TimecorrRight, hmade, hasked]
  decide

end Andor2k
