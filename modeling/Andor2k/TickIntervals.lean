/-
exp2tick_every and exposure2tick_every: the milliseconds a reporter sleeps between two
messages.  A `long` is an `Int`; the exposure times are between 1 and the largest `long`.
-/
import Andor2k.CText

namespace Andor2k

open CText

/-- The `int` a `long` is converted to. -/
def narrowed (value : Int) : Int := value.bmod (2 ^ 32)

theorem narrowed_eq_self_iff {value : Int} :
    narrowed value = value ↔ -2 ^ 31 ≤ value ∧ value < 2 ^ 31 := by
  rw [narrowed, Int.bmod_def]
  omega

/-- A quotient of two `long`s. -/
def divLong (first second : Int) : Checked Int :=
  if second = 0 then .error .divisionByZero else .ok (first.tdiv second)

/-- What is returned, and the `long`s that were converted to `int` on the way. -/
structure Tick where
  every : Int
  conversions : List Int
deriving DecidableEq, Repr

/-- `return value;` out of a function that returns an `int`. -/
def Tick.returned (value : Int) : Tick := ⟨narrowed value, [value]⟩

def exp2tickEvery (iexp : Int) : Checked Tick :=
  let minTick := 500
  let maxTick := 5000
  if iexp < minTick then .ok (.returned iexp)
  else if iexp < 2000 then .ok (.returned (iexp.tdiv 2))
  else if iexp < 5000 then .ok (.returned (iexp.tdiv 3))
  else if iexp < 10000 then .ok (.returned (iexp.tdiv 4))
  else if iexp < 20000 then .ok (.returned (iexp.tdiv 6))
  else if iexp < 60000 then .ok (.returned (iexp.tdiv 10))
  else if iexp < 120000 then .ok (.returned (iexp.tdiv 15))
  else if iexp < 5 * 60000 then .ok (.returned (iexp.tdiv 20))
  else do
    -- `int nr = iexp / max_tick;`
    let nr := narrowed (iexp.tdiv maxTick)
    let every ← divLong iexp nr
    return ⟨narrowed every, [iexp.tdiv maxTick, every]⟩

/-- The copy in get_acquisition.cpp. -/
def exposure2tickEvery (iexp : Int) : Checked Tick :=
  let minTick := 500
  let maxTick := 5000
  if iexp < minTick then .ok (.returned iexp)
  else if iexp < 2000 then .ok (.returned (iexp.tdiv 2))
  else if iexp < 5000 then .ok (.returned (iexp.tdiv 3))
  else if iexp < 10000 then .ok (.returned (iexp.tdiv 4))
  else if iexp < 20000 then .ok (.returned (iexp.tdiv 6))
  else if iexp < 60000 then .ok (.returned (iexp.tdiv 10))
  else if iexp < 120000 then .ok (.returned (iexp.tdiv 15))
  else if iexp < 5 * 60000 then .ok (.returned (iexp.tdiv 20))
  else do
    let nr := narrowed (iexp.tdiv maxTick)
    let every ← divLong iexp nr
    return ⟨narrowed every, [iexp.tdiv maxTick, every]⟩

/-- A reporter that sleeps, and not past the exposure or for 15 seconds. -/
structure Tick.Moderate (tick : Tick) (iexp : Int) : Prop where
  lossless : ∀ value ∈ tick.conversions, narrowed value = value
  sleeps : 1 ≤ tick.every
  within : tick.every ≤ iexp
  prompt : tick.every < 15000

/-- Both functions answer an exposure time with the same moderate tick. -/
def TicksModerately (iexp : Int) : Prop :=
  ∃ tick other, exp2tickEvery iexp = .ok tick ∧ exposure2tickEvery iexp = .ok other ∧
    other.every = tick.every ∧ tick.Moderate iexp ∧ other.Moderate iexp

theorem exposure2tickEvery_eq (iexp : Int) : exposure2tickEvery iexp = exp2tickEvery iexp := rfl

theorem moderate_returned {value iexp : Int} (hsleeps : 1 ≤ value) (hwithin : value ≤ iexp)
    (hprompt : value < 15000) : (Tick.returned value).Moderate iexp := by
  have hlossless : narrowed value = value := by
    rw [narrowed_eq_self_iff]
    omega
  refine ⟨?_, ?_, ?_, ?_⟩
  · intro converted hconverted
    obtain rfl := List.mem_singleton.mp hconverted
    exact hlossless
  · simpa only [Tick.returned, hlossless] using hsleeps
  · simpa only [Tick.returned, hlossless] using hwithin
  · simpa only [Tick.returned, hlossless] using hprompt

/-- A range in which a fixed divisor is used. -/
theorem moderate_quotient {iexp divisor : Int} (hdivisor : 0 < divisor) (hlow : divisor ≤ iexp)
    (hhigh : iexp < 15000 * divisor) :
    (Tick.returned (iexp.tdiv divisor)).Moderate iexp := by
  rw [Int.tdiv_eq_ediv_of_nonneg (by omega)]
  apply moderate_returned
  · apply Int.le_ediv_of_mul_le hdivisor
    omega
  · exact Int.ediv_le_self _ (by omega)
  · exact Int.ediv_lt_of_lt_mul hdivisor hhigh

/-- The last range: the quotient that is the divisor has to fit an `int`. -/
theorem moderate_longExposure {iexp : Int} (hlow : 300000 ≤ iexp) (hhigh : iexp < 5000 * 2 ^ 31) :
    ∃ every, divLong iexp (narrowed (iexp.tdiv 5000)) = .ok every ∧
      Tick.Moderate ⟨narrowed every, [iexp.tdiv 5000, every]⟩ iexp := by
  have hquotient : iexp.tdiv 5000 = iexp / 5000 := Int.tdiv_eq_ediv_of_nonneg (by omega)
  have hnr : narrowed (iexp.tdiv 5000) = iexp.tdiv 5000 := by
    rw [narrowed_eq_self_iff, hquotient]
    omega
  have hmany : 60 ≤ iexp / 5000 := by omega
  have hmoderate : (Tick.returned (iexp.tdiv (iexp / 5000))).Moderate iexp := by
    apply moderate_quotient <;> omega
  refine ⟨iexp.tdiv (iexp / 5000), ?_, ?_, hmoderate.sleeps, hmoderate.within,
    hmoderate.prompt⟩
  · rw [hnr, divLong, hquotient, if_neg (by omega)]
  · intro converted hconverted
    rcases List.mem_cons.mp hconverted with rfl | hlast
    · exact hnr
    · exact hmoderate.lossless converted hlast

theorem exp2tickEvery_moderate {iexp : Int} (hpositive : 1 ≤ iexp) (hhigh : iexp < 5000 * 2 ^ 31) :
    ∃ tick, exp2tickEvery iexp = .ok tick ∧ tick.Moderate iexp := by
  unfold exp2tickEvery
  simp only []
  split_ifs
  · exact ⟨_, rfl, moderate_returned (by omega) (by omega) (by omega)⟩
  iterate 7 exact ⟨_, rfl, moderate_quotient (by omega) (by omega) (by omega)⟩
  · obtain ⟨every, hdiv, hmoderate⟩ := moderate_longExposure (by omega) hhigh
    exact ⟨_, checked_bind_eq_ok.mpr ⟨every, hdiv, rfl⟩, hmoderate⟩

/-- A quotient that does not fit an `int` is converted all the same. -/
theorem mem_conversions_of_wide {iexp : Int} {tick : Tick} (hwide : 5000 * 2 ^ 31 ≤ iexp)
    (htick : exp2tickEvery iexp = .ok tick) : iexp.tdiv 5000 ∈ tick.conversions := by
  unfold exp2tickEvery at htick
  simp only [] at htick
  repeat rw [if_neg (by omega)] at htick
  obtain ⟨every, -, hresult⟩ := checked_bind_eq_ok.mp htick
  obtain rfl := Except.ok.inj hresult
  exact List.mem_cons_self

/-- The two functions agree everywhere; they are moderate as long as the number of ticks of
five seconds fits the `int` it is put into. -/
theorem ticks_moderately_iff (iexp : Int) (hpositive : 1 ≤ iexp) (hlong : iexp < 2 ^ 63) :
    TicksModerately iexp ↔ iexp < 5000 * 2 ^ 31 := by
  constructor
  · rintro ⟨tick, other, htick, -, -, hmoderate, -⟩
    by_contra hwide
    have hlossless := hmoderate.lossless _ (mem_conversions_of_wide (Int.not_lt.mp hwide) htick)
    rw [narrowed_eq_self_iff, Int.tdiv_eq_ediv_of_nonneg (by omega)] at hlossless
    omega
  · intro hhigh
    obtain ⟨tick, htick, hmoderate⟩ := exp2tickEvery_moderate hpositive hhigh
    exact ⟨tick, tick, htick, (exposure2tickEvery_eq iexp).trans htick, rfl, hmoderate, hmoderate⟩

/-- Ten minutes. -/
theorem ten_minutes_tick_moderately : TicksModerately 600000 :=
  (ticks_moderately_iff 600000 (by decide) (by decide)).mpr (by decide)

/-- 2^32 ticks of five seconds are narrowed to none. -/
theorem wide_exposure_divides_by_zero :
    ¬ TicksModerately 21474836480000 ∧
      exp2tickEvery 21474836480000 = .error .divisionByZero ∧
      exposure2tickEvery 21474836480000 = .error .divisionByZero := by
  have hfault : exp2tickEvery 21474836480000 = .error .divisionByZero := by decide +kernel
  refine ⟨?_, hfault, hfault⟩
  rintro ⟨tick, other, htick, -⟩
  rw [hfault] at htick
  cases htick

end Andor2k
