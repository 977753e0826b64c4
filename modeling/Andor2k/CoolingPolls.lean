/-
cool_to_temperature behind a target the camera has taken and a cooler that is on: which
answers of the camera it waits behind, and which of them end it.
-/
import Andor2k.Cooling

namespace Andor2k

open CText

/-- The cooler is at work, or off for the moment. -/
def OnItsWay (status : DrvCode) : Prop :=
  status = .tempNotReached ∨ status = .tempDrift ∨ status = .tempNotStabilized ∨
    status = .tempOff

instance decidableOnItsWay (status : DrvCode) : Decidable (OnItsWay status) :=
  inferInstanceAs (Decidable (_ ∨ _ ∨ _ ∨ _))

/-- The target is not reached, and the wait has not taken too long. -/
def CoolingReading.Pending (reading : CoolingReading) : Prop :=
  reading.status ≠ .tempStabilized ∧ minutes reading.elapsed ≤ maxCoolingDuration

instance decidablePending (reading : CoolingReading) : Decidable reading.Pending :=
  inferInstanceAs (Decidable (_ ∧ _))

/-- The last thing the client is told is an error. -/
def Procedure.ReportsError (procedure : Procedure) : Prop :=
  ∃ message, procedure.events.getLast? = some (.sent (ascii "done;error" ++ message))

/-- SetTemperature and CoolerON have succeeded. -/
def coolAndPoll (drvNumber : DrvCode → Nat) (socket : Bool) (tempC currentTemp : Int32)
    (readings : List CoolingReading) : Option Procedure :=
  coolToTemperature drvNumber socket tempC ⟨currentTemp, .success, .success, readings⟩

/-- What the camera may answer while it is waited for.  `cool` is `none` on the answers
behind which another one is asked for; `seen` are the answers so far. -/
structure HeedsStatus (cool : List CoolingReading → Option Procedure) (socket : Bool)
    (readings : List CoolingReading) : Prop where
  waits : ∀ seen reading, seen ++ [reading] <+: readings → cool (seen ++ [reading]) = none →
    OnItsWay reading.status ∧ minutes reading.elapsed ≤ maxCoolingDuration
  fails : ∀ seen reading, seen ++ [reading] <+: readings → cool seen = none →
    ¬ OnItsWay reading.status → reading.status ≠ .tempStabilized →
    ∃ procedure, cool (seen ++ [reading]) = some procedure ∧ procedure.status ≠ 0 ∧
      (socket = true → procedure.ReportsError)
  succeeds : ∀ procedure, cool readings = some procedure → procedure.status = 0 →
    ∃ seen reading, seen ++ [reading] <+: readings ∧ cool seen = none ∧
      cool (seen ++ [reading]) = some procedure ∧ reading.status = .tempStabilized

/-- As long as the camera is waited for, it is on its way. -/
def StaysOnItsWay : List CoolingReading → Prop
  | [] => True
  | reading :: later => reading.Pending → OnItsWay reading.status ∧ StaysOnItsWay later

instance decidableStaysOnItsWay : (readings : List CoolingReading) →
    Decidable (StaysOnItsWay readings)
  | [] => .isTrue trivial
  | reading :: later =>
      haveI := decidableStaysOnItsWay later
      inferInstanceAs (Decidable (reading.Pending → OnItsWay reading.status ∧ _))

theorem staysOnItsWay_iff {readings : List CoolingReading} :
    StaysOnItsWay readings ↔
      ∀ seen reading, seen ++ [reading] <+: readings → (∀ r ∈ seen ++ [reading], r.Pending) →
        OnItsWay reading.status := by
  induction readings with
  | nil =>
      apply iff_of_true trivial
      intro seen reading hprefix
      cases seen <;> cases List.prefix_nil.mp hprefix
  | cons head later ih =>
      rw [StaysOnItsWay, ih]
      constructor
      · intro hway seen reading hprefix hpending
        cases seen with
        | nil =>
            obtain ⟨rfl, -⟩ := List.cons_prefix_cons.mp hprefix
            exact (hway (hpending _ List.mem_cons_self)).1
        | cons first seen =>
            obtain ⟨rfl, hbehind⟩ := List.cons_prefix_cons.mp hprefix
            obtain ⟨hfirst, hpending⟩ := List.forall_mem_cons.mp hpending
            exact (hway hfirst).2 seen reading hbehind hpending
      · intro hway hhead
        refine ⟨hway [] head (List.cons_prefix_cons.mpr ⟨rfl, List.nil_prefix⟩)
          (List.forall_mem_singleton.mpr hhead), ?_⟩
        intro seen reading hprefix hpending
        apply hway (head :: seen) reading
        · exact List.cons_prefix_cons.mpr ⟨rfl, hprefix⟩
        · exact List.forall_mem_cons.mpr ⟨hhead, hpending⟩

section Polls

variable {drvNumber : DrvCode → Nat} {socket : Bool} {tempC currentTemp : Int32}

/-- The constant in the test makes it true of every status. -/
theorem keepsCooling_of_tempOff (hoff : drvNumber .tempOff ≠ 0) (status : DrvCode) :
    KeepsCooling drvNumber status :=
  Or.inr (Or.inr (Or.inr hoff))

/-- What is reported of a reading behind which the clock is looked at. -/
def coolingReport (drvNumber : DrvCode → Nat) (socket : Bool) (reading : CoolingReading) :
    List DaemonEvent :=
  .celsius reading.currentTemp ::
    tell socket (ascii "ctemp:" ++ printTemp reading.currentTemp ++ ascii ";status:" ++
      getTemperatureString reading.status ++ ascii " (" ++
      decimal (drvNumber reading.status) ++ ascii ")") ++ [.elapsed reading.elapsed]

theorem coolingLoop_pending (hoff : drvNumber .tempOff ≠ 0) {reading : CoolingReading}
    (hpending : reading.Pending) (later : List CoolingReading) :
    coolingLoop drvNumber socket (reading :: later) =
      (coolingLoop drvNumber socket later).map fun rest =>
        ⟨rest.status, coolingReport drvNumber socket reading ++ rest.events⟩ := by
  rw [coolingLoop]
  dsimp only
  rw [if_neg hpending.1, if_neg (not_not.mpr (keepsCooling_of_tempOff hoff _)),
    if_neg (Int.not_lt.mpr hpending.2)]
  rfl

/-- The message of a wait that has taken too long. -/
def lateMessage (reading : CoolingReading) : Text :=
  ascii ":1;ctemp:" ++ printTemp reading.currentTemp ++
    ascii ";status:Failed to reach temperature after " ++
    padLeft 3 (Acquisition.printInt (minutes reading.elapsed)) ++ ascii " minutes"

theorem coolingLoop_late (hoff : drvNumber .tempOff ≠ 0) {reading : CoolingReading}
    (hstatus : reading.status ≠ .tempStabilized)
    (hlate : maxCoolingDuration < minutes reading.elapsed) (later : List CoolingReading) :
    coolingLoop drvNumber socket (reading :: later) =
      some ⟨1, coolingReport drvNumber socket reading ++
        tell socket (ascii "done;error" ++ lateMessage reading)⟩ := by
  rw [coolingLoop]
  dsimp only
  rw [if_neg hstatus, if_neg (not_not.mpr (keepsCooling_of_tempOff hoff _)), if_pos hlate]
  rfl

theorem coolingLoop_stable {reading : CoolingReading}
    (hstatus : reading.status = .tempStabilized) (later : List CoolingReading) :
    coolingLoop drvNumber socket (reading :: later) =
      some ⟨0, .celsius reading.currentTemp ::
        tell socket (ascii "done;ctemp:" ++ printTemp reading.currentTemp ++
          ascii ";status:Target temperature reached and stabilized")⟩ := by
  rw [coolingLoop]
  dsimp only
  rw [if_pos hstatus]

/-- A reading that is not pending ends the loop, whatever comes behind it. -/
theorem coolingLoop_ends (hoff : drvNumber .tempOff ≠ 0) {reading : CoolingReading}
    (hend : ¬ reading.Pending) :
    ∃ procedure, ∀ later, coolingLoop drvNumber socket (reading :: later) = some procedure := by
  by_cases hstatus : reading.status = .tempStabilized
  · exact ⟨_, coolingLoop_stable hstatus⟩
  · exact ⟨_, coolingLoop_late hoff hstatus (Int.not_le.mp fun htime => hend ⟨hstatus, htime⟩)⟩

/-- The reports of the readings that are waited behind come first. -/
theorem coolingLoop_append (hoff : drvNumber .tempOff ≠ 0) {seen : List CoolingReading}
    (hseen : ∀ reading ∈ seen, reading.Pending) (later : List CoolingReading) :
    coolingLoop drvNumber socket (seen ++ later) =
      (coolingLoop drvNumber socket later).map fun rest =>
        ⟨rest.status, seen.flatMap (coolingReport drvNumber socket) ++ rest.events⟩ := by
  induction seen with
  | nil => simp only [List.nil_append, List.flatMap_nil, Option.map_id']
  | cons head seen ih =>
      obtain ⟨hhead, hseen⟩ := List.forall_mem_cons.mp hseen
      rw [List.cons_append, coolingLoop_pending hoff hhead, ih hseen, Option.map_map]
      simp only [List.flatMap_cons, List.append_assoc, Function.comp_def]

/-- Up to the first reading that is not pending. -/
theorem exists_first_end {readings : List CoolingReading}
    (hends : ¬ ∀ reading ∈ readings, reading.Pending) :
    ∃ seen reading later, readings = seen ++ reading :: later ∧
      (∀ r ∈ seen, r.Pending) ∧ ¬ reading.Pending := by
  induction readings with
  | nil => exact absurd nofun hends
  | cons head later ih =>
      by_cases hhead : head.Pending
      · obtain ⟨seen, reading, behind, rfl, hseen, hend⟩ :=
          ih fun hlater => hends (List.forall_mem_cons.mpr ⟨hhead, hlater⟩)
        exact ⟨head :: seen, reading, behind, rfl, List.forall_mem_cons.mpr ⟨hhead, hseen⟩, hend⟩
      · exact ⟨[], head, later, rfl, nofun, hhead⟩

theorem coolingLoop_eq_none_iff (hoff : drvNumber .tempOff ≠ 0)
    {readings : List CoolingReading} :
    coolingLoop drvNumber socket readings = none ↔ ∀ reading ∈ readings, reading.Pending := by
  constructor
  · intro hnone
    by_contra hends
    obtain ⟨seen, reading, later, rfl, hseen, hend⟩ := exists_first_end hends
    obtain ⟨procedure, hloop⟩ := coolingLoop_ends hoff hend
    rw [coolingLoop_append hoff hseen, hloop] at hnone
    cases hnone
  · intro hpending
    rw [← List.append_nil readings, coolingLoop_append hoff hpending]
    rfl

/-- What is done before the camera is waited for. -/
def coolingStart (socket : Bool) (tempC currentTemp : Int32) : List DaemonEvent :=
  .celsius currentTemp ::
    tell socket (ascii "ctemp:" ++ printTemp currentTemp ++
      ascii ";status:got current camera temperature") ++ [.setTemperature tempC] ++ [.coolerOn]

theorem coolAndPoll_eq (readings : List CoolingReading) :
    coolAndPoll drvNumber socket tempC currentTemp readings =
      (coolingLoop drvNumber socket readings).map fun wait =>
        ⟨wait.status, coolingStart socket tempC currentTemp ++ wait.events⟩ := by
  rw [coolAndPoll, coolToTemperature]
  dsimp only
  rw [if_neg (not_not.mpr rfl), if_neg (not_not.mpr rfl)]
  simp only [coolingStart, List.append_assoc, List.cons_append, List.nil_append]

theorem coolAndPoll_eq_none_iff (hoff : drvNumber .tempOff ≠ 0)
    {readings : List CoolingReading} :
    coolAndPoll drvNumber socket tempC currentTemp readings = none ↔
      ∀ reading ∈ readings, reading.Pending := by
  rw [coolAndPoll_eq, Option.map_eq_none_iff, coolingLoop_eq_none_iff hoff]

/-- What ends the loop ends it with what has been done so far in front. -/
theorem coolAndPoll_ends (hoff : drvNumber .tempOff ≠ 0) {seen : List CoolingReading}
    {reading : CoolingReading} {procedure : Procedure} (hseen : ∀ r ∈ seen, r.Pending)
    {later : List CoolingReading}
    (hloop : coolingLoop drvNumber socket (reading :: later) = some procedure) :
    coolAndPoll drvNumber socket tempC currentTemp (seen ++ reading :: later) =
      some ⟨procedure.status, coolingStart socket tempC currentTemp ++
        (seen.flatMap (coolingReport drvNumber socket) ++ procedure.events)⟩ := by
  rw [coolAndPoll_eq, coolingLoop_append hoff hseen, hloop]
  rfl

/-- A wait that has taken too long fails with an error, whatever the camera answers. -/
theorem coolAndPoll_late (hoff : drvNumber .tempOff ≠ 0) {seen : List CoolingReading}
    {reading : CoolingReading} (hseen : ∀ r ∈ seen, r.Pending)
    (hstatus : reading.status ≠ .tempStabilized)
    (hlate : maxCoolingDuration < minutes reading.elapsed) :
    ∃ procedure, coolAndPoll drvNumber socket tempC currentTemp (seen ++ [reading]) =
        some procedure ∧ procedure.status ≠ 0 ∧ (socket = true → procedure.ReportsError) := by
  refine ⟨_, coolAndPoll_ends hoff hseen (coolingLoop_late hoff hstatus hlate []),
    Int.one_ne_zero, ?_⟩
  rintro rfl
  refine ⟨lateMessage reading, ?_⟩
  rw [tell, if_pos rfl, ← List.append_assoc, ← List.append_assoc]
  apply List.getLast?_concat

/-- A wait that ends well has stopped at a stable temperature. -/
theorem coolAndPoll_stable (hoff : drvNumber .tempOff ≠ 0) {readings : List CoolingReading}
    {procedure : Procedure}
    (hcool : coolAndPoll drvNumber socket tempC currentTemp readings = some procedure)
    (hzero : procedure.status = 0) :
    ∃ seen reading, seen ++ [reading] <+: readings ∧
      coolAndPoll drvNumber socket tempC currentTemp seen = none ∧
      coolAndPoll drvNumber socket tempC currentTemp (seen ++ [reading]) = some procedure ∧
      reading.status = .tempStabilized := by
  have hends : ¬ ∀ reading ∈ readings, reading.Pending := by
    intro hpending
    rw [(coolAndPoll_eq_none_iff hoff).mpr hpending] at hcool
    cases hcool
  obtain ⟨seen, reading, later, rfl, hseen, hend⟩ := exists_first_end hends
  obtain ⟨wait, hloop⟩ := coolingLoop_ends hoff hend
  have hsame := (coolAndPoll_ends hoff hseen (hloop later)).symm.trans hcool
  refine ⟨seen, reading, ⟨later, by rw [List.append_assoc]; rfl⟩,
    (coolAndPoll_eq_none_iff hoff).mpr hseen, ?_, ?_⟩
  · rw [← hsame]
    exact coolAndPoll_ends hoff hseen (hloop [])
  · by_contra hstatus
    have hlate : maxCoolingDuration < minutes reading.elapsed :=
      Int.not_le.mp fun htime => hend ⟨hstatus, htime⟩
    obtain ⟨failed, hfailed, hnonzero, -⟩ := coolAndPoll_late hoff hseen hstatus hlate
    have hagain := (coolAndPoll_ends hoff hseen (hloop [])).symm.trans hfailed
    rw [hsame] at hagain
    cases hagain
    exact hnonzero hzero

end Polls

/-- The statuses decide alone exactly when the camera, as long as it is waited for, only
answers that it is on its way or there. -/
theorem coolAndPoll_heedsStatus_iff {drvNumber : DrvCode → Nat}
    (hoff : drvNumber .tempOff ≠ 0) (socket : Bool) (tempC currentTemp : Int32)
    (readings : List CoolingReading) :
    HeedsStatus (coolAndPoll drvNumber socket tempC currentTemp) socket readings ↔
      StaysOnItsWay readings := by
  rw [staysOnItsWay_iff]
  constructor
  · intro hheeds seen reading hprefix hpending
    exact (hheeds.waits seen reading hprefix ((coolAndPoll_eq_none_iff hoff).mpr hpending)).1
  · intro hway
    refine ⟨?_, ?_, fun procedure => coolAndPoll_stable hoff⟩
    · intro seen reading hprefix hnone
      have hpending := (coolAndPoll_eq_none_iff hoff).mp hnone
      exact ⟨hway seen reading hprefix hpending,
        (hpending reading (List.mem_append_right _ List.mem_cons_self)).2⟩
    · intro seen reading hprefix hnone hlost hstatus
      have hseen := (coolAndPoll_eq_none_iff hoff).mp hnone
      apply coolAndPoll_late hoff hseen hstatus
      -- were there time left, the camera would be on its way
      apply Int.not_le.mp
      intro htime
      apply hlost
      apply hway seen reading hprefix
      exact List.forall_mem_append.mpr ⟨hseen, List.forall_mem_singleton.mpr ⟨hstatus, htime⟩⟩

/-- The numbers of the temperature statuses. -/
def temperatureNumber : DrvCode → Nat
  | .errorAck => 20013
  | .tempOff => 20034
  | .tempNotStabilized => 20035
  | .tempStabilized => 20036
  | .tempNotReached => 20037
  | .tempDrift => 20040
  | .acquiring => 20072
  | .notInitialized => 20075
  | .undocumented code => code
  | _ => 20002

/-- The camera is no longer there when it is asked again. -/
def lostCamera : List CoolingReading :=
  [⟨.tempNotReached, 12, 0⟩, ⟨.notInitialized, 12, 5 * 10 ^ 9⟩]

theorem lostCamera_is_waitedFor :
    ¬ HeedsStatus (coolAndPoll temperatureNumber true (-50) 12) true lostCamera := by
  intro hheeds
  have hwaits := hheeds.waits [⟨.tempNotReached, 12, 0⟩] ⟨.notInitialized, 12, 5 * 10 ^ 9⟩
    ⟨[], rfl⟩ (by decide +kernel)
  exact absurd hwaits.1 (by decide)

/-- A camera that drifts for a moment is waited for as it should be. -/
theorem driftingCamera_heedsStatus :
    HeedsStatus (coolAndPoll temperatureNumber true (-50) 12) true
      [⟨.tempNotReached, 12, 0⟩, ⟨.tempDrift, -50, 6 * 10 ^ 11⟩,
        ⟨.tempStabilized, -50, 7 * 10 ^ 11⟩] :=
  (coolAndPoll_heedsStatus_iff (by decide) true (-50) 12 _).mpr (by decide)

end Andor2k
