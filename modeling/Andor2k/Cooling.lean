/-
cool_to_temperature: the cooler is switched on and the camera is asked for its temperature
until it reports that the target is reached, or the wait has taken too long.
-/
import Andor2k.Acquisition

namespace Andor2k

open CText

/-- What the daemon does, in order.  `resolve` is a call of `resolve_command`, `celsius` a
temperature the camera has reported, `elapsed` a clock reading in nanoseconds since the
start of a waiting loop. -/
inductive DaemonEvent where
  | resolve (command : CommandBuffer)
  | sent (message : Text)
  | image (event : Acquisition.ScanEvent)
  | celsius (temperature : Int32)
  | setTemperature (temperature : Int32)
  | coolerOn
  | coolerOff
  | elapsed (nanoseconds : Int)
  | abortAcquisition
  | shutDown
deriving DecidableEq

/-- What a procedure of the daemon returns, with what it has done. -/
structure Procedure where
  status : Int
  events : List DaemonEvent
deriving DecidableEq

def statusString : DrvCode → Text
  | .idle => ascii "IDLE, waiting for instructions"
  | .tempcycle => ascii "Executing temperature cycle"
  | .acquiring => ascii "Acquisition in progress"
  | .accumTimeNotMet => ascii "Unable to meet Accumulate cycle time"
  | .kineticTimeNotMet => ascii "Unable to meet Kinetic cycle time"
  | .errorAck => ascii "Unable communicate with card"
  | .acqBuffer =>
      ascii "Computer unable to read the data via the ISA slot at the required rate"
  | .acqDownfifoFull =>
      ascii "Computer unable to read data fast enough to stop camera memory going full"
  | .spoolerror => ascii "Overflow of the spool buffer"
  | _ => ascii "Camera in unknown/undocumented state!"

def getTemperatureString : DrvCode → Text
  | .notInitialized => ascii "System not initialized!"
  | .acquiring => ascii "Acquisition in progress"
  | .errorAck => ascii "Unable to communicate with card"
  | .tempOff => ascii "Temperature is off"
  | .tempNotReached => ascii "Temperature has not reached set point"
  | .tempDrift => ascii "Temperature had stabilised but has since drifted"
  | .tempNotStabilized => ascii "Temperature reached but not stabilized"
  | .tempStabilized => ascii "Temperature has stabilized at set point"
  | _ => ascii "unknown/undocumented acquisition state!"

/-- The width of a conversion such as `%4d`. -/
def padLeft (width : Nat) (text : Text) : Text :=
  List.replicate (width - text.length) blank ++ text

/-- `%d` of an `int`. -/
def printTemp (temperature : Int32) : Text := Acquisition.printInt temperature.toInt

/-- `%+4d` -/
def printSigned (value : Int) : Text :=
  padLeft 4 (if value < 0 then ascii "-" ++ decimal value.natAbs
    else ascii "+" ++ decimal value.natAbs)

def maxCoolingDuration : Int := 45

/-- One turn of the waiting loop: what GetTemperature returns and stores, and the clock
that is read behind it. -/
structure CoolingReading where
  status : DrvCode
  currentTemp : Int32
  elapsed : Int
deriving DecidableEq

structure CoolingAnswers where
  currentTemp : Int32
  setTemperature : DrvCode
  coolerOn : DrvCode
  readings : List CoolingReading
deriving DecidableEq

section Cooling

variable (drvNumber : DrvCode → Nat) (socket : Bool)

/-- `if (socket) socket_sprintf(...)`, without the time stamp. -/
def tell (message : Text) : List DaemonEvent := if socket then [.sent message] else []

/-- The test of the waiting loop.  Its last operand is the constant, not a comparison. -/
def KeepsCooling (status : DrvCode) : Prop :=
  status = .tempNotReached ∨ status = .tempDrift ∨ status = .tempNotStabilized ∨
    drvNumber .tempOff ≠ 0

instance (status : DrvCode) : Decidable (KeepsCooling drvNumber status) :=
  inferInstanceAs (Decidable (_ ∨ _ ∨ _ ∨ _))

/-- Whole minutes. -/
def minutes (elapsed : Int) : Int := elapsed.tdiv (60 * 10 ^ 9)

/-- The waiting loop; `none` as long as it has not come to its end. -/
def coolingLoop : List CoolingReading → Option Procedure
  | [] => none
  | reading :: later =>
      let status := reading.status
      let currentTemp := reading.currentTemp
      if status = .tempStabilized then
        some ⟨0, .celsius currentTemp ::
          tell socket (ascii "done;ctemp:" ++ printTemp currentTemp ++
            ascii ";status:Target temperature reached and stabilized")⟩
      else if ¬ KeepsCooling drvNumber status then
        some ⟨1, .celsius currentTemp ::
          tell socket (ascii "done;error:" ++ decimal (drvNumber status) ++ ascii ";ctemp:" ++
            printTemp currentTemp ++ ascii ";status:" ++ getTemperatureString status)⟩
      else
        let report := .celsius currentTemp ::
          tell socket (ascii "ctemp:" ++ printTemp currentTemp ++ ascii ";status:" ++
            getTemperatureString status ++ ascii " (" ++ decimal (drvNumber status) ++
            ascii ")") ++ [.elapsed reading.elapsed]
        let elt := minutes reading.elapsed
        if elt > maxCoolingDuration then
          some ⟨1, report ++
            tell socket (ascii "done;error:1;ctemp:" ++ printTemp currentTemp ++
              ascii ";status:Failed to reach temperature after " ++
              padLeft 3 (Acquisition.printInt elt) ++ ascii " minutes")⟩
        else (coolingLoop later).map fun rest => ⟨rest.status, report ++ rest.events⟩

def coolToTemperature (tempC : Int32) (answers : CoolingAnswers) : Option Procedure :=
  let currentTemp := answers.currentTemp
  let start := .celsius currentTemp ::
    tell socket (ascii "ctemp:" ++ printTemp currentTemp ++
      ascii ";status:got current camera temperature") ++ [.setTemperature tempC]
  if answers.setTemperature ≠ .success then
    some ⟨1, start ++
      tell socket (ascii "done;error:" ++ decimal (drvNumber answers.setTemperature) ++
        ascii ";ctemp:" ++ printTemp currentTemp ++
        ascii ";status:Failed to set target temperature!")⟩
  else if answers.coolerOn ≠ .success then
    some ⟨1, start ++ .coolerOn ::
      tell socket (ascii "done;error:" ++ decimal (drvNumber answers.coolerOn) ++
        ascii ";ctemp:" ++ printTemp currentTemp ++
        ascii ";status:Failed to startup the cooler!")⟩
  else
    (coolingLoop drvNumber socket answers.readings).map fun wait =>
      ⟨wait.status, start ++ .coolerOn :: wait.events⟩

end Cooling

/-- The camera reports a stable temperature before the wait has taken too long. -/
def Stabilizes (drvNumber : DrvCode → Nat) : List CoolingReading → Prop
  | [] => False
  | reading :: later =>
      reading.status = .tempStabilized ∨
        (KeepsCooling drvNumber reading.status ∧ minutes reading.elapsed ≤ maxCoolingDuration ∧
          Stabilizes drvNumber later)

/-- The camera takes the target, and gets there in time. -/
def CoolsDown (drvNumber : DrvCode → Nat) (answers : CoolingAnswers) : Prop :=
  answers.setTemperature = .success ∧ answers.coolerOn = .success ∧
    Stabilizes drvNumber answers.readings

section Outcome

variable {drvNumber : DrvCode → Nat} {socket : Bool} {tempC : Int32}

/-- The loop returns 0 or 1, and 0 exactly when the temperature gets stable. -/
theorem coolingLoop_status {readings : List CoolingReading} {wait : Procedure}
    (hwait : coolingLoop drvNumber socket readings = some wait) :
    (wait.status = 0 ∨ wait.status = 1) ∧
      (wait.status = 0 ↔ Stabilizes drvNumber readings) := by
  induction readings generalizing wait with
  | nil => cases hwait
  | cons reading later ih =>
      rw [coolingLoop] at hwait
      dsimp only at hwait
      split at hwait
      · rename_i hstable
        rw [← Option.some.inj hwait]
        exact ⟨Or.inl rfl, fun _ => Or.inl hstable, fun _ => rfl⟩
      · rename_i hunstable
        split at hwait
        · rename_i hfailed
          rw [← Option.some.inj hwait, Stabilizes, or_iff_right hunstable]
          exact ⟨Or.inr rfl, fun hzero => absurd hzero Int.one_ne_zero,
            fun hstable => absurd hstable.1 hfailed⟩
        · rename_i hkeeps
          split at hwait
          · rename_i hlate
            rw [← Option.some.inj hwait, Stabilizes, or_iff_right hunstable]
            exact ⟨Or.inr rfl, fun hzero => absurd hzero Int.one_ne_zero,
              fun hstable => absurd hstable.2.1 (Int.not_le.mpr hlate)⟩
          · rename_i hlate
            obtain ⟨rest, hrest, rfl⟩ := Option.map_eq_some_iff.mp hwait
            obtain ⟨hstatus, hiff⟩ := ih hrest
            rw [Stabilizes, or_iff_right hunstable]
            exact ⟨hstatus, fun hzero => ⟨not_not.mp hkeeps, Int.not_lt.mp hlate, hiff.mp hzero⟩,
              fun hstable => hiff.mpr hstable.2.2⟩

theorem coolToTemperature_status {answers : CoolingAnswers} {procedure : Procedure}
    (hcool : coolToTemperature drvNumber socket tempC answers = some procedure) :
    (procedure.status = 0 ∨ procedure.status = 1) ∧
      (procedure.status = 0 ↔ CoolsDown drvNumber answers) := by
  rw [coolToTemperature] at hcool
  split at hcool
  · rename_i hset
    rw [← Option.some.inj hcool]
    exact ⟨Or.inr rfl, fun hzero => absurd hzero Int.one_ne_zero, fun hdown => absurd hdown.1 hset⟩
  · rename_i hset
    split at hcool
    · rename_i hcooler
      rw [← Option.some.inj hcool]
      exact ⟨Or.inr rfl, fun hzero => absurd hzero Int.one_ne_zero,
        fun hdown => absurd hdown.2.1 hcooler⟩
    · rename_i hcooler
      obtain ⟨wait, hwait, rfl⟩ := Option.map_eq_some_iff.mp hcool
      obtain ⟨hstatus, hiff⟩ := coolingLoop_status hwait
      exact ⟨hstatus, fun hzero => ⟨not_not.mp hset, not_not.mp hcooler, hiff.mp hzero⟩,
        fun hdown => hiff.mpr hdown.2.2⟩

/-- A property of everything that is done before the temperature is stable. -/
structure HoldsWhileCooling (tempC : Int32) (property : DaemonEvent → Prop) : Prop where
  celsius : ∀ temperature, property (.celsius temperature)
  sent : ∀ message, property (.sent message)
  elapsed : ∀ nanoseconds, property (.elapsed nanoseconds)
  setTemperature : property (.setTemperature tempC)
  coolerOn : property .coolerOn

variable {property : DaemonEvent → Prop}

theorem HoldsWhileCooling.tell (hholds : HoldsWhileCooling tempC property) (message : Text) :
    ∀ event ∈ tell socket message, property event := by
  intro event hevent
  cases socket with
  | false => cases hevent
  | true =>
      rw [List.mem_singleton.mp hevent]
      exact hholds.sent message

theorem HoldsWhileCooling.report (hholds : HoldsWhileCooling tempC property)
    (currentTemp : Int32) (message : Text) (elapsed : Int) :
    ∀ event ∈ .celsius currentTemp :: Andor2k.tell socket message ++ [.elapsed elapsed],
      property event := by
  refine List.forall_mem_append.mpr ⟨?_, ?_⟩
  · exact List.forall_mem_cons.mpr ⟨hholds.celsius _, hholds.tell _⟩
  · exact List.forall_mem_singleton.mpr (hholds.elapsed _)

theorem forall_events_coolingLoop (hholds : HoldsWhileCooling tempC property)
    {readings : List CoolingReading} {wait : Procedure}
    (hwait : coolingLoop drvNumber socket readings = some wait) :
    ∀ event ∈ wait.events, property event := by
  induction readings generalizing wait with
  | nil => cases hwait
  | cons reading later ih =>
      rw [coolingLoop] at hwait
      dsimp only at hwait
      split at hwait
      · rw [← Option.some.inj hwait]
        exact List.forall_mem_cons.mpr ⟨hholds.celsius _, hholds.tell _⟩
      · split at hwait
        · rw [← Option.some.inj hwait]
          exact List.forall_mem_cons.mpr ⟨hholds.celsius _, hholds.tell _⟩
        · split at hwait
          · rw [← Option.some.inj hwait]
            exact List.forall_mem_append.mpr ⟨hholds.report _ _ _, hholds.tell _⟩
          · obtain ⟨rest, hrest, rfl⟩ := Option.map_eq_some_iff.mp hwait
            exact List.forall_mem_append.mpr ⟨hholds.report _ _ _, ih hrest⟩

theorem forall_events_coolToTemperature (hholds : HoldsWhileCooling tempC property)
    {answers : CoolingAnswers} {procedure : Procedure}
    (hcool : coolToTemperature drvNumber socket tempC answers = some procedure) :
    ∀ event ∈ procedure.events, property event := by
  have hstart : ∀ message, ∀ event ∈ .celsius answers.currentTemp :: tell socket message ++
      [.setTemperature tempC], property event := by
    intro message
    refine List.forall_mem_append.mpr ⟨?_, ?_⟩
    · exact List.forall_mem_cons.mpr ⟨hholds.celsius _, hholds.tell _⟩
    · exact List.forall_mem_singleton.mpr hholds.setTemperature
  rw [coolToTemperature] at hcool
  split at hcool
  · rw [← Option.some.inj hcool]
    exact List.forall_mem_append.mpr ⟨hstart _, hholds.tell _⟩
  · split at hcool
    · rw [← Option.some.inj hcool]
      exact List.forall_mem_append.mpr
        ⟨hstart _, List.forall_mem_cons.mpr ⟨hholds.coolerOn, hholds.tell _⟩⟩
    · obtain ⟨wait, hwait, rfl⟩ := Option.map_eq_some_iff.mp hcool
      exact List.forall_mem_append.mpr
        ⟨hstart _, List.forall_mem_cons.mpr
          ⟨hholds.coolerOn, forall_events_coolingLoop hholds hwait⟩⟩

end Outcome

end Andor2k
