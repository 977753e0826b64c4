/-
The threads of a kinetic series: get_kinetic_scan, which starts a ThreadReporter for every image
and joins it again, and the reporter.  They share the flag that tells the reporter to stop.
-/
import Andor2k.KineticSeries
import Andor2k.ScanThreads

namespace Andor2k

open CText Runs

namespace Acquisition

/-- Why a reporter is told to stop. -/
inductive KineticEnding where
  | signal (status : Int)
  | waitFailed
  | acquired
deriving DecidableEq, Repr

/-- The statement get_kinetic_scan is about to execute; `fetch` is what follows the join in one
round, down to the file of the image. -/
inductive KineticPc where
  | loopTest
  | clearFlag
  | startThread
  | testSignals
  | wait
  | abortAcquisition
  | setFlag (ending : KineticEnding)
  | join (ending : KineticEnding)
  | fetch
  | returned (status : Int)
deriving DecidableEq, Repr

/-- The statement ThreadReporter::report is about to execute; `test` is the loop condition and
`testAgain` the test behind the message. -/
inductive ThreadReporterPc where
  | notRunning
  | test
  | send
  | testAgain
  | sleep
  | finished
deriving DecidableEq, Repr

/-- `turns` are the answers for the rounds to come, `curImage` is the image number of the
reporter that runs.  `reported` is history: the image numbers of the reports sent so far. -/
structure KineticThreads where
  pc : KineticPc
  turns : List KineticTurn
  lAcquired : Int32
  imgBuffer : List Int32
  stopReportingThread : Bool
  acquisitionThreadFinished : Bool
  reporter : ThreadReporterPc
  curImage : Int
  events : List ScanEvent
  reported : List Int

/-- `main` is a statement of the main thread; the others are the reporter's, `send` with the
text behind the constant part of its message. -/
inductive KineticMove where
  | main
  | test
  | send (progress : Text)
  | testAgain
  | wake
deriving DecidableEq, Repr

/-- `%03d` and its like -/
def zeroPadded (width : Nat) (value : Int) : Text :=
  let digits := decimal value.natAbs
  if value < 0 then ascii "-" ++ List.replicate (width - 1 - digits.length) 48 ++ digits
  else List.replicate (width - digits.length) 48 ++ digits

/-- What ThreadReporter puts behind the constant part of its message. -/
def imageProgress (imageNr numImages : Int) (progress : Text) : Text :=
  zeroPadded 3 imageNr ++ ascii "/" ++ zeroPadded 3 numImages ++ ascii ";time:" ++ progress

section Threads

variable (drvNumber : DrvCode → Nat) (params : AndorParameters) (fheaders : FitsHeaders)
  (xpixels ypixels : Int)

/-- StartAcquisition has been called; the flags are what the last scan has left. -/
def kineticCalled (turns : List KineticTurn) (imgBuffer : List Int32)
    (stopReportingThread acquisitionThreadFinished : Bool) : KineticThreads :=
  ⟨.loopTest, turns, 0, imgBuffer, stopReportingThread, acquisitionThreadFinished, .notRunning,
    0, [.startAcquisition], []⟩

/-- One round behind the join: the image is fetched and saved. -/
def fetchImage (turn : KineticTurn) (imgBuffer : List Int32) : Checked (Scan × List Int32) := do
  let size ← mulInt xpixels ypixels
  let err := turn.getMostRecentImage
  if err ≠ .success then
    return (⟨10, [.retrieved .mostRecentImage size, .abortAcquisition,
      .sent (ascii "done;error:10;status:error;error:" ++ decimal (drvNumber err))]⟩, imgBuffer)
  let imgBuffer ← retrieve imgBuffer size turn.pixels
  let saved ← saveKineticImage params fheaders xpixels ypixels turn.file turn.mostRecent imgBuffer
  return (⟨saved.status, .retrieved .mostRecentImage size :: saved.events⟩, imgBuffer)

/-- What comes behind the join. -/
def afterJoin : KineticEnding → KineticPc
  | .signal status => .returned status
  | .waitFailed => .returned 10
  | .acquired => .fetch

/-- A statement of the main thread; the statements of a round need the answers for it. -/
def mainStep (state : KineticThreads) : Option KineticThreads :=
  match state.pc, state.turns with
  | .loopTest, turns =>
      if params.numImages ≤ state.lAcquired then
        some
          { state with
            pc := .returned 0
            events := state.events ++
              [.sent (ascii "done;error:0;info:images acquired and saved " ++
                printInt state.lAcquired.toInt), .abortAcquisition] }
      else if turns.isEmpty then none
      else some { state with pc := .clearFlag }
  | .clearFlag, _ => some { state with pc := .startThread, stopReportingThread := false }
  | .startThread, _ =>
      some
        { state with
          pc := .testSignals
          reporter := .test
          curImage := state.lAcquired.toInt + 1 }
  | .testSignals, turn :: _ =>
      let status := if turn.sigAbortSet then abortExitStatus else interruptExitStatus
      some
        { state with
          pc := if turn.sigAbortSet ∨ turn.sigInterruptSet then .setFlag (.signal status)
            else .wait }
  | .wait, turn :: _ =>
      some
        { state with
          pc := if turn.waitForAcquisition ≠ .success then .abortAcquisition
            else .setFlag .acquired }
  | .abortAcquisition, _ =>
      some
        { state with
          pc := .setFlag .waitFailed
          events := state.events ++ [.abortAcquisition] }
  | .setFlag ending, _ => some { state with pc := .join ending, stopReportingThread := true }
  | .join ending, _ =>
      stepIf (state.reporter = .finished)
        { state with pc := afterJoin ending, reporter := .notRunning }
  | .fetch, turn :: later =>
      match fetchImage drvNumber params fheaders xpixels ypixels turn state.imgBuffer with
      | .error _ => none
      | .ok (image, filled) =>
          some
            { state with
              pc := if image.status ≠ 0 then .returned image.status else .loopTest
              turns := later
              lAcquired := turn.totalAcquired
              imgBuffer := filled
              events := state.events ++ image.events }
  | _, _ => none

/-- The flags that end the reporter's loop. -/
def KineticThreads.stops (state : KineticThreads) : Bool :=
  state.stopReportingThread || state.acquisitionThreadFinished

def kineticStep (state : KineticThreads) : KineticMove → Option KineticThreads
  | .main => mainStep drvNumber params fheaders xpixels ypixels state
  | .test =>
      stepIf (state.reporter = .test)
        { state with reporter := if state.stops then .finished else .send }
  | .send progress =>
      stepIf (state.reporter = .send)
        { state with
          reporter := .testAgain
          events := state.events ++
            [threadReport (imageProgress state.curImage params.numImages.toInt progress)]
          reported := state.reported ++ [state.curImage] }
  | .testAgain =>
      stepIf (state.reporter = .testAgain)
        { state with reporter := if state.stops then .finished else .sleep }
  | .wake => stepIf (state.reporter = .sleep) { state with reporter := .test }

end Threads

section Steps

variable {drvNumber : DrvCode → Nat} {params : AndorParameters} {fheaders : FitsHeaders}
  {xpixels ypixels : Int}

/-- The statements of the main thread one by one. -/
inductive MainSteps (drvNumber : DrvCode → Nat) (params : AndorParameters)
    (fheaders : FitsHeaders) (xpixels ypixels : Int) (state : KineticThreads) :
    KineticThreads → Prop where
  | seriesEnds (hpc : state.pc = .loopTest) (hall : params.numImages ≤ state.lAcquired) :
      MainSteps drvNumber params fheaders xpixels ypixels state
        { state with
          pc := .returned 0
          events := state.events ++
            [.sent (ascii "done;error:0;info:images acquired and saved " ++
              printInt state.lAcquired.toInt), .abortAcquisition] }
  | nextImage (hpc : state.pc = .loopTest) (hmore : ¬ params.numImages ≤ state.lAcquired)
      (hturns : state.turns ≠ []) :
      MainSteps drvNumber params fheaders xpixels ypixels state { state with pc := .clearFlag }
  | clearFlag (hpc : state.pc = .clearFlag) :
      MainSteps drvNumber params fheaders xpixels ypixels state
        { state with pc := .startThread, stopReportingThread := false }
  | startThread (hpc : state.pc = .startThread) :
      MainSteps drvNumber params fheaders xpixels ypixels state
        { state with
          pc := .testSignals
          reporter := .test
          curImage := state.lAcquired.toInt + 1 }
  | testSignals (turn : KineticTurn) (later : List KineticTurn) (hpc : state.pc = .testSignals)
      (hturns : state.turns = turn :: later) :
      MainSteps drvNumber params fheaders xpixels ypixels state
        { state with
          pc := if turn.sigAbortSet ∨ turn.sigInterruptSet then
              .setFlag (.signal
                (if turn.sigAbortSet then abortExitStatus else interruptExitStatus))
            else .wait }
  | wait (turn : KineticTurn) (later : List KineticTurn) (hpc : state.pc = .wait)
      (hturns : state.turns = turn :: later) :
      MainSteps drvNumber params fheaders xpixels ypixels state
        { state with
          pc := if turn.waitForAcquisition ≠ .success then .abortAcquisition
            else .setFlag .acquired }
  | abortAcquisition (hpc : state.pc = .abortAcquisition) :
      MainSteps drvNumber params fheaders xpixels ypixels state
        { state with
          pc := .setFlag .waitFailed
          events := state.events ++ [.abortAcquisition] }
  | setFlag (ending : KineticEnding) (hpc : state.pc = .setFlag ending) :
      MainSteps drvNumber params fheaders xpixels ypixels state
        { state with pc := .join ending, stopReportingThread := true }
  | join (ending : KineticEnding) (hpc : state.pc = .join ending)
      (hfinished : state.reporter = .finished) :
      MainSteps drvNumber params fheaders xpixels ypixels state
        { state with pc := afterJoin ending, reporter := .notRunning }
  | fetch (turn : KineticTurn) (later : List KineticTurn) (image : Scan) (filled : List Int32)
      (hpc : state.pc = .fetch) (hturns : state.turns = turn :: later)
      (himage : fetchImage drvNumber params fheaders xpixels ypixels turn state.imgBuffer =
        .ok (image, filled)) :
      MainSteps drvNumber params fheaders xpixels ypixels state
        { state with
          pc := if image.status ≠ 0 then .returned image.status else .loopTest
          turns := later
          lAcquired := turn.totalAcquired
          imgBuffer := filled
          events := state.events ++ image.events }

theorem mainStep_cases {state next : KineticThreads}
    (hstep : mainStep drvNumber params fheaders xpixels ypixels state = some next) :
    MainSteps drvNumber params fheaders xpixels ypixels state next := by
  rw [mainStep] at hstep
  split at hstep
  · rename_i hpc
    split at hstep
    · rename_i hall
      obtain rfl := Option.some.inj hstep
      exact .seriesEnds hpc hall
    · rename_i hmore
      split at hstep
      · cases hstep
      · rename_i hturns
        obtain rfl := Option.some.inj hstep
        exact .nextImage hpc hmore fun hempty => hturns (List.isEmpty_iff.mpr hempty)
  · rename_i hpc
    obtain rfl := Option.some.inj hstep
    exact .clearFlag hpc
  · rename_i hpc
    obtain rfl := Option.some.inj hstep
    exact .startThread hpc
  · rename_i turn later hpc hturns
    obtain rfl := Option.some.inj hstep
    exact .testSignals turn later hpc hturns
  · rename_i turn later hpc hturns
    obtain rfl := Option.some.inj hstep
    exact .wait turn later hpc hturns
  · rename_i hpc
    obtain rfl := Option.some.inj hstep
    exact .abortAcquisition hpc
  · rename_i ending hpc
    obtain rfl := Option.some.inj hstep
    exact .setFlag ending hpc
  · rename_i ending hpc
    obtain ⟨hfinished, rfl⟩ := stepIf_eq_some.mp hstep
    exact .join ending hpc hfinished
  · rename_i turn later hpc hturns
    split at hstep
    · cases hstep
    · rename_i image filled himage
      obtain rfl := Option.some.inj hstep
      exact .fetch turn later image filled hpc hturns himage
  · cases hstep

/-- The statements a reporter has still to execute when it is told to stop. -/
def ThreadReporterPc.left : ThreadReporterPc → Nat
  | notRunning | finished => 0
  | test | testAgain => 1
  | send | sleep => 2

/-- A statement of the reporter: it sends its message, or moves on. -/
inductive ReporterSteps (params : AndorParameters) (state : KineticThreads) :
    KineticThreads → Prop where
  | goesOn (reporter : ThreadReporterPc) (hrunning : state.reporter ≠ .notRunning)
      (hreporter : reporter ≠ .notRunning)
      (hstops : state.stops = true → reporter.left + 1 = state.reporter.left ∧ reporter ≠ .send) :
      ReporterSteps params state { state with reporter := reporter }
  | send (progress : Text) (hsend : state.reporter = .send) :
      ReporterSteps params state
        { state with
          reporter := .testAgain
          events := state.events ++
            [threadReport (imageProgress state.curImage params.numImages.toInt progress)]
          reported := state.reported ++ [state.curImage] }

theorem threadReporterStep_cases {state next : KineticThreads} {move : KineticMove}
    (hmove : move ≠ .main)
    (hstep : kineticStep drvNumber params fheaders xpixels ypixels state move = some next) :
    ReporterSteps params state next := by
  cases move with
  | main => exact absurd rfl hmove
  | test =>
      obtain ⟨hpc, rfl⟩ := stepIf_eq_some.mp hstep
      refine .goesOn _ (by rw [hpc]; decide) ?_ ?_
      · split
        · decide
        · decide
      · intro hstops
        rw [if_pos hstops, hpc]
        decide
  | send progress =>
      obtain ⟨hpc, rfl⟩ := stepIf_eq_some.mp hstep
      exact .send progress hpc
  | testAgain =>
      obtain ⟨hpc, rfl⟩ := stepIf_eq_some.mp hstep
      refine .goesOn _ (by rw [hpc]; decide) ?_ ?_
      · split
        · decide
        · decide
      · intro hstops
        rw [if_pos hstops, hpc]
        decide
  | wake =>
      obtain ⟨hpc, rfl⟩ := stepIf_eq_some.mp hstep
      refine .goesOn _ (by rw [hpc]; decide) (by decide) fun _ => ⟨?_, by decide⟩
      rw [hpc]
      rfl

/-- The statements between the start of a reporter and its join. -/
def KineticPc.reporting : KineticPc → Bool
  | testSignals | wait | abortAcquisition | setFlag _ | join _ => true
  | _ => false

/-- The statements of a round. -/
def KineticPc.inRound : KineticPc → Bool
  | loopTest | returned _ => false
  | _ => true

/-- A reporter runs exactly between its start and its join, for the image that is being taken,
and while it is waited for it is told to stop. -/
structure KineticInv (params : AndorParameters) (state : KineticThreads) : Prop where
  running : state.reporter ≠ .notRunning ↔ state.pc.reporting = true
  current : state.pc.reporting = true → state.curImage = state.lAcquired.toInt + 1
  more : state.pc.inRound = true → state.lAcquired < params.numImages
  stopped : ∀ ending, state.pc = .join ending → state.stopReportingThread = true

theorem KineticInv.start (turns : List KineticTurn) (imgBuffer : List Int32)
    (stopReportingThread acquisitionThreadFinished : Bool) :
    KineticInv params
      (kineticCalled turns imgBuffer stopReportingThread acquisitionThreadFinished) where
  running := by simp [kineticCalled, KineticPc.reporting]
  current := by simp [kineticCalled, KineticPc.reporting]
  more := by simp [kineticCalled, KineticPc.inRound]
  stopped := by simp [kineticCalled]

theorem KineticInv.mainStep {state next : KineticThreads} (hinv : KineticInv params state)
    (hstep : MainSteps drvNumber params fheaders xpixels ypixels state next) :
    KineticInv params next := by
  obtain ⟨hrunning, hcurrent, hmore, hstopped⟩ := hinv
  cases hstep with
  | seriesEnds hpc hall =>
      rw [hpc] at hrunning
      exact ⟨by simpa [KineticPc.reporting] using hrunning, by simp [KineticPc.reporting],
        by simp [KineticPc.inRound], by simp⟩
  | nextImage hpc hnot =>
      rw [hpc] at hrunning
      exact ⟨by simpa [KineticPc.reporting] using hrunning, by simp [KineticPc.reporting],
        fun _ => Int32.not_le.mp hnot, by simp⟩
  | clearFlag hpc =>
      rw [hpc] at hrunning hmore
      exact ⟨by simpa [KineticPc.reporting] using hrunning, by simp [KineticPc.reporting],
        fun _ => hmore rfl, by simp⟩
  | startThread hpc =>
      rw [hpc] at hmore
      exact ⟨by simp [KineticPc.reporting], fun _ => rfl, fun _ => hmore rfl, by simp⟩
  | testSignals turn later hpc | wait turn later hpc =>
      rw [hpc] at hrunning hcurrent hmore
      refine ⟨iff_of_true (hrunning.mpr rfl) ?_, fun _ => hcurrent rfl, fun _ => hmore rfl, ?_⟩
      · dsimp only
        split
        · rfl
        · rfl
      · intro ending
        dsimp only
        split
        · rintro ⟨⟩
        · rintro ⟨⟩
  | abortAcquisition hpc =>
      rw [hpc] at hrunning hcurrent hmore
      exact ⟨iff_of_true (hrunning.mpr rfl) rfl, fun _ => hcurrent rfl, fun _ => hmore rfl,
        by simp⟩
  | setFlag ending hpc =>
      rw [hpc] at hrunning hcurrent hmore
      exact ⟨iff_of_true (hrunning.mpr rfl) rfl, fun _ => hcurrent rfl, fun _ => hmore rfl,
        fun _ _ => rfl⟩
  | join ending hpc hfinished =>
      rw [hpc] at hmore
      have hless : state.lAcquired < params.numImages := hmore rfl
      refine ⟨?_, ?_, fun _ => hless, ?_⟩
      all_goals cases ending <;> simp [afterJoin, KineticPc.reporting]
  | fetch turn later image filled hpc hturns himage =>
      rw [hpc] at hrunning
      have hnone : state.reporter = .notRunning := by
        simpa [KineticPc.reporting] using hrunning
      refine ⟨?_, ?_, ?_, ?_⟩
      all_goals split <;> simp [KineticPc.reporting, KineticPc.inRound, hnone]

/-- A reporter runs inside a round only. -/
theorem inRound_of_reporting {pc : KineticPc} (hreporting : pc.reporting = true) :
    pc.inRound = true := by
  cases pc with
  | loopTest | returned => cases hreporting
  | _ => rfl

/-- The reporter leaves alone what the invariant is about. -/
theorem KineticInv.reporterStep {state next : KineticThreads} (hinv : KineticInv params state)
    (hstep : ReporterSteps params state next) : KineticInv params next := by
  obtain ⟨hrunning, hcurrent, hmore, hstopped⟩ := hinv
  cases hstep with
  | goesOn reporter hbefore hreporter =>
      exact ⟨iff_of_true hreporter (hrunning.mp hbefore), hcurrent, hmore, hstopped⟩
  | send progress hsend =>
      have hbefore : state.reporter ≠ .notRunning := by
        rw [hsend]
        decide
      exact ⟨iff_of_true (fun hnone => by cases hnone) (hrunning.mp hbefore), hcurrent, hmore,
        hstopped⟩

/-- Either thread takes a step. -/
theorem kineticStep_cases {state next : KineticThreads} {move : KineticMove}
    (hstep : kineticStep drvNumber params fheaders xpixels ypixels state move = some next) :
    MainSteps drvNumber params fheaders xpixels ypixels state next ∨
      ReporterSteps params state next := by
  by_cases hmove : move = .main
  · subst hmove
    exact Or.inl (mainStep_cases hstep)
  · exact Or.inr (threadReporterStep_cases hmove hstep)

theorem KineticInv.step {state next : KineticThreads} {move : KineticMove}
    (hinv : KineticInv params state)
    (hstep : kineticStep drvNumber params fheaders xpixels ypixels state move = some next) :
    KineticInv params next :=
  (kineticStep_cases hstep).elim hinv.mainStep hinv.reporterStep

/-- What the camera has counted never goes back. -/
def NeverFalls : Int32 → List KineticTurn → Prop
  | _, [] => True
  | counted, turn :: later => counted ≤ turn.totalAcquired ∧ NeverFalls turn.totalAcquired later

/-- The image numbers of the reports sent so far, against the image that is taken now. -/
structure KineticReports (params : AndorParameters) (state : KineticThreads) : Prop where
  inv : KineticInv params state
  falls : NeverFalls state.lAcquired state.turns
  counted : 0 ≤ state.lAcquired.toInt
  sorted : state.reported.Pairwise (· ≤ ·)
  bound : ∀ image ∈ state.reported,
    1 ≤ image ∧ image ≤ params.numImages.toInt ∧ image ≤ state.lAcquired.toInt + 1

theorem KineticReports.step {state next : KineticThreads} {move : KineticMove}
    (hreports : KineticReports params state)
    (hstep : kineticStep drvNumber params fheaders xpixels ypixels state move = some next) :
    KineticReports params next := by
  have hnext := hreports.inv.step hstep
  obtain ⟨hinv, hfalls, hcounted, hsorted, hbound⟩ := hreports
  rcases kineticStep_cases hstep with hmain | hreporter
  · cases hmain with
    | fetch turn later image filled hpc hturns himage =>
        rw [hturns] at hfalls
        have hle := Int32.le_iff_toInt_le.mp hfalls.1
        refine ⟨hnext, hfalls.2, Int.le_trans hcounted hle, hsorted, ?_⟩
        intro image himage
        obtain ⟨hlow, hhigh, hnow⟩ := hbound image himage
        exact ⟨hlow, hhigh, by dsimp only; omega⟩
    | _ => exact ⟨hnext, hfalls, hcounted, hsorted, hbound⟩
  · cases hreporter with
    | goesOn => exact ⟨hnext, hfalls, hcounted, hsorted, hbound⟩
    | send progress hsend =>
        have hreporting := hinv.running.mp (by rw [hsend]; decide)
        have hcurrent := hinv.current hreporting
        have hmore := Int32.lt_iff_toInt_lt.mp (hinv.more (inRound_of_reporting hreporting))
        refine ⟨hnext, hfalls, hcounted, ?_, ?_⟩
        · refine List.pairwise_append.mpr ⟨hsorted, List.pairwise_singleton _ _, ?_⟩
          intro image himage other hother
          rw [List.mem_singleton.mp hother, hcurrent]
          exact (hbound image himage).2.2
        · refine List.forall_mem_append.mpr ⟨hbound, List.forall_mem_singleton.mpr ?_⟩
          rw [hcurrent]
          exact ⟨by omega, by omega, Int.le_refl _⟩

/-- In every interleaving the reports of a kinetic series are about its images, image after image;
there is a reporter exactly between its start and its join, and nobody does anything any more
once get_kinetic_scan has returned. -/
theorem kinetic_reports_in_order {turns : List KineticTurn} {imgBuffer : List Int32}
    {stopReportingThread acquisitionThreadFinished : Bool} {moves : List KineticMove}
    {state : KineticThreads} (hfalls : NeverFalls 0 turns)
    (hrun : run (kineticStep drvNumber params fheaders xpixels ypixels)
      (kineticCalled turns imgBuffer stopReportingThread acquisitionThreadFinished) moves =
        some state) :
    state.reported.Pairwise (· ≤ ·) ∧
      (∀ image ∈ state.reported, 1 ≤ image ∧ image ≤ params.numImages.toInt) ∧
      (state.reporter ≠ .notRunning ↔ state.pc.reporting = true) ∧
      ∀ status, state.pc = .returned status → ∀ move,
        kineticStep drvNumber params fheaders xpixels ypixels state move = none := by
  have hstart : KineticReports params
      (kineticCalled turns imgBuffer stopReportingThread acquisitionThreadFinished) :=
    ⟨.start _ _ _ _, hfalls, Int.le_refl 0, List.Pairwise.nil, List.forall_mem_nil _⟩
  have hreports : KineticReports params state :=
    invariant_of_reachable (fun _ _ _ hinv hstep => hinv.step hstep) hstart ⟨moves, hrun⟩
  refine ⟨hreports.sorted, fun image himage => ?_, hreports.inv.running, ?_⟩
  · obtain ⟨hlow, hhigh, -⟩ := hreports.bound image himage
    exact ⟨hlow, hhigh⟩
  · intro status hpc move
    have hidle : ¬ state.reporter ≠ .notRunning := by
      rw [hreports.inv.running, hpc]
      rintro ⟨⟩
    cases hmove : kineticStep drvNumber params fheaders xpixels ypixels state move with
    | none => rfl
    | some next =>
        rcases kineticStep_cases hmove with hmain | hreporter
        · cases hmain with
          | _ => simp_all
        · cases hreporter with
          | goesOn reporter hbefore => exact absurd hbefore hidle
          | send progress hsend => exact absurd (by rw [hsend]; decide) hidle

/-- One round with one report. -/
def reportedRound : List KineticMove :=
  [.main, .main, .main, .test, .main, .send [], .main, .testAgain, .main, .wake, .test, .main,
    .main]

/-- The threads of a series of two images. -/
def twoImagesThreads (turns : List KineticTurn) (moves : List KineticMove) :
    Option KineticThreads :=
  run (kineticStep (fun _ => 20002) twoImages (FitsHeaders.construct 100) 2 2)
    (kineticCalled turns [0, 0, 0, 0] false false) moves

theorem two_images_reports_in_order :
    ∃ state, twoImagesThreads [goodTurn 1 1, goodTurn 2 2] reportedRound = some state ∧
      state.reported.Pairwise (· ≤ ·) ∧
      (∀ image ∈ state.reported, 1 ≤ image ∧ image ≤ twoImages.numImages.toInt) ∧
      (state.reporter ≠ .notRunning ↔ state.pc.reporting = true) ∧
      ∀ status, state.pc = .returned status → ∀ move,
        kineticStep (fun _ => 20002) twoImages (FitsHeaders.construct 100) 2 2 state move =
          none := by
  have hfinal : (twoImagesThreads [goodTurn 1 1, goodTurn 2 2] reportedRound).map
      KineticThreads.reported = some [1] := by
    decide +kernel
  obtain ⟨state, hrun, -⟩ := Option.map_eq_some_iff.mp hfinal
  have hfalls : NeverFalls 0 [goodTurn 1 1, goodTurn 2 2] := ⟨by decide, by decide, trivial⟩
  exact ⟨state, hrun, kinetic_reports_in_order hfalls hrun⟩

/-- The reports a stopped reporter may still send. -/
def ThreadReporterPc.lastReports : ThreadReporterPc → Nat
  | send => 1
  | _ => 0

/-- Until the main thread goes on, a stopped reporter comes nearer to its end with every
statement. -/
theorem stopped_reporter_run {state final : KineticThreads} {moves : List KineticMove}
    (hmoves : .main ∉ moves) (hstops : state.stops = true)
    (hrun : run (kineticStep drvNumber params fheaders xpixels ypixels) state moves =
      some final) :
    moves.length + final.reporter.left = state.reporter.left ∧
      final.events.length + final.reporter.lastReports ≤
        state.events.length + state.reporter.lastReports := by
  induction moves generalizing state with
  | nil =>
      obtain rfl := Option.some.inj hrun
      exact ⟨Nat.zero_add _, Nat.le_refl _⟩
  | cons move later ih =>
      obtain ⟨next, hnext, hrest⟩ := run_cons_eq_some.mp hrun
      rw [List.mem_cons, not_or] at hmoves
      have hstep := threadReporterStep_cases (Ne.symm hmoves.1) hnext
      have hstill : next.stops = true := by
        cases hstep with
        | _ => exact hstops
      obtain ⟨hlength, hevents⟩ := ih hmoves.2 hstill hrest
      cases hstep with
      | goesOn reporter hrunning hreporter hleft =>
          obtain ⟨hless, hquiet⟩ := hleft hstops
          have hnone : reporter.lastReports = 0 := by
            cases reporter with
            | send => exact absurd rfl hquiet
            | _ => rfl
          dsimp only at hlength hevents
          rw [hnone] at hevents
          exact ⟨by rw [List.length_cons]; omega, by omega⟩
      | send progress hsend =>
          have hleft : ThreadReporterPc.testAgain.left = 1 := rfl
          have hreports : ThreadReporterPc.testAgain.lastReports = 0 := rfl
          have hbefore : state.reporter.left = 2 ∧ state.reporter.lastReports = 1 := by
            rw [hsend]
            exact ⟨rfl, rfl⟩
          dsimp only at hlength hevents
          rw [List.length_append, List.length_singleton] at hevents
          exact ⟨by rw [List.length_cons]; omega, by omega⟩

/-- A reporter that is not at its end can go on. -/
theorem exists_reporter_run {state : KineticThreads} (hrunning : state.reporter ≠ .notRunning)
    (hstops : state.stops = true) :
    ∃ moves final, .main ∉ moves ∧
      run (kineticStep drvNumber params fheaders xpixels ypixels) state moves = some final ∧
      final.reporter = .finished ∧ final.pc = state.pc := by
  cases hreporter : state.reporter with
  | notRunning => exact absurd hreporter hrunning
  | finished => exact ⟨[], state, List.not_mem_nil, rfl, hreporter, rfl⟩
  | test =>
      refine ⟨[.test], { state with reporter := .finished }, by simp, ?_, rfl, rfl⟩
      simp [run, kineticStep, stepIf, hreporter, hstops]
  | testAgain =>
      refine ⟨[.testAgain], { state with reporter := .finished }, by simp, ?_, rfl, rfl⟩
      simp [run, kineticStep, stepIf, hreporter, hstops]
  | sleep =>
      have hstill : ({ state with reporter := .test } : KineticThreads).stops = true := hstops
      refine ⟨[.wake, .test], { state with reporter := .finished }, by simp, ?_, rfl, rfl⟩
      simp [run, kineticStep, stepIf, hreporter, hstill]
  | send =>
      let sent : KineticThreads :=
        { state with
          reporter := .testAgain
          events := state.events ++
            [threadReport (imageProgress state.curImage params.numImages.toInt [])]
          reported := state.reported ++ [state.curImage] }
      have hstill : sent.stops = true := hstops
      refine ⟨[.send [], .testAgain], { sent with reporter := .finished }, by simp, ?_, rfl, rfl⟩
      have hsent : kineticStep drvNumber params fheaders xpixels ypixels state (.send []) =
          some sent := by
        simp [kineticStep, stepIf, hreporter, sent]
      rw [run, hsent, Option.bind_some]
      simp [run, kineticStep, stepIf, hstill, sent]

/-- Once the main thread waits for the reporter, the reporter executes at most two more
statements and sends at most one more message, whatever the schedule is; and then the main thread
goes on. -/
theorem kinetic_join_returns {turns : List KineticTurn} {imgBuffer : List Int32}
    {stopReportingThread acquisitionThreadFinished : Bool} {before : List KineticMove}
    {state : KineticThreads} {ending : KineticEnding}
    (hrun : run (kineticStep drvNumber params fheaders xpixels ypixels)
      (kineticCalled turns imgBuffer stopReportingThread acquisitionThreadFinished) before =
        some state)
    (hpc : state.pc = .join ending) :
    (∀ moves final, .main ∉ moves →
      run (kineticStep drvNumber params fheaders xpixels ypixels) state moves = some final →
        moves.length ≤ 2 ∧ final.events.length ≤ state.events.length + 1) ∧
    ∃ moves final,
      run (kineticStep drvNumber params fheaders xpixels ypixels) state (moves ++ [.main]) =
        some final ∧ final.pc = afterJoin ending ∧ final.reporter = .notRunning := by
  have hinv : KineticInv params state :=
    invariant_of_reachable (fun _ _ _ hinv hstep => hinv.step hstep) (.start _ _ _ _)
      ⟨before, hrun⟩
  have hstops : state.stops = true := by
    rw [KineticThreads.stops, hinv.stopped ending hpc, Bool.true_or]
  have hrunning : state.reporter ≠ .notRunning := hinv.running.mpr (by rw [hpc]; rfl)
  constructor
  · intro moves final hmoves hfinal
    obtain ⟨hlength, hevents⟩ := stopped_reporter_run hmoves hstops hfinal
    have hleft : state.reporter.left ≤ 2 ∧ state.reporter.lastReports ≤ 1 := by
      cases state.reporter with
      | _ => decide
    omega
  · obtain ⟨moves, joined, -, hjoined, hfinished, hstill⟩ := exists_reporter_run hrunning hstops
    refine ⟨moves, { joined with pc := afterJoin ending, reporter := .notRunning },
      run_append_eq_some.mpr ⟨joined, hjoined, ?_⟩, rfl, rfl⟩
    simp [run, kineticStep, mainStep, hstill, hpc, hfinished, stepIf]

/-- The reporter is about to send when the exposure is over. -/
def joiningMoves : List KineticMove := [.main, .main, .main, .test, .main, .main, .main]

theorem two_images_join_returns :
    ∃ state, twoImagesThreads [goodTurn 1 1] joiningMoves = some state ∧
      (∀ moves final, .main ∉ moves →
        run (kineticStep (fun _ => 20002) twoImages (FitsHeaders.construct 100) 2 2) state
          moves = some final →
            moves.length ≤ 2 ∧ final.events.length ≤ state.events.length + 1) ∧
      ∃ moves final,
        run (kineticStep (fun _ => 20002) twoImages (FitsHeaders.construct 100) 2 2) state
          (moves ++ [.main]) = some final ∧
        final.pc = afterJoin .acquired ∧ final.reporter = .notRunning := by
  have hfinal : (twoImagesThreads [goodTurn 1 1] joiningMoves).map KineticThreads.pc =
      some (.join .acquired) := by
    decide +kernel
  obtain ⟨state, hrun, hpc⟩ := Option.map_eq_some_iff.mp hfinal
  exact ⟨state, hrun, kinetic_join_returns hrun hpc⟩

/-- The messages to the client, and everything else, each in its order. -/
def isMessage : ScanEvent → Bool
  | .sent _ => true
  | _ => false

/-- The same messages in the same order, and the same calls and files in the same order. -/
structure SameEvents (first second : List ScanEvent) : Prop where
  messages : first.filter isMessage = second.filter isMessage
  others : (first.filter fun event => !isMessage event) =
    second.filter fun event => !isMessage event

theorem SameEvents.refl (events : List ScanEvent) : SameEvents events events := ⟨rfl, rfl⟩

theorem SameEvents.append {first second more other : List ScanEvent}
    (hsame : SameEvents first second) (hmore : SameEvents more other) :
    SameEvents (first ++ more) (second ++ other) where
  messages := by rw [List.filter_append, List.filter_append, hsame.messages, hmore.messages]
  others := by rw [List.filter_append, List.filter_append, hsame.others, hmore.others]

/-- A message and a call of the other thread may change places. -/
theorem SameEvents.report {first second calls : List ScanEvent}
    (hsame : SameEvents first (second ++ calls)) (hcalls : ∀ event ∈ calls, isMessage event = false)
    (message : Text) :
    SameEvents (first ++ [.sent message]) (second ++ [.sent message] ++ calls) := by
  have hnone : calls.filter isMessage = [] := by
    rw [List.filter_eq_nil_iff]
    exact fun event hevent => by rw [hcalls event hevent]; decide
  obtain ⟨hmessages, hothers⟩ := hsame
  rw [List.filter_append, hnone, List.append_nil] at hmessages
  rw [List.filter_append] at hothers
  constructor
  · rw [List.filter_append, List.filter_append, List.filter_append, hmessages, hnone,
      List.append_nil]
  · have hsent : [ScanEvent.sent message].filter (fun event => !isMessage event) = [] := rfl
    rw [List.filter_append, List.filter_append, List.filter_append, hothers, hsent,
      List.append_nil, List.append_nil]

/-- A round of the sequential series with these reports. -/
def KineticTurn.withReports (turn : KineticTurn) (reports : List Text) : KineticTurn :=
  { turn with reports := reports }

/-- A signal has arrived before the round. -/
def KineticTurn.Signalled (turn : KineticTurn) : Prop :=
  turn.sigAbortSet = true ∨ turn.sigInterruptSet = true

/-- What the main thread has learned in this round, and the calls it has made before the
join. -/
def RoundState : KineticPc → KineticTurn → List ScanEvent → Prop
  | .testSignals, _, calls => calls = []
  | .wait, turn, calls => calls = [] ∧ ¬ turn.Signalled
  | .abortAcquisition, turn, calls =>
      calls = [] ∧ ¬ turn.Signalled ∧ turn.waitForAcquisition ≠ .success
  | .setFlag ending, turn, calls | .join ending, turn, calls =>
      match ending with
      | .signal status => calls = [] ∧ turn.Signalled ∧ status = 2 ^ 31 - 1
      | .waitFailed => calls = [.abortAcquisition] ∧ ¬ turn.Signalled ∧
          turn.waitForAcquisition ≠ .success
      | .acquired => calls = [] ∧ ¬ turn.Signalled ∧ turn.waitForAcquisition = .success
  | .fetch, turn, calls => calls = [] ∧ ¬ turn.Signalled ∧ turn.waitForAcquisition = .success
  | _, _, _ => False

/-- The answers without the reports. -/
def withoutReports (turns : List KineticTurn) : List KineticTurn :=
  turns.map fun turn => turn.withReports []

/-- The rounds that are over have done what the sequential series does in as many rounds. -/
def Done (drvNumber : DrvCode → Nat) (params : AndorParameters) (fheaders : FitsHeaders)
    (xpixels ypixels : Int) (imgBuffer : List Int32) (done : List KineticTurn)
    (state : KineticThreads) (events : List ScanEvent) : Prop :=
  ∀ tail rest, kineticLoop drvNumber params fheaders xpixels ypixels tail state.lAcquired
      state.imgBuffer = .ok (some rest) →
    kineticLoop drvNumber params fheaders xpixels ypixels (done ++ tail) 0 imgBuffer =
      .ok (some ⟨rest.status, events ++ rest.events⟩)

/-- A round of the sequential series that a signal, or a failed wait, puts an end to. -/
theorem kineticTurn_signalled {turn : KineticTurn} (hsignal : turn.Signalled)
    (reports : List Text) (imgBuffer : List Int32) :
    kineticTurn drvNumber params fheaders xpixels ypixels (turn.withReports reports) imgBuffer =
      .ok (⟨2 ^ 31 - 1, reports.map threadReport⟩, imgBuffer) := by
  have hguard : (turn.withReports reports).sigAbortSet = true ∨
    (turn.withReports reports).sigInterruptSet = true := hsignal
  simp only [kineticTurn]
  rw [if_pos hguard, abortExitStatus, interruptExitStatus, ite_self]
  rfl

theorem kineticTurn_waitFailed {turn : KineticTurn} (hsignal : ¬ turn.Signalled)
    (hwait : turn.waitForAcquisition ≠ .success) (reports : List Text)
    (imgBuffer : List Int32) :
    kineticTurn drvNumber params fheaders xpixels ypixels (turn.withReports reports) imgBuffer =
      .ok (⟨10, reports.map threadReport ++ [.abortAcquisition]⟩, imgBuffer) := by
  have hguard : ¬ ((turn.withReports reports).sigAbortSet = true ∨
    (turn.withReports reports).sigInterruptSet = true) := hsignal
  have hfailed : (turn.withReports reports).waitForAcquisition ≠ .success := hwait
  simp only [kineticTurn]
  rw [if_neg hguard, if_pos hfailed]
  rfl

theorem kineticTurn_fetch {turn : KineticTurn} (hsignal : ¬ turn.Signalled)
    (hwait : turn.waitForAcquisition = .success) (reports : List Text)
    {imgBuffer filled : List Int32} {image : Scan}
    (himage : fetchImage drvNumber params fheaders xpixels ypixels turn imgBuffer =
      .ok (image, filled)) :
    kineticTurn drvNumber params fheaders xpixels ypixels (turn.withReports reports) imgBuffer =
      .ok (⟨image.status, reports.map threadReport ++ image.events⟩, filled) := by
  have hguard : ¬ ((turn.withReports reports).sigAbortSet = true ∨
    (turn.withReports reports).sigInterruptSet = true) := hsignal
  have hwaited : ¬ (turn.withReports reports).waitForAcquisition ≠ .success :=
    not_not.mpr hwait
  obtain ⟨size, hsize, himage⟩ := checked_bind_eq_ok.mp himage
  simp only [kineticTurn]
  rw [if_neg hguard, if_neg hwaited, checked_bind_ok hsize]
  dsimp only at himage ⊢
  split at himage
  · rename_i hfetch
    have hfailed : (turn.withReports reports).getMostRecentImage ≠ .success := hfetch
    obtain ⟨rfl, rfl⟩ := Prod.mk.inj (Except.ok.inj himage)
    rw [if_pos hfailed]
    rfl
  · rename_i hfetch
    have hfetched : ¬ (turn.withReports reports).getMostRecentImage ≠ .success := hfetch
    obtain ⟨buffer, hbuffer, himage⟩ := checked_bind_eq_ok.mp himage
    obtain ⟨saved, hsaved, himage⟩ := checked_bind_eq_ok.mp himage
    obtain ⟨rfl, rfl⟩ := Prod.mk.inj (Except.ok.inj himage)
    have hsame : retrieve imgBuffer size (turn.withReports reports).pixels = .ok buffer := hbuffer
    have hfile : saveKineticImage params fheaders xpixels ypixels (turn.withReports reports).file
      (turn.withReports reports).mostRecent buffer = .ok saved := hsaved
    rw [if_neg hfetched, checked_bind_ok hsame, checked_bind_ok hfile]
    rfl

theorem kineticLoop_ends {lAcquired : Int32} (hall : params.numImages ≤ lAcquired)
    (turns : List KineticTurn) (imgBuffer : List Int32) :
    kineticLoop drvNumber params fheaders xpixels ypixels turns lAcquired imgBuffer =
      .ok (some ⟨0, [.sent (ascii "done;error:0;info:images acquired and saved " ++
        printInt lAcquired.toInt), .abortAcquisition]⟩) := by
  cases turns with
  | nil => rw [kineticLoop, if_pos hall]
  | cons turn later => rw [kineticLoop, if_pos hall]

/-- One more round is over. -/
theorem Done.next {imgBuffer : List Int32} {done : List KineticTurn} {state : KineticThreads}
    {events : List ScanEvent} {turn : KineticTurn} {image : Scan} {filled : List Int32}
    (hdone : Done drvNumber params fheaders xpixels ypixels imgBuffer done state events)
    (hmore : state.lAcquired < params.numImages)
    (himage : kineticTurn drvNumber params fheaders xpixels ypixels turn state.imgBuffer =
      .ok (image, filled)) :
    (image.status ≠ 0 → ∀ tail,
      kineticLoop drvNumber params fheaders xpixels ypixels (done ++ turn :: tail) 0 imgBuffer =
        .ok (some ⟨image.status, events ++ image.events⟩)) ∧
    (image.status = 0 → ∀ next : KineticThreads, next.lAcquired = turn.totalAcquired →
      next.imgBuffer = filled →
        Done drvNumber params fheaders xpixels ypixels imgBuffer (done ++ [turn]) next
          (events ++ image.events)) := by
  have hgoes : ¬ params.numImages ≤ state.lAcquired := Int32.not_le.mpr hmore
  constructor
  · intro hstatus tail
    refine hdone (turn :: tail) image ?_
    rw [kineticLoop, if_neg hgoes, checked_bind_ok himage]
    dsimp only
    rw [if_pos hstatus]
    rfl
  · rintro hstatus next hcounted hbuffer tail rest hrest
    rw [hcounted, hbuffer] at hrest
    have hround : kineticLoop drvNumber params fheaders xpixels ypixels (turn :: tail)
        state.lAcquired state.imgBuffer =
          .ok (some ⟨rest.status, image.events ++ rest.events⟩) := by
      rw [kineticLoop, if_neg hgoes, checked_bind_ok himage]
      dsimp only
      rw [if_neg (not_not.mpr hstatus), checked_bind_ok hrest]
      rfl
    have hall := hdone (turn :: tail) _ hround
    rw [List.append_assoc, List.singleton_append, hall, List.append_assoc]

/-- The threads have done what the sequential series does for the same answers, with some
reports in each round. -/
inductive Refines (drvNumber : DrvCode → Nat) (params : AndorParameters) (fheaders : FitsHeaders)
    (xpixels ypixels : Int) (turns : List KineticTurn) (imgBuffer : List Int32)
    (state : KineticThreads) : Prop where
  | betweenRounds (done : List KineticTurn) (events : List ScanEvent)
      (hpc : state.pc = .loopTest ∨ state.pc = .clearFlag ∨ state.pc = .startThread)
      (hleft : state.pc ≠ .loopTest → state.turns ≠ [])
      (hturns : withoutReports (done ++ state.turns) = withoutReports turns)
      (hdone : Done drvNumber params fheaders xpixels ypixels imgBuffer done state events)
      (hsame : SameEvents state.events (.startAcquisition :: events))
  | inRound (done : List KineticTurn) (events : List ScanEvent) (turn : KineticTurn)
      (later : List KineticTurn) (reports : List Text) (calls : List ScanEvent)
      (hnow : state.turns = turn :: later) (hround : RoundState state.pc turn calls)
      (hturns : withoutReports (done ++ state.turns) = withoutReports turns)
      (hdone : Done drvNumber params fheaders xpixels ypixels imgBuffer done state events)
      (hsame : SameEvents state.events
        (.startAcquisition :: (events ++ reports.map threadReport) ++ calls))
  | returned (answered : List KineticTurn) (series : Scan)
      (hpc : state.pc = .returned series.status)
      (hturns : withoutReports answered = withoutReports turns)
      (hseries : kineticLoop drvNumber params fheaders xpixels ypixels answered 0 imgBuffer =
        .ok (some series))
      (hsame : SameEvents state.events (.startAcquisition :: series.events))

theorem RoundState.calls {pc : KineticPc} {turn : KineticTurn} {calls : List ScanEvent}
    (hround : RoundState pc turn calls) : ∀ event ∈ calls, isMessage event = false := by
  have hnone : calls = [] ∨ calls = [.abortAcquisition] := by
    cases pc with
    | testSignals => exact Or.inl hround
    | wait | abortAcquisition | fetch => exact Or.inl hround.1
    | setFlag ending | join ending =>
        cases ending with
        | signal status | acquired => exact Or.inl hround.1
        | waitFailed => exact Or.inr hround.1
    | loopTest | clearFlag | startThread | returned status => exact hround.elim
  rcases hnone with rfl | rfl
  · exact List.forall_mem_nil _
  · exact List.forall_mem_singleton.mpr rfl

theorem withoutReports_append (first second : List KineticTurn) :
    withoutReports (first ++ second) = withoutReports first ++ withoutReports second :=
  List.map_append

theorem withoutReports_cons (turn : KineticTurn) (reports : List Text)
    (later : List KineticTurn) :
    withoutReports (turn.withReports reports :: later) = withoutReports (turn :: later) := rfl

section Refinement

variable {turns : List KineticTurn} {imgBuffer : List Int32}

/-- The reporter adds to the reports of its round. -/
theorem Refines.reporterStep {state next : KineticThreads}
    (hrefines : Refines drvNumber params fheaders xpixels ypixels turns imgBuffer state)
    (hinv : KineticInv params state) (hstep : ReporterSteps params state next) :
    Refines drvNumber params fheaders xpixels ypixels turns imgBuffer next := by
  have hrunning : state.reporter ≠ .notRunning := by
    cases hstep with
    | goesOn reporter hbefore => exact hbefore
    | send progress hsend =>
        rw [hsend]
        rintro ⟨⟩
  have hreporting := hinv.running.mp hrunning
  cases hrefines with
  | betweenRounds done events hpc =>
      rcases hpc with hpc | hpc | hpc
      all_goals
        rw [hpc] at hreporting
        cases hreporting
  | returned answered series hpc =>
      rw [hpc] at hreporting
      cases hreporting
  | inRound done events turn later reports calls hnow hround hturns hdone hsame =>
      cases hstep with
      | goesOn => exact .inRound done events turn later reports calls hnow hround hturns hdone hsame
      | send progress =>
          refine .inRound done events turn later
            (reports ++ [imageProgress state.curImage params.numImages.toInt progress]) calls hnow
            hround hturns hdone ?_
          have hmore := hsame.report hround.calls
            (ascii "info:acquiring image ...;status:acquiring;image:" ++
              imageProgress state.curImage params.numImages.toInt progress)
          simpa [threadReport, List.append_assoc] using hmore

/-- The main thread begins a round, or ends the series. -/
theorem Refines.beginRound {state next : KineticThreads} {done : List KineticTurn}
    {events : List ScanEvent}
    (hpc : state.pc = .loopTest ∨ state.pc = .clearFlag ∨ state.pc = .startThread)
    (hleft : state.pc ≠ .loopTest → state.turns ≠ [])
    (hturns : withoutReports (done ++ state.turns) = withoutReports turns)
    (hdone : Done drvNumber params fheaders xpixels ypixels imgBuffer done state events)
    (hsame : SameEvents state.events (.startAcquisition :: events))
    (hstep : MainSteps drvNumber params fheaders xpixels ypixels state next) :
    Refines drvNumber params fheaders xpixels ypixels turns imgBuffer next := by
  cases hstep with
  | seriesEnds _ hall =>
      exact .returned (done ++ state.turns) _ rfl hturns
        (hdone _ _ (kineticLoop_ends hall state.turns state.imgBuffer)) (hsame.append (.refl _))
  | nextImage _ _ hnonempty =>
      exact .betweenRounds done events (Or.inr (Or.inl rfl)) (fun _ => hnonempty) hturns hdone
        hsame
  | clearFlag hclear =>
      have hnonempty : state.turns ≠ [] := hleft (by rw [hclear]; rintro ⟨⟩)
      exact .betweenRounds done events (Or.inr (Or.inr rfl)) (fun _ => hnonempty) hturns hdone
        hsame
  | startThread hthread =>
      have hnonempty : state.turns ≠ [] := hleft (by rw [hthread]; rintro ⟨⟩)
      obtain ⟨turn, later, hnow⟩ := List.exists_cons_of_ne_nil hnonempty
      refine .inRound done events turn later [] [] hnow rfl hturns hdone ?_
      simpa using hsame
  | testSignals _ _ hother | wait _ _ hother | abortAcquisition hother | setFlag _ hother
  | join _ hother | fetch _ _ _ _ hother =>
      rw [hother] at hpc
      rcases hpc with hpc | hpc | hpc
      all_goals cases hpc

/-- The main thread goes on in a round: to its end, or to the end of the series. -/
theorem Refines.goOn {state next : KineticThreads} {done : List KineticTurn}
    {events : List ScanEvent} {turn : KineticTurn} {later : List KineticTurn}
    {reports : List Text} {calls : List ScanEvent} (hnow : state.turns = turn :: later)
    (hround : RoundState state.pc turn calls)
    (hturns : withoutReports (done ++ state.turns) = withoutReports turns)
    (hdone : Done drvNumber params fheaders xpixels ypixels imgBuffer done state events)
    (hsame : SameEvents state.events
      (.startAcquisition :: (events ++ reports.map threadReport) ++ calls))
    (hmore : state.lAcquired < params.numImages)
    (hstep : MainSteps drvNumber params fheaders xpixels ypixels state next) :
    Refines drvNumber params fheaders xpixels ypixels turns imgBuffer next := by
  have hanswered : withoutReports (done ++ turn.withReports reports :: later) =
      withoutReports turns := by
    rw [withoutReports_append, withoutReports_cons, ← withoutReports_append, ← hnow, hturns]
  -- the series ends with this round
  have hends : ∀ image filled, image.status ≠ 0 →
      kineticTurn drvNumber params fheaders xpixels ypixels (turn.withReports reports)
        state.imgBuffer = .ok (image, filled) →
      kineticLoop drvNumber params fheaders xpixels ypixels
        (done ++ turn.withReports reports :: later) 0 imgBuffer =
          .ok (some ⟨image.status, events ++ image.events⟩) :=
    fun image filled hstatus himage => (hdone.next hmore himage).1 hstatus later
  cases hstep with
  | seriesEnds hpc | nextImage hpc | clearFlag hpc | startThread hpc =>
      rw [hpc] at hround
      exact hround.elim
  | testSignals now rest hpc hthis =>
      rw [hpc] at hround
      obtain ⟨rfl, rfl⟩ := List.cons.inj (hnow.symm.trans hthis)
      refine .inRound done events turn later reports calls hnow ?_ hturns hdone hsame
      dsimp only
      split
      · rename_i hsignal
        refine ⟨hround, hsignal, ?_⟩
        rw [abortExitStatus, interruptExitStatus, ite_self]
      · rename_i hsignal
        exact ⟨hround, hsignal⟩
  | wait now rest hpc hthis =>
      rw [hpc] at hround
      obtain ⟨rfl, rfl⟩ := List.cons.inj (hnow.symm.trans hthis)
      refine .inRound done events turn later reports calls hnow ?_ hturns hdone hsame
      dsimp only
      split
      · rename_i hfailed
        exact ⟨hround.1, hround.2, hfailed⟩
      · rename_i hwaited
        exact ⟨hround.1, hround.2, not_not.mp hwaited⟩
  | abortAcquisition hpc =>
      rw [hpc] at hround
      obtain ⟨rfl, hsignal, hfailed⟩ := hround
      refine .inRound done events turn later reports [.abortAcquisition] hnow
        ⟨rfl, hsignal, hfailed⟩ hturns hdone ?_
      rw [List.append_nil] at hsame
      exact hsame.append (.refl _)
  | setFlag ending hpc =>
      rw [hpc] at hround
      exact .inRound done events turn later reports calls hnow hround hturns hdone hsame
  | join ending hpc =>
      rw [hpc] at hround
      cases ending with
      | signal status =>
          obtain ⟨rfl, hsignal, rfl⟩ := hround
          have hseries := hends _ _ (by simp)
            (kineticTurn_signalled hsignal reports state.imgBuffer)
          rw [List.append_nil] at hsame
          exact .returned _ _ rfl hanswered hseries hsame
      | waitFailed =>
          obtain ⟨rfl, hsignal, hfailed⟩ := hround
          have hseries := hends _ _ (by simp)
            (kineticTurn_waitFailed hsignal hfailed reports state.imgBuffer)
          refine .returned _ _ rfl hanswered hseries ?_
          simpa [List.append_assoc] using hsame
      | acquired =>
          exact .inRound done events turn later reports calls hnow hround hturns hdone hsame
  | fetch now rest image filled hpc hthis himage =>
      rw [hpc] at hround
      obtain ⟨rfl, hsignal, hwaited⟩ := hround
      obtain ⟨rfl, rfl⟩ := List.cons.inj (hnow.symm.trans hthis)
      have hturn := kineticTurn_fetch hsignal hwaited reports himage
      rw [List.append_nil] at hsame
      have hevents : SameEvents (state.events ++ image.events)
          (.startAcquisition :: (events ++ (reports.map threadReport ++ image.events))) := by
        have happend := hsame.append (.refl image.events)
        simpa [List.append_assoc] using happend
      by_cases hstatus : image.status = 0
      · have hnext := (hdone.next hmore hturn).2 hstatus
        rw [← List.singleton_append, ← List.append_assoc] at hanswered
        refine .betweenRounds (done ++ [turn.withReports reports])
          (events ++ (reports.map threadReport ++ image.events)) ?_ ?_ hanswered
          (hnext _ rfl rfl) hevents
        · dsimp only
          rw [if_neg (not_not.mpr hstatus)]
          exact Or.inl rfl
        · dsimp only
          rw [if_neg (not_not.mpr hstatus)]
          exact fun hother => absurd rfl hother
      · have hseries := hends ⟨image.status, reports.map threadReport ++ image.events⟩ filled
          hstatus hturn
        refine .returned _ _ ?_ hanswered hseries hevents
        dsimp only
        rw [if_pos hstatus]

theorem Refines.step {state next : KineticThreads} {move : KineticMove}
    (hrefines : Refines drvNumber params fheaders xpixels ypixels turns imgBuffer state)
    (hinv : KineticInv params state)
    (hstep : kineticStep drvNumber params fheaders xpixels ypixels state move = some next) :
    Refines drvNumber params fheaders xpixels ypixels turns imgBuffer next := by
  rcases kineticStep_cases hstep with hmain | hreporter
  · cases hrefines with
    | betweenRounds done events hpc hleft hturns hdone hsame =>
        exact .beginRound hpc hleft hturns hdone hsame hmain
    | inRound done events turn later reports calls hnow hround hturns hdone hsame =>
        have hinside : state.pc.inRound = true := by
          cases hpc : state.pc with
          | loopTest | returned status =>
              rw [hpc] at hround
              exact hround.elim
          | _ => rfl
        exact .goOn hnow hround hturns hdone hsame (hinv.more hinside) hmain
    | returned answered series hpc =>
        cases hmain with
        | _ => simp_all
  · exact hrefines.reporterStep hinv hreporter

/-- Every interleaving of get_kinetic_scan and its reporters does what the sequential series does
for the same answers, with some reports in each round: the same status, the same messages in the
same order, and the same calls and files in the same order. -/
theorem kinetic_threads_refine {stopReportingThread acquisitionThreadFinished : Bool}
    {moves : List KineticMove} {state : KineticThreads} {status : Int}
    (hrun : run (kineticStep drvNumber params fheaders xpixels ypixels)
      (kineticCalled turns imgBuffer stopReportingThread acquisitionThreadFinished) moves =
        some state)
    (hreturned : state.pc = .returned status) :
    ∃ answered scan, withoutReports answered = withoutReports turns ∧
      getKineticScan drvNumber params fheaders xpixels ypixels answered imgBuffer =
        .ok (some scan) ∧
      scan.status = status ∧ SameEvents state.events scan.events := by
  have hstart : Refines drvNumber params fheaders xpixels ypixels turns imgBuffer
      (kineticCalled turns imgBuffer stopReportingThread acquisitionThreadFinished) :=
    .betweenRounds [] [] (Or.inl rfl) (fun hother => absurd rfl hother) rfl
      (fun _ _ hrest => hrest) (.refl _)
  have hkeeps : ∀ (before : KineticThreads) (move : KineticMove) (after : KineticThreads),
      KineticInv params before ∧
          Refines drvNumber params fheaders xpixels ypixels turns imgBuffer before →
        kineticStep drvNumber params fheaders xpixels ypixels before move = some after →
          KineticInv params after ∧
            Refines drvNumber params fheaders xpixels ypixels turns imgBuffer after :=
    fun _ _ _ hinv hstep => ⟨hinv.1.step hstep, hinv.2.step hinv.1 hstep⟩
  obtain ⟨-, hrefines⟩ := invariant_of_reachable hkeeps ⟨.start _ _ _ _, hstart⟩ ⟨moves, hrun⟩
  cases hrefines with
  | betweenRounds done events hpc =>
      rw [hreturned] at hpc
      rcases hpc with hpc | hpc | hpc
      all_goals cases hpc
  | inRound done events turn later reports calls hnow hround =>
      rw [hreturned] at hround
      exact hround.elim
  | returned answered series hpc hturns hseries hsame =>
      obtain rfl := KineticPc.returned.inj (hpc.symm.trans hreturned)
      refine ⟨answered, ⟨series.status, .startAcquisition :: series.events⟩, hturns, ?_, rfl,
        hsame⟩
      rw [getKineticScan, checked_bind_ok hseries]
      rfl

end Refinement

/-- Two rounds with one report each, and the end of the series. -/
theorem two_images_threads_refine :
    ∃ state, twoImagesThreads [goodTurn 1 1, goodTurn 2 2]
        (reportedRound ++ reportedRound ++ [.main]) = some state ∧
      ∃ answered scan, withoutReports answered = withoutReports [goodTurn 1 1, goodTurn 2 2] ∧
        getKineticScan (fun _ => 20002) twoImages (FitsHeaders.construct 100) 2 2 answered
          [0, 0, 0, 0] = .ok (some scan) ∧
        scan.status = 0 ∧ SameEvents state.events scan.events := by
  have hfinal : (twoImagesThreads [goodTurn 1 1, goodTurn 2 2]
      (reportedRound ++ reportedRound ++ [.main])).map KineticThreads.pc =
        some (.returned 0) := by
    decide +kernel
  obtain ⟨state, hrun, hpc⟩ := Option.map_eq_some_iff.mp hfinal
  exact ⟨state, hrun, kinetic_threads_refine hrun hpc⟩

end Steps

end Acquisition

end Andor2k
