/-
The divisors of the three progress reporters, from the answers of GetAcquisitionTimings and
GetReadOutTime on.  What is computed in `long` has to fit there.  The interval that a reporter
sleeps is that of exp2tickEvery and is not computed again.
-/
import Andor2k.NearestDouble
import Andor2k.Parameters
import Andor2k.ProgressReports
import Andor2k.Sdk

namespace Andor2k

open CText Ieee

/-- An intermediate result that has to be a `long`. -/
def checkLong (value : Int) : Checked Int :=
  if -2 ^ 63 ≤ value ∧ value < 2 ^ 63 then .ok value else .error .signedOverflow

/-- `static_cast<long>` of a finite `float`, given as a sign and a ratio. -/
def truncateToLong (negative : Bool) (ratio : Nat × Nat) : Checked Int :=
  let whole : Int := (ratio.1 / ratio.2 : Nat)
  checkLong (if negative then -whole else whole)

/-- `static_cast<long>(seconds * 1e3)`: the product is exact in `double`. -/
def millisec (seconds : Binary32) : Checked Int :=
  if single.infinity ≤ seconds.magnitude then .error .signedOverflow
  else
    let (num, den) := single.ratio seconds.magnitude
    truncateToLong seconds.negative (num * 1000, den)

/-- `(long)(seconds * 1000)`: the product is rounded to a `float`. -/
def millisecSingle (seconds : Binary32) : Checked Int :=
  if single.infinity ≤ seconds.magnitude then .error .signedOverflow
  else
    let (num, den) := single.ratio seconds.magnitude
    let product := single.round (num * 1000) den
    if single.infinity ≤ product then .error .signedOverflow
    else truncateToLong seconds.negative (single.ratio product)

/-- What the two queries return and what is in the variables then; a query that fails leaves
in them what was there. -/
structure TimingAnswers where
  getAcquisitionTimings : DrvCode
  exposure : Binary32
  accumulate : Binary32
  kinetic : Binary32
  getReadOutTime : DrvCode
  readouttime : Binary32
deriving DecidableEq, Repr

structure ImageTimes where
  millisecPerImage : Int
  totalMillisec : Int
deriving DecidableEq, Repr

/-- All exposures that are accumulated in one image, and its read-out. -/
def accumulatedMillisec (numAccumulations exposureMs accumulateMs readouttimeMs : Int) :
    Checked Int := do
  let others ← subInt numAccumulations 1
  let between ← checkLong (accumulateMs - exposureMs)
  let earlier ← checkLong (others * between)
  let exposed ← checkLong (earlier + exposureMs)
  checkLong (exposed + readouttimeMs)

def repeatedMillisec (numImages millisecPerImage : Int) : Checked ImageTimes := do
  let totalMillisec ← checkLong (numImages * millisecPerImage)
  return ⟨millisecPerImage, totalMillisec⟩

/-- A cycle for each image but one, and that image. -/
def cycledMillisec (numImages kineticMs millisecPerImage : Int) : Checked Int := do
  let others ← subInt numImages 1
  let cycles ← checkLong (others * kineticMs)
  checkLong (cycles + millisecPerImage)

/-- The status of `coarse_exposure_time` if it is not 0, else the times. -/
def coarseExposureTime (params : AndorParameters) (answers : TimingAnswers) :
    Checked (Except Int ImageTimes) :=
  if answers.getAcquisitionTimings ≠ .success then .ok (.error 1)
  else if answers.getReadOutTime ≠ .success then .ok (.error 1)
  else do
    let exposureMs ← millisec answers.exposure
    let accumulateMs ← millisec answers.accumulate
    let kineticMs ← millisec answers.kinetic
    let readouttimeMs ← millisec answers.readouttime
    if params.acquisitionMode = .singleScan then
      let millisecPerImage ← checkLong (exposureMs + readouttimeMs)
      let times ← repeatedMillisec params.numImages.toInt millisecPerImage
      return .ok times
    else if params.acquisitionMode = .accumulate then
      let totalMillisec ← accumulatedMillisec params.numAccumulations.toInt exposureMs
        accumulateMs readouttimeMs
      return .ok ⟨totalMillisec, totalMillisec⟩
    else if params.acquisitionMode = .kineticSeries then
      let millisecPerImage ← accumulatedMillisec params.numAccumulations.toInt exposureMs
        accumulateMs readouttimeMs
      let totalMillisec ← cycledMillisec params.numImages.toInt kineticMs millisecPerImage
      return .ok ⟨millisecPerImage, totalMillisec⟩
    else if params.acquisitionMode = .runTillAbort then
      let millisecPerImage ← checkLong (exposureMs + readouttimeMs)
      let times ← repeatedMillisec params.numImages.toInt millisecPerImage
      return .ok times
    else return .error 10

/-- The times `get_kinetic_scan` works with: where the timings fail, those of the exposure the
user asked for. -/
def kineticTimes (params : AndorParameters) (answers : TimingAnswers) : Checked ImageTimes := do
  match ← coarseExposureTime params answers with
  | .ok times => return times
  | .error _ =>
      let millisecPerImage ← millisec params.exposure
      repeatedMillisec params.numImages.toInt millisecPerImage

structure ThreadReporter where
  imageNr : Int
  numImages : Int
  exposureMs : Int
  totalMs : Int
  seriesStart : Int
deriving DecidableEq, Repr

namespace ThreadReporter

variable (reporter : ThreadReporter)

/-- The body of the loop; it keeps nothing. -/
def poll (threadStart : Int) (_ : Unit) (turn : PollTurn) :
    Checked (Unit × List SentProgress) := do
  let fromThreadStart := durationMs (turn.now - threadStart)
  let fromAcquisitionStart := durationMs (turn.now - reporter.seriesStart)
  let imageDone ← percentDone fromThreadStart reporter.exposureMs
  let seriesDone ← percentDone fromAcquisitionStart reporter.totalMs
  return ((), [⟨⟨.acquiring reporter.imageNr reporter.numImages, imageDone, seriesDone,
    fromThreadStart, fromAcquisitionStart⟩, turn.released⟩])

def report (threadStart : Int) (turns : List PollTurn) : Checked (List SentProgress) :=
  (pollingLoop (reporter.poll threadStart) () turns).map Prod.snd

end ThreadReporter

/-- The thread that reports while one image is taken: the number of the image, the clock when
report is called, and the turns of its loop. -/
structure ThreadRun where
  curImage : Int
  threadStart : Int
  turns : List PollTurn
deriving DecidableEq, Repr

/-- The threads of a kinetic series, one after the other. -/
def threadReports (params : AndorParameters) (times : ImageTimes) (seriesStart : Int) :
    List ThreadRun → Checked (List SentProgress)
  | [] => .ok []
  | run :: rest => do
      let reporter : ThreadReporter := ⟨run.curImage, params.numImages.toInt,
        times.millisecPerImage, times.totalMillisec, seriesStart⟩
      let sent ← reporter.report run.threadStart run.turns
      let later ← threadReports params times seriesStart rest
      return sent ++ later

/-- `estimated_time_per_image(exposure_millisec, 0)` -/
def firstImageMillisec (exposureMillisec : Int) : Int :=
  let expInSec := nearestDouble (nearestDouble exposureMillisec / 1000)
  let proportional := nearestDouble (nearestDouble (999677 / 1000) * expInSec)
  truncated (nearestDouble (proportional + nearestDouble (961827 / 1000)))

def seriesReporter (exposureMillisec seriesStart numImages : Int) : AcquisitionSeriesReporter :=
  ⟨exposureMillisec, seriesStart, numImages, firstImageMillisec⟩

/-- `estimated_series_time`, with the results on the way. -/
def checkedSeriesTime (exposureMillisec numImages : Int) : Checked Int := do
  let perImage ← checkLong (700 + exposureMillisec)
  let others ← subInt numImages 1
  let images ← checkLong (perImage * others)
  let upToImages ← checkLong (firstImageMillisec exposureMillisec + images)
  let gaps ← checkInt (4 * numImages)
  checkLong (upToImages + gaps)

/-- When the threads start and what the loops of their reports meet. -/
structure ReportSchedule where
  seriesStart : Int
  abortSet : Int
  single : List PollTurn
  series : List SeriesTurn
  kinetic : List ThreadRun
deriving DecidableEq, Repr

/-- The messages of the reporters that `get_acquisition` sets up. -/
def progressReports (params : AndorParameters) (answers : TimingAnswers)
    (schedule : ReportSchedule) : Checked (List SentProgress) :=
  if params.acquisitionMode = .singleScan then do
    -- the status of GetAcquisitionTimings is not looked at
    let exposureMs ← millisec answers.exposure
    let report ← AcquisitionReporter.report ⟨exposureMs, schedule.seriesStart⟩ schedule.single
      schedule.abortSet
    return report.sent
  else if params.acquisitionMode = .runTillAbort then do
    let exposureMs ← millisecSingle answers.exposure
    let _ ← checkedSeriesTime exposureMs params.numImages.toInt
    let report ← (seriesReporter exposureMs schedule.seriesStart params.numImages.toInt).report
      schedule.series
    return report.sent
  else if params.acquisitionMode = .kineticSeries then do
    let times ← kineticTimes params answers
    threadReports params times schedule.seriesStart schedule.kinetic
  else .ok []

section ZeroFree

variable {A B : Type}

def ZeroFree (computation : Checked A) : Prop := computation ≠ .error .divisionByZero

theorem zeroFree_ok (value : A) : ZeroFree (.ok value) := by
  rintro ⟨⟩

theorem zeroFree_bind_iff {computation : Checked A} {f : A → Checked B}
    (hfirst : ZeroFree computation) :
    ZeroFree (computation >>= f) ↔ ∀ value, computation = .ok value → ZeroFree (f value) := by
  cases computation with
  | error fault =>
      constructor
      · rintro - value ⟨⟩
      · intro _ hfault
        exact hfirst (congrArg Except.error (Except.error.inj hfault))
  | ok value =>
      constructor
      · rintro hrest _ ⟨⟩
        exact hrest
      · intro hrest
        exact hrest value rfl

theorem ZeroFree.bind {computation : Checked A} {f : A → Checked B}
    (hfirst : ZeroFree computation) (hrest : ∀ value, ZeroFree (f value)) :
    ZeroFree (computation >>= f) :=
  (zeroFree_bind_iff hfirst).mpr fun value _ => hrest value

theorem ZeroFree.of_bind {computation : Checked A} {f : A → Checked B}
    (hfree : ZeroFree (computation >>= f)) : ZeroFree computation := by
  intro hzero
  exact hfree (checked_bind_error hzero f)

theorem ZeroFree.map {computation : Checked A} (hfree : ZeroFree computation) (f : A → B) :
    ZeroFree (computation.map f) := by
  cases computation with
  | error fault => exact fun hfault => hfree (congrArg Except.error (Except.error.inj hfault))
  | ok value => exact zeroFree_ok _

theorem ZeroFree.of_map {computation : Checked A} {f : A → B}
    (hfree : ZeroFree (computation.map f)) : ZeroFree computation := by
  rintro rfl
  exact hfree rfl

theorem zeroFree_ite {passes : Prop} [Decidable passes] (value : A) :
    ZeroFree (if passes then .ok value else .error .signedOverflow) := by
  split
  · exact zeroFree_ok _
  · rintro ⟨⟩

theorem zeroFree_checkInt (value : Int) : ZeroFree (checkInt value) := zeroFree_ite value

theorem zeroFree_checkLong (value : Int) : ZeroFree (checkLong value) := zeroFree_ite value

theorem zeroFree_percentDone_iff {elapsed whole : Int} :
    ZeroFree (percentDone elapsed whole) ↔ whole ≠ 0 := by
  unfold percentDone
  split
  · rename_i hzero
    exact iff_of_false (fun hfree => hfree rfl) (fun hwhole => hwhole hzero)
  · rename_i hwhole
    exact iff_of_true (zeroFree_ok _) hwhole

/-- Turns that do not divide by zero make a loop that does not. -/
theorem zeroFree_pollingLoop {S T : Type} {body : S → T → Checked (S × List SentProgress)}
    (hbody : ∀ state turn, ZeroFree (body state turn)) (state : S) (turns : List T) :
    ZeroFree (pollingLoop body state turns) := by
  induction turns generalizing state with
  | nil => exact zeroFree_ok _
  | cons turn rest ih =>
      exact (hbody state turn).bind fun result => (ih result.1).bind fun _ => zeroFree_ok _

end ZeroFree

/-- The bias image never gets to the loop. -/
theorem AcquisitionReporter.zeroFree_report (reporter : AcquisitionReporter)
    (turns : List PollTurn) (abortSet : Int) : ZeroFree (reporter.report turns abortSet) := by
  unfold AcquisitionReporter.report
  split
  · exact zeroFree_ok _
  · rename_i hbias
    have hpoll : ∀ state turn, ZeroFree (reporter.poll state turn) := by
      intro state turn
      exact (zeroFree_percentDone_iff.mpr hbias).bind fun _ => zeroFree_ok _
    have hfinal : ∀ elapsed, ZeroFree (reporter.finalPercent abortSet elapsed) := by
      intro elapsed
      unfold AcquisitionReporter.finalPercent
      split
      · exact zeroFree_ok _
      · exact zeroFree_percentDone_iff.mpr hbias
    exact (zeroFree_pollingLoop hpoll 0 turns).bind fun result =>
      (hfinal result.1).bind fun _ => zeroFree_ok _

theorem ThreadReporter.zeroFree_report {reporter : ThreadReporter}
    (hexposure : reporter.exposureMs ≠ 0) (htotal : reporter.totalMs ≠ 0) (threadStart : Int)
    (turns : List PollTurn) : ZeroFree (reporter.report threadStart turns) := by
  refine (zeroFree_pollingLoop ?_ () turns).map Prod.snd
  intro state turn
  exact (zeroFree_percentDone_iff.mpr hexposure).bind fun _ =>
    (zeroFree_percentDone_iff.mpr htotal).bind fun _ => zeroFree_ok _

/-- One turn of one thread is enough to meet a zero. -/
theorem zeroFree_threadReports_iff (params : AndorParameters) (times : ImageTimes)
    (seriesStart : Int) :
    (∀ runs, ZeroFree (threadReports params times seriesStart runs)) ↔
      times.millisecPerImage ≠ 0 ∧ times.totalMillisec ≠ 0 := by
  constructor
  · intro hfree
    have hturn := (hfree [⟨1, 0, [⟨0, false⟩]⟩]).of_bind.of_map.of_bind
    have hexposure := zeroFree_percentDone_iff.mp hturn.of_bind
    refine ⟨hexposure, ?_⟩
    have hseriesDone := (zeroFree_bind_iff hturn.of_bind).mp hturn _
      (by rw [percentDone, if_neg hexposure])
    exact zeroFree_percentDone_iff.mp hseriesDone.of_bind
  · rintro ⟨hexposure, htotal⟩ runs
    induction runs with
    | nil => exact zeroFree_ok _
    | cons run rest ih =>
        exact (ThreadReporter.zeroFree_report hexposure htotal _ _).bind fun _ =>
          ih.bind fun _ => zeroFree_ok _

namespace AcquisitionSeriesReporter

variable {reporter : AcquisitionSeriesReporter}

theorem estimatedTimePerImage_ne_zero (hfirst : reporter.estimatedTimePerImage 0 ≠ 0)
    (hlater : reporter.estimatedTimePerImage 1 ≠ 0) (imgNr : Int) :
    reporter.estimatedTimePerImage imgNr ≠ 0 := by
  by_cases hzero : imgNr = 0
  · rw [hzero]
    exact hfirst
  · unfold estimatedTimePerImage at hlater ⊢
    rw [if_neg hzero]
    exact hlater

theorem zeroFree_poll (hseries : reporter.estimatedSeriesTime ≠ 0)
    (himage : ∀ imgNr, reporter.estimatedTimePerImage imgNr ≠ 0) (state : PollState)
    (turn : SeriesTurn) : ZeroFree (reporter.poll state turn) := by
  have hacquired : ZeroFree (reporter.acquiredMessage state turn) := by
    unfold acquiredMessage
    simp only []
    split
    · exact (zeroFree_percentDone_iff.mpr hseries).map _
    · exact zeroFree_ok _
  exact hacquired.bind fun _ => (zeroFree_percentDone_iff.mpr (himage _)).bind fun _ =>
    (zeroFree_percentDone_iff.mpr hseries).bind fun _ => zeroFree_ok _

theorem exists_acquired {state : PollState} {turn : SeriesTurn}
    (hfree : ZeroFree (reporter.acquiredMessage state turn)) :
    ∃ acquired, reporter.acquiredMessage state turn = .ok acquired := by
  unfold acquiredMessage at hfree ⊢
  simp only [] at hfree ⊢
  split
  · rename_i hchanged
    rw [if_pos hchanged] at hfree
    have hseries := zeroFree_percentDone_iff.mp hfree.of_map
    rw [percentDone, if_neg hseries]
    exact ⟨_, rfl⟩
  · exact ⟨[], rfl⟩

/-- A turn divides by both estimates. -/
theorem divisors_of_poll {state : PollState} {turn : SeriesTurn}
    (hfree : ZeroFree (reporter.poll state turn)) :
    reporter.estimatedTimePerImage (nextClock state.clock turn).curImg ≠ 0 ∧
      reporter.estimatedSeriesTime ≠ 0 := by
  obtain ⟨acquired, hacquired⟩ := exists_acquired hfree.of_bind
  have himageDone := (zeroFree_bind_iff hfree.of_bind).mp hfree acquired hacquired
  have himage := zeroFree_percentDone_iff.mp himageDone.of_bind
  refine ⟨himage, ?_⟩
  have hseriesDone := (zeroFree_bind_iff himageDone.of_bind).mp himageDone _
    (by rw [percentDone, if_neg himage])
  exact zeroFree_percentDone_iff.mp hseriesDone.of_bind

/-- A turn that goes on with image 1, and one that reads the 0 of a scan that has not begun. -/
theorem zeroFree_report_iff :
    (∀ turns, ZeroFree (reporter.report turns)) ↔
      reporter.estimatedTimePerImage 0 ≠ 0 ∧ reporter.estimatedTimePerImage 1 ≠ 0 ∧
        reporter.estimatedSeriesTime ≠ 0 := by
  constructor
  · intro hfree
    have hbefore := divisors_of_poll (hfree [⟨0, 0, 0, false, 0, false⟩]).of_bind.of_bind
    have hfirst := divisors_of_poll (hfree [⟨0, 1, 0, false, 1, false⟩]).of_bind.of_bind
    exact ⟨hbefore.1, hfirst⟩
  · rintro ⟨hfirst, hlater, hseries⟩ turns
    exact (zeroFree_pollingLoop
      (zeroFree_poll hseries (estimatedTimePerImage_ne_zero hfirst hlater)) _ turns).bind
        fun _ => zeroFree_ok _

end AcquisitionSeriesReporter

/-- The values a `long` has room for. -/
def AreLongs (values : List Int) : Prop := ∀ value ∈ values, -2 ^ 63 ≤ value ∧ value < 2 ^ 63

def accumulatedSum (numAccumulations exposureMs accumulateMs readouttimeMs : Int) : Int :=
  (numAccumulations - 1) * (accumulateMs - exposureMs) + exposureMs + readouttimeMs

def kineticSum (numImages kineticMs millisecPerImage : Int) : Int :=
  (numImages - 1) * kineticMs + millisecPerImage

def AccumulatedLongs (numAccumulations exposureMs accumulateMs readouttimeMs : Int) : Prop :=
  -2 ^ 31 < numAccumulations ∧
    AreLongs [accumulateMs - exposureMs,
      (numAccumulations - 1) * (accumulateMs - exposureMs),
      (numAccumulations - 1) * (accumulateMs - exposureMs) + exposureMs,
      accumulatedSum numAccumulations exposureMs accumulateMs readouttimeMs]

def KineticLongs (numImages kineticMs millisecPerImage : Int) : Prop :=
  AreLongs [(numImages - 1) * kineticMs, kineticSum numImages kineticMs millisecPerImage]

/-- The first image, the later ones, and four milliseconds for each. -/
def seriesSum (exposureMs numImages : Int) : Int :=
  firstImageMillisec exposureMs + (700 + exposureMs) * (numImages - 1) + 4 * numImages

def SeriesLongs (exposureMs numImages : Int) : Prop :=
  4 * numImages < 2 ^ 31 ∧
    AreLongs [700 + exposureMs, (700 + exposureMs) * (numImages - 1),
      firstImageMillisec exposureMs + (700 + exposureMs) * (numImages - 1),
      seriesSum exposureMs numImages]

theorem checkLong_eq_ok {value result : Int} :
    checkLong value = .ok result ↔ (-2 ^ 63 ≤ value ∧ value < 2 ^ 63) ∧ value = result :=
  checked_ite_eq_ok

theorem areLongs_cons {value : Int} {values : List Int} :
    AreLongs (value :: values) ↔ (-2 ^ 63 ≤ value ∧ value < 2 ^ 63) ∧ AreLongs values :=
  List.forall_mem_cons

theorem areLongs_nil : AreLongs [] := List.forall_mem_nil _

/-- A step that tests its value, in front of the others. -/
theorem tested_bind_eq_ok {step : Checked Int} {passes : Prop} {value result : Int}
    {f : Int → Checked Int}
    (hstep : ∀ {other : Int}, step = .ok other ↔ passes ∧ value = other) :
    (step >>= f) = .ok result ↔ passes ∧ f value = .ok result := by
  rw [checked_bind_eq_ok]
  constructor
  · rintro ⟨other, hother, hrest⟩
    obtain ⟨hpasses, rfl⟩ := hstep.mp hother
    exact ⟨hpasses, hrest⟩
  · rintro ⟨hpasses, hrest⟩
    exact ⟨value, hstep.mpr ⟨hpasses, rfl⟩, hrest⟩

theorem checkLong_bind_eq_ok {value result : Int} {f : Int → Checked Int} :
    (checkLong value >>= f) = .ok result ↔
      (-2 ^ 63 ≤ value ∧ value < 2 ^ 63) ∧ f value = .ok result :=
  tested_bind_eq_ok checkLong_eq_ok

theorem checkInt_bind_eq_ok {value result : Int} {f : Int → Checked Int} :
    (checkInt value >>= f) = .ok result ↔
      (-2 ^ 31 ≤ value ∧ value < 2 ^ 31) ∧ f value = .ok result :=
  tested_bind_eq_ok checkInt_eq_ok

theorem accumulatedMillisec_eq_ok {numAccumulations : Int32}
    {exposureMs accumulateMs readouttimeMs result : Int} :
    accumulatedMillisec numAccumulations.toInt exposureMs accumulateMs readouttimeMs =
        .ok result ↔
      AccumulatedLongs numAccumulations.toInt exposureMs accumulateMs readouttimeMs ∧
        accumulatedSum numAccumulations.toInt exposureMs accumulateMs readouttimeMs =
          result := by
  have hlow := numAccumulations.le_toInt
  have hhigh := numAccumulations.toInt_lt
  unfold accumulatedMillisec subInt
  rw [checkInt_bind_eq_ok, checkLong_bind_eq_ok, checkLong_bind_eq_ok, checkLong_bind_eq_ok,
    checkLong_eq_ok, AccumulatedLongs, areLongs_cons, areLongs_cons, areLongs_cons, areLongs_cons]
  constructor
  · rintro ⟨hothers, hbetween, hearlier, hexposed, hsum, hresult⟩
    exact ⟨⟨by omega, hbetween, hearlier, hexposed, hsum, areLongs_nil⟩, hresult⟩
  · rintro ⟨⟨hothers, hbetween, hearlier, hexposed, hsum, -⟩, hresult⟩
    exact ⟨by omega, hbetween, hearlier, hexposed, hsum, hresult⟩

theorem checkedSeriesTime_eq_ok {exposureMs result : Int} {numImages : Int32}
    (hnum : 1 ≤ numImages.toInt) :
    checkedSeriesTime exposureMs numImages.toInt = .ok result ↔
      SeriesLongs exposureMs numImages.toInt ∧ seriesSum exposureMs numImages.toInt = result := by
  have hhigh := numImages.toInt_lt
  unfold checkedSeriesTime subInt
  rw [checkLong_bind_eq_ok, checkInt_bind_eq_ok, checkLong_bind_eq_ok, checkLong_bind_eq_ok,
    checkInt_bind_eq_ok, checkLong_eq_ok, SeriesLongs, areLongs_cons, areLongs_cons,
    areLongs_cons, areLongs_cons]
  constructor
  · rintro ⟨hperImage, -, himages, hupTo, hgaps, hsum, hresult⟩
    exact ⟨⟨hgaps.2, hperImage, himages, hupTo, hsum, areLongs_nil⟩, hresult⟩
  · rintro ⟨⟨hgaps, hperImage, himages, hupTo, hsum, -⟩, hresult⟩
    exact ⟨hperImage, by omega, himages, hupTo, by omega, hsum, hresult⟩

theorem cycledMillisec_eq_ok {numImages : Int32} {kineticMs millisecPerImage result : Int}
    (hnum : 1 ≤ numImages.toInt) :
    cycledMillisec numImages.toInt kineticMs millisecPerImage = .ok result ↔
      KineticLongs numImages.toInt kineticMs millisecPerImage ∧
        kineticSum numImages.toInt kineticMs millisecPerImage = result := by
  have hhigh := numImages.toInt_lt
  unfold cycledMillisec subInt
  rw [checkInt_bind_eq_ok, checkLong_bind_eq_ok, checkLong_eq_ok, KineticLongs, areLongs_cons,
    areLongs_cons]
  constructor
  · rintro ⟨-, hcycles, hsum, hresult⟩
    exact ⟨⟨hcycles, hsum, areLongs_nil⟩, hresult⟩
  · rintro ⟨⟨hcycles, hsum, -⟩, hresult⟩
    exact ⟨by omega, hcycles, hsum, hresult⟩

theorem zeroFree_truncateToLong (negative : Bool) (ratio : Nat × Nat) :
    ZeroFree (truncateToLong negative ratio) := zeroFree_checkLong _

theorem zeroFree_millisec (seconds : Binary32) : ZeroFree (millisec seconds) := by
  unfold millisec
  split
  · rintro ⟨⟩
  · exact zeroFree_truncateToLong _ _

theorem zeroFree_millisecSingle (seconds : Binary32) : ZeroFree (millisecSingle seconds) := by
  unfold millisecSingle
  simp only []
  split_ifs
  · rintro ⟨⟩
  · rintro ⟨⟩
  · exact zeroFree_truncateToLong _ _

theorem zeroFree_accumulatedMillisec (numAccumulations exposureMs accumulateMs
    readouttimeMs : Int) :
    ZeroFree (accumulatedMillisec numAccumulations exposureMs accumulateMs readouttimeMs) :=
  (zeroFree_checkInt _).bind fun _ => (zeroFree_checkLong _).bind fun _ =>
    (zeroFree_checkLong _).bind fun _ => (zeroFree_checkLong _).bind fun _ =>
      zeroFree_checkLong _

theorem zeroFree_cycledMillisec (numImages kineticMs millisecPerImage : Int) :
    ZeroFree (cycledMillisec numImages kineticMs millisecPerImage) :=
  (zeroFree_checkInt _).bind fun _ => (zeroFree_checkLong _).bind fun _ => zeroFree_checkLong _

theorem zeroFree_repeatedMillisec (numImages millisecPerImage : Int) :
    ZeroFree (repeatedMillisec numImages millisecPerImage) :=
  (zeroFree_checkLong _).bind fun _ => zeroFree_ok _

theorem zeroFree_checkedSeriesTime (exposureMs numImages : Int) :
    ZeroFree (checkedSeriesTime exposureMs numImages) :=
  (zeroFree_checkLong _).bind fun _ => (zeroFree_checkInt _).bind fun _ =>
    (zeroFree_checkLong _).bind fun _ => (zeroFree_checkLong _).bind fun _ =>
      (zeroFree_checkInt _).bind fun _ => zeroFree_checkLong _

theorem zeroFree_coarseExposureTime (params : AndorParameters) (answers : TimingAnswers) :
    ZeroFree (coarseExposureTime params answers) := by
  unfold coarseExposureTime
  split
  · exact zeroFree_ok _
  split
  · exact zeroFree_ok _
  refine (zeroFree_millisec _).bind fun _ => (zeroFree_millisec _).bind fun _ =>
    (zeroFree_millisec _).bind fun _ => (zeroFree_millisec _).bind fun _ => ?_
  split
  · exact (zeroFree_checkLong _).bind fun _ => (zeroFree_repeatedMillisec _ _).bind fun _ =>
      zeroFree_ok _
  split
  · exact (zeroFree_accumulatedMillisec _ _ _ _).bind fun _ => zeroFree_ok _
  split
  · exact (zeroFree_accumulatedMillisec _ _ _ _).bind fun _ =>
      (zeroFree_cycledMillisec _ _ _).bind fun _ => zeroFree_ok _
  split
  · exact (zeroFree_checkLong _).bind fun _ => (zeroFree_repeatedMillisec _ _).bind fun _ =>
      zeroFree_ok _
  · exact zeroFree_ok _

theorem zeroFree_kineticTimes (params : AndorParameters) (answers : TimingAnswers) :
    ZeroFree (kineticTimes params answers) := by
  refine (zeroFree_coarseExposureTime params answers).bind ?_
  rintro (status | times)
  · exact (zeroFree_millisec _).bind fun _ => zeroFree_repeatedMillisec _ _
  · exact zeroFree_ok _

/-- Whatever the loops meet. -/
def NeverDivideByZero (params : AndorParameters) (answers : TimingAnswers) : Prop :=
  ∀ schedule, ZeroFree (progressReports params answers schedule)

def TimingAnswers.Succeed (answers : TimingAnswers) : Prop :=
  answers.getAcquisitionTimings = .success ∧ answers.getReadOutTime = .success

section Scan

variable {params : AndorParameters} {answers : TimingAnswers}

/-- The times of a kinetic series are not zero: the sums of the timings where there are some,
else the milliseconds of the exposure. -/
def KineticDivisors (params : AndorParameters) (answers : TimingAnswers) : Prop :=
  (answers.Succeed → ∀ exposureMs accumulateMs kineticMs readouttimeMs,
    millisec answers.exposure = .ok exposureMs →
    millisec answers.accumulate = .ok accumulateMs →
    millisec answers.kinetic = .ok kineticMs →
    millisec answers.readouttime = .ok readouttimeMs →
    AccumulatedLongs params.numAccumulations.toInt exposureMs accumulateMs readouttimeMs →
    KineticLongs params.numImages.toInt kineticMs (accumulatedSum params.numAccumulations.toInt
      exposureMs accumulateMs readouttimeMs) →
    accumulatedSum params.numAccumulations.toInt exposureMs accumulateMs readouttimeMs ≠ 0 ∧
      kineticSum params.numImages.toInt kineticMs (accumulatedSum params.numAccumulations.toInt
        exposureMs accumulateMs readouttimeMs) ≠ 0) ∧
  (¬ answers.Succeed → millisec params.exposure ≠ .ok 0)

/-- The estimates of a series are not zero.  An exposure time that is not negative is enough;
a query that fails can leave a negative one. -/
def SeriesDivisors (params : AndorParameters) (answers : TimingAnswers) : Prop :=
  ∀ exposureMs, millisecSingle answers.exposure = .ok exposureMs →
    SeriesLongs exposureMs params.numImages.toInt →
    0 ≤ exposureMs ∨ (700 + exposureMs ≠ 0 ∧ firstImageMillisec exposureMs ≠ 0 ∧
      seriesSum exposureMs params.numImages.toInt ≠ 0)

theorem kineticTimes_of_failure (hfail : ¬ answers.Succeed) :
    kineticTimes params answers =
      (millisec params.exposure >>= repeatedMillisec params.numImages.toInt) := by
  have hcoarse : coarseExposureTime params answers = .ok (.error 1) := by
    unfold coarseExposureTime
    split
    · rfl
    · rename_i htimings
      rw [if_pos]
      intro hreadout
      exact hfail ⟨not_not.mp htimings, hreadout⟩
  rw [kineticTimes, checked_bind_ok hcoarse]

theorem kineticTimes_of_success (hmode : params.acquisitionMode = .kineticSeries)
    (hnum : 1 ≤ params.numImages.toInt) (hsucceed : answers.Succeed) {times : ImageTimes} :
    kineticTimes params answers = .ok times ↔
      ∃ exposureMs accumulateMs kineticMs readouttimeMs,
        millisec answers.exposure = .ok exposureMs ∧
        millisec answers.accumulate = .ok accumulateMs ∧
        millisec answers.kinetic = .ok kineticMs ∧
        millisec answers.readouttime = .ok readouttimeMs ∧
        AccumulatedLongs params.numAccumulations.toInt exposureMs accumulateMs readouttimeMs ∧
        KineticLongs params.numImages.toInt kineticMs (accumulatedSum
          params.numAccumulations.toInt exposureMs accumulateMs readouttimeMs) ∧
        accumulatedSum params.numAccumulations.toInt exposureMs accumulateMs readouttimeMs =
          times.millisecPerImage ∧
        kineticSum params.numImages.toInt kineticMs (accumulatedSum
          params.numAccumulations.toInt exposureMs accumulateMs readouttimeMs) =
          times.totalMillisec := by
  obtain ⟨htimings, hreadout⟩ := hsucceed
  have hsingle : AcquisitionMode.kineticSeries ≠ .singleScan := by decide
  have haccumulating : AcquisitionMode.kineticSeries ≠ .accumulate := by decide
  unfold kineticTimes coarseExposureTime
  rw [if_neg (not_not.mpr htimings), if_neg (not_not.mpr hreadout), hmode]
  simp only [if_neg hsingle, if_neg haccumulating, if_true]
  constructor
  · intro htimes
    obtain ⟨coarse, hcoarse, hresult⟩ := checked_bind_eq_ok.mp htimes
    obtain ⟨exposureMs, hexposure, hcoarse⟩ := checked_bind_eq_ok.mp hcoarse
    obtain ⟨accumulateMs, haccumulate, hcoarse⟩ := checked_bind_eq_ok.mp hcoarse
    obtain ⟨kineticMs, hkinetic, hcoarse⟩ := checked_bind_eq_ok.mp hcoarse
    obtain ⟨readouttimeMs, hreadouttime, hcoarse⟩ := checked_bind_eq_ok.mp hcoarse
    obtain ⟨perImage, hperImage, hcoarse⟩ := checked_bind_eq_ok.mp hcoarse
    obtain ⟨total, htotal, hcoarse⟩ := checked_bind_eq_ok.mp hcoarse
    cases hcoarse
    cases hresult
    obtain ⟨haccumulated, rfl⟩ := accumulatedMillisec_eq_ok.mp hperImage
    obtain ⟨hcycled, rfl⟩ := (cycledMillisec_eq_ok hnum).mp htotal
    exact ⟨exposureMs, accumulateMs, kineticMs, readouttimeMs, hexposure, haccumulate, hkinetic,
      hreadouttime, haccumulated, hcycled, rfl, rfl⟩
  · rintro ⟨exposureMs, accumulateMs, kineticMs, readouttimeMs, hexposure, haccumulate, hkinetic,
      hreadouttime, haccumulated, hcycled, hperImage, htotal⟩
    rw [checked_bind_ok hexposure, checked_bind_ok haccumulate, checked_bind_ok hkinetic,
      checked_bind_ok hreadouttime,
      checked_bind_ok (accumulatedMillisec_eq_ok.mpr ⟨haccumulated, rfl⟩),
      checked_bind_ok ((cycledMillisec_eq_ok hnum).mpr ⟨hcycled, rfl⟩), htotal, hperImage]
    rfl

/-- The condition on the answers is one on the times that are made of them. -/
theorem kineticDivisors_iff (hmode : params.acquisitionMode = .kineticSeries)
    (hnum : 1 ≤ params.numImages.toInt) :
    (∀ times, kineticTimes params answers = .ok times →
      times.millisecPerImage ≠ 0 ∧ times.totalMillisec ≠ 0) ↔
      KineticDivisors params answers := by
  by_cases hsucceed : answers.Succeed
  · constructor
    · intro hnonzero
      refine ⟨?_, fun hfail => absurd hsucceed hfail⟩
      intro _ exposureMs accumulateMs kineticMs readouttimeMs hexposure haccumulate hkinetic
        hreadouttime haccumulated hcycled
      exact hnonzero ⟨_, _⟩ ((kineticTimes_of_success hmode hnum hsucceed).mpr
        ⟨exposureMs, accumulateMs, kineticMs, readouttimeMs, hexposure, haccumulate, hkinetic,
          hreadouttime, haccumulated, hcycled, rfl, rfl⟩)
    · rintro ⟨hnonzero, -⟩ times htimes
      obtain ⟨exposureMs, accumulateMs, kineticMs, readouttimeMs, hexposure, haccumulate,
        hkinetic, hreadouttime, haccumulated, hcycled, hperImage, htotal⟩ :=
        (kineticTimes_of_success hmode hnum hsucceed).mp htimes
      rw [← hperImage, ← htotal]
      exact hnonzero hsucceed exposureMs accumulateMs kineticMs readouttimeMs hexposure
        haccumulate hkinetic hreadouttime haccumulated hcycled
  · rw [kineticTimes_of_failure hsucceed]
    constructor
    · intro hnonzero
      refine ⟨fun hsuccess => absurd hsuccess hsucceed, ?_⟩
      intro _ hzero
      refine (hnonzero ⟨0, 0⟩ ?_).1 rfl
      rw [checked_bind_ok hzero, repeatedMillisec, Int.mul_zero]
      rfl
    · rintro ⟨-, hexposure⟩ times htimes
      obtain ⟨exposureMs, hmillisec, hrepeated⟩ := checked_bind_eq_ok.mp htimes
      obtain ⟨total, htotal, hresult⟩ := checked_bind_eq_ok.mp hrepeated
      cases hresult
      obtain ⟨-, rfl⟩ := checkLong_eq_ok.mp htotal
      have hnonzero : exposureMs ≠ 0 := by
        rintro rfl
        exact hexposure hsucceed hmillisec
      exact ⟨hnonzero, Int.mul_ne_zero (by omega) hnonzero⟩

/-- An exposure time that is not negative makes a first estimate of at least a millisecond. -/
theorem one_le_firstImageMillisec {exposureMs : Int} (hexposure : 0 ≤ exposureMs) :
    1 ≤ firstImageMillisec exposureMs := by
  have hseconds : (0 : ℚ) ≤ nearestDouble exposureMs :=
    nearestDouble_nonneg (by exact_mod_cast hexposure)
  have hslope : (0 : ℚ) ≤ nearestDouble (999677 / 1000) := nearestDouble_nonneg (by norm_num)
  have hconstant : (2 : ℚ) ≤ nearestDouble (961827 / 1000) := by decide +kernel
  have hproportional := nearestDouble_nonneg (mul_nonneg hslope
    (nearestDouble_nonneg (div_nonneg hseconds (by norm_num : (0 : ℚ) ≤ 1000))))
  exact one_le_truncated (one_le_nearestDouble (by linarith))

theorem seriesDivisors_of_nonneg {exposureMs numImages : Int} (hexposure : 0 ≤ exposureMs)
    (hnum : 1 ≤ numImages) :
    700 + exposureMs ≠ 0 ∧ firstImageMillisec exposureMs ≠ 0 ∧
      seriesSum exposureMs numImages ≠ 0 := by
  have hfirst := one_le_firstImageMillisec hexposure
  have hlater : 0 ≤ (700 + exposureMs) * (numImages - 1) :=
    Int.mul_nonneg (by omega) (by omega)
  refine ⟨by omega, by omega, ?_⟩
  unfold seriesSum
  omega

theorem seriesReports_zeroFree_iff (hnum : 1 ≤ params.numImages.toInt)
    (hmode : params.acquisitionMode = .runTillAbort) :
    NeverDivideByZero params answers ↔
      SeriesDivisors params answers := by
  have hsingle : AcquisitionMode.runTillAbort ≠ .singleScan := by decide
  unfold NeverDivideByZero progressReports
  simp only [hmode, if_neg hsingle, if_true]
  constructor
  · intro hfree exposureMs hexposure hlongs
    refine Or.inr ?_
    have htotal := (checkedSeriesTime_eq_ok hnum).mpr ⟨hlongs, rfl⟩
    have hreports : ∀ turns, ZeroFree
        ((seriesReporter exposureMs 0 params.numImages.toInt).report turns) := by
      intro turns
      have hrun := hfree ⟨0, 0, [], turns, []⟩
      rw [checked_bind_ok hexposure, checked_bind_ok htotal] at hrun
      exact hrun.of_bind
    obtain ⟨hfirst, hlater, hseries⟩ := AcquisitionSeriesReporter.zeroFree_report_iff.mp hreports
    exact ⟨hlater, hfirst, hseries⟩
  · intro hdivisors schedule
    refine (zeroFree_bind_iff (zeroFree_millisecSingle _)).mpr ?_
    intro exposureMs hexposure
    refine (zeroFree_bind_iff (zeroFree_checkedSeriesTime _ _)).mpr ?_
    intro total htotal
    obtain ⟨hlongs, -⟩ := (checkedSeriesTime_eq_ok hnum).mp htotal
    have hnonzero : 700 + exposureMs ≠ 0 ∧ firstImageMillisec exposureMs ≠ 0 ∧
        seriesSum exposureMs params.numImages.toInt ≠ 0 := by
      rcases hdivisors exposureMs hexposure hlongs with hnonneg | hnonzero
      · exact seriesDivisors_of_nonneg hnonneg hnum
      · exact hnonzero
    have hreports := (@AcquisitionSeriesReporter.zeroFree_report_iff
      (seriesReporter exposureMs schedule.seriesStart params.numImages.toInt)).mpr
      ⟨hnonzero.2.1, hnonzero.1, hnonzero.2.2⟩
    exact (hreports schedule.series).bind fun _ => zeroFree_ok _

theorem kineticReports_zeroFree_iff (hnum : 1 ≤ params.numImages.toInt)
    (hmode : params.acquisitionMode = .kineticSeries) :
    NeverDivideByZero params answers ↔
      KineticDivisors params answers := by
  have hsingle : AcquisitionMode.kineticSeries ≠ .singleScan := by decide
  have habort : AcquisitionMode.kineticSeries ≠ .runTillAbort := by decide
  rw [← kineticDivisors_iff hmode hnum]
  unfold NeverDivideByZero progressReports
  simp only [hmode, if_neg hsingle, if_neg habort, if_true]
  constructor
  · intro hfree times htimes
    apply (zeroFree_threadReports_iff params times 0).mp
    intro runs
    have hrun := hfree ⟨0, 0, [], [], runs⟩
    rw [checked_bind_ok htimes] at hrun
    exact hrun
  · intro hnonzero schedule
    refine (zeroFree_bind_iff (zeroFree_kineticTimes params answers)).mpr ?_
    intro times htimes
    exact (zeroFree_threadReports_iff params times schedule.seriesStart).mpr
      (hnonzero times htimes) schedule.kinetic

theorem otherReports_zeroFree (hseries : params.acquisitionMode ≠ .runTillAbort)
    (hkinetic : params.acquisitionMode ≠ .kineticSeries) (schedule : ReportSchedule) :
    ZeroFree (progressReports params answers schedule) := by
  unfold progressReports
  split
  · exact (zeroFree_millisec _).bind fun exposureMs =>
      (AcquisitionReporter.zeroFree_report ⟨exposureMs, schedule.seriesStart⟩ _ _).bind fun _ =>
        zeroFree_ok _
  · exact zeroFree_ok _

end Scan

/-- The reporter of a single exposure, which has a branch for the bias image, never divides by
zero, and the reporter of a series does not if the exposure time is not negative.  Those of a
kinetic series do exactly if one of their two times comes to no millisecond. -/
theorem progressReports_zeroFree_iff (params : AndorParameters) (answers : TimingAnswers)
    (hnum : 1 ≤ params.numImages.toInt) :
    NeverDivideByZero params answers ↔
      (params.acquisitionMode = .runTillAbort → SeriesDivisors params answers) ∧
        (params.acquisitionMode = .kineticSeries → KineticDivisors params answers) := by
  by_cases hseries : params.acquisitionMode = .runTillAbort
  · have hkinetic : params.acquisitionMode ≠ .kineticSeries := by
      rw [hseries]
      decide
    rw [seriesReports_zeroFree_iff hnum hseries]
    exact ⟨fun hdivisors => ⟨fun _ => hdivisors, fun hmode => absurd hmode hkinetic⟩,
      fun hboth => hboth.1 hseries⟩
  · by_cases hkinetic : params.acquisitionMode = .kineticSeries
    · rw [kineticReports_zeroFree_iff hnum hkinetic]
      exact ⟨fun hdivisors => ⟨fun hmode => absurd hmode hseries, fun _ => hdivisors⟩,
        fun hboth => hboth.2 hkinetic⟩
    · exact iff_of_true (otherReports_zeroFree hseries hkinetic)
        ⟨fun hmode => absurd hmode hseries, fun hmode => absurd hmode hkinetic⟩

/-- A kinetic series of three images. -/
def kineticParameters (exposure : Binary32) : AndorParameters :=
  { AndorParameters.initial [] with
    exposure
    numImages := 3
    numAccumulations := 1
    acquisitionMode := .kineticSeries }

/-- A tenth of a second, a cycle of 0.25 seconds and 125 milliseconds for the read-out. -/
def timedAnswers : TimingAnswers :=
  ⟨.success, ⟨0x3DCCCCCD⟩, ⟨0x3DCCCCCD⟩, ⟨0x3E800000⟩, .success, ⟨0x3E000000⟩⟩

/-- GetAcquisitionTimings is refused and leaves zeroes. -/
def refusedAnswers : TimingAnswers := ⟨.acquiring, ⟨0⟩, ⟨0⟩, ⟨0⟩, .success, ⟨0⟩⟩

theorem timed_series_never_divides :
    NeverDivideByZero (kineticParameters ⟨0x3DCCCCCD⟩) timedAnswers := by
  refine (progressReports_zeroFree_iff (kineticParameters ⟨0x3DCCCCCD⟩) timedAnswers
    (by decide)).mpr ⟨fun hmode => absurd hmode (by decide), fun _ => ⟨?_, ?_⟩⟩
  · intro _ exposureMs accumulateMs kineticMs readouttimeMs hexposure haccumulate hkinetic
      hreadouttime _ _
    have htenth : millisec ⟨0x3DCCCCCD⟩ = .ok 100 := by decide +kernel
    have hquarter : millisec ⟨0x3E800000⟩ = .ok 250 := by decide +kernel
    have heighth : millisec ⟨0x3E000000⟩ = .ok 125 := by decide +kernel
    obtain rfl := Except.ok.inj (hexposure.symm.trans htenth)
    obtain rfl := Except.ok.inj (haccumulate.symm.trans htenth)
    obtain rfl := Except.ok.inj (hkinetic.symm.trans hquarter)
    obtain rfl := Except.ok.inj (hreadouttime.symm.trans heighth)
    decide
  · intro hfail
    exact absurd ⟨rfl, rfl⟩ hfail

/-- A bias series: the fallback for the refused query is the exposure, which is zero. -/
theorem refused_bias_series_divides :
    (kineticParameters ⟨0⟩).exposure.isNonNegative = true ∧
      1 ≤ (kineticParameters ⟨0⟩).numImages.toInt ∧
      progressReports (kineticParameters ⟨0⟩) refusedAnswers
        ⟨0, 0, [], [], [⟨1, 0, [⟨500000000, false⟩]⟩]⟩ = .error .divisionByZero ∧
      ¬ NeverDivideByZero (kineticParameters ⟨0⟩) refusedAnswers := by
  have hdivides : progressReports (kineticParameters ⟨0⟩) refusedAnswers
      ⟨0, 0, [], [], [⟨1, 0, [⟨500000000, false⟩]⟩]⟩ = .error .divisionByZero := by
    decide +kernel
  refine ⟨by decide, by decide, hdivides, ?_⟩
  intro hnever
  exact hnever _ hdivides

end Andor2k
