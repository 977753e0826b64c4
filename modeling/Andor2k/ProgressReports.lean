/-
The progress messages of AcquisitionReporter::report and AcquisitionSeriesReporter::report:
one turn of the polling loop for each try of g_mtx that fails, and a last message that is put
into the buffer behind the loop.
-/
import Andor2k.CText

namespace Andor2k

open CText

/-- `duration_cast<milliseconds>` of a duration in the clock's nanoseconds. -/
def durationMs (nanoseconds : Int) : Int := nanoseconds.tdiv 1000000

/-- A percentage is computed in `long`, where it cannot overflow, and stored in an `int`. -/
def percentDone (elapsed whole : Int) : Checked Int :=
  if whole = 0 then .error .divisionByZero
  else .ok (((elapsed * 100).tdiv whole).bmod (2 ^ 32))

/-- The stored percentage is 100. -/
def Complete (elapsed whole : Int) : Prop :=
  ∃ wraps : Int, (elapsed * 100).tdiv whole = 100 + 2 ^ 32 * wraps

theorem bmod_eq_hundred_iff (value : Int) :
    value.bmod (2 ^ 32) = 100 ↔ ∃ wraps : Int, value = 100 + 2 ^ 32 * wraps := by
  constructor
  · intro hbmod
    refine ⟨value.bdiv (2 ^ 32), ?_⟩
    have hparts := Int.bmod_add_bdiv value (2 ^ 32)
    rw [hbmod] at hparts
    exact_mod_cast hparts.symm
  · rintro ⟨wraps, rfl⟩
    rw [Int.bmod_def]
    omega

theorem percentDone_eq_hundred {elapsed whole result : Int}
    (hpercent : percentDone elapsed whole = .ok result) :
    result = 100 ↔ Complete elapsed whole := by
  unfold percentDone at hpercent
  split at hpercent
  · cases hpercent
  · obtain rfl := Except.ok.inj hpercent
    exact bmod_eq_hundred_iff _

/-- What a message says besides the percentages. -/
inductive ProgressText where
  | done
  | exposing
  | acquired (curImg numImages : Int)
  | acquiring (curImg numImages : Int)
  | seriesAcquired (curImg numImages : Int)
deriving DecidableEq, Repr

/-- The elapsed times are in milliseconds. -/
structure ProgressMessage where
  text : ProgressText
  progperc : Int
  sprogperc : Int
  elapsedt : Int
  selapsedt : Int
deriving DecidableEq, Repr

/-- A message that was sent, and whether the scan function had released `g_mtx` by then. -/
structure SentProgress where
  message : ProgressMessage
  released : Bool
deriving DecidableEq, Repr

/-- The messages of one call of report, and what it leaves in the buffer. -/
structure ProgressReport where
  sent : List SentProgress
  mbuf : ProgressMessage
deriving DecidableEq, Repr

/-- The last message is sent after the release of `g_mtx`, and says 100 unless it is excused. -/
def ProgressReport.EndsComplete (report : ProgressReport) (excused : Prop) : Prop :=
  ∃ last, report.sent.getLast? = some last ∧ last.released = true ∧
    (last.message.progperc = 100 ∨ excused)

section PollingLoop

variable {S T : Type}

/-- `while (!lk.try_lock())`, a turn for every try that fails. -/
def pollingLoop (body : S → T → Checked (S × List SentProgress)) :
    S → List T → Checked (S × List SentProgress)
  | state, [] => .ok (state, [])
  | state, turn :: rest => do
      let (next, sent) ← body state turn
      let (final, later) ← pollingLoop body next rest
      return (final, sent ++ later)

theorem pollingLoop_cons {body : S → T → Checked (S × List SentProgress)} {state final : S}
    {turn : T} {rest : List T} {sent : List SentProgress} :
    pollingLoop body state (turn :: rest) = .ok (final, sent) ↔
      ∃ next first later, body state turn = .ok (next, first) ∧
        pollingLoop body next rest = .ok (final, later) ∧ sent = first ++ later := by
  rw [pollingLoop, checked_bind_eq_ok]
  constructor
  · rintro ⟨⟨next, first⟩, hbody, hrest⟩
    obtain ⟨⟨state', later⟩, hloop, heq⟩ := checked_bind_eq_ok.mp hrest
    cases heq
    exact ⟨next, first, later, hbody, hloop, rfl⟩
  · rintro ⟨next, first, later, hbody, hloop, rfl⟩
    exact ⟨(next, first), hbody, checked_bind_eq_ok.mpr ⟨(final, later), hloop, rfl⟩⟩

/-- The last turn runs in the state that the turns before it lead to. -/
theorem pollingLoop_concat {body : S → T → Checked (S × List SentProgress)} {state final : S}
    {turns : List T} {last : T} {sent : List SentProgress} :
    pollingLoop body state (turns ++ [last]) = .ok (final, sent) ↔
      ∃ mid before after, pollingLoop body state turns = .ok (mid, before) ∧
        body mid last = .ok (final, after) ∧ sent = before ++ after := by
  induction turns generalizing state sent with
  | nil =>
      rw [List.nil_append, pollingLoop_cons]
      constructor
      · rintro ⟨next, first, later, hbody, hloop, rfl⟩
        cases hloop
        exact ⟨state, [], first, rfl, hbody, List.append_nil _⟩
      · rintro ⟨mid, before, after, hloop, hbody, rfl⟩
        cases hloop
        exact ⟨final, after, [], hbody, rfl, (List.append_nil _).symm⟩
  | cons turn rest ih =>
      rw [List.cons_append, pollingLoop_cons]
      constructor
      · rintro ⟨next, first, later, hbody, hloop, rfl⟩
        obtain ⟨mid, before, after, hbefore, hlast, rfl⟩ := ih.mp hloop
        exact ⟨mid, first ++ before, after,
          pollingLoop_cons.mpr ⟨next, first, before, hbody, hbefore, rfl⟩, hlast,
          (List.append_assoc _ _ _).symm⟩
      · rintro ⟨mid, before, after, hbefore, hlast, rfl⟩
        obtain ⟨next, first, later, hbody, hloop, rfl⟩ := pollingLoop_cons.mp hbefore
        exact ⟨next, first, later ++ after, hbody,
          ih.mpr ⟨mid, later, after, hloop, hlast, rfl⟩, List.append_assoc _ _ _⟩

end PollingLoop

/-- One failed try: the clock, and whether `g_mtx` is released when the message is sent. -/
structure PollTurn where
  now : Int
  released : Bool
deriving DecidableEq, Repr

structure AcquisitionReporter where
  exposureMs : Int
  seriesStart : Int
deriving DecidableEq, Repr

namespace AcquisitionReporter

variable (reporter : AcquisitionReporter)

/-- The body of the loop; what it keeps is the time since the start. -/
def poll (_ : Int) (turn : PollTurn) : Checked (Int × List SentProgress) := do
  let fromSeriesStart := durationMs (turn.now - reporter.seriesStart)
  let imageDone ← percentDone fromSeriesStart reporter.exposureMs
  return (fromSeriesStart,
    [⟨⟨.exposing, imageDone, imageDone, fromSeriesStart, fromSeriesStart⟩, turn.released⟩])

/-- What is taken for the percentage behind the loop. -/
def finalPercent (abortSet fromSeriesStart : Int) : Checked Int :=
  if abortSet = 0 then .ok 100 else percentDone fromSeriesStart reporter.exposureMs

def report (turns : List PollTurn) (abortSet : Int) : Checked ProgressReport :=
  -- a bias image: the message is prepared, and that is all
  if reporter.exposureMs = 0 then .ok ⟨[], ⟨.done, 100, 100, 0, 0⟩⟩
  else do
    let (fromSeriesStart, sent) ← pollingLoop reporter.poll 0 turns
    let imageDone ← reporter.finalPercent abortSet fromSeriesStart
    -- the message behind the loop is prepared as well
    return ⟨sent, ⟨.exposing, imageDone, imageDone, fromSeriesStart, fromSeriesStart⟩⟩

end AcquisitionReporter

/-- One failed try of the series reporter: what it reads of `cur_img_in_series` and of the
clock, in order, and whether `g_mtx` is released when its two messages are sent. -/
structure SeriesTurn where
  now : Int
  current : Int
  restart : Int
  releasedAcquired : Bool
  latest : Int
  released : Bool
deriving DecidableEq, Repr

/-- The image that is counted, and when it started. -/
structure SeriesClock where
  curImg : Int
  curImgStart : Int
deriving DecidableEq, Repr

/-- `firstImageMs` is the regression for image 0, which the source computes in `double`. -/
structure AcquisitionSeriesReporter where
  exposureMillisec : Int
  seriesStart : Int
  numImages : Int
  firstImageMs : Int → Int

namespace AcquisitionSeriesReporter

variable (reporter : AcquisitionSeriesReporter)

def everyMillisec : Int := 200

def estimatedTimePerImage (imgNr : Int) : Int :=
  if imgNr = 0 then reporter.firstImageMs reporter.exposureMillisec
  else 700 + reporter.exposureMillisec

def estimatedSeriesTime : Int :=
  reporter.estimatedTimePerImage 0 + reporter.estimatedTimePerImage 1 * (reporter.numImages - 1) +
    4 * reporter.numImages

/-- A new image starts the clock again, half an interval back. -/
def nextClock (clock : SeriesClock) (turn : SeriesTurn) : SeriesClock :=
  if clock.curImg ≠ turn.current then
    ⟨turn.latest, turn.restart - everyMillisec.tdiv 2 * 1000000⟩
  else clock

def startClock : SeriesClock := ⟨1, reporter.seriesStart⟩

/-- What the loop keeps from turn to turn. -/
structure PollState where
  clock : SeriesClock
  fromCimageStart : Int
  fromAcquisitionStart : Int
  seriesDone : Int
deriving DecidableEq, Repr

/-- The message on the image that is over, if there is one. -/
def acquiredMessage (state : PollState) (turn : SeriesTurn) : Checked (List SentProgress) :=
  let fromCimageStart := durationMs (turn.now - state.clock.curImgStart)
  let fromAcquisitionStart := durationMs (turn.now - reporter.seriesStart)
  if state.clock.curImg ≠ turn.current then
    (percentDone fromAcquisitionStart reporter.estimatedSeriesTime).map fun seriesDone =>
      [⟨⟨.acquired state.clock.curImg reporter.numImages, 100, seriesDone, fromCimageStart,
        fromAcquisitionStart⟩, turn.releasedAcquired⟩]
  else .ok []

/-- The body of the loop; it ends with the message on the image that is taken. -/
def poll (state : PollState) (turn : SeriesTurn) : Checked (PollState × List SentProgress) := do
  let fromCimageStart := durationMs (turn.now - state.clock.curImgStart)
  let fromAcquisitionStart := durationMs (turn.now - reporter.seriesStart)
  let acquired ← reporter.acquiredMessage state turn
  let clock := nextClock state.clock turn
  let imageDone ← percentDone fromCimageStart (reporter.estimatedTimePerImage clock.curImg)
  let seriesDone ← percentDone fromAcquisitionStart reporter.estimatedSeriesTime
  return (⟨clock, fromCimageStart, fromAcquisitionStart, seriesDone⟩,
    acquired ++ [⟨⟨.acquiring clock.curImg reporter.numImages, imageDone, seriesDone,
      fromCimageStart, fromAcquisitionStart⟩, turn.released⟩])

def report (turns : List SeriesTurn) : Checked ProgressReport := do
  let (final, sent) ← pollingLoop reporter.poll ⟨reporter.startClock, 0, 0, 0⟩ turns
  -- the message behind the loop is prepared, and that is all
  return ⟨sent, ⟨.seriesAcquired final.clock.curImg reporter.numImages, 100, final.seriesDone,
    final.fromCimageStart, final.fromAcquisitionStart⟩⟩

end AcquisitionSeriesReporter

/-- A loop whose turns send something ends with the last message of its last turn. -/
theorem endsComplete_concat {before after : List SentProgress} {last : SentProgress}
    {mbuf : ProgressMessage} {excused : Prop} :
    ProgressReport.EndsComplete ⟨before ++ (after ++ [last]), mbuf⟩ excused ↔
      last.released = true ∧ (last.message.progperc = 100 ∨ excused) := by
  have hlast : (before ++ (after ++ [last])).getLast? = some last := by
    rw [← List.append_assoc]
    exact List.getLast?_concat
  unfold ProgressReport.EndsComplete
  simp only [hlast]
  constructor
  · rintro ⟨other, heq, hreleased, hpercent⟩
    obtain rfl := Option.some.inj heq
    exact ⟨hreleased, hpercent⟩
  · rintro ⟨hreleased, hpercent⟩
    exact ⟨last, rfl, hreleased, hpercent⟩

theorem not_endsComplete_nil {mbuf : ProgressMessage} {excused : Prop} :
    ¬ ProgressReport.EndsComplete ⟨[], mbuf⟩ excused := by
  rintro ⟨last, hlast, -⟩
  cases hlast

theorem AcquisitionReporter.poll_eq_ok {reporter : AcquisitionReporter} {state final : Int}
    {turn : PollTurn} {sent : List SentProgress}
    (hpoll : reporter.poll state turn = .ok (final, sent)) :
    ∃ message : ProgressMessage, sent = [⟨message, turn.released⟩] ∧
      percentDone (durationMs (turn.now - reporter.seriesStart)) reporter.exposureMs =
        .ok message.progperc := by
  obtain ⟨imageDone, hpercent, heq⟩ := checked_bind_eq_ok.mp hpoll
  cases heq
  exact ⟨_, rfl, hpercent⟩

theorem AcquisitionReporter.endsComplete_iff {reporter : AcquisitionReporter}
    {turns : List PollTurn} {abortSet : Int} {report : ProgressReport}
    (hreport : reporter.report turns abortSet = .ok report) :
    report.EndsComplete (abortSet ≠ 0) ↔
      reporter.exposureMs ≠ 0 ∧ ∃ before last, turns = before ++ [last] ∧
        last.released = true ∧
        (Complete (durationMs (last.now - reporter.seriesStart)) reporter.exposureMs ∨
          abortSet ≠ 0) := by
  unfold AcquisitionReporter.report at hreport
  split at hreport
  · rename_i hbias
    obtain rfl := Except.ok.inj hreport
    exact iff_of_false not_endsComplete_nil (fun hboth => hboth.1 hbias)
  · rename_i hbias
    obtain ⟨⟨fromSeriesStart, sent⟩, hloop, hrest⟩ := checked_bind_eq_ok.mp hreport
    obtain ⟨imageDone, -, hresult⟩ := checked_bind_eq_ok.mp hrest
    obtain rfl := Except.ok.inj hresult
    rcases turns.eq_nil_or_concat with rfl | ⟨before, last, heq⟩
    · cases hloop
      refine iff_of_false not_endsComplete_nil ?_
      rintro ⟨-, before, last, hnil, -⟩
      exact List.append_ne_nil_of_right_ne_nil before (List.cons_ne_nil last []) hnil.symm
    · rw [List.concat_eq_append] at heq
      subst heq
      obtain ⟨mid, earlier, after, -, hlast, rfl⟩ := pollingLoop_concat.mp hloop
      obtain ⟨message, rfl, hpercent⟩ := AcquisitionReporter.poll_eq_ok hlast
      rw [← List.nil_append [_], endsComplete_concat, percentDone_eq_hundred hpercent]
      constructor
      · intro hends
        exact ⟨hbias, before, last, rfl, hends⟩
      · rintro ⟨-, before', last', heq, hends⟩
        obtain ⟨-, hsame⟩ := List.append_inj' heq rfl
        cases hsame
        exact hends

/-- The clock after some turns. -/
def AcquisitionSeriesReporter.clockAfter (reporter : AcquisitionSeriesReporter)
    (turns : List SeriesTurn) : SeriesClock :=
  turns.foldl AcquisitionSeriesReporter.nextClock reporter.startClock

namespace AcquisitionSeriesReporter

variable {reporter : AcquisitionSeriesReporter}

theorem poll_eq_ok {state final : PollState} {turn : SeriesTurn} {sent : List SentProgress}
    (hpoll : reporter.poll state turn = .ok (final, sent)) :
    final.clock = nextClock state.clock turn ∧
      ∃ (acquired : List SentProgress) (message : ProgressMessage),
        sent = acquired ++ [⟨message, turn.released⟩] ∧
        percentDone (durationMs (turn.now - state.clock.curImgStart))
            (reporter.estimatedTimePerImage (nextClock state.clock turn).curImg) =
          .ok message.progperc := by
  obtain ⟨acquired, -, hrest⟩ := checked_bind_eq_ok.mp hpoll
  obtain ⟨imageDone, hpercent, hrest⟩ := checked_bind_eq_ok.mp hrest
  obtain ⟨seriesDone, -, heq⟩ := checked_bind_eq_ok.mp hrest
  cases heq
  exact ⟨rfl, acquired, _, rfl, hpercent⟩

theorem clock_of_loop {state final : PollState} {turns : List SeriesTurn}
    {sent : List SentProgress}
    (hloop : pollingLoop reporter.poll state turns = .ok (final, sent)) :
    final.clock = turns.foldl nextClock state.clock := by
  induction turns generalizing state sent with
  | nil =>
      cases hloop
      rfl
  | cons turn rest ih =>
      obtain ⟨next, first, later, hpoll, hrest, -⟩ := pollingLoop_cons.mp hloop
      rw [List.foldl_cons, ← (poll_eq_ok hpoll).1]
      exact ih hrest

theorem endsComplete_iff {turns : List SeriesTurn} {report : ProgressReport}
    (hreport : reporter.report turns = .ok report) :
    report.EndsComplete False ↔
      ∃ before last, turns = before ++ [last] ∧ last.released = true ∧
        Complete (durationMs (last.now - (reporter.clockAfter before).curImgStart))
          (reporter.estimatedTimePerImage
            (nextClock (reporter.clockAfter before) last).curImg) := by
  obtain ⟨⟨final, sent⟩, hloop, hresult⟩ := checked_bind_eq_ok.mp hreport
  obtain rfl := Except.ok.inj hresult
  rcases turns.eq_nil_or_concat with rfl | ⟨before, last, heq⟩
  · cases hloop
    refine iff_of_false not_endsComplete_nil ?_
    rintro ⟨before, last, hnil, -⟩
    exact List.append_ne_nil_of_right_ne_nil before (List.cons_ne_nil last []) hnil.symm
  · rw [List.concat_eq_append] at heq
    subst heq
    obtain ⟨mid, earlier, after, hbefore, hlast, rfl⟩ := pollingLoop_concat.mp hloop
    have hclock : mid.clock = reporter.clockAfter before := clock_of_loop hbefore
    obtain ⟨-, acquired, message, rfl, hpercent⟩ := poll_eq_ok hlast
    rw [hclock] at hpercent
    rw [endsComplete_concat, percentDone_eq_hundred hpercent, or_false]
    constructor
    · intro hends
      exact ⟨before, last, rfl, hends⟩
    · rintro ⟨before', last', heq, hends⟩
      obtain ⟨hsame, hlast⟩ := List.append_inj' heq rfl
      cases hsame
      cases hlast
      exact hends

end AcquisitionSeriesReporter

/-- The message that is to be the last one is prepared and never sent: what the client sees
last says 100 exactly if the last turn of the loop happens to. -/
theorem last_progress_complete_iff {reporter : AcquisitionReporter} {turns : List PollTurn}
    {abortSet : Int} {report : ProgressReport} {series : AcquisitionSeriesReporter}
    {seriesTurns : List SeriesTurn} {seriesReport : ProgressReport}
    (hreport : reporter.report turns abortSet = .ok report)
    (hseries : series.report seriesTurns = .ok seriesReport) :
    (report.EndsComplete (abortSet ≠ 0) ↔
      reporter.exposureMs ≠ 0 ∧ ∃ before last, turns = before ++ [last] ∧
        last.released = true ∧
        (Complete (durationMs (last.now - reporter.seriesStart)) reporter.exposureMs ∨
          abortSet ≠ 0)) ∧
    (seriesReport.EndsComplete False ↔
      ∃ before last, seriesTurns = before ++ [last] ∧ last.released = true ∧
        Complete (durationMs (last.now - (series.clockAfter before).curImgStart))
          (series.estimatedTimePerImage
            (AcquisitionSeriesReporter.nextClock (series.clockAfter before) last).curImg)) :=
  ⟨AcquisitionReporter.endsComplete_iff hreport,
    AcquisitionSeriesReporter.endsComplete_iff hseries⟩

/-- Exposures of one second. -/
def secondReporter : AcquisitionReporter := ⟨1000, 0⟩

def secondSeries : AcquisitionSeriesReporter := ⟨1000, 0, 1, fun exposure => exposure + 961⟩

/-- Polls in the middle of the exposure. -/
def earlyTurns : List PollTurn := [⟨0, false⟩, ⟨500000000, false⟩]

def earlySeriesTurns : List SeriesTurn := [⟨0, 1, 0, false, 1, false⟩]

/-- The last poll meets the end of the exposure, its message the release. -/
def lateTurns : List PollTurn := [⟨500000000, false⟩, ⟨1005000000, true⟩]

def lateSeriesTurns : List SeriesTurn := [⟨1703000000, 1, 1703000000, false, 1, true⟩]

theorem late_polls_complete :
    ∃ report seriesReport,
      secondReporter.report lateTurns 0 = .ok report ∧
      secondSeries.report lateSeriesTurns = .ok seriesReport ∧
      (report.EndsComplete ((0 : Int) ≠ 0) ↔
        secondReporter.exposureMs ≠ 0 ∧ ∃ before last, lateTurns = before ++ [last] ∧
          last.released = true ∧
          (Complete (durationMs (last.now - secondReporter.seriesStart))
            secondReporter.exposureMs ∨ (0 : Int) ≠ 0)) ∧
      (seriesReport.EndsComplete False ↔
        ∃ before last, lateSeriesTurns = before ++ [last] ∧ last.released = true ∧
          Complete (durationMs (last.now - (secondSeries.clockAfter before).curImgStart))
            (secondSeries.estimatedTimePerImage
              (AcquisitionSeriesReporter.nextClock (secondSeries.clockAfter before)
                last).curImg)) :=
  ⟨_, _, rfl, rfl, last_progress_complete_iff rfl rfl⟩

/-- An ordinary exposure, a bias image and a series, none of which ends with 100: the prepared
message says 100 each time. -/
theorem prepared_message_not_sent :
    (∃ report, secondReporter.report earlyTurns 0 = .ok report ∧
      report.mbuf.progperc = 100 ∧ ¬ report.EndsComplete ((0 : Int) ≠ 0)) ∧
    (∃ report, AcquisitionReporter.report ⟨0, 0⟩ [] 0 = .ok report ∧
      report.mbuf.progperc = 100 ∧ ¬ report.EndsComplete ((0 : Int) ≠ 0)) ∧
    (∃ report, secondSeries.report earlySeriesTurns = .ok report ∧
      report.mbuf.progperc = 100 ∧ ¬ report.EndsComplete False) := by
  refine ⟨⟨_, rfl, rfl, ?_⟩, ⟨_, rfl, rfl, not_endsComplete_nil⟩, ⟨_, rfl, rfl, ?_⟩⟩
  · rintro ⟨last, hlast, hreleased, -⟩
    cases hlast
    cases hreleased
  · rintro ⟨last, hlast, hreleased, -⟩
    cases hlast
    cases hreleased

end Andor2k
