/-
AcquisitionSeriesReporter::report beside get_rta_scan, over the series one daemon takes one
after the other.  The reporter learns of a new image by reading cur_img_in_series, which the
scan function assigns and nobody resets.
-/
import Andor2k.AbortSignal

namespace Andor2k

open Runs

/-- The statement the reporter is about to execute; `tryLock` is the loop condition. -/
inductive ReportPc where
  | tryLock
  | compare
  | sendAcquired
  | readCurrent
  | sendAcquiring
deriving DecidableEq, Repr

inductive ReportStatus where
  | acquired
  | acquiring
deriving DecidableEq, Repr

/-- A message "Acquired image k/n" or "Acquiring image k/n".  History: the series it is sent
in, the one that its k was read in, and the exposures of the series waited for so far. -/
structure SeriesReport where
  status : ReportStatus
  image : Nat
  numImages : Int
  series : Nat
  source : Option Nat
  completed : Nat
deriving DecidableEq, Repr

/-- The daemon in its current series.  `curImg` is the reporter's own counter; `assignedIn` and
`curImgFrom` are history: the series that has assigned cur_img_in_series last, and the one that
`curImg` comes from. -/
structure SeriesDaemon where
  scan : ScanState
  series : Nat
  numImages : Int
  curImg : Nat
  report : ReportPc
  sent : List SeriesReport
  assignedIn : Option Nat
  curImgFrom : Option Nat
deriving DecidableEq, Repr

inductive SeriesEvent where
  | thread (event : ThreadEvent)
  | compare
  | sendAcquired
  | readCurrent
  | sendAcquiring
  | nextSeries (numImages : Int)
deriving DecidableEq, Repr

/-- The first series, whatever the globals hold. -/
def firstSeries (numImages abortSocketFd abortSet : Int) (curImgInSeries : Nat) :
    SeriesDaemon :=
  ⟨scanCalled abortSocketFd abortSet curImgInSeries, 0, numImages, 1, .tryLock, [], none, some 0⟩

def SeriesDaemon.reportOf (daemon : SeriesDaemon) (status : ReportStatus) : SeriesReport :=
  ⟨status, daemon.curImg, daemon.numImages, daemon.series, daemon.curImgFrom,
    daemon.scan.completed⟩

/-- The step assigns cur_img_in_series. -/
def assignsImage (numImages : Int) (state : ScanState) (event : ThreadEvent) : Bool :=
  match event, state.scan with
  | .scan .nextImage, .nextImage curimg => decide (curimg < numImages)
  | _, _ => false

def ThreadEvent.isReporter : ThreadEvent → Bool
  | reporter _ => true
  | _ => false

/-- One step of the daemon: of a thread of get_rta_scan, of the body of the reporter's loop, or
the call of get_rta_scan for the next series. -/
def seriesStep (daemon : SeriesDaemon) : SeriesEvent → Option SeriesDaemon
  | .thread event =>
      if event.isReporter = true ∧ daemon.report ≠ .tryLock then none
      else (getRtaScan daemon.numImages daemon.scan event).map fun next =>
        { daemon with
          scan := next
          report := if event = .reporter .tryLockFails then .compare else daemon.report
          assignedIn :=
            if assignsImage daemon.numImages daemon.scan event = true then some daemon.series
            else daemon.assignedIn }
  | .compare =>
      stepIf (daemon.report = .compare)
        { daemon with
          report :=
            if daemon.curImg ≠ daemon.scan.curImgInSeries then .sendAcquired else .sendAcquiring }
  | .sendAcquired =>
      stepIf (daemon.report = .sendAcquired)
        { daemon with
          sent := daemon.sent ++ [daemon.reportOf .acquired]
          report := .readCurrent }
  | .readCurrent =>
      stepIf (daemon.report = .readCurrent)
        { daemon with
          curImg := daemon.scan.curImgInSeries
          curImgFrom := daemon.assignedIn
          report := .sendAcquiring }
  | .sendAcquiring =>
      stepIf (daemon.report = .sendAcquiring)
        { daemon with
          sent := daemon.sent ++ [daemon.reportOf .acquiring]
          report := .tryLock }
  | .nextSeries numImages =>
      match daemon.scan.scan with
      | .returned _ =>
          some
            { daemon with
              scan := scanCalled daemon.scan.abortSocketFd daemon.scan.abortSet
                daemon.scan.curImgInSeries
              series := daemon.series + 1
              numImages := numImages
              curImg := 1
              report := .tryLock
              curImgFrom := some (daemon.series + 1) }
      | _ => none

/-- The images that a series has been told to be acquired. -/
def acquiredImages (series : Nat) (sent : List SeriesReport) : List Nat :=
  (sent.filter fun report => decide (report.status = .acquired ∧ report.series = series)).map
    SeriesReport.image

/-- In every series the images are reported from the first one on without a gap, each after it
was completed, and never with the number of another series. -/
structure ReportsInOrder (sent : List SeriesReport) : Prop where
  consecutive : ∀ series, ∃ count, acquiredImages series sent = List.range' 1 count
  completed : ∀ report ∈ sent, report.status = .acquired → report.image ≤ report.completed
  source : ∀ report ∈ sent, report.status = .acquired → report.source = some report.series

/-- Wherever the reporter reads cur_img_in_series, it either finds its own counter, or the
image after that, assigned in this series. -/
def readsNextImage (daemon : SeriesDaemon) (event : SeriesEvent) : Prop :=
  event = .compare ∨ event = .readCurrent →
    daemon.scan.curImgInSeries = daemon.curImg ∨
      (daemon.assignedIn = some daemon.series ∧
        daemon.scan.curImgInSeries = daemon.curImg + 1)

instance decidableReadsNextImage (daemon : SeriesDaemon) (event : SeriesEvent) :
    Decidable (readsNextImage daemon event) :=
  inferInstanceAs (Decidable (_ → _))

/-- What a thread can do to what the reporter reads: assign the number of the image that is
not completed yet, or leave it alone. -/
def ImagesEffect (numImages : Int) (state next : ScanState) (event : ThreadEvent) : Prop :=
  state.completed ≤ next.completed ∧
    if assignsImage numImages state event = true then next.curImgInSeries = state.completed + 1
    else next.curImgInSeries = state.curImgInSeries

theorem exitStep_images {state next : ScanState} {action : ExitAction}
    {rest : List ExitAction} {ok : Bool}
    (hstep : exitStep state action rest ok = some next) :
    next.completed = state.completed ∧ next.curImgInSeries = state.curImgInSeries := by
  cases action with
  | joinReporter | joinAbort =>
      obtain ⟨-, rfl⟩ := stepIf_eq_some.mp hstep
      exact ⟨rfl, rfl⟩
  | getAcquiredData | saveAsFits => cases ok <;> cases hstep <;> exact ⟨rfl, rfl⟩
  | _ =>
      cases hstep
      exact ⟨rfl, rfl⟩

theorem scanStep_images {numImages : Int} {state next : ScanState} {event : ScanEvent}
    (hinv : ExposureInv (.rta numImages) state)
    (hstep : ScanStep (.rta numImages) state event next) :
    ImagesEffect numImages state next (.scan event) := by
  have hcounts := hinv.counts
  unfold ScanState.Counts at hcounts
  cases hstep with
  | nextImage hkind hmore hpc =>
      cases hkind
      rw [hpc] at hcounts
      have hassigns : assignsImage numImages state (.scan .nextImage) = true := by
        simp [assignsImage, hpc, hmore]
      refine ⟨Nat.le_refl _, ?_⟩
      rw [if_pos hassigns]
      exact congrArg (· + 1) hcounts.symm
  | seriesEnds hkind hmore hpc =>
      cases hkind
      have hassigns : assignsImage numImages state (.scan .nextImage) = false := by
        simp [assignsImage, hpc, hmore]
      exact ⟨Nat.le_refl _, by simp [hassigns]⟩
  | exit hexit hpc =>
      obtain ⟨hcompleted, hnumber⟩ := exitStep_images hexit
      exact ⟨by omega, hnumber⟩
  | imageReady hkind hcancelled hpc => exact ⟨Nat.le_succ _, rfl⟩
  | exposureReady hkind hcancelled hpc => exact ⟨Nat.le_succ _, rfl⟩
  | _ => exact ⟨Nat.le_refl _, rfl⟩

theorem threadStep_images {numImages : Int} {state next : ScanState} {event : ThreadEvent}
    (hinv : ExposureInv (.rta numImages) state)
    (hstep : getRtaScan numImages state event = some next) :
    ImagesEffect numImages state next event := by
  cases event with
  | scan event => exact scanStep_images hinv (scanStep_cases hstep)
  | listener event =>
      obtain ⟨hnumber, -, hcompleted, -⟩ := (listenerStep_cases hstep).exposures
      exact ⟨by omega, hnumber⟩
  | reporter event =>
      obtain ⟨gMtx, reporter, rfl⟩ := reporterStep_cases hstep
      exact ⟨Nat.le_refl _, rfl⟩
  | client event =>
      obtain ⟨clients, rfl, -⟩ := clientStep_cases hstep
      exact ⟨Nat.le_refl _, rfl⟩

structure SeriesInv (daemon : SeriesDaemon) : Prop where
  exposures : ExposureInv (.rta daemon.numImages) daemon.scan
  assigned : daemon.assignedIn = some daemon.series →
    daemon.curImg ≤ daemon.scan.curImgInSeries ∧
      daemon.scan.curImgInSeries ≤ daemon.scan.completed + 1
  unassigned : daemon.assignedIn ≠ some daemon.series → daemon.curImg = 1
  earlier : ∀ series, daemon.assignedIn = some series → series ≤ daemon.series
  positive : 1 ≤ daemon.curImg
  -- between the comparison and the second read there is a new image
  pending : daemon.report = .sendAcquired ∨ daemon.report = .readCurrent →
    daemon.assignedIn = some daemon.series ∧ daemon.curImg < daemon.scan.curImgInSeries
  source : daemon.curImgFrom = some daemon.series
  images : acquiredImages daemon.series daemon.sent =
    List.range' 1 (if daemon.report = .readCurrent then daemon.curImg else daemon.curImg - 1)
  past : ∀ report ∈ daemon.sent, report.series ≤ daemon.series
  inOrder : ReportsInOrder daemon.sent

theorem SeriesInv.start (numImages abortSocketFd abortSet : Int) (curImgInSeries : Nat) :
    SeriesInv (firstSeries numImages abortSocketFd abortSet curImgInSeries) where
  exposures := ExposureInv.start _ _ _ _
  assigned hassigned := by cases hassigned
  unassigned _ := rfl
  earlier series hassigned := by cases hassigned
  positive := Nat.le_refl 1
  pending hpc := by rcases hpc with hpc | hpc <;> cases hpc
  source := rfl
  images := rfl
  past := nofun
  inOrder := ⟨fun _ => ⟨0, rfl⟩, nofun, nofun⟩

theorem acquiredImages_append (series : Nat) (sent : List SeriesReport) (report : SeriesReport) :
    acquiredImages series (sent ++ [report]) =
      acquiredImages series sent ++
        if report.status = .acquired ∧ report.series = series then [report.image] else [] := by
  unfold acquiredImages
  rw [List.filter_append, List.map_append]
  by_cases hthis : report.status = .acquired ∧ report.series = series
  · simp [hthis]
  · simp [hthis]

/-- A series that has not begun has no messages. -/
theorem acquiredImages_eq_nil {series : Nat} {sent : List SeriesReport}
    (hpast : ∀ report ∈ sent, report.series < series) : acquiredImages series sent = [] := by
  unfold acquiredImages
  rw [List.map_eq_nil_iff, List.filter_eq_nil_iff]
  intro report hmem
  have hlt := hpast report hmem
  simp only [decide_eq_true_eq, not_and]
  omega

/-- A message "Acquiring" adds to no list of images. -/
theorem ReportsInOrder.append_acquiring {sent : List SeriesReport} {report : SeriesReport}
    (hinOrder : ReportsInOrder sent) (hstatus : report.status = .acquiring) :
    ReportsInOrder (sent ++ [report]) := by
  have hnot : report.status ≠ .acquired := by
    rw [hstatus]
    exact nofun
  constructor
  · intro series
    rw [acquiredImages_append, if_neg (fun hboth => hnot hboth.1), List.append_nil]
    exact hinOrder.consecutive series
  · intro other hmem hother
    rcases List.mem_append.mp hmem with hmem | hmem
    · exact hinOrder.completed other hmem hother
    · rw [List.mem_singleton.mp hmem] at hother
      exact absurd hother hnot
  · intro other hmem hother
    rcases List.mem_append.mp hmem with hmem | hmem
    · exact hinOrder.source other hmem hother
    · rw [List.mem_singleton.mp hmem] at hother
      exact absurd hother hnot

/-- The next image of a series is in order if it was completed. -/
theorem ReportsInOrder.append_acquired {sent : List SeriesReport} {report : SeriesReport}
    (hinOrder : ReportsInOrder sent)
    (himages : acquiredImages report.series (sent ++ [report]) = List.range' 1 report.image)
    (hcompleted : report.image ≤ report.completed) (hsource : report.source = some report.series) :
    ReportsInOrder (sent ++ [report]) := by
  constructor
  · intro series
    by_cases hthis : report.series = series
    · rw [← hthis]
      exact ⟨report.image, himages⟩
    · rw [acquiredImages_append, if_neg (fun hboth => hthis hboth.2), List.append_nil]
      exact hinOrder.consecutive series
  · intro other hmem hother
    rcases List.mem_append.mp hmem with hmem | hmem
    · exact hinOrder.completed other hmem hother
    · rw [List.mem_singleton.mp hmem]
      exact hcompleted
  · intro other hmem hother
    rcases List.mem_append.mp hmem with hmem | hmem
    · exact hinOrder.source other hmem hother
    · rw [List.mem_singleton.mp hmem]
      exact hsource

theorem SeriesInv.of_thread {daemon next : SeriesDaemon} {event : ThreadEvent}
    (hinv : SeriesInv daemon) (hstep : seriesStep daemon (.thread event) = some next) :
    SeriesInv next := by
  simp only [seriesStep] at hstep
  split at hstep
  · cases hstep
  · rename_i hloop
    obtain ⟨state, hthread, rfl⟩ := Option.map_eq_some_iff.mp hstep
    obtain ⟨hcompleted, himages⟩ := threadStep_images hinv.exposures hthread
    -- only a failed try of the lock changes the place in the reporter's loop
    have hreport : event = .reporter .tryLockFails → daemon.report = .tryLock := by
      rintro rfl
      by_contra hnot
      exact hloop ⟨rfl, hnot⟩
    have hunread : (if event = .reporter .tryLockFails then ReportPc.compare else daemon.report) =
        .readCurrent ↔ daemon.report = .readCurrent := by
      split
      · rename_i htry
        rw [hreport htry]
        decide
      · exact Iff.rfl
    have hunsent : (if event = .reporter .tryLockFails then ReportPc.compare else daemon.report) =
        .sendAcquired ↔ daemon.report = .sendAcquired := by
      split
      · rename_i htry
        rw [hreport htry]
        decide
      · exact Iff.rfl
    have hpending := hinv.pending
    by_cases hassigns : assignsImage daemon.numImages daemon.scan event = true
    · rw [if_pos hassigns] at himages
      have hreached : daemon.curImg ≤ daemon.scan.completed + 1 := by
        by_cases hassigned : daemon.assignedIn = some daemon.series
        · have hbound := hinv.assigned hassigned
          omega
        · rw [hinv.unassigned hassigned]
          exact Nat.le_add_left _ _
      constructor
      · exact hinv.exposures.of_threadStep hthread
      · intro _
        simp only [himages]
        omega
      · intro hnot
        simp only [if_pos hassigns] at hnot
        exact absurd rfl hnot
      · intro series hassigned
        simp only [if_pos hassigns] at hassigned
        exact Nat.le_of_eq (Option.some.inj hassigned).symm
      · exact hinv.positive
      · simp only [hunsent, hunread, if_pos hassigns, himages]
        intro hpc
        obtain ⟨hassigned, hlt⟩ := hpending hpc
        have hbound := (hinv.assigned hassigned).2
        exact ⟨trivial, by omega⟩
      · exact hinv.source
      · simp only [hunread]
        exact hinv.images
      · exact hinv.past
      · exact hinv.inOrder
    · rw [if_neg hassigns] at himages
      constructor
      · exact hinv.exposures.of_threadStep hthread
      · simp only [if_neg hassigns, himages]
        intro hassigned
        have hbound := hinv.assigned hassigned
        omega
      · simp only [if_neg hassigns]
        exact hinv.unassigned
      · simp only [if_neg hassigns]
        exact hinv.earlier
      · exact hinv.positive
      · simp only [hunsent, hunread, if_neg hassigns, himages]
        exact hpending
      · exact hinv.source
      · simp only [hunread]
        exact hinv.images
      · exact hinv.past
      · exact hinv.inOrder

theorem SeriesInv.of_compare {daemon next : SeriesDaemon} (hinv : SeriesInv daemon)
    (hallowed : readsNextImage daemon .compare)
    (hstep : seriesStep daemon .compare = some next) : SeriesInv next := by
  obtain ⟨hpc, rfl⟩ := stepIf_eq_some.mp hstep
  have himages := hinv.images
  rw [hpc] at himages
  rcases hallowed (Or.inl rfl) with hsame | ⟨hassigned, hnext⟩
  · have hequal : ¬ daemon.curImg ≠ daemon.scan.curImgInSeries := not_not.mpr hsame.symm
    constructor
    · exact hinv.exposures
    · exact hinv.assigned
    · exact hinv.unassigned
    · exact hinv.earlier
    · exact hinv.positive
    · simp only [if_neg hequal]
      intro hwrong
      rcases hwrong with hwrong | hwrong <;> cases hwrong
    · exact hinv.source
    · simp only [if_neg hequal]
      exact himages
    · exact hinv.past
    · exact hinv.inOrder
  · have hdiffer : daemon.curImg ≠ daemon.scan.curImgInSeries := by omega
    constructor
    · exact hinv.exposures
    · exact hinv.assigned
    · exact hinv.unassigned
    · exact hinv.earlier
    · exact hinv.positive
    · intro _
      exact ⟨hassigned, by simp only; omega⟩
    · exact hinv.source
    · simp only [if_pos hdiffer]
      exact himages
    · exact hinv.past
    · exact hinv.inOrder

/-- A message carries the image before the one that has begun. -/
theorem SeriesInv.of_sendAcquired {daemon next : SeriesDaemon} (hinv : SeriesInv daemon)
    (hstep : seriesStep daemon .sendAcquired = some next) : SeriesInv next := by
  obtain ⟨hpc, rfl⟩ := stepIf_eq_some.mp hstep
  obtain ⟨hassigned, hlt⟩ := hinv.pending (Or.inl hpc)
  have hbound := (hinv.assigned hassigned).2
  have himages : acquiredImages daemon.series (daemon.sent ++ [daemon.reportOf .acquired]) =
      List.range' 1 daemon.curImg := by
    have hbefore := hinv.images
    rw [hpc] at hbefore
    rw [acquiredImages_append, if_pos ⟨rfl, rfl⟩, hbefore]
    have hlast : daemon.curImg = 1 + (daemon.curImg - 1) := by
      have hpositive := hinv.positive
      omega
    calc
      List.range' 1 (daemon.curImg - 1) ++ [daemon.curImg] =
          List.range' 1 (daemon.curImg - 1) ++ [1 + (daemon.curImg - 1)] := by rw [← hlast]
      _ = List.range' 1 (daemon.curImg - 1 + 1) := List.range'_1_concat.symm
      _ = List.range' 1 daemon.curImg := by rw [Nat.sub_add_cancel hinv.positive]
  constructor
  · exact hinv.exposures
  · exact hinv.assigned
  · exact hinv.unassigned
  · exact hinv.earlier
  · exact hinv.positive
  · exact fun _ => ⟨hassigned, hlt⟩
  · exact hinv.source
  · exact himages
  · intro report hmem
    rcases List.mem_append.mp hmem with hmem | hmem
    · exact hinv.past report hmem
    · rw [List.mem_singleton.mp hmem]
      exact Nat.le_refl _
  · apply hinv.inOrder.append_acquired himages
    · simp only [SeriesDaemon.reportOf]
      omega
    · exact hinv.source

theorem SeriesInv.of_readCurrent {daemon next : SeriesDaemon} (hinv : SeriesInv daemon)
    (hallowed : readsNextImage daemon .readCurrent)
    (hstep : seriesStep daemon .readCurrent = some next) : SeriesInv next := by
  obtain ⟨hpc, rfl⟩ := stepIf_eq_some.mp hstep
  obtain ⟨hassigned, hlt⟩ := hinv.pending (Or.inr hpc)
  have himages := hinv.images
  rw [if_pos hpc] at himages
  have hnext : daemon.scan.curImgInSeries = daemon.curImg + 1 := by
    rcases hallowed (Or.inr rfl) with hsame | ⟨-, hnext⟩
    · omega
    · exact hnext
  constructor
  · exact hinv.exposures
  · intro _
    exact ⟨Nat.le_refl _, (hinv.assigned hassigned).2⟩
  · intro hnot
    exact absurd hassigned hnot
  · exact hinv.earlier
  · simp only [hnext]
    exact Nat.le_add_left _ _
  · intro hwrong
    rcases hwrong with hwrong | hwrong <;> cases hwrong
  · exact hassigned
  · simp only [hnext]
    exact himages
  · exact hinv.past
  · exact hinv.inOrder

theorem SeriesInv.of_sendAcquiring {daemon next : SeriesDaemon} (hinv : SeriesInv daemon)
    (hstep : seriesStep daemon .sendAcquiring = some next) : SeriesInv next := by
  obtain ⟨hpc, rfl⟩ := stepIf_eq_some.mp hstep
  have himages := hinv.images
  rw [hpc] at himages
  constructor
  · exact hinv.exposures
  · exact hinv.assigned
  · exact hinv.unassigned
  · exact hinv.earlier
  · exact hinv.positive
  · intro hwrong
    rcases hwrong with hwrong | hwrong <;> cases hwrong
  · exact hinv.source
  · rw [acquiredImages_append, if_neg (fun hboth => by cases hboth.1), List.append_nil]
    exact himages
  · intro report hmem
    rcases List.mem_append.mp hmem with hmem | hmem
    · exact hinv.past report hmem
    · rw [List.mem_singleton.mp hmem]
      exact Nat.le_refl _
  · exact hinv.inOrder.append_acquiring rfl

theorem SeriesInv.of_nextSeries {daemon next : SeriesDaemon} {numImages : Int}
    (hinv : SeriesInv daemon)
    (hstep : seriesStep daemon (.nextSeries numImages) = some next) : SeriesInv next := by
  simp only [seriesStep] at hstep
  split at hstep <;> cases hstep
  have hunassigned : daemon.assignedIn ≠ some (daemon.series + 1) := by
    intro hassigned
    have hle := hinv.earlier _ hassigned
    omega
  constructor
  · exact ExposureInv.start _ _ _ _
  · intro hassigned
    exact absurd hassigned hunassigned
  · intro _
    rfl
  · intro series hassigned
    exact Nat.le_succ_of_le (hinv.earlier series hassigned)
  · exact Nat.le_refl 1
  · intro hwrong
    rcases hwrong with hwrong | hwrong <;> cases hwrong
  · rfl
  · exact acquiredImages_eq_nil fun report hmem => Nat.lt_succ_of_le (hinv.past report hmem)
  · intro report hmem
    exact Nat.le_succ_of_le (hinv.past report hmem)
  · exact hinv.inOrder

theorem SeriesInv.of_step {daemon next : SeriesDaemon} {event : SeriesEvent}
    (hinv : SeriesInv daemon) (hallowed : readsNextImage daemon event)
    (hstep : seriesStep daemon event = some next) : SeriesInv next := by
  cases event with
  | thread event => exact hinv.of_thread hstep
  | compare => exact hinv.of_compare hallowed hstep
  | sendAcquired => exact hinv.of_sendAcquired hstep
  | readCurrent => exact hinv.of_readCurrent hallowed hstep
  | sendAcquiring => exact hinv.of_sendAcquiring hstep
  | nextSeries numImages => exact hinv.of_nextSeries hstep

/-- If the reporter never reads cur_img_in_series before this series has assigned it, and never
misses an image between two reads, then its messages are in order. -/
theorem acquired_reports_in_order {numImages abortSocketFd abortSet : Int}
    {curImgInSeries : Nat} {trace : List SeriesEvent} {final : SeriesDaemon}
    (hallowed : Along seriesStep readsNextImage
      (firstSeries numImages abortSocketFd abortSet curImgInSeries) trace)
    (hrun : run seriesStep (firstSeries numImages abortSocketFd abortSet curImgInSeries) trace =
      some final) :
    ReportsInOrder final.sent := by
  have hinv : SeriesInv final :=
    invariant_of_along (fun _ _ _ hinv hok hstep => hinv.of_step hok hstep)
      (SeriesInv.start numImages abortSocketFd abortSet curImgInSeries) hallowed hrun
  exact hinv.inOrder

/-- Everything in front of the first image, the reporter already polling. -/
def beforeImages : List ThreadEvent :=
  orderlyHandshake ++
    [.scan .unlockAbort, .scan (.startAcquisition true), .scan .lockMtx, .scan .startReporter,
     .reporter .startPolling]

def reporterPolls : List SeriesEvent := beforeImages.map .thread

/-- One image, from WaitForAcquisition to its file. -/
def imageSaved : List SeriesEvent :=
  [.thread (.scan .callWait), .thread (.scan (.waitReturns true)), .thread (.scan .newData),
   .thread (.scan (.getImages true)), .thread (.scan (.saveImage true))]

/-- The number of the image is assigned in front of that. -/
def oneImage : List SeriesEvent := .thread (.scan .nextImage) :: imageSaved

def pollsOnce : List SeriesEvent := [.thread (.reporter .tryLockFails), .compare]

/-- The reporter says that the previous image is done, and goes on with the current one. -/
def newImageReported : List SeriesEvent := [.sendAcquired, .readCurrent, .sendAcquiring]

/-- A poll while the second image is taken. -/
def secondImageReported : List SeriesEvent :=
  reporterPolls ++ oneImage ++ [.thread (.scan .nextImage)] ++ pollsOnce ++ newImageReported

theorem secondImageReported_in_order :
    ∃ final, run seriesStep (firstSeries 2 (-1) 0 0) secondImageReported = some final ∧
      acquiredImages 0 final.sent = [1] ∧ ReportsInOrder final.sent :=
  ⟨_, rfl, rfl, acquired_reports_in_order (by decide +kernel :
    Along seriesStep readsNextImage (firstSeries 2 (-1) 0 0) secondImageReported) rfl⟩

/-- A poll in front of the first assignment. -/
def earlyPoll : List SeriesEvent := reporterPolls ++ pollsOnce ++ [.sendAcquired]

/-- Two images between two polls. -/
def skippedImage : List SeriesEvent :=
  reporterPolls ++ oneImage ++ oneImage ++ [.thread (.scan .nextImage)] ++ pollsOnce ++
    newImageReported ++ imageSaved ++ [.thread (.scan .nextImage)] ++ pollsOnce ++
    [.sendAcquired]

/-- The first poll of the daemon may report an image before any was completed, and the number 2
may never be reported. -/
theorem polls_out_of_order :
    (∃ final, run seriesStep (firstSeries 1 (-1) 0 0) earlyPoll = some final ∧
      ¬ ReportsInOrder final.sent) ∧
    (∃ final, run seriesStep (firstSeries 4 (-1) 0 0) skippedImage = some final ∧
      ¬ ReportsInOrder final.sent) := by
  constructor
  · refine ⟨_, rfl, fun hinOrder => ?_⟩
    have hle := hinOrder.completed ⟨.acquired, 1, 1, 0, some 0, 0⟩ (by decide +kernel) rfl
    exact absurd hle (by decide)
  · refine ⟨_, rfl, fun hinOrder => ?_⟩
    obtain ⟨count, hcount⟩ := hinOrder.consecutive 0
    have himages : [1, 3] = List.range' 1 count := hcount
    have hlength : 2 = count := by simpa using congrArg List.length himages
    rw [← hlength] at himages
    exact absurd himages (by decide)

end Andor2k
