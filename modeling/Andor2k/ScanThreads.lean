/-
The threads of one acquisition: the scan function (get_rta_scan or get_single_scan), the
abort_listener it starts, its progress reporter, and the clients of the abort port.  One
step is one lock, unlock, assignment, wait, notification or call of one of them.
-/
import Andor2k.Runs
import Mathlib.Tactic.Common

namespace Andor2k

/-- A step that is taken only if its guard holds. -/
def stepIf {S : Type} (guard : Prop) [Decidable guard] (next : S) : Option S :=
  if guard then some next else none

@[simp] theorem stepIf_eq_some {S : Type} {guard : Prop} [Decidable guard] {next result : S} :
    stepIf guard next = some result ↔ guard ∧ next = result := by
  by_cases hguard : guard
  · simp [stepIf, hguard]
  · simp [stepIf, hguard]

inductive ThreadId where
  | scan
  | listener
  | reporter
deriving DecidableEq, Repr

/-- What a scan function does once its exposures are over. -/
inductive ExitAction where
  | abortAcquisition
  | unlockMtx
  | shutdown
  | joinReporter
  | joinAbort
  | getAcquiredData
  | saveAsFits
  | returns (result : Int)
deriving DecidableEq, Repr

/-- StartAcquisition failed. -/
def startFailed : List ExitAction := [.abortAcquisition, .shutdown, .joinAbort, .returns 1]

/-- An exposure could not be waited for, fetched or saved. -/
def exposureFailed : List ExitAction :=
  [.abortAcquisition, .unlockMtx, .shutdown, .joinReporter, .joinAbort, .returns 1]

/-- All images of a series are saved. -/
def seriesDone : List ExitAction :=
  [.unlockMtx, .shutdown, .joinReporter, .joinAbort, .abortAcquisition, .returns 0]

/-- The exposure of a single scan is over. -/
def exposureDone : List ExitAction := [.unlockMtx, .shutdown, .getAcquiredData]

/-- The rest of a single scan, when its data could not be fetched and when they could. -/
def dataFailed : List ExitAction :=
  [.joinReporter, .joinAbort, .abortAcquisition, .returns 2]
def dataFetched : List ExitAction := [.joinReporter, .joinAbort, .saveAsFits]

/-- The statement a scan function is about to execute.  `lockAbort` is also where `cv.wait`
takes the lock again, `callWait` is before WaitForAcquisition and `inWait` inside it. -/
inductive ScanPc where
  | assignPlaceholder
  | startListener
  | lockAbort
  | testPredicate
  | waiting
  | unlockAbort
  | startAcquisition
  | lockMtx
  | startReporter
  | nextImage (curimg : Nat)
  | callWait (curimg : Nat)
  | inWait (curimg : Nat)
  | pollNewImages (curimg : Nat)
  | getImages (curimg : Nat)
  | saveImage (curimg : Nat)
  | leaving (rest : List ExitAction)
  | returned (result : Int)
deriving DecidableEq, Repr

/-- The statement `abort_listener` is about to execute; `publish` assigns the descriptor, or
-1 in the catch block, which owns the lock already. -/
inductive ListenerPc where
  | notStarted
  | clearAbort
  | lock
  | construct
  | publish
  | unlock
  | notify
  | accept
  | recv
  | setAbort
  | cancelWait
  | done
deriving DecidableEq, Repr

inductive ReporterPc where
  | notStarted
  | started
  | polling
  | holding
  | finished
deriving DecidableEq, Repr

/-- The listening socket of `abort_listener`. -/
inductive ServerSocket where
  | notCreated
  | failed
  | opened (fd : Nat) (shut : Bool)
  | closed (fd : Nat)
deriving DecidableEq, Repr

namespace ServerSocket

/-- The listener's answer: its descriptor, or -1 if the socket could not be created. -/
def answer : ServerSocket → Option Int
  | notCreated => none
  | failed => some (-1)
  | opened fd _ => some fd
  | closed fd => some fd

/-- `shutdown(fd, 2)`; it fails for any descriptor but the open one. -/
def shutdown (fd : Int) : ServerSocket → ServerSocket
  | notCreated => notCreated
  | failed => failed
  | opened own shut => opened own (shut || decide (fd = own))
  | closed own => closed own

def close : ServerSocket → ServerSocket
  | notCreated => notCreated
  | failed => failed
  | opened fd _ => closed fd
  | closed fd => closed fd

end ServerSocket

/-- A connection to the abort port: what its client has done so far. -/
structure Connection where
  sent : Bool
  closed : Bool
deriving DecidableEq, Repr

/-- The client has neither sent anything nor closed the connection. -/
def Connection.Silent (connection : Connection) : Prop :=
  connection.sent = false ∧ connection.closed = false

instance (connection : Connection) : Decidable connection.Silent :=
  inferInstanceAs (Decidable (_ ∧ _))

/-- `clients` are the connections in the order of their arrival; the listener accepts the
first one.  `cancelled` tells that CancelWait met the WaitForAcquisition that is running.
`imgBuffer`, `completed` and `saved` number exposures from 1; `completedAtAbort` is a history
variable, the value of `completed` when the listener set `abort_set` to 1. -/
structure ScanState where
  scan : ScanPc
  listener : ListenerPc
  reporter : ReporterPc
  abortSocketFd : Int
  abortSet : Int
  curImgInSeries : Nat
  gMtxAbort : Option ThreadId
  gMtx : Option ThreadId
  server : ServerSocket
  clients : List Connection
  cancelled : Bool
  imgBuffer : Nat
  completed : Nat
  saved : List Nat
  completedAtAbort : Option Nat
deriving DecidableEq, Repr

/-- The call of a scan function; the globals hold what the last one left in them. -/
def scanCalled (abortSocketFd abortSet : Int) (curImgInSeries : Nat) : ScanState :=
  ⟨.assignPlaceholder, .notStarted, .notStarted, abortSocketFd, abortSet, curImgInSeries,
    none, none, .notCreated, [], false, 0, 0, [], none⟩

inductive ScanKind where
  | rta (numImages : Int)
  | single
deriving DecidableEq, Repr

/-- `ok` is the success of the call that is made. -/
inductive ScanEvent where
  | assignPlaceholder
  | startListener
  | lockAbort
  | testPredicate
  | wake
  | unlockAbort
  | startAcquisition (ok : Bool)
  | lockMtx
  | startReporter
  | nextImage
  | callWait
  | waitReturns (ok : Bool)
  | noNewData
  | newData
  | pollGivesUp
  | getImages (ok : Bool)
  | saveImage (ok : Bool)
  | exit (ok : Bool)
deriving DecidableEq, Repr

/-- One action of an exit path; a fetch or a save ends its list, and its outcome decides what
follows. -/
def exitStep (state : ScanState) (action : ExitAction) (rest : List ExitAction) (ok : Bool) :
    Option ScanState :=
  match action with
  | .abortAcquisition => some { state with scan := .leaving rest }
  | .unlockMtx => some { state with gMtx := none, scan := .leaving rest }
  | .shutdown =>
      some { state with
        server := state.server.shutdown state.abortSocketFd, scan := .leaving rest }
  | .joinReporter => stepIf (state.reporter = .finished) { state with scan := .leaving rest }
  | .joinAbort => stepIf (state.listener = .done) { state with scan := .leaving rest }
  | .getAcquiredData =>
      if ok then some { state with imgBuffer := 1, scan := .leaving dataFetched }
      else some { state with scan := .leaving dataFailed }
  | .saveAsFits =>
      if ok then
        some { state with
          saved := state.saved ++ [state.imgBuffer], scan := .leaving [.returns 0] }
      else some { state with scan := .leaving [.returns 1] }
  | .returns result => some { state with scan := .returned result }

/-- One step of get_rta_scan or get_single_scan. -/
def scanStep (kind : ScanKind) (state : ScanState) : ScanEvent → Option ScanState
  | .assignPlaceholder =>
      stepIf (state.scan = .assignPlaceholder)
        { state with abortSocketFd := -100, scan := .startListener }
  | .startListener =>
      stepIf (state.scan = .startListener)
        { state with listener := .clearAbort, scan := .lockAbort }
  | .lockAbort =>
      stepIf (state.scan = .lockAbort ∧ state.gMtxAbort = none)
        { state with gMtxAbort := some .scan, scan := .testPredicate }
  | .testPredicate =>
      if state.abortSocketFd ≠ 0 then
        stepIf (state.scan = .testPredicate) { state with scan := .unlockAbort }
      else
        stepIf (state.scan = .testPredicate) { state with gMtxAbort := none, scan := .waiting }
  -- a wake-up without a notification
  | .wake => stepIf (state.scan = .waiting) { state with scan := .lockAbort }
  | .unlockAbort =>
      stepIf (state.scan = .unlockAbort)
        { state with gMtxAbort := none, scan := .startAcquisition }
  | .startAcquisition ok =>
      stepIf (state.scan = .startAcquisition)
        { state with scan := if ok then .lockMtx else .leaving startFailed }
  | .lockMtx =>
      stepIf (state.scan = .lockMtx ∧ state.gMtx = none)
        { state with gMtx := some .scan, scan := .startReporter }
  | .startReporter =>
      stepIf (state.scan = .startReporter)
        { state with
          reporter := .started
          scan := match kind with
            | .rta _ => .nextImage 0
            | .single => .callWait 0 }
  | .nextImage =>
      match kind, state.scan with
      | .rta numImages, .nextImage curimg =>
          if curimg < numImages then
            some { state with curImgInSeries := curimg + 1, scan := .callWait curimg }
          else some { state with scan := .leaving seriesDone }
      | _, _ => none
  | .callWait =>
      match state.scan with
      | .callWait curimg => some { state with cancelled := false, scan := .inWait curimg }
      | _ => none
  -- a WaitForAcquisition that was cancelled does not succeed
  | .waitReturns ok =>
      match state.scan with
      | .inWait curimg =>
          if ok then
            stepIf (state.cancelled = false)
              { state with
                completed := state.completed + 1
                scan := match kind with
                  | .rta _ => .pollNewImages curimg
                  | .single => .leaving exposureDone }
          else some { state with scan := .leaving exposureFailed }
      | _ => none
  | .noNewData =>
      match state.scan with
      | .pollNewImages curimg => some { state with scan := .pollNewImages curimg }
      | _ => none
  | .newData =>
      match state.scan with
      | .pollNewImages curimg => some { state with scan := .getImages curimg }
      | _ => none
  | .pollGivesUp =>
      match state.scan with
      | .pollNewImages _ => some { state with scan := .leaving exposureFailed }
      | _ => none
  | .getImages ok =>
      match state.scan with
      | .getImages curimg =>
          if ok then
            some { state with imgBuffer := state.curImgInSeries, scan := .saveImage curimg }
          else some { state with scan := .leaving exposureFailed }
      | _ => none
  | .saveImage ok =>
      match state.scan with
      | .saveImage curimg =>
          if ok then
            some { state with
              saved := state.saved ++ [state.imgBuffer], scan := .nextImage (curimg + 1) }
          else some { state with scan := .leaving exposureFailed }
      | _ => none
  | .exit ok =>
      match state.scan with
      | .leaving (action :: rest) => exitStep state action rest ok
      | _ => none

/-- Everything a step of the scan function can do. -/
inductive ScanStep (kind : ScanKind) (state : ScanState) : ScanEvent → ScanState → Prop where
  | assignPlaceholder (hpc : state.scan = .assignPlaceholder) :
      ScanStep kind state .assignPlaceholder
        { state with abortSocketFd := -100, scan := .startListener }
  | startListener (hpc : state.scan = .startListener) :
      ScanStep kind state .startListener
        { state with listener := .clearAbort, scan := .lockAbort }
  | lockAbort (hfree : state.gMtxAbort = none) (hpc : state.scan = .lockAbort) :
      ScanStep kind state .lockAbort
        { state with gMtxAbort := some .scan, scan := .testPredicate }
  | passes (hfd : state.abortSocketFd ≠ 0) (hpc : state.scan = .testPredicate) :
      ScanStep kind state .testPredicate { state with scan := .unlockAbort }
  | waits (hfd : ¬ state.abortSocketFd ≠ 0) (hpc : state.scan = .testPredicate) :
      ScanStep kind state .testPredicate { state with gMtxAbort := none, scan := .waiting }
  | wakes (hpc : state.scan = .waiting) :
      ScanStep kind state .wake { state with scan := .lockAbort }
  | unlockAbort (hpc : state.scan = .unlockAbort) :
      ScanStep kind state .unlockAbort
        { state with gMtxAbort := none, scan := .startAcquisition }
  | starts (hpc : state.scan = .startAcquisition) :
      ScanStep kind state (.startAcquisition true) { state with scan := .lockMtx }
  | startFails (hpc : state.scan = .startAcquisition) :
      ScanStep kind state (.startAcquisition false) { state with scan := .leaving startFailed }
  | lockMtx (hfree : state.gMtx = none) (hpc : state.scan = .lockMtx) :
      ScanStep kind state .lockMtx
        { state with gMtx := some .scan, scan := .startReporter }
  | startSeriesReporter {numImages : Int} (hkind : kind = .rta numImages)
      (hpc : state.scan = .startReporter) :
      ScanStep kind state .startReporter
        { state with reporter := .started, scan := .nextImage 0 }
  | startReporter (hkind : kind = .single) (hpc : state.scan = .startReporter) :
      ScanStep kind state .startReporter
        { state with reporter := .started, scan := .callWait 0 }
  | nextImage {numImages : Int} {curimg : Nat} (hkind : kind = .rta numImages)
      (hmore : curimg < numImages) (hpc : state.scan = .nextImage curimg) :
      ScanStep kind state .nextImage
        { state with curImgInSeries := curimg + 1, scan := .callWait curimg }
  | seriesEnds {numImages : Int} {curimg : Nat} (hkind : kind = .rta numImages)
      (hmore : ¬ curimg < numImages) (hpc : state.scan = .nextImage curimg) :
      ScanStep kind state .nextImage { state with scan := .leaving seriesDone }
  | callWait {curimg : Nat} (hpc : state.scan = .callWait curimg) :
      ScanStep kind state .callWait { state with cancelled := false, scan := .inWait curimg }
  | imageReady {numImages : Int} {curimg : Nat} (hkind : kind = .rta numImages)
      (hcancelled : state.cancelled = false) (hpc : state.scan = .inWait curimg) :
      ScanStep kind state (.waitReturns true)
        { state with completed := state.completed + 1, scan := .pollNewImages curimg }
  | exposureReady {curimg : Nat} (hkind : kind = .single)
      (hcancelled : state.cancelled = false) (hpc : state.scan = .inWait curimg) :
      ScanStep kind state (.waitReturns true)
        { state with completed := state.completed + 1, scan := .leaving exposureDone }
  | waitFails {curimg : Nat} (hpc : state.scan = .inWait curimg) :
      ScanStep kind state (.waitReturns false) { state with scan := .leaving exposureFailed }
  | noNewData {curimg : Nat} (hpc : state.scan = .pollNewImages curimg) :
      ScanStep kind state .noNewData { state with scan := .pollNewImages curimg }
  | newData {curimg : Nat} (hpc : state.scan = .pollNewImages curimg) :
      ScanStep kind state .newData { state with scan := .getImages curimg }
  | pollGivesUp {curimg : Nat} (hpc : state.scan = .pollNewImages curimg) :
      ScanStep kind state .pollGivesUp { state with scan := .leaving exposureFailed }
  | fetches {curimg : Nat} (hpc : state.scan = .getImages curimg) :
      ScanStep kind state (.getImages true)
        { state with imgBuffer := state.curImgInSeries, scan := .saveImage curimg }
  | fetchFails {curimg : Nat} (hpc : state.scan = .getImages curimg) :
      ScanStep kind state (.getImages false) { state with scan := .leaving exposureFailed }
  | saves {curimg : Nat} (hpc : state.scan = .saveImage curimg) :
      ScanStep kind state (.saveImage true)
        { state with
          saved := state.saved ++ [state.imgBuffer], scan := .nextImage (curimg + 1) }
  | saveFails {curimg : Nat} (hpc : state.scan = .saveImage curimg) :
      ScanStep kind state (.saveImage false) { state with scan := .leaving exposureFailed }
  | exit {next : ScanState} {ok : Bool} {action : ExitAction} {rest : List ExitAction}
      (hexit : exitStep state action rest ok = some next)
      (hpc : state.scan = .leaving (action :: rest)) : ScanStep kind state (.exit ok) next

theorem scanStep_cases {kind : ScanKind} {state next : ScanState} {event : ScanEvent}
    (hstep : scanStep kind state event = some next) : ScanStep kind state event next := by
  cases event with
  | assignPlaceholder =>
      obtain ⟨hpc, rfl⟩ := stepIf_eq_some.mp hstep
      exact .assignPlaceholder hpc
  | startListener =>
      obtain ⟨hpc, rfl⟩ := stepIf_eq_some.mp hstep
      exact .startListener hpc
  | lockAbort =>
      obtain ⟨⟨hpc, hfree⟩, rfl⟩ := stepIf_eq_some.mp hstep
      exact .lockAbort hfree hpc
  | testPredicate =>
      simp only [scanStep] at hstep
      split at hstep
      · rename_i hfd
        obtain ⟨hpc, rfl⟩ := stepIf_eq_some.mp hstep
        exact .passes hfd hpc
      · rename_i hfd
        obtain ⟨hpc, rfl⟩ := stepIf_eq_some.mp hstep
        exact .waits hfd hpc
  | wake =>
      obtain ⟨hpc, rfl⟩ := stepIf_eq_some.mp hstep
      exact .wakes hpc
  | unlockAbort =>
      obtain ⟨hpc, rfl⟩ := stepIf_eq_some.mp hstep
      exact .unlockAbort hpc
  | startAcquisition ok =>
      obtain ⟨hpc, rfl⟩ := stepIf_eq_some.mp hstep
      cases ok with
      | true => exact .starts hpc
      | false => exact .startFails hpc
  | lockMtx =>
      obtain ⟨⟨hpc, hfree⟩, rfl⟩ := stepIf_eq_some.mp hstep
      exact .lockMtx hfree hpc
  | startReporter =>
      obtain ⟨hpc, rfl⟩ := stepIf_eq_some.mp hstep
      cases kind with
      | rta numImages => exact .startSeriesReporter rfl hpc
      | single => exact .startReporter rfl hpc
  | nextImage =>
      simp only [scanStep] at hstep
      split at hstep
      · rename_i numImages curimg hpc
        split at hstep
        · rename_i hmore
          cases hstep
          exact .nextImage rfl hmore hpc
        · rename_i hmore
          cases hstep
          exact .seriesEnds rfl hmore hpc
      · cases hstep
  | callWait =>
      simp only [scanStep] at hstep
      split at hstep <;> cases hstep
      exact .callWait ‹_›
  | waitReturns ok =>
      simp only [scanStep] at hstep
      split at hstep
      · rename_i curimg hpc
        cases ok with
        | true =>
            obtain ⟨hcancelled, rfl⟩ := stepIf_eq_some.mp hstep
            cases kind with
            | rta numImages => exact .imageReady rfl hcancelled hpc
            | single => exact .exposureReady rfl hcancelled hpc
        | false =>
            cases hstep
            exact .waitFails hpc
      · cases hstep
  | noNewData =>
      simp only [scanStep] at hstep
      split at hstep <;> cases hstep
      exact .noNewData ‹_›
  | newData =>
      simp only [scanStep] at hstep
      split at hstep <;> cases hstep
      exact .newData ‹_›
  | pollGivesUp =>
      simp only [scanStep] at hstep
      split at hstep <;> cases hstep
      exact .pollGivesUp ‹_›
  | getImages ok =>
      simp only [scanStep] at hstep
      split at hstep
      · rename_i curimg hpc
        cases ok with
        | true =>
            cases hstep
            exact .fetches hpc
        | false =>
            cases hstep
            exact .fetchFails hpc
      · cases hstep
  | saveImage ok =>
      simp only [scanStep] at hstep
      split at hstep
      · rename_i curimg hpc
        cases ok with
        | true =>
            cases hstep
            exact .saves hpc
        | false =>
            cases hstep
            exact .saveFails hpc
      · cases hstep
  | exit ok =>
      simp only [scanStep] at hstep
      split at hstep
      · rename_i action rest hpc
        exact .exit hstep hpc
      · cases hstep

/-- `fd` is the descriptor of the new socket, none if its constructor throws. -/
inductive ListenerEvent where
  | clearAbort
  | lock
  | construct (fd : Option Nat)
  | publish
  | unlock
  | notify
  | accept (ok : Bool)
  | recv (ok : Bool)
  | setAbort
  | cancelWait
deriving DecidableEq, Repr

/-- The scan function is blocked in WaitForAcquisition. -/
def ScanPc.isInWait : ScanPc → Bool
  | inWait _ => true
  | _ => false

/-- The listener returns, and its sockets are closed. -/
def ScanState.listenerReturns (state : ScanState) : ScanState :=
  { state with server := state.server.close, listener := .done }

/-- One step of abort_listener. -/
def listenerStep (state : ScanState) : ListenerEvent → Option ScanState
  | .clearAbort =>
      stepIf (state.listener = .clearAbort) { state with abortSet := 0, listener := .lock }
  | .lock =>
      stepIf (state.listener = .lock ∧ state.gMtxAbort = none)
        { state with gMtxAbort := some .listener, listener := .construct }
  | .construct fd =>
      stepIf (state.listener = .construct)
        { state with
          server := match fd with
            | some fd => .opened fd false
            | none => .failed
          listener := .publish }
  | .publish =>
      match state.server.answer with
      | some fd =>
          stepIf (state.listener = .publish)
            { state with abortSocketFd := fd, listener := .unlock }
      | none => none
  | .unlock =>
      stepIf (state.listener = .unlock) { state with gMtxAbort := none, listener := .notify }
  | .notify =>
      stepIf (state.listener = .notify)
        { state with
          scan := if state.scan = .waiting then .lockAbort else state.scan
          listener := if state.server = .failed then .done else .accept }
  -- accept fails on a socket that was shut down, or on a connection that arrives
  | .accept ok =>
      match state.server with
      | .opened _ shut =>
          if ok then
            stepIf (state.listener = .accept ∧ shut = false ∧ state.clients ≠ [])
              { state with listener := .recv }
          else
            stepIf (state.listener = .accept ∧ (shut = true ∨ state.clients ≠ []))
              state.listenerReturns
      | _ => none
  | .recv ok =>
      match state.clients.head? with
      | some connection =>
          if ok then
            stepIf (state.listener = .recv ∧ connection.sent = true)
              { state with listener := .setAbort }
          else
            stepIf (state.listener = .recv ∧ connection.closed = true) state.listenerReturns
      | none => none
  | .setAbort =>
      stepIf (state.listener = .setAbort)
        { state with
          abortSet := 1, completedAtAbort := some state.completed, listener := .cancelWait }
  -- CancelWait only reaches a thread that is blocked in WaitForAcquisition
  | .cancelWait =>
      stepIf (state.listener = .cancelWait)
        { state with cancelled := state.cancelled || state.scan.isInWait }.listenerReturns

inductive ReporterEvent where
  | skip
  | startPolling
  | tryLockFails
  | tryLock
  | unlock
deriving DecidableEq, Repr

/-- One step of the progress reporter; only the one of a single scan returns at once, for an
exposure of no length. -/
def reporterStep (kind : ScanKind) (state : ScanState) : ReporterEvent → Option ScanState
  | .skip =>
      stepIf (state.reporter = .started ∧ kind = .single) { state with reporter := .finished }
  | .startPolling => stepIf (state.reporter = .started) { state with reporter := .polling }
  | .tryLockFails =>
      stepIf (state.reporter = .polling ∧ state.gMtx ≠ none) { state with reporter := .polling }
  | .tryLock =>
      stepIf (state.reporter = .polling ∧ state.gMtx = none)
        { state with gMtx := some .reporter, reporter := .holding }
  | .unlock =>
      stepIf (state.reporter = .holding) { state with gMtx := none, reporter := .finished }

/-- The number is the place of the connection in `clients`. -/
inductive ClientEvent where
  | connect
  | send (number : Nat)
  | close (number : Nat)
deriving DecidableEq, Repr

/-- One step of some client of the abort port. -/
def clientStep (state : ScanState) : ClientEvent → Option ScanState
  | .connect =>
      match state.server with
      | .opened _ false => some { state with clients := state.clients ++ [⟨false, false⟩] }
      | _ => none
  | .send number =>
      match state.clients[number]? with
      | some connection =>
          stepIf (connection.closed = false)
            { state with clients := state.clients.set number { connection with sent := true } }
      | none => none
  | .close number =>
      match state.clients[number]? with
      | some connection =>
          some { state with
            clients := state.clients.set number { connection with closed := true } }
      | none => none

/-- Everything a step of the listener can do. -/
inductive ListenerStep (state : ScanState) : ListenerEvent → ScanState → Prop where
  | clearAbort (hpc : state.listener = .clearAbort) :
      ListenerStep state .clearAbort { state with abortSet := 0, listener := .lock }
  | lock (hpc : state.listener = .lock) (hfree : state.gMtxAbort = none) :
      ListenerStep state .lock { state with gMtxAbort := some .listener, listener := .construct }
  | construct (fd : Option Nat) (server : ServerSocket) (hpc : state.listener = .construct)
      (hserver : server = .failed ∨ ∃ fd, server = .opened fd false) :
      ListenerStep state (.construct fd) { state with server := server, listener := .publish }
  | publish (fd : Int) (hpc : state.listener = .publish)
      (hanswer : state.server.answer = some fd) :
      ListenerStep state .publish { state with abortSocketFd := fd, listener := .unlock }
  | unlock (hpc : state.listener = .unlock) :
      ListenerStep state .unlock { state with gMtxAbort := none, listener := .notify }
  | notify (hpc : state.listener = .notify) :
      ListenerStep state .notify
        { state with
          scan := if state.scan = .waiting then .lockAbort else state.scan
          listener := if state.server = .failed then .done else .accept }
  | accepts (fd : Nat) (hpc : state.listener = .accept)
      (hserver : state.server = .opened fd false) (hclients : state.clients ≠ []) :
      ListenerStep state (.accept true) { state with listener := .recv }
  | acceptFails (hpc : state.listener = .accept) :
      ListenerStep state (.accept false) state.listenerReturns
  | receives (hpc : state.listener = .recv) :
      ListenerStep state (.recv true) { state with listener := .setAbort }
  | recvFails (hpc : state.listener = .recv) :
      ListenerStep state (.recv false) state.listenerReturns
  | setAbort (hpc : state.listener = .setAbort) :
      ListenerStep state .setAbort
        { state with
          abortSet := 1, completedAtAbort := some state.completed, listener := .cancelWait }
  | cancelWait (hpc : state.listener = .cancelWait) :
      ListenerStep state .cancelWait
        { state with cancelled := state.cancelled || state.scan.isInWait }.listenerReturns

theorem listenerStep_cases {state next : ScanState} {event : ListenerEvent}
    (hstep : listenerStep state event = some next) : ListenerStep state event next := by
  cases event with
  | clearAbort =>
      obtain ⟨hpc, rfl⟩ := stepIf_eq_some.mp hstep
      exact .clearAbort hpc
  | lock =>
      obtain ⟨⟨hpc, hfree⟩, rfl⟩ := stepIf_eq_some.mp hstep
      exact .lock hpc hfree
  | construct fd =>
      obtain ⟨hpc, rfl⟩ := stepIf_eq_some.mp hstep
      cases fd with
      | none => exact .construct _ _ hpc (Or.inl rfl)
      | some fd => exact .construct _ _ hpc (Or.inr ⟨fd, rfl⟩)
  | publish =>
      simp only [listenerStep] at hstep
      split at hstep
      · rename_i fd hanswer
        obtain ⟨hpc, rfl⟩ := stepIf_eq_some.mp hstep
        exact .publish fd hpc hanswer
      · cases hstep
  | unlock =>
      obtain ⟨hpc, rfl⟩ := stepIf_eq_some.mp hstep
      exact .unlock hpc
  | notify =>
      obtain ⟨hpc, rfl⟩ := stepIf_eq_some.mp hstep
      exact .notify hpc
  | accept ok =>
      simp only [listenerStep] at hstep
      split at hstep
      · rename_i fd shut hserver
        cases ok with
        | true =>
            obtain ⟨⟨hpc, hshut, hclients⟩, rfl⟩ := stepIf_eq_some.mp hstep
            exact .accepts fd hpc (hshut ▸ hserver) hclients
        | false =>
            obtain ⟨⟨hpc, -⟩, rfl⟩ := stepIf_eq_some.mp hstep
            exact .acceptFails hpc
      · cases hstep
  | recv ok =>
      simp only [listenerStep] at hstep
      split at hstep
      · cases ok with
        | true =>
            obtain ⟨⟨hpc, -⟩, rfl⟩ := stepIf_eq_some.mp hstep
            exact .receives hpc
        | false =>
            obtain ⟨⟨hpc, -⟩, rfl⟩ := stepIf_eq_some.mp hstep
            exact .recvFails hpc
      · cases hstep
  | setAbort =>
      obtain ⟨hpc, rfl⟩ := stepIf_eq_some.mp hstep
      exact .setAbort hpc
  | cancelWait =>
      obtain ⟨hpc, rfl⟩ := stepIf_eq_some.mp hstep
      exact .cancelWait hpc

/-- The reporter only touches `g_mtx` and itself. -/
theorem reporterStep_cases {kind : ScanKind} {state next : ScanState} {event : ReporterEvent}
    (hstep : reporterStep kind state event = some next) :
    ∃ gMtx reporter, next = { state with gMtx := gMtx, reporter := reporter } := by
  cases event with
  | _ =>
      obtain ⟨-, rfl⟩ := stepIf_eq_some.mp hstep
      exact ⟨_, _, rfl⟩

/-- Clients only touch their connections: a new one is silent, and a client that does
something with its connection is not. -/
theorem clientStep_cases {state next : ScanState} {event : ClientEvent}
    (hstep : clientStep state event = some next) :
    ∃ clients, next = { state with clients := clients } ∧
      (clients = state.clients ++ [⟨false, false⟩] ∨
        ∃ number connection, ¬ connection.Silent ∧
          clients = state.clients.set number connection) := by
  cases event with
  | connect =>
      simp only [clientStep] at hstep
      split at hstep <;> cases hstep
      exact ⟨_, rfl, Or.inl rfl⟩
  | send number =>
      simp only [clientStep] at hstep
      split at hstep
      · obtain ⟨-, rfl⟩ := stepIf_eq_some.mp hstep
        exact ⟨_, rfl, Or.inr ⟨number, _, by simp [Connection.Silent], rfl⟩⟩
      · cases hstep
  | close number =>
      simp only [clientStep] at hstep
      split at hstep <;> cases hstep
      exact ⟨_, rfl, Or.inr ⟨number, _, by simp [Connection.Silent], rfl⟩⟩

inductive ThreadEvent where
  | scan (event : ScanEvent)
  | listener (event : ListenerEvent)
  | reporter (event : ReporterEvent)
  | client (event : ClientEvent)
deriving DecidableEq, Repr

def threadStep (kind : ScanKind) (state : ScanState) : ThreadEvent → Option ScanState
  | .scan event => scanStep kind state event
  | .listener event => listenerStep state event
  | .reporter event => reporterStep kind state event
  | .client event => clientStep state event

/-- get_rta_scan for a number of images, with the threads and clients around it. -/
def getRtaScan (numImages : Int) : ScanState → ThreadEvent → Option ScanState :=
  threadStep (.rta numImages)

/-- get_single_scan, with the threads and clients around it. -/
def getSingleScan : ScanState → ThreadEvent → Option ScanState := threadStep .single

/-- Everything that can be left of an exit path. -/
def exitRests : List (List ExitAction) :=
  [startFailed, exposureFailed, seriesDone, exposureDone, dataFailed, dataFetched].flatMap
    List.tails

theorem tail_mem_exitRests : ∀ path ∈ exitRests, path.tail ∈ exitRests := by decide

/-- Only AbortAcquisition and the unlock stand in front of shutdown. -/
theorem shutdown_not_mem_exitRests : ∀ path ∈ exitRests,
    path.head? ≠ some .abortAcquisition → path.head? ≠ some .unlockMtx →
      path.head? ≠ some .shutdown → .shutdown ∉ path := by
  decide

/-- The listener does not exist yet. -/
def ScanPc.BeforeListener : ScanPc → Prop
  | assignPlaceholder => True
  | startListener => True
  | _ => False

/-- The scan function has not entered an exit path. -/
def ScanPc.BeforeExit : ScanPc → Prop
  | leaving _ => False
  | returned _ => False
  | _ => True

/-- What holds in every state of a scan, whatever the threads do. -/
structure ScanInv (state : ScanState) : Prop where
  notStarted : state.scan.BeforeListener → state.listener = .notStarted
  planned : ∀ rest, state.scan = .leaving rest → rest ∈ exitRests

theorem ScanInv.start (abortSocketFd abortSet : Int) (curImgInSeries : Nat) :
    ScanInv (scanCalled abortSocketFd abortSet curImgInSeries) where
  notStarted _ := rfl
  planned _ hpc := by cases hpc

/-- A scan function in the middle of its work. -/
theorem ScanInv.of_middle {state : ScanState} (hstarted : ¬ state.scan.BeforeListener)
    (hbefore : state.scan.BeforeExit) : ScanInv state where
  notStarted hpc := absurd hpc hstarted
  planned rest hpc := by
    rw [hpc] at hbefore
    exact False.elim hbefore

theorem ScanInv.of_leaving {state : ScanState} {rest : List ExitAction}
    (hpc : state.scan = .leaving rest) (hrest : rest ∈ exitRests) : ScanInv state where
  notStarted hbefore := by
    rw [hpc] at hbefore
    exact False.elim hbefore
  planned later hlater := by
    rw [hpc, ScanPc.leaving.injEq] at hlater
    exact hlater ▸ hrest

theorem ScanInv.of_exitStep {state next : ScanState} {action : ExitAction}
    {rest : List ExitAction} {ok : Bool} (hpath : action :: rest ∈ exitRests)
    (hstep : exitStep state action rest ok = some next) : ScanInv next := by
  have hrest : rest ∈ exitRests := tail_mem_exitRests _ hpath
  cases action with
  | getAcquiredData =>
      cases ok with
      | true =>
          cases hstep
          exact .of_leaving rfl (by decide)
      | false =>
          cases hstep
          exact .of_leaving rfl (by decide)
  | saveAsFits =>
      cases ok with
      | true =>
          cases hstep
          exact .of_leaving rfl (by decide)
      | false =>
          cases hstep
          exact .of_leaving rfl (by decide)
  | joinReporter =>
      obtain ⟨-, rfl⟩ := stepIf_eq_some.mp hstep
      exact .of_leaving rfl hrest
  | joinAbort =>
      obtain ⟨-, rfl⟩ := stepIf_eq_some.mp hstep
      exact .of_leaving rfl hrest
  | returns result =>
      cases hstep
      exact ⟨fun hbefore => False.elim hbefore, fun later hlater => by cases hlater⟩
  | _ =>
      cases hstep
      exact .of_leaving rfl hrest

theorem ScanInv.of_scanStep {kind : ScanKind} {state next : ScanState} {event : ScanEvent}
    (hinv : ScanInv state) (hstep : ScanStep kind state event next) : ScanInv next := by
  cases hstep with
  | assignPlaceholder hpc =>
      constructor
      · intro _
        exact hinv.notStarted (by rw [hpc]; trivial)
      · intro rest hleaving
        cases hleaving
  | startFails hpc => exact .of_leaving rfl (by decide)
  | seriesEnds hkind hmore hpc => exact .of_leaving rfl (by decide)
  | exposureReady hkind hcancelled hpc => exact .of_leaving rfl (by decide)
  | waitFails hpc | pollGivesUp hpc | fetchFails hpc | saveFails hpc =>
      exact .of_leaving rfl (by decide)
  | exit hexit hpc => exact .of_exitStep (hinv.planned _ hpc) hexit
  | _ => exact .of_middle id trivial

/-- A listener that takes a step was started; at most it wakes the scan function. -/
theorem ListenerStep.scan {state next : ScanState} {event : ListenerEvent}
    (hstep : ListenerStep state event next) :
    state.listener ≠ .notStarted ∧
      (next.scan = state.scan ∨ (state.scan = .waiting ∧ next.scan = .lockAbort)) := by
  cases hstep with
  | notify hpc =>
      refine ⟨by rw [hpc]; simp, ?_⟩
      by_cases hwaiting : state.scan = .waiting
      · exact Or.inr ⟨hwaiting, if_pos hwaiting⟩
      · exact Or.inl (if_neg hwaiting)
  | construct fd server hpc hserver => exact ⟨by rw [hpc]; simp, Or.inl rfl⟩
  | publish fd hpc hanswer => exact ⟨by rw [hpc]; simp, Or.inl rfl⟩
  | lock hpc hfree => exact ⟨by rw [hpc]; simp, Or.inl rfl⟩
  | accepts fd hpc hserver hclients => exact ⟨by rw [hpc]; simp, Or.inl rfl⟩
  | _ hpc => exact ⟨by rw [hpc]; simp, Or.inl rfl⟩

theorem ScanInv.of_listenerStep {state next : ScanState} {event : ListenerEvent}
    (hinv : ScanInv state) (hstep : ListenerStep state event next) : ScanInv next := by
  obtain ⟨hstarted, hsame | ⟨-, hwoken⟩⟩ := hstep.scan
  · constructor
    · intro hbefore
      rw [hsame] at hbefore
      exact absurd (hinv.notStarted hbefore) hstarted
    · intro rest hpc
      exact hinv.planned rest (hsame.symm.trans hpc)
  · apply ScanInv.of_middle
    · rw [hwoken]
      exact id
    · rw [hwoken]
      trivial

/-- Steps of the reporter and of the clients. -/
theorem ScanInv.congr {state next : ScanState} (hinv : ScanInv state)
    (hscan : next.scan = state.scan) (hlistener : next.listener = state.listener) :
    ScanInv next := by
  constructor
  · rw [hscan, hlistener]
    exact hinv.notStarted
  · rw [hscan]
    exact hinv.planned

end Andor2k
