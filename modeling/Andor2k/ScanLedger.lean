/-
The calls of a scan, kept in a log beside the run: g_mtx is unlocked as often as it is locked,
and every thread is joined as often as it is started, but for what still lies ahead.
-/
import Andor2k.AbortJoin

namespace Andor2k

open Runs

/-- The calls that have to be balanced.  The descriptor of `openSocket` is none if the
constructor of the abort socket throws. -/
inductive ScanCall where
  | lockMtx
  | unlockMtx
  | startThread (thread : ThreadId)
  | joinThread (thread : ThreadId)
  | openSocket (fd : Option Nat)
  | shutdown (fd : Int)
  | startAcquisition
  | abortAcquisition
  | waitSucceeds
deriving DecidableEq, Repr

def exitCalls (state : ScanState) : ExitAction → List ScanCall
  | .abortAcquisition => [.abortAcquisition]
  | .unlockMtx => [.unlockMtx]
  | .shutdown => [.shutdown state.abortSocketFd]
  | .joinReporter => [.joinThread .reporter]
  | .joinAbort => [.joinThread .listener]
  | .getAcquiredData => []
  | .saveAsFits => []
  | .returns _ => []

def scanCalls (state : ScanState) : ScanEvent → List ScanCall
  | .startListener => [.startThread .listener]
  | .startAcquisition _ => [.startAcquisition]
  | .lockMtx => [.lockMtx]
  | .startReporter => [.startThread .reporter]
  | .waitReturns true => [.waitSucceeds]
  | .exit _ =>
      match state.scan with
      | .leaving (action :: _) => exitCalls state action
      | _ => []
  | _ => []

def listenerCalls : ListenerEvent → List ScanCall
  | .construct fd => [.openSocket fd]
  | _ => []

def reporterCalls : ReporterEvent → List ScanCall
  | .tryLock => [.lockMtx]
  | .unlock => [.unlockMtx]
  | _ => []

/-- The calls of one step. -/
def callsOf (state : ScanState) : ThreadEvent → List ScanCall
  | .scan event => scanCalls state event
  | .listener event => listenerCalls event
  | .reporter event => reporterCalls event
  | .client _ => []

/-- A reporter's calls are those on g_mtx. -/
theorem mem_reporterCalls {event : ReporterEvent} {call : ScanCall}
    (hcall : call ∈ reporterCalls event) : call = .lockMtx ∨ call = .unlockMtx := by
  cases event with
  | tryLock => exact Or.inl (List.mem_singleton.mp hcall)
  | unlock => exact Or.inr (List.mem_singleton.mp hcall)
  | _ => cases hcall

/-- A state of the scan with the calls that have led to it. -/
abbrev LoggedScan := ScanState × List ScanCall

def loggedScan (kind : ScanKind) : LoggedScan → ThreadEvent → Option LoggedScan :=
  logged (threadStep kind) callsOf

/-- The joins of an exit action; behind the fetch of the data both lists of actions have
two. -/
def ExitAction.joins : ExitAction → List ThreadId
  | joinReporter => [.reporter]
  | joinAbort => [.listener]
  | getAcquiredData => [.reporter, .listener]
  | _ => []

/-- The actions behind which a scan function is through, or takes another list. -/
def ExitAction.endsPath : ExitAction → Bool
  | getAcquiredData => true
  | saveAsFits => true
  | returns _ => true
  | _ => false

/-- The threads that are still to be started. -/
def ScanPc.startsAhead : ScanPc → List ThreadId
  | assignPlaceholder => [.reporter, .listener]
  | startListener => [.reporter, .listener]
  | lockAbort => [.reporter]
  | testPredicate => [.reporter]
  | waiting => [.reporter]
  | unlockAbort => [.reporter]
  | startAcquisition => [.reporter]
  | lockMtx => [.reporter]
  | startReporter => [.reporter]
  | _ => []

/-- The threads that are started and still to be joined. -/
def ScanPc.joinsAhead : ScanPc → List ThreadId
  | assignPlaceholder => []
  | startListener => []
  | lockAbort => [.listener]
  | testPredicate => [.listener]
  | waiting => [.listener]
  | unlockAbort => [.listener]
  | startAcquisition => [.listener]
  | lockMtx => [.listener]
  | startReporter => [.listener]
  | leaving rest => rest.flatMap ExitAction.joins
  | returned _ => []
  | _ => [.reporter, .listener]

/-- How often the scan function still has to unlock `g_mtx`. -/
def ScanPc.unlocksAhead : ScanPc → Nat
  | startReporter => 1
  | nextImage _ => 1
  | callWait _ => 1
  | inWait _ => 1
  | pollNewImages _ => 1
  | getImages _ => 1
  | saveImage _ => 1
  | leaving rest => rest.count .unlockMtx
  | _ => 0

/-- What is left of the exit path the scan function is on. -/
def ScanPc.exitRest : ScanPc → Option (List ExitAction)
  | leaving rest => some rest
  | returned _ => some []
  | _ => none

theorem tail_of_endsPath : ∀ path ∈ exitRests,
    (path.head?.any ExitAction.endsPath) = true → path.tail = [] := by
  decide

theorem unlocks_exitRests : ∀ path ∈ exitRests, path.count .unlockMtx ≤ 1 := by decide

/-- The changes of what lies ahead are the calls made. -/
structure ScanEffect (state next : ScanState) (calls : List ScanCall) : Prop where
  joins : ∀ thread, calls.count (.startThread thread) + state.scan.joinsAhead.count thread =
    calls.count (.joinThread thread) + next.scan.joinsAhead.count thread
  starts : ∀ thread, calls.count (.startThread thread) + next.scan.startsAhead.count thread ≤
    state.scan.startsAhead.count thread
  locks : calls.count .lockMtx + state.scan.unlocksAhead =
    calls.count .unlockMtx + next.scan.unlocksAhead

theorem count_exitCalls (state : ScanState) (action : ExitAction) :
    (∀ thread, (exitCalls state action).count (.startThread thread) = 0) ∧
      (exitCalls state action).count .lockMtx = 0 := by
  cases action with
  | _ => simp [exitCalls]

/-- An exit action starts and locks nothing: its joins and its unlock have to be what is no
longer ahead. -/
theorem ScanEffect.of_exit {state next : ScanState} {action : ExitAction}
    {rest : List ExitAction} (hpc : state.scan = .leaving (action :: rest))
    (hjoins : ∀ thread, (action.joins ++ rest.flatMap ExitAction.joins).count thread =
      (exitCalls state action).count (.joinThread thread) + next.scan.joinsAhead.count thread)
    (hstarts : next.scan.startsAhead = [])
    (hunlocks : (action :: rest).count .unlockMtx =
      (exitCalls state action).count .unlockMtx + next.scan.unlocksAhead) :
    ScanEffect state next (exitCalls state action) := by
  obtain ⟨hstarted, hlocked⟩ := count_exitCalls state action
  constructor
  · intro thread
    rw [hstarted, hpc, Nat.zero_add]
    exact hjoins thread
  · intro thread
    rw [hstarted, hstarts]
    exact Nat.zero_le _
  · rw [hlocked, hpc, Nat.zero_add]
    exact hunlocks

theorem exitStep_effect {state next : ScanState} {action : ExitAction}
    {rest : List ExitAction} {ok : Bool} (hpc : state.scan = .leaving (action :: rest))
    (hpath : action :: rest ∈ exitRests)
    (hstep : exitStep state action rest ok = some next) :
    ScanEffect state next (exitCalls state action) := by
  have hends : action.endsPath = true → rest = [] := tail_of_endsPath _ hpath
  cases action with
  | abortAcquisition | shutdown =>
      cases hstep
      apply ScanEffect.of_exit hpc
      · intro thread
        simp [exitCalls, ExitAction.joins, ScanPc.joinsAhead]
      · rfl
      · simp [exitCalls, ScanPc.unlocksAhead]
  | unlockMtx =>
      cases hstep
      apply ScanEffect.of_exit hpc
      · intro thread
        simp [exitCalls, ExitAction.joins, ScanPc.joinsAhead]
      · rfl
      · simp [exitCalls, ScanPc.unlocksAhead, Nat.add_comm]
  | joinReporter | joinAbort =>
      obtain ⟨-, rfl⟩ := stepIf_eq_some.mp hstep
      apply ScanEffect.of_exit hpc
      · intro thread
        rw [List.count_append]
        cases thread with
        | _ => rfl
      · rfl
      · simp [exitCalls, ScanPc.unlocksAhead]
  | getAcquiredData | saveAsFits =>
      obtain rfl := hends rfl
      cases ok with
      | _ =>
          cases hstep
          apply ScanEffect.of_exit hpc
          · intro thread
            cases thread with
            | _ => rfl
          · rfl
          · rfl
  | returns result =>
      obtain rfl := hends rfl
      cases hstep
      apply ScanEffect.of_exit hpc
      · intro thread
        cases thread with
        | _ => rfl
      · rfl
      · rfl

/-- A step between two points with the same work ahead. -/
theorem ScanEffect.of_eq {state next : ScanState} {calls : List ScanCall} {pc pc' : ScanPc}
    (hcalls : calls = [] ∨ calls = [.startAcquisition] ∨ calls = [.waitSucceeds])
    (hpc : state.scan = pc) (hpc' : next.scan = pc')
    (hahead : pc'.joinsAhead = pc.joinsAhead ∧ pc'.startsAhead = pc.startsAhead ∧
      pc'.unlocksAhead = pc.unlocksAhead) : ScanEffect state next calls := by
  obtain ⟨hjoins, hstarts, hlocks⟩ := hahead
  rcases hcalls with rfl | rfl | rfl
  all_goals
    constructor
    · intro thread
      simp [hpc, hpc', hjoins]
    · intro thread
      simp [hpc, hpc', hstarts]
    · simp [hpc, hpc', hlocks]

theorem scanStep_effect {kind : ScanKind} {state next : ScanState} {event : ScanEvent}
    (hinv : ScanInv state) (hstep : ScanStep kind state event next) :
    ScanEffect state next (scanCalls state event) := by
  cases hstep with
  | startListener hpc =>
      constructor
      · intro thread
        cases thread <;> simp [scanCalls, hpc, ScanPc.joinsAhead]
      · intro thread
        cases thread <;> simp [scanCalls, hpc, ScanPc.startsAhead]
      · simp [scanCalls, hpc, ScanPc.unlocksAhead]
  | startFails hpc =>
      constructor
      · intro thread
        cases thread <;> simp [scanCalls, hpc, ScanPc.joinsAhead, startFailed, ExitAction.joins]
      · intro thread
        simp [scanCalls, ScanPc.startsAhead]
      · simp [scanCalls, hpc, ScanPc.unlocksAhead, startFailed]
  | lockMtx hfree hpc =>
      constructor
      · intro thread
        simp [scanCalls, hpc, ScanPc.joinsAhead]
      · intro thread
        simp [scanCalls, hpc, ScanPc.startsAhead]
      · simp [scanCalls, hpc, ScanPc.unlocksAhead]
  | startSeriesReporter hkind hpc | startReporter hkind hpc =>
      constructor
      · intro thread
        cases thread <;> simp [scanCalls, hpc, ScanPc.joinsAhead]
      · intro thread
        cases thread <;> simp [scanCalls, hpc, ScanPc.startsAhead]
      · simp [scanCalls, hpc, ScanPc.unlocksAhead]
  | exit hexit hpc =>
      simp only [scanCalls, hpc]
      exact exitStep_effect hpc (hinv.planned _ hpc) hexit
  | starts hpc => exact .of_eq (Or.inr (Or.inl rfl)) hpc rfl ⟨rfl, rfl, rfl⟩
  | imageReady hkind hcancelled hpc | exposureReady hkind hcancelled hpc =>
      exact .of_eq (Or.inr (Or.inr rfl)) hpc rfl ⟨rfl, rfl, rfl⟩
  | _ =>
      rename_i hpc
      exact .of_eq (Or.inl rfl) hpc rfl ⟨rfl, rfl, rfl⟩

/-- The listener at most wakes the scan function, which leaves ahead what was. -/
theorem listenerStep_ahead {state next : ScanState} {event : ListenerEvent}
    (hstep : ListenerStep state event next) :
    next.scan.joinsAhead = state.scan.joinsAhead ∧
      next.scan.startsAhead = state.scan.startsAhead ∧
      next.scan.unlocksAhead = state.scan.unlocksAhead ∧
      next.scan.exitRest = state.scan.exitRest := by
  obtain ⟨-, hsame | ⟨hwaiting, hwoken⟩⟩ := hstep.scan
  · rw [hsame]
    exact ⟨rfl, rfl, rfl, rfl⟩
  · rw [hwaiting, hwoken]
    exact ⟨rfl, rfl, rfl, rfl⟩

/-- Every thread is joined as often as it was started, but for the joins ahead. -/
structure ThreadsInv (current : LoggedScan) : Prop extends ScanInv current.1 where
  joined : ∀ thread, current.2.count (.startThread thread) =
    current.2.count (.joinThread thread) + current.1.scan.joinsAhead.count thread
  startedOnce : ∀ thread,
    current.2.count (.startThread thread) + current.1.scan.startsAhead.count thread ≤ 1
  reporterRests : .reporter ∉ current.1.scan.joinsAhead →
    current.1.reporter = .notStarted ∨ current.1.reporter = .finished
  listenerRests : .listener ∉ current.1.scan.joinsAhead →
    current.1.scan.BeforeListener ∨ current.1.listener = .done

/-- `g_mtx` has one owner, and it has been unlocked as often as locked, but for that owner. -/
structure MtxInv (current : LoggedScan) : Prop where
  scanOwns : 0 < current.1.scan.unlocksAhead → current.1.gMtx = some .scan
  reporterOwns : current.1.reporter = .holding → current.1.gMtx = some .reporter
  free : current.1.scan.unlocksAhead = 0 → current.1.reporter ≠ .holding → current.1.gMtx = none
  unlocked : current.2.count .lockMtx =
    current.2.count .unlockMtx + if current.1.gMtx = none then 0 else 1

theorem ThreadsInv.start (abortSocketFd abortSet : Int) (curImgInSeries : Nat) :
    ThreadsInv (scanCalled abortSocketFd abortSet curImgInSeries, []) where
  toScanInv := ScanInv.start _ _ _
  joined _ := rfl
  startedOnce thread := by cases thread <;> simp [scanCalled, ScanPc.startsAhead]
  reporterRests _ := Or.inl rfl
  listenerRests _ := Or.inl trivial

theorem MtxInv.start (abortSocketFd abortSet : Int) (curImgInSeries : Nat) :
    MtxInv (scanCalled abortSocketFd abortSet curImgInSeries, []) where
  scanOwns hahead := absurd hahead (Nat.lt_irrefl 0)
  reporterOwns hholding := by cases hholding
  free _ _ := rfl
  unlocked := rfl

/-- What a step of the scan function does to the other threads and to `g_mtx`: a join waits
for its thread, a lock for the mutex. -/
structure ThreadsEffect (state next : ScanState) (calls : List ScanCall) : Prop where
  reporter : next.reporter = state.reporter ∨ (.reporter ∈ next.scan.joinsAhead ∧
    0 < state.scan.unlocksAhead ∧ next.reporter = .started)
  listener : next.listener = state.listener ∨ .listener ∈ next.scan.joinsAhead
  before : state.scan.BeforeListener → next.scan.BeforeListener ∨
    .listener ∈ next.scan.joinsAhead
  joinsReporter : .joinThread .reporter ∈ calls → state.reporter = .finished
  joinsListener : .joinThread .listener ∈ calls → state.listener = .done
  gMtx : (next.gMtx = state.gMtx ∧ calls.count .lockMtx = 0 ∧ calls.count .unlockMtx = 0) ∨
    (state.gMtx = none ∧ next.gMtx = some .scan ∧ calls = [.lockMtx]) ∨
    (next.gMtx = none ∧ calls = [.unlockMtx])

/-- Most steps leave the other threads and the mutex alone. -/
theorem ThreadsEffect.of_frame {state next : ScanState} {calls : List ScanCall}
    (hcalls : calls = [] ∨ calls = [.startAcquisition] ∨ calls = [.waitSucceeds])
    (hafter : ¬ state.scan.BeforeListener) (hreporter : next.reporter = state.reporter)
    (hlistener : next.listener = state.listener) (hgMtx : next.gMtx = state.gMtx) :
    ThreadsEffect state next calls := by
  refine ⟨Or.inl hreporter, Or.inl hlistener, fun hbefore => absurd hbefore hafter, ?_, ?_,
    Or.inl ⟨hgMtx, ?_⟩⟩
  all_goals
    rcases hcalls with rfl | rfl | rfl
    all_goals simp

theorem exitStep_threadsEffect {state next : ScanState} {action : ExitAction}
    {rest : List ExitAction} {ok : Bool} (hpc : state.scan = .leaving (action :: rest))
    (hstep : exitStep state action rest ok = some next) :
    ThreadsEffect state next (exitCalls state action) := by
  have hafter : ¬ state.scan.BeforeListener := by
    rw [hpc]
    exact id
  cases action with
  | joinReporter | joinAbort =>
      obtain ⟨hthread, rfl⟩ := stepIf_eq_some.mp hstep
      exact ⟨Or.inl rfl, Or.inl rfl, fun hbefore => absurd hbefore hafter, by
        simp [exitCalls, hthread], by simp [exitCalls, hthread],
        Or.inl ⟨rfl, by simp [exitCalls]⟩⟩
  | getAcquiredData | saveAsFits =>
      cases ok <;> cases hstep <;> exact .of_frame (Or.inl rfl) hafter rfl rfl rfl
  | unlockMtx =>
      cases hstep
      exact ⟨Or.inl rfl, Or.inl rfl, fun hbefore => absurd hbefore hafter, by
        simp [exitCalls], by simp [exitCalls], Or.inr (Or.inr ⟨rfl, rfl⟩)⟩
  | abortAcquisition | shutdown =>
      cases hstep
      exact ⟨Or.inl rfl, Or.inl rfl, fun hbefore => absurd hbefore hafter, by
        simp [exitCalls], by simp [exitCalls], Or.inl ⟨rfl, by simp [exitCalls]⟩⟩
  | returns result =>
      cases hstep
      exact .of_frame (Or.inl rfl) hafter rfl rfl rfl

theorem scanStep_threadsEffect {kind : ScanKind} {state next : ScanState} {event : ScanEvent}
    (hstep : ScanStep kind state event next) :
    ThreadsEffect state next (scanCalls state event) := by
  cases hstep with
  | assignPlaceholder hpc =>
      exact ⟨Or.inl rfl, Or.inl rfl, fun _ => Or.inl trivial, by simp [scanCalls], by
        simp [scanCalls], Or.inl ⟨rfl, by simp [scanCalls]⟩⟩
  | startListener hpc =>
      exact ⟨Or.inl rfl, Or.inr (by simp [ScanPc.joinsAhead]), fun _ => Or.inr (by
        simp [ScanPc.joinsAhead]), by simp [scanCalls], by simp [scanCalls],
        Or.inl ⟨rfl, by simp [scanCalls]⟩⟩
  | lockMtx hfree hpc =>
      have hafter : ¬ state.scan.BeforeListener := by
        rw [hpc]
        exact id
      exact ⟨Or.inl rfl, Or.inl rfl, fun hbefore => absurd hbefore hafter, by
        simp [scanCalls], by simp [scanCalls], Or.inr (Or.inl ⟨hfree, rfl, rfl⟩)⟩
  | startSeriesReporter hkind hpc | startReporter hkind hpc =>
      have hafter : ¬ state.scan.BeforeListener := by
        rw [hpc]
        exact id
      exact ⟨Or.inr ⟨by simp [ScanPc.joinsAhead], by simp [hpc, ScanPc.unlocksAhead], rfl⟩,
        Or.inl rfl, fun hbefore => absurd hbefore hafter, by simp [scanCalls], by
        simp [scanCalls], Or.inl ⟨rfl, by simp [scanCalls]⟩⟩
  | exit hexit hpc =>
      simp only [scanCalls, hpc]
      exact exitStep_threadsEffect hpc hexit
  | starts hpc | startFails hpc =>
      exact .of_frame (Or.inr (Or.inl rfl)) (by rw [hpc]; exact id) rfl rfl rfl
  | imageReady hkind hcancelled hpc | exposureReady hkind hcancelled hpc =>
      exact .of_frame (Or.inr (Or.inr rfl)) (by rw [hpc]; exact id) rfl rfl rfl
  | _ =>
      rename_i hpc
      exact .of_frame (Or.inl rfl) (by rw [hpc]; exact id) rfl rfl rfl

theorem ThreadsInv.of_scanStep {kind : ScanKind} {current next : LoggedScan}
    {event : ScanEvent} (hinv : ThreadsInv current)
    (hstep : scanStep kind current.1 event = some next.1)
    (hcalls : next.2 = current.2 ++ scanCalls current.1 event) : ThreadsInv next := by
  have hcases := scanStep_cases hstep
  have heffect := scanStep_effect hinv.toScanInv hcases
  have hthreads := scanStep_threadsEffect hcases
  -- a thread that need not be joined any more either needed no join, or is joined right now
  have hrests : ∀ thread, thread ∉ next.1.scan.joinsAhead →
      thread ∉ current.1.scan.joinsAhead ∨
        .joinThread thread ∈ scanCalls current.1 event := by
    intro thread hnot
    have hcount := heffect.joins thread
    rw [List.count_eq_zero_of_not_mem hnot] at hcount
    rcases Nat.eq_zero_or_pos (current.1.scan.joinsAhead.count thread) with hzero | hpos
    · exact Or.inl (List.count_eq_zero.mp hzero)
    · exact Or.inr (List.count_pos_iff.mp (by omega))
  constructor
  · exact hinv.toScanInv.of_scanStep hcases
  · intro thread
    have hjoined := hinv.joined thread
    have hcount := heffect.joins thread
    rw [hcalls, List.count_append, List.count_append]
    omega
  · intro thread
    have honce := hinv.startedOnce thread
    have hcount := heffect.starts thread
    rw [hcalls, List.count_append]
    omega
  · intro hnot
    rw [hthreads.reporter.resolve_right fun hstarted => hnot hstarted.1]
    rcases hrests _ hnot with hbefore | hjoin
    · exact hinv.reporterRests hbefore
    · exact Or.inr (hthreads.joinsReporter hjoin)
  · intro hnot
    rw [hthreads.listener.resolve_right hnot]
    rcases hrests _ hnot with hbefore | hjoin
    · rcases hinv.listenerRests hbefore with hfront | hdone
      · exact Or.inl ((hthreads.before hfront).resolve_right hnot)
      · exact Or.inr hdone
    · exact Or.inr (hthreads.joinsListener hjoin)

theorem ScanInv.unlocksAhead_le_one {state : ScanState} (hscan : ScanInv state) :
    state.scan.unlocksAhead ≤ 1 := by
  cases hpc : state.scan with
  | leaving rest => exact unlocks_exitRests rest (hscan.planned rest hpc)
  | _ => simp [ScanPc.unlocksAhead]

theorem MtxInv.of_scanStep {kind : ScanKind} {current next : LoggedScan} {event : ScanEvent}
    (hinv : MtxInv current) (hscan : ScanInv current.1)
    (hstep : scanStep kind current.1 event = some next.1)
    (hcalls : next.2 = current.2 ++ scanCalls current.1 event) : MtxInv next := by
  have hcases := scanStep_cases hstep
  have hlocks := (scanStep_effect hscan hcases).locks
  have hthreads := scanStep_threadsEffect hcases
  have hunlocked := hinv.unlocked
  -- a reporter that holds the mutex does so before and after
  have hholding : next.1.reporter = .holding ↔ current.1.reporter = .holding := by
    rcases hthreads.reporter with hsame | ⟨-, howns, hstarted⟩
    · rw [hsame]
    · have howner := hinv.scanOwns howns
      rw [hstarted]
      refine ⟨nofun, fun hheld => ?_⟩
      rw [hinv.reporterOwns hheld] at howner
      cases howner
  rcases hthreads.gMtx with ⟨hsame, hlock, hunlock⟩ | ⟨hfree, howned, hlock⟩ | ⟨hfree, hunlock⟩
  · have hahead : next.1.scan.unlocksAhead = current.1.scan.unlocksAhead := by omega
    constructor
    · rw [hahead, hsame]
      exact hinv.scanOwns
    · rw [hholding, hsame]
      exact hinv.reporterOwns
    · rw [hahead, ne_eq, hholding, hsame]
      exact hinv.free
    · rw [hcalls, List.count_append, List.count_append, hsame]
      omega
  · rw [hlock] at hlocks
    have hahead : next.1.scan.unlocksAhead = current.1.scan.unlocksAhead + 1 := by
      simpa [Nat.add_comm] using hlocks.symm
    have hnotHeld : current.1.reporter ≠ .holding := by
      intro hheld
      rw [hinv.reporterOwns hheld] at hfree
      cases hfree
    constructor
    · intro _
      exact howned
    · intro hheld
      exact absurd (hholding.mp hheld) hnotHeld
    · intro hzero
      omega
    · rw [hcalls, List.count_append, List.count_append, hlock, howned]
      rw [hfree] at hunlocked
      simpa using hunlocked
  · rw [hunlock] at hlocks
    have hahead : current.1.scan.unlocksAhead = next.1.scan.unlocksAhead + 1 := by
      simpa [Nat.add_comm] using hlocks
    have hlast := hscan.unlocksAhead_le_one
    have howned := hinv.scanOwns (by omega)
    have hnotHeld : current.1.reporter ≠ .holding := by
      intro hheld
      rw [hinv.reporterOwns hheld] at howned
      cases howned
    constructor
    · intro hpos
      omega
    · intro hheld
      exact absurd (hholding.mp hheld) hnotHeld
    · intro _ _
      exact hfree
    · rw [hcalls, List.count_append, List.count_append, hunlock, hfree]
      rw [howned] at hunlocked
      simpa using hunlocked

/-- The reporter locks, unlocks, or does neither. -/
theorem reporterStep_effect {kind : ScanKind} {state next : ScanState} {event : ReporterEvent}
    (hstep : reporterStep kind state event = some next) :
    next.scan = state.scan ∧ next.listener = state.listener ∧
      (state.reporter ≠ .notStarted ∧ state.reporter ≠ .finished) ∧
      ((next.gMtx = state.gMtx ∧ state.reporter ≠ .holding ∧ next.reporter ≠ .holding ∧
          reporterCalls event = []) ∨
        (state.gMtx = none ∧ next.gMtx = some .reporter ∧ next.reporter = .holding ∧
          reporterCalls event = [.lockMtx]) ∨
        (state.reporter = .holding ∧ next.gMtx = none ∧ next.reporter = .finished ∧
          reporterCalls event = [.unlockMtx])) := by
  cases event with
  | skip =>
      obtain ⟨⟨hpc, -⟩, rfl⟩ := stepIf_eq_some.mp hstep
      simp [hpc, reporterCalls]
  | startPolling =>
      obtain ⟨hpc, rfl⟩ := stepIf_eq_some.mp hstep
      simp [hpc, reporterCalls]
  | tryLockFails =>
      obtain ⟨⟨hpc, -⟩, rfl⟩ := stepIf_eq_some.mp hstep
      simp [hpc, reporterCalls]
  | tryLock =>
      obtain ⟨⟨hpc, hfree⟩, rfl⟩ := stepIf_eq_some.mp hstep
      simp [hpc, hfree, reporterCalls]
  | unlock =>
      obtain ⟨hpc, rfl⟩ := stepIf_eq_some.mp hstep
      simp [hpc, reporterCalls]

theorem ThreadsInv.of_reporterStep {kind : ScanKind} {current next : LoggedScan}
    {event : ReporterEvent} (hinv : ThreadsInv current)
    (hstep : reporterStep kind current.1 event = some next.1)
    (hcalls : next.2 = current.2 ++ reporterCalls event) : ThreadsInv next := by
  obtain ⟨hscan, hlistener, ⟨hstarted, hunfinished⟩, hevent⟩ := reporterStep_effect hstep
  have hcounts : ∀ thread, (reporterCalls event).count (.startThread thread) = 0 ∧
      (reporterCalls event).count (.joinThread thread) = 0 := by
    intro thread
    rcases hevent with ⟨-, -, -, hnone⟩ | ⟨-, -, -, hlock⟩ | ⟨-, -, -, hunlock⟩
    · simp [hnone]
    · simp [hlock]
    · simp [hunlock]
  constructor
  · exact hinv.toScanInv.congr hscan hlistener
  · intro thread
    rw [hcalls, List.count_append, List.count_append, (hcounts thread).1, (hcounts thread).2,
      hscan]
    exact hinv.joined thread
  · intro thread
    rw [hcalls, List.count_append, (hcounts thread).1, hscan]
    exact hinv.startedOnce thread
  · intro hnot
    rw [hscan] at hnot
    rcases hinv.reporterRests hnot with hbefore | hafter
    · exact absurd hbefore hstarted
    · exact absurd hafter hunfinished
  · rw [hscan, hlistener]
    exact hinv.listenerRests

theorem MtxInv.of_reporterStep {kind : ScanKind} {current next : LoggedScan}
    {event : ReporterEvent} (hinv : MtxInv current)
    (hstep : reporterStep kind current.1 event = some next.1)
    (hcalls : next.2 = current.2 ++ reporterCalls event) : MtxInv next := by
  obtain ⟨hscan, -, -, hevent⟩ := reporterStep_effect hstep
  have hunlocked := hinv.unlocked
  rcases hevent with ⟨hsame, hbefore, hafter, hnone⟩ | ⟨hfree, howned, hheld, hlock⟩ |
    ⟨hheld, hfree, hfinished, hunlock⟩
  · constructor
    · rw [hscan, hsame]
      exact hinv.scanOwns
    · intro hheld
      exact absurd hheld hafter
    · rw [hscan, hsame]
      exact fun hzero _ => hinv.free hzero hbefore
    · rw [hcalls, hnone, List.append_nil, hsame]
      exact hunlocked
  · constructor
    · intro hpos
      rw [hscan] at hpos
      rw [hinv.scanOwns hpos] at hfree
      cases hfree
    · intro _
      exact howned
    · intro _ hnot
      exact absurd hheld hnot
    · rw [hcalls, List.count_append, List.count_append, hlock, howned]
      rw [hfree] at hunlocked
      simpa using hunlocked
  · have howned := hinv.reporterOwns hheld
    constructor
    · intro hpos
      rw [hscan] at hpos
      rw [hinv.scanOwns hpos] at howned
      cases howned
    · intro hheld
      rw [hfinished] at hheld
      cases hheld
    · intro _ _
      exact hfree
    · rw [hcalls, List.count_append, List.count_append, hunlock, hfree]
      rw [howned] at hunlocked
      simpa using hunlocked

/-- Steps that leave the reporter, the mutex and what lies ahead as they are. -/
theorem MtxInv.congr {current next : LoggedScan} (hinv : MtxInv current)
    (hahead : next.1.scan.unlocksAhead = current.1.scan.unlocksAhead)
    (hreporter : next.1.reporter = current.1.reporter) (hgMtx : next.1.gMtx = current.1.gMtx)
    (hlock : next.2.count .lockMtx = current.2.count .lockMtx)
    (hunlock : next.2.count .unlockMtx = current.2.count .unlockMtx) : MtxInv next := by
  constructor
  · rw [hahead, hgMtx]
    exact hinv.scanOwns
  · rw [hreporter, hgMtx]
    exact hinv.reporterOwns
  · rw [hahead, hreporter, hgMtx]
    exact hinv.free
  · rw [hlock, hunlock, hgMtx]
    exact hinv.unlocked

/-- The listener takes no step before it is started and none after its end. -/
theorem listenerStep_effect {state next : ScanState} {event : ListenerEvent}
    (hstep : ListenerStep state event next) :
    next.reporter = state.reporter ∧ next.gMtx = state.gMtx ∧ state.listener ≠ .done ∧
      ∀ call, call ∈ listenerCalls event → ∃ fd, call = .openSocket fd := by
  cases hstep with
  | construct fd server hpc hserver =>
      refine ⟨rfl, rfl, by rw [hpc]; simp, fun call hcall => ⟨fd, ?_⟩⟩
      exact List.mem_singleton.mp hcall
  | lock hpc hfree => exact ⟨rfl, rfl, by rw [hpc]; simp, nofun⟩
  | publish fd hpc hanswer => exact ⟨rfl, rfl, by rw [hpc]; simp, nofun⟩
  | accepts fd hpc hserver hclients => exact ⟨rfl, rfl, by rw [hpc]; simp, nofun⟩
  | _ hpc => exact ⟨rfl, rfl, by rw [hpc]; simp, nofun⟩

/-- Calls of the listener change no count but that of its socket. -/
theorem count_listenerCalls {state next : ScanState} {event : ListenerEvent}
    (hstep : ListenerStep state event next) (call : ScanCall)
    (hcall : ∀ fd, call ≠ .openSocket fd) :
    (listenerCalls event).count call = 0 := by
  apply List.count_eq_zero_of_not_mem
  intro hmem
  obtain ⟨fd, hopen⟩ := (listenerStep_effect hstep).2.2.2 call hmem
  exact hcall fd hopen

theorem ThreadsInv.of_listenerStep {current next : LoggedScan} {event : ListenerEvent}
    (hinv : ThreadsInv current) (hstep : listenerStep current.1 event = some next.1)
    (hcalls : next.2 = current.2 ++ listenerCalls event) : ThreadsInv next := by
  have hcases := listenerStep_cases hstep
  obtain ⟨hreporter, -, hnotDone, -⟩ := listenerStep_effect hcases
  obtain ⟨hjoins, hstarts, -, -⟩ := listenerStep_ahead hcases
  constructor
  · exact hinv.toScanInv.of_listenerStep hcases
  · intro thread
    rw [hcalls, List.count_append, List.count_append,
      count_listenerCalls hcases (.startThread thread) nofun,
      count_listenerCalls hcases (.joinThread thread) nofun, hjoins]
    exact hinv.joined thread
  · intro thread
    rw [hcalls, List.count_append, count_listenerCalls hcases (.startThread thread) nofun,
      hstarts]
    exact hinv.startedOnce thread
  · rw [hjoins, hreporter]
    exact hinv.reporterRests
  · intro hnot
    rw [hjoins] at hnot
    rcases hinv.listenerRests hnot with hbefore | hdone
    · exact absurd (hinv.notStarted hbefore) hcases.scan.1
    · exact absurd hdone hnotDone

/-- Steps of the clients. -/
theorem ThreadsInv.congr {current next : LoggedScan} (hinv : ThreadsInv current)
    (hscan : next.1.scan = current.1.scan) (hlistener : next.1.listener = current.1.listener)
    (hreporter : next.1.reporter = current.1.reporter) (hcalls : next.2 = current.2) :
    ThreadsInv next := by
  constructor
  · exact hinv.toScanInv.congr hscan hlistener
  · rw [hcalls, hscan]
    exact hinv.joined
  · rw [hcalls, hscan]
    exact hinv.startedOnce
  · rw [hscan, hreporter]
    exact hinv.reporterRests
  · rw [hscan, hlistener]
    exact hinv.listenerRests

/-- Every step of any thread keeps both. -/
theorem threads_and_mtx_of_step {kind : ScanKind} {current next : LoggedScan}
    {event : ThreadEvent} (hthreads : ThreadsInv current) (hmtx : MtxInv current)
    (hstep : loggedScan kind current event = some next) : ThreadsInv next ∧ MtxInv next := by
  obtain ⟨hstep, hcalls⟩ := logged_eq_some.mp hstep
  cases event with
  | scan event =>
      exact ⟨hthreads.of_scanStep hstep hcalls, hmtx.of_scanStep hthreads.toScanInv hstep hcalls⟩
  | reporter event =>
      exact ⟨hthreads.of_reporterStep hstep hcalls, hmtx.of_reporterStep hstep hcalls⟩
  | listener event =>
      have hcases := listenerStep_cases hstep
      obtain ⟨hreporter, hgMtx, -, -⟩ := listenerStep_effect hcases
      refine ⟨hthreads.of_listenerStep hstep hcalls, ?_⟩
      apply hmtx.congr (listenerStep_ahead hcases).2.2.1 hreporter hgMtx
      · rw [hcalls, callsOf, List.count_append, count_listenerCalls hcases .lockMtx nofun]
        rfl
      · rw [hcalls, callsOf, List.count_append, count_listenerCalls hcases .unlockMtx nofun]
        rfl
  | client event =>
      obtain ⟨clients, hnext, -⟩ := clientStep_cases hstep
      rw [callsOf, List.append_nil] at hcalls
      constructor
      · exact hthreads.congr (by rw [hnext]) (by rw [hnext]) (by rw [hnext]) hcalls
      · exact hmtx.congr (by rw [hnext]) (by rw [hnext]) (by rw [hnext]) (by rw [hcalls])
          (by rw [hcalls])

end Andor2k
