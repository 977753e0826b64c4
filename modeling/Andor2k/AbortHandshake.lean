/-
The handshake at the start of a scan: the scan function waits until abort_listener has
published the descriptor of its socket.
-/
import Andor2k.ScanThreads

namespace Andor2k

open Runs

/-- The listener has taken `g_mtx_abort`, and may have released it. -/
def ListenerPc.HasLocked : ListenerPc → Prop
  | notStarted => False
  | clearAbort => False
  | lock => False
  | _ => True

instance decidableHasLocked : ∀ pc : ListenerPc, Decidable pc.HasLocked
  | .notStarted | .clearAbort | .lock => isFalse id
  | .construct | .publish | .unlock | .notify | .accept | .recv | .setAbort | .cancelWait
  | .done => isTrue trivial

/-- The listener has assigned its answer to `abort_socket_fd`. -/
def ListenerPc.Published : ListenerPc → Prop
  | notStarted => False
  | clearAbort => False
  | lock => False
  | construct => False
  | publish => False
  | _ => True

/-- The listener is between its lock and its unlock. -/
def ListenerPc.Locked : ListenerPc → Prop
  | construct => True
  | publish => True
  | unlock => True
  | _ => False

/-- The scan function has released `g_mtx_abort` for the last time. -/
def ScanPc.AfterHandshake : ScanPc → Prop
  | assignPlaceholder => False
  | startListener => False
  | lockAbort => False
  | testPredicate => False
  | waiting => False
  | unlockAbort => False
  | _ => True

/-- The scan function has returned from `cv.wait`. -/
def ScanPc.PassedWait : ScanPc → Prop
  | unlockAbort => True
  | pc => pc.AfterHandshake

/-- The scan function owns `g_mtx_abort`. -/
def ScanPc.OwnsAbort : ScanPc → Prop
  | testPredicate => True
  | unlockAbort => True
  | _ => False

theorem ScanPc.AfterHandshake.not_ownsAbort {pc : ScanPc} (hafter : pc.AfterHandshake) :
    ¬ pc.OwnsAbort := by
  cases pc with
  | testPredicate => exact False.elim hafter
  | unlockAbort => exact False.elim hafter
  | _ => exact id

theorem ScanPc.AfterHandshake.passedWait {pc : ScanPc} (hafter : pc.AfterHandshake) :
    pc.PassedWait := by
  cases pc with
  | unlockAbort => trivial
  | _ => exact hafter

/-- Between two locks the listener has published its answer. -/
theorem ListenerPc.HasLocked.published {pc : ListenerPc} (hlocked : pc.HasLocked)
    (hfree : ¬ pc.Locked) : pc.Published := by
  cases pc with
  | construct => exact absurd trivial hfree
  | publish => exact absurd trivial hfree
  | _ => exact hlocked

namespace ServerSocket

@[simp] theorem answer_shutdown (server : ServerSocket) (fd : Int) :
    (server.shutdown fd).answer = server.answer := by
  cases server with
  | _ => rfl

@[simp] theorem answer_close (server : ServerSocket) : server.close.answer = server.answer := by
  cases server with
  | _ => rfl

theorem answer_ne_placeholder {server : ServerSocket} {fd : Int}
    (hanswer : server.answer = some fd) : fd ≠ -100 := by
  cases server with
  | notCreated => simp [answer] at hanswer
  | failed =>
      simp only [answer, Option.some.injEq] at hanswer
      omega
  | opened own shut =>
      simp only [answer, Option.some.injEq] at hanswer
      omega
  | closed own =>
      simp only [answer, Option.some.injEq] at hanswer
      omega

end ServerSocket

/-- What the scan function leaves alone once the handshake is over. -/
structure AcquisitionFrame (state next : ScanState) : Prop where
  before : state.scan.AfterHandshake
  after : next.scan.AfterHandshake
  listener : next.listener = state.listener
  gMtxAbort : next.gMtxAbort = state.gMtxAbort
  abortSocketFd : next.abortSocketFd = state.abortSocketFd
  answer : next.server.answer = state.server.answer

theorem exitStep_frame {state next : ScanState} {action : ExitAction}
    {rest : List ExitAction} {ok : Bool} (hafter : state.scan.AfterHandshake)
    (hstep : exitStep state action rest ok = some next) : AcquisitionFrame state next := by
  cases action with
  | getAcquiredData =>
      simp only [exitStep] at hstep
      split at hstep <;> cases hstep <;> exact ⟨hafter, trivial, rfl, rfl, rfl, rfl⟩
  | saveAsFits =>
      simp only [exitStep] at hstep
      split at hstep <;> cases hstep <;> exact ⟨hafter, trivial, rfl, rfl, rfl, rfl⟩
  | shutdown =>
      cases hstep
      exact ⟨hafter, trivial, rfl, rfl, rfl, ServerSocket.answer_shutdown _ _⟩
  | joinReporter =>
      obtain ⟨-, rfl⟩ := stepIf_eq_some.mp hstep
      exact ⟨hafter, trivial, rfl, rfl, rfl, rfl⟩
  | joinAbort =>
      obtain ⟨-, rfl⟩ := stepIf_eq_some.mp hstep
      exact ⟨hafter, trivial, rfl, rfl, rfl, rfl⟩
  | _ =>
      cases hstep
      exact ⟨hafter, trivial, rfl, rfl, rfl, rfl⟩

/-- The scan function takes `g_mtx_abort` only after the listener has. -/
def locksAfterListener (state : ScanState) (event : ThreadEvent) : Prop :=
  event = .scan .lockAbort → state.listener.HasLocked

instance decidableLocksAfterListener (state : ScanState) (event : ThreadEvent) :
    Decidable (locksAfterListener state event) :=
  inferInstanceAs (Decidable (_ → _))

structure HandshakeInv (state : ScanState) : Prop extends ScanInv state where
  listenerOwns : state.listener.Locked → state.gMtxAbort = some .listener
  scanOwns : state.scan.OwnsAbort → state.gMtxAbort = some .scan
  published : state.listener.Published → state.server.answer = some state.abortSocketFd
  passed : state.scan.OwnsAbort ∨ state.scan.PassedWait → state.listener.Published

theorem HandshakeInv.start (abortSocketFd abortSet : Int) (curImgInSeries : Nat) :
    HandshakeInv (scanCalled abortSocketFd abortSet curImgInSeries) where
  toScanInv := ScanInv.start _ _ _
  listenerOwns hlocked := False.elim hlocked
  scanOwns howns := False.elim howns
  published hpublished := False.elim hpublished
  passed hpc := False.elim (hpc.elim id id)

/-- While the scan function owns the mutex, or nobody does, the listener is not between its
lock and its unlock. -/
theorem HandshakeInv.not_locked {state : ScanState} (hinv : HandshakeInv state)
    (howner : state.gMtxAbort ≠ some .listener) : ¬ state.listener.Locked :=
  fun hlocked => howner (hinv.listenerOwns hlocked)

/-- In a state where the listener has not published yet, the scan function is in front of the
test in `cv.wait`. -/
theorem HandshakeInv.not_passed {state : ScanState} (hinv : HandshakeInv state)
    (hpublished : ¬ state.listener.Published) :
    ¬ state.scan.OwnsAbort ∧ ¬ state.scan.PassedWait := by
  constructor
  · intro howns
    exact hpublished (hinv.passed (Or.inl howns))
  · intro hpassed
    exact hpublished (hinv.passed (Or.inr hpassed))

/-- Steps that only touch what lies outside the handshake. -/
theorem HandshakeInv.congr {state next : ScanState} (hinv : HandshakeInv state)
    (hscan : next.scan = state.scan) (hlistener : next.listener = state.listener)
    (hmutex : next.gMtxAbort = state.gMtxAbort)
    (hfd : next.abortSocketFd = state.abortSocketFd)
    (hserver : next.server = state.server) : HandshakeInv next := by
  constructor
  · exact hinv.toScanInv.congr hscan hlistener
  · rw [hlistener, hmutex]
    exact hinv.listenerOwns
  · rw [hscan, hmutex]
    exact hinv.scanOwns
  · rw [hlistener, hserver, hfd]
    exact hinv.published
  · rw [hscan, hlistener]
    exact hinv.passed

/-- Steps that leave the scan function in front of the test in `cv.wait`. -/
theorem HandshakeInv.of_not_passed {next : ScanState} (hscanInv : ScanInv next)
    (howns : ¬ next.scan.OwnsAbort) (hpassed : ¬ next.scan.PassedWait)
    (hmutex : next.listener.Locked → next.gMtxAbort = some .listener)
    (hanswer : next.listener.Published → next.server.answer = some next.abortSocketFd) :
    HandshakeInv next := by
  constructor
  · exact hscanInv
  · exact hmutex
  · intro hscan
    exact absurd hscan howns
  · exact hanswer
  · intro hscan
    exact hscan.elim (fun hscan => absurd hscan howns) (fun hscan => absurd hscan hpassed)

theorem HandshakeInv.of_acquisitionFrame {state next : ScanState} (hinv : HandshakeInv state)
    (hscanInv : ScanInv next) (hframe : AcquisitionFrame state next) : HandshakeInv next := by
  constructor
  · exact hscanInv
  · rw [hframe.listener, hframe.gMtxAbort]
    exact hinv.listenerOwns
  · intro howns
    exact absurd howns hframe.after.not_ownsAbort
  · rw [hframe.listener, hframe.answer, hframe.abortSocketFd]
    exact hinv.published
  · intro _
    rw [hframe.listener]
    exact hinv.passed (Or.inr hframe.before.passedWait)

theorem HandshakeInv.of_scanStep {kind : ScanKind} {state next : ScanState}
    {event : ScanEvent} (hinv : HandshakeInv state)
    (hallowed : locksAfterListener state (.scan event))
    (hstep : scanStep kind state event = some next) : HandshakeInv next := by
  have hcases := scanStep_cases hstep
  have hscanInv := hinv.toScanInv.of_scanStep hcases
  cases hcases with
  | assignPlaceholder hpc =>
      have hlistener := hinv.notStarted (by rw [hpc]; trivial)
      apply HandshakeInv.of_not_passed hscanInv id id hinv.listenerOwns
      intro hpublished
      rw [hlistener] at hpublished
      exact False.elim hpublished
  | startListener hpc =>
      exact HandshakeInv.of_not_passed hscanInv id id (fun hlocked => False.elim hlocked)
        (fun hpublished => False.elim hpublished)
  | lockAbort hfree hpc =>
      -- the listener is past its lock, and nobody holds the mutex
      have hnotLocked : ¬ state.listener.Locked := hinv.not_locked (by rw [hfree]; simp)
      have hpublished := (hallowed rfl).published hnotLocked
      constructor
      · exact hscanInv
      · intro hlocked
        exact absurd hlocked hnotLocked
      · intro _
        rfl
      · exact hinv.published
      · intro _
        exact hpublished
  | passes hfd hpc =>
      have howns : state.scan.OwnsAbort := by rw [hpc]; trivial
      constructor
      · exact hscanInv
      · exact hinv.listenerOwns
      · intro _
        exact hinv.scanOwns howns
      · exact hinv.published
      · intro _
        exact hinv.passed (Or.inl howns)
  | waits hfd hpc =>
      have howner := hinv.scanOwns (by rw [hpc]; trivial)
      apply HandshakeInv.of_not_passed hscanInv id id
      · intro hlocked
        exact absurd hlocked (hinv.not_locked (by rw [howner]; simp))
      · exact hinv.published
  | wakes hpc =>
      exact HandshakeInv.of_not_passed hscanInv id id hinv.listenerOwns hinv.published
  | unlockAbort hpc =>
      have howns : state.scan.OwnsAbort := by rw [hpc]; trivial
      have howner := hinv.scanOwns howns
      constructor
      · exact hscanInv
      · intro hlocked
        exact absurd hlocked (hinv.not_locked (by rw [howner]; simp))
      · intro hafter
        exact False.elim hafter
      · exact hinv.published
      · intro _
        exact hinv.passed (Or.inl howns)
  | exit hexit hpc =>
      exact hinv.of_acquisitionFrame hscanInv (exitStep_frame (by rw [hpc]; trivial) hexit)
  | _ =>
      rename_i hpc
      exact hinv.of_acquisitionFrame hscanInv
        ⟨by rw [hpc]; trivial, trivial, rfl, rfl, rfl, rfl⟩

/-- Steps of a listener that has unlocked the mutex. -/
theorem HandshakeInv.of_listenerFrame {state next : ScanState} (hinv : HandshakeInv state)
    (hscanInv : ScanInv next) (hbefore : state.listener.Published)
    (hafter : next.listener.Published) (hunlocked : ¬ next.listener.Locked)
    (hscan : next.scan = state.scan) (hmutex : next.gMtxAbort = state.gMtxAbort)
    (hfd : next.abortSocketFd = state.abortSocketFd)
    (hanswer : next.server.answer = state.server.answer) : HandshakeInv next := by
  constructor
  · exact hscanInv
  · intro hlocked
    exact absurd hlocked hunlocked
  · rw [hscan, hmutex]
    exact hinv.scanOwns
  · intro _
    rw [hanswer, hfd]
    exact hinv.published hbefore
  · intro _
    exact hafter

theorem HandshakeInv.of_listenerStep {state next : ScanState} {event : ListenerEvent}
    (hinv : HandshakeInv state) (hstep : listenerStep state event = some next) :
    HandshakeInv next := by
  have hcases := listenerStep_cases hstep
  have hscanInv := hinv.toScanInv.of_listenerStep hcases
  cases hcases with
  | clearAbort hpc =>
      obtain ⟨hnotOwns, hnotPassed⟩ := hinv.not_passed (by rw [hpc]; exact id)
      exact HandshakeInv.of_not_passed hscanInv hnotOwns hnotPassed
        (fun hlocked => False.elim hlocked) (fun hpublished => False.elim hpublished)
  | lock hpc hfree =>
      obtain ⟨hnotOwns, hnotPassed⟩ := hinv.not_passed (by rw [hpc]; exact id)
      exact HandshakeInv.of_not_passed hscanInv hnotOwns hnotPassed (fun _ => rfl)
        (fun hpublished => False.elim hpublished)
  | construct fd server hpc hserver =>
      obtain ⟨hnotOwns, hnotPassed⟩ := hinv.not_passed (by rw [hpc]; exact id)
      apply HandshakeInv.of_not_passed hscanInv hnotOwns hnotPassed
      · intro _
        exact hinv.listenerOwns (by rw [hpc]; trivial)
      · intro hpublished
        exact False.elim hpublished
  | publish fd hpc hanswer =>
      constructor
      · exact hscanInv
      · intro _
        exact hinv.listenerOwns (by rw [hpc]; trivial)
      · exact hinv.scanOwns
      · intro _
        exact hanswer
      · intro _
        trivial
  | unlock hpc =>
      have howner := hinv.listenerOwns (by rw [hpc]; trivial)
      constructor
      · exact hscanInv
      · intro hlocked
        exact False.elim hlocked
      · intro howns
        have hscanOwner := hinv.scanOwns howns
        rw [howner] at hscanOwner
        cases hscanOwner
      · intro _
        exact hinv.published (by rw [hpc]; trivial)
      · intro _
        trivial
  | notify hpc =>
      have hpublished := hinv.published (by rw [hpc]; trivial)
      have hafter : (if state.server = .failed then ListenerPc.done else .accept).Published ∧
          ¬ (if state.server = .failed then ListenerPc.done else .accept).Locked := by
        split
        · exact ⟨trivial, id⟩
        · exact ⟨trivial, id⟩
      by_cases hwaiting : state.scan = .waiting
      · constructor
        · exact hscanInv
        · intro hlocked
          exact absurd hlocked hafter.2
        · intro howns
          simp only [hwaiting] at howns
          exact False.elim howns
        · intro _
          exact hpublished
        · intro _
          exact hafter.1
      · exact hinv.of_listenerFrame hscanInv (by rw [hpc]; trivial) hafter.1 hafter.2
          (if_neg hwaiting) rfl rfl rfl
  | accepts fd hpc hserver hclients =>
      exact hinv.of_listenerFrame hscanInv (by rw [hpc]; trivial) trivial id rfl rfl rfl rfl
  | receives hpc | setAbort hpc =>
      exact hinv.of_listenerFrame hscanInv (by rw [hpc]; trivial) trivial id rfl rfl rfl rfl
  | acceptFails hpc | recvFails hpc | cancelWait hpc =>
      exact hinv.of_listenerFrame hscanInv (by rw [hpc]; trivial) trivial id rfl rfl rfl
        (ServerSocket.answer_close _)

/-- Every allowed step of any thread keeps the invariant. -/
theorem HandshakeInv.of_threadStep {kind : ScanKind} {state next : ScanState}
    {event : ThreadEvent} (hinv : HandshakeInv state)
    (hallowed : locksAfterListener state event)
    (hstep : threadStep kind state event = some next) : HandshakeInv next := by
  cases event with
  | scan event => exact hinv.of_scanStep hallowed hstep
  | listener event => exact hinv.of_listenerStep hstep
  | reporter event =>
      obtain ⟨gMtx, reporter, rfl⟩ := reporterStep_cases hstep
      exact hinv.congr rfl rfl rfl rfl rfl
  | client event =>
      obtain ⟨clients, rfl, -⟩ := clientStep_cases hstep
      exact hinv.congr rfl rfl rfl rfl rfl

/-- If the scan function always takes the mutex after the listener has, then behind `cv.wait`
the descriptor is the listener's answer. -/
theorem abortSocketFd_is_answer (kind : ScanKind) (abortSocketFd abortSet : Int)
    (curImgInSeries : Nat) (trace : List ThreadEvent) (final : ScanState)
    (hallowed : Along (threadStep kind) locksAfterListener
      (scanCalled abortSocketFd abortSet curImgInSeries) trace)
    (hrun : run (threadStep kind) (scanCalled abortSocketFd abortSet curImgInSeries) trace =
      some final)
    (hpassed : final.scan.PassedWait) :
    final.server.answer = some final.abortSocketFd ∧ final.abortSocketFd ≠ -100 := by
  have hinv : HandshakeInv final :=
    invariant_of_along (fun state event next hinv hok hstep => hinv.of_threadStep hok hstep)
      (HandshakeInv.start _ _ _) hallowed hrun
  have hanswer := hinv.published (hinv.passed (Or.inr hpassed))
  exact ⟨hanswer, ServerSocket.answer_ne_placeholder hanswer⟩

/-- The order the sleep is there for: the listener publishes descriptor 5 first. -/
def orderlyHandshake : List ThreadEvent :=
  [.scan .assignPlaceholder, .scan .startListener, .listener .clearAbort, .listener .lock,
   .listener (.construct (some 5)), .listener .publish, .listener .unlock, .listener .notify,
   .scan .lockAbort, .scan .testPredicate]

theorem orderlyHandshake_answer :
    ∃ final, run (threadStep .single) (scanCalled 0 0 0) orderlyHandshake = some final ∧
      final.scan.PassedWait ∧
      final.server.answer = some final.abortSocketFd ∧ final.abortSocketFd ≠ -100 :=
  ⟨_, rfl, trivial, abortSocketFd_is_answer .single 0 0 0 orderlyHandshake _
    (by decide +kernel) rfl trivial⟩

/-- The scan function takes the mutex before the listener. -/
def hastyHandshake : List ThreadEvent :=
  [.scan .assignPlaceholder, .scan .startListener, .scan .lockAbort, .scan .testPredicate]

/-- The placeholder is not 0, so it satisfies the predicate of `cv.wait`. -/
theorem hastyHandshake_keeps_placeholder :
    (∃ final, run (getRtaScan 1) (scanCalled 0 0 0) hastyHandshake = some final ∧
      final.scan.PassedWait ∧ final.abortSocketFd = -100 ∧ final.server.answer = none) ∧
    (∃ final, run getSingleScan (scanCalled 0 0 0) hastyHandshake = some final ∧
      final.scan.PassedWait ∧ final.abortSocketFd = -100 ∧ final.server.answer = none) :=
  ⟨⟨_, rfl, trivial, rfl, rfl⟩, ⟨_, rfl, trivial, rfl, rfl⟩⟩

end Andor2k
