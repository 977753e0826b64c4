/-
What a scan function leaves behind when it returns: g_mtx, the threads it has started, the
abort socket and the camera.
-/
import Andor2k.ScanLedger

namespace Andor2k

open Runs

/-- AbortAcquisition was called after the last StartAcquisition. -/
def CameraIdle (calls : List ScanCall) : Prop :=
  ∃ before after, calls = before ++ .abortAcquisition :: after ∧ .startAcquisition ∉ after

theorem CameraIdle.append {calls more : List ScanCall} (hidle : CameraIdle calls)
    (hnone : .startAcquisition ∉ more) : CameraIdle (calls ++ more) := by
  obtain ⟨before, after, rfl, hafter⟩ := hidle
  refine ⟨before, after ++ more, by simp, ?_⟩
  rw [List.mem_append]
  exact not_or.mpr ⟨hafter, hnone⟩

/-- On its way out the scan function still aborts the acquisition, unless it has, or a single
exposure is over. -/
def CameraInv (kind : ScanKind) (current : LoggedScan) : Prop :=
  ∀ rest, current.1.scan.exitRest = some rest →
    .abortAcquisition ∈ rest ∨ CameraIdle current.2 ∨
      (kind = .single ∧ .waitSucceeds ∈ current.2)

/-- Calls of another step leave the camera as it is. -/
theorem CameraInv.congr {kind : ScanKind} {current next : LoggedScan} {more : List ScanCall}
    (hinv : CameraInv kind current) (hrest : next.1.scan.exitRest = current.1.scan.exitRest)
    (hcalls : next.2 = current.2 ++ more) (hnone : .startAcquisition ∉ more) :
    CameraInv kind next := by
  intro rest hpc
  rw [hrest] at hpc
  rw [hcalls]
  rcases hinv rest hpc with habort | hidle | ⟨hkind, hwaited⟩
  · exact Or.inl habort
  · exact Or.inr (Or.inl (hidle.append hnone))
  · exact Or.inr (Or.inr ⟨hkind, List.mem_append_left _ hwaited⟩)

theorem CameraInv.of_exit {kind : ScanKind} {current next : LoggedScan} {action : ExitAction}
    {rest : List ExitAction} {ok : Bool} (hinv : CameraInv kind current)
    (hscan : ScanInv current.1) (hpc : current.1.scan = .leaving (action :: rest))
    (hstep : exitStep current.1 action rest ok = some next.1)
    (hcalls : next.2 = current.2 ++ exitCalls current.1 action) : CameraInv kind next := by
  have hnone : .startAcquisition ∉ exitCalls current.1 action := by
    cases action <;> simp [exitCalls]
  have hends : action.endsPath = true → rest = [] := tail_of_endsPath _ (hscan.planned _ hpc)
  intro later hlater
  rw [hcalls]
  rcases hinv _ (by rw [hpc]; rfl) with habort | hidle | ⟨hkind, hwaited⟩
  · by_cases haction : action = .abortAcquisition
    · rw [haction]
      exact Or.inr (Or.inl ⟨current.2, [], rfl, List.not_mem_nil⟩)
    · have hstill : .abortAcquisition ∈ rest :=
        (List.mem_cons.mp habort).resolve_left fun heq => haction heq.symm
      have hgoesOn : ¬ action.endsPath = true := by
        intro heq
        rw [hends heq] at hstill
        cases hstill
      have hnext : next.1.scan = .leaving rest := by
        cases action with
        | joinReporter | joinAbort =>
            obtain ⟨-, hnext⟩ := stepIf_eq_some.mp hstep
            rw [← hnext]
        | abortAcquisition | unlockMtx | shutdown => rw [← Option.some.inj hstep]
        | getAcquiredData | saveAsFits | returns => exact absurd rfl hgoesOn
      rw [hnext] at hlater
      obtain rfl := Option.some.inj hlater
      exact Or.inl hstill
  · exact Or.inr (Or.inl (hidle.append hnone))
  · exact Or.inr (Or.inr ⟨hkind, List.mem_append_left _ hwaited⟩)

theorem CameraInv.of_scanStep {kind : ScanKind} {current next : LoggedScan}
    {event : ScanEvent} (hinv : CameraInv kind current) (hscan : ScanInv current.1)
    (hstep : scanStep kind current.1 event = some next.1)
    (hcalls : next.2 = current.2 ++ scanCalls current.1 event) : CameraInv kind next := by
  obtain ⟨state, calls⟩ := current
  obtain ⟨after, callsAfter⟩ := next
  obtain rfl : callsAfter = calls ++ scanCalls state event := hcalls
  have hcases : ScanStep kind state event after := scanStep_cases hstep
  cases hcases with
  | exit hexit hpc =>
      apply hinv.of_exit hscan hpc hexit
      rw [scanCalls, hpc]
  | startFails hpc | seriesEnds hkind hmore hpc =>
      intro rest hrest
      obtain rfl := Option.some.inj hrest
      exact Or.inl (by decide)
  | waitFails hpc | pollGivesUp hpc | fetchFails hpc | saveFails hpc =>
      intro rest hrest
      obtain rfl := Option.some.inj hrest
      exact Or.inl (by decide)
  | exposureReady hkind hcancelled hpc =>
      intro rest hrest
      exact Or.inr (Or.inr ⟨hkind, by simp [scanCalls]⟩)
  | _ =>
      intro rest hrest
      cases hrest

instance decidablePublished : ∀ pc : ListenerPc, Decidable pc.Published
  | .notStarted | .clearAbort | .lock | .construct | .publish => isFalse id
  | .unlock | .notify | .accept | .recv | .setAbort | .cancelWait | .done => isTrue trivial

/-- The constructor of the socket is through. -/
def ListenerPc.Constructed (pc : ListenerPc) : Prop := pc = .publish ∨ pc.Published

/-- What the listener will answer. -/
def answerOf : Option Nat → Int
  | some fd => fd
  | none => -1

theorem answerOf_injective {fd other : Option Nat} (heq : answerOf fd = answerOf other) :
    fd = other := by
  cases fd with
  | none =>
      cases other with
      | none => rfl
      | some other =>
          simp only [answerOf] at heq
          omega
  | some fd =>
      cases other with
      | none =>
          simp only [answerOf] at heq
          omega
      | some other =>
          simp only [answerOf] at heq
          exact congrArg some (by omega)

/-- How far the listener is tells what is known of its socket, and whether shutdown can reach
it. -/
structure SocketInv (current : LoggedScan) : Prop where
  published : current.1.listener.Published →
    current.1.server.answer = some current.1.abortSocketFd
  placeholder : ¬ current.1.listener.Published →
    current.1.scan = .assignPlaceholder ∨ current.1.abortSocketFd = -100
  opened : ∀ fd, .openSocket fd ∈ current.2 ↔
    current.1.listener.Constructed ∧ current.1.server.answer = some (answerOf fd)
  notCalled : ¬ current.1.scan.AfterShutdown → ∀ fd, .shutdown fd ∉ current.2

theorem SocketInv.start (abortSocketFd abortSet : Int) (curImgInSeries : Nat) :
    SocketInv (scanCalled abortSocketFd abortSet curImgInSeries, []) where
  published hpublished := False.elim hpublished
  placeholder _ := Or.inl rfl
  opened fd := by simp [scanCalled, ListenerPc.Constructed, ListenerPc.Published]
  notCalled _ := nofun

/-- What a step of the scan function, once the listener is started, does to the socket. -/
structure SocketFrame (state next : ScanState) (calls : List ScanCall) : Prop where
  listener : next.listener = state.listener
  abortSocketFd : next.abortSocketFd = state.abortSocketFd
  answer : next.server.answer = state.server.answer
  unassigned : state.scan ≠ .assignPlaceholder
  stays : state.scan.AfterShutdown → next.scan.AfterShutdown
  enters : next.scan.AfterShutdown → state.scan.AfterShutdown ∨
    .shutdown state.abortSocketFd ∈ calls
  calls : (∀ fd, .openSocket fd ∉ calls) ∧
    ∀ fd, .shutdown fd ∈ calls → fd = state.abortSocketFd ∧ next.scan.AfterShutdown ∧
      ¬ state.scan.AfterShutdown

theorem shutdown_once_exitRests : ∀ path ∈ exitRests,
    path.head? = some .shutdown → .shutdown ∉ path.tail := by
  decide

theorem exitStep_socketFrame {state next : ScanState} {action : ExitAction}
    {rest : List ExitAction} {ok : Bool} (hpc : state.scan = .leaving (action :: rest))
    (hpath : action :: rest ∈ exitRests)
    (hstep : exitStep state action rest ok = some next) :
    SocketFrame state next (exitCalls state action) := by
  have hunassigned : state.scan ≠ .assignPlaceholder := by simp [hpc]
  have hstays : state.scan.AfterShutdown → (ScanPc.leaving rest).AfterShutdown := by
    rw [hpc]
    exact fun hafter hmem => hafter (List.mem_cons_of_mem _ hmem)
  have hexit := exitFrame_of_exitStep hpc hpath hstep
  cases action with
  | shutdown =>
      cases hstep
      refine ⟨rfl, rfl, ServerSocket.answer_shutdown _ _, hunassigned, hstays, fun _ =>
        Or.inr List.mem_cons_self, by simp [exitCalls], ?_⟩
      intro fd hcall
      refine ⟨by simpa [exitCalls] using hcall, shutdown_once_exitRests _ hpath rfl, ?_⟩
      rw [hpc]
      exact fun hafter => hafter List.mem_cons_self
  | joinReporter | joinAbort =>
      have henters := hexit.afterShutdown (by rintro ⟨⟩)
      obtain ⟨-, rfl⟩ := stepIf_eq_some.mp hstep
      exact ⟨rfl, rfl, rfl, hunassigned, hstays, fun hafter => Or.inl (henters hafter), by
        simp [exitCalls], by simp [exitCalls]⟩
  | getAcquiredData | saveAsFits =>
      have henters := hexit.afterShutdown (by rintro ⟨⟩)
      cases ok <;> cases hstep <;>
        exact ⟨rfl, rfl, rfl, hunassigned, fun _ => by
          simp [ScanPc.AfterShutdown, dataFailed, dataFetched], fun hafter =>
          Or.inl (henters hafter), by simp [exitCalls], by simp [exitCalls]⟩
  | returns result =>
      have henters := hexit.afterShutdown (by rintro ⟨⟩)
      cases hstep
      exact ⟨rfl, rfl, rfl, hunassigned, fun _ => trivial, fun hafter =>
        Or.inl (henters hafter), by simp [exitCalls], by simp [exitCalls]⟩
  | abortAcquisition | unlockMtx =>
      have henters := hexit.afterShutdown (by rintro ⟨⟩)
      cases hstep
      exact ⟨rfl, rfl, rfl, hunassigned, hstays, fun hafter => Or.inl (henters hafter), by
        simp [exitCalls], by simp [exitCalls]⟩

/-- Steps in front of the exit paths, or onto one. -/
theorem SocketFrame.of_middle {state next : ScanState} {calls : List ScanCall}
    (hlistener : next.listener = state.listener)
    (hfd : next.abortSocketFd = state.abortSocketFd) (hserver : next.server = state.server)
    (hunassigned : state.scan ≠ .assignPlaceholder) (hbefore : ¬ state.scan.AfterShutdown)
    (hafter : ¬ next.scan.AfterShutdown)
    (hcalls : (∀ fd, .openSocket fd ∉ calls) ∧ ∀ fd, .shutdown fd ∉ calls) :
    SocketFrame state next calls where
  listener := hlistener
  abortSocketFd := hfd
  answer := by rw [hserver]
  unassigned := hunassigned
  stays hpc := absurd hpc hbefore
  enters hpc := absurd hpc hafter
  calls := ⟨hcalls.1, fun fd hcall => absurd hcall (hcalls.2 fd)⟩

theorem scanStep_socketFrame {kind : ScanKind} {state next : ScanState} {event : ScanEvent}
    (hinv : ScanInv state) (hstarted : ¬ state.scan.BeforeListener)
    (hstep : ScanStep kind state event next) :
    SocketFrame state next (scanCalls state event) := by
  have hunassigned : state.scan ≠ .assignPlaceholder := by
    intro hpc
    rw [hpc] at hstarted
    exact hstarted trivial
  cases hstep with
  | assignPlaceholder hpc => exact absurd hpc hunassigned
  | startListener hpc =>
      rw [hpc] at hstarted
      exact absurd trivial hstarted
  | exit hexit hpc =>
      simp only [scanCalls, hpc]
      exact exitStep_socketFrame hpc (hinv.planned _ hpc) hexit
  | startFails hpc | seriesEnds hkind hmore hpc | exposureReady hkind hcancelled hpc =>
      exact .of_middle rfl rfl rfl hunassigned (by rw [hpc]; exact id)
        (ScanPc.not_afterShutdown (by decide)) (by simp [scanCalls])
  | waitFails hpc | pollGivesUp hpc | fetchFails hpc | saveFails hpc =>
      exact .of_middle rfl rfl rfl hunassigned (by rw [hpc]; exact id)
        (ScanPc.not_afterShutdown (by decide)) (by simp [scanCalls])
  | _ =>
      rename_i hpc
      exact .of_middle rfl rfl rfl hunassigned (by rw [hpc]; exact id) id (by simp [scanCalls])

theorem SocketInv.of_frame {current next : LoggedScan} {calls : List ScanCall}
    (hinv : SocketInv current) (hframe : SocketFrame current.1 next.1 calls)
    (hcalls : next.2 = current.2 ++ calls) : SocketInv next := by
  constructor
  · rw [hframe.listener, hframe.answer, hframe.abortSocketFd]
    exact hinv.published
  · rw [hframe.listener, hframe.abortSocketFd]
    intro hunpublished
    exact Or.inr ((hinv.placeholder hunpublished).resolve_left hframe.unassigned)
  · intro fd
    rw [hcalls, List.mem_append, or_iff_left (hframe.calls.1 fd), hframe.listener,
      hframe.answer]
    exact hinv.opened fd
  · intro hnotAfter fd hcall
    rw [hcalls, List.mem_append] at hcall
    rcases hcall with hold | hnew
    · exact hinv.notCalled (fun hafter => hnotAfter (hframe.stays hafter)) fd hold
    · exact hnotAfter (hframe.calls.2 fd hnew).2.1

theorem SocketInv.of_scanStep {kind : ScanKind} {current next : LoggedScan}
    {event : ScanEvent} (hinv : SocketInv current) (hscan : ScanInv current.1)
    (hstep : scanStep kind current.1 event = some next.1)
    (hcalls : next.2 = current.2 ++ scanCalls current.1 event) : SocketInv next := by
  by_cases hbefore : current.1.scan.BeforeListener
  · have hlistener := hscan.notStarted hbefore
    have hunpublished : ¬ current.1.listener.Published := by
      rw [hlistener]
      exact id
    have hunopened : ∀ fd, .openSocket fd ∉ current.2 := by
      intro fd hopen
      rcases ((hinv.opened fd).mp hopen).1 with hpc | hpublished
      · rw [hlistener] at hpc
        cases hpc
      · exact hunpublished hpublished
    have huncalled : ∀ fd, .shutdown fd ∉ current.2 := by
      apply hinv.notCalled
      intro hafter
      cases hpc : current.1.scan with
      | leaving rest | returned result =>
          rw [hpc] at hbefore
          exact hbefore
      | _ =>
          rw [hpc] at hafter
          exact hafter
    obtain ⟨state, calls⟩ := current
    obtain ⟨after, callsAfter⟩ := next
    obtain rfl : callsAfter = calls ++ scanCalls state event := hcalls
    have hcases : ScanStep kind state event after := scanStep_cases hstep
    cases hcases with
    | assignPlaceholder hpc =>
        refine ⟨fun hpublished => absurd hpublished hunpublished, fun _ => Or.inr rfl, ?_, ?_⟩
        · intro fd
          simpa [scanCalls] using hinv.opened fd
        · intro _ fd
          simpa [scanCalls] using huncalled fd
    | startListener hpc =>
        have hplaceholder := (hinv.placeholder hunpublished).resolve_left (by simp [hpc])
        refine ⟨fun hpublished => False.elim hpublished, fun _ => Or.inr hplaceholder, ?_, ?_⟩
        · intro fd
          simpa [scanCalls, ListenerPc.Constructed, ListenerPc.Published] using hunopened fd
        · intro _ fd
          simpa [scanCalls] using huncalled fd
    | exit hexit hpc =>
        have hmiddle : state.scan.BeforeListener := hbefore
        rw [hpc] at hmiddle
        exact False.elim hmiddle
    | _ =>
        rename_i hpc
        have hmiddle : state.scan.BeforeListener := hbefore
        rw [hpc] at hmiddle
        exact False.elim hmiddle
  · exact hinv.of_frame (scanStep_socketFrame hscan hbefore (scanStep_cases hstep)) hcalls

/-- The constructor of the socket makes its answer. -/
theorem SocketInv.of_construct {current next : LoggedScan} {fd : Option Nat}
    (hinv : SocketInv current)
    (hstep : listenerStep current.1 (.construct fd) = some next.1)
    (hcalls : next.2 = current.2 ++ [.openSocket fd]) : SocketInv next := by
  obtain ⟨hpc, hnext⟩ := stepIf_eq_some.mp hstep
  have hunopened : ∀ fd, .openSocket fd ∉ current.2 := by
    intro fd hopen
    rcases ((hinv.opened fd).mp hopen).1 with hpublish | hpublished
    · rw [hpc] at hpublish
      cases hpublish
    · rw [hpc] at hpublished
      exact hpublished
  have hanswer : next.1.server.answer = some (answerOf fd) := by
    rw [← hnext]
    cases fd with
    | none => rfl
    | some fd => rfl
  have hlistener : next.1.listener = .publish := by rw [← hnext]
  constructor
  · rw [hlistener]
    exact False.elim
  · intro _
    rw [← hnext]
    apply hinv.placeholder
    rw [hpc]
    exact id
  · intro other
    rw [hcalls, List.mem_append, or_iff_right (hunopened other), hanswer, hlistener,
      List.mem_singleton]
    constructor
    · intro heq
      rw [ScanCall.openSocket.inj heq]
      exact ⟨Or.inl rfl, rfl⟩
    · rintro ⟨-, heq⟩
      rw [answerOf_injective (Option.some.inj heq)]
  · intro hnotAfter other hcall
    rw [hcalls, List.mem_append, or_iff_left (by simp)] at hcall
    refine hinv.notCalled ?_ other hcall
    rw [← hnext] at hnotAfter
    exact hnotAfter

/-- A step of the listener that is not the constructor: it goes forward, and publishes or has
published. -/
structure ListenerFrame (state next : ScanState) : Prop where
  answer : next.server.answer = state.server.answer
  constructed : next.listener.Constructed ↔ state.listener.Constructed
  stays : state.listener.Published → next.listener.Published
  published : next.listener.Published →
    (state.listener.Published ∧ next.abortSocketFd = state.abortSocketFd) ∨
      state.server.answer = some next.abortSocketFd
  unpublished : ¬ next.listener.Published → next.abortSocketFd = state.abortSocketFd
  scan : next.scan = state.scan ∨ (state.scan = .waiting ∧ next.scan = .lockAbort)

theorem listenerStep_frame {state next : ScanState} {event : ListenerEvent}
    (hstep : ListenerStep state event next) (hconstruct : ∀ fd, event ≠ .construct fd) :
    ListenerFrame state next := by
  have hscan := hstep.scan.2
  cases hstep with
  | construct fd server hpc hserver => exact absurd rfl (hconstruct fd)
  | clearAbort hpc =>
      exact ⟨rfl, by simp [ListenerPc.Constructed, ListenerPc.Published, hpc], by simp [hpc,
        ListenerPc.Published], False.elim, fun _ => rfl, hscan⟩
  | lock hpc hfree =>
      exact ⟨rfl, by simp [ListenerPc.Constructed, ListenerPc.Published, hpc], by simp [hpc,
        ListenerPc.Published], False.elim, fun _ => rfl, hscan⟩
  | publish fd hpc hanswer =>
      exact ⟨rfl, by simp [ListenerPc.Constructed, ListenerPc.Published, hpc], fun _ => trivial,
        fun _ => Or.inr hanswer, fun hnot => absurd trivial hnot, hscan⟩
  | notify hpc =>
      have hpublished : state.listener.Published := by
        rw [hpc]
        trivial
      have hafter : (if state.server = .failed then ListenerPc.done else .accept).Published := by
        split <;> trivial
      exact ⟨rfl, iff_of_true (Or.inr hafter) (Or.inr hpublished), fun _ => hafter,
        fun _ => Or.inl ⟨hpublished, rfl⟩, fun hnot => absurd hafter hnot, hscan⟩
  | unlock hpc | acceptFails hpc | receives hpc | recvFails hpc | setAbort hpc | cancelWait hpc =>
      have hpublished : state.listener.Published := by
        rw [hpc]
        trivial
      exact ⟨by simp [ScanState.listenerReturns], iff_of_true (Or.inr trivial)
        (Or.inr hpublished), fun _ => trivial, fun _ => Or.inl ⟨hpublished, rfl⟩,
        fun hnot => absurd trivial hnot, hscan⟩
  | accepts fd hpc hserver hclients =>
      have hpublished : state.listener.Published := by
        rw [hpc]
        trivial
      exact ⟨rfl, iff_of_true (Or.inr trivial) (Or.inr hpublished), fun _ => trivial,
        fun _ => Or.inl ⟨hpublished, rfl⟩, fun hnot => absurd trivial hnot, hscan⟩

theorem SocketInv.of_listenerFrame {current next : LoggedScan} (hinv : SocketInv current)
    (hframe : ListenerFrame current.1 next.1) (hcalls : next.2 = current.2) :
    SocketInv next := by
  constructor
  · intro hpublished
    rw [hframe.answer]
    rcases hframe.published hpublished with ⟨hbefore, hfd⟩ | hanswer
    · rw [hfd]
      exact hinv.published hbefore
    · exact hanswer
  · intro hunpublished
    rw [hframe.unpublished hunpublished]
    rcases hinv.placeholder (fun hpublished => hunpublished (hframe.stays hpublished)) with
      hpc | hfd
    · rcases hframe.scan with hsame | ⟨hwaiting, -⟩
      · exact Or.inl (hsame.trans hpc)
      · rw [hpc] at hwaiting
        cases hwaiting
    · exact Or.inr hfd
  · intro fd
    rw [hcalls, hframe.constructed, hframe.answer]
    exact hinv.opened fd
  · rw [hcalls]
    rcases hframe.scan with hsame | ⟨hwaiting, hwoken⟩
    · rw [hsame]
      exact hinv.notCalled
    · intro _
      apply hinv.notCalled
      rw [hwaiting]
      exact id

/-- Steps of the reporter and of the clients. -/
theorem SocketInv.congr {current next : LoggedScan} {more : List ScanCall}
    (hinv : SocketInv current) (hscan : next.1.scan = current.1.scan)
    (hlistener : next.1.listener = current.1.listener)
    (hserver : next.1.server = current.1.server)
    (hfd : next.1.abortSocketFd = current.1.abortSocketFd)
    (hcalls : next.2 = current.2 ++ more)
    (hnone : ∀ call ∈ more, call = .lockMtx ∨ call = .unlockMtx) : SocketInv next := by
  constructor
  · rw [hlistener, hserver, hfd]
    exact hinv.published
  · rw [hlistener, hscan, hfd]
    exact hinv.placeholder
  · intro fd
    have hnot : .openSocket fd ∉ more := fun hmem => by simpa using hnone _ hmem
    rw [hcalls, List.mem_append, or_iff_left hnot, hlistener, hserver]
    exact hinv.opened fd
  · intro hnotAfter fd
    have hnot : .shutdown fd ∉ more := fun hmem => by simpa using hnone _ hmem
    rw [hscan] at hnotAfter
    rw [hcalls, List.mem_append, or_iff_left hnot]
    exact hinv.notCalled hnotAfter fd

theorem SocketInv.of_listenerStep {current next : LoggedScan} {event : ListenerEvent}
    (hinv : SocketInv current) (hstep : listenerStep current.1 event = some next.1)
    (hcalls : next.2 = current.2 ++ listenerCalls event) : SocketInv next := by
  cases event with
  | construct fd => exact hinv.of_construct hstep hcalls
  | _ =>
      apply hinv.of_listenerFrame
      · exact listenerStep_frame (listenerStep_cases hstep) nofun
      · exact hcalls.trans (List.append_nil _)

/-- What holds in every state of a scan and its log. -/
structure ExitInv (kind : ScanKind) (current : LoggedScan) : Prop where
  threads : ThreadsInv current
  mtx : MtxInv current
  camera : CameraInv kind current
  socket : SocketInv current

theorem ExitInv.start (kind : ScanKind) (abortSocketFd abortSet : Int) (curImgInSeries : Nat) :
    ExitInv kind (scanCalled abortSocketFd abortSet curImgInSeries, []) where
  threads := ThreadsInv.start _ _ _
  mtx := MtxInv.start _ _ _
  camera _ hrest := by cases hrest
  socket := SocketInv.start _ _ _

theorem ExitInv.of_step {kind : ScanKind} {current next : LoggedScan} {event : ThreadEvent}
    (hinv : ExitInv kind current) (hstep : loggedScan kind current event = some next) :
    ExitInv kind next := by
  obtain ⟨hthreads, hmtx⟩ := threads_and_mtx_of_step hinv.threads hinv.mtx hstep
  have hscan := hinv.threads.toScanInv
  obtain ⟨hstate, hcalls⟩ := logged_eq_some.mp hstep
  cases event with
  | scan event =>
      exact ⟨hthreads, hmtx, hinv.camera.of_scanStep hscan hstate hcalls,
        hinv.socket.of_scanStep hscan hstate hcalls⟩
  | listener event =>
      refine ⟨hthreads, hmtx, ?_, hinv.socket.of_listenerStep hstate hcalls⟩
      have hcases := listenerStep_cases hstate
      apply hinv.camera.congr (listenerStep_ahead hcases).2.2.2 hcalls
      rw [callsOf, ← List.count_eq_zero]
      exact count_listenerCalls hcases .startAcquisition (by rintro _ ⟨⟩)
  | reporter event =>
      obtain ⟨gMtx, reporter, hnext⟩ := reporterStep_cases hstate
      refine ⟨hthreads, hmtx, ?_, ?_⟩
      · apply hinv.camera.congr (by rw [hnext]) hcalls
        exact fun hcall => by simpa using mem_reporterCalls hcall
      · apply hinv.socket.congr (by rw [hnext]) (by rw [hnext]) (by rw [hnext]) (by rw [hnext])
          hcalls
        exact fun call hcall => mem_reporterCalls hcall
  | client event =>
      obtain ⟨clients, hnext, -⟩ := clientStep_cases hstate
      refine ⟨hthreads, hmtx, ?_, ?_⟩
      · exact hinv.camera.congr (by rw [hnext]) hcalls List.not_mem_nil
      · exact hinv.socket.congr (by rw [hnext]) (by rw [hnext]) (by rw [hnext]) (by rw [hnext])
          hcalls (List.forall_mem_nil _)

/-- What is asked of a scan function that returns. -/
structure EndsClean (kind : ScanKind) (final : LoggedScan) : Prop where
  unlocked : final.1.gMtx = none
  balanced : final.2.count .lockMtx = final.2.count .unlockMtx
  joined : ∀ thread, final.2.count (.startThread thread) ≤ 1 ∧
    final.2.count (.joinThread thread) = final.2.count (.startThread thread)
  shutdown : ∀ fd : Nat, .openSocket (some fd) ∈ final.2 → .shutdown fd ∈ final.2
  idle : CameraIdle final.2 ∨ (kind = .single ∧ .waitSucceeds ∈ final.2)

/-- When shutdown is called, the listener has published its answer. -/
def publishedAtShutdown (current : LoggedScan) (event : ThreadEvent) : Prop :=
  isShutdown current.1 event = true → current.1.listener.Published

instance decidablePublishedAtShutdown (current : LoggedScan) (event : ThreadEvent) :
    Decidable (publishedAtShutdown current event) :=
  inferInstanceAs (Decidable (_ → _))

variable {kind : ScanKind} {abortSocketFd abortSet : Int} {curImgInSeries : Nat}
  {trace : List ThreadEvent} {final : LoggedScan} {result : Int}

theorem exitInv_of_run
    (hrun : run (loggedScan kind) (scanCalled abortSocketFd abortSet curImgInSeries, []) trace =
      some final) : ExitInv kind final :=
  invariant_of_reachable (fun _ _ _ hinv hstep => hinv.of_step hstep)
    (ExitInv.start kind _ _ _) ⟨trace, hrun⟩

/-- On return the listener is through. -/
theorem ExitInv.listener_done (hinv : ExitInv kind final)
    (hreturned : final.1.scan = .returned result) : final.1.listener = .done := by
  have hrests := hinv.threads.listenerRests (by rw [hreturned]; exact List.not_mem_nil)
  rw [hreturned] at hrests
  exact hrests.resolve_left id

/-- Whatever the threads and the calls do: a scan function that returns has released the mutex,
joined its threads and left the camera idle. -/
theorem ExitInv.balanced (hinv : ExitInv kind final)
    (hreturned : final.1.scan = .returned result) :
    final.1.gMtx = none ∧ final.2.count .lockMtx = final.2.count .unlockMtx ∧
      (∀ thread, final.2.count (.startThread thread) ≤ 1 ∧
        final.2.count (.joinThread thread) = final.2.count (.startThread thread)) ∧
      (CameraIdle final.2 ∨ (kind = .single ∧ .waitSucceeds ∈ final.2)) := by
  have hfree : final.1.gMtx = none := by
    apply hinv.mtx.free
    · rw [hreturned]
      rfl
    · rcases hinv.threads.reporterRests (by rw [hreturned]; exact List.not_mem_nil) with
        hpc | hpc
      · simp [hpc]
      · simp [hpc]
  refine ⟨hfree, ?_, ?_, ?_⟩
  · have hunlocked := hinv.mtx.unlocked
    rw [if_pos hfree] at hunlocked
    exact hunlocked
  · intro thread
    have honce := hinv.threads.startedOnce thread
    have hjoined := hinv.threads.joined thread
    rw [hreturned] at honce hjoined
    exact ⟨by omega, hjoined.symm⟩
  · have hcamera := hinv.camera [] (by rw [hreturned]; rfl)
    exact hcamera.resolve_left List.not_mem_nil

theorem isShutdown_of_mem {state : ScanState} {event : ScanEvent} {fd : Int}
    (hcall : .shutdown fd ∈ scanCalls state event) : isShutdown state (.scan event) = true := by
  cases event with
  | exit ok =>
      cases hpc : state.scan with
      | leaving rest =>
          cases rest with
          | nil => simp [scanCalls, hpc] at hcall
          | cons action rest =>
              cases action with
              | shutdown => simp [isShutdown, hpc]
              | _ => simp [scanCalls, hpc, exitCalls] at hcall
      | _ => simp [scanCalls, hpc] at hcall
  | waitReturns ok => cases ok <;> simp [scanCalls] at hcall
  | _ => simp [scanCalls] at hcall

/-- In front of the listener's start no step leads behind shutdown. -/
theorem not_afterShutdown_of_before {state next : ScanState} {event : ScanEvent}
    (hbefore : state.scan.BeforeListener) (hstep : ScanStep kind state event next) :
    ¬ next.scan.AfterShutdown := by
  cases hstep with
  | assignPlaceholder hpc => exact id
  | startListener hpc => exact id
  | exit hexit hpc =>
      rw [hpc] at hbefore
      exact False.elim hbefore
  | _ =>
      rename_i hpc
      rw [hpc] at hbefore
      exact False.elim hbefore

/-- Behind shutdown the listener wakes nobody. -/
theorem afterShutdown_of_listenerStep {state next : ScanState} {event : ListenerEvent}
    (hstep : ListenerStep state event next) :
    next.scan.AfterShutdown ↔ state.scan.AfterShutdown := by
  rcases hstep.scan.2 with hsame | ⟨hwaiting, hwoken⟩
  · rw [hsame]
  · rw [hwaiting, hwoken]
    exact Iff.rfl

/-- The listener's answer has been shut down. -/
def ShutInv (current : LoggedScan) : Prop :=
  current.1.scan.AfterShutdown → current.1.listener.Published ∧
    .shutdown current.1.abortSocketFd ∈ current.2

theorem ShutInv.of_step {current next : LoggedScan} {event : ThreadEvent}
    (hexit : ExitInv kind current) (hinv : ShutInv current)
    (hallowed : publishedAtShutdown current event)
    (hstep : loggedScan kind current event = some next) : ShutInv next := by
  obtain ⟨hstate, hcalls⟩ := logged_eq_some.mp hstep
  intro hafter
  rw [hcalls, List.mem_append]
  cases event with
  | scan event =>
      have hcases := scanStep_cases hstate
      by_cases hbefore : current.1.scan.BeforeListener
      · exact absurd hafter (not_afterShutdown_of_before hbefore hcases)
      · have hframe := scanStep_socketFrame hexit.threads.toScanInv hbefore hcases
        rw [hframe.listener, hframe.abortSocketFd]
        rcases hframe.enters hafter with hearlier | hcall
        · exact ⟨(hinv hearlier).1, Or.inl (hinv hearlier).2⟩
        · exact ⟨hallowed (isShutdown_of_mem hcall), Or.inr hcall⟩
  | listener event =>
      have hcases := listenerStep_cases hstate
      obtain ⟨hpublished, hcall⟩ := hinv ((afterShutdown_of_listenerStep hcases).mp hafter)
      have hframe : ListenerFrame current.1 next.1 := by
        apply listenerStep_frame hcases
        rintro fd rfl
        rw [(stepIf_eq_some.mp hstate).1] at hpublished
        exact hpublished
      refine ⟨hframe.stays hpublished, Or.inl ?_⟩
      rcases hframe.published (hframe.stays hpublished) with ⟨-, hfd⟩ | hanswer
      · rw [hfd]
        exact hcall
      · rw [hexit.socket.published hpublished] at hanswer
        rw [← Option.some.inj hanswer]
        exact hcall
  | reporter event =>
      obtain ⟨gMtx, reporter, hnext⟩ := reporterStep_cases hstate
      rw [hnext] at hafter ⊢
      exact ⟨(hinv hafter).1, Or.inl (hinv hafter).2⟩
  | client event =>
      obtain ⟨clients, hnext, -⟩ := clientStep_cases hstate
      rw [hnext] at hafter ⊢
      exact ⟨(hinv hafter).1, Or.inl (hinv hafter).2⟩

/-- Shutdown was called for the placeholder, and will not be called again. -/
def MissedShutdown (current : LoggedScan) : Prop :=
  current.1.scan.AfterShutdown ∧ ∀ fd, .shutdown fd ∈ current.2 → fd = -100

theorem MissedShutdown.of_step {current next : LoggedScan} {event : ThreadEvent}
    (hscan : ScanInv current.1) (hmissed : MissedShutdown current)
    (hstep : loggedScan kind current event = some next) : MissedShutdown next := by
  obtain ⟨hafter, hcalled⟩ := hmissed
  obtain ⟨hstate, hcalls⟩ := logged_eq_some.mp hstep
  have hnew : next.1.scan.AfterShutdown ∧ ∀ fd, .shutdown fd ∉ callsOf current.1 event := by
    cases event with
    | scan event =>
        have hstarted : ¬ current.1.scan.BeforeListener := by
          intro hbefore
          cases hpc : current.1.scan with
          | leaving rest | returned result =>
              rw [hpc] at hbefore
              exact hbefore
          | _ =>
              rw [hpc] at hafter
              exact hafter
        have hframe := scanStep_socketFrame hscan hstarted (scanStep_cases hstate)
        exact ⟨hframe.stays hafter, fun fd hcall => (hframe.calls.2 fd hcall).2.2 hafter⟩
    | listener event =>
        have hcases := listenerStep_cases hstate
        refine ⟨(afterShutdown_of_listenerStep hcases).mpr hafter, fun fd hcall => ?_⟩
        obtain ⟨opened, heq⟩ := (listenerStep_effect hcases).2.2.2 _ hcall
        cases heq
    | reporter event =>
        obtain ⟨gMtx, reporter, hnext⟩ := reporterStep_cases hstate
        refine ⟨by rw [hnext]; exact hafter, fun fd hcall => ?_⟩
        simpa using mem_reporterCalls hcall
    | client event =>
        obtain ⟨clients, hnext, -⟩ := clientStep_cases hstate
        exact ⟨by rw [hnext]; exact hafter, nofun⟩
  refine ⟨hnew.1, fun fd hcall => ?_⟩
  rw [hcalls, List.mem_append] at hcall
  exact hcalled fd (hcall.resolve_right (hnew.2 fd))

theorem isShutdown_iff {state : ScanState} {event : ThreadEvent} :
    isShutdown state event = true ↔
      ∃ rest ok, state.scan = .leaving (.shutdown :: rest) ∧ event = .scan (.exit ok) := by
  constructor
  · intro hshutdown
    unfold isShutdown at hshutdown
    split at hshutdown
    · rename_i rest ok hpc
      exact ⟨rest, ok, hpc, rfl⟩
    · cases hshutdown
  · rintro ⟨rest, ok, hpc, rfl⟩
    simp [isShutdown, hpc]

theorem MissedShutdown.of_run {current : LoggedScan} (hexit : ExitInv kind current)
    (hmissed : MissedShutdown current)
    (hrun : run (loggedScan kind) current trace = some final) : MissedShutdown final := by
  have hkept : ∀ state event next, ExitInv kind state ∧ MissedShutdown state →
      loggedScan kind state event = some next → ExitInv kind next ∧ MissedShutdown next := by
    rintro state event next ⟨hexit, hmissed⟩ hstep
    exact ⟨hexit.of_step hstep, hmissed.of_step hexit.threads.toScanInv hstep⟩
  exact (invariant_of_reachable hkept ⟨hexit, hmissed⟩ ⟨trace, hrun⟩).2

/-- A shutdown in front of the listener's answer misses the socket. -/
theorem missedShutdown_of_early {current next : LoggedScan} {event : ThreadEvent}
    (hexit : ExitInv kind current) (hshutdown : isShutdown current.1 event = true)
    (hunpublished : ¬ current.1.listener.Published)
    (hstep : loggedScan kind current event = some next) : MissedShutdown next := by
  obtain ⟨hstate, hcalls⟩ := logged_eq_some.mp hstep
  obtain ⟨rest, ok, hpc, rfl⟩ := isShutdown_iff.mp hshutdown
  have hscanStep : scanStep kind current.1 (.exit ok) = some next.1 := hstate
  have hplaceholder : current.1.abortSocketFd = -100 :=
    (hexit.socket.placeholder hunpublished).resolve_left (by rw [hpc]; nofun)
  have hframe := scanStep_socketFrame hexit.threads.toScanInv (by rw [hpc]; exact id)
    (scanStep_cases hscanStep)
  have hcall : .shutdown (-100) ∈ scanCalls current.1 (.exit ok) := by
    simp [scanCalls, hpc, exitCalls, hplaceholder]
  obtain ⟨-, hafter, hbefore⟩ := hframe.calls.2 _ hcall
  refine ⟨hafter, fun fd hfd => ?_⟩
  rw [hcalls, List.mem_append] at hfd
  rcases hfd with hold | hnew
  · exact absurd hold (hexit.socket.notCalled hbefore fd)
  · rw [(hframe.calls.2 fd hnew).1]
    exact hplaceholder

/-- Only the constructor that throws logs a socket without a descriptor. -/
theorem failedSocket_mem_callsOf (state : ScanState) (event : ThreadEvent) :
    .openSocket none ∈ callsOf state event ↔ event = .listener (.construct none) := by
  cases event with
  | scan event =>
      refine iff_of_false ?_ (by rintro ⟨⟩)
      cases event with
      | exit ok =>
          simp only [callsOf, scanCalls]
          split
          · rename_i action rest hpc
            cases action <;> simp [exitCalls]
          · exact List.not_mem_nil
      | waitReturns ok => cases ok <;> simp [callsOf, scanCalls]
      | _ => simp [callsOf, scanCalls]
  | listener event =>
      cases event with
      | construct fd => simp [callsOf, listenerCalls, eq_comm]
      | _ => simp [callsOf, listenerCalls]
  | reporter event =>
      refine iff_of_false (fun hcall => ?_) (by rintro ⟨⟩)
      simpa using mem_reporterCalls hcall
  | client event => simp [callsOf]

/-- On return a descriptor was opened, unless the socket could not be created. -/
theorem ExitInv.opened_or_failed (hinv : ExitInv kind final)
    (hreturned : final.1.scan = .returned result) :
    .openSocket none ∈ final.2 ∨ ∃ fd : Nat, .openSocket (some fd) ∈ final.2 := by
  have hpublished : final.1.listener.Published := by
    rw [hinv.listener_done hreturned]
    trivial
  have hanswer := hinv.socket.published hpublished
  have hopened : ∀ fd, final.1.server.answer = some (answerOf fd) → .openSocket fd ∈ final.2 :=
    fun fd hfd => (hinv.socket.opened fd).mpr ⟨Or.inr hpublished, hfd⟩
  cases hserver : final.1.server with
  | notCreated =>
      rw [hserver] at hanswer
      cases hanswer
  | failed => exact Or.inl (hopened none (by rw [hserver]; rfl))
  | opened fd shut => exact Or.inr ⟨fd, hopened (some fd) (by rw [hserver]; rfl)⟩
  | closed fd => exact Or.inr ⟨fd, hopened (some fd) (by rw [hserver]; rfl)⟩

/-- A scan function that returns has cleaned up behind itself exactly if it called shutdown
after the listener had published its descriptor, or there was no socket to shut down. -/
theorem endsClean_iff
    (hrun : run (loggedScan kind) (scanCalled abortSocketFd abortSet curImgInSeries, []) trace =
      some final)
    (hreturned : final.1.scan = .returned result) :
    EndsClean kind final ↔
      Along (loggedScan kind) publishedAtShutdown
          (scanCalled abortSocketFd abortSet curImgInSeries, []) trace ∨
        .listener (.construct none) ∈ trace := by
  have hinv := exitInv_of_run hrun
  obtain ⟨hfree, hbalanced, hjoined, hidle⟩ := hinv.balanced hreturned
  have hfailed : .openSocket none ∈ final.2 ↔ .listener (.construct none) ∈ trace := by
    rw [mem_log_iff failedSocket_mem_callsOf hrun]
    exact or_iff_right List.not_mem_nil
  constructor
  · intro hclean
    rcases hinv.opened_or_failed hreturned with hnone | ⟨fd, hopen⟩
    · exact Or.inr (hfailed.mp hnone)
    · apply Or.inl
      apply along_of_split _ hrun
      intro before event after mid _ hbefore hafter hshutdown
      by_contra hunpublished
      obtain ⟨next, hnext, hrest⟩ := run_cons_eq_some.mp hafter
      have hmid : ExitInv kind mid := exitInv_of_run hbefore
      have hmissed := (missedShutdown_of_early hmid hshutdown hunpublished hnext).of_run
        (hmid.of_step hnext) hrest
      have hplaceholder := hmissed.2 fd (hclean.shutdown fd hopen)
      omega
  · intro hcondition
    refine ⟨hfree, hbalanced, hjoined, ?_, hidle⟩
    intro fd hopen
    have hanswer := ((hinv.socket.opened (some fd)).mp hopen).2
    rcases hcondition with halong | hnone
    · have hkept : ∀ current event next, ExitInv kind current ∧ ShutInv current →
          publishedAtShutdown current event → loggedScan kind current event = some next →
          ExitInv kind next ∧ ShutInv next := by
        rintro current event next ⟨hexit, hshut⟩ hallowed hstep
        exact ⟨hexit.of_step hstep, hshut.of_step hexit hallowed hstep⟩
      have hboth := invariant_of_along hkept ⟨ExitInv.start kind _ _ _, False.elim⟩ halong hrun
      obtain ⟨hpublished, hcall⟩ := hboth.2 (by rw [hreturned]; trivial)
      rw [hinv.socket.published hpublished] at hanswer
      rw [← show final.1.abortSocketFd = fd from Option.some.inj hanswer]
      exact hcall
    · -- one socket has one answer
      have hother := ((hinv.socket.opened none).mp (hfailed.mpr hnone)).2
      have hsame : some fd = none :=
        answerOf_injective (Option.some.inj (hanswer.symm.trans hother))
      cases hsame

/-- The start of the camera fails after an orderly handshake, and the listener leaves accept. -/
def returnedFailedStart : List ThreadEvent :=
  failedStartRun ++ [.listener (.accept false), .scan (.exit true), .scan (.exit true)]

theorem returnedFailedStart_ends_clean :
    ∃ final, run (loggedScan .single) (scanCalled 0 0 0, []) returnedFailedStart = some final ∧
      final.1.scan = .returned 1 ∧
      (EndsClean .single final ↔
        Along (loggedScan .single) publishedAtShutdown (scanCalled 0 0 0, [])
            returnedFailedStart ∨
          .listener (.construct none) ∈ returnedFailedStart) :=
  ⟨_, rfl, rfl, endsClean_iff rfl rfl⟩

/-- The scan function is past its shutdown when the listener creates its socket; a client ends
the listener after all. -/
def lateListener : List ThreadEvent :=
  hastyHandshake ++
    [.scan .unlockAbort, .scan (.startAcquisition false), .scan (.exit true),
     .scan (.exit true), .listener .clearAbort, .listener .lock, .listener (.construct (some 5)),
     .listener .publish, .listener .unlock, .listener .notify, .client .connect,
     .listener (.accept true), .client (.send 0), .listener (.recv true), .listener .setAbort,
     .listener .cancelWait, .scan (.exit true), .scan (.exit true)]

theorem not_endsClean_of_unshut (fd : Nat) (hopen : .openSocket (some fd) ∈ final.2)
    (hnot : .shutdown fd ∉ final.2) : ¬ EndsClean kind final :=
  fun hclean => hnot (hclean.shutdown fd hopen)

/-- Both scan functions then return without a shutdown of descriptor 5. -/
theorem lateListener_not_shut :
    (∃ final, run (loggedScan .single) (scanCalled 0 0 0, []) lateListener = some final ∧
      final.1.scan = .returned 1 ∧ ¬ EndsClean .single final) ∧
    (∃ final, run (loggedScan (.rta 1)) (scanCalled 0 0 0, []) lateListener = some final ∧
      final.1.scan = .returned 1 ∧ ¬ EndsClean (.rta 1) final) := by
  constructor
  · exact ⟨_, rfl, rfl, not_endsClean_of_unshut 5 (by decide +kernel) (by decide +kernel)⟩
  · exact ⟨_, rfl, rfl, not_endsClean_of_unshut 5 (by decide +kernel) (by decide +kernel)⟩

end Andor2k
