/-
The end of a scan: shutdown on the listening socket, then the join of the listener, which
must not be left waiting for a client.
-/
import Andor2k.AbortHandshake

namespace Andor2k

open Runs

/-- The listener sits in accept or recv and none of its steps is enabled: while the scan
function waits for it, only a client can let it go on. -/
def ScanState.WaitsForClient (state : ScanState) : Prop :=
  (state.listener = .accept ∨ state.listener = .recv) ∧
    ∀ event, listenerStep state event = none

/-- The accepted client has neither sent nor closed. -/
def ScanState.HoldsSilentClient (state : ScanState) : Prop :=
  state.listener = .recv ∧ ∀ connection ∈ state.clients.head?, connection.Silent

instance decidableHoldsSilentClient (state : ScanState) : Decidable state.HoldsSilentClient :=
  inferInstanceAs (Decidable (_ ∧ _))

/-- The step is the call of shutdown. -/
def isShutdown (state : ScanState) (event : ThreadEvent) : Bool :=
  match state.scan, event with
  | .leaving (.shutdown :: _), .scan (.exit _) => true
  | _, _ => false

/-- The descriptor is the listener's answer when it is shut down, and the listener has not
accepted a client that is silent so far. -/
def shutsAnsweredSocket (state : ScanState) (event : ThreadEvent) : Prop :=
  isShutdown state event = true →
    state.server.answer = some state.abortSocketFd ∧ ¬ state.HoldsSilentClient

instance decidableShutsAnsweredSocket (state : ScanState) (event : ThreadEvent) :
    Decidable (shutsAnsweredSocket state event) :=
  inferInstanceAs (Decidable (_ → _))

/-- The scan function has called shutdown. -/
def ScanPc.AfterShutdown : ScanPc → Prop
  | leaving rest => .shutdown ∉ rest
  | returned _ => True
  | _ => False

theorem ScanPc.not_afterShutdown {path : List ExitAction} (hmem : .shutdown ∈ path) :
    ¬ (leaving path).AfterShutdown := fun hafter => hafter hmem

/-- What an action of an exit path may change. -/
structure ExitFrame (state next : ScanState) (action : ExitAction) : Prop where
  afterShutdown : action ≠ .shutdown → next.scan.AfterShutdown → state.scan.AfterShutdown
  listener : next.listener = state.listener
  clients : next.clients = state.clients
  server : next.server =
    if action = .shutdown then state.server.shutdown state.abortSocketFd else state.server

theorem exitFrame_of_exitStep {state next : ScanState} {action : ExitAction}
    {rest : List ExitAction} {ok : Bool} (hpc : state.scan = .leaving (action :: rest))
    (hpath : action :: rest ∈ exitRests)
    (hstep : exitStep state action rest ok = some next) : ExitFrame state next action := by
  -- an action that moves on, and one behind which there is no shutdown anyway
  have hmoves : ∀ pc : ScanPc, pc = .leaving rest → action ≠ .shutdown →
      pc.AfterShutdown → state.scan.AfterShutdown := by
    rintro pc rfl haction hafter
    rw [hpc]
    intro hmem
    rcases List.mem_cons.mp hmem with heq | hmem
    · exact haction heq.symm
    · exact hafter hmem
  have hlast := shutdown_not_mem_exitRests _ hpath
  cases action with
  | abortAcquisition =>
      cases hstep
      exact ⟨hmoves _ rfl, rfl, rfl, rfl⟩
  | unlockMtx =>
      cases hstep
      exact ⟨hmoves _ rfl, rfl, rfl, rfl⟩
  | shutdown =>
      cases hstep
      exact ⟨hmoves _ rfl, rfl, rfl, rfl⟩
  | joinReporter =>
      obtain ⟨-, rfl⟩ := stepIf_eq_some.mp hstep
      exact ⟨hmoves _ rfl, rfl, rfl, rfl⟩
  | joinAbort =>
      obtain ⟨-, rfl⟩ := stepIf_eq_some.mp hstep
      exact ⟨hmoves _ rfl, rfl, rfl, rfl⟩
  | getAcquiredData =>
      have hafter : state.scan.AfterShutdown := by
        rw [hpc]
        exact hlast (by simp) (by simp) (by simp)
      cases ok <;> cases hstep <;> exact ⟨fun _ _ => hafter, rfl, rfl, rfl⟩
  | saveAsFits =>
      have hafter : state.scan.AfterShutdown := by
        rw [hpc]
        exact hlast (by simp) (by simp) (by simp)
      cases ok <;> cases hstep <;> exact ⟨fun _ _ => hafter, rfl, rfl, rfl⟩
  | returns result =>
      have hafter : state.scan.AfterShutdown := by
        rw [hpc]
        exact hlast (by simp) (by simp) (by simp)
      cases hstep
      exact ⟨fun _ _ => hafter, rfl, rfl, rfl⟩

/-- How far the listener is tells what its socket is. -/
def ScanState.ServerFits (state : ScanState) : Prop :=
  match state.listener with
  | .notStarted | .clearAbort | .lock | .construct => state.server = .notCreated
  | .publish | .unlock | .notify =>
      state.server = .failed ∨ ∃ fd shut, state.server = .opened fd shut
  | .accept => ∃ fd shut, state.server = .opened fd shut
  | .recv => state.clients ≠ []
  | .setAbort | .cancelWait | .done => True

/-- The listener needs no client any more. -/
def ScanState.Released (state : ScanState) : Prop :=
  match state.listener with
  | .notStarted | .clearAbort | .lock | .construct => False
  | .publish | .unlock | .notify =>
      state.server = .failed ∨ ∃ fd, state.server = .opened fd true
  | .accept => ∃ fd, state.server = .opened fd true
  | .recv => ∃ connection ∈ state.clients.head?, ¬ connection.Silent
  | .setAbort | .cancelWait | .done => True

structure JoinInv (state : ScanState) : Prop extends ScanInv state where
  server : state.ServerFits
  released : state.scan.AfterShutdown → state.Released

theorem JoinInv.start (abortSocketFd abortSet : Int) (curImgInSeries : Nat) :
    JoinInv (scanCalled abortSocketFd abortSet curImgInSeries) where
  toScanInv := ScanInv.start _ _ _
  server := rfl
  released hafter := False.elim hafter

/-- Both facts about the listener only depend on the listener, its socket and the clients. -/
theorem ScanState.ServerFits.congr {state next : ScanState} (hfits : state.ServerFits)
    (hlistener : next.listener = state.listener) (hserver : next.server = state.server)
    (hclients : next.clients = state.clients) : next.ServerFits := by
  unfold ServerFits
  rw [hlistener, hserver, hclients]
  exact hfits

theorem ScanState.Released.congr {state next : ScanState} (hreleased : state.Released)
    (hlistener : next.listener = state.listener) (hserver : next.server = state.server)
    (hclients : next.clients = state.clients) : next.Released := by
  unfold Released
  rw [hlistener, hserver, hclients]
  exact hreleased

theorem ScanState.Released.serverFits {state : ScanState} (hreleased : state.Released) :
    state.ServerFits := by
  unfold Released at hreleased
  unfold ServerFits
  cases hpc : state.listener with
  | publish | unlock | notify =>
      simp only [hpc] at hreleased ⊢
      rcases hreleased with hfailed | ⟨fd, hopen⟩
      · exact Or.inl hfailed
      · exact Or.inr ⟨fd, true, hopen⟩
  | accept =>
      simp only [hpc] at hreleased ⊢
      obtain ⟨fd, hopen⟩ := hreleased
      exact ⟨fd, true, hopen⟩
  | recv =>
      simp only [hpc] at hreleased ⊢
      obtain ⟨connection, hhead, -⟩ := hreleased
      intro hnil
      rw [hnil] at hhead
      cases hhead
  | setAbort | cancelWait | done => trivial
  | notStarted | clearAbort | lock | construct =>
      simp only [hpc] at hreleased

/-- Shutdown on the answered descriptor releases a listener without a silent client. -/
theorem released_of_shutdown {state next : ScanState} (hfits : state.ServerFits)
    (hanswer : state.server.answer = some state.abortSocketFd)
    (hsilent : ¬ state.HoldsSilentClient) (hlistener : next.listener = state.listener)
    (hclients : next.clients = state.clients)
    (hserver : next.server = state.server.shutdown state.abortSocketFd) : next.Released := by
  have hopened : ∀ fd shut, state.server = .opened fd shut →
      next.server = .opened fd true := by
    intro fd shut hopen
    rw [hopen, ServerSocket.answer, Option.some.injEq] at hanswer
    rw [hserver, hopen, ← hanswer]
    simp [ServerSocket.shutdown]
  have hfailed : state.server = .failed → next.server = .failed := by
    intro hfailed
    rw [hserver, hfailed]
    rfl
  unfold ScanState.ServerFits at hfits
  unfold ScanState.Released
  rw [hlistener]
  cases hpc : state.listener with
  | publish | unlock | notify =>
      simp only [hpc] at hfits ⊢
      rcases hfits with hfits | ⟨fd, shut, hopen⟩
      · exact Or.inl (hfailed hfits)
      · exact Or.inr ⟨fd, hopened fd shut hopen⟩
  | accept =>
      simp only [hpc] at hfits ⊢
      obtain ⟨fd, shut, hopen⟩ := hfits
      exact ⟨fd, hopened fd shut hopen⟩
  | recv =>
      simp only [hclients]
      by_contra hnone
      apply hsilent
      refine ⟨hpc, ?_⟩
      intro connection hhead
      by_contra hloud
      exact hnone ⟨connection, hhead, hloud⟩
  | setAbort | cancelWait | done => trivial
  | notStarted | clearAbort | lock | construct =>
      simp only [hpc] at hfits
      rw [hfits] at hanswer
      cases hanswer

/-- A step in front of the shutdown that leaves the listener alone. -/
theorem JoinInv.of_before {state next : ScanState} (hinv : JoinInv state)
    (hscanInv : ScanInv next) (hbefore : ¬ next.scan.AfterShutdown)
    (hlistener : next.listener = state.listener) (hserver : next.server = state.server)
    (hclients : next.clients = state.clients) : JoinInv next where
  toScanInv := hscanInv
  server := hinv.server.congr hlistener hserver hclients
  released hafter := absurd hafter hbefore

theorem JoinInv.of_exit {state next : ScanState} {ok : Bool} {action : ExitAction}
    {rest : List ExitAction} (hinv : JoinInv state) (hscanInv : ScanInv next)
    (hallowed : shutsAnsweredSocket state (.scan (.exit ok)))
    (hexit : exitStep state action rest ok = some next)
    (hpc : state.scan = .leaving (action :: rest)) : JoinInv next := by
  have hframe := exitFrame_of_exitStep hpc (hinv.planned _ hpc) hexit
  have hserver := hframe.server
  by_cases hshutdown : action = .shutdown
  · rw [if_pos hshutdown] at hserver
    obtain ⟨hanswer, hsilent⟩ := hallowed (by simp [isShutdown, hpc, hshutdown])
    have hreleased := released_of_shutdown hinv.server hanswer hsilent hframe.listener
      hframe.clients hserver
    exact ⟨hscanInv, hreleased.serverFits, fun _ => hreleased⟩
  · rw [if_neg hshutdown] at hserver
    constructor
    · exact hscanInv
    · exact hinv.server.congr hframe.listener hserver hframe.clients
    · intro hafter
      have hstill := hframe.afterShutdown hshutdown hafter
      exact (hinv.released hstill).congr hframe.listener hserver hframe.clients

theorem JoinInv.of_scanStep {kind : ScanKind} {state next : ScanState} {event : ScanEvent}
    (hinv : JoinInv state) (hallowed : shutsAnsweredSocket state (.scan event))
    (hstep : scanStep kind state event = some next) : JoinInv next := by
  have hcases := scanStep_cases hstep
  have hscanInv := hinv.toScanInv.of_scanStep hcases
  cases hcases with
  | startListener hpc =>
      have hserver := hinv.server
      rw [ScanState.ServerFits, hinv.notStarted (by rw [hpc]; trivial)] at hserver
      exact ⟨hscanInv, hserver, fun hafter => False.elim hafter⟩
  | exit hexit hpc => exact hinv.of_exit hscanInv hallowed hexit hpc
  | startFails hpc =>
      exact hinv.of_before hscanInv (ScanPc.not_afterShutdown (by decide)) rfl rfl rfl
  | seriesEnds hkind hmore hpc =>
      exact hinv.of_before hscanInv (ScanPc.not_afterShutdown (by decide)) rfl rfl rfl
  | exposureReady hkind hcancelled hpc =>
      exact hinv.of_before hscanInv (ScanPc.not_afterShutdown (by decide)) rfl rfl rfl
  | waitFails hpc | pollGivesUp hpc | fetchFails hpc | saveFails hpc =>
      exact hinv.of_before hscanInv (ScanPc.not_afterShutdown (by decide)) rfl rfl rfl
  | _ => exact hinv.of_before hscanInv id rfl rfl rfl

/-- A step of the listener keeps its socket as it has to be. -/
theorem ScanState.ServerFits.of_listenerStep {state next : ScanState}
    {event : ListenerEvent} (hfits : state.ServerFits)
    (hstep : ListenerStep state event next) : next.ServerFits := by
  unfold ServerFits at hfits
  cases hstep with
  | clearAbort hpc | lock hpc hfree =>
      rw [hpc] at hfits
      exact hfits
  | construct fd server hpc hserver =>
      rcases hserver with hfailed | ⟨fd, hopen⟩
      · exact Or.inl hfailed
      · exact Or.inr ⟨fd, false, hopen⟩
  | publish fd hpc hanswer =>
      rw [hpc] at hfits
      exact hfits
  | unlock hpc =>
      rw [hpc] at hfits
      exact hfits
  | notify hpc =>
      rw [hpc] at hfits
      unfold ScanState.ServerFits
      by_cases hfailed : state.server = .failed
      · simp only [if_pos hfailed]
      · simp only [if_neg hfailed]
        exact hfits.resolve_left hfailed
  | accepts fd hpc hserver hclients => exact hclients
  | acceptFails hpc => trivial
  | receives hpc => trivial
  | recvFails hpc => trivial
  | setAbort hpc => trivial
  | cancelWait hpc => trivial

/-- A step of the listener keeps it released. -/
theorem ScanState.Released.of_listenerStep {state next : ScanState}
    {event : ListenerEvent} (hreleased : state.Released)
    (hstep : ListenerStep state event next) : next.Released := by
  unfold ScanState.Released at hreleased
  cases hstep with
  | clearAbort hpc | lock hpc hfree | construct fd server hpc hserver =>
      rw [hpc] at hreleased
      exact False.elim hreleased
  | publish fd hpc hanswer =>
      rw [hpc] at hreleased
      exact hreleased
  | unlock hpc =>
      rw [hpc] at hreleased
      exact hreleased
  | notify hpc =>
      rw [hpc] at hreleased
      unfold ScanState.Released
      by_cases hfailed : state.server = .failed
      · simp only [if_pos hfailed]
      · simp only [if_neg hfailed]
        exact hreleased.resolve_left hfailed
  | accepts fd hpc hserver hclients =>
      -- a socket that was shut down accepts nobody
      rw [hpc] at hreleased
      obtain ⟨own, hopen⟩ := hreleased
      rw [hopen] at hserver
      cases hserver
  | acceptFails hpc => trivial
  | receives hpc => trivial
  | recvFails hpc => trivial
  | setAbort hpc => trivial
  | cancelWait hpc => trivial

theorem JoinInv.of_listenerStep {state next : ScanState} {event : ListenerEvent}
    (hinv : JoinInv state) (hstep : listenerStep state event = some next) : JoinInv next := by
  have hcases := listenerStep_cases hstep
  constructor
  · exact hinv.toScanInv.of_listenerStep hcases
  · exact hinv.server.of_listenerStep hcases
  · intro hafter
    rcases hcases.scan.2 with hsame | ⟨-, hwoken⟩
    · rw [hsame] at hafter
      exact (hinv.released hafter).of_listenerStep hcases
    · rw [hwoken] at hafter
      exact False.elim hafter

/-- What clients do never empties the list of connections, and never makes the first one
silent again. -/
theorem head_of_clientStep {state : ScanState} {clients : List Connection}
    (hclients : clients = state.clients ++ [⟨false, false⟩] ∨
      ∃ number connection, ¬ connection.Silent ∧
        clients = state.clients.set number connection) :
    (state.clients ≠ [] → clients ≠ []) ∧
    ((∃ connection ∈ state.clients.head?, ¬ connection.Silent) →
      ∃ connection ∈ clients.head?, ¬ connection.Silent) := by
  rcases hclients with rfl | ⟨number, changed, hloud, rfl⟩
  · constructor
    · intro _
      simp
    · rintro ⟨connection, hhead, hnot⟩
      refine ⟨connection, ?_, hnot⟩
      rw [List.head?_append, Option.mem_def.mp hhead]
      rfl
  · constructor
    · intro hne hnil
      exact hne (by simpa using hnil)
    · rintro ⟨connection, hhead, hnot⟩
      cases hlist : state.clients with
      | nil =>
          rw [hlist] at hhead
          cases hhead
      | cons first rest =>
          rw [hlist] at hhead
          cases number with
          | zero => exact ⟨changed, rfl, hloud⟩
          | succ number => exact ⟨connection, hhead, hnot⟩

theorem JoinInv.of_clientStep {state next : ScanState} {event : ClientEvent}
    (hinv : JoinInv state) (hstep : clientStep state event = some next) : JoinInv next := by
  obtain ⟨clients, rfl, hclients⟩ := clientStep_cases hstep
  obtain ⟨hnonempty, hloud⟩ := head_of_clientStep hclients
  constructor
  · exact hinv.toScanInv.congr rfl rfl
  · have hfits := hinv.server
    unfold ScanState.ServerFits at hfits ⊢
    cases hpc : state.listener with
    | recv =>
        simp only [hpc] at hfits ⊢
        exact hnonempty hfits
    | _ =>
        simp only [hpc] at hfits ⊢
        try exact hfits
  · intro hafter
    have hreleased := hinv.released hafter
    unfold ScanState.Released at hreleased ⊢
    cases hpc : state.listener with
    | recv =>
        simp only [hpc] at hreleased ⊢
        exact hloud hreleased
    | _ =>
        simp only [hpc] at hreleased ⊢
        try exact hreleased

theorem JoinInv.of_threadStep {kind : ScanKind} {state next : ScanState}
    {event : ThreadEvent} (hinv : JoinInv state) (hallowed : shutsAnsweredSocket state event)
    (hstep : threadStep kind state event = some next) : JoinInv next := by
  cases event with
  | scan event => exact hinv.of_scanStep hallowed hstep
  | listener event => exact hinv.of_listenerStep hstep
  | client event => exact hinv.of_clientStep hstep
  | reporter event =>
      obtain ⟨gMtx, reporter, rfl⟩ := reporterStep_cases hstep
      constructor
      · exact hinv.toScanInv.congr rfl rfl
      · exact hinv.server.congr rfl rfl rfl
      · intro hafter
        exact (hinv.released hafter).congr rfl rfl rfl

/-- A released listener can go on without a client. -/
theorem ScanState.Released.not_waitsForClient {state : ScanState}
    (hreleased : state.Released) : ¬ state.WaitsForClient := by
  rintro ⟨hpc, hblocked⟩
  unfold Released at hreleased
  rcases hpc with hpc | hpc
  · rw [hpc] at hreleased
    obtain ⟨fd, hopen⟩ := hreleased
    have hfails := hblocked (.accept false)
    simp [listenerStep, hopen, hpc, stepIf] at hfails
  · rw [hpc] at hreleased
    obtain ⟨connection, hhead, hloud⟩ := hreleased
    have hreceives := hblocked (.recv true)
    have hfails := hblocked (.recv false)
    simp only [listenerStep, Option.mem_def.mp hhead, hpc] at hreceives hfails
    simp only [stepIf, true_and, ↓reduceIte, Bool.false_eq_true, ite_eq_right_iff,
      reduceCtorEq, imp_false, Bool.not_eq_true] at hreceives hfails
    exact hloud ⟨hreceives, hfails⟩

/-- If shutdown always hits the listener's socket, and never while the listener holds a silent
client, then the scan function never waits in the join for a listener that waits for a
client. -/
theorem join_never_waits_for_client (kind : ScanKind) (abortSocketFd abortSet : Int)
    (curImgInSeries : Nat) (trace : List ThreadEvent) (final : ScanState)
    (rest : List ExitAction)
    (hallowed : Along (threadStep kind) shutsAnsweredSocket
      (scanCalled abortSocketFd abortSet curImgInSeries) trace)
    (hrun : run (threadStep kind) (scanCalled abortSocketFd abortSet curImgInSeries) trace =
      some final)
    (hjoin : final.scan = .leaving (.joinAbort :: rest)) : ¬ final.WaitsForClient := by
  have hinv : JoinInv final :=
    invariant_of_along (fun state event next hinv hok hstep => hinv.of_threadStep hok hstep)
      (JoinInv.start _ _ _) hallowed hrun
  apply (hinv.released ?_).not_waitsForClient
  rw [hjoin]
  exact shutdown_not_mem_exitRests _ (hinv.planned _ hjoin) (by simp) (by simp) (by simp)

/-- The start of the camera fails after an orderly handshake. -/
def failedStartRun : List ThreadEvent :=
  orderlyHandshake ++
    [.scan .unlockAbort, .scan (.startAcquisition false), .scan (.exit true),
     .scan (.exit true)]

theorem failedStartRun_join :
    ∃ final, run (threadStep .single) (scanCalled 0 0 0) failedStartRun = some final ∧
      final.scan = .leaving [.joinAbort, .returns 1] ∧ ¬ final.WaitsForClient :=
  ⟨_, rfl, rfl, join_never_waits_for_client .single 0 0 0 failedStartRun _ [.returns 1]
    (by decide +kernel) rfl rfl⟩

/-- A listener that holds a silent client waits for it. -/
theorem ScanState.HoldsSilentClient.waitsForClient {state : ScanState}
    (hholds : state.HoldsSilentClient) : state.WaitsForClient := by
  obtain ⟨hpc, hsilent⟩ := hholds
  refine ⟨Or.inr hpc, ?_⟩
  intro event
  cases event with
  | accept ok =>
      simp only [listenerStep]
      split
      · cases ok <;> simp [stepIf, hpc]
      · rfl
  | recv ok =>
      simp only [listenerStep]
      split
      · rename_i connection hhead
        obtain ⟨hsent, hclosed⟩ := hsilent connection hhead
        cases ok <;> simp [stepIf, hsent, hclosed]
      · rfl
  | publish =>
      simp only [listenerStep]
      split
      · simp [stepIf, hpc]
      · rfl
  | _ => simp [listenerStep, stepIf, hpc]

/-- A client is accepted and stays silent while one exposure is taken. -/
def silentClientSingle : List ThreadEvent :=
  orderlyHandshake ++
    [.scan .unlockAbort, .client .connect, .listener (.accept true),
     .scan (.startAcquisition true), .scan .lockMtx, .scan .startReporter, .scan .callWait,
     .reporter .startPolling, .scan (.waitReturns true), .scan (.exit true),
     .scan (.exit true), .reporter .tryLock, .reporter .unlock, .scan (.exit true),
     .scan (.exit true)]

/-- The same while a series of one image is taken. -/
def silentClientRta : List ThreadEvent :=
  orderlyHandshake ++
    [.scan .unlockAbort, .client .connect, .listener (.accept true),
     .scan (.startAcquisition true), .scan .lockMtx, .scan .startReporter, .scan .nextImage,
     .scan .callWait, .reporter .startPolling, .scan (.waitReturns true), .scan .newData,
     .scan (.getImages true), .scan (.saveImage true), .scan .nextImage, .scan (.exit true),
     .scan (.exit true), .reporter .tryLock, .reporter .unlock, .scan (.exit true)]

/-- Both scan functions then wait in the join for a listener that waits for the client. -/
theorem silent_client_blocks_join :
    (∃ final rest, run getSingleScan (scanCalled 0 0 0) silentClientSingle = some final ∧
      final.scan = .leaving (.joinAbort :: rest) ∧ final.WaitsForClient) ∧
    (∃ final rest, run (getRtaScan 1) (scanCalled 0 0 0) silentClientRta = some final ∧
      final.scan = .leaving (.joinAbort :: rest) ∧ final.WaitsForClient) := by
  constructor
  · exact ⟨_, _, rfl, rfl, ScanState.HoldsSilentClient.waitsForClient (by decide +kernel)⟩
  · exact ⟨_, _, rfl, rfl, ScanState.HoldsSilentClient.waitsForClient (by decide +kernel)⟩

end Andor2k
