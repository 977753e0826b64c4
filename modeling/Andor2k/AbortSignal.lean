/-
The abort signal of a client: what is saved, and what is returned, once the listener has set
`abort_set`.
-/
import Andor2k.AbortHandshake

namespace Andor2k

open Runs

/-- Where the scan function stands tells how many exposures are completed. -/
def ScanState.Counts (kind : ScanKind) (state : ScanState) : Prop :=
  match state.scan with
  | .nextImage curimg => state.completed = curimg
  | .callWait curimg | .inWait curimg =>
      state.completed = curimg ∧ (kind = .single ∨ state.curImgInSeries = curimg + 1)
  | .pollNewImages curimg | .getImages curimg =>
      state.completed = curimg + 1 ∧ state.curImgInSeries = curimg + 1
  | .saveImage curimg => state.completed = curimg + 1
  | .leaving rest => .getAcquiredData ∈ rest → 1 ≤ state.completed
  | .returned _ => True
  | _ => state.completed = 0

/-- Only completed exposures are fetched and saved. -/
structure ExposureInv (kind : ScanKind) (state : ScanState) : Prop extends ScanInv state where
  counts : state.Counts kind
  buffer : state.imgBuffer ≤ state.completed
  saved : ∀ exposure ∈ state.saved, exposure ≤ state.completed

theorem ExposureInv.start (kind : ScanKind) (abortSocketFd abortSet : Int)
    (curImgInSeries : Nat) :
    ExposureInv kind (scanCalled abortSocketFd abortSet curImgInSeries) where
  toScanInv := ScanInv.start _ _ _
  counts := rfl
  buffer := Nat.le_refl 0
  saved exposure hsaved := by cases hsaved

/-- Steps that neither complete, fetch nor save an exposure. -/
theorem ExposureInv.of_counts {kind : ScanKind} {state next : ScanState}
    (hinv : ExposureInv kind state) (hscanInv : ScanInv next) (hcounts : next.Counts kind)
    (hbuffer : next.imgBuffer = state.imgBuffer) (hcompleted : next.completed = state.completed)
    (hsaved : next.saved = state.saved) : ExposureInv kind next := by
  constructor
  · exact hscanInv
  · exact hcounts
  · rw [hbuffer, hcompleted]
    exact hinv.buffer
  · rw [hsaved, hcompleted]
    exact hinv.saved

theorem saved_append_le {saved : List Nat} {last bound : Nat}
    (hsaved : ∀ exposure ∈ saved, exposure ≤ bound) (hlast : last ≤ bound) :
    ∀ exposure ∈ saved ++ [last], exposure ≤ bound := by
  intro exposure hmem
  rcases List.mem_append.mp hmem with hmem | hmem
  · exact hsaved exposure hmem
  · rw [List.mem_singleton.mp hmem]
    exact hlast

theorem ExposureInv.of_exitStep {kind : ScanKind} {state next : ScanState}
    {action : ExitAction} {rest : List ExitAction} {ok : Bool}
    (hinv : ExposureInv kind state) (hscanInv : ScanInv next)
    (hpc : state.scan = .leaving (action :: rest))
    (hexit : exitStep state action rest ok = some next) : ExposureInv kind next := by
  have hcounts := hinv.counts
  rw [ScanState.Counts, hpc] at hcounts
  have hrest : .getAcquiredData ∈ rest → 1 ≤ state.completed := fun hmem =>
    hcounts (List.mem_cons_of_mem _ hmem)
  cases action with
  | getAcquiredData =>
      cases ok with
      | true =>
          cases hexit
          exact ⟨hscanInv, fun hmem => absurd hmem (by decide), hcounts List.mem_cons_self,
            hinv.saved⟩
      | false =>
          cases hexit
          exact hinv.of_counts hscanInv (fun hmem => absurd hmem (by decide)) rfl rfl rfl
  | saveAsFits =>
      cases ok with
      | true =>
          cases hexit
          exact ⟨hscanInv, fun hmem => absurd hmem (by decide), hinv.buffer,
            saved_append_le hinv.saved hinv.buffer⟩
      | false =>
          cases hexit
          exact hinv.of_counts hscanInv (fun hmem => absurd hmem (by decide)) rfl rfl rfl
  | joinReporter | joinAbort =>
      obtain ⟨-, rfl⟩ := stepIf_eq_some.mp hexit
      exact hinv.of_counts hscanInv hrest rfl rfl rfl
  | returns result =>
      cases hexit
      exact hinv.of_counts hscanInv trivial rfl rfl rfl
  | _ =>
      cases hexit
      exact hinv.of_counts hscanInv hrest rfl rfl rfl

theorem ExposureInv.of_scanStep {kind : ScanKind} {state next : ScanState}
    {event : ScanEvent} (hinv : ExposureInv kind state)
    (hstep : ScanStep kind state event next) : ExposureInv kind next := by
  have hscanInv := hinv.toScanInv.of_scanStep hstep
  have hcounts := hinv.counts
  unfold ScanState.Counts at hcounts
  cases hstep with
  | exit hexit hpc => exact hinv.of_exitStep hscanInv hpc hexit
  | nextImage hkind hmore hpc =>
      rw [hpc] at hcounts
      exact hinv.of_counts hscanInv ⟨hcounts, Or.inr rfl⟩ rfl rfl rfl
  | startSeriesReporter hkind hpc =>
      rw [hpc] at hcounts
      exact hinv.of_counts hscanInv hcounts rfl rfl rfl
  | startReporter hkind hpc =>
      rw [hpc] at hcounts
      exact hinv.of_counts hscanInv ⟨hcounts, Or.inl hkind⟩ rfl rfl rfl
  | imageReady hkind hcancelled hpc =>
      rw [hpc] at hcounts
      obtain ⟨hcompleted, hsingle | hnumber⟩ := hcounts
      · rw [hkind] at hsingle
        cases hsingle
      · exact ⟨hscanInv, ⟨congrArg (· + 1) hcompleted, hnumber⟩,
          Nat.le_succ_of_le hinv.buffer,
          fun exposure hmem => Nat.le_succ_of_le (hinv.saved exposure hmem)⟩
  | exposureReady hkind hcancelled hpc =>
      exact ⟨hscanInv, fun _ => Nat.succ_pos _, Nat.le_succ_of_le hinv.buffer,
        fun exposure hmem => Nat.le_succ_of_le (hinv.saved exposure hmem)⟩
  | fetches hpc =>
      rw [hpc] at hcounts
      obtain ⟨hcompleted, hnumber⟩ := hcounts
      exact ⟨hscanInv, hcompleted, Nat.le_of_eq (hnumber.trans hcompleted.symm), hinv.saved⟩
  | saves hpc =>
      rw [hpc] at hcounts
      exact ⟨hscanInv, hcounts, hinv.buffer, saved_append_le hinv.saved hinv.buffer⟩
  | startFails hpc | seriesEnds hkind hmore hpc | waitFails hpc | pollGivesUp hpc
  | fetchFails hpc | saveFails hpc =>
      exact hinv.of_counts hscanInv (fun hmem => absurd hmem (by decide)) rfl rfl rfl
  | _ =>
      rename_i hpc
      rw [hpc] at hcounts
      exact hinv.of_counts hscanInv hcounts rfl rfl rfl

/-- Steps of the other threads; the listener may wake the scan function. -/
theorem ExposureInv.of_otherThread {kind : ScanKind} {state next : ScanState}
    (hinv : ExposureInv kind state) (hscanInv : ScanInv next)
    (hscan : next.scan = state.scan ∨ (state.scan = .waiting ∧ next.scan = .lockAbort))
    (hnumber : next.curImgInSeries = state.curImgInSeries)
    (hbuffer : next.imgBuffer = state.imgBuffer) (hcompleted : next.completed = state.completed)
    (hsaved : next.saved = state.saved) : ExposureInv kind next := by
  have hcounts := hinv.counts
  refine hinv.of_counts hscanInv ?_ hbuffer hcompleted hsaved
  unfold ScanState.Counts at hcounts ⊢
  rcases hscan with hsame | ⟨hwaiting, hwoken⟩
  · rw [hsame, hnumber, hcompleted]
    exact hcounts
  · rw [hwaiting] at hcounts
    rw [hwoken, hcompleted]
    exact hcounts

/-- The listener does not touch the exposures. -/
theorem ListenerStep.exposures {state next : ScanState} {event : ListenerEvent}
    (hstep : ListenerStep state event next) :
    next.curImgInSeries = state.curImgInSeries ∧ next.imgBuffer = state.imgBuffer ∧
      next.completed = state.completed ∧ next.saved = state.saved := by
  cases hstep with
  | _ => exact ⟨rfl, rfl, rfl, rfl⟩

theorem ExposureInv.of_threadStep {kind : ScanKind} {state next : ScanState}
    {event : ThreadEvent} (hinv : ExposureInv kind state)
    (hstep : threadStep kind state event = some next) : ExposureInv kind next := by
  cases event with
  | scan event => exact hinv.of_scanStep (scanStep_cases hstep)
  | listener event =>
      have hcases := listenerStep_cases hstep
      obtain ⟨hnumber, hbuffer, hcompleted, hsaved⟩ := hcases.exposures
      exact hinv.of_otherThread (hinv.toScanInv.of_listenerStep hcases) hcases.scan.2 hnumber
        hbuffer hcompleted hsaved
  | reporter event =>
      obtain ⟨gMtx, reporter, rfl⟩ := reporterStep_cases hstep
      exact hinv.of_otherThread (hinv.toScanInv.congr rfl rfl) (Or.inl rfl) rfl rfl rfl rfl
  | client event =>
      obtain ⟨clients, rfl, -⟩ := clientStep_cases hstep
      exact hinv.of_otherThread (hinv.toScanInv.congr rfl rfl) (Or.inl rfl) rfl rfl rfl rfl

/-- Whatever the threads, the camera and the clients do, only exposures that
WaitForAcquisition has completed are saved. -/
theorem saved_le_completed {kind : ScanKind} {abortSocketFd abortSet : Int}
    {curImgInSeries : Nat} {state : ScanState}
    (hreach : Reachable (threadStep kind)
      (scanCalled abortSocketFd abortSet curImgInSeries) state) :
    ∀ exposure ∈ state.saved, exposure ≤ state.completed := by
  have hinv : ExposureInv kind state :=
    invariant_of_reachable (fun state event next hinv hstep => hinv.of_threadStep hstep)
      (ExposureInv.start _ _ _ _) hreach
  exact hinv.saved

/-- CancelWait is called while the scan function is inside WaitForAcquisition, which does not
succeed between the assignment of `abort_set` and that call. -/
def cancelMeetsWait (state : ScanState) (event : ThreadEvent) : Prop :=
  (event = .listener .cancelWait → state.scan.isInWait = true) ∧
    (event = .scan (.waitReturns true) → state.listener ≠ .cancelWait)

instance decidableCancelMeetsWait (state : ScanState) (event : ThreadEvent) :
    Decidable (cancelMeetsWait state event) :=
  inferInstanceAs (Decidable ((_ → _) ∧ (_ → _)))

/-- The scan function is going to return the failure of its last wait. -/
def ScanState.Stopped (state : ScanState) : Prop :=
  match state.scan with
  | .inWait _ => state.cancelled = true
  | .leaving rest => rest <:+ exposureFailed
  | .returned result => result = 1
  | _ => False

/-- The scan function has joined the listener. -/
def ScanPc.AfterJoin : ScanPc → Prop
  | leaving rest => .joinAbort ∉ rest ∧ .getAcquiredData ∉ rest
  | returned _ => True
  | _ => False

/-- What comes behind the joins of a scan function. -/
def ExitAction.isLast : ExitAction → Bool
  | saveAsFits => true
  | returns _ => true
  | _ => false

theorem joinAbort_not_mem_exitRests : ∀ path ∈ exitRests,
    path.head?.any ExitAction.isLast = true →
      .joinAbort ∉ path ∧ .getAcquiredData ∉ path := by
  decide

/-- Behind the join the listener is done. -/
theorem afterJoin_of_exitStep {state next : ScanState} {action : ExitAction}
    {rest : List ExitAction} {ok : Bool} (hpc : state.scan = .leaving (action :: rest))
    (hpath : action :: rest ∈ exitRests) (hexit : exitStep state action rest ok = some next)
    (hafter : next.scan.AfterJoin) : state.listener = .done ∨ state.scan.AfterJoin := by
  have hmoves : ∀ pc : ScanPc, pc = .leaving rest → action ≠ .joinAbort →
      action ≠ .getAcquiredData → pc.AfterJoin → state.scan.AfterJoin := by
    rintro pc rfl hjoin hfetch ⟨hjoinRest, hfetchRest⟩
    rw [hpc]
    constructor
    · intro hmem
      exact (List.mem_cons.mp hmem).elim (fun heq => hjoin heq.symm) hjoinRest
    · intro hmem
      exact (List.mem_cons.mp hmem).elim (fun heq => hfetch heq.symm) hfetchRest
  have hlast := joinAbort_not_mem_exitRests _ hpath
  cases action with
  | joinAbort =>
      obtain ⟨hdone, rfl⟩ := stepIf_eq_some.mp hexit
      exact Or.inl hdone
  | getAcquiredData =>
      cases ok with
      | true =>
          cases hexit
          exact absurd (by decide) hafter.1
      | false =>
          cases hexit
          exact absurd (by decide) hafter.1
  | saveAsFits | returns result =>
      right
      rw [hpc]
      exact hlast rfl
  | joinReporter =>
      obtain ⟨-, rfl⟩ := stepIf_eq_some.mp hexit
      exact Or.inr (hmoves _ rfl (by simp) (by simp) hafter)
  | _ =>
      cases hexit
      exact Or.inr (hmoves _ rfl (by simp) (by simp) hafter)

/-- An exit path leaves the listener and its signal alone and completes no exposure. -/
theorem exitStep_keeps {state next : ScanState} {action : ExitAction}
    {rest : List ExitAction} {ok : Bool} (hexit : exitStep state action rest ok = some next) :
    next.listener = state.listener ∧ next.completedAtAbort = state.completedAtAbort ∧
      next.completed = state.completed := by
  cases action with
  | joinReporter | joinAbort =>
      obtain ⟨-, rfl⟩ := stepIf_eq_some.mp hexit
      exact ⟨rfl, rfl, rfl⟩
  | getAcquiredData | saveAsFits =>
      cases ok <;> cases hexit <;> exact ⟨rfl, rfl, rfl⟩
  | _ =>
      cases hexit
      exact ⟨rfl, rfl, rfl⟩

/-- The failing exit path is left with 1. -/
theorem stopped_of_exitStep {state next : ScanState} {action : ExitAction}
    {rest : List ExitAction} {ok : Bool} (hpath : action :: rest <:+ exposureFailed)
    (hexit : exitStep state action rest ok = some next) : next.Stopped := by
  have hrest : rest <:+ exposureFailed := (List.suffix_cons action rest).trans hpath
  have haction : action ∈ exposureFailed := hpath.subset List.mem_cons_self
  cases action with
  | getAcquiredData => exact absurd haction (by decide)
  | saveAsFits => exact absurd haction (by decide)
  | returns result =>
      cases hexit
      simpa [exposureFailed, ScanState.Stopped] using haction
  | joinReporter | joinAbort =>
      obtain ⟨-, rfl⟩ := stepIf_eq_some.mp hexit
      exact hrest
  | _ =>
      cases hexit
      exact hrest

structure SignalInv (kind : ScanKind) (state : ScanState) : Prop
    extends ExposureInv kind state where
  signalled : state.completedAtAbort ≠ none →
    state.listener = .cancelWait ∨ state.listener = .done
  atAbort : ∀ completed, state.completedAtAbort = some completed → state.completed = completed
  stopped : state.completedAtAbort ≠ none → state.listener = .done → state.Stopped
  joined : state.scan.AfterJoin → state.listener = .done

theorem SignalInv.start (kind : ScanKind) (abortSocketFd abortSet : Int)
    (curImgInSeries : Nat) :
    SignalInv kind (scanCalled abortSocketFd abortSet curImgInSeries) where
  toExposureInv := ExposureInv.start _ _ _ _
  signalled habort := absurd rfl habort
  atAbort completed habort := by cases habort
  stopped habort := absurd rfl habort
  joined hafter := False.elim hafter

/-- No exposure is completed once the abort is signalled. -/
theorem SignalInv.not_signalled_of_wait {kind : ScanKind} {state : ScanState} {curimg : Nat}
    (hinv : SignalInv kind state) (hallowed : cancelMeetsWait state (.scan (.waitReturns true)))
    (hcancelled : state.cancelled = false) (hpc : state.scan = .inWait curimg) :
    state.completedAtAbort = none := by
  by_contra habort
  rcases hinv.signalled habort with hlistener | hlistener
  · exact hallowed.2 rfl hlistener
  · have hstopped := hinv.stopped habort hlistener
    rw [ScanState.Stopped, hpc] at hstopped
    rw [hstopped] at hcancelled
    cases hcancelled

/-- A step that leaves the listener and its signal alone and completes no exposure. -/
theorem SignalInv.of_scan {kind : ScanKind} {state next : ScanState}
    (hinv : SignalInv kind state) (hexposures : ExposureInv kind next)
    (hlistener : next.listener = state.listener)
    (habort : next.completedAtAbort = state.completedAtAbort)
    (hcompleted : next.completed = state.completed)
    (hstopped : state.Stopped → next.Stopped)
    (hjoined : next.scan.AfterJoin → state.listener = .done) : SignalInv kind next := by
  constructor
  · exact hexposures
  · rw [habort, hlistener]
    exact hinv.signalled
  · rw [habort, hcompleted]
    exact hinv.atAbort
  · rw [habort, hlistener]
    intro hset hdone
    exact hstopped (hinv.stopped hset hdone)
  · rw [hlistener]
    exact hjoined

/-- A step in a state without a signal that leaves the listener alone. -/
theorem SignalInv.of_unsignalled {kind : ScanKind} {next : ScanState}
    (hexposures : ExposureInv kind next) (habort : next.completedAtAbort = none)
    (hjoined : next.scan.AfterJoin → next.listener = .done) : SignalInv kind next := by
  constructor
  · exact hexposures
  · intro hset
    exact absurd habort hset
  · intro completed hset
    rw [habort] at hset
    cases hset
  · intro hset
    exact absurd habort hset
  · exact hjoined

theorem not_stopped {state : ScanState} (hpc : state.scan.BeforeExit)
    (hwait : state.scan.isInWait = false) : ¬ state.Stopped := by
  unfold ScanState.Stopped
  cases hscan : state.scan with
  | inWait curimg =>
      rw [hscan] at hwait
      cases hwait
  | leaving rest =>
      rw [hscan] at hpc
      exact False.elim hpc
  | returned result =>
      rw [hscan] at hpc
      exact False.elim hpc
  | _ => exact id

theorem ScanPc.not_afterJoin {path : List ExitAction}
    (hmem : .joinAbort ∈ path ∨ .getAcquiredData ∈ path) : ¬ (leaving path).AfterJoin :=
  fun hafter => hmem.elim hafter.1 hafter.2

theorem SignalInv.of_scanStep {kind : ScanKind} {state next : ScanState} {event : ScanEvent}
    (hinv : SignalInv kind state) (hexposures : ExposureInv kind next)
    (hallowed : cancelMeetsWait state (.scan event)) (hstep : ScanStep kind state event next) :
    SignalInv kind next := by
  cases hstep with
  | startListener hpc =>
      have hlistener := hinv.notStarted (by rw [hpc]; trivial)
      apply SignalInv.of_unsignalled hexposures
      · by_contra habort
        rcases hinv.signalled habort with hsignalled | hsignalled <;>
          rw [hlistener] at hsignalled <;> cases hsignalled
      · intro hafter
        exact False.elim hafter
  | imageReady hkind hcancelled hpc =>
      exact SignalInv.of_unsignalled hexposures
        (hinv.not_signalled_of_wait hallowed hcancelled hpc) (fun hafter => False.elim hafter)
  | exposureReady hkind hcancelled hpc =>
      exact SignalInv.of_unsignalled hexposures
        (hinv.not_signalled_of_wait hallowed hcancelled hpc)
        (fun hafter => absurd hafter (ScanPc.not_afterJoin (by decide)))
  | waitFails hpc =>
      exact hinv.of_scan hexposures rfl rfl rfl (fun _ => List.suffix_refl _)
        (fun hafter => absurd hafter (ScanPc.not_afterJoin (by decide)))
  | exit hexit hpc =>
      obtain ⟨hlistener, habort, hcompleted⟩ := exitStep_keeps hexit
      apply hinv.of_scan hexposures hlistener habort hcompleted
      · intro hstopped
        rw [ScanState.Stopped, hpc] at hstopped
        exact stopped_of_exitStep hstopped hexit
      · intro hafter
        rcases afterJoin_of_exitStep hpc (hinv.planned _ hpc) hexit hafter with hdone | hafter
        · exact hdone
        · exact hinv.joined hafter
  | startFails hpc | seriesEnds hkind hmore hpc | pollGivesUp hpc | fetchFails hpc
  | saveFails hpc =>
      exact hinv.of_scan hexposures rfl rfl rfl
        (fun hstopped => absurd hstopped (not_stopped (by rw [hpc]; trivial) (by rw [hpc]; rfl)))
        (fun hafter => absurd hafter (ScanPc.not_afterJoin (by decide)))
  | _ =>
      rename_i hpc
      exact hinv.of_scan hexposures rfl rfl rfl
        (fun hstopped => absurd hstopped (not_stopped (by rw [hpc]; trivial) (by rw [hpc]; rfl)))
        (fun hafter => False.elim hafter)

/-- A step by which the listener neither signals an abort nor calls CancelWait. -/
theorem SignalInv.of_listener {kind : ScanKind} {state next : ScanState}
    (hinv : SignalInv kind state) (hexposures : ExposureInv kind next)
    (hjoined : next.scan.AfterJoin → state.listener = .done)
    (hcancel : state.listener ≠ .cancelWait) (hdone : state.listener ≠ .done)
    (hsame : next.completedAtAbort = state.completedAtAbort) : SignalInv kind next := by
  apply SignalInv.of_unsignalled hexposures
  · rw [hsame]
    by_contra habort
    exact (hinv.signalled habort).elim hcancel hdone
  · intro hafter
    exact absurd (hjoined hafter) hdone

theorem SignalInv.of_listenerStep {kind : ScanKind} {state next : ScanState}
    {event : ListenerEvent} (hinv : SignalInv kind state) (hexposures : ExposureInv kind next)
    (hallowed : cancelMeetsWait state (.listener event))
    (hstep : ListenerStep state event next) : SignalInv kind next := by
  have hjoined : next.scan.AfterJoin → state.listener = .done := by
    intro hafter
    rcases hstep.scan.2 with hsame | ⟨-, hwoken⟩
    · rw [hsame] at hafter
      exact hinv.joined hafter
    · rw [hwoken] at hafter
      exact False.elim hafter
  cases hstep with
  | setAbort hpc =>
      constructor
      · exact hexposures
      · intro _
        exact Or.inl rfl
      · intro completed habort
        exact Option.some.inj habort
      · intro _ hdone
        cases hdone
      · intro hafter
        have hdone := hjoined hafter
        rw [hpc] at hdone
        cases hdone
  | cancelWait hpc =>
      have hwait := hallowed.1 rfl
      constructor
      · exact hexposures
      · intro _
        exact Or.inr rfl
      · exact hinv.atAbort
      · intro _ _
        cases hscan : state.scan with
        | inWait curimg =>
            simp [ScanState.Stopped, ScanState.listenerReturns, ScanPc.isInWait]
        | _ =>
            rw [hscan] at hwait
            cases hwait
      · intro _
        rfl
  | lock hpc hfree =>
      exact hinv.of_listener hexposures hjoined (by simp [hpc]) (by simp [hpc]) rfl
  | construct fd server hpc hserver =>
      exact hinv.of_listener hexposures hjoined (by simp [hpc]) (by simp [hpc]) rfl
  | publish fd hpc hanswer =>
      exact hinv.of_listener hexposures hjoined (by simp [hpc]) (by simp [hpc]) rfl
  | accepts fd hpc hserver hclients =>
      exact hinv.of_listener hexposures hjoined (by simp [hpc]) (by simp [hpc]) rfl
  | _ hpc => exact hinv.of_listener hexposures hjoined (by simp [hpc]) (by simp [hpc]) rfl

theorem SignalInv.of_threadStep {kind : ScanKind} {state next : ScanState}
    {event : ThreadEvent} (hinv : SignalInv kind state)
    (hallowed : cancelMeetsWait state event)
    (hstep : threadStep kind state event = some next) : SignalInv kind next := by
  have hexposures := hinv.toExposureInv.of_threadStep hstep
  cases event with
  | scan event => exact hinv.of_scanStep hexposures hallowed (scanStep_cases hstep)
  | listener event => exact hinv.of_listenerStep hexposures hallowed (listenerStep_cases hstep)
  | reporter event =>
      obtain ⟨gMtx, reporter, rfl⟩ := reporterStep_cases hstep
      exact hinv.of_scan hexposures rfl rfl rfl id hinv.joined
  | client event =>
      obtain ⟨clients, rfl, -⟩ := clientStep_cases hstep
      exact hinv.of_scan hexposures rfl rfl rfl id hinv.joined

/-- If CancelWait always meets a WaitForAcquisition that goes on until then, an exposure that
was not completed when the abort was signalled is not saved, and 0 is not returned. -/
theorem abort_stops_scan (kind : ScanKind) (abortSocketFd abortSet : Int)
    (curImgInSeries : Nat) (trace : List ThreadEvent) (final : ScanState) (completed : Nat)
    (hallowed : Along (threadStep kind) cancelMeetsWait
      (scanCalled abortSocketFd abortSet curImgInSeries) trace)
    (hrun : run (threadStep kind) (scanCalled abortSocketFd abortSet curImgInSeries) trace =
      some final)
    (habort : final.completedAtAbort = some completed) :
    (∀ exposure ∈ final.saved, exposure ≤ completed) ∧
      ∀ result, final.scan = .returned result → result ≠ 0 := by
  have hinv : SignalInv kind final :=
    invariant_of_along (fun state event next hinv hok hstep => hinv.of_threadStep hok hstep)
      (SignalInv.start _ _ _ _) hallowed hrun
  constructor
  · rw [← hinv.atAbort completed habort]
    exact hinv.saved
  · intro result hreturned
    have hset : final.completedAtAbort ≠ none := by
      rw [habort]
      simp
    have hdone := hinv.joined (by rw [hreturned]; trivial)
    have hstopped := hinv.stopped hset hdone
    rw [ScanState.Stopped, hreturned] at hstopped
    omega

/-- A client connects and sends a message, which the listener takes for an abort. -/
def abortMessage : List ThreadEvent :=
  [.client .connect, .listener (.accept true), .client (.send 0), .listener (.recv true),
   .listener .setAbort, .listener .cancelWait]

/-- The message arrives while the first of two images is waited for. -/
def abortInWait : List ThreadEvent :=
  orderlyHandshake ++
    [.scan .unlockAbort, .scan (.startAcquisition true), .scan .lockMtx, .scan .startReporter,
     .scan .nextImage, .scan .callWait] ++
    abortMessage ++
    [.scan (.waitReturns false), .reporter .startPolling, .scan (.exit true),
     .scan (.exit true), .scan (.exit true), .reporter .tryLock, .reporter .unlock,
     .scan (.exit true), .scan (.exit true), .scan (.exit true)]

theorem abortInWait_stops_scan :
    ∃ final, run (threadStep (.rta 2)) (scanCalled 0 0 0) abortInWait = some final ∧
      final.completedAtAbort = some 0 ∧ final.scan = .returned 1 ∧
      (∀ exposure ∈ final.saved, exposure ≤ 0) ∧
      ∀ result, final.scan = .returned result → result ≠ 0 :=
  ⟨_, rfl, rfl, rfl,
    abort_stops_scan (.rta 2) 0 0 0 abortInWait _ 0 (by decide +kernel) rfl rfl⟩

/-- The message arrives while the first of two images is saved. -/
def abortInSave : List ThreadEvent :=
  orderlyHandshake ++
    [.scan .unlockAbort, .scan (.startAcquisition true), .scan .lockMtx, .scan .startReporter,
     .scan .nextImage, .scan .callWait, .scan (.waitReturns true), .scan .newData,
     .scan (.getImages true)] ++
    abortMessage ++
    [.scan (.saveImage true), .scan .nextImage, .scan .callWait, .scan (.waitReturns true),
     .scan .newData, .scan (.getImages true), .scan (.saveImage true), .scan .nextImage,
     .scan (.exit true), .scan (.exit true), .reporter .startPolling, .reporter .tryLock,
     .reporter .unlock, .scan (.exit true), .scan (.exit true), .scan (.exit true),
     .scan (.exit true)]

/-- The message arrives before the exposure of a single scan is waited for. -/
def abortBeforeWait : List ThreadEvent :=
  orderlyHandshake ++
    [.scan .unlockAbort, .scan (.startAcquisition true), .scan .lockMtx,
     .scan .startReporter] ++
    abortMessage ++
    [.scan .callWait, .scan (.waitReturns true), .scan (.exit true), .scan (.exit true),
     .scan (.exit true), .reporter .startPolling, .reporter .tryLock, .reporter .unlock,
     .scan (.exit true), .scan (.exit true), .scan (.exit true), .scan (.exit true)]

/-- The series goes on, and the single exposure is taken and saved, as if no abort had been
signalled. -/
theorem late_abort_is_lost :
    (∃ final, run (getRtaScan 2) (scanCalled 0 0 0) abortInSave = some final ∧
      final.abortSet = 1 ∧ final.completedAtAbort = some 1 ∧ final.saved = [1, 2] ∧
      final.scan = .returned 0) ∧
    (∃ final, run getSingleScan (scanCalled 0 0 0) abortBeforeWait = some final ∧
      final.abortSet = 1 ∧ final.completedAtAbort = some 0 ∧ final.saved = [1] ∧
      final.scan = .returned 0) :=
  ⟨⟨_, rfl, rfl, rfl, rfl, rfl⟩, ⟨_, rfl, rfl, rfl, rfl, rfl⟩⟩

end Andor2k
