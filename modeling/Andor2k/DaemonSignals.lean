/-
The signal handlers of the daemon.  A handler does not return to what it has interrupted: it
warms the camera up, shuts it down and leaves the process.  The signal it handles is blocked
while it runs, the other signals are not.
-/
import Andor2k.CoolingTargets

namespace Andor2k

open CText

/-- The signals `main` installs a handler for. -/
inductive Signal where
  | segv | int | quit | term
deriving DecidableEq

def Signal.number : Signal → Int
  | .segv => 11
  | .int => 2
  | .quit => 3
  | .term => 15

/-- `exit(signal)` behind `system_shutdown`; `none` when the camera is still warming up. -/
def killDaemon (signal : Signal) (answers : ShutdownAnswers) : Option Procedure :=
  (systemShutdown answers).map fun shutdown => ⟨signal.number, shutdown.events⟩

/-- It differs from `kill_daemon` in the text it prints. -/
def segfaultSigaction (signal : Signal) (answers : ShutdownAnswers) : Option Procedure :=
  (systemShutdown answers).map fun shutdown => ⟨signal.number, shutdown.events⟩

/-- `sigaction` and `signal`, as `main` calls them. -/
def signalHandler (signal : Signal) : ShutdownAnswers → Option Procedure :=
  match signal with
  | .segv => segfaultSigaction signal
  | _ => killDaemon signal

/-- What one handler has done, until it leaves the process or the next one takes over. -/
structure Handled where
  signal : Signal
  events : List DaemonEvent
deriving DecidableEq

/-- The handlers that run one inside the other, with the signals that are blocked. -/
inductive Handlers : List Signal → List Handled → Prop where
  | exits {blocked : List Signal} {signal : Signal} {answers : ShutdownAnswers}
      {procedure : Procedure} (hfree : signal ∉ blocked)
      (hhandler : signalHandler signal answers = some procedure) :
      Handlers blocked [⟨signal, procedure.events⟩]
  | interrupted {blocked : List Signal} {signal : Signal} {answers : ShutdownAnswers}
      {procedure : Procedure} {started : List DaemonEvent} {later : List Handled}
      (hfree : signal ∉ blocked)
      (hhandler : signalHandler signal answers = some procedure)
      (hstarted : started <+: procedure.events) (hlater : Handlers (signal :: blocked) later) :
      Handlers blocked (⟨signal, started⟩ :: later)

/-- The process that a signal has taken out of `main`: what `main` had done, then the
handlers.  The last one leaves with its signal. -/
def killed (started : List DaemonEvent) (handlers : List Handled) : Procedure where
  status := (handlers.getLast?.map fun handled => handled.signal.number).getD 0
  events := started ++ handlers.flatMap Handled.events

theorem signalHandler_spec {signal : Signal} {answers : ShutdownAnswers} {procedure : Procedure}
    (hhandler : signalHandler signal answers = some procedure) :
    procedure.status = signal.number ∧ LeavesGracefully procedure.events ∧
      LetsWarm procedure.events := by
  have hshutdown : (systemShutdown answers).map
      (fun shutdown => (⟨signal.number, shutdown.events⟩ : Procedure)) = some procedure := by
    cases signal with
    | segv | int | quit | term => exact hhandler
  obtain ⟨shutdown, hleaves, rfl⟩ := Option.map_eq_some_iff.mp hshutdown
  have hgraceful : LeavesGracefully shutdown.events := systemShutdown_graceful hleaves
  have hwarm : LetsWarm shutdown.events := systemShutdown_letsWarm hleaves
  exact ⟨rfl, hgraceful, hwarm⟩

/-- The calls of ShutDown. -/
def shutDowns (events : List DaemonEvent) : Nat := events.count .shutDown

@[simp] theorem shutDowns_append (first second : List DaemonEvent) :
    shutDowns (first ++ second) = shutDowns first + shutDowns second :=
  List.count_append

theorem shutDowns_eq_zero {events : List DaemonEvent} :
    shutDowns events = 0 ↔ .shutDown ∉ events :=
  List.count_eq_zero

theorem LeavesGracefully.shutDowns_eq {events : List DaemonEvent}
    (hgraceful : LeavesGracefully events) : shutDowns events = 1 := by
  obtain ⟨before, rfl, hbefore, -⟩ := hgraceful
  rw [shutDowns_append, shutDowns_eq_zero.mpr hbefore]
  rfl

theorem shutDowns_started_le {started whole : List DaemonEvent} (hstarted : started <+: whole) :
    shutDowns started ≤ shutDowns whole :=
  hstarted.sublist.count_le _

theorem LetsWarm.started {started whole : List DaemonEvent} (hwarm : LetsWarm whole)
    (hstarted : started <+: whole) : LetsWarm started := by
  obtain ⟨rest, rfl⟩ := hstarted
  exact (letsWarm_append.mp hwarm).1

/-- No two of the handlers are for the same signal. -/
theorem Handlers.nodup {blocked : List Signal} {handlers : List Handled}
    (hhandlers : Handlers blocked handlers) :
    (handlers.map Handled.signal).Nodup ∧
      ∀ signal ∈ handlers.map Handled.signal, signal ∉ blocked := by
  induction hhandlers with
  | exits hfree hhandler =>
      exact ⟨List.nodup_singleton _, List.forall_mem_singleton.mpr hfree⟩
  | interrupted hfree hhandler hstarted hlater ih =>
      obtain ⟨hnodup, hblocked⟩ := ih
      refine ⟨List.nodup_cons.mpr ⟨?_, hnodup⟩, List.forall_mem_cons.mpr ⟨hfree, ?_⟩⟩
      · exact fun hmem => hblocked _ hmem List.mem_cons_self
      · exact fun signal hsignal hmem =>
          hblocked signal hsignal (List.mem_cons_of_mem _ hmem)

/-- The last handler is through; the others have shut the camera down once at most. -/
theorem Handlers.graceful {blocked : List Signal} {handlers : List Handled}
    (hhandlers : Handlers blocked handlers) :
    ∃ earlier last, handlers = earlier ++ [last] ∧ LeavesGracefully last.events ∧
      (∀ handled ∈ earlier, shutDowns handled.events ≤ 1) ∧
      ∀ handled ∈ handlers, LetsWarm handled.events := by
  induction hhandlers with
  | exits hfree hhandler =>
      obtain ⟨-, hgraceful, hwarm⟩ := signalHandler_spec hhandler
      exact ⟨[], _, rfl, hgraceful, List.forall_mem_nil _, List.forall_mem_singleton.mpr hwarm⟩
  | interrupted hfree hhandler hstarted hlater ih =>
      obtain ⟨-, hgraceful, hwarm⟩ := signalHandler_spec hhandler
      obtain ⟨earlier, last, rfl, hlast, honce, hwarms⟩ := ih
      refine ⟨_ :: earlier, last, rfl, hlast, List.forall_mem_cons.mpr ⟨?_, honce⟩,
        List.forall_mem_cons.mpr ⟨hwarm.started hstarted, hwarms⟩⟩
      exact hgraceful.shutDowns_eq ▸ shutDowns_started_le hstarted

theorem letsWarm_flatMap {handlers : List Handled}
    (hwarms : ∀ handled ∈ handlers, LetsWarm handled.events) :
    LetsWarm (handlers.flatMap Handled.events) := by
  induction handlers with
  | nil => exact ⟨List.not_mem_nil, rfl, rfl⟩
  | cons handled later ih =>
      obtain ⟨hwarm, hlater⟩ := List.forall_mem_cons.mp hwarms
      exact letsWarm_append.mpr ⟨hwarm, ih hlater⟩

theorem shutDowns_flatMap_le {handlers : List Handled}
    (honce : ∀ handled ∈ handlers, shutDowns handled.events ≤ 1) :
    shutDowns (handlers.flatMap Handled.events) ≤ handlers.length := by
  induction handlers with
  | nil => exact Nat.le_refl _
  | cons handled later ih =>
      obtain ⟨hhandled, hlater⟩ := List.forall_mem_cons.mp honce
      rw [List.flatMap_cons, shutDowns_append, List.length_cons]
      have := ih hlater
      omega

/-- Four signals have a handler. -/
theorem length_le_of_nodup {signals : List Signal} (hnodup : signals.Nodup) :
    signals.length ≤ 4 := by
  have hsubset : signals ⊆ [.segv, .int, .quit, .term] := by
    intro signal _
    cases signal with
    | segv | int | quit | term => decide
  exact (List.subperm_of_subset hnodup hsubset).length_le

/-- What a run of `main` has done before its last event shuts the camera down once at most. -/
theorem shutDowns_main_le {drvNumber : DrvCode → Nat} {memory : List UInt8}
    {answers : DaemonAnswers} {procedure : Procedure}
    (hmain : main drvNumber memory answers = .ok (some procedure)) :
    shutDowns procedure.events ≤ 1 := by
  rcases main_cases hmain with ⟨-, hnone⟩ | ⟨-, cooling, hcool, hrest⟩
  · rw [hnone]
    exact Nat.zero_le 1
  · have hcold : shutDowns cooling.events = 0 := shutDowns_eq_zero.mpr fun hmem =>
      (coolToTemperature_inHandler hcool _ hmem).1 rfl
    rcases hrest with hevents | ⟨clients, hclients, hrest⟩
    · rw [hevents, hcold]
      exact Nat.zero_le 1
    · have hserved : shutDowns clients.events = 0 :=
        shutDowns_eq_zero.mpr (serveClients_spec hclients).1
      rcases hrest with hevents | ⟨shutdown, hshutdown, hevents⟩
      · rw [hevents, shutDowns_append, hcold, hserved]
        exact Nat.zero_le 1
      · rw [hevents, shutDowns_append, shutDowns_append, hcold, hserved,
          (systemShutdown_graceful hshutdown).shutDowns_eq]

/-- Wherever a signal takes the daemon out of `main`, and wherever further signals take over
its handlers: the process leaves behind a warm-up and a call of ShutDown, with the number of the
last signal.  The camera is not cooled any more once the first handler runs.  ShutDown is called
once exactly when no signal comes behind a call of it, and never more often than five times. -/
theorem killed_daemon_leaves {drvNumber : DrvCode → Nat} {memory : List UInt8}
    {answers : DaemonAnswers} {procedure : Procedure} {started : List DaemonEvent}
    {handlers : List Handled}
    (hmain : main drvNumber memory answers = .ok (some procedure))
    (hstarted : started <+: procedure.events) (hhandlers : Handlers [] handlers) :
    (∃ earlier last, handlers = earlier ++ [last] ∧
        (killed started handlers).status = last.signal.number ∧
        (∃ before, (killed started handlers).events = before ++ [.shutDown] ∧ WarmedUp before) ∧
        (shutDowns (killed started handlers).events = 1 ↔
          .shutDown ∉ started ∧ ∀ handled ∈ earlier, .shutDown ∉ handled.events)) ∧
      LetsWarm (handlers.flatMap Handled.events) ∧
      shutDowns (killed started handlers).events ≤ 5 := by
  obtain ⟨earlier, last, rfl, hlast, honce, hwarms⟩ := hhandlers.graceful
  have hshutDowns : shutDowns (killed started (earlier ++ [last])).events =
      shutDowns started + shutDowns (earlier.flatMap Handled.events) + 1 := by
    rw [killed, List.flatMap_append, shutDowns_append, shutDowns_append, List.flatMap_singleton,
      hlast.shutDowns_eq, Nat.add_assoc]
  refine ⟨⟨earlier, last, rfl, ?_, ?_, ?_⟩, letsWarm_flatMap hwarms, ?_⟩
  · rw [killed, List.getLast?_append]
    rfl
  · obtain ⟨before, hevents, -, hwarm⟩ := hlast
    refine ⟨started ++ earlier.flatMap Handled.events ++ before, ?_, hwarm.append⟩
    rw [killed, List.flatMap_append, List.flatMap_singleton, hevents]
    simp only [List.append_assoc]
  · have hnone : shutDowns (earlier.flatMap Handled.events) = 0 ↔
        ∀ handled ∈ earlier, .shutDown ∉ handled.events := by
      rw [shutDowns_eq_zero]
      simp only [List.mem_flatMap, not_exists, not_and]
    rw [hshutDowns, ← hnone, ← shutDowns_eq_zero]
    omega
  · have hmost : shutDowns started ≤ 1 :=
      (shutDowns_started_le hstarted).trans (shutDowns_main_le hmain)
    have hlength : (earlier ++ [last]).length ≤ 4 := by
      rw [← List.length_map Handled.signal]
      exact length_le_of_nodup hhandlers.nodup.1
    have hearlier : shutDowns (earlier.flatMap Handled.events) ≤ earlier.length :=
      shutDowns_flatMap_le honce
    rw [List.length_append, List.length_singleton] at hlength
    omega

/-- SIGTERM while the daemon is cooling, and SIGINT when its handler has called ShutDown. -/
def termThenInt : List Handled :=
  [⟨.term, [.celsius 20, .shutDown]⟩, ⟨.int, [.celsius 20, .shutDown]⟩]

theorem handlers_termThenInt : Handlers [] termThenInt := by
  have hwarm : systemShutdown ⟨.idle, 20, .success, false, []⟩ =
      some ⟨0, [.celsius 20, .shutDown]⟩ := by
    decide +kernel
  have hhandler : ∀ signal : Signal,
      signalHandler signal ⟨.idle, 20, .success, false, []⟩ =
        some ⟨signal.number, [.celsius 20, .shutDown]⟩ := by
    intro signal
    cases signal with
    | segv | int | quit | term => simp [signalHandler, killDaemon, segfaultSigaction, hwarm]
  refine .interrupted (by decide) (hhandler .term) (List.prefix_refl _) ?_
  exact .exits (by decide) (hhandler .int)

theorem termThenInt_leaves :
    (∃ earlier last, termThenInt = earlier ++ [last] ∧
        (killed [.celsius 20] termThenInt).status = last.signal.number ∧
        (∃ before, (killed [.celsius 20] termThenInt).events = before ++ [.shutDown] ∧
          WarmedUp before) ∧
        (shutDowns (killed [.celsius 20] termThenInt).events = 1 ↔
          .shutDown ∉ [DaemonEvent.celsius 20] ∧
            ∀ handled ∈ earlier, .shutDown ∉ handled.events)) ∧
      LetsWarm (termThenInt.flatMap Handled.events) ∧
      shutDowns (killed [.celsius 20] termThenInt).events ≤ 5 := by
  have hreturns : (main (fun _ => 20002) [] settempClient).map
      (fun procedure => procedure.map fun procedure => procedure.events.take 1) =
        .ok (some [.celsius 20]) := by
    decide +kernel
  obtain ⟨found, hmain, hstarted⟩ := checked_map_eq_ok.mp hreturns
  obtain ⟨procedure, rfl, hfirst⟩ := Option.map_eq_some_iff.mp hstarted
  exact killed_daemon_leaves hmain (hfirst ▸ List.take_prefix 1 _) handlers_termThenInt

end Andor2k
