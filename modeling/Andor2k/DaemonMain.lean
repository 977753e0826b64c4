/-
main of the daemon: the camera is initialised and cooled, clients are served one after the
other, and the camera is warmed up and shut down.
-/
import Andor2k.Chat

namespace Andor2k

open CText

def shutdownTemperature : Int32 := 5

/-- In minutes. -/
def maxShutdownDuration : Int := 30

/-- In seconds. -/
def maxDurationSec : Int := maxShutdownDuration * 60

/-- Whole seconds. -/
def seconds (elapsed : Int) : Int := elapsed.tdiv (10 ^ 9)

/-- One turn of the warming loop. -/
structure WarmingReading where
  currentTemp : Int32
  elapsed : Int
deriving DecidableEq

structure ShutdownAnswers where
  getStatus : DrvCode
  currentTemp : Int32
  isCoolerOn : DrvCode
  coolerOn : Bool
  warming : List WarmingReading
deriving DecidableEq

/-- `none` as long as the loop has not come to its end. -/
def warmingLoop : List WarmingReading → Option (List DaemonEvent)
  | [] => none
  | reading :: later =>
      if shutdownTemperature ≤ reading.currentTemp then some [.celsius reading.currentTemp]
      else
        let waited := [.celsius reading.currentTemp, .elapsed reading.elapsed]
        if maxDurationSec < seconds reading.elapsed then some waited
        else (warmingLoop later).map fun rest => waited ++ rest

def systemShutdown (answers : ShutdownAnswers) : Option Procedure :=
  let aborted := if answers.getStatus = .acquiring then [.abortAcquisition] else []
  let cooler :=
    if answers.isCoolerOn = .success ∧ answers.coolerOn then [.coolerOff] else []
  let start := aborted ++ .celsius answers.currentTemp :: cooler
  if answers.currentTemp < shutdownTemperature then
    (warmingLoop answers.warming).map fun warming => ⟨0, start ++ warming ++ [.shutDown]⟩
  else some ⟨0, start ++ [.shutDown]⟩

def initializeToTemp : Int32 := -50

/-- The index of the selected camera, or a negative number. -/
def selectCamera (num numCameras : Int32) : Int :=
  if num < 0 then -1
  else if num = 0 then num.toInt
  else if num < numCameras ∧ 0 ≤ num then num.toInt
  else -1

/-- What `accept` stores as its status, and the conversation that follows. -/
structure Accepted where
  status : Int
  conversation : List Received

/-- `serverSocket` tells whether the constructor succeeds; otherwise it throws. -/
structure DaemonAnswers where
  numCameras : Int32
  initialization : DrvCode
  cooling : CoolingAnswers
  serverSocket : Bool
  accepts : List Accepted
  shutdown : ShutdownAnswers

/-- How the loop over the clients ends: `main` returns at once, or goes on behind it. -/
structure ClientLoop where
  returned : Option Int
  events : List DaemonEvent
deriving DecidableEq

section Main

variable (drvNumber : DrvCode → Nat)

/-- `none` as long as the loop has not come to its end. -/
def clientLoop : List Accepted → AndorParameters → Checked (Option ClientLoop)
  | [], _ => .ok none
  | accepted :: later, params => do
      if accepted.status < 0 then return some ⟨some 1, []⟩
      let run ← chat drvNumber accepted.conversation params
      match run.state with
      | .returned shutdownReceived =>
          if shutdownReceived < 0 then return some ⟨none, run.events⟩
          let rest ← clientLoop later run.params
          return rest.map fun rest => ⟨rest.returned, run.events ++ rest.events⟩
      | _ => return none

/-- The `try` block: an exception of the server socket is caught. -/
def serveClients (answers : DaemonAnswers) (params : AndorParameters) :
    Checked (Option ClientLoop) :=
  if answers.serverSocket then clientLoop drvNumber answers.accepts params
  else .ok (some ⟨none, []⟩)

/-- `none` when `main` has not returned. -/
def main (memory : List UInt8) (answers : DaemonAnswers) : Checked (Option Procedure) := do
  let params := AndorParameters.initial memory
  if params.readOutMode ≠ .image then return some ⟨10, []⟩
  if selectCamera params.cameraNum answers.numCameras < 0 then return some ⟨10, []⟩
  if answers.initialization ≠ .success then return some ⟨10, []⟩
  match coolToTemperature drvNumber false initializeToTemp answers.cooling with
  | none => return none
  | some cooling =>
      if cooling.status ≠ 0 then return some ⟨10, cooling.events⟩
      match ← serveClients drvNumber answers params with
      | none => return none
      | some clients =>
          let events := cooling.events ++ clients.events
          match clients.returned with
          | some status => return some ⟨status, events⟩
          | none =>
              return (systemShutdown answers.shutdown).map fun shutdown =>
                ⟨0, events ++ shutdown.events⟩

end Main

/-- The temperature that was read last. -/
def lastCelsius (events : List DaemonEvent) : Option Int32 :=
  (events.filterMap fun event =>
    match event with
    | .celsius temperature => some temperature
    | _ => none).getLast?

/-- The camera has got warm, or it has been given its time. -/
def WarmedUp (events : List DaemonEvent) : Prop :=
  (∃ temperature, lastCelsius events = some temperature ∧ shutdownTemperature ≤ temperature) ∨
    ∃ nanoseconds, events.getLast? = some (.elapsed nanoseconds) ∧
      maxShutdownDuration * (60 * 10 ^ 9) < nanoseconds

/-- ShutDown is called once, as the last thing, with a camera that has warmed up. -/
def LeavesGracefully (events : List DaemonEvent) : Prop :=
  ∃ before, events = before ++ [.shutDown] ∧ .shutDown ∉ before ∧ WarmedUp before

theorem WarmedUp.append {before events : List DaemonEvent} (hwarm : WarmedUp events) :
    WarmedUp (before ++ events) := by
  rcases hwarm with ⟨temperature, hlast, hhigh⟩ | ⟨nanoseconds, hlast, hlong⟩
  · refine Or.inl ⟨temperature, ?_, hhigh⟩
    rw [lastCelsius] at hlast
    rw [lastCelsius, List.filterMap_append, List.getLast?_append, hlast, Option.some_or]
  · refine Or.inr ⟨nanoseconds, ?_, hlong⟩
    rw [List.getLast?_append, hlast, Option.some_or]

theorem LeavesGracefully.append {before events : List DaemonEvent}
    (hbefore : .shutDown ∉ before) (hevents : LeavesGracefully events) :
    LeavesGracefully (before ++ events) := by
  obtain ⟨start, rfl, hstart, hwarm⟩ := hevents
  refine ⟨before ++ start, (List.append_assoc _ _ _).symm, ?_, hwarm.append⟩
  intro hmem
  exact (List.mem_append.mp hmem).elim hbefore hstart

/-- A count of whole units is passed by at least one unit. -/
theorem le_of_lt_tdiv {count elapsed unit : Int} (hcount : 0 ≤ count) (hunit : 0 < unit)
    (hmore : count < elapsed.tdiv unit) : (count + 1) * unit ≤ elapsed := by
  have hpositive : 0 ≤ elapsed := by
    by_contra hnegative
    have hopposite : 0 ≤ (-elapsed).tdiv unit := Int.tdiv_nonneg (by omega) (by omega)
    rw [Int.neg_tdiv] at hopposite
    omega
  rw [Int.tdiv_eq_ediv_of_nonneg hpositive] at hmore
  exact (Int.le_ediv_iff_mul_le hunit).mp hmore

theorem warmingLoop_spec {readings : List WarmingReading} {events : List DaemonEvent}
    (hwarming : warmingLoop readings = some events) :
    .shutDown ∉ events ∧ WarmedUp events := by
  induction readings generalizing events with
  | nil => cases hwarming
  | cons reading later ih =>
      rw [warmingLoop] at hwarming
      split at hwarming
      · rename_i hwarm
        rw [← Option.some.inj hwarming]
        exact ⟨by simp, Or.inl ⟨reading.currentTemp, rfl, hwarm⟩⟩
      · dsimp only at hwarming
        split at hwarming
        · rename_i hlate
          have hlong : maxShutdownDuration * (60 * 10 ^ 9) < reading.elapsed := by
            have hmore : (maxDurationSec + 1) * 10 ^ 9 ≤ reading.elapsed :=
              le_of_lt_tdiv (by decide) (by decide) hlate
            rw [maxDurationSec, maxShutdownDuration] at hmore
            rw [maxShutdownDuration]
            omega
          rw [← Option.some.inj hwarming]
          exact ⟨by simp, Or.inr ⟨reading.elapsed, rfl, hlong⟩⟩
        · obtain ⟨rest, hrest, rfl⟩ := Option.map_eq_some_iff.mp hwarming
          obtain ⟨hnone, hwarm⟩ := ih hrest
          refine ⟨?_, hwarm.append⟩
          simpa using hnone

theorem systemShutdown_graceful {answers : ShutdownAnswers} {procedure : Procedure}
    (hshutdown : systemShutdown answers = some procedure) :
    LeavesGracefully procedure.events := by
  rw [systemShutdown] at hshutdown
  have haborted : .shutDown ∉ if answers.getStatus = .acquiring then
      [DaemonEvent.abortAcquisition] else [] := by
    split
    · simp
    · simp
  split at hshutdown
  · obtain ⟨warming, hwarming, rfl⟩ := Option.map_eq_some_iff.mp hshutdown
    obtain ⟨hnone, hwarm⟩ := warmingLoop_spec hwarming
    refine ⟨_, rfl, ?_, hwarm.append⟩
    simp only [List.mem_append, List.mem_cons, not_or]
    refine ⟨⟨haborted, nofun, ?_⟩, hnone⟩
    split
    · simp
    · simp
  · rename_i hwarm
    rw [← Option.some.inj hshutdown]
    refine ⟨_, rfl, ?_, ?_⟩
    · simp only [List.mem_append, List.mem_cons, not_or]
      refine ⟨haborted, nofun, ?_⟩
      split
      · simp
      · simp
    · refine WarmedUp.append (Or.inl ⟨answers.currentTemp, ?_, Int32.not_lt.mp hwarm⟩)
      split
      · rfl
      · rfl

/-- The client asks for a shutdown before its connection ends. -/
def EndsInShutdown : List Received → Prop
  | [] => False
  | received :: later =>
      received.command.message ≠ [] ∧
        (AsksShutdown received.command.message ∨ EndsInShutdown later)

/-- No `accept` fails before a client asks for a shutdown. -/
def NoAcceptFails : List Accepted → Prop
  | [] => True
  | accepted :: later =>
      0 ≤ accepted.status ∧ (EndsInShutdown accepted.conversation ∨ NoAcceptFails later)

theorem shutDown_not_mem {received : Received} {drvNumber : DrvCode → Nat}
    {params : AndorParameters} {served : Served}
    (hserved : resolveCommand drvNumber received params = .ok (some served)) :
    .shutDown ∉ .resolve received.command.buffer :: served.events := by
  intro hmem
  rcases List.mem_cons.mp hmem with hequal | hmem
  · cases hequal
  · exact (resolveCommand_inHandler hserved _ hmem).1 rfl

/-- A conversation ends with 0 or -1, the latter exactly when the client asks for it. -/
theorem chat_returned {drvNumber : DrvCode → Nat} {received : List Received}
    {params : AndorParameters} {run : ChatRun} {status : Int}
    (hchat : chat drvNumber received params = .ok run)
    (hreturned : run.state = .returned status) :
    .shutDown ∉ run.events ∧ (status = 0 ∨ status = -1) ∧
      (status = -1 ↔ EndsInShutdown received) := by
  induction received generalizing params run with
  | nil =>
      rw [← Except.ok.inj hchat] at hreturned
      cases hreturned
  | cons result later ih =>
      by_cases hdelivers : result.command.message = []
      · rw [chat, hdelivers, List.length_nil, if_pos Nat.zero_lt_one] at hchat
        rw [← Except.ok.inj hchat] at hreturned ⊢
        obtain rfl := ChatState.returned.inj hreturned
        exact ⟨List.not_mem_nil, Or.inl rfl, fun hzero => absurd hzero (by decide),
          fun hends => absurd hdelivers hends.1⟩
      · have hbusy : run.state ≠ .busy := by
          rw [hreturned]
          rintro ⟨⟩
        obtain ⟨served, hserved, hrest⟩ := (chat_cons hdelivers hchat).resolve_left hbusy
        have hnone := shutDown_not_mem hserved
        rcases hrest with ⟨hasks, rfl⟩ | ⟨hgoes, rest, hlater, rfl⟩
        · obtain rfl := ChatState.returned.inj hreturned
          exact ⟨hnone, Or.inr rfl, fun _ => ⟨hdelivers, Or.inl hasks⟩, fun _ => rfl⟩
        · obtain ⟨hnever, hstatus, hiff⟩ := ih hlater hreturned
          refine ⟨fun hmem => (List.mem_append.mp hmem).elim hnone hnever, hstatus, ?_⟩
          rw [hiff, EndsInShutdown, or_iff_right hgoes]
          exact (and_iff_right hdelivers).symm

/-- The loop returns 1 from `main` exactly when an `accept` fails. -/
theorem clientLoop_spec {drvNumber : DrvCode → Nat} {accepts : List Accepted}
    {params : AndorParameters} {clients : ClientLoop}
    (hclients : clientLoop drvNumber accepts params = .ok (some clients)) :
    .shutDown ∉ clients.events ∧ (clients.returned = none ↔ NoAcceptFails accepts) := by
  induction accepts generalizing params clients with
  | nil => cases hclients
  | cons accepted later ih =>
      rw [clientLoop] at hclients
      split at hclients
      · rename_i hfailed
        rw [← Option.some.inj (Except.ok.inj hclients)]
        exact ⟨List.not_mem_nil, nofun, fun hnone => absurd hfailed (Int.not_lt.mpr hnone.1)⟩
      · rename_i haccepted
        obtain ⟨run, hchat, hclients⟩ := checked_bind_eq_ok.mp hclients
        split at hclients
        · rename_i status hreturned
          obtain ⟨hnever, hstatus, hiff⟩ := chat_returned hchat hreturned
          split at hclients
          · rename_i hnegative
            have hends := hiff.mp (by omega)
            rw [← Option.some.inj (Except.ok.inj hclients)]
            exact ⟨hnever, fun _ => ⟨Int.not_lt.mp haccepted, Or.inl hends⟩, fun _ => rfl⟩
          · rename_i hagain
            have hgoes : ¬ EndsInShutdown accepted.conversation := fun hends =>
              hagain (by rw [hiff.mpr hends]; decide)
            obtain ⟨found, hlater, hclients⟩ := checked_bind_eq_ok.mp hclients
            obtain ⟨rest, rfl, rfl⟩ := Option.map_eq_some_iff.mp (Except.ok.inj hclients)
            obtain ⟨hnone, hreturns⟩ := ih hlater
            refine ⟨fun hmem => (List.mem_append.mp hmem).elim hnever hnone, ?_⟩
            rw [NoAcceptFails, or_iff_right hgoes, and_iff_right (Int.not_lt.mp haccepted)]
            exact hreturns
        · cases hclients

/-- Without a server socket there is nobody to serve. -/
theorem serveClients_spec {drvNumber : DrvCode → Nat} {answers : DaemonAnswers}
    {params : AndorParameters} {clients : ClientLoop}
    (hclients : serveClients drvNumber answers params = .ok (some clients)) :
    .shutDown ∉ clients.events ∧ (clients.returned = none ↔
      (answers.serverSocket = true → NoAcceptFails answers.accepts)) := by
  rw [serveClients] at hclients
  split at hclients
  · rename_i hsocket
    obtain ⟨hnone, hreturns⟩ := clientLoop_spec hclients
    exact ⟨hnone, hreturns.trans
      ⟨fun hnofail _ => hnofail, fun hnofail => hnofail hsocket⟩⟩
  · rename_i hthrown
    rw [← Option.some.inj (Except.ok.inj hclients)]
    exact ⟨List.not_mem_nil, fun _ hsocket => absurd hsocket hthrown, fun _ => rfl⟩

theorem not_graceful {events : List DaemonEvent} (hnone : .shutDown ∉ events) :
    ¬ LeavesGracefully events := by
  rintro ⟨before, rfl, -⟩
  exact hnone (List.mem_append_right before List.mem_cons_self)

/-- An initialised daemon leaves `main` behind a graceful shutdown exactly when the camera
cools down at the start, and no `accept` fails on the way to a client's shutdown. -/
theorem main_leaves_gracefully_iff {drvNumber : DrvCode → Nat} {memory : List UInt8}
    {answers : DaemonAnswers} {procedure : Procedure}
    (hinitialised : answers.initialization = .success)
    (hmain : main drvNumber memory answers = .ok (some procedure)) :
    LeavesGracefully procedure.events ↔
      CoolsDown drvNumber answers.cooling ∧
        (answers.serverSocket = true → NoAcceptFails answers.accepts) := by
  have hmode : ¬ (AndorParameters.initial memory).readOutMode ≠ .image :=
    not_not.mpr (AndorParameters.readOutMode_initial memory)
  have hselected : selectCamera (AndorParameters.initial memory).cameraNum
      answers.numCameras = 0 := rfl
  have hcamera : ¬ selectCamera (AndorParameters.initial memory).cameraNum
      answers.numCameras < 0 := by
    rw [hselected]
    decide
  rw [main, if_neg hmode, if_neg hcamera, if_neg (not_not.mpr hinitialised)] at hmain
  split at hmain
  · cases hmain
  · rename_i cooling hcool
    have hdown := (coolToTemperature_status hcool).2
    have hcold : .shutDown ∉ cooling.events := fun hmem =>
      (coolToTemperature_inHandler hcool _ hmem).1 rfl
    split at hmain
    · rename_i hfailed
      rw [← Option.some.inj (Except.ok.inj hmain)]
      exact ⟨fun hgraceful => absurd hgraceful (not_graceful hcold),
        fun hboth => absurd (hdown.mpr hboth.1) hfailed⟩
    · rename_i hcooled
      rw [and_iff_right (hdown.mp (not_not.mp hcooled))]
      obtain ⟨found, hfound, hmain⟩ := checked_bind_eq_ok.mp hmain
      cases found with
      | none => cases hmain
      | some clients =>
          obtain ⟨hnever, hreturns⟩ := serveClients_spec hfound
          have hquiet : .shutDown ∉ cooling.events ++ clients.events := fun hmem =>
            (List.mem_append.mp hmem).elim hcold hnever
          dsimp only at hmain
          rw [← hreturns]
          split at hmain
          · rename_i status hleft
            rw [← Option.some.inj (Except.ok.inj hmain), hleft]
            exact ⟨fun hgraceful => absurd hgraceful (not_graceful hquiet), nofun⟩
          · rename_i hgoes
            obtain ⟨shutdown, hshutdown, rfl⟩ :=
              Option.map_eq_some_iff.mp (Except.ok.inj hmain)
            exact ⟨fun _ => hgoes, fun _ => (systemShutdown_graceful hshutdown).append hquiet⟩

/-- A daemon that starts without trouble, with a camera that is warm enough in the end. -/
def goodDaemon (accepts : List Accepted) : DaemonAnswers where
  numCameras := 1
  initialization := .success
  cooling := ⟨20, .success, .success, [⟨.tempNotReached, 0, 0⟩, ⟨.tempStabilized, -50, 0⟩]⟩
  serverSocket := true
  accepts := accepts
  shutdown := ⟨.idle, -50, .success, true, [⟨-20, 5 * 10 ^ 9⟩, ⟨6, 10 * 10 ^ 9⟩]⟩

theorem shutdown_client_leaves_gracefully :
    ∃ procedure, main (fun _ => 20002) [] (goodDaemon [⟨4, twoMessages⟩]) =
        .ok (some procedure) ∧
      (LeavesGracefully procedure.events ↔
        CoolsDown (fun _ => 20002) (goodDaemon [⟨4, twoMessages⟩]).cooling ∧
          ((goodDaemon [⟨4, twoMessages⟩]).serverSocket = true →
            NoAcceptFails (goodDaemon [⟨4, twoMessages⟩]).accepts)) := by
  have hreturns : (main (fun _ => 20002) [] (goodDaemon [⟨4, twoMessages⟩])).map
      (fun procedure => procedure.map Procedure.status) = .ok (some 0) := by
    decide +kernel
  obtain ⟨found, hfound, hstatus⟩ := checked_map_eq_ok.mp hreturns
  obtain ⟨procedure, rfl, -⟩ := Option.map_eq_some_iff.mp hstatus
  exact ⟨procedure, hfound, main_leaves_gracefully_iff rfl hfound⟩

/-- When `accept` fails, `main` returns with the cooler on. -/
theorem failed_accept_skips_shutdown :
    ¬ ∀ (drvNumber : DrvCode → Nat) (memory : List UInt8) (answers : DaemonAnswers)
      (procedure : Procedure), answers.initialization = .success →
      main drvNumber memory answers = .ok (some procedure) →
      LeavesGracefully procedure.events := by
  intro hgraceful
  have hreturns : (main (fun _ => 20002) [] (goodDaemon [⟨-1, []⟩])).map
      (fun procedure => procedure.map fun procedure =>
        decide (.shutDown ∈ procedure.events)) = .ok (some false) := by
    decide +kernel
  obtain ⟨found, hfound, hevents⟩ := checked_map_eq_ok.mp hreturns
  obtain ⟨procedure, rfl, hnone⟩ := Option.map_eq_some_iff.mp hevents
  exact not_graceful (of_decide_eq_false hnone) (hgraceful _ _ _ procedure rfl hfound)

end Andor2k
