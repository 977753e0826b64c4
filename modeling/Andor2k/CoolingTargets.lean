/-
What the camera is told about its temperature over a run of the daemon: the target of the
start, the targets of the `settemp` commands, and the cooler that is switched off at the end.
-/
import Andor2k.DaemonMain

namespace Andor2k

open CText

/-- The temperatures SetTemperature is called with, in order. -/
def targets (events : List DaemonEvent) : List Int32 :=
  events.filterMap fun event =>
    match event with
    | .setTemperature temperature => some temperature
    | _ => none

/-- The calls of `resolve_command`, in order. -/
def resolved (events : List DaemonEvent) : List CommandBuffer :=
  events.filterMap fun event =>
    match event with
    | .resolve command => some command
    | _ => none

/-- The number behind `settemp`, if there is one and the camera can be cooled to it. -/
def settempTarget (command : CommandBuffer) : Option Int32 :=
  let argument := command.bytes.drop 7
  let parsed := strtol argument
  let target := Int32.ofInt parsed.value
  if startsWith command.bytes (ascii "settemp") ∧ parsed.rest ≠ argument ∧
      parsed.erange = false ∧ andorMinTemp ≤ target.toInt ∧ target.toInt ≤ andorMaxTemp then
    some target
  else none

@[simp] theorem targets_append (first second : List DaemonEvent) :
    targets (first ++ second) = targets first ++ targets second :=
  List.filterMap_append

@[simp] theorem resolved_append (first second : List DaemonEvent) :
    resolved (first ++ second) = resolved first ++ resolved second :=
  List.filterMap_append

theorem targets_eq_nil {events : List DaemonEvent}
    (hnone : ∀ event ∈ events, ∀ temperature, event ≠ .setTemperature temperature) :
    targets events = [] := by
  refine List.filterMap_eq_nil_iff.mpr fun event hevent => ?_
  cases event with
  | setTemperature temperature => exact absurd rfl (hnone _ hevent temperature)
  | _ => rfl

theorem resolved_eq_nil {events : List DaemonEvent}
    (hevents : ∀ event ∈ events, InHandler event) : resolved events = [] := by
  refine List.filterMap_eq_nil_iff.mpr fun event hevent => ?_
  cases event with
  | resolve command => exact absurd rfl ((hevents _ hevent).2 command)
  | _ => rfl

theorem settempTarget_bounds {command : CommandBuffer} {temperature : Int32}
    (htarget : settempTarget command = some temperature) :
    andorMinTemp ≤ temperature.toInt ∧ temperature.toInt ≤ andorMaxTemp := by
  simp only [settempTarget] at htarget
  split at htarget
  · rename_i haccepts
    rw [← Option.some.inj htarget]
    exact haccepts.2.2.2
  · cases htarget

section Handlers

variable {drvNumber : DrvCode → Nat} {socket : Bool} {tempC : Int32}

@[simp] theorem targets_tell (message : Text) : targets (tell socket message) = [] := by
  cases socket with
  | false => rfl
  | true => rfl

theorem targets_coolingLoop {readings : List CoolingReading} {wait : Procedure}
    (hwait : coolingLoop drvNumber socket readings = some wait) : targets wait.events = [] := by
  induction readings generalizing wait with
  | nil => cases hwait
  | cons reading later ih =>
      have hreport : ∀ message, targets (.celsius reading.currentTemp :: tell socket message) =
          [] := targets_tell
      rw [coolingLoop] at hwait
      dsimp only at hwait
      split at hwait
      · rw [← Option.some.inj hwait]
        exact hreport _
      · split at hwait
        · rw [← Option.some.inj hwait]
          exact hreport _
        · split at hwait
          · rw [← Option.some.inj hwait]
            simp only [targets_append, hreport, targets_tell]
            rfl
          · obtain ⟨rest, hrest, rfl⟩ := Option.map_eq_some_iff.mp hwait
            simp only [targets_append, hreport, ih hrest]
            rfl

/-- SetTemperature is called once, whatever comes of it. -/
theorem targets_coolToTemperature {answers : CoolingAnswers} {procedure : Procedure}
    (hcool : coolToTemperature drvNumber socket tempC answers = some procedure) :
    targets procedure.events = [tempC] := by
  have hstart : ∀ message, targets (.celsius answers.currentTemp :: tell socket message ++
      [.setTemperature tempC]) = [tempC] := by
    intro message
    rw [targets_append]
    exact congrArg (· ++ [tempC]) (targets_tell message)
  rw [coolToTemperature] at hcool
  split at hcool
  · rw [← Option.some.inj hcool]
    simp only [targets_append, hstart, targets_tell, List.append_nil]
  · split at hcool
    · rw [← Option.some.inj hcool]
      rw [targets_append, hstart]
      exact congrArg ([tempC] ++ ·) (targets_tell _)
    · obtain ⟨wait, hwait, rfl⟩ := Option.map_eq_some_iff.mp hcool
      rw [targets_append, hstart]
      exact congrArg ([tempC] ++ ·) (targets_coolingLoop hwait)

theorem coolToTemperature_coolerOff {answers : CoolingAnswers} {procedure : Procedure}
    (hcool : coolToTemperature drvNumber socket tempC answers = some procedure) :
    .coolerOff ∉ procedure.events := by
  intro hmem
  have hholds : HoldsWhileCooling tempC (· ≠ .coolerOff) :=
    ⟨fun _ => nofun, fun _ => nofun, fun _ => nofun, nofun, nofun⟩
  exact forall_events_coolToTemperature hholds hcool _ hmem rfl

theorem setTemperature_targets {command : CommandBuffer} {answers : CoolingAnswers}
    {procedure : Procedure}
    (hset : setTemperature drvNumber command answers = .ok (some procedure)) :
    targets procedure.events = (settempTarget command).toList := by
  simp only [settempTarget]
  rw [setTemperature] at hset
  split at hset
  · rename_i hother
    rw [← Option.some.inj (Except.ok.inj hset), if_neg fun haccepts => hother haccepts.1]
    rfl
  · rename_i hsettemp
    obtain ⟨parsed, hparsed, hset⟩ := checked_bind_eq_ok.mp hset
    have hread : strtol (command.bytes.drop 7) = parsed := by
      rw [strtolIn] at hparsed
      split at hparsed
      · cases hparsed
      · exact Except.ok.inj hparsed
    rw [hread]
    dsimp only at hset
    split at hset
    · rename_i hnumber
      obtain ⟨text, -, hset⟩ := checked_bind_eq_ok.mp hset
      rw [← Option.some.inj (Except.ok.inj hset), if_neg]
      · rfl
      · rintro ⟨-, hrest, herange, -⟩
        rcases hnumber with hsame | hrange
        · exact hrest hsame
        · exact Bool.noConfusion (hrange.symm.trans herange)
    · rename_i hnumber
      rw [not_or, Bool.not_eq_true] at hnumber
      split at hset
      · rename_i houtside
        obtain ⟨text, -, hset⟩ := checked_bind_eq_ok.mp hset
        rw [← Option.some.inj (Except.ok.inj hset), if_neg]
        · rfl
        · rintro ⟨-, -, -, hlow, hhigh⟩
          omega
      · rename_i hinside
        rw [not_or, Int.not_lt, Int.not_lt] at hinside
        rw [if_pos ⟨not_not.mp hsettemp, hnumber.1, hnumber.2, hinside⟩]
        exact targets_coolToTemperature (Except.ok.inj hset)

/-- Only `settemp` is cooling. -/
theorem settempTarget_of_handler {command : CommandBuffer}
    (hhandler : handlerOf command ≠ .setTemperature) : settempTarget command = none := by
  simp only [settempTarget]
  rw [if_neg]
  rintro ⟨hsettemp, -⟩
  rw [handlerOf, if_pos hsettemp] at hhandler
  exact hhandler rfl

theorem targets_resolveCommand {received : Received} {params : AndorParameters}
    {served : Served} (hserved : resolveCommand drvNumber received params = .ok (some served)) :
    targets served.events = (settempTarget received.command.buffer).toList := by
  have hevents := resolveCommand_events hserved
  generalize hhandler : handlerOf received.command.buffer = handler at hevents
  generalize served.events = events at hevents ⊢
  cases hevents with
  | setTemperature procedure hset => exact setTemperature_targets hset
  | printStatus =>
      rw [settempTarget_of_handler (by rw [hhandler]; decide)]
      rfl
  | getImage events =>
      rw [settempTarget_of_handler (by rw [hhandler]; decide)]
      refine targets_eq_nil fun event hevent temperature => ?_
      obtain ⟨scanned, -, rfl⟩ := List.mem_map.mp hevent
      rintro ⟨⟩
  | silent _ hother =>
      rw [settempTarget_of_handler (by rw [hhandler]; exact hother)]
      rfl

theorem coolerOff_not_mem {received : Received} {params : AndorParameters} {served : Served}
    (hserved : resolveCommand drvNumber received params = .ok (some served)) :
    .coolerOff ∉ served.events := by
  have hevents := resolveCommand_events hserved
  generalize handlerOf received.command.buffer = handler at hevents
  generalize served.events = events at hevents ⊢
  cases hevents with
  | setTemperature procedure hset =>
      rcases setTemperature_cases hset with rfl | ⟨targetTemp, hcool⟩
      · simp [invalidCommand]
      · exact fun hmem => coolToTemperature_coolerOff hcool hmem
  | printStatus => simp [printStatus]
  | getImage events => simp
  | silent => exact List.not_mem_nil

end Handlers

/-- SetTemperature is called for the commands that have been resolved, and for no others. -/
def FollowsCommands (events : List DaemonEvent) : Prop :=
  targets events = (resolved events).filterMap settempTarget

theorem FollowsCommands.append {first second : List DaemonEvent}
    (hfirst : FollowsCommands first) (hsecond : FollowsCommands second) :
    FollowsCommands (first ++ second) := by
  rw [FollowsCommands, targets_append, resolved_append, List.filterMap_append, hfirst, hsecond]

section Runs

variable {drvNumber : DrvCode → Nat} {params : AndorParameters}

theorem followsCommands_served {received : Received} {served : Served}
    (hserved : resolveCommand drvNumber received params = .ok (some served)) :
    FollowsCommands (.resolve received.command.buffer :: served.events) := by
  have hhandler : resolved served.events = [] := resolved_eq_nil (resolveCommand_inHandler hserved)
  have htargets := targets_resolveCommand hserved
  have hresolved : resolved (.resolve received.command.buffer :: served.events) =
      [received.command.buffer] := congrArg (_ :: ·) hhandler
  rw [FollowsCommands, hresolved, List.filterMap_cons]
  refine htargets.trans ?_
  cases settempTarget received.command.buffer with
  | none => rfl
  | some temperature => rfl

/-- A conversation that no handler holds up. -/
theorem chat_followsCommands {received : List Received} {run : ChatRun}
    (hchat : chat drvNumber received params = .ok run) (hidle : run.state ≠ .busy) :
    FollowsCommands run.events ∧ .coolerOff ∉ run.events := by
  induction received generalizing params run with
  | nil =>
      rw [← Except.ok.inj hchat]
      exact ⟨rfl, List.not_mem_nil⟩
  | cons result later ih =>
      by_cases hdelivers : result.command.message = []
      · rw [chat, hdelivers, List.length_nil, if_pos Nat.zero_lt_one] at hchat
        rw [← Except.ok.inj hchat]
        exact ⟨rfl, List.not_mem_nil⟩
      · obtain ⟨served, hserved, hrest⟩ := (chat_cons hdelivers hchat).resolve_left hidle
        have hfollows := followsCommands_served hserved
        have hround : .coolerOff ∉ .resolve result.command.buffer :: served.events := by
          rw [List.mem_cons, not_or]
          exact ⟨by rintro ⟨⟩, coolerOff_not_mem hserved⟩
        rcases hrest with ⟨-, rfl⟩ | ⟨-, rest, hlater, rfl⟩
        · exact ⟨hfollows, hround⟩
        · obtain ⟨hrests, hnever⟩ := ih hlater hidle
          refine ⟨hfollows.append hrests, ?_⟩
          rw [List.mem_append, not_or]
          exact ⟨hround, hnever⟩

theorem clientLoop_followsCommands {accepts : List Accepted} {clients : ClientLoop}
    (hclients : clientLoop drvNumber accepts params = .ok (some clients)) :
    FollowsCommands clients.events ∧ .coolerOff ∉ clients.events := by
  induction accepts generalizing params clients with
  | nil => cases hclients
  | cons accepted later ih =>
      rw [clientLoop] at hclients
      split at hclients
      · rw [← Option.some.inj (Except.ok.inj hclients)]
        exact ⟨rfl, List.not_mem_nil⟩
      · obtain ⟨run, hchat, hclients⟩ := checked_bind_eq_ok.mp hclients
        split at hclients
        · rename_i status hreturned
          obtain ⟨hfollows, hnever⟩ := chat_followsCommands hchat (by rw [hreturned]; rintro ⟨⟩)
          split at hclients
          · rw [← Option.some.inj (Except.ok.inj hclients)]
            exact ⟨hfollows, hnever⟩
          · obtain ⟨found, hlater, hclients⟩ := checked_bind_eq_ok.mp hclients
            obtain ⟨rest, rfl, rfl⟩ := Option.map_eq_some_iff.mp (Except.ok.inj hclients)
            obtain ⟨hrests, hnone⟩ := ih hlater
            refine ⟨hfollows.append hrests, ?_⟩
            rw [List.mem_append, not_or]
            exact ⟨hnever, hnone⟩
        · cases hclients

theorem serveClients_followsCommands {answers : DaemonAnswers} {clients : ClientLoop}
    (hclients : serveClients drvNumber answers params = .ok (some clients)) :
    FollowsCommands clients.events ∧ .coolerOff ∉ clients.events := by
  rw [serveClients] at hclients
  split at hclients
  · exact clientLoop_followsCommands hclients
  · rw [← Option.some.inj (Except.ok.inj hclients)]
    exact ⟨rfl, List.not_mem_nil⟩

end Runs

/-- No command is served, and nothing makes the camera colder. -/
structure LetsWarm (events : List DaemonEvent) : Prop where
  coolerOn : .coolerOn ∉ events
  targets : targets events = []
  resolved : resolved events = []

/-- Once the cooler has been switched off, it stays off. -/
def CoolerStaysOff (events : List DaemonEvent) : Prop :=
  ∀ before after, events = before ++ .coolerOff :: after → LetsWarm after

theorem letsWarm_append {first second : List DaemonEvent} :
    LetsWarm (first ++ second) ↔ LetsWarm first ∧ LetsWarm second := by
  constructor
  · rintro ⟨hcooler, htargets, hresolved⟩
    rw [List.mem_append, not_or] at hcooler
    rw [targets_append, List.append_eq_nil_iff] at htargets
    rw [resolved_append, List.append_eq_nil_iff] at hresolved
    exact ⟨⟨hcooler.1, htargets.1, hresolved.1⟩, ⟨hcooler.2, htargets.2, hresolved.2⟩⟩
  · rintro ⟨hfirst, hsecond⟩
    refine ⟨?_, ?_, ?_⟩
    · rw [List.mem_append, not_or]
      exact ⟨hfirst.coolerOn, hsecond.coolerOn⟩
    · rw [targets_append, hfirst.targets, hsecond.targets, List.append_nil]
    · rw [resolved_append, hfirst.resolved, hsecond.resolved, List.append_nil]

theorem coolerStaysOff_of_not_mem {events : List DaemonEvent} (hnone : .coolerOff ∉ events) :
    CoolerStaysOff events := by
  rintro before after rfl
  exact absurd (List.mem_append_right before List.mem_cons_self) hnone

theorem LetsWarm.coolerStaysOff {events : List DaemonEvent} (hwarm : LetsWarm events) :
    CoolerStaysOff events := by
  rintro before after rfl
  obtain ⟨-, hafter⟩ := letsWarm_append.mp hwarm
  exact (@letsWarm_append [.coolerOff] after).mp hafter |>.2

/-- The cooler is switched off in what warms the camera only. -/
theorem CoolerStaysOff.append {first second : List DaemonEvent} (hfirst : .coolerOff ∉ first)
    (hsecond : CoolerStaysOff second) : CoolerStaysOff (first ++ second) := by
  intro before after hsplit
  rcases List.append_eq_append_iff.mp hsplit with ⟨middle, rfl, hsecond'⟩ |
    ⟨middle, rfl, hmiddle⟩
  · exact hsecond middle after hsecond'
  · cases middle with
    | nil => exact hsecond [] after hmiddle.symm
    | cons event rest =>
        obtain ⟨rfl, -⟩ := List.cons.inj hmiddle
        exact absurd (List.mem_append_right before List.mem_cons_self) hfirst

theorem warmingLoop_letsWarm {readings : List WarmingReading} {events : List DaemonEvent}
    (hwarming : warmingLoop readings = some events) : LetsWarm events := by
  induction readings generalizing events with
  | nil => cases hwarming
  | cons reading later ih =>
      rw [warmingLoop] at hwarming
      split at hwarming
      · rw [← Option.some.inj hwarming]
        exact ⟨by simp, rfl, rfl⟩
      · have hwaited : LetsWarm [.celsius reading.currentTemp, .elapsed reading.elapsed] :=
          ⟨by simp, rfl, rfl⟩
        dsimp only at hwarming
        split at hwarming
        · rw [← Option.some.inj hwarming]
          exact hwaited
        · obtain ⟨rest, hrest, rfl⟩ := Option.map_eq_some_iff.mp hwarming
          exact letsWarm_append.mpr ⟨hwaited, ih hrest⟩

/-- The camera is warmed up, and nothing else happens to it. -/
theorem systemShutdown_letsWarm {answers : ShutdownAnswers} {procedure : Procedure}
    (hshutdown : systemShutdown answers = some procedure) : LetsWarm procedure.events := by
  have hstart : LetsWarm ((if answers.getStatus = .acquiring then [.abortAcquisition] else []) ++
      .celsius answers.currentTemp ::
        if answers.isCoolerOn = .success ∧ answers.coolerOn then [.coolerOff] else []) := by
    split_ifs <;> exact ⟨by simp, rfl, rfl⟩
  have hend : LetsWarm [.shutDown] := ⟨by simp, rfl, rfl⟩
  rw [systemShutdown] at hshutdown
  split at hshutdown
  · obtain ⟨warming, hwarming, rfl⟩ := Option.map_eq_some_iff.mp hshutdown
    exact letsWarm_append.mpr
      ⟨letsWarm_append.mpr ⟨hstart, warmingLoop_letsWarm hwarming⟩, hend⟩
  · rw [← Option.some.inj hshutdown]
    exact letsWarm_append.mpr ⟨hstart, hend⟩

/-- A run of `main` that returns: the camera is not initialised, or it is cooled, clients are
served if it gets cold, and it is warmed up if no `accept` fails. -/
theorem main_cases {drvNumber : DrvCode → Nat} {memory : List UInt8} {answers : DaemonAnswers}
    {procedure : Procedure} (hmain : main drvNumber memory answers = .ok (some procedure)) :
    (answers.initialization ≠ .success ∧ procedure.events = []) ∨
      (answers.initialization = .success ∧ ∃ cooling,
        coolToTemperature drvNumber false initializeToTemp answers.cooling = some cooling ∧
        (procedure.events = cooling.events ∨ ∃ clients,
          serveClients drvNumber answers (AndorParameters.initial memory) =
            .ok (some clients) ∧
          (procedure.events = cooling.events ++ clients.events ∨ ∃ shutdown,
            systemShutdown answers.shutdown = some shutdown ∧
            procedure.events = cooling.events ++ clients.events ++ shutdown.events))) := by
  have hmode : ¬ (AndorParameters.initial memory).readOutMode ≠ .image :=
    not_not.mpr (AndorParameters.readOutMode_initial memory)
  have hcamera : ¬ selectCamera (AndorParameters.initial memory).cameraNum
      answers.numCameras < 0 := by
    rw [show selectCamera (AndorParameters.initial memory).cameraNum answers.numCameras = 0
      from rfl]
    decide
  rw [main, if_neg hmode, if_neg hcamera] at hmain
  split at hmain
  · rename_i hfailed
    rw [← Option.some.inj (Except.ok.inj hmain)]
    exact Or.inl ⟨hfailed, rfl⟩
  · rename_i hinitialised
    refine Or.inr ⟨not_not.mp hinitialised, ?_⟩
    split at hmain
    · cases hmain
    · rename_i cooling hcool
      refine ⟨cooling, hcool, ?_⟩
      split at hmain
      · rw [← Option.some.inj (Except.ok.inj hmain)]
        exact Or.inl rfl
      · obtain ⟨found, hfound, hmain⟩ := checked_bind_eq_ok.mp hmain
        cases found with
        | none => cases hmain
        | some clients =>
            refine Or.inr ⟨clients, hfound, ?_⟩
            dsimp only at hmain
            split at hmain
            · rw [← Option.some.inj (Except.ok.inj hmain)]
              exact Or.inl rfl
            · obtain ⟨shutdown, hshutdown, rfl⟩ :=
                Option.map_eq_some_iff.mp (Except.ok.inj hmain)
              exact Or.inr ⟨shutdown, hshutdown, rfl⟩

/-- Over a run of the daemon the camera is given the target of the start and then those of the
accepted `settemp` commands, in their order and no others; each is one the camera can be cooled
to, and none is set behind the cooler being switched off. -/
theorem main_cools_as_told {drvNumber : DrvCode → Nat} {memory : List UInt8}
    {answers : DaemonAnswers} {procedure : Procedure}
    (hmain : main drvNumber memory answers = .ok (some procedure)) :
    targets procedure.events =
        (if answers.initialization = .success then [initializeToTemp] else []) ++
          (resolved procedure.events).filterMap settempTarget ∧
      (∀ temperature ∈ targets procedure.events,
        andorMinTemp ≤ temperature.toInt ∧ temperature.toInt ≤ andorMaxTemp) ∧
      CoolerStaysOff procedure.events := by
  have htold : targets procedure.events =
      (if answers.initialization = .success then [initializeToTemp] else []) ++
        (resolved procedure.events).filterMap settempTarget ∧
      CoolerStaysOff procedure.events := by
    rcases main_cases hmain with ⟨hfailed, hnone⟩ | ⟨hinitialised, cooling, hcool, hrest⟩
    · rw [hnone, if_neg hfailed]
      exact ⟨rfl, coolerStaysOff_of_not_mem List.not_mem_nil⟩
    · have htargets := targets_coolToTemperature hcool
      have hresolved := resolved_eq_nil (coolToTemperature_inHandler hcool)
      have hcold := coolToTemperature_coolerOff hcool
      rw [if_pos hinitialised]
      rcases hrest with hevents | ⟨clients, hclients, hrest⟩
      · rw [hevents, htargets, hresolved]
        exact ⟨rfl, coolerStaysOff_of_not_mem hcold⟩
      · obtain ⟨hfollows, hnever⟩ := serveClients_followsCommands hclients
        have hquiet : .coolerOff ∉ cooling.events ++ clients.events := by
          rw [List.mem_append, not_or]
          exact ⟨hcold, hnever⟩
        rcases hrest with hevents | ⟨shutdown, hshutdown, hevents⟩
        · rw [hevents, targets_append, resolved_append, htargets, hresolved, hfollows]
          exact ⟨rfl, coolerStaysOff_of_not_mem hquiet⟩
        · have hwarm := systemShutdown_letsWarm hshutdown
          rw [hevents]
          refine ⟨?_, .append hquiet hwarm.coolerStaysOff⟩
          simp only [targets_append, resolved_append, htargets, hresolved, hwarm.targets,
            hwarm.resolved, List.append_nil, List.nil_append]
          rw [hfollows]
  obtain ⟨htargets, hoff⟩ := htold
  refine ⟨htargets, fun temperature htemperature => ?_, hoff⟩
  rw [htargets] at htemperature
  rcases List.mem_append.mp htemperature with hstart | hcommand
  · split at hstart
    · rw [List.mem_singleton.mp hstart]
      decide
    · cases hstart
  · obtain ⟨command, -, htarget⟩ := List.mem_filterMap.mp hcommand
    exact settempTarget_bounds htarget

/-- A target that is accepted, one that is refused, and the end. -/
def settempClient : DaemonAnswers :=
  goodDaemon [⟨4, [goodMessage (ascii "settemp -60") (by decide),
    goodMessage (ascii "settemp 60") (by decide), goodMessage (ascii "shutdown") (by decide)]⟩]

theorem settempClient_cools_as_told :
    ∃ procedure, main (fun _ => 20002) [] settempClient = .ok (some procedure) ∧
      targets procedure.events =
          (if settempClient.initialization = .success then [initializeToTemp] else []) ++
            (resolved procedure.events).filterMap settempTarget ∧
        (∀ temperature ∈ targets procedure.events,
          andorMinTemp ≤ temperature.toInt ∧ temperature.toInt ≤ andorMaxTemp) ∧
        CoolerStaysOff procedure.events := by
  have hreturns : (main (fun _ => 20002) [] settempClient).map
      (fun procedure => procedure.map fun procedure => targets procedure.events) =
        .ok (some [-50, -60]) := by
    decide +kernel
  obtain ⟨found, hfound, htargets⟩ := checked_map_eq_ok.mp hreturns
  obtain ⟨procedure, rfl, -⟩ := Option.map_eq_some_iff.mp htargets
  exact ⟨procedure, hfound, main_cools_as_told hfound⟩

end Andor2k
