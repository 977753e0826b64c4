/-
resolve_command: the handlers of the daemon with what they return and do.
-/
import Andor2k.Cooling

namespace Andor2k

open CText

/-- What the camera reports about itself. -/
structure StatusAnswers where
  getStatus : DrvCode
  getTemperature : DrvCode
  ctemp : Int32

/-- What the handler of a command is answered, by the SDK and by the file system. -/
structure CommandAnswers where
  cooling : CoolingAnswers
  status : StatusAnswers
  setup : SetupAnswers
  scan : Acquisition.ScanAnswers

/-- One `recv` of a conversation, and the answers while the message is processed. -/
structure Received where
  command : Command
  answers : CommandAnswers

/-- What a handler returns and leaves behind. -/
structure Served where
  status : Int
  params : AndorParameters
  events : List DaemonEvent
deriving DecidableEq

def invalidCommand : Procedure := ⟨1, [.sent (ascii "done;error:1;status:Invalid command!")]⟩

/-- `settemp`; the refused command is printed. -/
def setTemperature (drvNumber : DrvCode → Nat) (command : CommandBuffer)
    (answers : CoolingAnswers) : Checked (Option Procedure) := do
  if ¬ startsWith command.bytes (ascii "settemp") then return some invalidCommand
  let argument := command.bytes.drop 7
  let parsed ← strtolIn argument
  let targetTemp := Int32.ofInt parsed.value
  if parsed.rest = argument ∨ parsed.erange then
    let _ ← command.text
    return some invalidCommand
  if targetTemp.toInt < andorMinTemp ∨ andorMaxTemp < targetTemp.toInt then
    let _ ← command.text
    return some invalidCommand
  return coolToTemperature drvNumber true targetTemp answers

/-- `status`, without the time stamp. -/
def printStatus (answers : StatusAnswers) : Procedure :=
  ⟨0, [.sent (ascii "status:" ++ statusString answers.getStatus ++ ascii ";temp:" ++
    printSigned answers.ctemp.toInt ++ ascii " (" ++
    getTemperatureString answers.getTemperature ++ ascii ");")]⟩

/-- `none` when the handler has not returned. -/
def resolveCommand (drvNumber : DrvCode → Nat) (received : Received)
    (params : AndorParameters) : Checked (Option Served) :=
  let command := received.command.buffer
  let answers := received.answers
  match handlerOf command with
  | .setTemperature =>
      (setTemperature drvNumber command answers.cooling).map fun found =>
        found.map fun procedure => ⟨procedure.status, params, procedure.events⟩
  | .shutdown => .ok (some ⟨-100, params, []⟩)
  | .printStatus =>
      .ok (some ⟨(printStatus answers.status).status, params,
        (printStatus answers.status).events⟩)
  | .setParamValue =>
      (setParamValue received.command.sdk command params).map fun reply =>
        some ⟨reply.status, reply.params, []⟩
  | .getImage =>
      (Acquisition.getImage drvNumber answers.setup answers.scan command params).map fun found =>
        found.map fun run => ⟨run.status, run.params, run.events.map .image⟩
  | .abort => .ok (some ⟨0, params, []⟩)
  | .unknown => command.text.map fun _ => some ⟨1, params, []⟩

/-- The command is invalid, or its temperature is handed on. -/
theorem setTemperature_cases {drvNumber : DrvCode → Nat} {command : CommandBuffer}
    {answers : CoolingAnswers} {procedure : Procedure}
    (hset : setTemperature drvNumber command answers = .ok (some procedure)) :
    procedure = invalidCommand ∨
      ∃ targetTemp, coolToTemperature drvNumber true targetTemp answers = some procedure := by
  rw [setTemperature] at hset
  split at hset
  · exact Or.inl (Option.some.inj (Except.ok.inj hset)).symm
  · obtain ⟨parsed, -, hset⟩ := checked_bind_eq_ok.mp hset
    dsimp only at hset
    split at hset
    · obtain ⟨text, -, hset⟩ := checked_bind_eq_ok.mp hset
      exact Or.inl (Option.some.inj (Except.ok.inj hset)).symm
    · split at hset
      · obtain ⟨text, -, hset⟩ := checked_bind_eq_ok.mp hset
        exact Or.inl (Option.some.inj (Except.ok.inj hset)).symm
      · exact Or.inr ⟨_, Except.ok.inj hset⟩

theorem setTemperature_status {drvNumber : DrvCode → Nat} {command : CommandBuffer}
    {answers : CoolingAnswers} {procedure : Procedure}
    (hset : setTemperature drvNumber command answers = .ok (some procedure)) :
    procedure.status = 0 ∨ procedure.status = 1 := by
  rcases setTemperature_cases hset with rfl | ⟨targetTemp, hcool⟩
  · exact Or.inr rfl
  · exact (coolToTemperature_status hcool).1

theorem SetOption.refused_status {option : SetOption} {sdk : SetParamAnswers}
    {params after : AndorParameters} {token : Text} {status : Int}
    (hstore : option.store sdk params token = .ok (.refused status after)) : 0 < status := by
  cases option with
  | acqmode =>
      simp only [store, setAcqmode] at hstore
      split at hstore
      · cases hstore
        decide
      · cases hstore
  | kineticcycletime =>
      simp only [store, setKineticcycletime] at hstore
      split at hstore
      · cases hstore
        decide
      · cases hstore
  | observername =>
      simp only [store, setObservername] at hstore
      split at hstore
      · cases hstore
      · cases hstore
  | hsspeed =>
      simp only [store, setHsspeed] at hstore
      split_ifs at hstore
      · cases hstore
        decide
      · cases hstore
        decide
      · cases hstore
        decide
      · cases hstore
  | preampgain =>
      simp only [store, setPreampgain] at hstore
      split_ifs at hstore
      · cases hstore
        decide
      · cases hstore
        decide
      · cases hstore

theorem setOptions_status {sdk : Nat → SetParamAnswers} {index : Nat} {tokens : Tokens}
    {params : AndorParameters} {reply : Reply}
    (hreply : setOptions sdk index tokens params = .ok reply) : 0 ≤ reply.status := by
  induction tokens generalizing index params with
  | done =>
      rw [← Except.ok.inj hreply]
  | overrun => cases hreply
  | token word rest ih =>
      rw [setOptions] at hreply
      split at hreply
      · exact ih hreply
      · split at hreply
        · cases hreply
        · rename_i hstore
          rw [← Except.ok.inj hreply]
          exact Int.le_of_lt (SetOption.refused_status hstore)
        · exact ih hreply

theorem setParamValue_status {sdk : Nat → SetParamAnswers} {command : CommandBuffer}
    {params : AndorParameters} {reply : Reply}
    (hreply : setParamValue sdk command params = .ok reply) : 0 ≤ reply.status := by
  rw [setParamValue] at hreply
  split at hreply
  · rw [← Except.ok.inj hreply]
    exact Int.one_nonneg
  · split at hreply
    · cases hreply
    · rw [← Except.ok.inj hreply]
    · exact setOptions_status hreply

/-- `get_image` leaves the parameters as its parser does. -/
theorem getImage_spec {drvNumber : DrvCode → Nat} {setupAnswers : SetupAnswers}
    {answers : Acquisition.ScanAnswers} {command : CommandBuffer} {params : AndorParameters}
    {run : Acquisition.ImageRun}
    (hrun : Acquisition.getImage drvNumber setupAnswers answers command params =
      .ok (some run)) :
    0 ≤ run.status ∧
      ∃ status, resolveImageParameters command params = .ok ⟨status, run.params⟩ := by
  rcases Acquisition.getImage_cases hrun with ⟨status, hreply, -, hstatus, -⟩ |
    ⟨hreply, setup, data, -, ⟨-, hstatus, -⟩ |
      ⟨-, width, height, array, scan, -, -, -, hstatus, -⟩⟩
  · rw [hstatus]
    exact ⟨Int.one_nonneg, status, hreply⟩
  · rw [hstatus]
    exact ⟨Int.zero_le_ofNat 2, 0, hreply⟩
  · rw [hstatus]
    refine ⟨?_, 0, hreply⟩
    split
    · decide
    · decide

theorem not_shutdown {status : Int} {handler : Handler} (hstatus : 0 ≤ status)
    (hhandler : handler ≠ .shutdown) : status = -100 ↔ handler = .shutdown :=
  ⟨fun hless => by omega, fun hequal => absurd hequal hhandler⟩

/-- Only `shutdown` is answered by the number that ends the conversation, and the
parameters are those of the parsers. -/
theorem resolveCommand_spec {drvNumber : DrvCode → Nat} {received : Received}
    {params : AndorParameters} {served : Served}
    (hserved : resolveCommand drvNumber received params = .ok (some served)) :
    (served.status = -100 ↔ handlerOf received.command.buffer = .shutdown) ∧
      serve params received.command = .ok served.params := by
  unfold resolveCommand at hserved
  unfold serve parserReply
  cases hhandler : handlerOf received.command.buffer with
  | setTemperature =>
      simp only [hhandler] at hserved
      obtain ⟨found, hset, hserved⟩ := checked_map_eq_ok.mp hserved
      obtain ⟨procedure, rfl, rfl⟩ := Option.map_eq_some_iff.mp hserved
      have hstatus : 0 ≤ procedure.status := by
        have := setTemperature_status hset
        omega
      exact ⟨not_shutdown hstatus (by decide), rfl⟩
  | shutdown =>
      simp only [hhandler, Except.ok.injEq, Option.some.injEq] at hserved
      subst served
      exact ⟨⟨fun _ => rfl, fun _ => rfl⟩, rfl⟩
  | printStatus =>
      simp only [hhandler, Except.ok.injEq, Option.some.injEq] at hserved
      subst served
      exact ⟨not_shutdown (Int.le_refl 0) (by decide), rfl⟩
  | setParamValue =>
      simp only [hhandler] at hserved
      obtain ⟨reply, hreply, hserved⟩ := checked_map_eq_ok.mp hserved
      obtain rfl := Option.some.inj hserved
      dsimp only
      rw [hreply]
      exact ⟨not_shutdown (setParamValue_status hreply) (by decide), rfl⟩
  | getImage =>
      simp only [hhandler] at hserved
      obtain ⟨found, hrun, hserved⟩ := checked_map_eq_ok.mp hserved
      obtain ⟨run, rfl, rfl⟩ := Option.map_eq_some_iff.mp hserved
      obtain ⟨hstatus, code, hreply⟩ := getImage_spec hrun
      dsimp only
      rw [hreply]
      exact ⟨not_shutdown hstatus (by decide), rfl⟩
  | abort =>
      simp only [hhandler, Except.ok.injEq, Option.some.injEq] at hserved
      subst served
      exact ⟨not_shutdown (Int.le_refl 0) (by decide), rfl⟩
  | unknown =>
      simp only [hhandler] at hserved
      obtain ⟨text, -, hserved⟩ := checked_map_eq_ok.mp hserved
      obtain rfl := Option.some.inj hserved
      exact ⟨not_shutdown Int.one_nonneg (by decide), rfl⟩

/-- Commands are handed out and the camera is shut down by the daemon's own loop. -/
def InHandler (event : DaemonEvent) : Prop :=
  event ≠ .shutDown ∧ ∀ command, event ≠ .resolve command

theorem coolToTemperature_inHandler {drvNumber : DrvCode → Nat} {socket : Bool}
    {tempC : Int32} {answers : CoolingAnswers} {procedure : Procedure}
    (hcool : coolToTemperature drvNumber socket tempC answers = some procedure) :
    ∀ event ∈ procedure.events, InHandler event := by
  refine forall_events_coolToTemperature ⟨?_, ?_, ?_, ?_, ?_⟩ hcool
  · exact fun _ => ⟨nofun, nofun⟩
  · exact fun _ => ⟨nofun, nofun⟩
  · exact fun _ => ⟨nofun, nofun⟩
  · exact ⟨nofun, nofun⟩
  · exact ⟨nofun, nofun⟩

theorem setTemperature_inHandler {drvNumber : DrvCode → Nat} {command : CommandBuffer}
    {answers : CoolingAnswers} {procedure : Procedure}
    (hset : setTemperature drvNumber command answers = .ok (some procedure)) :
    ∀ event ∈ procedure.events, InHandler event := by
  rcases setTemperature_cases hset with rfl | ⟨targetTemp, hcool⟩
  · intro event hevent
    rw [List.mem_singleton.mp hevent]
    exact ⟨nofun, nofun⟩
  · exact coolToTemperature_inHandler hcool

theorem resolveCommand_inHandler {drvNumber : DrvCode → Nat} {received : Received}
    {params : AndorParameters} {served : Served}
    (hserved : resolveCommand drvNumber received params = .ok (some served)) :
    ∀ event ∈ served.events, InHandler event := by
  unfold resolveCommand at hserved
  cases hhandler : handlerOf received.command.buffer with
  | setTemperature =>
      simp only [hhandler] at hserved
      obtain ⟨found, hset, hserved⟩ := checked_map_eq_ok.mp hserved
      obtain ⟨procedure, rfl, rfl⟩ := Option.map_eq_some_iff.mp hserved
      exact setTemperature_inHandler hset
  | printStatus =>
      simp only [hhandler, Except.ok.injEq, Option.some.injEq] at hserved
      subst served
      intro event hevent
      rw [List.mem_singleton.mp hevent]
      exact ⟨nofun, nofun⟩
  | setParamValue =>
      simp only [hhandler] at hserved
      obtain ⟨reply, -, hserved⟩ := checked_map_eq_ok.mp hserved
      obtain rfl := Option.some.inj hserved
      exact List.forall_mem_nil _
  | getImage =>
      simp only [hhandler] at hserved
      obtain ⟨found, -, hserved⟩ := checked_map_eq_ok.mp hserved
      obtain ⟨run, rfl, rfl⟩ := Option.map_eq_some_iff.mp hserved
      intro event hevent
      obtain ⟨scanned, -, rfl⟩ := List.mem_map.mp hevent
      exact ⟨nofun, nofun⟩
  | shutdown | abort =>
      simp only [hhandler, Except.ok.injEq, Option.some.injEq] at hserved
      subst served
      exact List.forall_mem_nil _
  | unknown =>
      simp only [hhandler] at hserved
      obtain ⟨text, -, hserved⟩ := checked_map_eq_ok.mp hserved
      obtain rfl := Option.some.inj hserved
      exact List.forall_mem_nil _

/-- What the handler of a command has done when it returns: only `settemp`, `status` and
`image` do anything that shows. -/
inductive HandlerEvents (drvNumber : DrvCode → Nat) (received : Received) :
    Handler → List DaemonEvent → Prop where
  | setTemperature (procedure : Procedure)
      (hset : setTemperature drvNumber received.command.buffer received.answers.cooling =
        .ok (some procedure)) :
      HandlerEvents drvNumber received .setTemperature procedure.events
  | printStatus :
      HandlerEvents drvNumber received .printStatus (printStatus received.answers.status).events
  | getImage (events : List Acquisition.ScanEvent) :
      HandlerEvents drvNumber received .getImage (events.map .image)
  | silent (handler : Handler) (hother : handler ≠ .setTemperature)
      (hstatus : handler ≠ .printStatus) (himage : handler ≠ .getImage) :
      HandlerEvents drvNumber received handler []

theorem resolveCommand_events {drvNumber : DrvCode → Nat} {received : Received}
    {params : AndorParameters} {served : Served}
    (hserved : resolveCommand drvNumber received params = .ok (some served)) :
    HandlerEvents drvNumber received (handlerOf received.command.buffer) served.events := by
  unfold resolveCommand at hserved
  cases hhandler : handlerOf received.command.buffer with
  | setTemperature =>
      simp only [hhandler] at hserved
      obtain ⟨found, hset, hserved⟩ := checked_map_eq_ok.mp hserved
      obtain ⟨procedure, rfl, rfl⟩ := Option.map_eq_some_iff.mp hserved
      exact .setTemperature procedure hset
  | printStatus =>
      simp only [hhandler, Except.ok.injEq, Option.some.injEq] at hserved
      subst served
      exact .printStatus
  | getImage =>
      simp only [hhandler] at hserved
      obtain ⟨found, -, hserved⟩ := checked_map_eq_ok.mp hserved
      obtain ⟨run, rfl, rfl⟩ := Option.map_eq_some_iff.mp hserved
      exact .getImage run.events
  | setParamValue =>
      simp only [hhandler] at hserved
      obtain ⟨reply, -, hserved⟩ := checked_map_eq_ok.mp hserved
      obtain rfl := Option.some.inj hserved
      exact .silent _ nofun nofun nofun
  | shutdown | abort =>
      simp only [hhandler, Except.ok.injEq, Option.some.injEq] at hserved
      subst served
      exact .silent _ nofun nofun nofun
  | unknown =>
      simp only [hhandler] at hserved
      obtain ⟨text, -, hserved⟩ := checked_map_eq_ok.mp hserved
      obtain rfl := Option.some.inj hserved
      exact .silent _ nofun nofun nofun

end Andor2k
