/-
chat: one client's conversation.  There is no framing: what one `recv` returns is one
command.
-/
import Andor2k.CommandHistory
import Andor2k.DoneMessages
import Andor2k.Framing
import Andor2k.ResolveCommand

namespace Andor2k

open CText

/-- Where a conversation is: in `recv`, in `resolve_command`, or over. -/
inductive ChatState where
  | waiting
  | busy
  | returned (status : Int)
deriving DecidableEq

structure ChatRun where
  state : ChatState
  params : AndorParameters
  events : List DaemonEvent
deriving DecidableEq

/-- The loop over the results of `recv`; a result without a byte stands for a closed or
broken connection. -/
def chat (drvNumber : DrvCode → Nat) : List Received → AndorParameters → Checked ChatRun
  | [], params => .ok ⟨.waiting, params, []⟩
  | received :: later, params => do
      if received.command.message.length < 1 then return ⟨.returned 0, params, []⟩
      let buffer := received.command.buffer
      match ← resolveCommand drvNumber received params with
      | none => return ⟨.busy, params, [.resolve buffer]⟩
      | some served =>
          let events := .resolve buffer :: served.events
          if served.status = -100 then return ⟨.returned (-1), served.params, events⟩
          let rest ← chat drvNumber later served.params
          return ⟨rest.state, rest.params, events ++ rest.events⟩

/-- The texts `resolve_command` was called with. -/
def executedCommands (events : List DaemonEvent) : List Text :=
  events.filterMap fun event =>
    match event with
    | .resolve command => some (command.bytes.takeWhile (· ≠ 0))
    | _ => none

/-- The zeros behind a message do not help it to start with a text. -/
theorem startsWith_append_zeros {text literal : Text} (hliteral : 0 ∉ literal) (count : Nat) :
    startsWith (text ++ List.replicate count 0) literal = startsWith text literal := by
  rw [Bool.eq_iff_iff, startsWith_iff, startsWith_iff]
  constructor
  · intro hleads
    induction text generalizing literal with
    | nil =>
        cases literal with
        | nil => exact List.nil_prefix
        | cons byte rest =>
            have hzero := List.eq_of_mem_replicate (hleads.subset List.mem_cons_self)
            exact absurd (hzero ▸ List.mem_cons_self) hliteral
    | cons first later ih =>
        rcases List.prefix_cons_iff.mp hleads with rfl | ⟨rest, rfl, hrest⟩
        · exact List.nil_prefix
        · exact List.cons_prefix_cons.mpr
            ⟨rfl, ih (fun hmem => hliteral (List.mem_cons_of_mem first hmem)) hrest⟩
  · intro hleads
    exact hleads.trans (List.prefix_append _ _)

/-- A message that ends the conversation. -/
def AsksShutdown (message : Text) : Prop := startsWith message (ascii "shutdown") = true

instance : DecidablePred AsksShutdown := fun message =>
  inferInstanceAs (Decidable (startsWith message (ascii "shutdown") = true))

theorem handlerOf_shutdown_iff (command : Command) :
    handlerOf command.buffer = .shutdown ↔ AsksShutdown command.message := by
  have hstart : startsWith command.buffer.bytes (ascii "shutdown") =
      startsWith command.message (ascii "shutdown") :=
    startsWith_append_zeros (by decide) _
  rw [AsksShutdown, ← hstart]
  constructor
  · intro hhandler
    unfold handlerOf at hhandler
    split_ifs at hhandler with _ hshutdown
    exact hshutdown
  · intro hshutdown
    have hother : startsWith command.buffer.bytes (ascii "settemp") = false := by
      obtain ⟨rest, hbytes⟩ := startsWith_iff.mp hshutdown
      rw [← hbytes]
      rfl
    rw [handlerOf, hother, hshutdown]
    rfl

/-- The C string in the buffer ends with the message, or inside it. -/
theorem takeWhile_buffer (command : Command) :
    command.buffer.bytes.takeWhile (· ≠ 0) = command.message.takeWhile (· ≠ 0) := by
  rw [Command.buffer, List.takeWhile_append, takeWhile_zeros, List.append_nil]
  split
  · rename_i hall
    exact ((List.takeWhile_prefix _).eq_of_length hall).symm
  · rfl

theorem executedCommands_append (first second : List DaemonEvent) :
    executedCommands (first ++ second) = executedCommands first ++ executedCommands second :=
  List.filterMap_append

theorem executedCommands_handler {events : List DaemonEvent}
    (hevents : ∀ event ∈ events, InHandler event) : executedCommands events = [] := by
  refine List.filterMap_eq_nil_iff.mpr fun event hevent => ?_
  cases event with
  | resolve command => exact absurd rfl ((hevents _ hevent).2 command)
  | _ => rfl

/-- One round: the conversation is over, or a command is handed out. -/
theorem chat_cons {drvNumber : DrvCode → Nat} {received : Received} {later : List Received}
    {params : AndorParameters} {run : ChatRun} (hdelivers : received.command.message ≠ [])
    (hchat : chat drvNumber (received :: later) params = .ok run) :
    run.state = .busy ∨
      ∃ served, resolveCommand drvNumber received params = .ok (some served) ∧
        ((AsksShutdown received.command.message ∧
            run = ⟨.returned (-1), served.params,
              .resolve received.command.buffer :: served.events⟩) ∨
          (¬ AsksShutdown received.command.message ∧ ∃ rest,
            chat drvNumber later served.params = .ok rest ∧
            run = ⟨rest.state, rest.params,
              .resolve received.command.buffer :: served.events ++ rest.events⟩)) := by
  have hlength : ¬ received.command.message.length < 1 := by
    rw [Nat.lt_one_iff, List.length_eq_zero_iff]
    exact hdelivers
  rw [chat, if_neg hlength] at hchat
  obtain ⟨found, hserved, hchat⟩ := checked_bind_eq_ok.mp hchat
  cases found with
  | none =>
      rw [← Except.ok.inj hchat]
      exact Or.inl rfl
  | some served =>
      have hshutdown := (resolveCommand_spec hserved).1.trans
        (handlerOf_shutdown_iff received.command)
      refine Or.inr ⟨served, hserved, ?_⟩
      dsimp only at hchat
      split at hchat
      · rename_i hstatus
        exact Or.inl ⟨hshutdown.mp hstatus, (Except.ok.inj hchat).symm⟩
      · rename_i hstatus
        obtain ⟨rest, hrest, hchat⟩ := checked_bind_eq_ok.mp hchat
        exact Or.inr ⟨fun hasks => hstatus (hshutdown.mpr hasks), rest, hrest,
          (Except.ok.inj hchat).symm⟩

/-- Every result of `recv` is executed as one command, in order, up to a shutdown. -/
theorem executed_of_chat {drvNumber : DrvCode → Nat} {received : List Received}
    {params : AndorParameters} {run : ChatRun}
    (hdelivers : ∀ result ∈ received, result.command.message ≠ [])
    (hchat : chat drvNumber received params = .ok run) (hidle : run.state ≠ .busy) :
    executedCommands run.events =
      (Framing.upTo AsksShutdown (received.map fun result => result.command.message)).map
        (List.takeWhile (· ≠ 0)) := by
  induction received generalizing params run with
  | nil =>
      rw [← Except.ok.inj hchat]
      rfl
  | cons result later ih =>
      obtain ⟨served, hserved, hrest⟩ :=
        (chat_cons (hdelivers result List.mem_cons_self) hchat).resolve_left hidle
      have hone : executedCommands (.resolve result.command.buffer :: served.events) =
          [result.command.message.takeWhile (· ≠ 0)] := by
        have hhandler := executedCommands_handler (resolveCommand_inHandler hserved)
        rw [← takeWhile_buffer]
        exact congrArg (_ :: ·) hhandler
      rw [List.map_cons, Framing.upTo]
      rcases hrest with ⟨hasks, rfl⟩ | ⟨hgoes, rest, hlater, rfl⟩
      · rw [if_pos hasks]
        exact hone
      · rw [if_neg hgoes, executedCommands_append, hone, List.map_cons,
          ih (fun other hother => hdelivers other (List.mem_cons_of_mem result hother)) hlater
            hidle]
        rfl

def newline : UInt8 := 10

/-- What the client program sends at once. -/
def IsCommandLine (line : Text) : Prop := Framing.IsFrame newline line ∧ 0 ∉ line

/-- One command is executed for each result of `recv`, in order, up to a shutdown: what the
message holds before a NUL.  When the client has sent lines, these are its lines exactly when
each of these results is one line. -/
theorem chat_executes_lines_iff {drvNumber : DrvCode → Nat} {received : List Received}
    {params : AndorParameters} {run : ChatRun}
    (hdelivers : ∀ result ∈ received, result.command.message ≠ [])
    (hchat : chat drvNumber received params = .ok run) (hidle : run.state ≠ .busy) :
    let messages := received.map fun result => result.command.message
    executedCommands run.events =
        (Framing.upTo AsksShutdown messages).map (List.takeWhile (· ≠ 0)) ∧
      ∀ lines : List Text, (∀ line ∈ lines, IsCommandLine line) →
        messages.flatten = lines.flatten →
        executedCommands run.events = Framing.upTo AsksShutdown messages ∧
          (executedCommands run.events = Framing.upTo AsksShutdown lines ↔
            ∀ message ∈ Framing.upTo AsksShutdown messages, IsCommandLine message) := by
  intro messages
  refine ⟨executed_of_chat hdelivers hchat hidle, fun lines hlines hstream => ?_⟩
  have hnul : ∀ message ∈ messages, 0 ∉ message := by
    intro message hmessage hzero
    have hmem : (0 : UInt8) ∈ lines.flatten :=
      hstream ▸ List.mem_flatten.mpr ⟨message, hmessage, hzero⟩
    obtain ⟨line, hline, hin⟩ := List.mem_flatten.mp hmem
    exact (hlines line hline).2 hin
  have hexecuted : executedCommands run.events = Framing.upTo AsksShutdown messages := by
    have hwhole : ∀ message ∈ Framing.upTo AsksShutdown messages,
        message.takeWhile (· ≠ 0) = id message := by
      intro message hmessage
      exact takeWhile_ne_self (hnul message (Framing.upTo_subset AsksShutdown messages hmessage))
    rw [executed_of_chat hdelivers hchat hidle, List.map_congr_left hwhole, List.map_id]
  refine ⟨hexecuted, ?_⟩
  rw [hexecuted]
  constructor
  · intro hequal message hmessage
    rw [hequal] at hmessage
    exact hlines message (Framing.upTo_subset AsksShutdown lines hmessage)
  · intro hread
    refine Framing.upTo_eq_of_flatten_eq AsksShutdown (fun line hline => (hlines line hline).1)
      ?_ (fun message hmessage => (hread message hmessage).1) hstream
    intro message hmessage
    obtain ⟨result, hresult, rfl⟩ := List.mem_map.mp hmessage
    exact hdelivers result hresult

/-- A message with which nothing goes wrong. -/
def goodMessage (message : Text) (hfits : message.length ≤ maxSocketBufferSize) : Received where
  command := ⟨message, hfits, fun _ => willingCamera⟩
  answers :=
    { cooling := ⟨20, .success, .success, [⟨.tempStabilized, -50, 0⟩]⟩
      status := ⟨.idle, .tempStabilized, -50⟩
      setup := willingSetup
      scan := Acquisition.willingScan }

def statusLine : Text := ascii "status" ++ [newline]

def shutdownLine : Text := ascii "shutdown" ++ [newline]

theorem isCommandLine_of_mem :
    ∀ line ∈ [statusLine, shutdownLine], IsCommandLine line := by
  intro line hline
  rcases List.mem_pair.mp hline with rfl | rfl
  · exact ⟨⟨ascii "status", by decide, rfl⟩, by decide⟩
  · exact ⟨⟨ascii "shutdown", by decide, rfl⟩, by decide⟩

/-- A conversation with the state it ends in. -/
theorem exists_of_chat {drvNumber : DrvCode → Nat} {received : List Received}
    {params : AndorParameters} {state : ChatState} {texts : List Text}
    (hchat : (chat drvNumber received params).map (fun run =>
      (run.state, executedCommands run.events)) = .ok (state, texts)) :
    ∃ run, chat drvNumber received params = .ok run ∧ run.state = state ∧
      executedCommands run.events = texts := by
  obtain ⟨run, hrun, hboth⟩ := checked_map_eq_ok.mp hchat
  obtain ⟨hstate, htexts⟩ := Prod.mk.inj hboth
  exact ⟨run, hrun, hstate, htexts⟩

/-- One line at a time. -/
def twoMessages : List Received :=
  [goodMessage statusLine (by decide), goodMessage shutdownLine (by decide)]

/-- Both lines at once. -/
def oneMessage : List Received := [goodMessage (statusLine ++ shutdownLine) (by decide)]

theorem two_messages_execute_lines :
    ∃ run, chat (fun _ => 20002) twoMessages (AndorParameters.initial []) = .ok run ∧
      (executedCommands run.events =
          Framing.upTo AsksShutdown [statusLine, shutdownLine] ↔
        ∀ message ∈ Framing.upTo AsksShutdown
            (twoMessages.map fun result => result.command.message), IsCommandLine message) := by
  have hchat : (chat (fun _ => 20002) twoMessages (AndorParameters.initial [])).map (fun run =>
      (run.state, executedCommands run.events)) =
        .ok (.returned (-1), [statusLine, shutdownLine]) := by
    decide +kernel
  obtain ⟨run, hrun, hstate, -⟩ := exists_of_chat hchat
  have hidle : run.state ≠ .busy := by
    rw [hstate]
    decide
  have hdelivers : ∀ result ∈ twoMessages, result.command.message ≠ [] := by
    decide
  obtain ⟨-, hexecutes⟩ := chat_executes_lines_iff hdelivers hrun hidle
  exact ⟨run, hrun, (hexecutes _ isCommandLine_of_mem (by decide)).2⟩

/-- A `shutdown` that arrives together with the line before it is lost. -/
theorem joined_lines_are_one_command :
    ¬ ∀ (drvNumber : DrvCode → Nat) (received : List Received) (params : AndorParameters)
      (run : ChatRun) (lines : List Text), (∀ line ∈ lines, IsCommandLine line) →
      (∀ result ∈ received, result.command.message ≠ []) →
      (received.map fun result => result.command.message).flatten = lines.flatten →
      chat drvNumber received params = .ok run → run.state ≠ .busy →
      executedCommands run.events = Framing.upTo AsksShutdown lines := by
  intro hexecutes
  have hchat : (chat (fun _ => 20002) oneMessage (AndorParameters.initial [])).map (fun run =>
      (run.state, executedCommands run.events)) =
        .ok (.waiting, [statusLine ++ shutdownLine]) := by
    decide +kernel
  obtain ⟨run, hrun, hstate, htexts⟩ := exists_of_chat hchat
  have hidle : run.state ≠ .busy := by
    rw [hstate]
    decide
  have hlines := hexecutes _ _ _ run [statusLine, shutdownLine] isCommandLine_of_mem
    (by decide) (by decide) hrun hidle
  rw [htexts] at hlines
  exact absurd hlines (by decide)

end Andor2k
