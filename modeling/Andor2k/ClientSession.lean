/-
The client program and the daemon's chat at work on one connection.  The client reads one
message after each line it sends; the daemon sends as many as the handler of a command happens
to send.
-/
import Andor2k.Chat
import Andor2k.Dialogue
import Andor2k.TypedWords

namespace Andor2k

open CText Runs

/-- What is answered while one message is processed. -/
structure RoundAnswers where
  sdk : Nat → SetParamAnswers
  handler : CommandAnswers

def sentMessage : DaemonEvent → Option Text
  | .sent message => some message
  | .image (.sent message) => some message
  | _ => none

/-- The messages to the client, in order. -/
def sentMessages (events : List DaemonEvent) : List Text := events.filterMap sentMessage

/-- One round of `chat`, for what `recv` has returned. -/
def chatRound (drvNumber : DrvCode → Nat) :
    Dialogue.Serve AndorParameters RoundAnswers UInt8 := fun answers params bytes =>
  if hfits : bytes.length ≤ maxSocketBufferSize then
    match resolveCommand drvNumber ⟨⟨bytes, hfits, answers.sdk⟩, answers.handler⟩ params with
    | .ok (some served) =>
        some (if served.status = -100 then none else some served.params,
          sentMessages served.events)
    | _ => none
  else none

abbrev ClientSession := Dialogue.Session AndorParameters UInt8
abbrev SessionMove := Dialogue.Move RoundAnswers UInt8

/-- One step of the client, of the daemon or of the connection.  Both programs receive into
1024 bytes. -/
def sessionStep (drvNumber : DrvCode → Nat) (session : ClientSession) (move : SessionMove) :
    Option ClientSession :=
  Dialogue.step (chatRound drvNumber) maxSocketBufferSize session move

/-- The connection has just been accepted. -/
def newSession (params : AndorParameters) : ClientSession := Dialogue.start params

/-- The client sends what is typed on one line. -/
def TypesLine : SessionMove → Prop
  | .ask request => ∃ line, 0 ∉ line ∧ lineFeed ∉ line ∧ sendLine line = .ok request
  | _ => True

theorem chatRound_eq_some {drvNumber : DrvCode → Nat} {answers : RoundAnswers}
    {params : AndorParameters} {bytes : Text} {next : Option AndorParameters}
    {messages : List Text}
    (hround : chatRound drvNumber answers params bytes = some (next, messages)) :
    ∃ (received : Received) (served : Served), received.command.message = bytes ∧
      resolveCommand drvNumber received params = .ok (some served) ∧
      next = (if served.status = -100 then none else some served.params) ∧
      messages = sentMessages served.events := by
  rw [chatRound] at hround
  split at hround
  · split at hround
    · rename_i hfits served hserved
      obtain ⟨rfl, rfl⟩ := Prod.mk.inj (Option.some.inj hround)
      exact ⟨_, served, rfl, hserved, rfl, rfl⟩
    · cases hround
  · cases hround

/-- A conversation that goes on takes up where it is. -/
theorem chat_append {drvNumber : DrvCode → Nat} {received more : List Received}
    {params : AndorParameters} {run rest : ChatRun}
    (hchat : chat drvNumber received params = .ok run) (hwaiting : run.state = .waiting)
    (hrest : chat drvNumber more run.params = .ok rest) :
    chat drvNumber (received ++ more) params =
      .ok ⟨rest.state, rest.params, run.events ++ rest.events⟩ := by
  induction received generalizing params run with
  | nil =>
      obtain rfl := Except.ok.inj hchat
      exact hrest
  | cons result later ih =>
      rw [List.cons_append, chat]
      rw [chat] at hchat
      split at hchat
      · obtain rfl := Except.ok.inj hchat
        cases hwaiting
      · rename_i hdelivers
        rw [if_neg hdelivers]
        obtain ⟨found, hserved, hchat⟩ := checked_bind_eq_ok.mp hchat
        rw [checked_bind_ok hserved]
        cases found with
        | none =>
            obtain rfl := Except.ok.inj hchat
            cases hwaiting
        | some served =>
            dsimp only at hchat ⊢
            split at hchat
            · obtain rfl := Except.ok.inj hchat
              cases hwaiting
            · rename_i hgoes
              obtain ⟨tail, htail, hchat⟩ := checked_bind_eq_ok.mp hchat
              obtain rfl := Except.ok.inj hchat
              rw [if_neg hgoes, checked_bind_ok (ih htail hwaiting hrest)]
              simp [pure, Except.pure]

/-- A conversation of one message. -/
theorem chat_singleton {drvNumber : DrvCode → Nat} {received : Received}
    {params : AndorParameters} {served : Served} (hdelivers : received.command.message ≠ [])
    (hserved : resolveCommand drvNumber received params = .ok (some served)) :
    chat drvNumber [received] params =
      .ok ⟨if served.status = -100 then .returned (-1) else .waiting, served.params,
        .resolve received.command.buffer :: served.events⟩ := by
  have hlength : ¬ received.command.message.length < 1 := by
    rw [Nat.lt_one_iff, List.length_eq_zero_iff]
    exact hdelivers
  rw [chat, if_neg hlength, checked_bind_ok hserved]
  dsimp only
  split
  · rfl
  · simp [chat, bind, Except.bind, pure, Except.pure]

/-- The daemon is where `chat` is for the messages it has received, and what it has sent or has
still to send is what `chat` sends. -/
structure FollowsChat (drvNumber : DrvCode → Nat) (params : AndorParameters)
    (session : ClientSession) (received : List Received) (run : ChatRun) : Prop where
  messages : received.map (fun result => result.command.message) = session.handled
  chat : chat drvNumber received params = .ok run
  executed : executedCommands run.events = session.handled.map (List.takeWhile (· ≠ 0))
  sent : sentMessages run.events = session.told ++ session.outbox
  state : match session.server with
    | some now => run.state = .waiting ∧ run.params = now
    | none => run.state = .returned (-1)

theorem sentMessages_append (first second : List DaemonEvent) :
    sentMessages (first ++ second) = sentMessages first ++ sentMessages second :=
  List.filterMap_append

/-- A round of the daemon is a round of `chat`. -/
theorem FollowsChat.handle {drvNumber : DrvCode → Nat} {params server : AndorParameters}
    {session : ClientSession} {received : List Received} {run : ChatRun}
    {answers : RoundAnswers} {bytes : Text} {next : Option AndorParameters}
    {messages : List Text} (hfollows : FollowsChat drvNumber params session received run)
    (hserver : session.server = some server) (hidle : session.outbox = []) (hbytes : bytes ≠ [])
    (hround : chatRound drvNumber answers server bytes = some (next, messages)) :
    ∃ received run, FollowsChat drvNumber params
      { session with
        toServer := session.toServer.drop bytes.length
        server := next
        outbox := messages
        handled := session.handled ++ [bytes]
        replies := session.replies ++ [messages] } received run := by
  obtain ⟨result, served, rfl, hserved, rfl, rfl⟩ := chatRound_eq_some hround
  have hstate := hfollows.state
  rw [hserver] at hstate
  obtain ⟨hwaiting, rfl⟩ := hstate
  have hone := chat_singleton hbytes hserved
  refine ⟨received ++ [result], _, ?_, chat_append hfollows.chat hwaiting hone, ?_, ?_, ?_⟩
  · rw [List.map_append, hfollows.messages]
    rfl
  · have hhandler := executedCommands_handler (resolveCommand_inHandler hserved)
    have hcommand : executedCommands (.resolve result.command.buffer :: served.events) =
        [result.command.message.takeWhile (· ≠ 0)] := by
      rw [← takeWhile_buffer]
      exact congrArg (_ :: ·) hhandler
    rw [executedCommands_append, hfollows.executed, hcommand, List.map_append]
    rfl
  · rw [sentMessages_append, hfollows.sent, hidle, List.append_nil]
    rfl
  · dsimp only
    split
    · rename_i now hnow
      split at hnow
      · cases hnow
      · rename_i hgoes
        obtain rfl := Option.some.inj hnow
        rw [if_neg hgoes]
        exact ⟨rfl, rfl⟩
    · rename_i hnone
      split at hnone
      · rename_i hends
        rw [if_pos hends]
      · cases hnone

theorem FollowsChat.step {drvNumber : DrvCode → Nat} {params : AndorParameters}
    {session next : ClientSession} {move : SessionMove}
    (hfollows : ∃ received run, FollowsChat drvNumber params session received run)
    (hstep : sessionStep drvNumber session move = some next) :
    ∃ received run, FollowsChat drvNumber params next received run := by
  obtain ⟨received, run, hfollows⟩ := hfollows
  cases Dialogue.step_cases hstep with
  | ask | hear | hearEnd =>
      exact ⟨received, run, hfollows.messages, hfollows.chat, hfollows.executed, hfollows.sent,
        hfollows.state⟩
  | tell message later hmessage =>
      refine ⟨received, run, hfollows.messages, hfollows.chat, hfollows.executed, ?_,
        hfollows.state⟩
      rw [hfollows.sent, hmessage, List.append_assoc]
      rfl
  | handle count answers server after messages hserver hidle hcount _ havailable hserve =>
      have hlength : (session.toServer.take count).length = count := by
        rw [List.length_take]
        omega
      have hbytes : session.toServer.take count ≠ [] := by
        intro hempty
        rw [hempty, List.length_nil] at hlength
        omega
      have hround := hfollows.handle hserver hidle hbytes hserve
      rw [hlength] at hround
      exact hround

theorem exists_followsChat {drvNumber : DrvCode → Nat} {params : AndorParameters}
    {session : ClientSession} {moves : List SessionMove}
    (hrun : run (sessionStep drvNumber) (newSession params) moves = some session) :
    ∃ received run, FollowsChat drvNumber params session received run := by
  have hstart : ∃ received run,
      FollowsChat drvNumber params (newSession params) received run :=
    ⟨[], _, rfl, rfl, rfl, rfl, rfl, rfl⟩
  exact invariant_of_reachable (fun _ _ _ hinv hstep => FollowsChat.step hinv hstep) hstart
    ⟨moves, hrun⟩

/-- Whatever the two programs and the connection do, the daemon does what `chat` does on the
messages it has received, and the client is shown the bytes `chat` sends, in order. -/
theorem session_refines_chat {drvNumber : DrvCode → Nat} {params : AndorParameters}
    {session : ClientSession} {moves : List SessionMove}
    (hrun : run (sessionStep drvNumber) (newSession params) moves = some session) :
    ∃ received run, FollowsChat drvNumber params session received run ∧
      session.heard.flatten ++ session.toClient ++ session.outbox.flatten =
        (sentMessages run.events).flatten ∧
      session.handled.flatten ++ session.toServer = session.asked.flatten := by
  obtain ⟨received, conversation, hfollows⟩ := exists_followsChat hrun
  have hcons : Dialogue.Conserves session :=
    invariant_of_reachable (fun _ _ _ hinv hstep => hinv.step hstep) (.start params)
      ⟨moves, hrun⟩
  refine ⟨received, conversation, hfollows, ?_, hcons.requests⟩
  rw [hfollows.sent, List.flatten_append, hcons.messages]

/-- Answers with which nothing goes wrong. -/
def goodRound : RoundAnswers := ⟨fun _ => willingCamera, (goodMessage [] (by decide)).answers⟩

/-- One `status`, and the client is about to type again. -/
def statusMoves : List SessionMove := [.ask statusLine, .handle 7 goodRound, .tell, .hear 90]

theorem exists_of_replies {params : AndorParameters} {moves : List SessionMove}
    {replies : List (List Text)}
    (hreplies : (run (sessionStep fun _ => 20002) (newSession params) moves).map
      Dialogue.Session.replies = some replies) :
    ∃ session, run (sessionStep fun _ => 20002) (newSession params) moves = some session ∧
      session.replies = replies :=
  Option.map_eq_some_iff.mp hreplies

/-- What `status` is answered. -/
def statusReply : Text := ascii "status:IDLE, waiting for instructions;temp: -50 " ++
  ascii "(Temperature has stabilized at set point);"

theorem statusMoves_run :
    ∃ session, run (sessionStep fun _ => 20002) (newSession (AndorParameters.initial []))
        statusMoves = some session ∧ session.replies = [[statusReply]] :=
  exists_of_replies (by decide +kernel)

theorem status_session_refines_chat :
    ∃ session received run, FollowsChat (fun _ => 20002) (AndorParameters.initial []) session
        received run ∧
      session.heard.flatten ++ session.toClient ++ session.outbox.flatten =
        (sentMessages run.events).flatten ∧
      session.handled.flatten ++ session.toServer = session.asked.flatten := by
  obtain ⟨session, hrun, -⟩ := statusMoves_run
  exact ⟨session, session_refines_chat hrun⟩

theorem isCommandLine_of_typed {request line : Text} (hnul : 0 ∉ line)
    (hbreak : lineFeed ∉ line) (hsend : sendLine line = .ok request) : IsCommandLine request := by
  rw [sendLine_eq hnul] at hsend
  split at hsend
  · rw [← Except.ok.inj hsend]
    refine ⟨⟨line, hbreak, rfl⟩, ?_⟩
    rw [List.mem_append, not_or]
    exact ⟨hnul, by decide⟩
  · cases hsend

theorem asked_of_typed {drvNumber : DrvCode → Nat} {before session : ClientSession}
    {moves : List SessionMove} (htyped : ∀ move ∈ moves, TypesLine move)
    (hbefore : ∀ line ∈ before.asked, IsCommandLine line)
    (hrun : run (sessionStep drvNumber) before moves = some session) :
    ∀ line ∈ session.asked, IsCommandLine line := by
  induction moves generalizing before with
  | nil =>
      obtain rfl := Option.some.inj hrun
      exact hbefore
  | cons move later ih =>
      obtain ⟨next, hnext, hrest⟩ := run_cons_eq_some.mp hrun
      obtain ⟨hmove, hlater⟩ := List.forall_mem_cons.mp htyped
      refine ih hlater ?_ hrest
      cases Dialogue.step_cases hnext with
      | ask request =>
          obtain ⟨line, hnul, hbreak, hsend⟩ := hmove
          exact List.forall_mem_append.mpr ⟨hbefore, List.forall_mem_singleton.mpr
            (isCommandLine_of_typed hnul hbreak hsend)⟩
      | _ => exact hbefore

/-- A list of lists of one element. -/
theorem singletons_flatten {texts : List (List Text)} (hshort : ∀ list ∈ texts, list.length ≤ 1)
    (hnonempty : [] ∉ texts) : texts = texts.flatten.map fun text => [text] := by
  induction texts with
  | nil => rfl
  | cons list later ih =>
      rw [List.mem_cons, not_or] at hnonempty
      obtain ⟨hlist, hlater⟩ := List.forall_mem_cons.mp hshort
      obtain ⟨text, rfl⟩ := List.length_eq_one_iff.mp
        (Nat.le_antisymm hlist (List.length_pos_iff.mpr (Ne.symm hnonempty.1)))
      rw [List.flatten_cons, List.map_append, ← ih hlater hnonempty.2]
      rfl

/-- As long as every receive takes all there is and every line gets exactly one message, the
daemon executes the lines that were typed, each for itself, and what the client is shown for a
line is the message of that line's command. -/
theorem typed_lines_in_step {drvNumber : DrvCode → Nat} {params : AndorParameters}
    {session : ClientSession} {moves : List SessionMove}
    (htyped : ∀ move ∈ moves, TypesLine move)
    (hbrief : Along (sessionStep drvNumber) (Dialogue.Brief (chatRound drvNumber))
      (newSession params) moves)
    (hrun : run (sessionStep drvNumber) (newSession params) moves = some session)
    (hanswered : [] ∉ session.replies) :
    ∃ received conversation, FollowsChat drvNumber params session received conversation ∧
      executedCommands conversation.events <+: session.asked ∧
      session.replies = (sentMessages conversation.events).map (fun message => [message]) ∧
      session.heard <+: sentMessages conversation.events ∧
      session.asked.length ≤ session.heard.length + 1 := by
  have hinv : Dialogue.InStep session := Dialogue.inStep_of_along hbrief hrun
  have hlines : ∀ line ∈ session.asked, IsCommandLine line :=
    asked_of_typed htyped (List.forall_mem_nil _) hrun
  obtain ⟨received, conversation, hfollows⟩ := exists_followsChat hrun
  have hsent : sentMessages conversation.events = session.replies.flatten := by
    rw [hfollows.sent, hinv.conserves.replies]
  have hwhole : ∀ line ∈ session.handled, line.takeWhile (· ≠ 0) = id line := fun line hline =>
    takeWhile_ne_self (hlines line (hinv.handled_prefix.1.subset hline)).2
  refine ⟨received, conversation, hfollows, ?_, ?_, ?_, ?_⟩
  · rw [hfollows.executed, List.map_congr_left hwhole, List.map_id]
    exact hinv.handled_prefix.1
  · rw [hsent]
    exact singletons_flatten hinv.brief hanswered
  · rw [hsent]
    exact hinv.heard_prefix
  · rw [hinv.conserves.turns]
    split
    · exact Nat.le_refl _
    · exact Nat.le_succ _

theorem typesLine_status : ∀ move ∈ statusMoves, TypesLine move := by
  refine List.forall_mem_cons.mpr ⟨?_, List.forall_mem_cons.mpr ⟨trivial,
    List.forall_mem_cons.mpr ⟨trivial, List.forall_mem_singleton.mpr trivial⟩⟩⟩
  exact ⟨ascii "status", by decide, by decide, by decide +kernel⟩

theorem status_line_in_step :
    ∃ session received conversation, FollowsChat (fun _ => 20002) (AndorParameters.initial [])
        session received conversation ∧
      executedCommands conversation.events <+: session.asked ∧
      session.replies = (sentMessages conversation.events).map (fun message => [message]) ∧
      session.heard <+: sentMessages conversation.events ∧
      session.asked.length ≤ session.heard.length + 1 := by
  obtain ⟨session, hrun, hreplies⟩ := statusMoves_run
  have hanswered : [] ∉ session.replies := by
    rw [hreplies]
    decide
  exact ⟨session, typed_lines_in_step typesLine_status (by decide +kernel) hrun hanswered⟩

/-- The commands that send nothing, whatever they do. -/
def Handler.silent : Handler → Bool
  | setParamValue | abort | unknown | shutdown => true
  | _ => false

/-- A message that `resolve_command` hands to such a command. -/
def Unanswered (message : Text) : Prop :=
  ∃ command : Command, command.message = message ∧ (handlerOf command.buffer).silent = true

theorem buffer_congr {first second : Command} (hmessage : first.message = second.message) :
    first.buffer = second.buffer := by
  obtain ⟨message, hfits, sdk⟩ := first
  obtain ⟨other, hother, answers⟩ := second
  obtain rfl : message = other := hmessage
  rfl

theorem sentMessages_silent {drvNumber : DrvCode → Nat} {received : Received}
    {params : AndorParameters} {served : Served}
    (hsilent : (handlerOf received.command.buffer).silent = true)
    (hserved : resolveCommand drvNumber received params = .ok (some served)) :
    sentMessages served.events = [] := by
  unfold resolveCommand at hserved
  cases hhandler : handlerOf received.command.buffer with
  | setTemperature | printStatus | getImage =>
      rw [hhandler] at hsilent
      cases hsilent
  | setParamValue =>
      simp only [hhandler] at hserved
      obtain ⟨reply, -, hserved⟩ := checked_map_eq_ok.mp hserved
      obtain rfl := Option.some.inj hserved
      rfl
  | shutdown | abort =>
      simp only [hhandler, Except.ok.injEq, Option.some.injEq] at hserved
      subst served
      rfl
  | unknown =>
      simp only [hhandler] at hserved
      obtain ⟨text, -, hserved⟩ := checked_map_eq_ok.mp hserved
      obtain rfl := Option.some.inj hserved
      rfl

theorem silent_of_unanswered {drvNumber : DrvCode → Nat} {session next : ClientSession}
    {move : SessionMove}
    (hinv : ∀ line ∈ session.handled, Unanswered line → [] ∈ session.replies)
    (hstep : sessionStep drvNumber session move = some next) :
    ∀ line ∈ next.handled, Unanswered line → [] ∈ next.replies := by
  cases Dialogue.step_cases hstep with
  | handle count answers server after messages _ _ _ _ _ hserve =>
      refine List.forall_mem_append.mpr ⟨?_, List.forall_mem_singleton.mpr ?_⟩
      · exact fun line hline hquiet => List.mem_append_left _ (hinv line hline hquiet)
      · rintro ⟨command, hmessage, hsilent⟩
        obtain ⟨received, served, hbytes, hserved, -, rfl⟩ := chatRound_eq_some hserve
        rw [buffer_congr (hmessage.trans hbytes.symm)] at hsilent
        rw [sentMessages_silent hsilent hserved]
        exact List.mem_append_right _ (List.mem_singleton_self _)
  | _ => exact hinv

/-- As long as every receive takes all there is and no line gets more than one message, the two
programs wait for each other for ever exactly when a line got none.  This is so for every
`setparam`, `abort` and unknown command. -/
theorem session_stuck_iff {drvNumber : DrvCode → Nat} {params : AndorParameters}
    {session : ClientSession} {moves : List SessionMove}
    (hbrief : Along (sessionStep drvNumber) (Dialogue.Brief (chatRound drvNumber))
      (newSession params) moves)
    (hrun : run (sessionStep drvNumber) (newSession params) moves = some session)
    (hopen : session.server.isSome = true) :
    (Dialogue.Stuck session ↔ [] ∈ session.replies) ∧
      (Dialogue.Stuck session → ∀ move, sessionStep drvNumber session move = none) ∧
      ∀ line ∈ session.handled, Unanswered line → Dialogue.Stuck session := by
  have hinv : Dialogue.InStep session := Dialogue.inStep_of_along hbrief hrun
  have hquiet : ∀ line ∈ session.handled, Unanswered line → [] ∈ session.replies :=
    invariant_of_reachable (fun _ _ _ hinv hstep => silent_of_unanswered hinv hstep)
      (List.forall_mem_nil _) ⟨moves, hrun⟩
  have hiff := hinv.stuck_iff hopen
  exact ⟨hiff, fun hstuck move => hstuck.no_move move,
    fun line hline hsilent => hiff.mpr (hquiet line hline hsilent)⟩

/-- A line that the daemon does not answer. -/
def abortMoves : List SessionMove := [.ask (ascii "abort" ++ [newline]), .handle 6 goodRound]

theorem abort_session_stuck :
    ∃ session, run (sessionStep fun _ => 20002) (newSession (AndorParameters.initial []))
        abortMoves = some session ∧
      (Dialogue.Stuck session ↔ [] ∈ session.replies) ∧
      (Dialogue.Stuck session → ∀ move, sessionStep (fun _ => 20002) session move = none) ∧
      ∀ line ∈ session.handled, Unanswered line → Dialogue.Stuck session := by
  have hfinal : (run (sessionStep fun _ => 20002) (newSession (AndorParameters.initial []))
      abortMoves).map (fun session => session.server.isSome) = some true := by
    decide +kernel
  obtain ⟨session, hrun, hopen⟩ := Option.map_eq_some_iff.mp hfinal
  exact ⟨session, hrun, session_stuck_iff (by decide +kernel) hrun hopen⟩

/-- When the client takes one message with each receive, what it is shown for a line is the next
message that it has not seen: one of an earlier command when the commands before the line have
sent more messages than there are lines before it. -/
theorem stale_messages_are_shown {drvNumber : DrvCode → Nat} {params : AndorParameters}
    {session : ClientSession} {moves : List SessionMove}
    (hpunctual : Along (sessionStep drvNumber) Dialogue.Punctual (newSession params) moves)
    (hrun : run (sessionStep drvNumber) (newSession params) moves = some session) (line : Nat)
    (hheard : line < session.heard.length)
    (hmore : line < (session.replies.take line).flatten.length) :
    session.heard[line]? = (session.replies.take line).flatten[line]? := by
  have hshown : session.heard <+: session.replies.flatten :=
    Dialogue.heard_of_punctual hpunctual hrun
  have hearlier : (session.replies.take line).flatten <+: session.replies.flatten := by
    obtain ⟨rest, hrest⟩ := List.take_prefix line session.replies
    exact ⟨rest.flatten, by rw [← List.flatten_append, hrest]⟩
  rw [List.getElem?_eq_getElem hheard, List.getElem?_eq_getElem hmore,
    hshown.getElem hheard, hearlier.getElem hmore]

def settempLine : Text := ascii "settemp -50" ++ [newline]

/-- What an accepted `settemp` is answered by a camera that is cold at once. -/
def settempReply : List Text :=
  [ascii "ctemp:20;status:got current camera temperature",
    ascii "done;ctemp:-50;status:Target temperature reached and stabilized"]

/-- A `status` behind a `settemp`. -/
def settempMoves : List SessionMove :=
  [.ask settempLine, .handle 12 goodRound, .tell, .hear 46, .tell, .ask statusLine, .hear 63]

theorem status_shows_settemp_message :
    ∃ session, run (sessionStep fun _ => 20002) (newSession (AndorParameters.initial []))
        settempMoves = some session ∧
      session.heard[1]? = (session.replies.take 1).flatten[1]? := by
  have hfinal : (run (sessionStep fun _ => 20002) (newSession (AndorParameters.initial []))
      settempMoves).map (fun session => (session.heard.length,
        (session.replies.take 1).flatten.length)) = some (2, 2) := by
    decide +kernel
  obtain ⟨session, hrun, hlengths⟩ := Option.map_eq_some_iff.mp hfinal
  obtain ⟨hheard, hmore⟩ := Prod.mk.inj hlengths
  refine ⟨session, hrun, stale_messages_are_shown (by decide +kernel) hrun 1 ?_ ?_⟩
  · rw [hheard]
    decide
  · rw [hmore]
    decide

/-- Two messages for one line, and the client can send two more before the daemon reads again:
they are executed as one command. -/
theorem two_messages_join_lines {drvNumber : DrvCode → Nat} {session : ClientSession}
    {server next : AndorParameters} {after : Option AndorParameters}
    {answers further : RoundAnswers} {first second one two : Text} {rest messages : List Text}
    (hwaiting : session.waiting = true) (hserver : session.server = some server)
    (houtbox : session.outbox = []) (hclient : session.toClient = [])
    (hline : session.toServer ≠ []) (hroom : session.toServer.length ≤ maxSocketBufferSize)
    (hround : chatRound drvNumber answers server session.toServer =
      some (some next, first :: second :: rest))
    (hfirst : first ≠ []) (hsecond : second ≠ []) (hfirstRoom : first.length ≤ maxSocketBufferSize)
    (hsecondRoom : second.length ≤ maxSocketBufferSize) (hone : IsCommandLine one)
    (hlater : chatRound drvNumber further next (one ++ two) = some (after, messages)) :
    ∃ moves final, run (sessionStep drvNumber) session moves = some final ∧
      final.asked = session.asked ++ [one, two] ∧
      final.handled = session.handled ++ [session.toServer, one ++ two] := by
  obtain ⟨received, served, hbytes, -⟩ := chatRound_eq_some hlater
  have hjoined : (one ++ two).length ≤ maxSocketBufferSize := hbytes ▸ received.command.fits
  exact Dialogue.run_ahead hwaiting hserver houtbox hclient hline hroom hround hfirst hsecond
    hfirstRoom hsecondRoom hone.1.ne_nil hjoined hlater

/-- `settemp` is on its way to the daemon. -/
def settempSession : ClientSession :=
  { newSession (AndorParameters.initial []) with
    waiting := true
    toServer := settempLine
    asked := [settempLine] }

theorem settemp_joins_status_and_shutdown :
    ∃ moves final, run (sessionStep fun _ => 20002) settempSession moves = some final ∧
      final.asked = [settempLine] ++ [statusLine, shutdownLine] ∧
      final.handled = [] ++ [settempLine, statusLine ++ shutdownLine] :=
  two_messages_join_lines rfl rfl rfl rfl (by decide) (by decide)
    (by decide +kernel : chatRound (fun _ => 20002) goodRound (AndorParameters.initial [])
      settempLine = some (some (AndorParameters.initial []), settempReply))
    (by decide) (by decide) (by decide) (by decide)
    (isCommandLine_of_mem statusLine List.mem_cons_self)
    (by decide +kernel : chatRound (fun _ => 20002) goodRound (AndorParameters.initial [])
      (statusLine ++ shutdownLine) = some (some (AndorParameters.initial []), [statusReply]))

end Andor2k
