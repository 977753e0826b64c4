/-
The commands and the connections they come over.  The parameters stay from client to client, so
that all clients together hold one conversation.
-/
import Andor2k.DaemonMain

namespace Andor2k

open CText

/-- What is read of a connection: everything before the `recv` that delivers nothing. -/
def spoken (conversation : List Received) : List Received :=
  conversation.takeWhile fun received => 1 ≤ received.command.message.length

def HangsUp (conversation : List Received) : Prop :=
  ∃ received ∈ conversation, received.command.message.length < 1

/-- A connection that `accept` has made and that is closed by the client some time. -/
structure Accepted.Proper (accepted : Accepted) : Prop where
  made : 0 ≤ accepted.status
  closed : HangsUp accepted.conversation

/-- The commands of all connections, one after the other. -/
def allSpoken (accepts : List Accepted) : List Received :=
  accepts.flatMap fun accepted => spoken accepted.conversation

/-- A run with what has happened before. -/
def ChatRun.behind (before : List DaemonEvent) (run : ChatRun) : ChatRun :=
  ⟨run.state, run.params, before ++ run.events⟩

/-- The loop over the clients, if all of its commands come over one connection. -/
def ChatRun.asClientLoop (run : ChatRun) : Option ClientLoop :=
  if run.state = .returned (-1) then some ⟨none, run.events⟩ else none

theorem asClientLoop_behind (before : List DaemonEvent) (run : ChatRun) :
    (run.asClientLoop.map fun clients => ⟨clients.returned, before ++ clients.events⟩) =
      (run.behind before).asClientLoop := by
  by_cases hshutdown : run.state = .returned (-1)
  · have hbehind : (run.behind before).state = .returned (-1) := hshutdown
    rw [ChatRun.asClientLoop, ChatRun.asClientLoop, if_pos hshutdown, if_pos hbehind]
    rfl
  · have hbehind : ¬ (run.behind before).state = .returned (-1) := hshutdown
    rw [ChatRun.asClientLoop, ChatRun.asClientLoop, if_neg hshutdown, if_neg hbehind]
    rfl

section Conversations

variable (drvNumber : DrvCode → Nat)

/-- What becomes of a conversation when there is more to come instead of its end. -/
def goOn (more : List Received) (run : ChatRun) : Checked ChatRun :=
  if run.state = .returned 0 then (chat drvNumber more run.params).map (.behind run.events)
  else .ok run

/-- What has happened before does not change what goes on. -/
theorem goOn_behind (more : List Received) (before : List DaemonEvent) (run : ChatRun) :
    goOn drvNumber more (run.behind before) = (goOn drvNumber more run).map (.behind before) := by
  by_cases hended : run.state = .returned 0
  · have hbehind : (run.behind before).state = .returned 0 := hended
    rw [goOn, goOn, if_pos hended, if_pos hbehind]
    change (chat drvNumber more run.params).map _ = _
    cases chat drvNumber more run.params with
    | error fault => rfl
    | ok rest =>
        have hassoc : rest.behind (before ++ run.events) = (rest.behind run.events).behind before :=
          congrArg (ChatRun.mk rest.state rest.params) (List.append_assoc _ _ _)
        exact congrArg Except.ok hassoc
  · have hbehind : ¬ (run.behind before).state = .returned 0 := hended
    rw [goOn, goOn, if_neg hended, if_neg hbehind]
    rfl

/-- A round that neither faults nor ends the conversation. -/
theorem chat_served {received : Received} {later : List Received} {params : AndorParameters}
    {served : Served} (hopen : ¬ received.command.message.length < 1)
    (hserved : resolveCommand drvNumber received params = .ok (some served))
    (hmore : served.status ≠ -100) :
    chat drvNumber (received :: later) params = (chat drvNumber later served.params).map
      (.behind (.resolve received.command.buffer :: served.events)) := by
  rw [chat, if_neg hopen, hserved]
  change (if served.status = -100 then _ else _) = _
  rw [if_neg hmore]
  cases chat drvNumber later served.params with
  | error fault => rfl
  | ok rest => rfl

/-- The commands behind a connection are read as if they came over it, if its own have not ended
the daemon. -/
theorem chat_spoken_append {conversation : List Received} (hcloses : HangsUp conversation)
    (more : List Received) (params : AndorParameters) :
    chat drvNumber (spoken conversation ++ more) params =
      chat drvNumber conversation params >>= goOn drvNumber more := by
  induction conversation generalizing params with
  | nil =>
      obtain ⟨received, hmem, -⟩ := hcloses
      cases hmem
  | cons received later ih =>
      by_cases hclosed : received.command.message.length < 1
      · rw [spoken, List.takeWhile_cons_of_neg (by simpa using hclosed), List.nil_append, chat,
          if_pos hclosed]
        change chat drvNumber more params = (chat drvNumber more params).map (.behind [])
        cases chat drvNumber more params with
        | error fault => rfl
        | ok rest => rfl
      · have hlater : HangsUp later := by
          obtain ⟨closing, hmem, hempty⟩ := hcloses
          rcases List.mem_cons.mp hmem with rfl | hmem
          · exact absurd hempty hclosed
          · exact ⟨closing, hmem, hempty⟩
        rw [spoken, List.takeWhile_cons_of_pos (by simpa using Nat.le_of_not_lt hclosed),
          List.cons_append]
        change chat drvNumber (received :: (spoken later ++ more)) params = _
        cases hserved : resolveCommand drvNumber received params with
        | error fault =>
            rw [chat, chat, if_neg hclosed, if_neg hclosed, hserved]
            rfl
        | ok found =>
            cases found with
            | none =>
                rw [chat, chat, if_neg hclosed, if_neg hclosed, hserved]
                rfl
            | some served =>
                by_cases hlast : served.status = -100
                · rw [chat, chat, if_neg hclosed, if_neg hclosed, hserved]
                  change (if served.status = -100 then _ else _) =
                    (if served.status = -100 then _ else _) >>= _
                  rw [if_pos hlast, if_pos hlast]
                  rfl
                · rw [chat_served drvNumber hclosed hserved hlast,
                    chat_served drvNumber hclosed hserved hlast, ih hlater]
                  cases chat drvNumber later served.params with
                  | error fault => rfl
                  | ok rest => exact (goOn_behind drvNumber more _ rest).symm

/-- All clients together hold one conversation. -/
theorem clientLoop_eq_chat {accepts : List Accepted}
    (hproper : ∀ accepted ∈ accepts, accepted.Proper) (params : AndorParameters) :
    clientLoop drvNumber accepts params =
      (chat drvNumber (allSpoken accepts) params).map ChatRun.asClientLoop := by
  induction accepts generalizing params with
  | nil => rfl
  | cons accepted later ih =>
      obtain ⟨⟨hmade, hcloses⟩, hlater⟩ := List.forall_mem_cons.mp hproper
      rw [allSpoken, List.flatMap_cons, chat_spoken_append drvNumber hcloses, clientLoop,
        if_neg (Int.not_lt.mpr hmade)]
      change _ = (chat drvNumber accepted.conversation params >>=
        goOn drvNumber (allSpoken later)).map _
      cases hchat : chat drvNumber accepted.conversation params with
      | error fault => rfl
      | ok run =>
          change _ = (goOn drvNumber (allSpoken later) run).map _
          rw [goOn, checked_bind_ok rfl]
          cases hstate : run.state with
          | waiting | busy =>
              rw [if_neg (by rintro ⟨⟩)]
              refine congrArg Except.ok (Eq.symm (if_neg ?_))
              rw [hstate]
              rintro ⟨⟩
          | returned status =>
              obtain ⟨-, rfl | rfl, -⟩ := chat_returned hchat hstate
              · rw [if_pos rfl]
                change (clientLoop drvNumber later run.params >>= _) = _
                rw [ih hlater]
                cases chat drvNumber (allSpoken later) run.params with
                | error fault => rfl
                | ok rest => exact congrArg Except.ok (asClientLoop_behind run.events rest)
              · rw [if_neg (by rintro ⟨⟩)]
                exact congrArg Except.ok (Eq.symm (if_pos hstate))

/-- What the daemon does in its life depends on the commands alone: they may come over one
connection or over many, as long as each is accepted and closed by its client. -/
theorem connections_do_not_matter (memory : List UInt8) (answers : DaemonAnswers)
    {accepts others : List Accepted} (haccepts : ∀ accepted ∈ accepts, accepted.Proper)
    (hothers : ∀ accepted ∈ others, accepted.Proper)
    (hsame : allSpoken accepts = allSpoken others) :
    main drvNumber memory { answers with accepts := accepts } =
      main drvNumber memory { answers with accepts := others } := by
  have hloop : ∀ params, clientLoop drvNumber accepts params =
      clientLoop drvNumber others params := by
    intro params
    rw [clientLoop_eq_chat drvNumber haccepts, clientLoop_eq_chat drvNumber hothers, hsame]
  have hserve : ∀ params, serveClients drvNumber { answers with accepts := accepts } params =
      serveClients drvNumber { answers with accepts := others } params := by
    intro params
    rw [serveClients, serveClients, hloop]
  simp only [main, hserve]

end Conversations

/-- A gain, an exposure, and the end. -/
def gainThenImage : List Received :=
  [goodMessage (ascii "setparam preampgain=1 hsspeed=1") (by decide),
    goodMessage (ascii "image --hend 5 --vend 5") (by decide),
    goodMessage (ascii "shutdown at dawn") (by decide)]

def hangUp : Received := goodMessage [] (Nat.zero_le _)

/-- Each command from a client of its own, or all of them from one. -/
theorem gainThenImage_connections :
    main (fun _ => 20002) [] (goodDaemon (gainThenImage.map fun sent => ⟨4, [sent, hangUp]⟩)) =
      main (fun _ => 20002) [] (goodDaemon [⟨4, gainThenImage ++ [hangUp]⟩]) := by
  refine connections_do_not_matter (fun _ => 20002) [] (goodDaemon []) ?_ ?_ rfl
  · intro accepted haccepted
    obtain ⟨sent, -, rfl⟩ := List.mem_map.mp haccepted
    exact ⟨Int.zero_le_ofNat 4, hangUp, .tail _ (.head _), Nat.zero_lt_one⟩
  · intro accepted haccepted
    rw [List.mem_singleton.mp haccepted]
    exact ⟨Int.zero_le_ofNat 4, hangUp, List.mem_append_right _ (.head _), Nat.zero_lt_one⟩

end Andor2k
