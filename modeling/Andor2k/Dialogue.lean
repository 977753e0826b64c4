/-
A client that sends one request at a time and takes whatever it hears next for the answer,
and a server that handles whatever it receives.  Between them are two byte streams, so a
receive may return a part of what was sent, or more than one message at once.
-/
import Mathlib.Data.List.Infix
import Andor2k.Runs

namespace Dialogue

open Runs

universe u v w

variable {S : Type u} {A : Type v} {α : Type w}

/-- What a handler does with the bytes of one receive: nothing when it does not return, or the
next state of the server, unless it closes the connection, and the messages it sends. -/
abbrev Serve (S : Type u) (A : Type v) (α : Type w) :=
  A → S → List α → Option (Option S × List (List α))

/-- `waiting` tells whether the client is in its receive, `server` is nothing once the
connection is closed, and `outbox` is what the handler has still to send.  The other fields
are history: what the client sent and heard, and what the server received, replied to each
receive and has sent so far. -/
structure Session (S : Type u) (α : Type w) where
  waiting : Bool
  toServer : List α
  server : Option S
  outbox : List (List α)
  toClient : List α
  asked : List (List α)
  handled : List (List α)
  replies : List (List (List α))
  told : List (List α)
  heard : List (List α)
deriving DecidableEq

/-- `handle` and `hear` are receives of `count` bytes, `hearEnd` is one at the end of the
stream. -/
inductive Move (A : Type v) (α : Type w) where
  | ask (request : List α)
  | handle (count : Nat) (answers : A)
  | tell
  | hear (count : Nat)
  | hearEnd

def start (server : S) : Session S α := ⟨false, [], some server, [], [], [], [], [], [], []⟩

/-- A receive asks for at most `room` bytes. -/
def step (serve : Serve S A α) (room : Nat) (session : Session S α) :
    Move A α → Option (Session S α)
  | .ask request =>
      if session.waiting then none
      else some
        { session with
          waiting := true
          toServer := session.toServer ++ request
          asked := session.asked ++ [request] }
  | .handle count answers =>
      match session.server, session.outbox with
      | some server, [] =>
          if 0 < count ∧ count ≤ room ∧ count ≤ session.toServer.length then
            (serve answers server (session.toServer.take count)).map fun (next, messages) =>
              { session with
                toServer := session.toServer.drop count
                server := next
                outbox := messages
                handled := session.handled ++ [session.toServer.take count]
                replies := session.replies ++ [messages] }
          else none
      | _, _ => none
  | .tell =>
      match session.outbox with
      | [] => none
      | message :: later =>
          some
            { session with
              outbox := later
              toClient := session.toClient ++ message
              told := session.told ++ [message] }
  | .hear count =>
      if session.waiting ∧ 0 < count ∧ count ≤ room ∧ count ≤ session.toClient.length then
        some
          { session with
            waiting := false
            toClient := session.toClient.drop count
            heard := session.heard ++ [session.toClient.take count] }
      else none
  | .hearEnd =>
      match session.server, session.outbox, session.toClient with
      | none, [], [] =>
          if session.waiting then
            some { session with waiting := false, heard := session.heard ++ [[]] }
          else none
      | _, _, _ => none

/-- The steps one by one. -/
inductive Steps (serve : Serve S A α) (room : Nat) (session : Session S α) :
    Move A α → Session S α → Prop where
  | ask (request : List α) (hready : session.waiting = false) :
      Steps serve room session (.ask request)
        { session with
          waiting := true
          toServer := session.toServer ++ request
          asked := session.asked ++ [request] }
  | handle (count : Nat) (answers : A) (server : S) (next : Option S)
      (messages : List (List α)) (hserver : session.server = some server)
      (hidle : session.outbox = []) (hcount : 0 < count) (hroom : count ≤ room)
      (havailable : count ≤ session.toServer.length)
      (hserve : serve answers server (session.toServer.take count) = some (next, messages)) :
      Steps serve room session (.handle count answers)
        { session with
          toServer := session.toServer.drop count
          server := next
          outbox := messages
          handled := session.handled ++ [session.toServer.take count]
          replies := session.replies ++ [messages] }
  | tell (message : List α) (later : List (List α))
      (hmessage : session.outbox = message :: later) :
      Steps serve room session .tell
        { session with
          outbox := later
          toClient := session.toClient ++ message
          told := session.told ++ [message] }
  | hear (count : Nat) (hwaiting : session.waiting = true) (hcount : 0 < count)
      (hroom : count ≤ room) (havailable : count ≤ session.toClient.length) :
      Steps serve room session (.hear count)
        { session with
          waiting := false
          toClient := session.toClient.drop count
          heard := session.heard ++ [session.toClient.take count] }
  | hearEnd (hwaiting : session.waiting = true) (hclosed : session.server = none)
      (hidle : session.outbox = []) (hempty : session.toClient = []) :
      Steps serve room session .hearEnd
        { session with waiting := false, heard := session.heard ++ [[]] }

variable {serve : Serve S A α} {room : Nat}

theorem step_cases {session next : Session S α} {move : Move A α}
    (hstep : step serve room session move = some next) : Steps serve room session move next := by
  cases move with
  | ask request =>
      rw [step] at hstep
      split at hstep
      · cases hstep
      · rename_i hready
        obtain rfl := Option.some.inj hstep
        exact .ask request (Bool.not_eq_true _ ▸ hready)
  | handle count answers =>
      rw [step] at hstep
      split at hstep
      · rename_i server hserver hidle
        split at hstep
        · rename_i hcount
          obtain ⟨⟨after, messages⟩, hserve, rfl⟩ := Option.map_eq_some_iff.mp hstep
          exact .handle count answers server after messages hserver hidle hcount.1
            hcount.2.1 hcount.2.2 hserve
        · cases hstep
      · cases hstep
  | tell =>
      rw [step] at hstep
      split at hstep
      · cases hstep
      · rename_i message later hmessage
        obtain rfl := Option.some.inj hstep
        exact .tell message later hmessage
  | hear count =>
      rw [step] at hstep
      split at hstep
      · rename_i hcount
        obtain rfl := Option.some.inj hstep
        exact .hear count hcount.1 hcount.2.1 hcount.2.2.1 hcount.2.2.2
      · cases hstep
  | hearEnd =>
      rw [step] at hstep
      split at hstep
      · rename_i hclosed hidle hempty
        split at hstep
        · rename_i hwaiting
          obtain rfl := Option.some.inj hstep
          exact .hearEnd hwaiting hclosed hidle hempty
        · cases hstep
      · cases hstep

/-- Both streams are first in, first out, every reply is sent, and the client sends no request
before it has heard something for the last one. -/
structure Conserves (session : Session S α) : Prop where
  requests : session.handled.flatten ++ session.toServer = session.asked.flatten
  messages : session.heard.flatten ++ session.toClient = session.told.flatten
  replies : session.told ++ session.outbox = session.replies.flatten
  turns : session.asked.length = session.heard.length + if session.waiting then 1 else 0

theorem Conserves.start (server : S) : Conserves (start server : Session S α) :=
  ⟨rfl, rfl, rfl, rfl⟩

theorem Conserves.step {session next : Session S α} {move : Move A α}
    (hcons : Conserves session) (hstep : Dialogue.step serve room session move = some next) :
    Conserves next := by
  have hturns := hcons.turns
  cases step_cases hstep with
  | ask request hready =>
      refine ⟨?_, hcons.messages, hcons.replies, ?_⟩
      · rw [List.flatten_append, ← hcons.requests, List.append_assoc]
        simp
      · rw [hready] at hturns
        simpa using hturns
  | handle count answers server after messages hserver hidle _ _ _ hserve =>
      refine ⟨?_, hcons.messages, ?_, hturns⟩
      · rw [← hcons.requests, List.flatten_append]
        simp
      · rw [List.flatten_append, ← hcons.replies, hidle]
        simp
  | tell message later hmessage =>
      refine ⟨hcons.requests, ?_, ?_, hturns⟩
      · rw [List.flatten_append, ← hcons.messages, List.append_assoc]
        simp
      · rw [← hcons.replies, hmessage]
        simp
  | hear count hwaiting =>
      refine ⟨hcons.requests, ?_, hcons.replies, ?_⟩
      · rw [← hcons.messages, List.flatten_append]
        simp
      · rw [hwaiting] at hturns
        simpa using hturns
  | hearEnd hwaiting =>
      refine ⟨hcons.requests, ?_, hcons.replies, ?_⟩
      · rw [← hcons.messages, List.flatten_append]
        simp
      · rw [hwaiting] at hturns
        simpa using hturns

/-- Every receive takes all there is, and no handler sends more than one message. -/
def Brief (serve : Serve S A α) (session : Session S α) : Move A α → Prop
  | .ask request => request ≠ []
  | .handle count answers =>
      count = session.toServer.length ∧
        ∀ reply ∈ session.server.bind fun server => serve answers server session.toServer,
          reply.2.length ≤ 1 ∧ [] ∉ reply.2
  | .tell => True
  | .hear count => count = session.toClient.length
  | .hearEnd => False

instance decidableBrief [DecidableEq α] (session : Session S α) (move : Move A α) :
    Decidable (Brief serve session move) :=
  match move with
  | .ask request => inferInstanceAs (Decidable (request ≠ []))
  | .handle _ _ => inferInstanceAs (Decidable (_ ∧ _))
  | .tell => isTrue trivial
  | .hear count => inferInstanceAs (Decidable (count = session.toClient.length))
  | .hearEnd => isFalse id

/-- What a receive of everything is answered in a brief session. -/
theorem Brief.reply {session : Session S α} {count : Nat} {answers : A} {server : S}
    {next : Option S} {messages : List (List α)}
    (hbrief : Brief serve session (.handle count answers)) (hserver : session.server = some server)
    (hserve : serve answers server (session.toServer.take count) = some (next, messages)) :
    count = session.toServer.length ∧ messages.length ≤ 1 ∧ [] ∉ messages := by
  obtain ⟨rfl, hreply⟩ := hbrief
  rw [List.take_length] at hserve
  refine ⟨rfl, hreply (next, messages) ?_⟩
  rw [hserver, Option.bind_some, hserve]
  rfl

/-- Where a session is when nothing is left over from an earlier request. -/
inductive Phase (session : Session S α) : Prop where
  | ready (hwaiting : session.waiting = false) (hserver : session.toServer = [])
      (houtbox : session.outbox = []) (hclient : session.toClient = [])
      (hasked : session.asked = session.handled) (htold : session.told = session.heard)
      (hloud : [] ∉ session.replies)
  | asked (hwaiting : session.waiting = true) (hserver : session.toServer ≠ [])
      (houtbox : session.outbox = []) (hclient : session.toClient = [])
      (hasked : session.asked = session.handled ++ [session.toServer])
      (htold : session.told = session.heard) (hloud : [] ∉ session.replies)
  | answering (message : List α) (hmessage : message ≠ [])
      (hwaiting : session.waiting = true) (hserver : session.toServer = [])
      (houtbox : session.outbox = [message]) (hclient : session.toClient = [])
      (hasked : session.asked = session.handled) (htold : session.told = session.heard)
      (hloud : [] ∉ session.replies)
  | answered (hwaiting : session.waiting = true) (hserver : session.toServer = [])
      (houtbox : session.outbox = []) (hclient : session.toClient ≠ [])
      (hasked : session.asked = session.handled)
      (htold : session.told = session.heard ++ [session.toClient])
      (hloud : [] ∉ session.replies)
  | silent (hwaiting : session.waiting = true) (hserver : session.toServer = [])
      (houtbox : session.outbox = []) (hclient : session.toClient = [])
      (hasked : session.asked = session.handled) (htold : session.told = session.heard)
      (hsilent : [] ∈ session.replies)

/-- One request at a time, with at most one message for each. -/
structure InStep (session : Session S α) : Prop where
  phase : Phase session
  brief : ∀ messages ∈ session.replies, messages.length ≤ 1
  counted : session.handled.length = session.replies.length
  conserves : Conserves session

theorem InStep.start (server : S) : InStep (start server : Session S α) where
  phase := .ready rfl rfl rfl rfl rfl rfl List.not_mem_nil
  brief := List.forall_mem_nil _
  counted := rfl
  conserves := .start server

theorem Phase.step {session next : Session S α} {move : Move A α} (hphase : Phase session)
    (hbrief : Brief serve session move)
    (hstep : Dialogue.step serve room session move = some next) :
    Phase next := by
  cases step_cases hstep with
  | ask request hready =>
      cases hphase with
      | ready _ hserver houtbox hclient hasked htold hloud =>
          refine .asked rfl ?_ houtbox hclient ?_ htold hloud
          · have hrequest : request ≠ [] := hbrief
            simpa [hserver] using hrequest
          · simp [hserver, hasked]
      | asked hwaiting | answering _ _ hwaiting | answered hwaiting | silent hwaiting =>
          rw [hready] at hwaiting
          cases hwaiting
  | handle count answers server after messages hserver hidle hcount hroom havailable hserve =>
      obtain ⟨rfl, hshort, hnonempty⟩ := hbrief.reply hserver hserve
      cases hphase with
      | asked hwaiting _ houtbox hclient hasked htold hloud =>
          have hrest : session.toServer.drop session.toServer.length = [] := List.drop_length
          cases messages with
          | nil =>
              refine .silent hwaiting hrest rfl hclient ?_ htold ?_
              · simpa using hasked
              · simp
          | cons message later =>
              have hone : later = [] := by
                simpa using hshort
              subst hone
              refine .answering message ?_ hwaiting hrest rfl hclient ?_ htold ?_
              · simpa [eq_comm] using hnonempty
              · simpa using hasked
              · simpa using hloud
      | ready _ hempty | answering _ _ _ hempty | answered _ hempty | silent _ hempty =>
          simp [hempty] at hcount
  | tell message later hmessage =>
      cases hphase with
      | answering single hsingle hwaiting hserver houtbox hclient hasked htold hloud =>
          rw [houtbox] at hmessage
          obtain ⟨rfl, rfl⟩ := List.cons.inj hmessage
          refine .answered hwaiting hserver rfl ?_ hasked ?_ hloud
          · simpa [hclient] using hsingle
          · simp [hclient, htold]
      | ready _ _ houtbox | asked _ _ houtbox | answered _ _ houtbox | silent _ _ houtbox =>
          rw [houtbox] at hmessage
          cases hmessage
  | hear count hwaiting hcount hroom havailable =>
      obtain rfl : count = session.toClient.length := hbrief
      cases hphase with
      | answered _ hserver houtbox hclient hasked htold hloud =>
          refine .ready rfl hserver houtbox ?_ hasked ?_ hloud
          · simp
          · simpa using htold
      | ready _ _ _ hempty | asked _ _ _ hempty | answering _ _ _ _ _ hempty
      | silent _ _ _ hempty =>
          simp [hempty] at hcount
  | hearEnd => exact hbrief.elim

theorem InStep.step {session next : Session S α} {move : Move A α} (hinv : InStep session)
    (hbrief : Brief serve session move)
    (hstep : Dialogue.step serve room session move = some next) :
    InStep next := by
  refine ⟨hinv.phase.step hbrief hstep, ?_, ?_, hinv.conserves.step hstep⟩
  · cases step_cases hstep with
    | handle count answers server after messages hserver _ _ _ _ hserve =>
        exact List.forall_mem_append.mpr
          ⟨hinv.brief, List.forall_mem_singleton.mpr (hbrief.reply hserver hserve).2.1⟩
    | _ => exact hinv.brief
  · cases step_cases hstep with
    | handle => simpa using hinv.counted
    | _ => exact hinv.counted

/-- The run lemma of brief sessions. -/
theorem inStep_of_along {server : S} {session : Session S α} {moves : List (Move A α)}
    (hbrief : Along (Dialogue.step serve room) (Brief serve) (start server) moves)
    (hrun : run (Dialogue.step serve room) (start server) moves = some session) :
    InStep session :=
  invariant_of_along (fun _ _ _ hinv hallowed hstep => hinv.step hallowed hstep)
    (.start server) hbrief hrun

/-- What was handled was asked for as it was handled, one request at a time. -/
theorem InStep.handled_prefix {session : Session S α} (hinv : InStep session) :
    session.handled <+: session.asked ∧
      session.asked.length ≤ session.handled.length + 1 := by
  cases hinv.phase with
  | ready _ _ _ _ hasked | answering _ _ _ _ _ _ hasked | answered _ _ _ _ hasked
  | silent _ _ _ _ hasked =>
      rw [hasked]
      exact ⟨List.prefix_refl _, Nat.le_succ _⟩
  | asked _ _ _ _ hasked =>
      rw [hasked, List.length_append, List.length_singleton]
      exact ⟨List.prefix_append _ _, Nat.le_refl _⟩

/-- What the client heard are whole messages. -/
theorem InStep.heard_prefix {session : Session S α} (hinv : InStep session) :
    session.heard <+: session.replies.flatten := by
  rw [← hinv.conserves.replies]
  cases hinv.phase with
  | ready _ _ _ _ _ htold | asked _ _ _ _ _ htold | answering _ _ _ _ _ _ _ htold
  | silent _ _ _ _ _ htold =>
      rw [htold]
      exact List.prefix_append _ _
  | answered _ _ _ _ _ htold =>
      rw [htold, List.append_assoc]
      exact List.prefix_append _ _

/-- The client waits for an answer, the server for a request, and nothing is on its way. -/
structure Stuck (session : Session S α) : Prop where
  waiting : session.waiting = true
  listening : session.server.isSome = true
  toServer : session.toServer = []
  outbox : session.outbox = []
  toClient : session.toClient = []

theorem Stuck.no_move {session : Session S α} (hstuck : Stuck session) (move : Move A α) :
    Dialogue.step serve room session move = none := by
  cases hmove : Dialogue.step serve room session move with
  | none => rfl
  | some next =>
      cases step_cases hmove with
      | ask request hready =>
          rw [hstuck.waiting] at hready
          cases hready
      | handle count answers server after messages _ _ hcount _ havailable =>
          rw [hstuck.toServer, List.length_nil] at havailable
          omega
      | tell message later hmessage =>
          rw [hstuck.outbox] at hmessage
          cases hmessage
      | hear count _ hcount _ havailable =>
          rw [hstuck.toClient, List.length_nil] at havailable
          omega
      | hearEnd _ hclosed =>
          have hopen := hstuck.listening
          rw [hclosed] at hopen
          cases hopen

/-- As long as the connection is open, only a request without a message ends the session. -/
theorem InStep.stuck_iff {session : Session S α} (hinv : InStep session)
    (hopen : session.server.isSome = true) : Stuck session ↔ [] ∈ session.replies := by
  cases hinv.phase with
  | ready hwaiting _ _ _ _ _ hloud =>
      refine ⟨fun hstuck => ?_, fun hsilent => absurd hsilent hloud⟩
      rw [hstuck.waiting] at hwaiting
      cases hwaiting
  | asked _ hserver _ _ _ _ hloud =>
      exact ⟨fun hstuck => absurd hstuck.toServer hserver, fun hsilent => absurd hsilent hloud⟩
  | answering message _ _ _ houtbox _ _ _ hloud =>
      refine ⟨fun hstuck => ?_, fun hsilent => absurd hsilent hloud⟩
      rw [hstuck.outbox] at houtbox
      cases houtbox
  | answered _ _ _ hclient _ _ hloud =>
      exact ⟨fun hstuck => absurd hstuck.toClient hclient, fun hsilent => absurd hsilent hloud⟩
  | silent hwaiting hserver houtbox hclient _ _ hsilent =>
      exact ⟨fun _ => hsilent, fun _ => ⟨hwaiting, hopen, hserver, houtbox, hclient⟩⟩

/-- Each receive of the client takes the first message it has not heard yet. -/
def Punctual (session : Session S α) : Move A α → Prop
  | .hear count => (session.told.drop session.heard.length).head?.map List.length = some count
  | .hearEnd => False
  | _ => True

instance decidablePunctual (session : Session S α) (move : Move A α) :
    Decidable (Punctual session move) :=
  match move with
  | .ask _ => isTrue trivial
  | .handle _ _ => isTrue trivial
  | .tell => isTrue trivial
  | .hear count => inferInstanceAs (Decidable (_ = some count))
  | .hearEnd => isFalse id

/-- The messages that are on their way to the client are whole. -/
def HearsWhole (session : Session S α) : Prop :=
  ∃ later, session.told = session.heard ++ later ∧ session.toClient = later.flatten

theorem HearsWhole.step {session next : Session S α} {move : Move A α}
    (hwhole : HearsWhole session) (hpunctual : Punctual session move)
    (hstep : Dialogue.step serve room session move = some next) : HearsWhole next := by
  obtain ⟨later, htold, hclient⟩ := hwhole
  cases step_cases hstep with
  | ask | handle => exact ⟨later, htold, hclient⟩
  | tell message rest hmessage =>
      refine ⟨later ++ [message], ?_, ?_⟩
      · simp [htold]
      · simp [hclient]
  | hear count =>
      have hfirst : later.head?.map List.length = some count := by
        have hnext : (session.told.drop session.heard.length).head?.map List.length =
          some count := hpunctual
        rwa [htold, List.drop_left] at hnext
      cases later with
      | nil => cases hfirst
      | cons message others =>
          obtain rfl : message.length = count := Option.some.inj hfirst
          rw [List.flatten_cons] at hclient
          refine ⟨others, ?_, ?_⟩
          · simp [htold, hclient]
          · simp [hclient]
  | hearEnd => exact hpunctual.elim

/-- The client takes the messages in the order in which they are sent, whichever request they
are for. -/
theorem heard_of_punctual {server : S} {session : Session S α} {moves : List (Move A α)}
    (hpunctual : Along (Dialogue.step serve room) Punctual (start server) moves)
    (hrun : run (Dialogue.step serve room) (start server) moves = some session) :
    session.heard <+: session.replies.flatten := by
  have hkeeps : ∀ (before : Session S α) (move : Move A α) (after : Session S α),
      Conserves before ∧ HearsWhole before → Punctual before move →
        Dialogue.step serve room before move = some after →
          Conserves after ∧ HearsWhole after :=
    fun _ _ _ hinv hallowed hstep => ⟨hinv.1.step hstep, hinv.2.step hallowed hstep⟩
  obtain ⟨hcons, later, htold, -⟩ :=
    invariant_of_along hkeeps ⟨.start server, [], rfl, rfl⟩ hpunctual hrun
  rw [← hcons.replies, htold, List.append_assoc]
  exact List.prefix_append _ _

/-- The messages a handler has still to send can all be sent before anything else happens. -/
theorem run_tell (session : Session S α) :
    run (Dialogue.step serve room) session (List.replicate session.outbox.length .tell) =
      some
        { session with
          outbox := []
          toClient := session.toClient ++ session.outbox.flatten
          told := session.told ++ session.outbox } := by
  obtain ⟨waiting, toServer, server, outbox, toClient, asked, handled, replies, told, heard⟩ :=
    session
  induction outbox generalizing toClient told with
  | nil => simp [run]
  | cons message later ih =>
      rw [List.length_cons, List.replicate_succ, run]
      simp only [Dialogue.step, Option.bind_some]
      rw [ih]
      simp

/-- The server takes all that has arrived. -/
theorem step_handle_all {session : Session S α} {server : S} {next : Option S} {answers : A}
    {messages : List (List α)} (hserver : session.server = some server)
    (houtbox : session.outbox = []) (hrequest : session.toServer ≠ [])
    (hroom : session.toServer.length ≤ room)
    (hserve : serve answers server session.toServer = some (next, messages)) :
    Dialogue.step serve room session (.handle session.toServer.length answers) =
      some
        { session with
          toServer := []
          server := next
          outbox := messages
          handled := session.handled ++ [session.toServer]
          replies := session.replies ++ [messages] } := by
  have hpositive := List.length_pos_iff.mpr hrequest
  simp [Dialogue.step, hserver, houtbox, hpositive, hroom, hserve]

/-- A request that is answered by two messages lets the client send two more before the server
listens again, which then takes them for one. -/
theorem run_ahead {session : Session S α} {server next : S} {after : Option S}
    {answers further : A} {first second : List α} {rest messages : List (List α)}
    {one two : List α} (hwaiting : session.waiting = true)
    (hserver : session.server = some server) (houtbox : session.outbox = [])
    (hclient : session.toClient = []) (hrequest : session.toServer ≠ [])
    (hroom : session.toServer.length ≤ room)
    (hserve : serve answers server session.toServer = some (some next, first :: second :: rest))
    (hfirst : first ≠ []) (hsecond : second ≠ []) (hfirstRoom : first.length ≤ room)
    (hsecondRoom : second.length ≤ room) (hone : one ≠ []) (hjoined : (one ++ two).length ≤ room)
    (hlater : serve further next (one ++ two) = some (after, messages)) :
    ∃ moves final, run (Dialogue.step serve room) session moves = some final ∧
      final.asked = session.asked ++ [one, two] ∧
      final.handled = session.handled ++ [session.toServer, one ++ two] := by
  have hfirstPositive := List.length_pos_iff.mpr hfirst
  have hsecondPositive := List.length_pos_iff.mpr hsecond
  have hboth : one ++ two ≠ [] := List.append_ne_nil_of_left_ne_nil hone two
  -- the client hears both messages, and asks behind each
  let ahead : Session S α :=
    { session with
      toServer := one ++ two
      server := some next
      outbox := rest
      asked := session.asked ++ [one, two]
      handled := session.handled ++ [session.toServer]
      replies := session.replies ++ [first :: second :: rest]
      told := session.told ++ [first, second]
      heard := session.heard ++ [first, second] }
  have hahead : run (Dialogue.step serve room) session
      [.handle session.toServer.length answers, .tell, .hear first.length, .ask one, .tell,
        .hear second.length, .ask two] = some ahead := by
    rw [run, step_handle_all hserver houtbox hrequest hroom hserve]
    simp [run, Dialogue.step, ahead, hwaiting, hclient, hfirstPositive, hfirstRoom,
      hsecondPositive, hsecondRoom]
  let listening : Session S α :=
    { ahead with outbox := [], toClient := rest.flatten, told := ahead.told ++ rest }
  have hlistening : run (Dialogue.step serve room) ahead (List.replicate rest.length .tell) =
      some listening := by
    simpa [ahead, listening, hclient] using @run_tell S A α serve room ahead
  obtain ⟨final, hfinal, hasked, hhandled⟩ : ∃ final,
      Dialogue.step serve room listening (.handle (one ++ two).length further) = some final ∧
        final.asked = listening.asked ∧
        final.handled = listening.handled ++ [one ++ two] :=
    ⟨_, step_handle_all rfl rfl hboth hjoined hlater, rfl, rfl⟩
  refine ⟨_ ++ (_ ++ [_]), final, run_append_eq_some.mpr ⟨ahead, hahead, run_append_eq_some.mpr
    ⟨listening, hlistening, run_cons_eq_some.mpr ⟨final, hfinal, rfl⟩⟩⟩, hasked, ?_⟩
  simp [hhandled, listening, ahead]

end Dialogue
