/-
send_request_header_sequence: the four commands that fetch the headers from the FCC,
and the loop that tries them again.
-/
import Andor2k.CText
import Mathlib.Tactic.Common

namespace Andor2k

open CText

/-- `waitReply` is 0 where no reply is awaited, 1 where one is, and 2 where it may time out. -/
structure AristrachosCommand where
  command : Text
  waitReply : Int
  command_fits : command.length < 64

def cmdSequence : List AristrachosCommand :=
  [⟨ascii "0006RE ON;", 0, by decide⟩,
   ⟨ascii "0003RS;", 1, by decide⟩,
   ⟨ascii "0006RE OF;", 2, by decide⟩,
   ⟨ascii "0003RD;", 1, by decide⟩]

def aristarchosMaxHeaderSize : Nat := 4096

abbrev HeaderBuffer := CharArray aristarchosMaxHeaderSize

/-- What one `recv` into the buffer gives: as many bytes as it returns, or no bytes and the
value `errno` has then. -/
inductive FccReply where
  | received (bytes : List UInt8) (nonempty : 0 < bytes.length)
      (fits : bytes.length ≤ aristarchosMaxHeaderSize)
  | failed (btRecv : Int) (nothing : btRecv ≤ 0) (errno : Int)

/-- EAGAIN, which is EWOULDBLOCK as well. -/
def eagain : Int := 11

/-- How the FCC meets one command: what `send` returns, and what a `recv` gives. -/
structure FccExchange where
  btSent : Int
  reply : FccReply

/-- How the FCC meets one try. -/
structure FccTry where
  sockid : Int
  connect : Int
  exchange : Nat → FccExchange

def questionMark : UInt8 := 63

def responseHasError (response : List UInt8) : Bool :=
  decide (response.head? ≠ some 0 ∧
    (response[4]? = some questionMark ∨ response[5]? = some questionMark))

/-- The status the constructor of `ClientSocket` ends with; it throws if it is negative. -/
def clientSocketStatus (fcc : FccTry) : Int :=
  if fcc.sockid < 0 then -10
  else if fcc.connect < 0 then -30
  else fcc.connect

/-- The variables of the function that outlive a try. -/
structure RequestState where
  count : Nat
  error : Int
  header : HeaderBuffer

/-- The buffer after `memset` and a `recv` of these bytes. -/
def receivedBuffer (bytes : List UInt8)
    (fits : bytes.length ≤ aristarchosMaxHeaderSize) : HeaderBuffer :=
  ⟨overlay (CharArray.zero aristarchosMaxHeaderSize).bytes 0 bytes, by
    rw [length_overlay, CharArray.length_bytes]
    rw [CharArray.length_bytes]
    omega⟩

/-- The reply to one command; the flag tells whether the loop breaks. -/
def awaitReply (cmd : AristrachosCommand) (reply : FccReply) (state : RequestState) :
    Bool × RequestState :=
  match reply with
  | .failed _ _ errno =>
      let state := { state with header := CharArray.zero _ }
      let timeoutSet := decide (errno = eagain)
      if timeoutSet ∧ cmd.waitReply > 1 then (false, state)
      else (true, { state with error := 1 })
  | .received bytes _ fits =>
      let state := { state with header := receivedBuffer bytes fits }
      if responseHasError state.header.bytes then (true, { state with error := 1 })
      else (false, state)

/-- One command of the sequence; the flag tells whether the loop breaks. -/
def sendCommand (cmd : AristrachosCommand) (exchange : FccExchange) (state : RequestState) :
    Bool × RequestState :=
  let sent := state.header.strcpy cmd.command (by
    have hfits := cmd.command_fits
    unfold aristarchosMaxHeaderSize
    omega)
  let state := { state with header := sent }
  if exchange.btSent ≤ 0 then (true, { state with error := 1 })
  else if cmd.waitReply ≠ 0 then awaitReply cmd exchange.reply state
  else (false, state)

/-- The commands from number `i` on. -/
def commandLoop (exchange : Nat → FccExchange) :
    Nat → List AristrachosCommand → RequestState → RequestState
  | _, [], state => state
  | i, cmd :: rest, state =>
      match sendCommand cmd (exchange i) state with
      | (true, state) => state
      | (false, state) => commandLoop exchange (i + 1) rest state

/-- One pass of the outer loop. -/
def runTry (fcc : FccTry) (state : RequestState) : RequestState :=
  let state := { state with error := 0, count := state.count + 1 }
  -- the exception leaves the flag as it is
  if clientSocketStatus fcc < 0 then state
  else
    let state := commandLoop fcc.exchange 0 cmdSequence state
    -- written behind the loop, also when the loop was left by a break
    { state with error := 0 }

/-- The outer loop, with as many passes as `count < max_tries` still allows. -/
def tryLoop (fcc : Nat → FccTry) : Nat → RequestState → RequestState
  | 0, state => state
  | left + 1, state =>
      if state.error ≠ 0 then tryLoop fcc left (runTry (fcc state.count) state)
      else state

/-- The number of tries made, and the buffer unless nullptr is returned. -/
structure RequestResult where
  tries : Nat
  header : Option HeaderBuffer

/-- `fcc n` is the behaviour of the FCC in try `n`, counted from 0. -/
def sendRequestHeaderSequence (fcc : Nat → FccTry) (maxTries : Int)
    (header : HeaderBuffer) : RequestResult :=
  let final := tryLoop fcc maxTries.toNat ⟨0, 1, header⟩
  ⟨final.count, if final.error ≠ 0 then none else some final.header⟩

/-- The reply arrived without a question mark behind its number. -/
def FccReply.Accepted : FccReply → Prop
  | received bytes _ _ => bytes[0]? = some 0 ∨
      (bytes[4]? ≠ some questionMark ∧ bytes[5]? ≠ some questionMark)
  | failed _ _ _ => False

def FccReply.TimedOut : FccReply → Prop
  | received _ _ _ => False
  | failed _ _ errno => errno = eagain

/-- The command went out, and the reply it needs came. -/
structure ExchangeComplete (cmd : AristrachosCommand) (exchange : FccExchange) : Prop where
  sent : 0 < exchange.btSent
  mandatory : cmd.waitReply = 1 → exchange.reply.Accepted
  optional : cmd.waitReply = 2 → exchange.reply.Accepted ∨ exchange.reply.TimedOut

/-- The try connected and completed all its commands. -/
structure TryComplete (fcc : FccTry) : Prop where
  connected : 0 ≤ fcc.sockid ∧ 0 ≤ fcc.connect
  exchanges : ∀ i cmd, cmdSequence[i]? = some cmd → ExchangeComplete cmd (fcc.exchange i)

/-- What the function is to return: the buffer only after a complete try, with fewer tries
than allowed only if the last one is complete, and nullptr after all of them otherwise. -/
structure CompleteTryOrNull (fcc : Nat → FccTry) (maxTries : Int)
    (result : RequestResult) : Prop where
  nonNull : result.header ≠ none → TryComplete (fcc (result.tries - 1))
  stopsEarly : result.tries < maxTries → TryComplete (fcc (result.tries - 1))
  otherwise : (∀ n < result.tries, ¬ TryComplete (fcc n)) →
    result.tries = maxTries ∧ result.header = none

/-- Behind what was received the buffer holds zeros. -/
theorem receivedBuffer_getElem? {bytes : List UInt8}
    (fits : bytes.length ≤ aristarchosMaxHeaderSize) (i : Nat) {byte : UInt8}
    (hbyte : byte ≠ 0) :
    (receivedBuffer bytes fits).bytes[i]? = some byte ↔ bytes[i]? = some byte := by
  simp only [receivedBuffer, overlay, List.take_zero, List.nil_append, CharArray.zero]
  rcases Nat.lt_or_ge i bytes.length with hin | hout
  · rw [List.getElem?_append_left hin]
  · rw [List.getElem?_append_right hout, List.getElem?_eq_none hout]
    constructor
    · intro hzeros
      have hmem := List.mem_of_mem_drop (List.mem_of_getElem? hzeros)
      exact absurd (List.eq_of_mem_replicate hmem) hbyte
    · intro hnone
      cases hnone

theorem receivedBuffer_head? {bytes : List UInt8} (nonempty : 0 < bytes.length)
    (fits : bytes.length ≤ aristarchosMaxHeaderSize) :
    (receivedBuffer bytes fits).bytes.head? = bytes[0]? := by
  obtain ⟨first, rest, rfl⟩ := List.exists_cons_of_length_pos nonempty
  rfl

/-- The check on the buffer is a check on the reply. -/
theorem responseHasError_receivedBuffer {bytes : List UInt8} (nonempty : 0 < bytes.length)
    (fits : bytes.length ≤ aristarchosMaxHeaderSize) :
    responseHasError (receivedBuffer bytes fits).bytes = false ↔
      (FccReply.received bytes nonempty fits).Accepted := by
  have hquestion : questionMark ≠ 0 := by decide
  simp only [responseHasError, decide_eq_false_iff_not, receivedBuffer_head? nonempty fits,
    receivedBuffer_getElem? fits _ hquestion, FccReply.Accepted]
  constructor
  · intro hclean
    by_cases hzero : bytes[0]? = some 0
    · exact Or.inl hzero
    · right
      constructor
      · intro hfour
        exact hclean ⟨hzero, Or.inl hfour⟩
      · intro hfive
        exact hclean ⟨hzero, Or.inr hfive⟩
  · rintro (hzero | ⟨hfour, hfive⟩) ⟨hfirst, hflag⟩
    · exact hfirst hzero
    · rcases hflag with hflag | hflag
      · exact hfour hflag
      · exact hfive hflag

/-- A reply lets the loop go on, and then leaves the flag alone, or breaks it with the flag
set. -/
theorem awaitReply_spec (cmd : AristrachosCommand) (reply : FccReply) (state : RequestState) :
    (reply.Accepted ∨ (reply.TimedOut ∧ cmd.waitReply > 1) →
      (awaitReply cmd reply state).1 = false ∧
        (awaitReply cmd reply state).2.error = state.error) ∧
    (¬ (reply.Accepted ∨ (reply.TimedOut ∧ cmd.waitReply > 1)) →
      (awaitReply cmd reply state).1 = true ∧ (awaitReply cmd reply state).2.error = 1) := by
  cases reply with
  | received bytes nonempty fits =>
      rw [← responseHasError_receivedBuffer nonempty fits]
      by_cases herror : responseHasError (receivedBuffer bytes fits).bytes = true
      · simp [awaitReply, herror, FccReply.TimedOut]
      · simp [awaitReply, herror]
  | failed btRecv nothing errno =>
      by_cases hgoOn : errno = eagain ∧ cmd.waitReply > 1
      · simp [awaitReply, FccReply.Accepted, FccReply.TimedOut, hgoOn]
      · simp [awaitReply, FccReply.Accepted, FccReply.TimedOut, hgoOn]

/-- The same for a whole command. -/
theorem sendCommand_spec {cmd : AristrachosCommand} (exchange : FccExchange)
    (state : RequestState)
    (hwait : cmd.waitReply = 0 ∨ cmd.waitReply = 1 ∨ cmd.waitReply = 2) :
    (ExchangeComplete cmd exchange → (sendCommand cmd exchange state).1 = false ∧
      (sendCommand cmd exchange state).2.error = state.error) ∧
    (¬ ExchangeComplete cmd exchange → (sendCommand cmd exchange state).1 = true ∧
      (sendCommand cmd exchange state).2.error = 1) := by
  by_cases hsent : exchange.btSent ≤ 0
  · have hincomplete : ¬ ExchangeComplete cmd exchange := fun hdone =>
      absurd hdone.sent (by omega)
    simp [sendCommand, hsent, hincomplete]
  · rcases hwait with hwait | hwait | hwait
    · have hdone : ExchangeComplete cmd exchange :=
        ⟨by omega, fun hone => by omega, fun htwo => by omega⟩
      simp [sendCommand, hsent, hwait, hdone]
    · have hiff : ExchangeComplete cmd exchange ↔
          exchange.reply.Accepted ∨ (exchange.reply.TimedOut ∧ cmd.waitReply > 1) := by
        constructor
        · intro hdone
          exact Or.inl (hdone.mandatory hwait)
        · rintro (haccepted | ⟨-, htwo⟩)
          · exact ⟨by omega, fun _ => haccepted, fun _ => Or.inl haccepted⟩
          · omega
      have hreply := awaitReply_spec cmd exchange.reply
      simp only [sendCommand, hsent, hwait, hiff] at hreply ⊢
      exact hreply _
    · have hiff : ExchangeComplete cmd exchange ↔
          exchange.reply.Accepted ∨ (exchange.reply.TimedOut ∧ cmd.waitReply > 1) := by
        constructor
        · intro hdone
          rcases hdone.optional hwait with haccepted | htimeout
          · exact Or.inl haccepted
          · exact Or.inr ⟨htimeout, by omega⟩
        · intro hreply
          exact ⟨by omega, fun hone => by omega, fun _ => hreply.imp_right And.left⟩
      have hreply := awaitReply_spec cmd exchange.reply
      simp only [sendCommand, hsent, hwait, hiff] at hreply ⊢
      exact hreply _

theorem waitReply_of_mem_cmdSequence {cmd : AristrachosCommand} (hcmd : cmd ∈ cmdSequence) :
    cmd.waitReply = 0 ∨ cmd.waitReply = 1 ∨ cmd.waitReply = 2 := by
  simp only [cmdSequence, List.mem_cons, List.not_mem_nil, or_false] at hcmd
  rcases hcmd with rfl | rfl | rfl | rfl
  · exact Or.inl rfl
  · exact Or.inr (Or.inl rfl)
  · exact Or.inr (Or.inr rfl)
  · exact Or.inr (Or.inl rfl)

/-- Every try counts as a success: on each of its exits the flag is 0. -/
theorem runTry_error (fcc : FccTry) (state : RequestState) : (runTry fcc state).error = 0 := by
  unfold runTry
  split
  · rfl
  · rfl

theorem awaitReply_count (cmd : AristrachosCommand) (reply : FccReply) (state : RequestState) :
    (awaitReply cmd reply state).2.count = state.count := by
  cases reply with
  | received bytes nonempty fits =>
      unfold awaitReply
      dsimp only
      split <;> rfl
  | failed btRecv nothing errno =>
      unfold awaitReply
      dsimp only
      split <;> rfl

theorem sendCommand_count (cmd : AristrachosCommand) (exchange : FccExchange)
    (state : RequestState) : (sendCommand cmd exchange state).2.count = state.count := by
  unfold sendCommand
  dsimp only
  split
  · rfl
  · split
    · exact awaitReply_count cmd exchange.reply _
    · rfl

theorem commandLoop_count (exchange : Nat → FccExchange) (start : Nat)
    (commands : List AristrachosCommand) (state : RequestState) :
    (commandLoop exchange start commands state).count = state.count := by
  induction commands generalizing start state with
  | nil => rfl
  | cons cmd rest ih =>
      have hcount := sendCommand_count cmd (exchange start) state
      rw [commandLoop]
      split
      · rename_i after heq
        rw [heq] at hcount
        exact hcount
      · rename_i after heq
        rw [heq] at hcount
        exact (ih (start + 1) after).trans hcount

theorem runTry_count (fcc : FccTry) (state : RequestState) :
    (runTry fcc state).count = state.count + 1 := by
  unfold runTry
  split
  · rfl
  · exact commandLoop_count fcc.exchange 0 cmdSequence _

theorem tryLoop_of_error_eq_zero (fcc : Nat → FccTry) (left : Nat) {state : RequestState}
    (herror : state.error = 0) : tryLoop fcc left state = state := by
  cases left with
  | zero => rfl
  | succ left => simp [tryLoop, herror]

/-- Whatever the FCC does, there is one try and its buffer is returned. -/
theorem sendRequestHeaderSequence_eq (fcc : Nat → FccTry) {maxTries : Int}
    (hmax : 1 ≤ maxTries) (header : HeaderBuffer) :
    sendRequestHeaderSequence fcc maxTries header =
      ⟨1, some (runTry (fcc 0) ⟨0, 1, header⟩).header⟩ := by
  obtain ⟨left, hleft⟩ : ∃ left, maxTries.toNat = left + 1 :=
    ⟨maxTries.toNat - 1, by omega⟩
  have hloop : tryLoop fcc maxTries.toNat ⟨0, 1, header⟩ = runTry (fcc 0) ⟨0, 1, header⟩ := by
    rw [hleft, tryLoop, if_pos Int.one_ne_zero]
    exact tryLoop_of_error_eq_zero fcc left (runTry_error (fcc 0) _)
  have herror := runTry_error (fcc 0) ⟨0, 1, header⟩
  have hcount := runTry_count (fcc 0) ⟨0, 1, header⟩
  simp only [sendRequestHeaderSequence, hloop, herror, hcount]
  rfl

/-- The function keeps to complete tries exactly if the first try is one. -/
theorem completeTryOrNull_iff (fcc : Nat → FccTry) (maxTries : Int) (header : HeaderBuffer)
    (hmax : 1 ≤ maxTries) :
    CompleteTryOrNull fcc maxTries (sendRequestHeaderSequence fcc maxTries header) ↔
      TryComplete (fcc 0) := by
  rw [sendRequestHeaderSequence_eq fcc hmax header]
  constructor
  · intro hkept
    exact hkept.nonNull (by simp)
  · intro hcomplete
    constructor
    · intro _
      exact hcomplete
    · intro _
      exact hcomplete
    · intro hnone
      exact absurd hcomplete (hnone 0 Nat.one_pos)

/-- Every command goes out, and every reply that may be awaited is a semicolon. -/
def promptFcc : FccTry :=
  ⟨3, 0, fun _ => ⟨10, .received [59] (by decide) (by decide)⟩⟩

theorem promptFcc_complete : TryComplete promptFcc := by
  have haccepted : (FccReply.received [59] (by decide) (by decide)).Accepted :=
    Or.inr ⟨by decide, by decide⟩
  refine ⟨⟨by decide, by decide⟩, ?_⟩
  intro i cmd _
  have hsent : 0 < (10 : Int) := by decide
  exact ⟨hsent, fun _ => haccepted, fun _ => Or.inl haccepted⟩

theorem promptFcc_completeTryOrNull :
    1 ≤ (3 : Int) ∧ CompleteTryOrNull (fun _ => promptFcc) 3
      (sendRequestHeaderSequence (fun _ => promptFcc) 3 (CharArray.zero _)) :=
  ⟨by decide, (completeTryOrNull_iff _ 3 _ (by decide)).mpr promptFcc_complete⟩

/-- The FCC refuses every connection. -/
def refusingFcc : FccTry :=
  ⟨3, -1, fun _ => ⟨0, .failed (-1) (by decide) 111⟩⟩

/-- After the first refused connection the buffer is returned, two tries early. -/
theorem refused_connection_returns_buffer :
    (sendRequestHeaderSequence (fun _ => refusingFcc) 3 (CharArray.zero _)).tries = 1 ∧
      (sendRequestHeaderSequence (fun _ => refusingFcc) 3 (CharArray.zero _)).header =
        some (CharArray.zero _) ∧
      ¬ CompleteTryOrNull (fun _ => refusingFcc) 3
        (sendRequestHeaderSequence (fun _ => refusingFcc) 3 (CharArray.zero _)) := by
  refine ⟨rfl, rfl, ?_⟩
  intro hkept
  have hcomplete := hkept.nonNull (by
    rw [sendRequestHeaderSequence_eq _ (by decide)]
    simp)
  exact absurd hcomplete.connected.2 (by decide)

end Andor2k
