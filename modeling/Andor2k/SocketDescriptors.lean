/-
Socket and ClientSocket as owners of descriptors: the system's table of open descriptors
under any interleaving of the objects of a process, and the operations one request to the
FCC performs.
-/
import Andor2k.FccRequest
import Andor2k.Runs
import Mathlib.Logic.Function.Basic

namespace Andor2k

open CText

/-- What is done to a `Socket`, alone or as a member.  `construct` comes with what
`socket()` or `accept()` has returned; the destructor closes what is stored then. -/
inductive SocketOperation where
  | construct (sockid : Int)
  | connect
  | bind
  | listen
  | accept
  | send
  | recv
  | closeSocket
  | destroy
deriving DecidableEq

/-- An object of its own for every construction. -/
inductive SocketLife where
  | unborn
  | alive (sockid : Int)
  | dead
deriving DecidableEq

/-- The objects of all threads, and the object each open descriptor was obtained for. -/
structure Process where
  life : Nat → SocketLife
  owner : Int → Option Nat

def Process.start : Process := ⟨fun _ => .unborn, fun _ => none⟩

/-- `close(sockid)` releases the number, whoever holds it. -/
def Process.close (process : Process) (sockid : Int) : Process :=
  { process with owner := Function.update process.owner sockid none }

def Process.step (process : Process) (action : Nat × SocketOperation) : Option Process :=
  match action.2, process.life action.1 with
  | .construct sockid, .unborn =>
      -- the system hands out numbers that are not open
      if sockid < 0 then
        some { process with life := Function.update process.life action.1 (.alive sockid) }
      else if process.owner sockid = none then
        some
          { life := Function.update process.life action.1 (.alive sockid)
            owner := Function.update process.owner sockid (some action.1) }
      else none
  | .construct _, _ => none
  | .closeSocket, .alive sockid => some (process.close sockid)
  | .destroy, .alive sockid =>
      some { process.close sockid with life := Function.update process.life action.1 .dead }
  | _, .alive _ => some process
  | _, _ => none

/-- Whether a descriptor is passed to `close`. -/
def SocketOperation.closes : SocketOperation → Bool
  | .closeSocket => true
  | .destroy => true
  | _ => false

/-- How often an object passes its descriptor to `close`. -/
def closeCalls (object : Nat) (actions : List (Nat × SocketOperation)) : Nat :=
  actions.countP fun action => action.1 = object ∧ action.2.closes

/-- Every descriptor obtained is passed to `close` once by the time its object is gone, and
not before. -/
def ClosedOnce (actions : List (Nat × SocketOperation)) (final : Process) : Prop :=
  ∀ object sockid, (object, .construct sockid) ∈ actions → 0 ≤ sockid →
    closeCalls object actions = if final.life object = .dead then 1 else 0

/-- Every call of `close` finds the descriptor the object has obtained. -/
def ClosesOwn (process : Process) (actions : List (Nat × SocketOperation)) : Prop :=
  Runs.Along Process.step
    (fun process action => action.2.closes = true → ∀ sockid, 0 ≤ sockid →
      process.life action.1 = .alive sockid → process.owner sockid = some action.1)
    process actions

/-- No object with a descriptor is closed before it is destroyed. -/
def NeverClosed (actions : List (Nat × SocketOperation)) : Prop :=
  ∀ object sockid, (object, .construct sockid) ∈ actions → 0 ≤ sockid →
    (object, .closeSocket) ∉ actions

/-- What an operation can do. -/
theorem Process.step_cases {process next : Process} {object : Nat}
    {operation : SocketOperation} (hstep : process.step (object, operation) = some next) :
    (∃ sockid, operation = .construct sockid ∧ process.life object = .unborn ∧
      next.life = Function.update process.life object (.alive sockid) ∧
      ((sockid < 0 ∧ next.owner = process.owner) ∨
        (0 ≤ sockid ∧ process.owner sockid = none ∧
          next.owner = Function.update process.owner sockid (some object)))) ∨
    (∃ sockid, operation = .closeSocket ∧ process.life object = .alive sockid ∧
      next = process.close sockid) ∨
    (∃ sockid, operation = .destroy ∧ process.life object = .alive sockid ∧
      next.life = Function.update process.life object .dead ∧
      next.owner = Function.update process.owner sockid none) ∨
    (operation.closes = false ∧ (∀ sockid, operation ≠ .construct sockid) ∧
      (∃ sockid, process.life object = .alive sockid) ∧ next = process) := by
  rw [Process.step] at hstep
  cases hlife : process.life object with
  | unborn =>
      cases operation with
      | construct sockid =>
          simp only [hlife] at hstep
          split at hstep
          · rename_i hnegative
            rw [← Option.some.inj hstep]
            exact Or.inl ⟨sockid, rfl, rfl, rfl, Or.inl ⟨hnegative, rfl⟩⟩
          · rename_i hnonneg
            split at hstep
            · rename_i hfree
              rw [← Option.some.inj hstep]
              exact Or.inl ⟨sockid, rfl, rfl, rfl, Or.inr ⟨Int.not_lt.mp hnonneg, hfree, rfl⟩⟩
            · cases hstep
      | _ => simp [hlife] at hstep
  | dead => cases operation <;> simp [hlife] at hstep
  | alive sockid =>
      cases operation with
      | construct other => simp [hlife] at hstep
      | closeSocket =>
          simp only [hlife] at hstep
          exact Or.inr (Or.inl ⟨sockid, rfl, rfl, (Option.some.inj hstep).symm⟩)
      | destroy =>
          simp only [hlife] at hstep
          rw [← Option.some.inj hstep]
          exact Or.inr (Or.inr (Or.inl ⟨sockid, rfl, rfl, rfl, rfl⟩))
      | _ =>
          simp only [hlife] at hstep
          exact Or.inr (Or.inr (Or.inr ⟨rfl, nofun, ⟨sockid, rfl⟩,
            (Option.some.inj hstep).symm⟩))

/-- 1 for an object that is gone. -/
def Process.gone (process : Process) (object : Nat) : Nat :=
  if process.life object = .dead then 1 else 0

/-- An object goes with its `destroy`. -/
theorem Process.gone_step {process next : Process} {action : Nat × SocketOperation}
    (hstep : process.step action = some next) (object : Nat) :
    next.gone object =
      process.gone object + if action = (object, .destroy) then 1 else 0 := by
  obtain ⟨actor, operation⟩ := action
  by_cases hsame : actor = object
  · subst hsame
    rcases step_cases hstep with ⟨sockid, rfl, hunborn, hlife, -⟩ | ⟨sockid, rfl, halive, rfl⟩ |
      ⟨sockid, rfl, halive, hlife, -⟩ | ⟨hcloses, -, ⟨sockid, halive⟩, rfl⟩
    · simp [gone, hlife, hunborn]
    · simp [gone, close, halive]
    · simp [gone, hlife, halive]
    · have hother : operation ≠ .destroy := fun heq => by rw [heq] at hcloses; cases hcloses
      simp [gone, halive, hother]
  · have hkept : next.life object = process.life object := by
      have hne : object ≠ actor := Ne.symm hsame
      rcases step_cases hstep with ⟨sockid, -, -, hlife, -⟩ | ⟨sockid, -, -, rfl⟩ |
        ⟨sockid, -, -, hlife, -⟩ | ⟨-, -, -, rfl⟩
      · rw [hlife, Function.update_of_ne hne]
      · rfl
      · rw [hlife, Function.update_of_ne hne]
      · rfl
    rw [gone, gone, hkept, if_neg fun heq => hsame (Prod.mk.inj heq).1, Nat.add_zero]

/-- Over a run the objects that are gone are those destroyed, each once. -/
theorem gone_run {process final : Process} {actions : List (Nat × SocketOperation)}
    (hrun : Runs.run Process.step process actions = some final) (object : Nat) :
    final.gone object = process.gone object + actions.count (object, .destroy) := by
  induction actions generalizing process with
  | nil =>
      rw [← Option.some.inj hrun]
      rfl
  | cons action rest ih =>
      obtain ⟨next, hstep, hrest⟩ := Runs.run_cons_eq_some.mp hrun
      rw [ih hrest, Process.gone_step hstep, List.count_cons]
      simp only [beq_iff_eq]
      omega

theorem closeCalls_eq (object : Nat) (actions : List (Nat × SocketOperation)) :
    closeCalls object actions =
      actions.count (object, .closeSocket) + actions.count (object, .destroy) := by
  induction actions with
  | nil => rfl
  | cons action rest ih =>
      obtain ⟨actor, operation⟩ := action
      simp only [closeCalls, List.countP_cons, List.count_cons, beq_iff_eq, Prod.mk.injEq,
        decide_eq_true_eq] at ih ⊢
      rw [ih]
      cases operation <;> simp [SocketOperation.closes] <;> omega

/-- Between obtaining its descriptor and losing it, an object passes it to `close` once
more than `close_socket` is called. -/
theorem closedOnce_iff {final : Process} {actions : List (Nat × SocketOperation)}
    (hrun : Runs.run Process.step .start actions = some final) :
    ClosedOnce actions final ↔ NeverClosed actions := by
  have hcalls : ∀ object, closeCalls object actions =
      actions.count (object, .closeSocket) + final.gone object := by
    intro object
    have hstart : Process.start.gone object = 0 := rfl
    rw [closeCalls_eq, gone_run hrun object, hstart, Nat.zero_add]
  simp only [ClosedOnce, NeverClosed, hcalls]
  constructor
  · intro honce object sockid hconstructed hsockid
    have hcount := honce object sockid hconstructed hsockid
    rw [Process.gone, Nat.add_eq_right, List.count_eq_zero] at hcount
    exact hcount
  · intro hnever object sockid hconstructed hsockid
    rw [List.count_eq_zero.mpr (hnever object sockid hconstructed hsockid), Nat.zero_add]
    rfl

/-- The table knows every descriptor for the object that stores it. -/
def Process.Owned (process : Process) : Prop :=
  ∀ object sockid, 0 ≤ sockid → process.life object = .alive sockid →
    process.owner sockid = some object

theorem Process.Owned.step {process next : Process} {action : Nat × SocketOperation}
    (howned : process.Owned) (hstep : process.step action = some next)
    (hallowed : ∀ sockid, 0 ≤ sockid → process.life action.1 = .alive sockid →
      action.2 ≠ .closeSocket) : next.Owned := by
  obtain ⟨actor, operation⟩ := action
  intro object sockid hsockid halive
  rcases step_cases hstep with ⟨stored, rfl, hunborn, hlife, howner⟩ |
    ⟨stored, rfl, hstored, rfl⟩ | ⟨stored, rfl, hstored, hlife, howner⟩ | ⟨-, -, -, rfl⟩
  · by_cases hsame : object = actor
    · subst hsame
      rw [hlife, Function.update_self] at halive
      obtain rfl := SocketLife.alive.inj halive
      obtain ⟨-, -, howner⟩ := howner.resolve_left fun hnegative => by omega
      rw [howner, Function.update_self]
    · rw [hlife, Function.update_of_ne hsame] at halive
      have hbefore := howned object sockid hsockid halive
      rcases howner with ⟨-, howner⟩ | ⟨-, hfree, howner⟩
      · rw [howner, hbefore]
      · have hne : sockid ≠ stored := by
          rintro rfl
          rw [hfree] at hbefore
          cases hbefore
        rw [howner, Function.update_of_ne hne, hbefore]
  · have hne : sockid ≠ stored := by
      rintro rfl
      exact hallowed sockid hsockid hstored rfl
    exact (Function.update_of_ne hne _ _).trans (howned object sockid hsockid halive)
  · have hsame : object ≠ actor := by
      rintro rfl
      rw [hlife, Function.update_self] at halive
      cases halive
    rw [hlife, Function.update_of_ne hsame] at halive
    have hbefore := howned object sockid hsockid halive
    have hne : sockid ≠ stored := by
      rintro rfl
      exact hsame (Option.some.inj (hbefore.symm.trans (howned actor sockid hsockid hstored)))
    rw [howner, Function.update_of_ne hne, hbefore]
  · exact howned object sockid hsockid halive

/-- What an object stores it was constructed with. -/
theorem Process.alive_step {process next : Process} {action : Nat × SocketOperation}
    (hstep : process.step action = some next) {object : Nat} {sockid : Int}
    (halive : next.life object = .alive sockid) :
    process.life object = .alive sockid ∨ action = (object, .construct sockid) := by
  obtain ⟨actor, operation⟩ := action
  rcases step_cases hstep with ⟨stored, rfl, -, hlife, -⟩ | ⟨stored, rfl, -, rfl⟩ |
    ⟨stored, rfl, -, hlife, -⟩ | ⟨-, -, -, rfl⟩
  · by_cases hsame : object = actor
    · subst hsame
      rw [hlife, Function.update_self] at halive
      rw [SocketLife.alive.inj halive]
      exact Or.inr rfl
    · rw [hlife, Function.update_of_ne hsame] at halive
      exact Or.inl halive
  · exact Or.inl halive
  · by_cases hsame : object = actor
    · subst hsame
      rw [hlife, Function.update_self] at halive
      cases halive
    · rw [hlife, Function.update_of_ne hsame] at halive
      exact Or.inl halive
  · exact Or.inl halive

/-- As long as nothing is closed before it is destroyed, `close` finds the right
descriptor. -/
theorem closesOwn_of_neverClosed {process final : Process}
    {actions : List (Nat × SocketOperation)} (howned : process.Owned)
    (hheld : ∀ object sockid, 0 ≤ sockid → process.life object = .alive sockid →
      (object, .closeSocket) ∉ actions)
    (hnever : NeverClosed actions)
    (hrun : Runs.run Process.step process actions = some final) : ClosesOwn process actions := by
  induction actions generalizing process with
  | nil => trivial
  | cons action rest ih =>
      have hfirst : ∀ sockid, 0 ≤ sockid → process.life action.1 = .alive sockid →
          action.2 ≠ .closeSocket := by
        intro sockid hsockid halive hclose
        exact hheld action.1 sockid hsockid halive (hclose ▸ List.mem_cons_self)
      refine ⟨fun _ sockid hsockid halive => howned action.1 sockid hsockid halive,
        fun next hstep => ?_⟩
      obtain ⟨other, hother, hrest⟩ := Runs.run_cons_eq_some.mp hrun
      obtain rfl : next = other := Option.some.inj (hstep.symm.trans hother)
      apply ih (howned.step hstep hfirst)
      · intro object sockid hsockid halive hclosed
        have hlater := List.mem_cons_of_mem action hclosed
        rcases Process.alive_step hstep halive with hbefore | rfl
        · exact hheld object sockid hsockid hbefore hlater
        · exact hnever object sockid List.mem_cons_self hsockid hlater
      · intro object sockid hconstructed hsockid hclosed
        exact hnever object sockid (List.mem_cons_of_mem _ hconstructed) hsockid
          (List.mem_cons_of_mem _ hclosed)
      · exact hrest

/-- The commands from number `i` on: `close_socket` stands in front of every break. -/
def commandOperations (exchange : Nat → FccExchange) :
    Nat → List AristrachosCommand → RequestState → List SocketOperation
  | _, [], _ => []
  | i, cmd :: rest, state =>
      let exchanged :=
        if 0 < (exchange i).btSent ∧ cmd.waitReply ≠ 0 then [.send, .recv] else [.send]
      match sendCommand cmd (exchange i) state with
      | (true, _) => exchanged ++ [.closeSocket]
      | (false, state) => exchanged ++ commandOperations exchange (i + 1) rest state

/-- The life of the `client_socket` of one try. -/
def tryOperations (fcc : FccTry) (state : RequestState) : List SocketOperation :=
  let state := { state with error := 0, count := state.count + 1 }
  if clientSocketStatus fcc < 0 then
    -- the constructor throws, and the member it has constructed is destroyed
    .construct fcc.sockid :: (if fcc.sockid < 0 then [] else [.connect]) ++ [.destroy]
  else
    .construct fcc.sockid :: .connect ::
      commandOperations fcc.exchange 0 cmdSequence state ++ [.closeSocket, .destroy]

/-- One object for every try that is made. -/
def requestOperations (fcc : Nat → FccTry) : Nat → RequestState → List (List SocketOperation)
  | 0, _ => []
  | left + 1, state =>
      if state.error ≠ 0 then
        tryOperations (fcc state.count) state ::
          requestOperations fcc left (runTry (fcc state.count) state)
      else []

/-- Every descriptor obtained for the request is passed to `close` once. -/
def RequestClosesOnce (lives : List (List SocketOperation)) : Prop :=
  ∀ operations ∈ lives, ∀ sockid, .construct sockid ∈ operations → 0 ≤ sockid →
    operations.countP SocketOperation.closes = 1

theorem requestOperations_eq (fcc : Nat → FccTry) {maxTries : Int} (hmax : 1 ≤ maxTries)
    (header : HeaderBuffer) :
    requestOperations fcc maxTries.toNat ⟨0, 1, header⟩ =
      [tryOperations (fcc 0) ⟨0, 1, header⟩] := by
  obtain ⟨left, hleft⟩ : ∃ left, maxTries.toNat = left + 1 :=
    ⟨maxTries.toNat - 1, by omega⟩
  have hrest : requestOperations fcc left (runTry (fcc 0) ⟨0, 1, header⟩) = [] := by
    cases left with
    | zero => rfl
    | succ left => simp [requestOperations, runTry_error]
  rw [hleft, requestOperations, if_pos Int.one_ne_zero, hrest]

/-- A socket that has been connected is closed by hand and by its destructor. -/
theorem requestClosesOnce_iff (fcc : Nat → FccTry) (maxTries : Int) (header : HeaderBuffer) :
    RequestClosesOnce (requestOperations fcc maxTries.toNat ⟨0, 1, header⟩) ↔
      maxTries < 1 ∨ clientSocketStatus (fcc 0) < 0 := by
  by_cases hmax : 1 ≤ maxTries
  · rw [requestOperations_eq fcc hmax header]
    constructor
    · intro honce
      by_contra hconnected
      have hstatus : ¬ clientSocketStatus (fcc 0) < 0 := fun hfails => hconnected (Or.inr hfails)
      have hsockid : 0 ≤ (fcc 0).sockid := by
        by_contra hnegative
        rw [clientSocketStatus, if_pos (Int.not_le.mp hnegative)] at hstatus
        exact hstatus (by decide)
      have hcount := honce _ List.mem_cons_self (fcc 0).sockid (by
        rw [tryOperations, if_neg hstatus]
        exact List.mem_cons_self) hsockid
      have htwice : [SocketOperation.closeSocket, .destroy].countP SocketOperation.closes = 2 := by
        decide
      rw [tryOperations, if_neg hstatus, List.countP_append, htwice] at hcount
      omega
    · rintro (hnone | hfails)
      · omega
      · intro operations hoperations sockid hconstructed hsockid
        rw [List.mem_singleton.mp hoperations, tryOperations, if_pos hfails]
        split
        · rfl
        · rfl
  · have hzero : maxTries.toNat = 0 := by omega
    rw [hzero]
    exact iff_of_true nofun (Or.inl (Int.not_le.mp hmax))

/-- In every run the descriptors are closed once, each by the object it was obtained for,
exactly if no object with a descriptor is closed by hand; a request to the FCC does close
by hand what it has connected. -/
theorem descriptors_closed_once_iff {actions : List (Nat × SocketOperation)} {final : Process}
    (hrun : Runs.run Process.step .start actions = some final) (fcc : Nat → FccTry)
    (maxTries : Int) (header : HeaderBuffer) :
    (ClosedOnce actions final ∧ ClosesOwn .start actions ↔ NeverClosed actions) ∧
      (RequestClosesOnce (requestOperations fcc maxTries.toNat ⟨0, 1, header⟩) ↔
        maxTries < 1 ∨ clientSocketStatus (fcc 0) < 0) := by
  refine ⟨?_, requestClosesOnce_iff fcc maxTries header⟩
  rw [closedOnce_iff hrun]
  constructor
  · rintro ⟨hnever, -⟩
    exact hnever
  · intro hnever
    exact ⟨hnever, closesOwn_of_neverClosed nofun nofun hnever hrun⟩

/-- A connection to a client that only the destructor closes. -/
def acceptedClient : List (Nat × SocketOperation) :=
  [(0, .construct 4), (0, .recv), (0, .send), (0, .destroy)]

theorem acceptedClient_closed_once :
    ∃ final, Runs.run Process.step .start acceptedClient = some final ∧
      (ClosedOnce acceptedClient final ∧ ClosesOwn .start acceptedClient ↔
        NeverClosed acceptedClient) ∧
      (RequestClosesOnce (requestOperations (fun _ => promptFcc) (2 : Int).toNat
          ⟨0, 1, CharArray.zero _⟩) ↔ (2 : Int) < 1 ∨ clientSocketStatus promptFcc < 0) := by
  obtain ⟨final, hrun⟩ := Option.isSome_iff_exists.mp
    (show (Runs.run Process.step .start acceptedClient).isSome by decide)
  exact ⟨final, hrun, descriptors_closed_once_iff hrun (fun _ => promptFcc) 2 (CharArray.zero _)⟩

/-- Two objects: the request to the FCC, and a socket that another thread accepts while the
request is about to be over. -/
def reusedNumber : List (Nat × SocketOperation) :=
  (tryOperations promptFcc ⟨0, 1, CharArray.zero _⟩).dropLast.map (fun operation =>
    (0, operation)) ++ [(1, .construct 3), (0, .destroy)]

/-- The destructor closes the number that the other thread has got in the meantime. -/
theorem reusedNumber_closes_another :
    (∃ process, Runs.run Process.step .start (reusedNumber.dropLast) = some process ∧
      process.life 0 = .alive 3 ∧ process.owner 3 = some 1) ∧
      ¬ ∀ (actions : List (Nat × SocketOperation)) (final : Process),
        Runs.run Process.step .start actions = some final →
        ClosedOnce actions final ∧ ClosesOwn .start actions := by
  constructor
  · have htable : (Runs.run Process.step .start reusedNumber.dropLast).map
        (fun process => (process.life 0, process.owner 3)) = some (.alive 3, some 1) := by
      decide +kernel
    obtain ⟨process, hrun, hboth⟩ := Option.map_eq_some_iff.mp htable
    exact ⟨process, hrun, (Prod.mk.inj hboth).1, (Prod.mk.inj hboth).2⟩
  · intro hall
    obtain ⟨final, hrun⟩ := Option.isSome_iff_exists.mp
      (show (Runs.run Process.step .start reusedNumber).isSome by decide +kernel)
    have hconstructed : (0, SocketOperation.construct 3) ∈ reusedNumber := by decide +kernel
    have htwice : closeCalls 0 reusedNumber = 2 := by decide +kernel
    have honce := (hall reusedNumber final hrun).1 0 3 hconstructed (by decide)
    rw [htwice] at honce
    split at honce
    · cases honce
    · cases honce

end Andor2k
