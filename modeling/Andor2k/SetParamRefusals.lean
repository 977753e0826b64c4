/-
The words of `setparam` that set nothing meaningful: values without a number, and modes
that are none.  What becomes of them is left to the camera.
-/
import Andor2k.TypedWords

namespace Andor2k

open CText Ieee

/-- The words up to the NUL, or to the end of the array. -/
def wordsOf : Tokens → List Text
  | .done => []
  | .overrun => []
  | .token word rest => word :: wordsOf rest

namespace SetOption

/-- The value starts with no number, or names no acquisition mode. -/
def Unfit (option : SetOption) (word : Text) : Prop :=
  match option with
  | acqmode => ¬ (1 ≤ (strtol (acqmode.value word)).value ∧
      (strtol (acqmode.value word)).value ≤ 5)
  | observername => False
  | other => scanMagnitude (splitSign ((other.value word).dropWhile isSpace)).2 = none

/-- The camera refuses the 0 that is read where there is no number. -/
def ZeroRefused (option : SetOption) (sdk : SetParamAnswers) : Prop :=
  match option with
  | hsspeed => sdk.getNumberHSSpeeds ≠ .success ∨ sdk.numSpeeds ≤ 0 ∨ sdk.getHSSpeed ≠ .success
  | preampgain => sdk.getPreAmpGain ≠ .success
  | _ => False

theorem length_splitSign_le (text : Text) : (splitSign text).2.length ≤ text.length := by
  cases text with
  | nil => exact Nat.le_refl _
  | cons byte rest =>
      rw [splitSign]
      split
      · exact Nat.le_succ _
      · split
        · exact Nat.le_succ _
        · exact Nat.le_refl _

theorem length_strtol_rest_le (text : Text) : (strtol text).rest.length ≤ text.length := by
  have hbody := (length_splitSign_le (text.dropWhile isSpace)).trans
    (List.length_dropWhile_le isSpace text)
  rw [strtol]
  dsimp only
  split
  · exact Nat.le_refl _
  · exact (List.length_dropWhile_le isDigit _).trans hbody

theorem length_value_lt {option : SetOption} {word : Text}
    (hoption : ofWord word = some option) : (option.value word).length < word.length := by
  have hflag := List.find?_some hoption
  have hlength := (startsWith_iff.mp hflag).length_le
  have hpos : 0 < option.flag.length := by cases option <;> decide
  rw [value, List.length_drop]
  omega

theorem strtod_of_none {text : Text}
    (hnone : scanMagnitude (splitSign (text.dropWhile isSpace)).2 = none) :
    strtod text = ⟨Binary64.ofMagnitude false 0, text⟩ := by
  simp only [strtod, hnone]

/-- A value that is unfit is read as an acquisition mode, or as 0. -/
theorem refuses_unfit_iff {option : SetOption} {word : Text} (sdk : SetParamAnswers)
    (hoption : ofWord word = some option) (hunfit : option.Unfit word) :
    option.refuses sdk word = true ↔ option.ZeroRefused sdk := by
  have hshort := length_value_lt hoption
  cases option with
  | acqmode =>
      have hrest : (strtol (acqmode.value word)).rest ≠ word := fun hequal => by
        have hlength := length_strtol_rest_le (acqmode.value word)
        rw [hequal] at hlength
        omega
      simp [refuses, ZeroRefused, hrest]
  | observername => exact hunfit.elim
  | kineticcycletime =>
      have hrest : kineticcycletime.value word ≠ word := fun hequal => by
        rw [hequal] at hshort
        omega
      rw [refuses, strtod_of_none hunfit]
      simp [ZeroRefused, hrest]
  | hsspeed =>
      have hrest : hsspeed.value word ≠ word := fun hequal => by
        rw [hequal] at hshort
        omega
      have hzero : (Binary64.ofMagnitude false 0).toInt32 = 0 := by decide +kernel
      rw [refuses, strtod_of_none hunfit]
      have hnonneg : ¬ (0 : Int32) < 0 := by decide
      simp only [hzero, hnonneg, ZeroRefused, hrest, decide_eq_true_eq, false_or]
  | preampgain =>
      have hrest : preampgain.value word ≠ word := fun hequal => by
        rw [hequal] at hshort
        omega
      have hzero : (Binary64.ofMagnitude false 0).toInt32 = 0 := by decide +kernel
      rw [refuses, strtod_of_none hunfit]
      simp [hzero, ZeroRefused, hrest]

/-- Every option but observername, whose value may have no room, does what it announces. -/
theorem storesAs_of_store {option : SetOption} {sdk : SetParamAnswers}
    {params : AndorParameters} {word : Text} {result : OptionResult}
    (hother : option ≠ .observername) (hstore : option.store sdk params word = .ok result) :
    StoresAs result (option.refuses sdk word) (option.written sdk word) params := by
  obtain ⟨found, hfound, hstores⟩ :=
    option.storesAs_store sdk params fun hname => absurd hname hother
  rw [hfound] at hstore
  rwa [← Except.ok.inj hstore]

theorem observername_kept {sdk : SetParamAnswers} {params : AndorParameters} {word : Text}
    {result : OptionResult} (hstore : observername.store sdk params word = .ok result) :
    result = .kept result.params := by
  simp only [store, setObservername] at hstore
  split at hstore
  · cases hstore
  · rw [← Except.ok.inj hstore]
    rfl

/-- A refused word is refused with a status, and changes nothing. -/
theorem store_refused {option : SetOption} {sdk : SetParamAnswers}
    {params after : AndorParameters} {word : Text} {status : Int}
    (hstore : option.store sdk params word = .ok (.refused status after)) :
    option.refuses sdk word = true ∧ status ≠ 0 ∧ after = params := by
  by_cases hname : option = .observername
  · rw [hname] at hstore
    cases observername_kept hstore
  · obtain ⟨hagree, hrefused, hkept⟩ := storesAs_of_store hname hstore
    cases hrefuses : option.refuses sdk word with
    | false => cases hkept hrefuses
    | true =>
        obtain ⟨code, hcode, hresult⟩ := hrefused hrefuses
        obtain ⟨rfl, -⟩ := OptionResult.refused.inj hresult
        rw [written, if_pos hrefuses] at hagree
        have hbytes : after.fieldBytes = params.fieldBytes :=
          funext fun field => hagree field List.not_mem_nil
        exact ⟨rfl, hcode, AndorParameters.eq_of_fieldBytes_eq hbytes⟩

theorem store_kept {option : SetOption} {sdk : SetParamAnswers} {params after : AndorParameters}
    {word : Text} (hstore : option.store sdk params word = .ok (.kept after)) :
    option.refuses sdk word = false := by
  by_cases hname : option = .observername
  · rw [hname]
    rfl
  · cases hrefuses : option.refuses sdk word with
    | false => rfl
    | true =>
        obtain ⟨code, -, hresult⟩ := (storesAs_of_store hname hstore).refused hrefuses
        cases hresult

end SetOption

/-- Every unfit word makes the handler return with a status, at the word if it comes to it,
with the parameters as they were. -/
structure RefusesUnfit (sdk : Nat → SetParamAnswers) (index : Nat) (tokens : Tokens)
    (params : AndorParameters) (reply : Reply) : Prop where
  status : ∀ word ∈ wordsOf tokens, ∀ option, SetOption.ofWord word = some option →
    option.Unfit word → reply.status ≠ 0
  returns : ∀ pre word post option before, wordsOf tokens = pre ++ word :: post →
    setOptions sdk index (tokensOf pre) params = .ok ⟨0, before⟩ →
    SetOption.ofWord word = some option → option.Unfit word →
    ∃ status, option.store (sdk (index + pre.length)) before word =
      .ok (.refused status before) ∧ reply = ⟨status, before⟩

/-- Up to the first refused word, an unfit one is for the camera to refuse. -/
def ZerosRefused (sdk : Nat → SetParamAnswers) : Nat → Tokens → Prop
  | _, .done => True
  | _, .overrun => True
  | index, .token word rest =>
      match SetOption.ofWord word with
      | none => ZerosRefused sdk (index + 1) rest
      | some option =>
          (option.Unfit word → option.ZeroRefused (sdk index)) ∧
            (option.refuses (sdk index) word = false → ZerosRefused sdk (index + 1) rest)

/-- A word the loop goes on behind is neither unfit nor in the way of the others. -/
theorem refusesUnfit_cons {sdk : Nat → SetParamAnswers} {index : Nat} {word : Text}
    {rest : Tokens} {params next : AndorParameters} {reply : Reply}
    (hstep : ∀ later, setOptions sdk index (.token word later) params =
      setOptions sdk (index + 1) later next)
    (hkept : ∀ option, SetOption.ofWord word = some option →
      option.refuses (sdk index) word = false) :
    RefusesUnfit sdk index (.token word rest) params reply ↔
      (∀ option, SetOption.ofWord word = some option → ¬ option.Unfit word) ∧
        RefusesUnfit sdk (index + 1) rest next reply := by
  constructor
  · intro hrefuses
    refine ⟨fun option hoption hunfit => ?_, ?_, ?_⟩
    · obtain ⟨status, hstore, -⟩ :=
        hrefuses.returns [] word (wordsOf rest) option params rfl rfl hoption hunfit
      have hrefused : option.refuses (sdk index) word = true :=
        (SetOption.store_refused hstore).1
      rw [hkept option hoption] at hrefused
      cases hrefused
    · intro other hother option hoption hunfit
      exact hrefuses.status other (List.mem_cons_of_mem _ hother) option hoption hunfit
    · intro pre other post option before hwords hpre hoption hunfit
      have hrun : setOptions sdk index (tokensOf (word :: pre)) params = .ok ⟨0, before⟩ :=
        (hstep (tokensOf pre)).trans hpre
      obtain ⟨status, hstore, hreply⟩ := hrefuses.returns (word :: pre) other post option before
        (congrArg (List.cons word) hwords) hrun hoption hunfit
      rw [List.length_cons, Nat.add_comm pre.length, ← Nat.add_assoc] at hstore
      exact ⟨status, hstore, hreply⟩
  · rintro ⟨hfit, hrefuses⟩
    constructor
    · intro other hother option hoption hunfit
      rcases List.mem_cons.mp hother with rfl | hlater
      · exact absurd hunfit (hfit option hoption)
      · exact hrefuses.status other hlater option hoption hunfit
    · intro pre other post option before hwords hpre hoption hunfit
      cases pre with
      | nil =>
          obtain ⟨rfl, -⟩ := List.cons.inj hwords
          exact absurd hunfit (hfit option hoption)
      | cons first pre =>
          obtain ⟨rfl, hlater⟩ := List.cons.inj hwords
          have hrun : setOptions sdk (index + 1) (tokensOf pre) next = .ok ⟨0, before⟩ :=
            (hstep (tokensOf pre)).symm.trans hpre
          obtain ⟨status, hstore, hreply⟩ :=
            hrefuses.returns pre other post option before hlater hrun hoption hunfit
          rw [List.length_cons, Nat.add_comm pre.length, ← Nat.add_assoc]
          exact ⟨status, hstore, hreply⟩

theorem setOptions_unknown {sdk : Nat → SetParamAnswers} {index : Nat} {word : Text}
    {params : AndorParameters} (hoption : SetOption.ofWord word = none) (later : Tokens) :
    setOptions sdk index (.token word later) params =
      setOptions sdk (index + 1) later params := by
  rw [setOptions, hoption]

section Recognised

variable {sdk : Nat → SetParamAnswers} {index : Nat} {word : Text} {option : SetOption}
  {params after : AndorParameters} {status : Int}

theorem setOptions_kept (hoption : SetOption.ofWord word = some option)
    (hstore : option.store (sdk index) params word = .ok (.kept after)) (later : Tokens) :
    setOptions sdk index (.token word later) params =
      setOptions sdk (index + 1) later after := by
  rw [setOptions, hoption]
  dsimp only
  rw [hstore]

theorem setOptions_refused (hoption : SetOption.ofWord word = some option)
    (hstore : option.store (sdk index) params word = .ok (.refused status after))
    (later : Tokens) :
    setOptions sdk index (.token word later) params = .ok ⟨status, after⟩ := by
  rw [setOptions, hoption]
  dsimp only
  rw [hstore]

/-- A word that is refused ends the command, with the parameters as they were. -/
theorem refusesUnfit_refused (hoption : SetOption.ofWord word = some option)
    (hstore : option.store (sdk index) params word = .ok (.refused status params))
    (hstatus : status ≠ 0) (rest : Tokens) :
    RefusesUnfit sdk index (.token word rest) params ⟨status, params⟩ := by
  refine ⟨fun _ _ _ _ _ => hstatus, ?_⟩
  intro pre other post found before hwords hpre hfound _
  cases pre with
  | nil =>
      obtain ⟨rfl, -⟩ := List.cons.inj hwords
      obtain rfl := Option.some.inj (hoption.symm.trans hfound)
      obtain rfl : params = before := congrArg Reply.params (Except.ok.inj hpre)
      exact ⟨status, hstore, rfl⟩
  | cons first pre =>
      obtain ⟨rfl, -⟩ := List.cons.inj hwords
      rw [tokensOf, setOptions_refused hoption hstore] at hpre
      exact absurd (congrArg Reply.status (Except.ok.inj hpre)) hstatus

end Recognised

theorem setOptions_refusesUnfit_iff {sdk : Nat → SetParamAnswers} {index : Nat}
    {tokens : Tokens} {params : AndorParameters} {reply : Reply}
    (hrun : setOptions sdk index tokens params = .ok reply) :
    RefusesUnfit sdk index tokens params reply ↔ ZerosRefused sdk index tokens := by
  induction tokens generalizing index params with
  | done =>
      refine iff_of_true ⟨List.forall_mem_nil _, ?_⟩ trivial
      intro pre word post option before hwords
      cases pre with
      | nil => cases hwords
      | cons first pre => cases hwords
  | overrun => cases hrun
  | token word rest ih =>
      rw [ZerosRefused]
      cases hoption : SetOption.ofWord word with
      | none =>
          have hnone : ∀ option, SetOption.ofWord word ≠ some option := by
            simp [hoption]
          rw [setOptions_unknown hoption] at hrun
          rw [refusesUnfit_cons (setOptions_unknown hoption)
            (fun option hsome => absurd hsome (hnone option)), ih hrun]
          exact and_iff_right fun option hsome => absurd hsome (hnone option)
      | some option =>
          have hsame : ∀ found, SetOption.ofWord word = some found → option = found :=
            fun found hfound => Option.some.inj (hoption.symm.trans hfound)
          cases hstore : option.store (sdk index) params word with
          | error fault =>
              rw [setOptions, hoption] at hrun
              dsimp only at hrun
              rw [hstore] at hrun
              cases hrun
          | ok result =>
              cases result with
              | refused status after =>
                  obtain ⟨hrefuses, hstatus, rfl⟩ := SetOption.store_refused hstore
                  rw [setOptions_refused hoption hstore] at hrun
                  obtain rfl := Except.ok.inj hrun
                  refine iff_of_true (refusesUnfit_refused hoption hstore hstatus rest)
                    ⟨fun hunfit => ?_, fun haccepts => ?_⟩
                  · exact (SetOption.refuses_unfit_iff (sdk index) hoption hunfit).mp hrefuses
                  · rw [hrefuses] at haccepts
                    cases haccepts
              | kept after =>
                  have haccepts := SetOption.store_kept hstore
                  have hkept : ∀ found, SetOption.ofWord word = some found →
                      found.refuses (sdk index) word = false :=
                    fun found hfound => hsame found hfound ▸ haccepts
                  rw [setOptions_kept hoption hstore] at hrun
                  rw [refusesUnfit_cons (setOptions_kept hoption hstore) hkept, ih hrun]
                  apply and_congr
                  · constructor
                    · intro hfit hunfit
                      exact absurd hunfit (hfit option hoption)
                    · intro hzero found hfound hunfit
                      obtain rfl := hsame found hfound
                      rw [(SetOption.refuses_unfit_iff (sdk index) hoption hunfit).mpr
                        (hzero hunfit)] at haccepts
                      cases haccepts
                  · exact ⟨fun hlater _ => hlater, fun hlater => hlater haccepts⟩

/-- What follows the command word. -/
def optionWords (command : CommandBuffer) : Tokens :=
  match strtok blank command.bytes with
  | .token _ rest => rest
  | other => other

theorem setParamValue_of_setparam {command : CommandBuffer}
    (hcommand : startsWith command.bytes (ascii "setparam") = true)
    (sdk : Nat → SetParamAnswers) (params : AndorParameters) :
    setParamValue sdk command params = setOptions sdk 0 (optionWords command) params := by
  rw [setParamValue, if_neg (not_not.mpr hcommand), optionWords]
  cases strtok blank command.bytes with
  | done => rfl
  | overrun => rfl
  | token word rest => rfl

/-- The handler refuses every unfit word exactly when, of those it comes to, all are
indices and the camera refuses the index 0. -/
theorem setParamValue_refusesUnfit_iff {sdk : Nat → SetParamAnswers} {command : CommandBuffer}
    {params : AndorParameters} {reply : Reply}
    (hcommand : startsWith command.bytes (ascii "setparam") = true)
    (hrun : setParamValue sdk command params = .ok reply) :
    RefusesUnfit sdk 0 (optionWords command) params reply ↔
      ZerosRefused sdk 0 (optionWords command) := by
  rw [setParamValue_of_setparam hcommand] at hrun
  exact setOptions_refusesUnfit_iff hrun

/-- A camera with two horizontal speeds that answers every question. -/
def answeringSdk : Nat → SetParamAnswers := fun _ => ⟨.success, 2, .success, .success⟩

def gainWords : CommandBuffer := .ofText (ascii "setparam preampgain=1") (by decide)

def wordModeCommand : CommandBuffer := .ofText (ascii "setparam acqmode=single") (by decide)

theorem gainCommand_refusesUnfit :
    RefusesUnfit answeringSdk 0 (optionWords gainWords) (AndorParameters.initial [])
        ⟨0, { AndorParameters.initial [] with preampgain := 1 }⟩ ↔
      ZerosRefused answeringSdk 0 (optionWords gainWords) :=
  setParamValue_refusesUnfit_iff (by decide +kernel) (by decide +kernel)

/-- A mode that is a word is taken for the mode 0, which is none. -/
theorem wordMode_is_accepted :
    setParamValue answeringSdk wordModeCommand (AndorParameters.initial []) =
        .ok ⟨0, { AndorParameters.initial [] with acquisitionMode := ⟨0⟩ }⟩ ∧
      ¬ ∀ (sdk : Nat → SetParamAnswers) (command : CommandBuffer) (params : AndorParameters)
        (reply : Reply), startsWith command.bytes (ascii "setparam") = true →
        setParamValue sdk command params = .ok reply →
        RefusesUnfit sdk 0 (optionWords command) params reply := by
  have haccepted : setParamValue answeringSdk wordModeCommand (AndorParameters.initial []) =
      .ok ⟨0, { AndorParameters.initial [] with acquisitionMode := ⟨0⟩ }⟩ := by
    decide +kernel
  refine ⟨haccepted, fun hrefuses => ?_⟩
  have hwords : ascii "acqmode=single" ∈ wordsOf (optionWords wordModeCommand) := by
    decide +kernel
  have hunfit : ¬ (1 ≤ (strtol (SetOption.acqmode.value (ascii "acqmode=single"))).value ∧
      (strtol (SetOption.acqmode.value (ascii "acqmode=single"))).value ≤ 5) := by
    decide +kernel
  exact (hrefuses _ _ _ _ (by decide +kernel) haccepted).status _ hwords .acqmode (by decide)
    hunfit rfl

end Andor2k
