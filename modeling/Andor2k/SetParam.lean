/-
set_param_value: the parser of the `setparam` command, whose words are `name=value`.
-/
import Andor2k.ImageCommand
import Andor2k.Sdk

namespace Andor2k

open CText Ieee

/-- What the SDK answers to the questions the handler may ask about one word. -/
structure SetParamAnswers where
  getNumberHSSpeeds : DrvCode
  numSpeeds : Int32
  getHSSpeed : DrvCode
  getPreAmpGain : DrvCode
deriving DecidableEq, Repr

inductive SetOption where
  | acqmode | kineticcycletime | observername | hsspeed | preampgain
deriving DecidableEq, Repr

namespace SetOption

def flag : SetOption → Text
  | acqmode => ascii "acqmode="
  | kineticcycletime => ascii "kineticcycletime="
  | observername => ascii "observername="
  | hsspeed => ascii "hsspeed="
  | preampgain => ascii "preampgain="

def all : List SetOption := [acqmode, kineticcycletime, observername, hsspeed, preampgain]

def ofWord (word : Text) : Option SetOption :=
  all.find? fun option => startsWith word option.flag

def fields : SetOption → List Field
  | acqmode => [.acquisitionMode]
  | kineticcycletime => [.kineticsCycleTime]
  | observername => [.observerName]
  | hsspeed => [.hsspeed]
  | preampgain => [.preampgain]

/-- The value part of a word. -/
def value (option : SetOption) (token : Text) : Text := token.drop option.flag.length

end SetOption

/-- The end pointer is compared with the start of the word, not of the value. -/
def setAcqmode (params : AndorParameters) (token : Text) : OptionResult :=
  let parsed := strtol (SetOption.acqmode.value token)
  if parsed.rest = token then .refused 10 params
  else .kept { params with acquisitionMode := .ofInt (Int32.ofInt parsed.value) }

def setKineticcycletime (params : AndorParameters) (token : Text) : OptionResult :=
  let parsed := strtod (SetOption.kineticcycletime.value token)
  if parsed.rest = token then .refused 10 params
  else .kept { params with kineticsCycleTime := parsed.value.toBinary32 }

/-- The copy is not bounded by the member; only its last byte is cleared. -/
def setObservername (params : AndorParameters) (token : Text) : Checked OptionResult :=
  match params.strcpyObserverName (SetOption.observername.value token) with
  | .error fault => .error fault
  | .ok params =>
      .ok (.kept { params with
        observerName := ⟨params.observerName.bytes.set 31 0, by
          rw [List.length_set, params.observerName.length_bytes]⟩ })

def setHsspeed (sdk : SetParamAnswers) (params : AndorParameters) (token : Text) :
    OptionResult :=
  let parsed := strtod (SetOption.hsspeed.value token)
  let ival := parsed.value.toInt32
  if parsed.rest = token then .refused 10 params
  else if sdk.getNumberHSSpeeds ≠ .success then .refused 2 params
  else if (ival < 0 ∨ sdk.numSpeeds ≤ ival) ∨ sdk.getHSSpeed ≠ .success then
    .refused 2 params
  else .kept { params with hsspeed := ival }

def setPreampgain (sdk : SetParamAnswers) (params : AndorParameters) (token : Text) :
    OptionResult :=
  let parsed := strtod (SetOption.preampgain.value token)
  let ival := parsed.value.toInt32
  if parsed.rest = token ∨ (ival < 0 ∨ 3 ≤ ival) then .refused 11 params
  else if sdk.getPreAmpGain ≠ .success then .refused 1 params
  else .kept { params with preampgain := ival }

/-- What the loop does with one recognised word. -/
def SetOption.store (option : SetOption) (sdk : SetParamAnswers)
    (params : AndorParameters) (token : Text) : Checked OptionResult :=
  match option with
  | acqmode => .ok (setAcqmode params token)
  | kineticcycletime => .ok (setKineticcycletime params token)
  | observername => setObservername params token
  | hsspeed => .ok (setHsspeed sdk params token)
  | preampgain => .ok (setPreampgain sdk params token)

/-- The loop over the words; `index` counts them for the SDK's answers. -/
def setOptions (sdk : Nat → SetParamAnswers) :
    Nat → Tokens → AndorParameters → Checked Reply
  | _, .done, params => .ok ⟨0, params⟩
  | _, .overrun, _ => .error .outOfBounds
  | index, .token word rest, params =>
      match SetOption.ofWord word with
      | none => setOptions sdk (index + 1) rest params
      | some option =>
          match option.store (sdk index) params word with
          | .error fault => .error fault
          | .ok (.refused status params) => .ok ⟨status, params⟩
          | .ok (.kept params) => setOptions sdk (index + 1) rest params

def setParamValue (sdk : Nat → SetParamAnswers) (command : CommandBuffer)
    (params : AndorParameters) : Checked Reply :=
  if ¬ startsWith command.bytes (ascii "setparam") then .ok ⟨1, params⟩
  else
    match strtok blank command.bytes with
    | .overrun => .error .outOfBounds
    | .done => .ok ⟨0, params⟩
    | .token _ rest => setOptions sdk 0 rest params

end Andor2k
