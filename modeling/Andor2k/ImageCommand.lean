/-
resolve_image_parameters: the parser of the `image` command.  It stores an option as
soon as it has read its value, refuses in the middle of the words, and tests the whole
state at the end.
-/
import Andor2k.Parameters

namespace Andor2k

open CText Ieee

/-- The 1024 bytes a command handler works on. -/
abbrev CommandBuffer := CharArray maxSocketBufferSize

def blank : UInt8 := 32

/-- What a command handler returns, with the parameters it leaves behind. -/
structure Reply where
  status : Int
  params : AndorParameters
deriving DecidableEq, Repr

/-- One option of a command: the loop goes on, or the handler returns at once. -/
inductive OptionResult where
  | kept (params : AndorParameters)
  | refused (status : Int) (params : AndorParameters)
deriving DecidableEq, Repr

def OptionResult.params : OptionResult → AndorParameters
  | kept params => params
  | refused _ params => params

inductive ImageOption where
  | nimages | bin | hbin | vbin | hstart | hend | vstart | vend | filename | type
  | object | filter | exposure | arTries
deriving DecidableEq, Repr

namespace ImageOption

def flag : ImageOption → Text
  | nimages => ascii "--nimages"
  | bin => ascii "--bin"
  | hbin => ascii "--hbin"
  | vbin => ascii "--vbin"
  | hstart => ascii "--hstart"
  | hend => ascii "--hend"
  | vstart => ascii "--vstart"
  | vend => ascii "--vend"
  | filename => ascii "--filename"
  | type => ascii "--type"
  | object => ascii "--object"
  | filter => ascii "--filter"
  | exposure => ascii "--exposure"
  | arTries => ascii "--ar-tries"

/-- The options in the order in which the source tests for them. -/
def all : List ImageOption :=
  [nimages, bin, hbin, vbin, hstart, hend, vstart, vend, filename, type, object, filter,
    exposure, arTries]

/-- A word is an option as soon as it starts with its flag. -/
def ofWord (word : Text) : Option ImageOption :=
  all.find? fun option => startsWith word option.flag

/-- The members an option is about. -/
def fields : ImageOption → List Field
  | nimages => [.numImages, .acquisitionMode]
  | bin => [.imageVbin, .imageHbin]
  | hbin => [.imageHbin]
  | vbin => [.imageVbin]
  | hstart => [.imageHstart]
  | hend => [.imageHend]
  | vstart => [.imageVstart]
  | vend => [.imageVend]
  | filename => [.imageFilename]
  | type => [.type]
  | object => [.objectName]
  | filter => [.filterName]
  | exposure => [.exposure]
  | arTries => [.arHdrTries]

end ImageOption

/-- `params.member = strtol(token, &end, 10)`: the `long` is narrowed and stored
before the end pointer is looked at. -/
def storeInt (store : AndorParameters → Int32 → AndorParameters)
    (params : AndorParameters) (token : Text) : OptionResult :=
  let parsed := strtol token
  let params := store params (Int32.ofInt parsed.value)
  if parsed.rest = token then .refused 1 params else .kept params

/-- The re-check of the read-out mode some options end with. -/
def checkReadOutMode (params : AndorParameters) : OptionResult :=
  if params.readOutMode ≠ .image then .refused 4 params else .kept params

/-- A string option: the length test comes first, the member is cleared and copied. -/
def storeText {size : Nat} (store : AndorParameters → CharArray size → AndorParameters)
    (params : AndorParameters) (token : Text) : OptionResult :=
  if hfits : token.length < size then
    checkReadOutMode (store params (.ofText token hfits))
  else .refused 1 params

def storeNimages (params : AndorParameters) (token : Text) : OptionResult :=
  let parsed := strtol token
  let params := { params with numImages := Int32.ofInt parsed.value }
  if parsed.rest = token ∨ params.numImages < 1 then .refused 1 params
  else if params.numImages = 1 then
    .kept { params with acquisitionMode := .singleScan }
  else if params.numImages > 1 ∧ params.acquisitionMode = .singleScan then
    .kept { params with acquisitionMode := .runTillAbort }
  else .kept params

/-- The last geometry option is also the only one that re-checks the read-out mode. -/
def storeVend (params : AndorParameters) (token : Text) : OptionResult :=
  match storeInt (fun params value => { params with imageVend := value }) params token with
  | .refused status params => .refused status params
  | .kept params => checkReadOutMode params

def storeExposure (params : AndorParameters) (token : Text) : OptionResult :=
  let parsed := strtod token
  let params := { params with exposure := parsed.value.toBinary32 }
  if parsed.rest = token ∨ ¬ params.exposure.isNonNegative then .refused 1 params
  else .kept params

namespace ImageOption

/-- What the loop does with the value of an option. -/
def store : ImageOption → AndorParameters → Text → OptionResult
  | nimages => storeNimages
  | bin => storeInt fun params value => { params with imageVbin := value, imageHbin := value }
  | hbin => storeInt fun params value => { params with imageHbin := value }
  | vbin => storeInt fun params value => { params with imageVbin := value }
  | hstart => storeInt fun params value => { params with imageHstart := value }
  | hend => storeInt fun params value => { params with imageHend := value }
  | vstart => storeInt fun params value => { params with imageVstart := value }
  | vend => storeVend
  | filename => storeText fun params value => { params with imageFilename := value }
  | type => storeText fun params value => { params with type := value }
  | object => storeText fun params value => { params with objectName := value }
  | filter => storeText fun params value => { params with filterName := value }
  | exposure => storeExposure
  | arTries => storeInt fun params value => { params with arHdrTries := value }

end ImageOption

/-- The tests behind the loop, each of which overwrites the status. -/
def finalStatus (params : AndorParameters) : Int :=
  let status : Int := 0
  let status := if params.imageVbin = 0 ∨ params.imageHbin = 0 then 2 else status
  let status :=
    if (params.imageHstart < 1 ∨ maxPixelsInDim ≤ params.imageHstart) ∨
        (params.imageVstart < 1 ∨ maxPixelsInDim ≤ params.imageVstart) then 2
    else status
  let status :=
    if (params.imageHend ≤ 1 ∨ maxPixelsInDim < params.imageHend) ∨
        (params.imageVend ≤ 1 ∨ maxPixelsInDim < params.imageVend) then 2
    else status
  if params.exposure.isNegative then 2 else status

/-- The end of the function: the tests, the fixed save directory, and a last look at
the read-out mode. -/
def finishImage (params : AndorParameters) : Reply :=
  let status := finalStatus params
  let params := { params with saveDir := AndorParameters.fixedSaveDir }
  if params.readOutMode ≠ .image then ⟨4, params⟩ else ⟨status, params⟩

@[simp] theorem params_finishImage (params : AndorParameters) :
    (finishImage params).params =
      { params with saveDir := AndorParameters.fixedSaveDir } := by
  simp only [finishImage]
  split <;> rfl

/-- The loop over the words behind the command word. -/
def resolveOptions : Tokens → AndorParameters → Checked Reply
  | .done, params => .ok (finishImage params)
  | .overrun, _ => .error .outOfBounds
  | .token word rest, params =>
      match ImageOption.ofWord word with
      | none => resolveOptions rest params
      | some option =>
          match rest with
          | .done => .ok ⟨1, params⟩
          | .overrun => .error .outOfBounds
          | .token value rest =>
              match option.store params value with
              | .refused status params => .ok ⟨status, params⟩
              | .kept params => resolveOptions rest params

def resolveImageParameters (command : CommandBuffer) (params : AndorParameters) :
    Checked Reply :=
  if ¬ startsWith command.bytes (ascii "image") then .ok ⟨1, params⟩
  else if params.readOutMode ≠ .image then .ok ⟨4, params⟩
  else
    match strtok blank command.bytes with
    | .overrun => .error .outOfBounds
    | .done => .ok (finishImage params)
    | .token _ rest => resolveOptions rest params

end Andor2k
