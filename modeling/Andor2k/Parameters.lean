/-
AndorParameters: the acquisition parameters one daemon keeps for its whole life.
The structure is laid out as on x86-64, members in declaration order with the
padding that aligns the `int`s, so that a copy longer than its member has a meaning.
-/
import Andor2k.Memory

namespace Andor2k

open CText Ieee Memory

def andorMinTemp : Int := -120
def andorMaxTemp : Int := 10
def maxFitsFilenameSize : Nat := 128
def maxImageTypeChars : Nat := 16
def maxSocketBufferSize : Nat := 1024
def maxFitsFileSize : Nat := 256
def maxObjectNameChars : Nat := 32
def maxFilterNameChars : Nat := 16
def maxObserverName : Nat := 32
def maxPixelsInDim : Int32 := 2048

/-- `enum class ReadOutMode : int_fast8_t`; an object of the type is one byte, which
need not be one of the enumerators. -/
structure ReadOutMode where
  code : UInt8
deriving DecidableEq, Repr

namespace ReadOutMode

def fullVerticalBinning : ReadOutMode := ⟨0⟩
def multiTrack : ReadOutMode := ⟨1⟩
def randomTrack : ReadOutMode := ⟨2⟩
def singleTrack : ReadOutMode := ⟨3⟩
def image : ReadOutMode := ⟨4⟩

end ReadOutMode

/-- `enum class AcquisitionMode : int_fast8_t` -/
structure AcquisitionMode where
  code : UInt8
deriving DecidableEq, Repr

namespace AcquisitionMode

def singleScan : AcquisitionMode := ⟨1⟩
def accumulate : AcquisitionMode := ⟨2⟩
def kineticSeries : AcquisitionMode := ⟨3⟩
def fastKinetics : AcquisitionMode := ⟨4⟩
def runTillAbort : AcquisitionMode := ⟨5⟩

/-- `static_cast<AcquisitionMode>(value)` keeps the low byte. -/
def ofInt (value : Int32) : AcquisitionMode := ⟨value.toUInt32.toUInt8⟩

end AcquisitionMode

/-- `enum class ShutterMode : int_fast8_t` -/
structure ShutterMode where
  code : UInt8
deriving DecidableEq, Repr

namespace ShutterMode

def fullyAuto : ShutterMode := ⟨0⟩
def permanentlyOpen : ShutterMode := ⟨1⟩
def permanentlyClosed : ShutterMode := ⟨2⟩
def openForFVBSeries : ShutterMode := ⟨3⟩
def openForAnySeries : ShutterMode := ⟨4⟩

end ShutterMode

instance : Pod ReadOutMode where
  size := 1
  encode mode := [mode.code]
  decode memory := ⟨memory.headD 0⟩
  length_encode _ := rfl
  decode_encode _ _ := rfl

instance : Pod AcquisitionMode where
  size := 1
  encode mode := [mode.code]
  decode memory := ⟨memory.headD 0⟩
  length_encode _ := rfl
  decode_encode _ _ := rfl

instance : Pod ShutterMode where
  size := 1
  encode mode := [mode.code]
  decode memory := ⟨memory.headD 0⟩
  length_encode _ := rfl
  decode_encode _ _ := rfl

structure AndorParameters where
  cameraNum : Int32
  exposure : Binary32
  numImages : Int32
  initializationDir : CharArray 128
  saveDir : CharArray 128
  type : CharArray maxImageTypeChars
  imageFilename : CharArray maxFitsFilenameSize
  objectName : CharArray maxObjectNameChars
  filterName : CharArray maxFilterNameChars
  observerName : CharArray maxObserverName
  readOutMode : ReadOutMode
  singeTrackCenter : Int32
  singleTrackHeight : Int32
  imageHbin : Int32
  imageVbin : Int32
  imageHstart : Int32
  imageHend : Int32
  imageVstart : Int32
  imageVend : Int32
  acquisitionMode : AcquisitionMode
  numAccumulations : Int32
  accumulationCycleTime : Binary32
  kineticsCycleTime : Binary32
  hsspeed : Int32
  preampgain : Int32
  shutterMode : ShutterMode
  shutterClosingTime : Int32
  shutterOpeningTime : Int32
  coolerMode : Bool
  arHdrTries : Int32
deriving DecidableEq, Repr

/-- The members, for statements about what a command changes. -/
inductive Field where
  | cameraNum | exposure | numImages | initializationDir | saveDir | type
  | imageFilename | objectName | filterName | observerName | readOutMode
  | singeTrackCenter | singleTrackHeight | imageHbin | imageVbin | imageHstart
  | imageHend | imageVstart | imageVend | acquisitionMode | numAccumulations
  | accumulationCycleTime | kineticsCycleTime | hsspeed | preampgain | shutterMode
  | shutterClosingTime | shutterOpeningTime | coolerMode | arHdrTries
deriving DecidableEq, Repr

namespace AndorParameters

/-- The bytes of one member. -/
def fieldBytes (params : AndorParameters) : Field → List UInt8
  | .cameraNum => Pod.encode params.cameraNum
  | .exposure => Pod.encode params.exposure
  | .numImages => Pod.encode params.numImages
  | .initializationDir => Pod.encode params.initializationDir
  | .saveDir => Pod.encode params.saveDir
  | .type => Pod.encode params.type
  | .imageFilename => Pod.encode params.imageFilename
  | .objectName => Pod.encode params.objectName
  | .filterName => Pod.encode params.filterName
  | .observerName => Pod.encode params.observerName
  | .readOutMode => Pod.encode params.readOutMode
  | .singeTrackCenter => Pod.encode params.singeTrackCenter
  | .singleTrackHeight => Pod.encode params.singleTrackHeight
  | .imageHbin => Pod.encode params.imageHbin
  | .imageVbin => Pod.encode params.imageVbin
  | .imageHstart => Pod.encode params.imageHstart
  | .imageHend => Pod.encode params.imageHend
  | .imageVstart => Pod.encode params.imageVstart
  | .imageVend => Pod.encode params.imageVend
  | .acquisitionMode => Pod.encode params.acquisitionMode
  | .numAccumulations => Pod.encode params.numAccumulations
  | .accumulationCycleTime => Pod.encode params.accumulationCycleTime
  | .kineticsCycleTime => Pod.encode params.kineticsCycleTime
  | .hsspeed => Pod.encode params.hsspeed
  | .preampgain => Pod.encode params.preampgain
  | .shutterMode => Pod.encode params.shutterMode
  | .shutterClosingTime => Pod.encode params.shutterClosingTime
  | .shutterOpeningTime => Pod.encode params.shutterOpeningTime
  | .coolerMode => Pod.encode params.coolerMode
  | .arHdrTries => Pod.encode params.arHdrTries

def padding : List UInt8 := [0, 0, 0]

/-- What lies before `observer_name_`. -/
def bytesBeforeObserverName (params : AndorParameters) : List UInt8 :=
  params.fieldBytes .cameraNum ++ (params.fieldBytes .exposure ++
  (params.fieldBytes .numImages ++ (params.fieldBytes .initializationDir ++
  (params.fieldBytes .saveDir ++ (params.fieldBytes .type ++
  (params.fieldBytes .imageFilename ++ (params.fieldBytes .objectName ++
  params.fieldBytes .filterName)))))))

/-- What lies behind `observer_name_`. -/
def bytesAfterObserverName (params : AndorParameters) : List UInt8 :=
  params.fieldBytes .readOutMode ++ (padding ++
  (params.fieldBytes .singeTrackCenter ++ (params.fieldBytes .singleTrackHeight ++
  (params.fieldBytes .imageHbin ++ (params.fieldBytes .imageVbin ++
  (params.fieldBytes .imageHstart ++ (params.fieldBytes .imageHend ++
  (params.fieldBytes .imageVstart ++ (params.fieldBytes .imageVend ++
  (params.fieldBytes .acquisitionMode ++ (padding ++
  (params.fieldBytes .numAccumulations ++ (params.fieldBytes .accumulationCycleTime ++
  (params.fieldBytes .kineticsCycleTime ++ (params.fieldBytes .hsspeed ++
  (params.fieldBytes .preampgain ++ (params.fieldBytes .shutterMode ++ (padding ++
  (params.fieldBytes .shutterClosingTime ++ (params.fieldBytes .shutterOpeningTime ++
  (params.fieldBytes .coolerMode ++ (padding ++
  params.fieldBytes .arHdrTries))))))))))))))))))))))

def toBytes (params : AndorParameters) : List UInt8 :=
  params.bytesBeforeObserverName ++
    (params.fieldBytes .observerName ++ params.bytesAfterObserverName)

/-- The object a memory area holds, member after member. -/
def ofBytes (memory : List UInt8) : AndorParameters :=
  let (cameraNum, memory) := read Int32 memory
  let (exposure, memory) := read Binary32 memory
  let (numImages, memory) := read Int32 memory
  let (initializationDir, memory) := read (CharArray 128) memory
  let (saveDir, memory) := read (CharArray 128) memory
  let (type, memory) := read (CharArray maxImageTypeChars) memory
  let (imageFilename, memory) := read (CharArray maxFitsFilenameSize) memory
  let (objectName, memory) := read (CharArray maxObjectNameChars) memory
  let (filterName, memory) := read (CharArray maxFilterNameChars) memory
  let (observerName, memory) := read (CharArray maxObserverName) memory
  let (readOutMode, memory) := read ReadOutMode memory
  let (singeTrackCenter, memory) := read Int32 (memory.drop padding.length)
  let (singleTrackHeight, memory) := read Int32 memory
  let (imageHbin, memory) := read Int32 memory
  let (imageVbin, memory) := read Int32 memory
  let (imageHstart, memory) := read Int32 memory
  let (imageHend, memory) := read Int32 memory
  let (imageVstart, memory) := read Int32 memory
  let (imageVend, memory) := read Int32 memory
  let (acquisitionMode, memory) := read AcquisitionMode memory
  let (numAccumulations, memory) := read Int32 (memory.drop padding.length)
  let (accumulationCycleTime, memory) := read Binary32 memory
  let (kineticsCycleTime, memory) := read Binary32 memory
  let (hsspeed, memory) := read Int32 memory
  let (preampgain, memory) := read Int32 memory
  let (shutterMode, memory) := read ShutterMode memory
  let (shutterClosingTime, memory) := read Int32 (memory.drop padding.length)
  let (shutterOpeningTime, memory) := read Int32 memory
  let (coolerMode, memory) := read Bool memory
  let arHdrTries := Pod.decode (memory.drop padding.length)
  { cameraNum, exposure, numImages, initializationDir, saveDir, type, imageFilename,
    objectName, filterName, observerName, readOutMode, singeTrackCenter,
    singleTrackHeight, imageHbin, imageVbin, imageHstart, imageHend, imageVstart,
    imageVend, acquisitionMode, numAccumulations, accumulationCycleTime,
    kineticsCycleTime, hsspeed, preampgain, shutterMode, shutterClosingTime,
    shutterOpeningTime, coolerMode, arHdrTries }

theorem ofBytes_toBytes (params : AndorParameters) : ofBytes params.toBytes = params := by
  have hlast : Pod.decode (Pod.encode params.arHdrTries) = params.arHdrTries := by
    simpa using Pod.decode_encode params.arHdrTries []
  simp only [toBytes, bytesBeforeObserverName, bytesAfterObserverName, fieldBytes, ofBytes,
    List.append_assoc, read_encode_append, List.drop_left, hlast]

/-- The bytes of the members are all there is to the parameters. -/
theorem eq_of_fieldBytes_eq {params other : AndorParameters}
    (hbytes : params.fieldBytes = other.fieldBytes) : params = other := by
  have hwhole : params.toBytes = other.toBytes := by
    simp only [toBytes, bytesBeforeObserverName, bytesAfterObserverName, hbytes]
  rw [← ofBytes_toBytes params, hwhole, ofBytes_toBytes]

theorem length_bytesBeforeObserverName (params : AndorParameters) :
    params.bytesBeforeObserverName.length = 460 := by
  simp only [bytesBeforeObserverName, fieldBytes, List.length_append, Pod.length_encode]
  rfl

theorem length_bytesAfterObserverName (params : AndorParameters) :
    params.bytesAfterObserverName.length = 80 := by
  simp only [bytesAfterObserverName, fieldBytes, List.length_append, Pod.length_encode]
  rfl

/-- `strcpy(observer_name_, text)`: the bytes that do not fit land in the members
behind; past the object the copy writes what is not its own. -/
def strcpyObserverName (params : AndorParameters) (text : Text) :
    Checked AndorParameters :=
  let memory := params.toBytes
  let offset := params.bytesBeforeObserverName.length
  if offset + (text.length + 1) ≤ memory.length then
    .ok (ofBytes (overlay memory offset (text ++ [0])))
  else .error .outOfBounds

/-- A text that fits changes `observer_name_` only. -/
theorem strcpyObserverName_eq_of_fits (params : AndorParameters) {text : Text}
    (hfits : text.length < maxObserverName) :
    params.strcpyObserverName text =
      .ok { params with observerName := params.observerName.strcpy text hfits } := by
  have hwhole : params.toBytes.length = 572 := by
    rw [toBytes, List.length_append, List.length_append, fieldBytes, Pod.length_encode,
      length_bytesBeforeObserverName, length_bytesAfterObserverName]
    rfl
  have hbound : text.length < 32 := hfits
  have hroom : (text ++ [0]).length ≤ params.observerName.bytes.length := by
    rw [params.observerName.length_bytes, List.length_append]
    exact hfits
  have hoverlay : overlay params.toBytes params.bytesBeforeObserverName.length
      (text ++ [0]) =
      { params with observerName :=
        params.observerName.strcpy text hfits }.toBytes := by
    have hbehind : (params.toBytes.drop (params.bytesBeforeObserverName.length +
        (text ++ [0]).length)) =
        params.observerName.bytes.drop (text ++ [0]).length ++
          params.bytesAfterObserverName := by
      rw [toBytes, List.drop_append, List.drop_of_length_le (Nat.le_add_right _ _),
        Nat.add_sub_cancel_left, List.nil_append]
      change (params.observerName.bytes ++ params.bytesAfterObserverName).drop _ = _
      rw [List.drop_append, Nat.sub_eq_zero_of_le hroom, List.drop_zero]
    rw [overlay, hbehind, toBytes, List.take_left]
    change _ = params.bytesBeforeObserverName ++
      (overlay params.observerName.bytes 0 (text ++ [0]) ++
        params.bytesAfterObserverName)
    simp only [overlay, List.take_zero, List.nil_append, Nat.zero_add, List.append_assoc]
  rw [strcpyObserverName]
  simp only [hoverlay, ofBytes_toBytes]
  rw [if_pos]
  rw [hwhole, length_bytesBeforeObserverName]
  omega

/-- A `float` initialised by a decimal constant of the source. -/
def floatConstant (literal : String) : Binary32 :=
  (strtod (ascii literal)).value.toBinary32

def defaultSaveDir : Text := ascii "/home/andor2k/fits"
def defaultInitializationDir : Text := ascii "/usr/local/etc/andor"

/-- `AndorParameters params;`: members without an initialiser keep what the memory
held. -/
def construct (memory : List UInt8) : AndorParameters :=
  { ofBytes memory with
    cameraNum := 0
    numImages := 1
    initializationDir := .ofText defaultInitializationDir (by decide)
    saveDir := .ofText defaultSaveDir (by decide)
    observerName := .ofText (ascii "andor2k") (by decide)
    readOutMode := .image
    singeTrackCenter := 1
    singleTrackHeight := 1
    imageHbin := 1
    imageVbin := 1
    imageHstart := 1
    imageHend := maxPixelsInDim
    imageVstart := 1
    imageVend := maxPixelsInDim
    acquisitionMode := .runTillAbort
    numAccumulations := 1
    accumulationCycleTime := floatConstant "0.2"
    kineticsCycleTime := floatConstant "0.5"
    hsspeed := 1
    preampgain := 0
    shutterMode := .fullyAuto
    shutterClosingTime := 50
    shutterOpeningTime := 50
    coolerMode := false
    arHdrTries := 0 }

def setDefaults (params : AndorParameters) : AndorParameters :=
  { params with
    cameraNum := 0
    exposure := floatConstant "0.1"
    numImages := 1
    type := .zero maxImageTypeChars
    initializationDir := params.initializationDir.strcpy defaultInitializationDir (by decide)
    imageFilename := .zero maxFitsFilenameSize
    saveDir := params.saveDir.strcpy defaultSaveDir (by decide)
    objectName := params.objectName.strcpy (ascii " ") (by decide)
    readOutMode := .image
    singeTrackCenter := 1
    singleTrackHeight := 1
    imageHbin := 1
    imageVbin := 1
    imageHstart := 1
    imageVstart := 1
    imageHend := maxPixelsInDim
    imageVend := maxPixelsInDim
    acquisitionMode := .singleScan
    numAccumulations := 1
    accumulationCycleTime := floatConstant "0.2"
    kineticsCycleTime := floatConstant "0.5"
    shutterMode := .fullyAuto
    shutterClosingTime := 50
    shutterOpeningTime := 50
    coolerMode := false
    arHdrTries := 0 }

/-- The save directory as `memset` and `strcpy` leave it. -/
def fixedSaveDir : CharArray 128 := .ofText defaultSaveDir (by decide)

/-- The parameters with which the daemon starts to serve commands. -/
def initial (memory : List UInt8) : AndorParameters := (construct memory).setDefaults

theorem readOutMode_initial (memory : List UInt8) :
    (initial memory).readOutMode = .image := rfl

theorem saveDir_initial (memory : List UInt8) :
    (initial memory).saveDir = fixedSaveDir := by
  have hbytes : (fixedSaveDir.strcpy defaultSaveDir (by decide)) = fixedSaveDir := by decide
  exact hbytes

end AndorParameters

end Andor2k
