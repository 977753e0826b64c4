/-
What setup_acquisition sets on the camera before it writes the header table: read mode and
image, acquisition mode with its timings, shift speeds, pre-amp gain, shutter, trigger mode.
-/
import Andor2k.CallChains
import Andor2k.HeaderMerge
import Andor2k.SetupAcquisition

namespace Andor2k

open CText Ieee CallChain

/-- The calls of the SDK that set something, with their arguments. -/
inductive Setting where
  | readMode (mode : Int32)
  | singleTrack (center height : Int32)
  | image (hbin vbin hstart hend vstart vend : Int32)
  | acquisitionMode (mode : Int32)
  | exposureTime (time : Binary32)
  | numberAccumulations (number : Int32)
  | accumulationCycleTime (time : Binary32)
  | numberKinetics (number : Int32)
  | kineticCycleTime (time : Binary32)
  | vsSpeed (index : Int32)
  | hsSpeed (typ index : Int32)
  | preAmpGain (index : Int32)
  | shutter (typ mode closingtime openingtime : Int32)
  | triggerMode (mode : Int32)
deriving DecidableEq

abbrev SettingCall := Setting × DrvCode

/-- What the SDK answers while the camera is set up; the statuses in `others` are those of the
functions below `setup_acquisition` and computed here. -/
structure SdkAnswers where
  setReadMode : DrvCode
  setSingleTrack : DrvCode
  setImage : DrvCode
  setAcquisitionMode : DrvCode
  setExposureTime : DrvCode
  setNumberAccumulations : DrvCode
  setAccumulationCycleTime : DrvCode
  setNumberKinetics : DrvCode
  setKineticCycleTime : DrvCode
  getFastestRecommendedVSSpeed : DrvCode
  vsIndex : Int32
  setVSSpeed : DrvCode
  setHSSpeed : DrvCode
  getNumberPreAmpGains : DrvCode
  noGains : Int32
  setPreAmpGain : DrvCode
  getPreAmpGain : DrvCode
  setTriggerMode : DrvCode
  others : SetupAnswers

/-- What a function returns, with the settings it has tried to make. -/
structure SettingsMade where
  status : Int
  calls : List SettingCall

/-- `static_cast<int>` of an enumerator. -/
def modeInt (code : UInt8) : Int32 := code.toInt8.toInt32

/-- `std::numeric_limits<unsigned int>::max()` -/
def notApplicable : DrvCode := .undocumented (2 ^ 32 - 1)

section Functions

variable (params : AndorParameters) (sdk : SdkAnswers)

/-- The settings of a read-out mode, up to one that fails. -/
def readOutCalls : DrvCode × List SettingCall :=
  let irom := modeInt params.readOutMode.code
  if params.readOutMode = .fullVerticalBinning then
    attempt .success [(.readMode irom, sdk.setReadMode)]
  else if params.readOutMode = .singleTrack then
    attempt .success
      [(.readMode irom, sdk.setReadMode),
        (.singleTrack params.singeTrackCenter params.singleTrackHeight, sdk.setSingleTrack)]
  else if params.readOutMode = .multiTrack then (notApplicable, [])
  else if params.readOutMode = .randomTrack then (notApplicable, [])
  else if params.readOutMode = .image then
    attempt .success
      [(.readMode irom, sdk.setReadMode),
        (.image params.imageHbin params.imageVbin params.imageHstart params.imageHend
          params.imageVstart params.imageVend, sdk.setImage)]
  else (notApplicable, [])

def setupReadOutMode : SettingsMade :=
  let (status, calls) := readOutCalls params sdk
  let retcode : Int :=
    match status with
    | .success => 0
    | .notInitialized => 1
    | .acquiring => 2
    | .p1invalid => 3
    | .p2invalid => 4
    | .p3invalid | .p4invalid | .p5invalid | .p6invalid => 6
    | _ => 10
  ⟨retcode, calls⟩

/-- The settings of an acquisition mode, up to one that fails. -/
def acquisitionCalls : DrvCode × List SettingCall :=
  let imode := modeInt params.acquisitionMode.code
  let mode := (Setting.acquisitionMode imode, sdk.setAcquisitionMode)
  let exposure := (Setting.exposureTime params.exposure, sdk.setExposureTime)
  let accumulations :=
    (Setting.numberAccumulations params.numAccumulations, sdk.setNumberAccumulations)
  let accumulationCycle :=
    (Setting.accumulationCycleTime params.accumulationCycleTime, sdk.setAccumulationCycleTime)
  let kinetics := (Setting.numberKinetics params.numImages, sdk.setNumberKinetics)
  let kineticCycle :=
    (Setting.kineticCycleTime params.kineticsCycleTime, sdk.setKineticCycleTime)
  if params.acquisitionMode = .singleScan then attempt .success [mode, exposure]
  else if params.acquisitionMode = .accumulate then
    attempt .success [mode, exposure, accumulations, accumulationCycle]
  else if params.acquisitionMode = .kineticSeries then
    attempt .success [mode, exposure, accumulations, accumulationCycle, kinetics, kineticCycle]
  else if params.acquisitionMode = .runTillAbort then
    attempt .success [mode, exposure, kineticCycle]
  else (notApplicable, [])

def setupAcquisitionMode : SettingsMade :=
  let (status, calls) := acquisitionCalls params sdk
  let retcode : Int :=
    match status with
    | .success => 0
    | .notInitialized => 1
    | .acquiring => 2
    | .p1invalid => 3
    | _ => 5
  ⟨retcode, calls⟩

/-- The status of GetHSSpeed is not looked at. -/
def setFastestRecomendedVhSpeeds : SettingsMade :=
  let vertical := (Setting.vsSpeed sdk.vsIndex, sdk.setVSSpeed)
  let horizontal := (Setting.hsSpeed 0 params.hsspeed, sdk.setHSSpeed)
  if sdk.getFastestRecommendedVSSpeed ≠ .success then ⟨1, []⟩
  else if sdk.setVSSpeed ≠ .success then ⟨1, [vertical]⟩
  else ⟨if sdk.setHSSpeed = .success then 0 else 1, [vertical, horizontal]⟩

def Camera.setPreampgain : SettingsMade :=
  let gain := (Setting.preAmpGain params.preampgain, sdk.setPreAmpGain)
  if sdk.getNumberPreAmpGains ≠ .success then ⟨1, []⟩
  else if params.preampgain < 0 ∨ sdk.noGains ≤ params.preampgain then ⟨1, []⟩
  else if sdk.setPreAmpGain ≠ .success then ⟨1, [gain]⟩
  else if sdk.getPreAmpGain ≠ .success then ⟨1, [gain]⟩
  else ⟨0, [gain]⟩

/-- A dark or bias frame is taken with the shutter closed. -/
def shutterMode : ShutterMode :=
  if startsWith params.type.bytes (ascii "dark") ∨ startsWith params.type.bytes (ascii "bias") then
    .permanentlyClosed
  else params.shutterMode

def shutterSetting : Setting :=
  .shutter 1 (modeInt (shutterMode params).code) params.shutterClosingTime
    params.shutterOpeningTime

/-- What the rest of `setup_acquisition` sees of the functions above. -/
def SdkAnswers.answers : SetupAnswers :=
  { sdk.others with
    setupReadOutMode := (setupReadOutMode params sdk).status
    setupAcquisitionMode := (setupAcquisitionMode params sdk).status
    setFastestRecomendedVhSpeeds := (setFastestRecomendedVhSpeeds params sdk).status }

/-- The settings `setup_acquisition` makes before it returns. -/
def setupCalls : List SettingCall :=
  if params.readOutMode ≠ .image then []
  else
    let readOut := setupReadOutMode params sdk
    if readOut.status ≠ 0 then readOut.calls
    else
      let acquisition := setupAcquisitionMode params sdk
      if acquisition.status ≠ 0 then readOut.calls ++ acquisition.calls
      else
        let speeds := setFastestRecomendedVhSpeeds params sdk
        if speeds.status ≠ 0 then readOut.calls ++ acquisition.calls ++ speeds.calls
        else
          -- the status of set_preampgain is not looked at
          let gain := Camera.setPreampgain params sdk
          let calls := readOut.calls ++ acquisition.calls ++ speeds.calls ++ gain.calls ++
            [(shutterSetting params, sdk.others.setShutter)]
          match refusedSetup params (sdk.answers params) with
          | some _ => calls
          | none =>
              match imageSize params with
              | .ok (some _) => calls ++ [(.triggerMode 0, sdk.setTriggerMode)]
              | _ => calls

end Functions

/-- The settings of an acquisition mode. -/
def acquisitionSettings (params : AndorParameters) : List Setting :=
  let mode := Setting.acquisitionMode (modeInt params.acquisitionMode.code)
  let exposure := Setting.exposureTime params.exposure
  let accumulation := [Setting.numberAccumulations params.numAccumulations,
    .accumulationCycleTime params.accumulationCycleTime]
  let kineticCycle := Setting.kineticCycleTime params.kineticsCycleTime
  if params.acquisitionMode = .singleScan then [mode, exposure]
  else if params.acquisitionMode = .accumulate then [mode, exposure] ++ accumulation
  else if params.acquisitionMode = .kineticSeries then
    [mode, exposure] ++ accumulation ++ [.numberKinetics params.numImages, kineticCycle]
  else if params.acquisitionMode = .runTillAbort then [mode, exposure, kineticCycle]
  else []

/-- Read mode and image, acquisition mode and timings, shift speeds, gain and shutter. -/
def settingsAsked (params : AndorParameters) (sdk : SdkAnswers) : List Setting :=
  [.readMode (modeInt params.readOutMode.code),
    .image params.imageHbin params.imageVbin params.imageHstart params.imageHend
      params.imageVstart params.imageVend] ++
  acquisitionSettings params ++
  [.vsSpeed sdk.vsIndex, .hsSpeed 0 params.hsspeed, .preAmpGain params.preampgain,
    shutterSetting params]

/-- What the camera is set to, as far as the header table tells it. -/
structure CameraConfig where
  hbin : Int32
  vbin : Int32
  vsSpeed : Int32
  hsSpeed : Int32
  preAmpGain : Int32
deriving DecidableEq

def CameraConfig.apply (config : CameraConfig) : Setting → CameraConfig
  | .image hbin vbin _ _ _ _ => { config with hbin, vbin }
  | .vsSpeed index => { config with vsSpeed := index }
  | .hsSpeed _ index => { config with hsSpeed := index }
  | .preAmpGain index => { config with preAmpGain := index }
  | _ => config

/-- What the indices stand for. -/
structure CameraTables where
  vsSpeed : Int32 → Binary32
  hsSpeed : Int32 → Binary32
  preAmpGain : Int32 → Binary32

/-- The SDK hands out the recommended speed, and the factor of a gain, which is no negative
number. -/
structure Documented (camera : CameraTables) (params : AndorParameters) (sdk : SdkAnswers) :
    Prop where
  vsSpeed : sdk.getFastestRecommendedVSSpeed = .success →
    sdk.others.vsspeed = camera.vsSpeed sdk.vsIndex
  preAmpGain : sdk.others.getPreAmpGain = .success →
    sdk.others.factor = camera.preAmpGain params.preampgain
  nonNegative : ∀ index, (camera.preAmpGain index).isNonNegative = true

/-- The value that is found under a keyword. -/
def FitsHeaders.valueOf (headers : FitsHeaders) (key : Text) : Option HeaderValue :=
  (KeyedTable.lookup headerScheme key headers.mvec).map FitsHeader.value

/-- The headers tell what the camera is set to. -/
structure Describes (camera : CameraTables) (config : CameraConfig) (headers : FitsHeaders) :
    Prop where
  gain : headers.valueOf (ascii "GAIN") = some (.fval (camera.preAmpGain config.preAmpGain))
  hsspeed : headers.valueOf (ascii "HSSPEED") = some (.fval (camera.hsSpeed config.hsSpeed))
  vsspeed : headers.valueOf (ascii "VSSPEED") = some (.fval (camera.vsSpeed config.vsSpeed))
  hbin : headers.valueOf (ascii "HBIN") = some (.ival config.hbin)
  vbin : headers.valueOf (ascii "VBIN") = some (.ival config.vbin)

/-- Every setting among these that is asked for has been made and accepted, and the headers
describe the camera. -/
structure SetUpAsAsked (among : Setting → Prop) (camera : CameraTables)
    (params : AndorParameters) (sdk : SdkAnswers) (before : CameraConfig) (headers : FitsHeaders) :
    Prop where
  made : ∀ setting ∈ settingsAsked params sdk, setting ∈ (setupCalls params sdk).map Prod.fst
  accepted : ∀ call ∈ setupCalls params sdk, among call.1 → call.2 = .success
  described : Describes camera
    (inForce DrvCode.success CameraConfig.apply before (setupCalls params sdk)) headers

section Zero

variable {params : AndorParameters} {sdk : SdkAnswers}

theorem setupReadOutMode_zero (hmode : params.readOutMode = .image)
    (hzero : (setupReadOutMode params sdk).status = 0) :
    (∀ call ∈ (setupReadOutMode params sdk).calls, call.2 = .success) ∧
      (setupReadOutMode params sdk).calls.map Prod.fst =
        [.readMode (modeInt params.readOutMode.code),
          .image params.imageHbin params.imageVbin params.imageHstart params.imageHend
            params.imageVstart params.imageVend] := by
  have hsuccess : (readOutCalls params sdk).1 = .success := by
    unfold setupReadOutMode at hzero
    dsimp only at hzero
    split at hzero <;> first | assumption | exact absurd hzero (by decide)
  change (∀ call ∈ (readOutCalls params sdk).2, call.2 = .success) ∧
    (readOutCalls params sdk).2.map Prod.fst = _
  unfold readOutCalls at hsuccess ⊢
  simp only [hmode, show ReadOutMode.image ≠ .fullVerticalBinning by decide,
    show ReadOutMode.image ≠ .singleTrack by decide, show ReadOutMode.image ≠ .multiTrack by decide,
    show ReadOutMode.image ≠ .randomTrack by decide, if_false, if_true] at hsuccess ⊢
  obtain ⟨hmade, haccepted⟩ := attempt_eq_of_success _ hsuccess
  rw [hmade]
  exact ⟨haccepted, rfl⟩

/-- An acquisition mode that is set without an error is a chain of its settings. -/
theorem acquisitionCalls_eq_attempt (hsuccess : (acquisitionCalls params sdk).1 = .success) :
    ∃ calls, acquisitionCalls params sdk = attempt .success calls ∧
      calls.map Prod.fst = acquisitionSettings params := by
  unfold acquisitionCalls at hsuccess ⊢
  unfold acquisitionSettings
  dsimp only at hsuccess ⊢
  split_ifs at hsuccess ⊢
  · exact ⟨_, rfl, rfl⟩
  · exact ⟨_, rfl, rfl⟩
  · exact ⟨_, rfl, rfl⟩
  · exact ⟨_, rfl, rfl⟩
  · cases hsuccess

theorem setupAcquisitionMode_zero (hzero : (setupAcquisitionMode params sdk).status = 0) :
    (∀ call ∈ (setupAcquisitionMode params sdk).calls, call.2 = .success) ∧
      (setupAcquisitionMode params sdk).calls.map Prod.fst = acquisitionSettings params := by
  have hsuccess : (acquisitionCalls params sdk).1 = .success := by
    unfold setupAcquisitionMode at hzero
    dsimp only at hzero
    split at hzero <;> first | assumption | exact absurd hzero (by decide)
  change (∀ call ∈ (acquisitionCalls params sdk).2, call.2 = .success) ∧
    (acquisitionCalls params sdk).2.map Prod.fst = _
  obtain ⟨calls, hattempt, hsettings⟩ := acquisitionCalls_eq_attempt hsuccess
  rw [hattempt] at hsuccess ⊢
  obtain ⟨hmade, haccepted⟩ := attempt_eq_of_success _ hsuccess
  rw [hmade]
  exact ⟨haccepted, hsettings⟩

theorem setFastestRecomendedVhSpeeds_zero
    (hzero : (setFastestRecomendedVhSpeeds params sdk).status = 0) :
    sdk.getFastestRecommendedVSSpeed = .success ∧
      (setFastestRecomendedVhSpeeds params sdk).calls =
        [(.vsSpeed sdk.vsIndex, .success), (.hsSpeed 0 params.hsspeed, .success)] := by
  unfold setFastestRecomendedVhSpeeds at hzero ⊢
  dsimp only at hzero ⊢
  split at hzero
  · exact absurd hzero Int.one_ne_zero
  · rename_i hfastest
    split at hzero
    · exact absurd hzero Int.one_ne_zero
    · rename_i hvertical
      by_cases hhorizontal : sdk.setHSSpeed = .success
      · rw [if_neg hfastest, if_neg hvertical]
        refine ⟨not_not.mp hfastest, ?_⟩
        simp only [not_not.mp hvertical, hhorizontal]
      · simp only [if_neg hhorizontal] at hzero
        exact absurd hzero Int.one_ne_zero

/-- The gain is set and accepted. -/
def GainSet (params : AndorParameters) (sdk : SdkAnswers) : Prop :=
  sdk.getNumberPreAmpGains = .success ∧
    (0 ≤ params.preampgain ∧ params.preampgain < sdk.noGains) ∧ sdk.setPreAmpGain = .success

/-- The gain is set and accepted, or it is not set, or it is refused. -/
theorem setPreampgain_calls :
    (GainSet params sdk ∧
      (Camera.setPreampgain params sdk).calls = [(.preAmpGain params.preampgain, .success)]) ∨
    (¬ GainSet params sdk ∧ ∀ call ∈ (Camera.setPreampgain params sdk).calls,
      call = (.preAmpGain params.preampgain, sdk.setPreAmpGain) ∧ call.2 ≠ .success) := by
  unfold Camera.setPreampgain
  dsimp only
  by_cases hcount : sdk.getNumberPreAmpGains = .success
  · rw [if_neg (not_not.mpr hcount)]
    by_cases hindex : params.preampgain < 0 ∨ sdk.noGains ≤ params.preampgain
    · right
      rw [if_pos hindex]
      refine ⟨?_, nofun⟩
      rintro ⟨-, ⟨hlow, hhigh⟩, -⟩
      exact hindex.elim (Int32.not_lt.mpr hlow) (Int32.not_le.mpr hhigh)
    · rw [if_neg hindex]
      obtain ⟨hlow, hhigh⟩ := not_or.mp hindex
      by_cases hset : sdk.setPreAmpGain = .success
      · left
        rw [if_neg (not_not.mpr hset), hset]
        refine ⟨⟨hcount, ⟨Int32.not_lt.mp hlow, Int32.not_le.mp hhigh⟩, hset⟩, ?_⟩
        split
        · rfl
        · rfl
      · right
        rw [if_pos hset]
        refine ⟨fun hgain => hset hgain.2.2, ?_⟩
        exact List.forall_mem_singleton.mpr ⟨rfl, hset⟩
  · right
    rw [if_pos hcount]
    exact ⟨fun hgain => hcount hgain.1, nofun⟩

end Zero

/-- The path of a set-up that returns 0. -/
theorem setup_succeeded {params : AndorParameters} {answers : SetupAnswers}
    {headers : FitsHeaders} {setup : Setup}
    (hsetup : setupAcquisition params answers headers = .ok setup) (hzero : setup.status = 0) :
    refusedSetup params answers = none ∧ ∃ size, imageSize params = .ok (some size) ∧
      cameraHeaders params answers size (mergeArHeaders params answers headers).2 =
        .ok (0, setup.headers) := by
  unfold setupAcquisition at hsetup
  cases hrefused : refusedSetup params answers with
  | some status =>
      simp only [hrefused, Except.ok.injEq] at hsetup
      rw [← hsetup] at hzero
      exact absurd hzero (refusedSetup_ne_zero hrefused)
  | none =>
      simp only [hrefused, checked_bind_eq_ok] at hsetup
      obtain ⟨computed, hcomputed, hrest⟩ := hsetup
      cases computed with
      | none =>
          rw [← Except.ok.inj hrest] at hzero
          exact absurd hzero Int.one_ne_zero
      | some size =>
          dsimp only at hrest
          split at hrest
          · rename_i hmerged
            rw [← Except.ok.inj hrest] at hzero
            exact absurd hzero hmerged
          · obtain ⟨⟨status, table⟩, hcamera, hlast⟩ := checked_bind_eq_ok.mp hrest
            dsimp only at hlast
            split at hlast
            · rename_i hstatus
              rw [← Except.ok.inj hlast] at hzero
              exact absurd hzero hstatus
            · rename_i hstatus
              rw [← Except.ok.inj hlast]
              rw [not_not.mp hstatus] at hcamera
              exact ⟨rfl, size, hcomputed, hcamera⟩

theorem refusedSetup_eq_none {params : AndorParameters} {answers : SetupAnswers}
    (hnone : refusedSetup params answers = none) :
    params.readOutMode = .image ∧ answers.setupReadOutMode = 0 ∧
      answers.setupAcquisitionMode = 0 ∧ answers.setFastestRecomendedVhSpeeds = 0 ∧
      answers.setShutter = .success := by
  rw [refusedSetup] at hnone
  split_ifs at hnone with hmode hreadOut hacquisition hspeeds hshutter hdetector hpixels
  exact ⟨not_not.mp hmode, not_not.mp hreadOut, not_not.mp hacquisition, not_not.mp hspeeds,
    not_not.mp hshutter⟩

section Path

variable {params : AndorParameters} {sdk : SdkAnswers}

/-- The settings on the path of a set-up that returns 0. -/
theorem setupCalls_of_zero (hrefused : refusedSetup params (sdk.answers params) = none)
    (hsize : ∃ size, imageSize params = .ok (some size)) :
    ∃ earlier, setupCalls params sdk = earlier ++ (Camera.setPreampgain params sdk).calls ++
        [(shutterSetting params, .success)] ++ [(.triggerMode 0, sdk.setTriggerMode)] ∧
      (∀ call ∈ earlier, call.2 = .success) ∧
      earlier.map Prod.fst =
        [.readMode (modeInt params.readOutMode.code),
          .image params.imageHbin params.imageVbin params.imageHstart params.imageHend
            params.imageVstart params.imageVend] ++
        acquisitionSettings params ++ [.vsSpeed sdk.vsIndex, .hsSpeed 0 params.hsspeed] := by
  obtain ⟨hmode, hreadOut, hacquisition, hspeeds, hshutter⟩ := refusedSetup_eq_none hrefused
  obtain ⟨size, hsize⟩ := hsize
  replace hreadOut : (setupReadOutMode params sdk).status = 0 := hreadOut
  replace hacquisition : (setupAcquisitionMode params sdk).status = 0 := hacquisition
  replace hspeeds : (setFastestRecomendedVhSpeeds params sdk).status = 0 := hspeeds
  replace hshutter : sdk.others.setShutter = .success := hshutter
  obtain ⟨hreadAccepted, hreadMade⟩ := setupReadOutMode_zero hmode hreadOut
  obtain ⟨hacqAccepted, hacqMade⟩ := setupAcquisitionMode_zero hacquisition
  obtain ⟨-, hspeedCalls⟩ := setFastestRecomendedVhSpeeds_zero hspeeds
  refine ⟨(setupReadOutMode params sdk).calls ++ (setupAcquisitionMode params sdk).calls ++
    (setFastestRecomendedVhSpeeds params sdk).calls, ?_, ?_, ?_⟩
  · unfold setupCalls
    rw [if_neg (not_not.mpr hmode)]
    dsimp only
    rw [if_neg (not_not.mpr hreadOut), if_neg (not_not.mpr hacquisition),
      if_neg (not_not.mpr hspeeds), hrefused, hsize, hshutter]
  · rw [hspeedCalls]
    refine List.forall_mem_append.mpr ⟨List.forall_mem_append.mpr
      ⟨hreadAccepted, hacqAccepted⟩, ?_⟩
    exact List.forall_mem_cons.mpr ⟨rfl, List.forall_mem_singleton.mpr rfl⟩
  · rw [List.map_append, List.map_append, hreadMade, hacqMade, hspeedCalls]
    rfl

theorem foldl_acquisitionSettings (params : AndorParameters) (config : CameraConfig) :
    (acquisitionSettings params).foldl CameraConfig.apply config = config := by
  unfold acquisitionSettings
  dsimp only
  split_ifs <;> rfl

/-- What the camera is set to behind a set-up that returns 0 and has set the gain. -/
theorem inForce_of_zero (hrefused : refusedSetup params (sdk.answers params) = none)
    (hsize : ∃ size, imageSize params = .ok (some size)) (hgain : GainSet params sdk)
    (before : CameraConfig) :
    inForce DrvCode.success CameraConfig.apply before (setupCalls params sdk) =
      ⟨params.imageHbin, params.imageVbin, sdk.vsIndex, params.hsspeed, params.preampgain⟩ := by
  obtain ⟨earlier, hcalls, haccepted, hmade⟩ := setupCalls_of_zero hrefused hsize
  obtain ⟨-, hset⟩ := setPreampgain_calls.resolve_right fun hnot => hnot.1 hgain
  rw [hcalls, hset, inForce_append, inForce_append, inForce_append,
    inForce_of_success haccepted, hmade, List.foldl_append, List.foldl_append,
    foldl_acquisitionSettings]
  cases sdk.setTriggerMode <;> rfl

end Path

theorem createFitsHeader_entry {value : HeaderValue} {key comment : Text} {hdr : FitsHeader}
    (hcreate : createFitsHeader value key comment = .ok hdr)
    (hkey : rtrim (key.dropWhile (· = 32)) = key) : hdr.key = key ∧ hdr.value = value := by
  obtain ⟨htrimmed, hvalue⟩ := createFitsHeader_spec hcreate
  exact ⟨htrimmed.trans hkey, hvalue⟩

theorem createFitsHeaderChars_key {key val comment : Text} {hdr : FitsHeader}
    (hcreate : createFitsHeaderChars key val comment = .ok hdr)
    (hkey : rtrim (key.dropWhile (· = 32)) = key) : hdr.key = key := by
  unfold createFitsHeaderChars at hcreate
  split at hcreate
  · exact (createFitsHeader_entry hcreate hkey).1
  · cases hcreate

/-- What the table is given for the settings. -/
def cameraEntries (params : AndorParameters) (answers : SetupAnswers) :
    List (Text × HeaderValue) :=
  [(ascii "HSSPEED", .fval answers.hsspeedMhz), (ascii "VSSPEED", .fval answers.vsspeed),
    (ascii "GAIN", .fval answers.factor), (ascii "VBIN", .ival params.imageVbin),
    (ascii "HBIN", .ival params.imageHbin)]

theorem getPreAmpGain_of_cameraHeaders {params : AndorParameters} {answers : SetupAnswers}
    {size : Nat × Nat} {headers after : FitsHeaders}
    (hcamera : cameraHeaders params answers size headers = .ok (0, after)) :
    answers.getPreAmpGain = .success := by
  unfold cameraHeaders at hcamera
  split at hcamera
  · cases hcamera
  · obtain ⟨hsspeed, -, hcamera⟩ := checked_bind_eq_ok.mp hcamera
    obtain ⟨vsspeed, -, hcamera⟩ := checked_bind_eq_ok.mp hcamera
    dsimp only at hcamera
    split at hcamera
    · cases hcamera
    · rename_i hgain
      exact not_not.mp hgain

/-- The entries of the set-up, the last one only for a stable temperature. -/
structure CameraEntries (params : AndorParameters) (answers : SetupAnswers)
    (entries : List FitsHeader) : Prop where
  keys : entries.map headerScheme.key <+:
    ["HSSPEED", "VSSPEED", "GAIN", "OBSERVER", "EXPOSED", "EXPTIME", "VBIN", "HBIN",
      "INSTRUME", "OBJECT", "FILTER", "TIMECORR", "CCDTEMP"].map ascii
  values : ∀ entry ∈ cameraEntries params answers,
    ∃ hdr ∈ entries, hdr.key = entry.1 ∧ hdr.value = entry.2

-- with update kept closed, every step of the function only names the entry it creates
seal FitsHeaders.update in
theorem cameraHeaders_entries {params : AndorParameters} {answers : SetupAnswers}
    {size : Nat × Nat} {headers after : FitsHeaders}
    (hcamera : cameraHeaders params answers size headers = .ok (0, after))
    (hfactor : answers.factor.isNonNegative = true) :
    ∃ entries, CameraEntries params answers entries ∧
      after = (FitsHeaders.updateEach entries headers).2 := by
  have hread := getPreAmpGain_of_cameraHeaders hcamera
  unfold cameraHeaders at hcamera
  split at hcamera
  · cases hcamera
  obtain ⟨hsspeed, hhsspeed, hcamera⟩ := checked_bind_eq_ok.mp hcamera
  obtain ⟨vsspeed, hvsspeed, hcamera⟩ := checked_bind_eq_ok.mp hcamera
  replace hcamera := (if_neg (not_not.mpr hread)).symm.trans hcamera
  obtain ⟨gain, hgain, hcamera⟩ := checked_bind_eq_ok.mp hcamera
  obtain ⟨observerText, -, hcamera⟩ := checked_bind_eq_ok.mp hcamera
  obtain ⟨observer, hobserver, hcamera⟩ := checked_bind_eq_ok.mp hcamera
  obtain ⟨exposed, hexposed, hcamera⟩ := checked_bind_eq_ok.mp hcamera
  obtain ⟨exptime, hexptime, hcamera⟩ := checked_bind_eq_ok.mp hcamera
  obtain ⟨vbin, hvbin, hcamera⟩ := checked_bind_eq_ok.mp hcamera
  obtain ⟨hbin, hhbin, hcamera⟩ := checked_bind_eq_ok.mp hcamera
  obtain ⟨instrume, hinstrume, hcamera⟩ := checked_bind_eq_ok.mp hcamera
  obtain ⟨objectText, -, hcamera⟩ := checked_bind_eq_ok.mp hcamera
  obtain ⟨object, hobject, hcamera⟩ := checked_bind_eq_ok.mp hcamera
  obtain ⟨filterText, -, hcamera⟩ := checked_bind_eq_ok.mp hcamera
  obtain ⟨filter, hfilter, hcamera⟩ := checked_bind_eq_ok.mp hcamera
  obtain ⟨startTimeCor, -, hcamera⟩ := checked_bind_eq_ok.mp hcamera
  obtain ⟨timecorr, htimecorr, hcamera⟩ := checked_bind_eq_ok.mp hcamera
  obtain ⟨hhsKey, hhsValue⟩ := createFitsHeader_entry hhsspeed (by decide +kernel)
  obtain ⟨hvsKey, hvsValue⟩ := createFitsHeader_entry hvsspeed (by decide +kernel)
  obtain ⟨hgainKey, hgainValue⟩ := createFitsHeader_entry hgain (by decide +kernel)
  obtain ⟨hvbinKey, hvbinValue⟩ := createFitsHeader_entry hvbin (by decide +kernel)
  obtain ⟨hhbinKey, hhbinValue⟩ := createFitsHeader_entry hhbin (by decide +kernel)
  have hobserverKey := createFitsHeaderChars_key hobserver (by decide +kernel)
  have hinstrumeKey := createFitsHeaderChars_key hinstrume (by decide +kernel)
  have hobjectKey := createFitsHeaderChars_key hobject (by decide +kernel)
  have hfilterKey := createFitsHeaderChars_key hfilter (by decide +kernel)
  have hexposedKey := (createFitsHeader_entry hexposed (by decide +kernel)).1
  have hexptimeKey := (createFitsHeader_entry hexptime (by decide +kernel)).1
  have htimecorrKey := (createFitsHeader_entry htimecorr (by decide +kernel)).1
  have hkeys : [hsspeed, vsspeed, gain, observer, exposed, exptime, vbin, hbin, instrume,
      object, filter, timecorr].map headerScheme.key =
      ["HSSPEED", "VSSPEED", "GAIN", "OBSERVER", "EXPOSED", "EXPTIME", "VBIN", "HBIN",
        "INSTRUME", "OBJECT", "FILTER", "TIMECORR"].map ascii := by
    simp only [List.map_cons, List.map_nil, headerScheme, hhsKey, hvsKey, hgainKey, hobserverKey,
      hexposedKey, hexptimeKey, hvbinKey, hhbinKey, hinstrumeKey, hobjectKey, hfilterKey,
      htimecorrKey]
  have hvalues : ∀ last, ∀ entry ∈ cameraEntries params answers, ∃ hdr ∈ [hsspeed, vsspeed,
      gain, observer, exposed, exptime, vbin, hbin, instrume, object, filter, timecorr] ++ last,
      hdr.key = entry.1 ∧ hdr.value = entry.2 := by
    intro last entry hentry
    simp only [cameraEntries, List.mem_cons, List.not_mem_nil, or_false] at hentry
    rcases hentry with rfl | rfl | rfl | rfl | rfl
    · exact ⟨hsspeed, by simp, hhsKey, hhsValue⟩
    · exact ⟨vsspeed, by simp, hvsKey, hvsValue⟩
    · exact ⟨gain, by simp, hgainKey, hgainValue⟩
    · exact ⟨vbin, by simp, hvbinKey, hvbinValue⟩
    · exact ⟨hbin, by simp, hhbinKey, hhbinValue⟩
  by_cases hstable : answers.getTemperatureF = .tempStabilized
  · replace hcamera := (if_neg (not_not.mpr hstable)).symm.trans hcamera
    obtain ⟨ccdtemp, hccdtemp, hcamera⟩ := checked_bind_eq_ok.mp hcamera
    have hccdtempKey : headerScheme.key ccdtemp = ascii "CCDTEMP" :=
      (createFitsHeader_entry hccdtemp (by decide +kernel)).1
    refine ⟨_, ⟨?_, hvalues [ccdtemp]⟩, (congrArg Prod.snd (Except.ok.inj hcamera)).symm⟩
    rw [List.map_append, hkeys, List.map_singleton, hccdtempKey]
    exact List.prefix_refl _
  · replace hcamera := (if_pos hstable).symm.trans hcamera
    refine ⟨_, ⟨?_, hvalues []⟩, (congrArg Prod.snd (Except.ok.inj hcamera)).symm⟩
    rw [List.append_nil, hkeys]
    exact ⟨[ascii "CCDTEMP"], rfl⟩

/-- An entry of the set-up is found under its key exactly when the key was free. -/
theorem cameraHeaders_valueOf_iff {params : AndorParameters} {answers : SetupAnswers}
    {size : Nat × Nat} {headers after : FitsHeaders}
    (hcamera : cameraHeaders params answers size headers = .ok (0, after))
    (hfactor : answers.factor.isNonNegative = true) {key : Text} {value wanted : HeaderValue}
    (hentry : (key, value) ∈ cameraEntries params answers) (htype : wanted.type = value.type) :
    after.valueOf key = some wanted ↔
      value = wanted ∧ KeyedTable.Free headerScheme key wanted.type headers.mvec := by
  obtain ⟨entries, ⟨hkeys, hvalues⟩, rfl⟩ := cameraHeaders_entries hcamera hfactor
  obtain ⟨hdr, hmem, rfl, rfl⟩ := hvalues _ hentry
  have hnodup : (entries.map headerScheme.key).Nodup :=
    hkeys.sublist.nodup (by decide +kernel)
  have hopen : headerScheme.closed (headerScheme.kind hdr) = false := by
    simp only [cameraEntries, List.mem_cons, Prod.mk.injEq, List.not_mem_nil, or_false] at hentry
    rcases hentry with h | h | h | h | h
    all_goals
      simp only [headerScheme, h.2]
      rfl
  have hlookup := KeyedTable.lookup_updateAll_of_nodup hnodup hmem hopen headers.mvec
  rw [← (FitsHeaders.updateEach_spec entries headers).2] at hlookup
  unfold FitsHeaders.valueOf
  rw [htype]
  rcases hlookup with ⟨hfree, hfound⟩ | ⟨htaken, hfound⟩
  · rw [show hdr.key = headerScheme.key hdr from rfl, hfound]
    exact ⟨fun hvalue => ⟨Option.some.inj hvalue, hfree⟩, fun h => congrArg some h.1⟩
  · refine iff_of_false ?_ fun h => htaken h.2
    intro hvalue
    obtain ⟨stored, hstored, hwanted⟩ := Option.map_eq_some_iff.mp hvalue
    apply htaken
    intro other hother
    rw [← hfound] at hother
    rw [← Option.some.inj (hstored.symm.trans hother)]
    exact (congrArg HeaderValue.type hwanted).trans htype

/-- The keywords are new to the table, or stand there with the type they are updated for. -/
structure KeysFree (headers : FitsHeaders) : Prop where
  gain : KeyedTable.Free headerScheme (ascii "GAIN") .tfloat headers.mvec
  hsspeed : KeyedTable.Free headerScheme (ascii "HSSPEED") .tfloat headers.mvec
  vsspeed : KeyedTable.Free headerScheme (ascii "VSSPEED") .tfloat headers.mvec
  hbin : KeyedTable.Free headerScheme (ascii "HBIN") .tint headers.mvec
  vbin : KeyedTable.Free headerScheme (ascii "VBIN") .tint headers.mvec

theorem describes_iff {camera : CameraTables} {params : AndorParameters} {sdk : SdkAnswers}
    {size : Nat × Nat} {headers after : FitsHeaders} (hdocumented : Documented camera params sdk)
    (hfastest : sdk.getFastestRecommendedVSSpeed = .success)
    (hcamera : cameraHeaders params (sdk.answers params) size headers = .ok (0, after)) :
    Describes camera ⟨params.imageHbin, params.imageVbin, sdk.vsIndex, params.hsspeed,
        params.preampgain⟩ after ↔
      sdk.others.hsspeedMhz = camera.hsSpeed params.hsspeed ∧ KeysFree headers := by
  have hread := getPreAmpGain_of_cameraHeaders hcamera
  have hfactor := hdocumented.preAmpGain hread
  have hvsspeed := hdocumented.vsSpeed hfastest
  have hnonNegative : (sdk.answers params).factor.isNonNegative = true :=
    (congrArg Binary32.isNonNegative hfactor).trans (hdocumented.nonNegative _)
  have hfound : ∀ {key : Text} {value wanted : HeaderValue},
      (key, value) ∈ cameraEntries params (sdk.answers params) → wanted.type = value.type →
      (after.valueOf key = some wanted ↔
        value = wanted ∧ KeyedTable.Free headerScheme key wanted.type headers.mvec) :=
    cameraHeaders_valueOf_iff hcamera hnonNegative
  have hhsspeed : (ascii "HSSPEED", HeaderValue.fval sdk.others.hsspeedMhz) ∈
      cameraEntries params (sdk.answers params) := .head _
  have hvsspeedMem : (ascii "VSSPEED", HeaderValue.fval sdk.others.vsspeed) ∈
      cameraEntries params (sdk.answers params) := .tail _ (.head _)
  have hgain : (ascii "GAIN", HeaderValue.fval sdk.others.factor) ∈
      cameraEntries params (sdk.answers params) := .tail _ (.tail _ (.head _))
  have hvbin : (ascii "VBIN", HeaderValue.ival params.imageVbin) ∈
      cameraEntries params (sdk.answers params) := .tail _ (.tail _ (.tail _ (.head _)))
  have hhbin : (ascii "HBIN", HeaderValue.ival params.imageHbin) ∈
      cameraEntries params (sdk.answers params) := .tail _ (.tail _ (.tail _ (.tail _ (.head _))))
  rw [hfactor] at hgain
  rw [hvsspeed] at hvsspeedMem
  have hspeedIff : after.valueOf (ascii "HSSPEED") =
      some (.fval (camera.hsSpeed params.hsspeed)) ↔
      HeaderValue.fval sdk.others.hsspeedMhz = .fval (camera.hsSpeed params.hsspeed) ∧
        KeyedTable.Free headerScheme (ascii "HSSPEED") .tfloat headers.mvec :=
    hfound hhsspeed rfl
  constructor
  · rintro ⟨hgainFound, hhsspeedFound, hvsspeedFound, hhbinFound, hvbinFound⟩
    obtain ⟨hequal, hhsspeedFree⟩ := hspeedIff.mp hhsspeedFound
    exact ⟨HeaderValue.fval.inj hequal, ((hfound hgain rfl).mp hgainFound).2, hhsspeedFree,
      ((hfound hvsspeedMem rfl).mp hvsspeedFound).2, ((hfound hhbin rfl).mp hhbinFound).2,
      ((hfound hvbin rfl).mp hvbinFound).2⟩
  · rintro ⟨hequal, hgainFree, hhsspeedFree, hvsspeedFree, hhbinFree, hvbinFree⟩
    exact ⟨(hfound hgain rfl).mpr ⟨rfl, hgainFree⟩,
      hspeedIff.mpr ⟨congrArg HeaderValue.fval hequal, hhsspeedFree⟩,
      (hfound hvsspeedMem rfl).mpr ⟨rfl, hvsspeedFree⟩, (hfound hhbin rfl).mpr ⟨rfl, hhbinFree⟩,
      (hfound hvbin rfl).mpr ⟨rfl, hvbinFree⟩⟩

/-- A gain that is not set is asked for in vain. -/
theorem gainSet_of_made {params : AndorParameters} {sdk : SdkAnswers}
    (hrefused : refusedSetup params (sdk.answers params) = none)
    (hsize : ∃ size, imageSize params = .ok (some size))
    (hmade : .preAmpGain params.preampgain ∈ (setupCalls params sdk).map Prod.fst)
    (haccepted : ∀ call ∈ setupCalls params sdk, call.1 = .preAmpGain params.preampgain →
      call.2 = .success) : GainSet params sdk := by
  by_contra hnot
  obtain ⟨earlier, hcalls, -, hearlier⟩ := setupCalls_of_zero hrefused hsize
  have hrefusals := (setPreampgain_calls.resolve_left fun h => hnot h.1).2
  obtain ⟨call, hcall, hgain⟩ := List.mem_map.mp hmade
  have hsuccess := haccepted call hcall hgain
  have hnone : Setting.preAmpGain params.preampgain ∉ earlier.map Prod.fst := by
    rw [hearlier]
    unfold acquisitionSettings
    dsimp only
    split_ifs <;> simp
  rw [hcalls] at hcall
  simp only [List.mem_append, List.mem_singleton] at hcall
  rcases hcall with ((hcall | hcall) | rfl) | rfl
  · exact hnone (hgain ▸ List.mem_map_of_mem hcall)
  · exact (hrefusals call hcall).2 hsuccess
  · cases hgain
  · cases hgain

/-- With the gain set, the trigger mode is the only setting that may have been refused. -/
theorem made_of_gainSet {params : AndorParameters} {sdk : SdkAnswers}
    (hrefused : refusedSetup params (sdk.answers params) = none)
    (hsize : ∃ size, imageSize params = .ok (some size)) (hgain : GainSet params sdk) :
    (∀ setting ∈ settingsAsked params sdk, setting ∈ (setupCalls params sdk).map Prod.fst) ∧
      (.triggerMode 0, sdk.setTriggerMode) ∈ setupCalls params sdk ∧
      ∀ call ∈ setupCalls params sdk,
        call.2 = .success ∨ call = (.triggerMode 0, sdk.setTriggerMode) := by
  obtain ⟨earlier, hcalls, haccepted, hearlier⟩ := setupCalls_of_zero hrefused hsize
  obtain ⟨-, hgainCalls⟩ := setPreampgain_calls.resolve_right fun hnot => hnot.1 hgain
  rw [hcalls, hgainCalls]
  refine ⟨?_, List.mem_append_right _ (List.mem_singleton_self _), ?_⟩
  · intro setting hsetting
    rw [List.map_append, List.map_append, List.map_append, hearlier]
    simp only [settingsAsked, List.map_cons, List.map_nil, List.mem_append, List.mem_cons,
      List.not_mem_nil, or_false] at hsetting ⊢
    tauto
  · intro call hcall
    simp only [List.mem_append, List.mem_singleton] at hcall
    rcases hcall with ((hcall | rfl) | rfl) | rfl
    · exact Or.inl (haccepted call hcall)
    · exact Or.inl rfl
    · exact Or.inl rfl
    · exact Or.inr rfl

theorem setUpAsAsked_among_iff {among : Setting → Prop} {camera : CameraTables}
    {params : AndorParameters} {sdk : SdkAnswers} {headers : FitsHeaders} {setup : Setup}
    (hgains : ∀ index, among (.preAmpGain index)) (hdocumented : Documented camera params sdk)
    (hsetup : setupAcquisition params (sdk.answers params) headers = .ok setup)
    (hzero : setup.status = 0) (before : CameraConfig) :
    SetUpAsAsked among camera params sdk before setup.headers ↔
      (GainSet params sdk ∧ sdk.others.hsspeedMhz = camera.hsSpeed params.hsspeed ∧
        KeysFree (mergeArHeaders params (sdk.answers params) headers).2) ∧
      (among (.triggerMode 0) → sdk.setTriggerMode = .success) := by
  obtain ⟨hrefused, size, hcomputed, hcamera⟩ := setup_succeeded hsetup hzero
  have hsize : ∃ size, imageSize params = .ok (some size) := ⟨size, hcomputed⟩
  have hspeeds := (refusedSetup_eq_none hrefused).2.2.2.1
  obtain ⟨hfastest, -⟩ := setFastestRecomendedVhSpeeds_zero hspeeds
  have hdescribes := describes_iff hdocumented hfastest hcamera
  constructor
  · rintro ⟨hmade, haccepted, hdescribed⟩
    have hgainAsked : Setting.preAmpGain params.preampgain ∈ settingsAsked params sdk :=
      List.mem_append_right _ (.tail _ (.tail _ (.head _)))
    have hgain : GainSet params sdk := by
      refine gainSet_of_made hrefused hsize (hmade _ hgainAsked) ?_
      intro call hcall hsetting
      exact haccepted call hcall (hsetting ▸ hgains _)
    obtain ⟨-, htrigger, -⟩ := made_of_gainSet hrefused hsize hgain
    rw [inForce_of_zero hrefused hsize hgain, hdescribes] at hdescribed
    exact ⟨⟨hgain, hdescribed⟩, haccepted _ htrigger⟩
  · rintro ⟨⟨hgain, htrue⟩, htrigger⟩
    obtain ⟨hmade, -, haccepted⟩ := made_of_gainSet hrefused hsize hgain
    refine ⟨hmade, ?_, ?_⟩
    · intro call hcall hamong
      rcases haccepted call hcall with hsuccess | rfl
      · exact hsuccess
      · exact htrigger hamong
    · rw [inForce_of_zero hrefused hsize hgain, hdescribes]
      exact htrue

/-- A set-up that returns 0 has made the settings it was asked for and describes them, exactly
when the gain has been set, GetHSSpeed has filled in the speed, and the keywords were free.
Only the trigger mode may still have been refused. -/
theorem setUpAsAsked_iff {camera : CameraTables} {params : AndorParameters} {sdk : SdkAnswers}
    {headers : FitsHeaders} {setup : Setup} (hdocumented : Documented camera params sdk)
    (hsetup : setupAcquisition params (sdk.answers params) headers = .ok setup)
    (hzero : setup.status = 0) (before : CameraConfig) :
    (SetUpAsAsked (· ≠ .triggerMode 0) camera params sdk before setup.headers ↔
      GainSet params sdk ∧ sdk.others.hsspeedMhz = camera.hsSpeed params.hsspeed ∧
        KeysFree (mergeArHeaders params (sdk.answers params) headers).2) ∧
    (SetUpAsAsked (fun _ => True) camera params sdk before setup.headers ↔
      (GainSet params sdk ∧ sdk.others.hsspeedMhz = camera.hsSpeed params.hsspeed ∧
        KeysFree (mergeArHeaders params (sdk.answers params) headers).2) ∧
      sdk.setTriggerMode = .success) := by
  constructor
  · rw [setUpAsAsked_among_iff (fun _ => nofun) hdocumented hsetup hzero before]
    exact and_iff_left fun hself => absurd rfl hself
  · rw [setUpAsAsked_among_iff (fun _ => trivial) hdocumented hsetup hzero before]
    exact and_congr_right fun _ => true_imp_iff

/-- A camera that accepts every setting but perhaps the gain; its two gains are 1 and 2. -/
def gainAnswers (setPreAmpGain : DrvCode) : SdkAnswers :=
  { setReadMode := .success, setSingleTrack := .success, setImage := .success
    setAcquisitionMode := .success, setExposureTime := .success
    setNumberAccumulations := .success, setAccumulationCycleTime := .success
    setNumberKinetics := .success, setKineticCycleTime := .success
    getFastestRecommendedVSSpeed := .success, vsIndex := 1, setVSSpeed := .success
    setHSSpeed := .success, getNumberPreAmpGains := .success, noGains := 2
    setPreAmpGain, getPreAmpGain := .success, setTriggerMode := .success
    others :=
      { setupReadOutMode := 0, setupAcquisitionMode := 0, setFastestRecomendedVhSpeeds := 0
        vsspeed := ⟨0x41800000⟩, hsspeedMhz := ⟨0x40400000⟩
        setShutter := .success, getDetector := .success, xpixels := 2048, ypixels := 2048
        arHeaders := [], getAcquisitionTimings := .success, actualExposure := ⟨0x3DCCCCCD⟩
        getPreAmpGain := .success, factor := ⟨0x3F800000⟩, lcorrNs := fun _ _ => 150000000
        getTemperatureF := .tempStabilized, tempf := ⟨0xC2200000⟩ } }

def twoGains : CameraTables where
  vsSpeed _ := ⟨0x41800000⟩
  hsSpeed _ := ⟨0x40400000⟩
  preAmpGain index := if index = 1 then ⟨0x40000000⟩ else ⟨0x3F800000⟩

theorem gainAnswers_documented (setPreAmpGain : DrvCode) :
    Documented twoGains (AndorParameters.initial []) (gainAnswers setPreAmpGain) where
  vsSpeed _ := rfl
  preAmpGain _ := rfl
  nonNegative index := by
    unfold twoGains
    dsimp only
    split <;> decide +kernel

/-- The default set-up with the gain accepted. -/
theorem acceptedGain_setUpAsAsked : ∃ setup,
    setupAcquisition (AndorParameters.initial [])
      ((gainAnswers .success).answers (AndorParameters.initial []))
      (FitsHeaders.construct 100) = .ok setup ∧
    setup.status = 0 ∧
    SetUpAsAsked (fun _ => True) twoGains (AndorParameters.initial []) (gainAnswers .success)
      ⟨1, 1, 1, 0, 1⟩ setup.headers := by
  have hstatus : (setupAcquisition (AndorParameters.initial [])
      ((gainAnswers .success).answers (AndorParameters.initial []))
      (FitsHeaders.construct 100)).map Setup.status = .ok 0 := by
    decide +kernel
  obtain ⟨setup, hsetup, hzero⟩ := checked_map_eq_ok.mp hstatus
  refine ⟨setup, hsetup, hzero, ?_⟩
  refine (setUpAsAsked_iff (gainAnswers_documented .success) hsetup hzero _).2.mpr
    ⟨⟨⟨rfl, by decide +kernel, rfl⟩, rfl, ?_⟩, rfl⟩
  exact ⟨nofun, nofun, nofun, nofun, nofun⟩

/-- The gain was 2 and is to be 1, which SetPreAmpGain refuses: the set-up returns 0 and
the headers say 1. -/
theorem refusedGain_isArchived : ∃ setup,
    setupAcquisition (AndorParameters.initial [])
      ((gainAnswers .errorAck).answers (AndorParameters.initial []))
      (FitsHeaders.construct 100) = .ok setup ∧
    setup.status = 0 ∧ Documented twoGains (AndorParameters.initial []) (gainAnswers .errorAck) ∧
    setup.headers.valueOf (ascii "GAIN") = some (.fval (twoGains.preAmpGain 0)) ∧
    (inForce DrvCode.success CameraConfig.apply ⟨1, 1, 1, 0, 1⟩
      (setupCalls (AndorParameters.initial []) (gainAnswers .errorAck))).preAmpGain = 1 ∧
    twoGains.preAmpGain 0 ≠ twoGains.preAmpGain 1 ∧
    ¬ SetUpAsAsked (· ≠ .triggerMode 0) twoGains (AndorParameters.initial [])
      (gainAnswers .errorAck) ⟨1, 1, 1, 0, 1⟩ setup.headers := by
  have hparts : (setupAcquisition (AndorParameters.initial [])
      ((gainAnswers .errorAck).answers (AndorParameters.initial []))
      (FitsHeaders.construct 100)).map (fun setup =>
        (setup.status, setup.headers.valueOf (ascii "GAIN"))) =
      .ok (0, some (.fval (twoGains.preAmpGain 0))) := by
    decide +kernel
  obtain ⟨setup, hsetup, hpair⟩ := checked_map_eq_ok.mp hparts
  obtain ⟨hzero, hgain⟩ := Prod.mk.inj hpair
  refine ⟨setup, hsetup, hzero, gainAnswers_documented .errorAck, hgain, by decide +kernel,
    by decide +kernel, ?_⟩
  intro hasked
  have hrefused : (Setting.preAmpGain 0, DrvCode.errorAck) ∈
      setupCalls (AndorParameters.initial []) (gainAnswers .errorAck) := by
    decide +kernel
  exact absurd (hasked.accepted _ hrefused nofun) (by decide)

end Andor2k
