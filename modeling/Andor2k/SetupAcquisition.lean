/-
setup_acquisition: what an exposure is set up with, as far as it reaches the FITS file:
the size of the image and the header table.
-/
import Andor2k.FitsHeader
import Andor2k.Parameters
import Andor2k.Sdk

namespace Andor2k

open CText Ieee

/-- What the camera, the SDK and the functions below `setup_acquisition` answer.  `lcorrNs` is
the floating-point sum of start_time_correction for the rows and the pixels of an image, as a
`long`. -/
structure SetupAnswers where
  setupReadOutMode : Int
  setupAcquisitionMode : Int
  setFastestRecomendedVhSpeeds : Int
  vsspeed : Binary32
  hsspeedMhz : Binary32
  setShutter : DrvCode
  getDetector : DrvCode
  xpixels : Int32
  ypixels : Int32
  arHeaders : List FitsHeader
  getAcquisitionTimings : DrvCode
  actualExposure : Binary32
  getPreAmpGain : DrvCode
  factor : Binary32
  lcorrNs : Int → Int → Int64
  getTemperatureF : DrvCode
  tempf : Binary32

/-- The status with which the function returns before it computes the image size. -/
def refusedSetup (params : AndorParameters) (answers : SetupAnswers) : Option Int :=
  if params.readOutMode ≠ .image then some 1
  else if answers.setupReadOutMode ≠ 0 then some 10
  else if answers.setupAcquisitionMode ≠ 0 then some 10
  else if answers.setFastestRecomendedVhSpeeds ≠ 0 then some 10
  else if answers.setShutter ≠ .success then some 10
  else if answers.getDetector ≠ .success then some 1
  else if answers.xpixels ≠ maxPixelsInDim ∨ answers.ypixels ≠ maxPixelsInDim then some 1
  else none

theorem refusedSetup_ne_zero {params : AndorParameters} {answers : SetupAnswers} {status : Int}
    (hrefused : refusedSetup params answers = some status) : status ≠ 0 := by
  rw [refusedSetup] at hrefused
  split_ifs at hrefused
  all_goals
    rw [← Option.some.inj hrefused]
    decide

/-- The pixels from `start` to `stop`, `bin` of them taken together. -/
def numPixels (start stop bin : Int32) : Checked Int := do
  let numpixels ← addInt (← subInt stop.toInt start.toInt) 1
  divInt numpixels bin.toInt

theorem numPixels_eq_ok {start stop bin : Int32} {result : Int}
    (hpixels : numPixels start stop bin = .ok result) :
    (stop.toInt - start.toInt + 1).tdiv bin.toInt = result := by
  simp only [numPixels, checked_bind_eq_ok] at hpixels
  obtain ⟨span, hspan, last, hlast, hdiv⟩ := hpixels
  rw [← divInt_eq_ok hdiv, ← (checkInt_eq_ok.mp hlast).2, ← (checkInt_eq_ok.mp hspan).2]

/-- Width and height, unless one of them is out of range. -/
def imageSize (params : AndorParameters) : Checked (Option (Nat × Nat)) := do
  let xnumpixels ← numPixels params.imageHstart params.imageHend params.imageHbin
  let ynumpixels ← numPixels params.imageVstart params.imageVend params.imageVbin
  if (xnumpixels < 1 ∨ xnumpixels > maxPixelsInDim.toInt) ∨
      (ynumpixels < 1 ∨ ynumpixels > maxPixelsInDim.toInt) then return none
  else return some (xnumpixels.toNat, ynumpixels.toNat)

/-- The number of pixels is a product of two `int`s. -/
def SetupAnswers.startTimeCorrection (answers : SetupAnswers) (imgRows imgCols : Int) :
    Checked Int64 := do
  let pixels ← checkInt (imgCols * imgRows)
  return answers.lcorrNs imgRows pixels

/-- The entries added behind those of Aristarchos, for an image of `size.1` columns and `size.2`
rows: a status, and the table. -/
def cameraHeaders (params : AndorParameters) (answers : SetupAnswers) (size : Nat × Nat)
    (headers : FitsHeaders) : Checked (Int × FitsHeaders) := do
  if answers.getAcquisitionTimings ≠ .success then return (3, headers)
  let (_, headers) := headers.update (← createFitsHeaderFloat (ascii "HSSPEED")
    answers.hsspeedMhz (ascii "Horizontal Shift Speed (microsec / pixel shift) in MHz"))
  let (_, headers) := headers.update (← createFitsHeaderFloat (ascii "VSSPEED")
    answers.vsspeed (ascii "Vertical Shift Speed (microsec / pixel shift)"))
  if answers.getPreAmpGain ≠ .success then return (1, headers)
  let gain ← createFitsHeaderFloat (ascii "GAIN") answers.factor
    (ascii "Pre-Amp Gain Factor")
  let headers := if answers.factor.isNonNegative then (headers.update gain).2 else headers
  let (_, headers) := headers.update (← createFitsHeaderChars (ascii "OBSERVER")
    (← params.observerName.text) (ascii "Observer name/id"))
  let (_, headers) := headers.update (← createFitsHeaderFloat (ascii "EXPOSED")
    answers.actualExposure (ascii "Requested exposure time (sec)"))
  let (_, headers) := headers.update (← createFitsHeaderFloat (ascii "EXPTIME")
    answers.actualExposure (ascii "Requested exposure time (sec)"))
  let (_, headers) := headers.update (← createFitsHeaderInt (ascii "VBIN")
    params.imageVbin (ascii "Vertical binning"))
  let (_, headers) := headers.update (← createFitsHeaderInt (ascii "HBIN")
    params.imageHbin (ascii "Horizontal Binning"))
  let (_, headers) := headers.update (← createFitsHeaderChars (ascii "INSTRUME")
    (ascii "ANDOR2048x2048_BV") (ascii "Instrument used to acquire data"))
  let (_, headers) := headers.update (← createFitsHeaderChars (ascii "OBJECT")
    (← params.objectName.text) (ascii "Object identifier"))
  let (_, headers) := headers.update (← createFitsHeaderChars (ascii "FILTER")
    (← params.filterName.text) (ascii "Filter used"))
  let (_, headers) := headers.update (← createFitsHeaderLong (ascii "TIMECORR")
    (← answers.startTimeCorrection size.2 size.1)
    (ascii "Timming correction already applied (nanosec)"))
  if answers.getTemperatureF ≠ .tempStabilized then return (0, headers)
  let (_, headers) := headers.update (← createFitsHeaderFloat (ascii "CCDTEMP")
    answers.tempf (ascii "CCD temp at start of exposure degC"))
  return (0, headers)

/-- The Aristarchos entries, when they are asked for: a status, and the table. -/
def mergeArHeaders (params : AndorParameters) (answers : SetupAnswers)
    (headers : FitsHeaders) : Int × FitsHeaders :=
  if 0 < params.arHdrTries ∧ answers.arHeaders ≠ [] then
    let (merged, headers) := headers.merge answers.arHeaders true
    if merged < 0 then (2, headers) else (0, headers)
  else (0, headers)

/-- What `setup_acquisition` returns and hands out. -/
structure Setup where
  status : Int
  headers : FitsHeaders
  size : Option (Nat × Nat)
deriving DecidableEq

def setupAcquisition (params : AndorParameters) (answers : SetupAnswers)
    (headers : FitsHeaders) : Checked Setup :=
  match refusedSetup params answers with
  | some status => .ok ⟨status, headers, none⟩
  | none => do
      match ← imageSize params with
      | none => return ⟨1, headers, none⟩
      | some size =>
          let (merged, headers) := mergeArHeaders params answers headers
          if merged ≠ 0 then return ⟨merged, headers, none⟩
          let (status, headers) ← cameraHeaders params answers size headers
          if status ≠ 0 then return ⟨status, headers, none⟩
          return ⟨0, headers, some size⟩

/-- Width and height are the numbers of binned pixels of the window. -/
theorem imageSize_eq_some {params : AndorParameters} {width height : Nat}
    (hsize : imageSize params = .ok (some (width, height))) :
    (params.imageHend.toInt - params.imageHstart.toInt + 1).tdiv params.imageHbin.toInt =
        width ∧
      (params.imageVend.toInt - params.imageVstart.toInt + 1).tdiv params.imageVbin.toInt =
        height := by
  simp only [imageSize, checked_bind_eq_ok] at hsize
  obtain ⟨xnumpixels, hx, ynumpixels, hy, hrange⟩ := hsize
  have hwidth := numPixels_eq_ok hx
  have hheight := numPixels_eq_ok hy
  split at hrange
  · simp [pure, Except.pure] at hrange
  · simp only [pure, Except.pure, Except.ok.injEq, Option.some.injEq, Prod.mk.injEq] at hrange
    omega

theorem imageSize_of_setup {params : AndorParameters} {answers : SetupAnswers}
    {headers : FitsHeaders} {setup : Setup} {size : Nat × Nat}
    (hsetup : setupAcquisition params answers headers = .ok setup)
    (hsize : setup.size = some size) : imageSize params = .ok (some size) := by
  unfold setupAcquisition at hsetup
  cases hrefused : refusedSetup params answers with
  | some status =>
      simp only [hrefused, Except.ok.injEq] at hsetup
      rw [← hsetup] at hsize
      cases hsize
  | none =>
      simp only [hrefused, checked_bind_eq_ok] at hsetup
      obtain ⟨computed, hcomputed, hrest⟩ := hsetup
      cases computed with
      | none =>
          simp only [pure, Except.pure, Except.ok.injEq] at hrest
          rw [← hrest] at hsize
          cases hsize
      | some found =>
          dsimp only at hrest
          split at hrest
          · simp only [pure, Except.pure, Except.ok.injEq] at hrest
            rw [← hrest] at hsize
            cases hsize
          · simp only [checked_bind_eq_ok] at hrest
            obtain ⟨⟨status, table⟩, -, hlast⟩ := hrest
            dsimp only at hlast
            split at hlast
            · simp only [pure, Except.pure, Except.ok.injEq] at hlast
              rw [← hlast] at hsize
              cases hsize
            · simp only [pure, Except.pure, Except.ok.injEq] at hlast
              rw [← hlast] at hsize
              rw [hcomputed, ← hsize]

end Andor2k
