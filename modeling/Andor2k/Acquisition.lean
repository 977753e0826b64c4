/-
get_image: from an accepted command to the files.  Each scan function is followed
statement by statement through the calls it makes; its threads are a model of their own.
-/
import Andor2k.SaveAsFits
import Andor2k.Daemon

namespace Andor2k

open CText

namespace Acquisition

/-- GetAcquiredData, GetMostRecentImage, or GetImages with the first and the last image it is
asked for. -/
inductive Retrieval where
  | acquiredData
  | mostRecentImage
  | images (first last : Int)
deriving DecidableEq

/-- What an `image` command leads to, in order.  `retrieved` is a call that copies an image,
with the number of elements passed to it; `filed` is a FITS file for an exposure, by its number
in the series.  Messages stand without their time stamps. -/
inductive ScanEvent where
  | allocated (elements : Nat)
  | startAcquisition
  | abortAcquisition
  | retrieved (call : Retrieval) (size : Int)
  | filed (exposure : Nat) (file : SavedExposure)
  | sent (message : Text)
  | deleted (elements : Nat)
deriving DecidableEq

structure Scan where
  status : Int
  events : List ScanEvent
deriving DecidableEq

def getAcquiredDataString : DrvCode → Text
  | .success => ascii "Data acquired successefully"
  | .acquiring => ascii "Acquisition in progress"
  | .errorAck => ascii "Unable to communicate with card"
  | .p1invalid => ascii "Invalid pointer"
  | .p2invalid => ascii "Array size is incorrect"
  | .noNewData => ascii "No acquisition has taken place"
  | _ => ascii "Undocumented error"

def startAcquisitionString : DrvCode → Text
  | .success => ascii "Acquisition started"
  | .notInitialized => ascii "System not initialized"
  | .acquiring => ascii "Acquisition in progess"
  | .vxdnotinstalled => ascii "VxX not loaded"
  | .errorAck => ascii "Unable to communicate with card"
  | .inierror => ascii "Error reading 'DETECTOR.INI'"
  | .errorPagelock => ascii "Unable to allocate memory"
  | .invalidFilter => ascii "Filter not available for current acquisition"
  | .binningError => ascii "Range not multiple of horizontal binning"
  | .spoolsetuperror => ascii "Error with spool settings"
  | _ => ascii "unknown/undocumented acquisition state!"

def getImagesString : DrvCode → Text
  | .success => ascii "GetImages succeded"
  | .notInitialized => ascii "System not initialized!"
  | .errorAck => ascii "Unable to communicate with card"
  | .generalErrors => ascii "The series is out of range"
  | .p3invalid => ascii "Invalid pointer"
  | .p4invalid => ascii "Array size incorrect"
  | .noNewData => ascii "There is no new data yet"
  | _ => ascii "unknown/undocumented acquisition state!"

/-- `%d` -/
def printInt (value : Int) : Text :=
  if value < 0 then ascii "-" ++ decimal value.natAbs else decimal value.natAbs

/-- `%d/%d` -/
def printFraction (first second : Int) : Text :=
  printInt first ++ ascii "/" ++ printInt second

/-- A call of the SDK that copies the first `size` pixels of an image to the buffer. -/
def retrieve (imgBuffer : List Int32) (size : Int) (pixels : Nat → Int32) :
    Checked (List Int32) :=
  if size.toNat ≤ imgBuffer.length then
    .ok ((List.range size.toNat).map pixels ++ imgBuffer.drop size.toNat)
  else .error .outOfBounds

def mulInt (first second : Int) : Checked Int := checkInt (first * second)

/-- What surrounds the file of one exposure. -/
structure FileAnswers where
  surroundings : Surroundings
  cfitsio : CfitsioAnswers

structure SingleAnswers where
  startAcquisition : DrvCode
  waitForAcquisition : DrvCode
  abortSet : Bool
  getAcquiredData : DrvCode
  pixels : Nat → Int32
  reports : List Text
  file : FileAnswers

/-- The camera and the file system for one image of a series.  `newImage` tells whether
GetNumberNewImages shows a new image before the polling loop gives up. -/
structure RtaTurn where
  waitForAcquisition : DrvCode
  abortSet : Bool
  newImage : Bool
  getImages : DrvCode
  pixels : Nat → Int32
  file : FileAnswers

/-- `curImgInSeries` is what an earlier series has left in the global of that name. -/
structure RtaAnswers where
  startAcquisition : DrvCode
  turns : Nat → RtaTurn
  reports : List Text
  curImgInSeries : Int

/-- One round of the loop of a kinetic series: `totalAcquired` is the number
GetTotalNumberImagesAcquired stores, `mostRecent` the number of the exposure that
GetMostRecentImage copies. -/
structure KineticTurn where
  reports : List Text
  sigAbortSet : Bool
  sigInterruptSet : Bool
  waitForAcquisition : DrvCode
  totalAcquired : Int32
  getMostRecentImage : DrvCode
  mostRecent : Nat
  pixels : Nat → Int32
  file : FileAnswers

structure ScanAnswers where
  single : SingleAnswers
  rta : RtaAnswers
  kinetic : List KineticTurn

/-- `std::numeric_limits<int>::max()`, for an abort and for an interrupt. -/
def abortExitStatus : Int := 2 ^ 31 - 1
def interruptExitStatus : Int := 2 ^ 31 - 1

/-- What the reporters send: a constant part, and the progress. -/
def singleReport (progress : Text) : ScanEvent :=
  .sent (ascii "info:Acquiring image ...;status:Acquiring;image 1/1" ++ progress)

def seriesReport (progress : Text) : ScanEvent :=
  .sent (ascii "info:Acquiring image series..." ++ progress)

def threadReport (progress : Text) : ScanEvent :=
  .sent (ascii "info:acquiring image ...;status:acquiring;image:" ++ progress)

section Scans

variable (drvNumber : DrvCode → Nat) (params : AndorParameters) (fheaders : FitsHeaders)
  (xpixels ypixels : Int)

/-- `save_as_fits`, with the events of the call. -/
def saveImage (file : FileAnswers) (exposure : Nat) (imgBuffer : List Int32) :
    Checked (SavedExposure × List ScanEvent) := do
  let saved ← saveAsFits params file.surroundings file.cfitsio fheaders xpixels.toNat
    ypixels.toNat imgBuffer
  let filed :=
    if saved.filename = none then [.abortAcquisition] else [.filed exposure saved]
  return (saved, filed ++ saved.sent.map .sent)

def getSingleScan (answers : SingleAnswers) (imgBuffer : List Int32) : Checked Scan := do
  if answers.startAcquisition ≠ .success then
    return ⟨1, [.startAcquisition,
      .sent (ascii "done;error:1;info:start acquisition error (" ++
        startAcquisitionString answers.startAcquisition ++ ascii ")"),
      .abortAcquisition]⟩
  let reported := .startAcquisition :: answers.reports.map singleReport
  let status := answers.waitForAcquisition
  if status ≠ .success then
    let message :=
      if answers.abortSet then
        ascii "done;status:unfinished (abort called by user);error:" ++
          decimal (drvNumber status)
      else
        ascii "done;status:failed/error while waiting acquisition;error:" ++
          decimal (drvNumber status)
    return ⟨1, reported ++ [.abortAcquisition, .sent message]⟩
  let size ← mulInt xpixels ypixels
  let error := answers.getAcquiredData
  if error ≠ .success then
    return ⟨2, reported ++ [.retrieved .acquiredData size, .abortAcquisition,
      .sent (ascii "done;status:error (failed getting acquired data, " ++
        getAcquiredDataString error ++ ascii ");error:" ++ decimal (drvNumber error))]⟩
  let imgBuffer ← retrieve imgBuffer size answers.pixels
  let acquired := [.retrieved .acquiredData size,
    .sent (ascii "info:image data acquired;status:saving to FITS ...;image:1/1")]
  let (saved, saving) ← saveImage params fheaders xpixels ypixels answers.file 1 imgBuffer
  if saved.status ≠ 0 then return ⟨1, reported ++ acquired ++ saving⟩
  return ⟨0, reported ++ acquired ++ saving ++
    [.sent (ascii "done;error:0;info:FITS " ++ saved.filename.getD [] ++
      ascii ";status:image saving done")]⟩

/-- One image of a series that runs till it is aborted: the events, the image buffer and,
if the series ends with it, the status it returns. -/
def rtaTurn (turn : RtaTurn) (curImgInSeries : Nat) (imgBuffer : List Int32) :
    Checked (Scan × List Int32) := do
  let ofSeries := printFraction curImgInSeries params.numImages.toInt
  let status := turn.waitForAcquisition
  if status ≠ .success then
    let message :=
      if turn.abortSet then
        ascii "done;status:unfinished " ++ ofSeries ++
          ascii " (abort called by user);error:" ++ decimal (drvNumber status)
      else
        ascii "done;status:failed/error " ++ ofSeries ++
          ascii " while waiting acquisition;error:" ++ decimal (drvNumber status)
    return (⟨1, [.abortAcquisition, .sent message]⟩, imgBuffer)
  if ¬ turn.newImage then
    return (⟨1, [.abortAcquisition,
      .sent (ascii "done;status:failed/error " ++ ofSeries ++
        ascii " while waiting acquisition;error:" ++ decimal (drvNumber status))]⟩,
      imgBuffer)
  let size ← mulInt xpixels ypixels
  let fetched := .retrieved (.images curImgInSeries curImgInSeries) size
  let error := turn.getImages
  if error ≠ .success then
    return (⟨1, [fetched, .abortAcquisition,
      .sent (ascii "done;status:failed/error image " ++ ofSeries ++
        ascii " while retrieving data (" ++ getImagesString error ++ ascii ");error:" ++
        decimal (drvNumber error))]⟩, imgBuffer)
  let imgBuffer ← retrieve imgBuffer size turn.pixels
  let (saved, saving) ← saveImage params fheaders xpixels ypixels turn.file curImgInSeries
    imgBuffer
  if saved.status ≠ 0 then
    return (⟨1, fetched :: saving ++ [.abortAcquisition]⟩, imgBuffer)
  return (⟨0, fetched :: saving⟩, imgBuffer)

/-- The images from number `curimg + 1` on, `left` of them. -/
def rtaLoop (turns : Nat → RtaTurn) : Nat → Nat → List Int32 → Checked Scan
  | 0, _, _ => .ok ⟨0, []⟩
  | left + 1, curimg, imgBuffer => do
      let (image, imgBuffer) ← rtaTurn drvNumber params fheaders xpixels ypixels
        (turns curimg) (curimg + 1) imgBuffer
      if image.status ≠ 0 then return image
      let later ← rtaLoop turns left (curimg + 1) imgBuffer
      return ⟨later.status, image.events ++ later.events⟩

def getRtaScan (answers : RtaAnswers) (imgBuffer : List Int32) : Checked Scan := do
  if answers.startAcquisition ≠ .success then
    return ⟨1, [.startAcquisition,
      .sent (ascii "done;error:" ++ decimal (drvNumber answers.startAcquisition) ++
        ascii ";info:start acquisition error, image " ++ printFraction 1 1),
      .abortAcquisition]⟩
  let reported := .startAcquisition :: answers.reports.map seriesReport
  let numImages := params.numImages.toInt
  let series ← rtaLoop drvNumber params fheaders xpixels ypixels answers.turns numImages.toNat
    0 imgBuffer
  if series.status ≠ 0 then return ⟨series.status, reported ++ series.events⟩
  let curImgInSeries := if 1 ≤ numImages then numImages else answers.curImgInSeries
  return ⟨0, reported ++ series.events ++
    [.sent (ascii "done;error:0;info:exposure series ok;status:acquired and saved " ++
      printFraction curImgInSeries numImages ++ ascii " images"),
      .abortAcquisition]⟩

/-- The file of one exposure of a kinetic series; nothing is sent for it. -/
def saveKineticImage (file : FileAnswers) (exposure : Nat) (imgBuffer : List Int32) :
    Checked Scan := do
  match ← getNextFitsFilename params file.surroundings.isDirectory file.surroundings.date
      file.surroundings.listing with
  | none => return ⟨1, [.abortAcquisition]⟩
  | some fitsFilename =>
      let filename ← fitsFilename.text
      let fits ← FitsImage.construct filename xpixels.toNat ypixels.toNat
      let (status, image) ← fits.write file.cfitsio imgBuffer
      if status ≠ 0 then
        return ⟨2, [.filed exposure ⟨2, some filename, image, [], []⟩, .abortAcquisition]⟩
      let (_, keys) := FitsImage.applyHeaders file.cfitsio fheaders false
      return ⟨0, [.filed exposure ⟨0, some filename, image, keys, []⟩]⟩

/-- One round of the loop of a kinetic series. -/
def kineticTurn (turn : KineticTurn) (imgBuffer : List Int32) :
    Checked (Scan × List Int32) := do
  let reported := turn.reports.map threadReport
  if turn.sigAbortSet ∨ turn.sigInterruptSet then
    let status := if turn.sigAbortSet then abortExitStatus else interruptExitStatus
    return (⟨status, reported⟩, imgBuffer)
  if turn.waitForAcquisition ≠ .success then
    return (⟨10, reported ++ [.abortAcquisition]⟩, imgBuffer)
  let size ← mulInt xpixels ypixels
  let err := turn.getMostRecentImage
  if err ≠ .success then
    return (⟨10, reported ++ [.retrieved .mostRecentImage size, .abortAcquisition,
      .sent (ascii "done;error:10;status:error;error:" ++ decimal (drvNumber err))]⟩,
      imgBuffer)
  let imgBuffer ← retrieve imgBuffer size turn.pixels
  let saved ← saveKineticImage params fheaders xpixels ypixels turn.file turn.mostRecent
    imgBuffer
  return (⟨saved.status, reported ++ .retrieved .mostRecentImage size :: saved.events⟩, imgBuffer)

/-- The loop, from `lAcquired` on; `none` as long as it has not come to its end.  Only the
camera lets it come to an end, since `lAcquired` is what the camera has counted. -/
def kineticLoop : List KineticTurn → Int32 → List Int32 → Checked (Option Scan)
  | turns, lAcquired, imgBuffer =>
      if params.numImages ≤ lAcquired then
        .ok (some ⟨0,
          [.sent (ascii "done;error:0;info:images acquired and saved " ++
            printInt lAcquired.toInt),
            .abortAcquisition]⟩)
      else
        match turns with
        | [] => .ok none
        | turn :: later => do
            let (image, imgBuffer) ← kineticTurn drvNumber params fheaders xpixels ypixels
              turn imgBuffer
            if image.status ≠ 0 then return some image
            let rest ← kineticLoop later turn.totalAcquired imgBuffer
            return rest.map fun scan => ⟨scan.status, image.events ++ scan.events⟩

def getKineticScan (turns : List KineticTurn) (imgBuffer : List Int32) :
    Checked (Option Scan) := do
  let series ← kineticLoop drvNumber params fheaders xpixels ypixels turns 0 imgBuffer
  return series.map fun scan => ⟨scan.status, .startAcquisition :: scan.events⟩

/-- The scan for the acquisition mode: `none` when it has not returned. -/
def getAcquisition (answers : ScanAnswers) (imgBuffer : List Int32) :
    Checked (Option Scan) :=
  if params.acquisitionMode = .singleScan then
    (getSingleScan drvNumber params fheaders xpixels ypixels answers.single imgBuffer).map some
  else if params.acquisitionMode = .runTillAbort then
    (getRtaScan drvNumber params fheaders xpixels ypixels answers.rta imgBuffer).map some
  else if params.acquisitionMode = .kineticSeries then
    getKineticScan drvNumber params fheaders xpixels ypixels answers.kinetic imgBuffer
  else .ok (some ⟨10, []⟩)

end Scans

/-- The message that ends the conversation about an image. -/
def isDone : ScanEvent → Bool
  | .sent message => startsWith message (ascii "done;")
  | _ => false

section Cases

variable {drvNumber : DrvCode → Nat} {params : AndorParameters} {fheaders : FitsHeaders}
  {xpixels ypixels : Int} {imgBuffer filled : List Int32} {scan image : Scan}

/-- A single scan ends before, while or after it waits for the exposure, or with the call
that saves it. -/
theorem getSingleScan_cases {answers : SingleAnswers}
    (hscan : getSingleScan drvNumber params fheaders xpixels ypixels answers imgBuffer =
      .ok scan) :
    let reported := .startAcquisition :: answers.reports.map singleReport
    (answers.startAcquisition ≠ .success ∧ ∃ message, isDone (.sent message) = true ∧
      scan = ⟨1, [.startAcquisition, .sent message, .abortAcquisition]⟩) ∨
    (answers.startAcquisition = .success ∧ answers.waitForAcquisition ≠ .success ∧
      ∃ message, isDone (.sent message) = true ∧
        scan = ⟨1, reported ++ [.abortAcquisition, .sent message]⟩) ∨
    (answers.startAcquisition = .success ∧ answers.waitForAcquisition = .success ∧
      ∃ size, mulInt xpixels ypixels = .ok size ∧
        ((answers.getAcquiredData ≠ .success ∧ ∃ message, isDone (.sent message) = true ∧
            scan = ⟨2, reported ++
              [.retrieved .acquiredData size, .abortAcquisition, .sent message]⟩) ∨
          (answers.getAcquiredData = .success ∧ ∃ filled saved saving message,
            retrieve imgBuffer size answers.pixels = .ok filled ∧
            saveImage params fheaders xpixels ypixels answers.file 1 filled =
              .ok (saved, saving) ∧
            isDone (.sent message) = true ∧
            let acquired := [.retrieved .acquiredData size,
              .sent (ascii "info:image data acquired;status:saving to FITS ...;image:1/1")]
            scan =
              if saved.status ≠ 0 then ⟨1, reported ++ acquired ++ saving⟩
              else ⟨0, reported ++ acquired ++ saving ++ [.sent message]⟩))) := by
  rw [getSingleScan] at hscan
  split at hscan
  · rename_i hstart
    exact Or.inl ⟨hstart, _, rfl, (Except.ok.inj hscan).symm⟩
  · rename_i hstart
    dsimp only at hscan
    split at hscan
    · rename_i hwait
      refine Or.inr (Or.inl ⟨not_not.mp hstart, hwait, _, ?_, (Except.ok.inj hscan).symm⟩)
      split
      · rfl
      · rfl
    · rename_i hwait
      obtain ⟨size, hsize, hscan⟩ := checked_bind_eq_ok.mp hscan
      refine Or.inr (Or.inr ⟨not_not.mp hstart, not_not.mp hwait, size, hsize, ?_⟩)
      split at hscan
      · rename_i hdata
        exact Or.inl ⟨hdata, _, rfl, (Except.ok.inj hscan).symm⟩
      · rename_i hdata
        obtain ⟨filled, hfilled, hscan⟩ := checked_bind_eq_ok.mp hscan
        obtain ⟨⟨saved, saving⟩, hsaved, hscan⟩ := checked_bind_eq_ok.mp hscan
        refine Or.inr ⟨not_not.mp hdata, filled, saved, saving,
          ascii "done;error:0;info:FITS " ++ saved.filename.getD [] ++
            ascii ";status:image saving done", hfilled, hsaved, rfl, ?_⟩
        dsimp only at hscan ⊢
        split at hscan
        · rename_i hfailed
          rw [if_pos hfailed]
          exact (Except.ok.inj hscan).symm
        · rename_i hsucceeded
          rw [if_neg hsucceeded]
          exact (Except.ok.inj hscan).symm

/-- An image of a series cannot be waited for, does not come, cannot be fetched, or is
handed to the call that saves it. -/
theorem rtaTurn_cases {turn : RtaTurn} {curImgInSeries : Nat}
    (himage : rtaTurn drvNumber params fheaders xpixels ypixels turn curImgInSeries imgBuffer =
      .ok (image, filled)) :
    ((turn.waitForAcquisition ≠ .success ∨ turn.newImage = false) ∧ filled = imgBuffer ∧
      ∃ message, isDone (.sent message) = true ∧
        image = ⟨1, [.abortAcquisition, .sent message]⟩) ∨
    (turn.waitForAcquisition = .success ∧ turn.newImage = true ∧
      ∃ size, mulInt xpixels ypixels = .ok size ∧
        let fetched := .retrieved (.images curImgInSeries curImgInSeries) size
        ((turn.getImages ≠ .success ∧ filled = imgBuffer ∧
            ∃ message, isDone (.sent message) = true ∧
              image = ⟨1, [fetched, .abortAcquisition, .sent message]⟩) ∨
          (turn.getImages = .success ∧ ∃ saved saving,
            retrieve imgBuffer size turn.pixels = .ok filled ∧
            saveImage params fheaders xpixels ypixels turn.file curImgInSeries filled =
              .ok (saved, saving) ∧
            image =
              if saved.status ≠ 0 then ⟨1, fetched :: saving ++ [.abortAcquisition]⟩
              else ⟨0, fetched :: saving⟩))) := by
  rw [rtaTurn] at himage
  dsimp only at himage
  split at himage
  · rename_i hwait
    obtain ⟨rfl, rfl⟩ := Prod.mk.inj (Except.ok.inj himage)
    refine Or.inl ⟨Or.inl hwait, rfl, _, ?_, rfl⟩
    split
    · rfl
    · rfl
  · rename_i hwait
    split at himage
    · rename_i hnew
      obtain ⟨rfl, rfl⟩ := Prod.mk.inj (Except.ok.inj himage)
      exact Or.inl ⟨Or.inr (Bool.not_eq_true _ ▸ hnew), rfl, _, rfl, rfl⟩
    · rename_i hnew
      obtain ⟨size, hsize, himage⟩ := checked_bind_eq_ok.mp himage
      refine Or.inr ⟨not_not.mp hwait, not_not.mp hnew, size, hsize, ?_⟩
      split at himage
      · rename_i hfetch
        obtain ⟨rfl, rfl⟩ := Prod.mk.inj (Except.ok.inj himage)
        exact Or.inl ⟨hfetch, rfl, _, rfl, rfl⟩
      · rename_i hfetch
        obtain ⟨buffer, hbuffer, himage⟩ := checked_bind_eq_ok.mp himage
        obtain ⟨⟨saved, saving⟩, hsaved, himage⟩ := checked_bind_eq_ok.mp himage
        dsimp only at himage
        split at himage
        · rename_i hfailed
          obtain ⟨rfl, rfl⟩ := Prod.mk.inj (Except.ok.inj himage)
          exact Or.inr ⟨not_not.mp hfetch, saved, saving, hbuffer, hsaved, (if_pos hfailed).symm⟩
        · rename_i hsucceeded
          obtain ⟨rfl, rfl⟩ := Prod.mk.inj (Except.ok.inj himage)
          exact Or.inr ⟨not_not.mp hfetch, saved, saving, hbuffer, hsaved,
            (if_neg hsucceeded).symm⟩

theorem saveKineticImage_cases {file : FileAnswers} {exposure : Nat} {saved : Scan}
    (hsaved : saveKineticImage params fheaders xpixels ypixels file exposure imgBuffer =
      .ok saved) :
    (getNextFitsFilename params file.surroundings.isDirectory file.surroundings.date
        file.surroundings.listing = .ok none ∧ saved = ⟨1, [.abortAcquisition]⟩) ∨
      ∃ fitsFilename filename fits status written,
        getNextFitsFilename params file.surroundings.isDirectory file.surroundings.date
          file.surroundings.listing = .ok (some fitsFilename) ∧
        FitsImage.construct filename xpixels.toNat ypixels.toNat = .ok fits ∧
        fits.write file.cfitsio imgBuffer = .ok (status, written) ∧
        ((status ≠ 0 ∧ saved =
            ⟨2, [.filed exposure ⟨2, some filename, written, [], []⟩, .abortAcquisition]⟩) ∨
          (status = 0 ∧ saved = ⟨0, [.filed exposure ⟨0, some filename, written,
            (FitsImage.applyHeaders file.cfitsio fheaders false).2, []⟩]⟩)) := by
  obtain ⟨found, hfound, hsaved⟩ := checked_bind_eq_ok.mp hsaved
  cases found with
  | none => exact Or.inl ⟨hfound, (Except.ok.inj hsaved).symm⟩
  | some fitsFilename =>
      obtain ⟨filename, -, hsaved⟩ := checked_bind_eq_ok.mp hsaved
      obtain ⟨fits, hfits, hsaved⟩ := checked_bind_eq_ok.mp hsaved
      obtain ⟨⟨status, written⟩, hwrite, hsaved⟩ := checked_bind_eq_ok.mp hsaved
      refine Or.inr ⟨fitsFilename, filename, fits, status, written, hfound, hfits, hwrite, ?_⟩
      dsimp only at hsaved
      split at hsaved
      · rename_i hfailed
        exact Or.inl ⟨hfailed, (Except.ok.inj hsaved).symm⟩
      · rename_i hsucceeded
        exact Or.inr ⟨not_not.mp hsucceeded, (Except.ok.inj hsaved).symm⟩

/-- A round of a kinetic series ends by a signal, without an exposure, without its data, or
with the file it writes. -/
theorem kineticTurn_cases {turn : KineticTurn}
    (himage : kineticTurn drvNumber params fheaders xpixels ypixels turn imgBuffer =
      .ok (image, filled)) :
    let reported := turn.reports.map threadReport
    ((turn.sigAbortSet ∨ turn.sigInterruptSet) ∧ filled = imgBuffer ∧
      image = ⟨2 ^ 31 - 1, reported⟩) ∨
    (¬ (turn.sigAbortSet ∨ turn.sigInterruptSet) ∧
      ((turn.waitForAcquisition ≠ .success ∧ filled = imgBuffer ∧
          image = ⟨10, reported ++ [.abortAcquisition]⟩) ∨
        (turn.waitForAcquisition = .success ∧ ∃ size, mulInt xpixels ypixels = .ok size ∧
          ((turn.getMostRecentImage ≠ .success ∧ filled = imgBuffer ∧
              ∃ message, isDone (.sent message) = true ∧
                image = ⟨10, reported ++
                  [.retrieved .mostRecentImage size, .abortAcquisition, .sent message]⟩) ∨
            (turn.getMostRecentImage = .success ∧ ∃ saved,
              retrieve imgBuffer size turn.pixels = .ok filled ∧
              saveKineticImage params fheaders xpixels ypixels turn.file turn.mostRecent
                filled = .ok saved ∧
              image = ⟨saved.status, reported ++
                .retrieved .mostRecentImage size :: saved.events⟩))))) := by
  rw [kineticTurn] at himage
  dsimp only at himage
  split at himage
  · rename_i hsignal
    obtain ⟨rfl, rfl⟩ := Prod.mk.inj (Except.ok.inj himage)
    refine Or.inl ⟨hsignal, rfl, ?_⟩
    rw [abortExitStatus, interruptExitStatus, ite_self]
  · rename_i hsignal
    refine Or.inr ⟨hsignal, ?_⟩
    split at himage
    · rename_i hwait
      obtain ⟨rfl, rfl⟩ := Prod.mk.inj (Except.ok.inj himage)
      exact Or.inl ⟨hwait, rfl, rfl⟩
    · rename_i hwait
      obtain ⟨size, hsize, himage⟩ := checked_bind_eq_ok.mp himage
      refine Or.inr ⟨not_not.mp hwait, size, hsize, ?_⟩
      split at himage
      · rename_i hfetch
        obtain ⟨rfl, rfl⟩ := Prod.mk.inj (Except.ok.inj himage)
        exact Or.inl ⟨hfetch, rfl, _, rfl, rfl⟩
      · rename_i hfetch
        obtain ⟨buffer, hbuffer, himage⟩ := checked_bind_eq_ok.mp himage
        obtain ⟨saved, hsaved, himage⟩ := checked_bind_eq_ok.mp himage
        obtain ⟨rfl, rfl⟩ := Prod.mk.inj (Except.ok.inj himage)
        exact Or.inr ⟨not_not.mp hfetch, saved, hbuffer, hsaved, rfl⟩

/-- A round and what comes after it. -/
theorem kineticLoop_cons {turn : KineticTurn} {later : List KineticTurn} {lAcquired : Int32}
    (hmore : ¬ params.numImages ≤ lAcquired)
    (hseries : kineticLoop drvNumber params fheaders xpixels ypixels (turn :: later) lAcquired
      imgBuffer = .ok (some scan)) :
    ∃ image filled,
      kineticTurn drvNumber params fheaders xpixels ypixels turn imgBuffer =
        .ok (image, filled) ∧
      ((image.status ≠ 0 ∧ scan = image) ∨
        (image.status = 0 ∧ ∃ rest,
          kineticLoop drvNumber params fheaders xpixels ypixels later turn.totalAcquired
            filled = .ok (some rest) ∧
          scan = ⟨rest.status, image.events ++ rest.events⟩)) := by
  rw [kineticLoop, if_neg hmore] at hseries
  obtain ⟨⟨image, filled⟩, himage, hseries⟩ := checked_bind_eq_ok.mp hseries
  refine ⟨image, filled, himage, ?_⟩
  dsimp only at hseries
  split at hseries
  · rename_i hfailed
    exact Or.inl ⟨hfailed, (Option.some.inj (Except.ok.inj hseries)).symm⟩
  · rename_i hgoes
    obtain ⟨found, hrest, hseries⟩ := checked_bind_eq_ok.mp hseries
    obtain ⟨rest, rfl, rfl⟩ := Option.map_eq_some_iff.mp (Except.ok.inj hseries)
    exact Or.inr ⟨not_not.mp hgoes, rest, hrest, rfl⟩

/-- A series that runs till it is aborted, once it has started. -/
theorem getRtaScan_cases {answers : RtaAnswers}
    (hscan : getRtaScan drvNumber params fheaders xpixels ypixels answers imgBuffer =
      .ok scan) :
    let reported := .startAcquisition :: answers.reports.map seriesReport
    (answers.startAcquisition ≠ .success ∧ ∃ message, isDone (.sent message) = true ∧
      scan = ⟨1, [.startAcquisition, .sent message, .abortAcquisition]⟩) ∨
    (answers.startAcquisition = .success ∧ ∃ series,
      rtaLoop drvNumber params fheaders xpixels ypixels answers.turns
        params.numImages.toInt.toNat 0 imgBuffer = .ok series ∧
      ((series.status ≠ 0 ∧ scan = ⟨series.status, reported ++ series.events⟩) ∨
        (series.status = 0 ∧ ∃ message, isDone (.sent message) = true ∧
          scan = ⟨0, reported ++ series.events ++ [.sent message, .abortAcquisition]⟩))) := by
  rw [getRtaScan] at hscan
  split at hscan
  · rename_i hstart
    exact Or.inl ⟨hstart, _, rfl, (Except.ok.inj hscan).symm⟩
  · rename_i hstart
    obtain ⟨series, hseries, hscan⟩ := checked_bind_eq_ok.mp hscan
    refine Or.inr ⟨not_not.mp hstart, series, hseries, ?_⟩
    split at hscan
    · rename_i hfailed
      exact Or.inl ⟨hfailed, (Except.ok.inj hscan).symm⟩
    · rename_i hsucceeded
      exact Or.inr ⟨not_not.mp hsucceeded, _, rfl, (Except.ok.inj hscan).symm⟩

end Cases

/-- The array for an image of the computed size; `none` is the null pointer. -/
def imageArray : Option (Nat × Nat) → Checked (Option (List Int32))
  | none => .ok none
  | some (xnumpixels, ynumpixels) => do
      let imagePixels ← mulInt xnumpixels ynumpixels
      return some (List.replicate imagePixels.toNat 0)

/-- `setup_acquisition` with the array it allocates. -/
def setupImage (params : AndorParameters) (answers : SetupAnswers) (headers : FitsHeaders) :
    Checked (Setup × Option (List Int32)) := do
  let setup ← setupAcquisition params answers headers
  let imgMem ← imageArray setup.size
  return (setup, imgMem)

/-- `new at_32[...]` -/
def allocation : Option (List Int32) → List ScanEvent
  | none => []
  | some array => [.allocated array.length]

/-- `delete[] data` -/
def deletion : Option (List Int32) → List ScanEvent
  | none => []
  | some array => [.deleted array.length]

structure ImageRun where
  status : Int
  params : AndorParameters
  events : List ScanEvent
deriving DecidableEq

/-- `none` when the acquisition has not returned. -/
def getImage (drvNumber : DrvCode → Nat) (setupAnswers : SetupAnswers)
    (answers : ScanAnswers) (command : CommandBuffer) (params : AndorParameters) :
    Checked (Option ImageRun) := do
  let reply ← resolveImageParameters command params
  if reply.status ≠ 0 then return some ⟨1, reply.params, []⟩
  let (setup, data) ← setupImage reply.params setupAnswers (FitsHeaders.construct 100)
  if setup.status ≠ 0 then
    return some ⟨2, reply.params, allocation data ++ deletion data⟩
  match setup.size, data with
  | some (width, height), some array =>
      let scan ← getAcquisition drvNumber reply.params setup.headers width height answers array
      return scan.map fun scan =>
        ⟨if scan.status ≠ 0 then 3 else 0, reply.params,
          allocation data ++ scan.events ++ deletion data⟩
  -- neither the size nor the array would be set
  | _, _ => .error .outOfBounds

/-- The command is refused, its set-up fails, or a scan follows. -/
theorem getImage_cases {drvNumber : DrvCode → Nat} {setupAnswers : SetupAnswers}
    {answers : ScanAnswers} {command : CommandBuffer} {params : AndorParameters}
    {run : ImageRun}
    (hrun : getImage drvNumber setupAnswers answers command params = .ok (some run)) :
    (∃ status, resolveImageParameters command params = .ok ⟨status, run.params⟩ ∧
        status ≠ 0 ∧ run.status = 1 ∧ run.events = []) ∨
      (resolveImageParameters command params = .ok ⟨0, run.params⟩ ∧
        ∃ setup data, setupImage run.params setupAnswers (FitsHeaders.construct 100) =
            .ok (setup, data) ∧
          ((setup.status ≠ 0 ∧ run.status = 2 ∧
              run.events = allocation data ++ deletion data) ∨
            (setup.status = 0 ∧ ∃ width height array scan,
              setup.size = some (width, height) ∧ data = some array ∧
              getAcquisition drvNumber run.params setup.headers width height answers array =
                .ok (some scan) ∧
              run.status = (if scan.status ≠ 0 then 3 else 0) ∧
              run.events = allocation data ++ scan.events ++ deletion data))) := by
  obtain ⟨⟨status, next⟩, hreply, hrun⟩ := checked_bind_eq_ok.mp hrun
  dsimp only at hrun
  split at hrun
  · rename_i hrefused
    rw [← Option.some.inj (Except.ok.inj hrun)]
    exact Or.inl ⟨status, hreply, hrefused, rfl, rfl⟩
  · rename_i haccepted
    obtain rfl : status = 0 := not_not.mp haccepted
    obtain ⟨⟨setup, data⟩, hsetup, hrun⟩ := checked_bind_eq_ok.mp hrun
    dsimp only at hrun
    split at hrun
    · rename_i hfailed
      rw [← Option.some.inj (Except.ok.inj hrun)]
      exact Or.inr ⟨hreply, setup, data, hsetup, Or.inl ⟨hfailed, rfl, rfl⟩⟩
    · rename_i hsucceeded
      split at hrun
      · rename_i width height array hsize
        obtain ⟨found, hscan, hrun⟩ := checked_bind_eq_ok.mp hrun
        obtain ⟨scan, rfl, rfl⟩ := Option.map_eq_some_iff.mp (Except.ok.inj hrun)
        exact Or.inr ⟨hreply, setup, _, hsetup, Or.inr ⟨not_not.mp hsucceeded,
          width, height, array, scan, hsize, rfl, hscan, rfl, rfl⟩⟩
      · cases hrun

end Acquisition

end Andor2k
