/-
save_as_fits: one exposure in a FITS file of its own.
-/
import Andor2k.FitsFilenames
import Andor2k.FitsImage
import Andor2k.SetupAcquisition

namespace Andor2k

open CText

/-- What `save_as_fits` returns and leaves behind: the file's name and content, and the
messages to the client, without the time stamp every message ends with. -/
structure SavedExposure where
  status : Int
  filename : Option Text
  image : Option ImageArray
  keys : List KeyUpdate
  sent : List Text
deriving DecidableEq

/-- What the file system and the clock show while the file name is formed. -/
structure Surroundings where
  isDirectory : Bool
  date : Option UtcDate
  listing : List Text

def saveAsFits (params : AndorParameters) (surroundings : Surroundings)
    (cfitsio : CfitsioAnswers) (fheaders : FitsHeaders) (xpixels ypixels : Nat)
    (imgBuffer : List Int32) : Checked SavedExposure := do
  match ← getNextFitsFilename params surroundings.isDirectory surroundings.date
      surroundings.listing with
  | none =>
      return ⟨1, none, none, [], [ascii "done;status:error saving FITS file;error:1"]⟩
  | some fitsFilename =>
      let filename ← fitsFilename.text
      let fits ← FitsImage.construct filename xpixels ypixels
      let (status, image) ← fits.write cfitsio imgBuffer
      if status ≠ 0 then
        return ⟨1, some filename, image, [],
          [ascii "done;error:1;status:error while saving to FITS;error:15"]⟩
      let (_, keys) := FitsImage.applyHeaders cfitsio fheaders false
      return ⟨0, some filename, image, keys,
        [ascii "info:image saved to FITS;status:FITS file created " ++ filename]⟩

/-- There is no name for the file, it is not written, or the exposure is saved. -/
theorem saveAsFits_cases {params : AndorParameters} {surroundings : Surroundings}
    {cfitsio : CfitsioAnswers} {fheaders : FitsHeaders} {xpixels ypixels : Nat}
    {imgBuffer : List Int32} {saved : SavedExposure}
    (hsaved : saveAsFits params surroundings cfitsio fheaders xpixels ypixels imgBuffer =
      .ok saved) :
    saved = ⟨1, none, none, [], [ascii "done;status:error saving FITS file;error:1"]⟩ ∨
      ∃ filename fits status image,
        FitsImage.construct filename xpixels ypixels = .ok fits ∧
        fits.write cfitsio imgBuffer = .ok (status, image) ∧
        ((status ≠ 0 ∧ saved = ⟨1, some filename, image, [],
            [ascii "done;error:1;status:error while saving to FITS;error:15"]⟩) ∨
          (status = 0 ∧ saved = ⟨0, some filename, image,
            (FitsImage.applyHeaders cfitsio fheaders false).2,
            [ascii "info:image saved to FITS;status:FITS file created " ++ filename]⟩)) := by
  obtain ⟨found, -, hsaved⟩ := checked_bind_eq_ok.mp hsaved
  cases found with
  | none => exact Or.inl (Except.ok.inj hsaved).symm
  | some fitsFilename =>
      obtain ⟨filename, -, hsaved⟩ := checked_bind_eq_ok.mp hsaved
      obtain ⟨fits, hfits, hsaved⟩ := checked_bind_eq_ok.mp hsaved
      obtain ⟨⟨status, image⟩, hwrite, hsaved⟩ := checked_bind_eq_ok.mp hsaved
      refine Or.inr ⟨filename, fits, status, image, hfits, hwrite, ?_⟩
      dsimp only at hsaved
      split at hsaved
      · rename_i hfailed
        exact Or.inl ⟨hfailed, (Except.ok.inj hsaved).symm⟩
      · rename_i hwritten
        exact Or.inr ⟨not_not.mp hwritten, (Except.ok.inj hsaved).symm⟩

/-- The image in the file is the one in the buffer: pixel `(x, y)`, which lies at
`y * width + x`, is at position `x` of the first axis and `y` of the second. -/
structure ShowsBuffer (image : ImageArray) (width height : Nat) (buffer : List Int32) :
    Prop where
  naxis1 : image.naxis1 = width
  naxis2 : image.naxis2 = height
  pixel : ∀ x y, x < width → y < height → image.pixel x y = buffer[y * width + x]?

/-- The image the file holds has its axes the other way round. -/
theorem image_of_saveAsFits {params : AndorParameters} {surroundings : Surroundings}
    {cfitsio : CfitsioAnswers} {fheaders : FitsHeaders} {xpixels ypixels : Nat}
    {imgBuffer : List Int32} {saved : SavedExposure} {image : ImageArray}
    (hsaved : saveAsFits params surroundings cfitsio fheaders xpixels ypixels imgBuffer =
      .ok saved)
    (himage : saved.image = some image) :
    image = ⟨ypixels, xpixels, FitsImage.bitpix, imgBuffer.take (xpixels * ypixels)⟩ := by
  rcases saveAsFits_cases hsaved with rfl | ⟨filename, fits, status, written, hfits, hwrite, hend⟩
  · cases himage
  · have hwritten : written = some image := by
      rcases hend with ⟨-, rfl⟩ | ⟨-, rfl⟩
      · exact himage
      · exact himage
    obtain ⟨hx, hy⟩ := FitsImage.size_of_construct hfits
    rw [hwritten] at hwrite
    rw [FitsImage.image_of_write hwrite, hx, hy]

/-- With equal sides the axes cannot be told apart. -/
theorem showsBuffer_of_square {side : Nat} {buffer : List Int32}
    (hlength : buffer.length = side * side) :
    ShowsBuffer ⟨side, side, FitsImage.bitpix, buffer.take (side * side)⟩ side side
      buffer := by
  constructor
  · rfl
  · rfl
  · intro x y hx hy
    have hall : buffer.take (side * side) = buffer := List.take_of_length_le (by omega)
    rw [ImageArray.pixel, if_pos ⟨hx, hy⟩, hall]

/-- The saved image is the one in the buffer exactly when the binned window has as many
columns as rows. -/
theorem saved_image_shows_buffer_iff {params : AndorParameters} {answers : SetupAnswers}
    {headers : FitsHeaders} {setup : Setup} {width height : Nat}
    (hsetup : setupAcquisition params answers headers = .ok setup)
    (hsize : setup.size = some (width, height)) {buffer : List Int32}
    (hlength : buffer.length = width * height) {surroundings : Surroundings}
    {cfitsio : CfitsioAnswers} {saved : SavedExposure} {image : ImageArray}
    (hsaved : saveAsFits params surroundings cfitsio setup.headers width height buffer =
      .ok saved)
    (himage : saved.image = some image) :
    ShowsBuffer image width height buffer ↔
      (params.imageHend.toInt - params.imageHstart.toInt + 1).tdiv params.imageHbin.toInt =
        (params.imageVend.toInt - params.imageVstart.toInt + 1).tdiv
          params.imageVbin.toInt := by
  obtain ⟨hwidth, hheight⟩ := imageSize_eq_some (imageSize_of_setup hsetup hsize)
  have hwritten := image_of_saveAsFits hsaved himage
  rw [hwidth, hheight, hwritten]
  constructor
  · intro hshows
    have haxis : height = width := hshows.naxis1
    rw [haxis]
  · intro hequal
    have hsquare : width = height := by exact_mod_cast hequal
    subst height
    exact showsBuffer_of_square hlength

/-- Answers of a camera that accepts everything. -/
def willingSetup : SetupAnswers :=
  { setupReadOutMode := 0, setupAcquisitionMode := 0, setFastestRecomendedVhSpeeds := 0
    vsspeed := ⟨0x41800000⟩, hsspeedMhz := ⟨0x40400000⟩
    setShutter := .success, getDetector := .success, xpixels := 2048, ypixels := 2048
    arHeaders := [], getAcquisitionTimings := .success, actualExposure := ⟨0x3DCCCCCD⟩
    getPreAmpGain := .success, factor := ⟨0x3F800000⟩, lcorrNs := fun _ _ => 150000000
    getTemperatureF := .tempStabilized, tempf := ⟨0xC2200000⟩ }

def emptyDirectory : Surroundings := ⟨true, some newYear, []⟩

/-- The default parameters behind an accepted `image` command for a small window. -/
def windowParams (hend vend : Int32) : AndorParameters :=
  { AndorParameters.initial [] with
    imageHend := hend, imageVend := vend, saveDir := AndorParameters.fixedSaveDir }

/-- An exposure from its set-up to its file. -/
def expose (params : AndorParameters) (width height : Nat) (buffer : List Int32) :
    Checked (Setup × SavedExposure) := do
  let setup ← setupAcquisition params willingSetup (FitsHeaders.construct 100)
  let saved ← saveAsFits params emptyDirectory willingCfitsio setup.headers width height
    buffer
  return (setup, saved)

theorem exists_of_expose {params : AndorParameters} {width height : Nat}
    {buffer : List Int32} {size : Option (Nat × Nat)} {image : Option ImageArray}
    (hexpose : (expose params width height buffer).map (fun (setup, saved) =>
      (setup.size, saved.image)) = .ok (size, image)) :
    ∃ setup saved,
      setupAcquisition params willingSetup (FitsHeaders.construct 100) = .ok setup ∧
      setup.size = size ∧
      saveAsFits params emptyDirectory willingCfitsio setup.headers width height buffer =
        .ok saved ∧
      saved.image = image := by
  obtain ⟨⟨setup, saved⟩, hboth, hparts⟩ := checked_map_eq_ok.mp hexpose
  simp only [expose, checked_bind_eq_ok] at hboth
  obtain ⟨first, hsetup, second, hsaved, hpair⟩ := hboth
  simp only [pure, Except.pure, Except.ok.injEq, Prod.mk.injEq] at hpair
  obtain ⟨rfl, rfl⟩ := hpair
  simp only [Prod.mk.injEq] at hparts
  exact ⟨first, second, hsetup, hparts.1, hsaved, hparts.2⟩

theorem square_window_shows_buffer_iff :
    ∃ setup saved image,
      setupAcquisition (windowParams 2 2) willingSetup (FitsHeaders.construct 100) =
        .ok setup ∧
      saveAsFits (windowParams 2 2) emptyDirectory willingCfitsio setup.headers 2 2
        [1, 2, 3, 4] = .ok saved ∧
      saved.image = some image ∧
      (ShowsBuffer image 2 2 [1, 2, 3, 4] ↔
        ((2 : Int32).toInt - (1 : Int32).toInt + 1).tdiv (1 : Int32).toInt =
          ((2 : Int32).toInt - (1 : Int32).toInt + 1).tdiv (1 : Int32).toInt) := by
  have hexpose : (expose (windowParams 2 2) 2 2 [1, 2, 3, 4]).map (fun (setup, saved) =>
      (setup.size, saved.image)) = .ok (some (2, 2), some ⟨2, 2, 32, [1, 2, 3, 4]⟩) := by
    decide +kernel
  obtain ⟨setup, saved, hsetup, hsize, hsaved, himage⟩ := exists_of_expose hexpose
  exact ⟨setup, saved, _, hsetup, hsaved, himage,
    saved_image_shows_buffer_iff hsetup hsize rfl hsaved himage⟩

/-- A window of two columns and three rows is accepted; its file has three columns. -/
theorem narrow_window_is_turned :
    ∃ setup saved image,
      resolveImageParameters (.ofText (ascii "image --hend 2 --vend 3") (by decide))
        (AndorParameters.initial []) = .ok ⟨0, windowParams 2 3⟩ ∧
      setupAcquisition (windowParams 2 3) willingSetup (FitsHeaders.construct 100) =
        .ok setup ∧
      setup.size = some (2, 3) ∧
      saveAsFits (windowParams 2 3) emptyDirectory willingCfitsio setup.headers 2 3
        [1, 2, 3, 4, 5, 6] = .ok saved ∧
      saved.image = some image ∧
      image.naxis1 = 3 ∧ image.pixel 0 1 = some 4 ∧
      ¬ ShowsBuffer image 2 3 [1, 2, 3, 4, 5, 6] := by
  have hexpose : (expose (windowParams 2 3) 2 3 [1, 2, 3, 4, 5, 6]).map
      (fun (setup, saved) => (setup.size, saved.image)) =
        .ok (some (2, 3), some ⟨3, 2, 32, [1, 2, 3, 4, 5, 6]⟩) := by
    decide +kernel
  obtain ⟨setup, saved, hsetup, hsize, hsaved, himage⟩ := exists_of_expose hexpose
  refine ⟨setup, saved, _, ?_, hsetup, hsize, hsaved, himage, rfl, by decide, ?_⟩
  · decide +kernel
  · intro hshows
    exact absurd hshows.naxis1 (by decide)

end Andor2k
