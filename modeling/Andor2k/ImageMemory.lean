/-
The array an image is read into: its size, the counts it is passed with, and its
deletion.
-/
import Andor2k.DoneMessages
import Andor2k.ImageWindow

namespace Andor2k

open CText

namespace Acquisition

/-- The only thing a computation can do wrong is leave its memory. -/
def OnlyOutOfBounds {A : Type} (computation : Checked A) : Prop :=
  ∀ fault, computation = .error fault → fault = .outOfBounds

theorem OnlyOutOfBounds.ok {A : Type} (value : A) : OnlyOutOfBounds (.ok value) := by
  intro fault hfault
  cases hfault

theorem OnlyOutOfBounds.bind {A B : Type} {computation : Checked A} {f : A → Checked B}
    (hfirst : OnlyOutOfBounds computation) (hrest : ∀ value, OnlyOutOfBounds (f value)) :
    OnlyOutOfBounds (computation >>= f) := by
  cases computation with
  | error fault =>
      intro other hother
      exact hfirst other (congrArg Except.error (Except.error.inj hother))
  | ok value => exact hrest value

theorem onlyOutOfBounds_text {size : Nat} (array : CharArray size) :
    OnlyOutOfBounds array.text := by
  intro fault hfault
  rw [CharArray.text, cString] at hfault
  split at hfault
  · cases hfault
  · exact (Except.error.inj hfault).symm

theorem onlyOutOfBounds_create (value : HeaderValue) (key comment : Text) :
    OnlyOutOfBounds (createFitsHeader value key comment) := by
  intro fault hfault
  rw [createFitsHeader, cpyChars] at hfault
  split at hfault
  · split at hfault
    · cases hfault
    · exact (Except.error.inj hfault).symm
  · exact (Except.error.inj hfault).symm

theorem onlyOutOfBounds_createChars (key val comment : Text) :
    OnlyOutOfBounds (createFitsHeaderChars key val comment) := by
  rw [createFitsHeaderChars]
  split
  · exact onlyOutOfBounds_create _ key comment
  · intro fault hfault
    exact (Except.error.inj hfault).symm

theorem checkInt_eq_self {value : Int} (hlow : -2 ^ 31 ≤ value) (hhigh : value < 2 ^ 31) :
    checkInt value = .ok value := by
  rw [checkInt, if_pos ⟨hlow, hhigh⟩]

theorem mulInt_size {width height : Nat} (hwidth : width ≤ 2048) (hheight : height ≤ 2048) :
    mulInt width height = .ok (width * height : Nat) := by
  have hproduct : width * height ≤ 2048 * 2048 := Nat.mul_le_mul hwidth hheight
  rw [mulInt, ← Int.natCast_mul, checkInt_eq_self (by omega) (by omega)]

/-- The pixels of an image that is not too large are counted by an `int`. -/
theorem startTimeCorrection_ok (answers : SetupAnswers) {width height : Nat}
    (hwidth : width ≤ 2048) (hheight : height ≤ 2048) :
    answers.startTimeCorrection height width =
      .ok (answers.lcorrNs height (width * height : Nat)) :=
  checked_bind_ok (mulInt_size hwidth hheight) _

theorem onlyOutOfBounds_cameraHeaders (params : AndorParameters) (answers : SetupAnswers)
    {width height : Nat} (hwidth : width ≤ 2048) (hheight : height ≤ 2048)
    (headers : FitsHeaders) :
    OnlyOutOfBounds (cameraHeaders params answers (width, height) headers) := by
  rw [cameraHeaders, startTimeCorrection_ok answers hwidth hheight]
  split
  · exact .ok _
  · refine .bind (onlyOutOfBounds_create _ _ _) fun hsspeed => ?_
    refine .bind (onlyOutOfBounds_create _ _ _) fun vsspeed => ?_
    dsimp only
    split
    · exact .ok _
    · refine .bind (onlyOutOfBounds_create _ _ _) fun gain => ?_
      refine .bind (onlyOutOfBounds_text _) fun observerName => ?_
      refine .bind (onlyOutOfBounds_createChars _ _ _) fun observer => ?_
      refine .bind (onlyOutOfBounds_create _ _ _) fun exposed => ?_
      refine .bind (onlyOutOfBounds_create _ _ _) fun exptime => ?_
      refine .bind (onlyOutOfBounds_create _ _ _) fun vbin => ?_
      refine .bind (onlyOutOfBounds_create _ _ _) fun hbin => ?_
      refine .bind (onlyOutOfBounds_createChars _ _ _) fun instrume => ?_
      refine .bind (onlyOutOfBounds_text _) fun objectName => ?_
      refine .bind (onlyOutOfBounds_createChars _ _ _) fun object => ?_
      refine .bind (onlyOutOfBounds_text _) fun filterName => ?_
      refine .bind (onlyOutOfBounds_createChars _ _ _) fun filter => ?_
      refine .bind (.ok _) fun startTimeCor => ?_
      refine .bind (onlyOutOfBounds_create _ _ _) fun timecorr => ?_
      split
      · exact .ok _
      · exact .bind (onlyOutOfBounds_create _ _ _) fun ccdtemp => .ok _

/-- Counting the pixels of one side leaves the range of an `int` nowhere. -/
theorem numPixels_ok {start stop bin : Int32} (hbin : bin ≠ 0)
    (hstart : 1 ≤ start.toInt ∧ start.toInt < 2048) (hstop : 1 < stop.toInt ∧ stop.toInt ≤ 2048) :
    ∃ count, numPixels start stop bin = .ok count := by
  have hdivisor : bin.toInt ≠ 0 := fun hzero => hbin (Int32.toInt_inj.mp hzero)
  have hquotient := Int.natAbs_tdiv_le_natAbs (stop.toInt - start.toInt + 1) bin.toInt
  refine ⟨(stop.toInt - start.toInt + 1).tdiv bin.toInt, ?_⟩
  rw [numPixels, subInt, checkInt_eq_self (by omega) (by omega)]
  change (addInt (stop.toInt - start.toInt) 1 >>= fun count => divInt count bin.toInt) = _
  rw [addInt, checkInt_eq_self (by omega) (by omega)]
  change divInt (stop.toInt - start.toInt + 1) bin.toInt = _
  rw [divInt, if_neg hdivisor, checkInt_eq_self (by omega) (by omega)]

theorem imageSize_ok {params : AndorParameters} (hfields : FieldsInRange params) :
    ∃ size, imageSize params = .ok size := by
  obtain ⟨xnumpixels, hx⟩ := numPixels_ok hfields.hbin hfields.hstart hfields.hend
  obtain ⟨ynumpixels, hy⟩ := numPixels_ok hfields.vbin hfields.vstart hfields.vend
  simp only [imageSize, hx, hy, bind, Except.bind]
  split
  · exact ⟨none, rfl⟩
  · exact ⟨_, rfl⟩

theorem onlyOutOfBounds_setup {params : AndorParameters} (hfields : FieldsInRange params)
    (answers : SetupAnswers) (headers : FitsHeaders) :
    OnlyOutOfBounds (setupAcquisition params answers headers) := by
  obtain ⟨size, hsize⟩ := imageSize_ok hfields
  rw [setupAcquisition]
  split
  · exact .ok _
  · rw [hsize]
    cases size with
    | none => exact .ok _
    | some size =>
        obtain ⟨⟨-, hwidth⟩, -, hheight⟩ := imageSize_range hsize
        dsimp only [bind, Except.bind]
        split
        · exact .ok _
        · refine .bind (onlyOutOfBounds_cameraHeaders params answers hwidth hheight _) ?_
          rintro ⟨status, table⟩
          dsimp only
          split
          · exact .ok _
          · exact .ok _

/-- What a set-up may do to the image buffer: it has an array of the size it hands out, or
none when it fails, and it computes with its numbers inside their range, those of
start_time_correction included. -/
structure SafeSetup (params : AndorParameters) (answers : SetupAnswers)
    (headers : FitsHeaders) : Prop where
  no_division : setupImage params answers headers ≠ .error .divisionByZero
  no_overflow : setupImage params answers headers ≠ .error .signedOverflow
  succeeds : ∀ setup data, setupImage params answers headers = .ok (setup, data) →
    setup.status = 0 →
    ∃ width height array, setup.size = some (width, height) ∧
      (1 ≤ width ∧ width ≤ 2048) ∧ (1 ≤ height ∧ height ≤ 2048) ∧
      data = some array ∧ array.length = width * height
  fails : ∀ setup data, setupImage params answers headers = .ok (setup, data) →
    setup.status ≠ 0 → data = none

theorem imageArray_some {width height : Nat} (hwidth : width ≤ 2048)
    (hheight : height ≤ 2048) :
    imageArray (some (width, height)) = .ok (some (List.replicate (width * height) 0)) := by
  rw [imageArray, mulInt_size hwidth hheight]
  change Except.ok (some (List.replicate ((width * height : Nat) : Int).toNat 0)) = _
  rw [Int.toNat_natCast]

theorem setupImage_of_array {params : AndorParameters} {answers : SetupAnswers}
    {headers : FitsHeaders} {setup : Setup} {imgMem : Option (List Int32)}
    (hsetup : setupAcquisition params answers headers = .ok setup)
    (harray : imageArray setup.size = .ok imgMem) :
    setupImage params answers headers = .ok (setup, imgMem) := by
  rw [setupImage, hsetup]
  change (imageArray setup.size >>= fun imgMem => pure (setup, imgMem)) = _
  rw [harray]
  rfl

/-- The set-up with its array: it fails without one, or has one of the size it tested. -/
theorem setupImage_spec {params : AndorParameters} {answers : SetupAnswers}
    {headers : FitsHeaders} {setup : Setup}
    (hsetup : setupAcquisition params answers headers = .ok setup) :
    (setup.status ≠ 0 ∧ setupImage params answers headers = .ok (setup, none)) ∨
      (setup.status = 0 ∧ ∃ width height, setup.size = some (width, height) ∧
        (1 ≤ width ∧ width ≤ 2048) ∧ (1 ≤ height ∧ height ≤ 2048) ∧
        setupImage params answers headers =
          .ok (setup, some (List.replicate (width * height) 0))) := by
  rcases size_of_setup hsetup with ⟨hstatus, -⟩ | ⟨hstatus, hnone⟩
  · obtain ⟨width, height, hsize, -, hwidth, hheight⟩ := size_range_of_setup hsetup hstatus
    exact Or.inr ⟨hstatus, width, height, hsize, hwidth, hheight,
      setupImage_of_array hsetup (by rw [hsize, imageArray_some hwidth.2 hheight.2])⟩
  · exact Or.inl ⟨hstatus, setupImage_of_array hsetup (by rw [hnone, imageArray])⟩

theorem setupImage_eq_ok {params : AndorParameters} {answers : SetupAnswers}
    {headers : FitsHeaders} {setup : Setup} {data : Option (List Int32)}
    (hsetup : setupImage params answers headers = .ok (setup, data)) :
    (setup.status ≠ 0 ∧ data = none) ∨
      (setup.status = 0 ∧ ∃ width height, setup.size = some (width, height) ∧
        (1 ≤ width ∧ width ≤ 2048) ∧ (1 ≤ height ∧ height ≤ 2048) ∧
        data = some (List.replicate (width * height) 0)) := by
  obtain ⟨done, hdone, -⟩ := checked_bind_eq_ok.mp hsetup
  rcases setupImage_spec hdone with ⟨hstatus, hequal⟩ |
    ⟨hstatus, width, height, hsize, hwidth, hheight, hequal⟩
  · obtain ⟨rfl, rfl⟩ := Prod.mk.inj (Except.ok.inj (hequal.symm.trans hsetup))
    exact Or.inl ⟨hstatus, rfl⟩
  · obtain ⟨rfl, rfl⟩ := Prod.mk.inj (Except.ok.inj (hequal.symm.trans hsetup))
    exact Or.inr ⟨hstatus, width, height, hsize, hwidth, hheight, rfl⟩

theorem onlyOutOfBounds_setupImage {params : AndorParameters} (hfields : FieldsInRange params)
    (answers : SetupAnswers) (headers : FitsHeaders) :
    OnlyOutOfBounds (setupImage params answers headers) := by
  cases hsetup : setupAcquisition params answers headers with
  | error fault =>
      intro other hother
      rw [setupImage, hsetup] at hother
      rw [← Except.error.inj hother]
      exact onlyOutOfBounds_setup hfields answers headers fault hsetup
  | ok setup =>
      rcases setupImage_spec hsetup with ⟨-, hequal⟩ | ⟨-, _, _, -, -, -, hequal⟩
      · rw [hequal]
        exact .ok _
      · rw [hequal]
        exact .ok _

theorem safeSetup_of_fieldsInRange {params : AndorParameters} (hfields : FieldsInRange params)
    (answers : SetupAnswers) (headers : FitsHeaders) : SafeSetup params answers headers where
  no_division := fun hfault => by
    cases onlyOutOfBounds_setupImage hfields answers headers _ hfault
  no_overflow := fun hfault => by
    cases onlyOutOfBounds_setupImage hfields answers headers _ hfault
  succeeds := fun setup data hsetup hstatus => by
    rcases setupImage_eq_ok hsetup with ⟨hfailed, -⟩ | ⟨-, width, height, hsize, hw, hh, hdata⟩
    · exact absurd hstatus hfailed
    · exact ⟨width, height, _, hsize, hw, hh, hdata, List.length_replicate⟩
  fails := fun setup data hsetup hfailed => by
    rcases setupImage_eq_ok hsetup with ⟨-, hnone⟩ | ⟨hstatus, -⟩
    · exact hnone
    · exact absurd hstatus hfailed

/-- An event that passes the array on with its own number of elements, and neither
allocates nor deletes one. -/
def UsesBuffer (elements : Nat) : ScanEvent → Prop
  | .allocated _ => False
  | .deleted _ => False
  | .retrieved _ size => size = elements
  | .filed _ file => ∀ image, file.image = some image → image.data.length = elements
  | _ => True

def AllUse (elements : Nat) (events : List ScanEvent) : Prop :=
  ∀ event ∈ events, UsesBuffer elements event

theorem AllUse.append {elements : Nat} {first second : List ScanEvent}
    (hfirst : AllUse elements first) (hsecond : AllUse elements second) :
    AllUse elements (first ++ second) :=
  fun event hevent => (List.mem_append.mp hevent).elim (hfirst event) (hsecond event)

theorem AllUse.cons {elements : Nat} {event : ScanEvent} {later : List ScanEvent}
    (hevent : UsesBuffer elements event) (hlater : AllUse elements later) :
    AllUse elements (event :: later) :=
  List.forall_mem_cons.mpr ⟨hevent, hlater⟩

theorem AllUse.nil (elements : Nat) : AllUse elements [] := List.forall_mem_nil _

theorem AllUse.reports {elements : Nat} (report : Text → ScanEvent)
    (hreport : ∀ text, UsesBuffer elements (report text)) (reports : List Text) :
    AllUse elements (reports.map report) := by
  intro event hevent
  obtain ⟨text, -, rfl⟩ := List.mem_map.mp hevent
  exact hreport text

theorem length_retrieve {imgBuffer filled : List Int32} {size : Int} {pixels : Nat → Int32}
    (hretrieve : retrieve imgBuffer size pixels = .ok filled) :
    filled.length = imgBuffer.length := by
  rw [retrieve] at hretrieve
  split at hretrieve
  · rename_i hfits
    rw [← Except.ok.inj hretrieve, List.length_append, List.length_map, List.length_range,
      List.length_drop]
    omega
  · cases hretrieve

theorem mulInt_eq_ok {first second result : Int} (hproduct : mulInt first second = .ok result) :
    result = first * second := (checkInt_eq_ok.mp hproduct).2.symm

theorem image_uses_buffer {xpixels ypixels : Nat} {imgBuffer : List Int32} {image : ImageArray}
    (himage : image = ⟨ypixels, xpixels, FitsImage.bitpix,
      imgBuffer.take (xpixels * ypixels)⟩)
    (hlength : imgBuffer.length = xpixels * ypixels) :
    image.data.length = xpixels * ypixels := by
  rw [himage, List.length_take, hlength, Nat.min_self]

theorem saveImage_uses {params : AndorParameters} {fheaders : FitsHeaders}
    {xpixels ypixels : Nat} {file : FileAnswers} {exposure : Nat} {imgBuffer : List Int32}
    {saved : SavedExposure} {saving : List ScanEvent}
    (hlength : imgBuffer.length = xpixels * ypixels)
    (hsaved : saveImage params fheaders xpixels ypixels file exposure imgBuffer =
      .ok (saved, saving)) :
    AllUse (xpixels * ypixels) saving := by
  obtain ⟨written, hwritten, hrest⟩ := checked_bind_eq_ok.mp hsaved
  obtain ⟨rfl, rfl⟩ := Prod.mk.inj (Except.ok.inj hrest)
  refine AllUse.append ?_ ?_
  · split
    · exact .cons trivial (.nil _)
    · refine .cons (fun image himage => ?_) (.nil _)
      exact image_uses_buffer (image_of_saveAsFits hwritten himage) hlength
  · exact AllUse.reports .sent (fun _ => trivial) _

/-- The reports before an exposure has ended. -/
theorem AllUse.started {elements : Nat} (report : Text → ScanEvent)
    (hreport : ∀ text, UsesBuffer elements (report text)) (reports : List Text) :
    AllUse elements (.startAcquisition :: reports.map report) :=
  .cons trivial (.reports report hreport reports)

theorem size_of_mulInt {width height : Nat} {size : Int}
    (hsize : mulInt width height = .ok size) : size = (width * height : Nat) := by
  rw [mulInt_eq_ok hsize, Int.natCast_mul]

section Scans

variable {drvNumber : DrvCode → Nat} {params : AndorParameters} {fheaders : FitsHeaders}
  {width height : Nat} {imgBuffer : List Int32}

theorem singleScan_uses {answers : SingleAnswers} {scan : Scan}
    (hlength : imgBuffer.length = width * height)
    (hscan : getSingleScan drvNumber params fheaders width height answers imgBuffer =
      .ok scan) :
    AllUse (width * height) scan.events := by
  have hreported : AllUse (width * height) _ :=
    .started singleReport (fun _ => trivial) answers.reports
  rcases getSingleScan_cases hscan with ⟨-, message, -, rfl⟩ | ⟨-, -, message, -, rfl⟩ |
    ⟨-, -, size, hsize, ⟨-, message, -, rfl⟩ |
      ⟨-, filled, saved, saving, message, hfilled, hsaved, -, rfl⟩⟩
  · exact .cons trivial (.cons trivial (.cons trivial (.nil _)))
  · exact hreported.append (.cons trivial (.cons trivial (.nil _)))
  · exact hreported.append (.cons (size_of_mulInt hsize)
      (.cons trivial (.cons trivial (.nil _))))
  · have hsaving := saveImage_uses ((length_retrieve hfilled).trans hlength) hsaved
    have hacquired : AllUse (width * height) [.retrieved .acquiredData size,
        .sent (ascii "info:image data acquired;status:saving to FITS ...;image:1/1")] :=
      .cons (size_of_mulInt hsize) (.cons trivial (.nil _))
    by_cases hstatus : saved.status = 0
    · rw [if_neg (not_not.mpr hstatus)]
      exact ((hreported.append hacquired).append hsaving).append (.cons trivial (.nil _))
    · rw [if_pos hstatus]
      exact (hreported.append hacquired).append hsaving

/-- An image of a series passes the array on, and leaves it as long as it was. -/
theorem rtaTurn_uses {turn : RtaTurn} {curImgInSeries : Nat} {image : Scan}
    {filled : List Int32} (hlength : imgBuffer.length = width * height)
    (himage : rtaTurn drvNumber params fheaders width height turn curImgInSeries imgBuffer =
      .ok (image, filled)) :
    AllUse (width * height) image.events ∧ filled.length = width * height := by
  rcases rtaTurn_cases himage with ⟨-, rfl, message, -, rfl⟩ |
    ⟨-, -, size, hsize, ⟨-, rfl, message, -, rfl⟩ |
      ⟨-, saved, saving, hfilled, hsaved, rfl⟩⟩
  · exact ⟨.cons trivial (.cons trivial (.nil _)), hlength⟩
  · exact ⟨.cons (size_of_mulInt hsize) (.cons trivial (.cons trivial (.nil _))), hlength⟩
  · have hstill := (length_retrieve hfilled).trans hlength
    have hsaving := saveImage_uses hstill hsaved
    have hevents : AllUse (width * height)
        (.retrieved (.images curImgInSeries curImgInSeries) size :: saving) :=
      .cons (size_of_mulInt hsize) hsaving
    refine ⟨?_, hstill⟩
    by_cases hstatus : saved.status = 0
    · rw [if_neg (not_not.mpr hstatus)]
      exact hevents
    · rw [if_pos hstatus]
      exact hevents.append (.cons trivial (.nil _))

theorem rtaLoop_uses {turns : Nat → RtaTurn} {left curimg : Nat} {series : Scan}
    (hlength : imgBuffer.length = width * height)
    (hseries : rtaLoop drvNumber params fheaders width height turns left curimg imgBuffer =
      .ok series) :
    AllUse (width * height) series.events := by
  induction left generalizing curimg imgBuffer series with
  | zero =>
      rw [← Except.ok.inj hseries]
      exact .nil _
  | succ left ih =>
      obtain ⟨⟨image, filled⟩, himage, hrest⟩ := checked_bind_eq_ok.mp hseries
      obtain ⟨huses, hstill⟩ := rtaTurn_uses hlength himage
      dsimp only at hrest
      split at hrest
      · rw [← Except.ok.inj hrest]
        exact huses
      · obtain ⟨later, hlater, hrest⟩ := checked_bind_eq_ok.mp hrest
        rw [← Except.ok.inj hrest]
        exact huses.append (ih hstill hlater)

theorem rtaScan_uses {answers : RtaAnswers} {scan : Scan}
    (hlength : imgBuffer.length = width * height)
    (hscan : getRtaScan drvNumber params fheaders width height answers imgBuffer = .ok scan) :
    AllUse (width * height) scan.events := by
  have hreported : AllUse (width * height) _ :=
    .started seriesReport (fun _ => trivial) answers.reports
  rcases getRtaScan_cases hscan with ⟨-, message, -, rfl⟩ |
    ⟨-, series, hseries, ⟨-, rfl⟩ | ⟨-, message, -, rfl⟩⟩
  · exact .cons trivial (.cons trivial (.cons trivial (.nil _)))
  · exact hreported.append (rtaLoop_uses hlength hseries)
  · exact (hreported.append (rtaLoop_uses hlength hseries)).append
      (.cons trivial (.cons trivial (.nil _)))

theorem saveKineticImage_uses {file : FileAnswers} {exposure : Nat} {saved : Scan}
    (hlength : imgBuffer.length = width * height)
    (hsaved : saveKineticImage params fheaders width height file exposure imgBuffer =
      .ok saved) :
    AllUse (width * height) saved.events := by
  rcases saveKineticImage_cases hsaved with ⟨-, rfl⟩ |
    ⟨fitsFilename, filename, fits, status, written, -, hfits, hwrite, hend⟩
  · exact .cons trivial (.nil _)
  · obtain ⟨hx, hy⟩ := FitsImage.size_of_construct hfits
    have hfiled : ∀ image, written = some image → image.data.length = width * height := by
      rintro image rfl
      have himage := FitsImage.image_of_write hwrite
      rw [hx, hy] at himage
      exact image_uses_buffer himage hlength
    rcases hend with ⟨-, rfl⟩ | ⟨-, rfl⟩
    · exact .cons hfiled (.cons trivial (.nil _))
    · exact .cons hfiled (.nil _)

theorem kineticTurn_uses {turn : KineticTurn} {image : Scan} {filled : List Int32}
    (hlength : imgBuffer.length = width * height)
    (himage : kineticTurn drvNumber params fheaders width height turn imgBuffer =
      .ok (image, filled)) :
    AllUse (width * height) image.events ∧ filled.length = width * height := by
  have hreported : AllUse (width * height) _ :=
    .reports threadReport (fun _ => trivial) turn.reports
  rcases kineticTurn_cases himage with ⟨-, rfl, rfl⟩ |
    ⟨-, ⟨-, rfl, rfl⟩ | ⟨-, size, hsize, ⟨-, rfl, message, -, rfl⟩ |
      ⟨-, saved, hfilled, hsaved, rfl⟩⟩⟩
  · exact ⟨hreported, hlength⟩
  · exact ⟨hreported.append (.cons trivial (.nil _)), hlength⟩
  · exact ⟨hreported.append (.cons (size_of_mulInt hsize)
      (.cons trivial (.cons trivial (.nil _)))), hlength⟩
  · have hstill := (length_retrieve hfilled).trans hlength
    exact ⟨hreported.append (.cons (size_of_mulInt hsize) (saveKineticImage_uses hstill hsaved)),
      hstill⟩

theorem kineticLoop_uses {turns : List KineticTurn} {lAcquired : Int32} {series : Scan}
    (hlength : imgBuffer.length = width * height)
    (hseries : kineticLoop drvNumber params fheaders width height turns lAcquired imgBuffer =
      .ok (some series)) :
    AllUse (width * height) series.events := by
  induction turns generalizing lAcquired imgBuffer series with
  | nil =>
      rw [kineticLoop] at hseries
      split at hseries
      · rw [← Option.some.inj (Except.ok.inj hseries)]
        exact .cons trivial (.cons trivial (.nil _))
      · cases hseries
  | cons turn later ih =>
      by_cases hall : params.numImages ≤ lAcquired
      · rw [kineticLoop, if_pos hall] at hseries
        rw [← Option.some.inj (Except.ok.inj hseries)]
        exact .cons trivial (.cons trivial (.nil _))
      · obtain ⟨image, filled, himage, hrest⟩ := kineticLoop_cons hall hseries
        obtain ⟨huses, hstill⟩ := kineticTurn_uses hlength himage
        rcases hrest with ⟨-, rfl⟩ | ⟨-, rest, hlater, rfl⟩
        · exact huses
        · exact huses.append (ih hstill hlater)

theorem acquisition_uses {answers : ScanAnswers} {scan : Scan}
    (hlength : imgBuffer.length = width * height)
    (hscan : getAcquisition drvNumber params fheaders width height answers imgBuffer =
      .ok (some scan)) :
    AllUse (width * height) scan.events := by
  rw [getAcquisition] at hscan
  split at hscan
  · obtain ⟨single, hsingle, hscan⟩ := checked_map_eq_ok.mp hscan
    rw [← Option.some.inj hscan]
    exact singleScan_uses hlength hsingle
  · split at hscan
    · obtain ⟨series, hseries, hscan⟩ := checked_map_eq_ok.mp hscan
      rw [← Option.some.inj hscan]
      exact rtaScan_uses hlength hseries
    · split at hscan
      · obtain ⟨series, hseries, hscan⟩ := checked_bind_eq_ok.mp hscan
        obtain ⟨loop, rfl, rfl⟩ := Option.map_eq_some_iff.mp (Except.ok.inj hscan)
        exact .cons trivial (kineticLoop_uses hlength hseries)
      · rw [← Option.some.inj (Except.ok.inj hscan)]
        exact .nil _

end Scans

/-- One array is allocated first, passed on with its own number of elements, and deleted
last; nothing else is allocated or deleted. -/
def OneBuffer (elements : Nat) (events : List ScanEvent) : Prop :=
  ∃ scan, events = .allocated elements :: scan ++ [.deleted elements] ∧ AllUse elements scan

/-- An accepted command either fails in its set-up, and then there is no array, or keeps to
the one its set-up has allocated. -/
theorem events_of_getImage {drvNumber : DrvCode → Nat} {setupAnswers : SetupAnswers}
    {answers : ScanAnswers} {command : CommandBuffer} {before params : AndorParameters}
    {run : ImageRun} (haccepted : resolveImageParameters command before = .ok ⟨0, params⟩)
    (hrun : getImage drvNumber setupAnswers answers command before = .ok (some run)) :
    ∃ setup data, setupImage params setupAnswers (FitsHeaders.construct 100) =
        .ok (setup, data) ∧
      ((setup.status ≠ 0 ∧ run.events = []) ∨
        (setup.status = 0 ∧ ∃ width height, setup.size = some (width, height) ∧
          OneBuffer (width * height) run.events)) := by
  have hsame : ∀ {status}, resolveImageParameters command before = .ok ⟨status, run.params⟩ →
      status = 0 ∧ run.params = params := by
    intro status hreply
    exact Reply.mk.inj (Except.ok.inj (hreply.symm.trans haccepted))
  rcases getImage_cases hrun with ⟨status, hreply, hrefused, -⟩ |
    ⟨hreply, setup, data, hsetup, hrest⟩
  · exact absurd (hsame hreply).1 hrefused
  · rw [(hsame hreply).2] at hsetup hrest
    refine ⟨setup, data, hsetup, ?_⟩
    rcases setupImage_eq_ok hsetup with ⟨hnone, rfl⟩ | ⟨hstatus, width, height, hsize, -, -, rfl⟩
    · rcases hrest with ⟨hfailed, -, hevents⟩ | ⟨-, _, _, _, _, -, hsome, -⟩
      · exact Or.inl ⟨hfailed, hevents⟩
      · cases hsome
    · rcases hrest with ⟨hfailed, -⟩ | ⟨-, xnumpixels, ynumpixels, array, scan, hpixels, hsome,
        hscan, -, hevents⟩
      · exact absurd hstatus hfailed
      · obtain ⟨rfl, rfl⟩ := Prod.mk.inj (Option.some.inj (hsize.symm.trans hpixels))
        obtain rfl := Option.some.inj hsome
        have huses := acquisition_uses List.length_replicate hscan
        refine Or.inr ⟨hstatus, width, height, hsize, scan.events, ?_, huses⟩
        rw [hevents, allocation, deletion, List.length_replicate]
        rfl

/-- For parameters that an accepted `image` command leaves behind, the set-up computes
inside the range of its numbers, and it has an array of the size it hands out exactly when
it succeeds; the command passes that array on with its own number of elements and deletes
it once. -/
theorem accepted_image_memory {command : CommandBuffer} {before params : AndorParameters}
    (haccepted : resolveImageParameters command before = .ok ⟨0, params⟩) :
    (∀ answers headers, SafeSetup params answers headers) ∧
      ∀ (drvNumber : DrvCode → Nat) (setupAnswers : SetupAnswers) (answers : ScanAnswers)
        (run : ImageRun),
        getImage drvNumber setupAnswers answers command before = .ok (some run) →
        ∃ setup data, setupImage params setupAnswers (FitsHeaders.construct 100) =
            .ok (setup, data) ∧
          ((setup.status ≠ 0 ∧ run.events = []) ∨
            (setup.status = 0 ∧ ∃ width height, setup.size = some (width, height) ∧
              OneBuffer (width * height) run.events)) :=
  ⟨safeSetup_of_fieldsInRange (resolveImageParameters_accepted haccepted).1,
    fun _ _ _ _ hrun => events_of_getImage haccepted hrun⟩

/-- A window of four pixels, whose file is written. -/
theorem smallWindow_image_memory :
    (∀ answers headers, SafeSetup (windowParams 2 2) answers headers) ∧
      ∃ run, getImage (fun _ => 20002) willingSetup willingScan smallWindow
          (AndorParameters.initial []) = .ok (some run) ∧
        ∃ setup data, setupImage (windowParams 2 2) willingSetup (FitsHeaders.construct 100) =
            .ok (setup, data) ∧
          setup.status = 0 ∧ ∃ width height, setup.size = some (width, height) ∧
            OneBuffer (width * height) run.events := by
  obtain ⟨hsafe, hruns⟩ := accepted_image_memory resolve_smallWindow
  obtain ⟨run, hrun, hdone⟩ := smallWindow_run
  obtain ⟨setup, data, hsetup, ⟨-, hnothing⟩ | hbuffer⟩ := hruns _ _ _ run hrun
  · rw [hnothing] at hdone
    cases hdone
  · exact ⟨hsafe, run, hrun, setup, data, hsetup, hbuffer⟩

end Acquisition

end Andor2k
