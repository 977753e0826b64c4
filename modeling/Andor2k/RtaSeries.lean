/-
get_rta_scan image by image: which step fails first, and what has been saved by then.
-/
import Andor2k.Acquisition

namespace Andor2k

open CText

namespace Acquisition

/-- The steps for one image of a series, in their order. -/
inductive ImageStep where
  | wait
  | newData
  | fetch
  | save
deriving DecidableEq

/-- Whether GetImages has been called by the time the step fails. -/
def ImageStep.fetches : ImageStep → Nat
  | .wait => 0
  | .newData => 0
  | .fetch => 1
  | .save => 1

/-- The elements GetImages copies to the buffer. -/
def RtaTurn.image (turn : RtaTurn) (xpixels ypixels : Int) : List Int32 :=
  (List.range (xpixels * ypixels).toNat).map turn.pixels

section Steps

variable (params : AndorParameters) (fheaders : FitsHeaders) (xpixels ypixels : Int)

/-- What `save_as_fits` returns for the image of a turn. -/
def RtaTurn.saveStatus (turn : RtaTurn) : Checked Int :=
  (saveAsFits params turn.file.surroundings turn.file.cfitsio fheaders xpixels.toNat
    ypixels.toNat (turn.image xpixels ypixels)).map (·.status)

/-- The step that fails first for an image, if one does. -/
def RtaTurn.failingStep (turn : RtaTurn) : Option ImageStep :=
  if turn.waitForAcquisition ≠ .success then some .wait
  else if ¬ turn.newImage then some .newData
  else if turn.getImages ≠ .success then some .fetch
  else if turn.saveStatus params fheaders xpixels ypixels ≠ .ok 0 then some .save
  else none

/-- The array of the file that is written for the image of a turn. -/
def RtaTurn.savedImage (turn : RtaTurn) : ImageArray where
  naxis1 := ypixels.toNat
  naxis2 := xpixels.toNat
  bitpix := FitsImage.bitpix
  data := (turn.image xpixels ypixels).take (xpixels.toNat * ypixels.toNat)

end Steps

/-- The files that were written, with the numbers of their exposures. -/
def savedImages (events : List ScanEvent) : List (Nat × ImageArray) :=
  events.filterMap fun event =>
    match event with
    | .filed exposure file =>
        if file.status = 0 then file.image.map fun image => (exposure, image) else none
    | _ => none

/-- The first and the last image of every call of GetImages. -/
def fetches (events : List ScanEvent) : List (Int × Int) :=
  events.filterMap fun event =>
    match event with
    | .retrieved (.images first last) _ => some (first, last)
    | _ => none

/-- The calls that ask for one image each: `count` images behind the first `curimg`. -/
def oneByOne (curimg count : Nat) : List (Int × Int) :=
  (List.range' curimg count).map fun index => ((index + 1 : Nat), (index + 1 : Nat))

theorem oneByOne_succ (curimg count : Nat) :
    oneByOne curimg (count + 1) = oneByOne curimg 1 ++ oneByOne (curimg + 1) count := by
  rw [oneByOne, List.range'_succ]
  rfl

theorem savedImages_append (first second : List ScanEvent) :
    savedImages (first ++ second) = savedImages first ++ savedImages second :=
  List.filterMap_append

theorem fetches_append (first second : List ScanEvent) :
    fetches (first ++ second) = fetches first ++ fetches second :=
  List.filterMap_append

theorem savedImages_sent (messages : List Text) : savedImages (messages.map .sent) = [] := by
  induction messages with
  | nil => rfl
  | cons message later ih => exact ih

theorem fetches_sent (messages : List Text) : fetches (messages.map .sent) = [] := by
  induction messages with
  | nil => rfl
  | cons message later ih => exact ih

theorem toNat_mul_le (first second : Int) :
    first.toNat * second.toNat ≤ (first * second).toNat := by
  rcases Int.le_total 0 first with hfirst | hfirst
  · rcases Int.le_total 0 second with hsecond | hsecond
    · rw [Int.toNat_mul hfirst hsecond]
    · rw [Int.toNat_of_nonpos hsecond, Nat.mul_zero]
      exact Nat.zero_le _
  · rw [Int.toNat_of_nonpos hfirst, Nat.zero_mul]
    exact Nat.zero_le _

end Acquisition

/-- Only the first `xpixels * ypixels` elements of the buffer matter to `write`. -/
theorem FitsImage.write_append {fits : FitsImage} (cfitsio : CfitsioAnswers)
    {image : List Int32} (rest : List Int32)
    (hlength : fits.xpixels * fits.ypixels ≤ image.length) :
    fits.write cfitsio (image ++ rest) = fits.write cfitsio image := by
  have hboth : fits.xpixels * fits.ypixels ≤ (image ++ rest).length := by
    rw [List.length_append]
    omega
  rw [write, write, if_pos hlength, if_pos hboth, List.take_append_of_le_length hlength]

/-- A write that succeeds leaves an image. -/
theorem FitsImage.image_of_write_zero {fits : FitsImage} {cfitsio : CfitsioAnswers}
    {buffer : List Int32} {image : Option ImageArray}
    (hwrite : fits.write cfitsio buffer = .ok (0, image)) : image.isSome := by
  simp only [write] at hwrite
  split_ifs at hwrite with hcreate hinside hfailed
  · exact absurd (Prod.mk.inj (Except.ok.inj hwrite)).1 hcreate
  · exact absurd (Prod.mk.inj (Except.ok.inj hwrite)).1 hfailed
  · rw [← (Prod.mk.inj (Except.ok.inj hwrite)).2]
    rfl

theorem saveAsFits_append (params : AndorParameters) (surroundings : Surroundings)
    (cfitsio : CfitsioAnswers) (fheaders : FitsHeaders) {xpixels ypixels : Nat}
    {image : List Int32} (rest : List Int32) (hlength : xpixels * ypixels ≤ image.length) :
    saveAsFits params surroundings cfitsio fheaders xpixels ypixels (image ++ rest) =
      saveAsFits params surroundings cfitsio fheaders xpixels ypixels image := by
  rw [saveAsFits, saveAsFits]
  congr 1
  funext found
  cases found with
  | none => rfl
  | some fitsFilename =>
      dsimp only
      congr 1
      funext filename
      cases hfits : FitsImage.construct filename xpixels ypixels with
      | error fault => rfl
      | ok fits =>
          obtain ⟨hx, hy⟩ := FitsImage.size_of_construct hfits
          have hwrite : fits.write cfitsio (image ++ rest) = fits.write cfitsio image :=
            FitsImage.write_append cfitsio rest (by rw [hx, hy]; exact hlength)
          simp only [bind, Except.bind, hwrite]

namespace Acquisition

variable {drvNumber : DrvCode → Nat} {params : AndorParameters} {fheaders : FitsHeaders}
  {xpixels ypixels : Int} {imgBuffer filled : List Int32}

theorem retrieve_eq {size : Int} {pixels : Nat → Int32}
    (hretrieve : retrieve imgBuffer size pixels = .ok filled) :
    ∃ rest, filled = (List.range size.toNat).map pixels ++ rest := by
  rw [retrieve] at hretrieve
  split at hretrieve
  · exact ⟨_, (Except.ok.inj hretrieve).symm⟩
  · cases hretrieve

/-- The file of an image is that of the pixels GetImages has copied, whatever else the
buffer held. -/
theorem saveImage_of_retrieve {turn : RtaTurn} {size : Int} {exposure : Nat}
    {saved : SavedExposure} {saving : List ScanEvent}
    (hsize : mulInt xpixels ypixels = .ok size)
    (hfilled : retrieve imgBuffer size turn.pixels = .ok filled)
    (hsaved : saveImage params fheaders xpixels ypixels turn.file exposure filled =
      .ok (saved, saving)) :
    turn.saveStatus params fheaders xpixels ypixels = .ok saved.status ∧
      fetches saving = [] ∧
      savedImages saving =
        if saved.status = 0 then [(exposure, turn.savedImage xpixels ypixels)] else [] := by
  obtain ⟨rest, hrest⟩ := retrieve_eq hfilled
  rw [← (checkInt_eq_ok.mp hsize).2] at hrest
  have hlength : xpixels.toNat * ypixels.toNat ≤ (turn.image xpixels ypixels).length := by
    rw [RtaTurn.image, List.length_map, List.length_range]
    exact toNat_mul_le xpixels ypixels
  obtain ⟨exposed, hexposed, hevents⟩ := checked_bind_eq_ok.mp hsaved
  obtain ⟨rfl, rfl⟩ := Prod.mk.inj (Except.ok.inj hevents)
  have hsame : saveAsFits params turn.file.surroundings turn.file.cfitsio fheaders xpixels.toNat
      ypixels.toNat (turn.image xpixels ypixels) = .ok exposed := by
    rw [← hexposed, hrest]
    exact (saveAsFits_append _ _ _ _ rest hlength).symm
  refine ⟨by rw [RtaTurn.saveStatus, hsame]; rfl, ?_⟩
  rw [fetches_append, savedImages_append, fetches_sent, savedImages_sent, List.append_nil]
  rcases saveAsFits_cases hsame with rfl | ⟨filename, fits, status, image, -, hwrite, hend⟩
  · exact ⟨rfl, rfl⟩
  · rcases hend with ⟨hfailed, rfl⟩ | ⟨rfl, rfl⟩
    · exact ⟨rfl, rfl⟩
    · obtain ⟨array, rfl⟩ := Option.isSome_iff_exists.mp (FitsImage.image_of_write_zero hwrite)
      rw [image_of_saveAsFits hsame rfl]
      exact ⟨rfl, rfl⟩

/-- What a turn does is decided by the step that fails first: without one the image is
fetched and saved, with one nothing is saved. -/
theorem rtaTurn_failingStep {turn : RtaTurn} {curimg : Nat} {image : Scan}
    (himage : rtaTurn drvNumber params fheaders xpixels ypixels turn (curimg + 1) imgBuffer =
      .ok (image, filled)) :
    match turn.failingStep params fheaders xpixels ypixels with
    | none =>
        image.status = 0 ∧ fetches image.events = oneByOne curimg 1 ∧
          savedImages image.events = [(curimg + 1, turn.savedImage xpixels ypixels)]
    | some failed =>
        image.status = 1 ∧ fetches image.events = oneByOne curimg failed.fetches ∧
          savedImages image.events = [] := by
  rcases rtaTurn_cases himage with ⟨hnone, -, message, -, rfl⟩ |
    ⟨hwait, hnew, size, hsize, ⟨hfetch, -, message, -, rfl⟩ |
      ⟨hfetch, saved, saving, hfilled, hsaved, rfl⟩⟩
  · by_cases hwait : turn.waitForAcquisition = .success
    · have hnew : turn.newImage = false := hnone.resolve_left (not_not.mpr hwait)
      rw [RtaTurn.failingStep, if_neg (not_not.mpr hwait), if_pos (by simp [hnew])]
      exact ⟨rfl, rfl, rfl⟩
    · rw [RtaTurn.failingStep, if_pos hwait]
      exact ⟨rfl, rfl, rfl⟩
  · rw [RtaTurn.failingStep, if_neg (not_not.mpr hwait), if_neg (not_not.mpr hnew),
      if_pos hfetch]
    exact ⟨rfl, rfl, rfl⟩
  · obtain ⟨hstatus, hfetches, himages⟩ := saveImage_of_retrieve hsize hfilled hsaved
    rw [RtaTurn.failingStep, if_neg (not_not.mpr hwait), if_neg (not_not.mpr hnew),
      if_neg (not_not.mpr hfetch), hstatus]
    by_cases hzero : saved.status = 0
    · rw [if_pos hzero] at himages
      rw [hzero, if_neg (not_not.mpr rfl), if_neg (not_not.mpr rfl)]
      refine ⟨rfl, ?_, himages⟩
      rw [← List.singleton_append, fetches_append, hfetches]
      rfl
    · rw [if_neg hzero] at himages
      rw [if_pos hzero, if_pos fun hequal => hzero (Except.ok.inj hequal)]
      refine ⟨rfl, ?_, ?_⟩
      · rw [← List.singleton_append, fetches_append, fetches_append, hfetches]
        rfl
      · rw [savedImages_append, ← List.singleton_append, savedImages_append, himages]
        rfl

/-- The images with the indices `first`, …, `first + count - 1`, as they are saved. -/
def rtaImages (turns : Nat → RtaTurn) (xpixels ypixels : Int) (first count : Nat) :
    List (Nat × ImageArray) :=
  (List.range' first count).map fun index =>
    (index + 1, (turns index).savedImage xpixels ypixels)

/-- A series saves the images up to the first that fails, and ends with that one. -/
theorem rtaLoop_failingStep {turns : Nat → RtaTurn} {left curimg : Nat} {series : Scan}
    (hseries : rtaLoop drvNumber params fheaders xpixels ypixels turns left curimg imgBuffer =
      .ok series) :
    ∃ count ≤ left,
      (∀ index < count,
        (turns (curimg + index)).failingStep params fheaders xpixels ypixels = none) ∧
      savedImages series.events = rtaImages turns xpixels ypixels curimg count ∧
      ((count = left ∧ series.status = 0 ∧ fetches series.events = oneByOne curimg left) ∨
        (count < left ∧ ∃ failed,
          (turns (curimg + count)).failingStep params fheaders xpixels ypixels = some failed ∧
          series.status = 1 ∧
          fetches series.events = oneByOne curimg (count + failed.fetches))) := by
  induction left generalizing curimg imgBuffer series with
  | zero =>
      rw [← Except.ok.inj hseries]
      exact ⟨0, Nat.le_refl 0, fun index hindex => absurd hindex (Nat.not_lt_zero index), rfl,
        Or.inl ⟨rfl, rfl, rfl⟩⟩
  | succ left ih =>
      obtain ⟨⟨image, filled⟩, himage, hrest⟩ := checked_bind_eq_ok.mp hseries
      have hturn := rtaTurn_failingStep himage
      dsimp only at hrest
      cases hstep : (turns curimg).failingStep params fheaders xpixels ypixels with
      | some failed =>
          rw [hstep] at hturn
          obtain ⟨hstatus, hfetches, himages⟩ := hturn
          rw [if_pos (by rw [hstatus]; decide)] at hrest
          rw [← Except.ok.inj hrest]
          exact ⟨0, Nat.zero_le _, fun index hindex => absurd hindex (Nat.not_lt_zero index),
            himages, Or.inr ⟨Nat.succ_pos left, failed, hstep, hstatus, by
              rw [hfetches, Nat.zero_add]⟩⟩
      | none =>
          rw [hstep] at hturn
          obtain ⟨hstatus, hfetches, himages⟩ := hturn
          rw [if_neg (not_not.mpr hstatus)] at hrest
          obtain ⟨later, hlater, hrest⟩ := checked_bind_eq_ok.mp hrest
          rw [← Except.ok.inj hrest]
          obtain ⟨count, hcount, hsucceed, hsaved, hend⟩ := ih hlater
          refine ⟨count + 1, Nat.succ_le_succ hcount, ?_, ?_, ?_⟩
          · intro index hindex
            cases index with
            | zero => exact hstep
            | succ index =>
                rw [Nat.add_comm index 1, ← Nat.add_assoc]
                exact hsucceed index (Nat.lt_of_succ_lt_succ hindex)
          · rw [savedImages_append, himages, hsaved, rtaImages, rtaImages, List.range'_succ]
            rfl
          · rw [fetches_append, hfetches]
            rcases hend with ⟨hall, hzero, hlaterFetches⟩ |
              ⟨hless, failed, hfailed, hone, hlaterFetches⟩
            · refine Or.inl ⟨by omega, hzero, ?_⟩
              rw [hlaterFetches]
              exact (oneByOne_succ curimg left).symm
            · refine Or.inr ⟨by omega, failed, ?_, hone, ?_⟩
              · rw [Nat.add_comm count 1, ← Nat.add_assoc]
                exact hfailed
              · rw [hlaterFetches, Nat.add_right_comm]
                exact (oneByOne_succ curimg (count + failed.fetches)).symm

/-- The series starts, and no step for any of its images fails. -/
def SeriesSucceeds (params : AndorParameters) (fheaders : FitsHeaders) (xpixels ypixels : Int)
    (answers : RtaAnswers) : Prop :=
  answers.startAcquisition = .success ∧ ∀ index < params.numImages.toInt.toNat,
    (answers.turns index).failingStep params fheaders xpixels ypixels = none

/-- How far a series came: the first `count` images are saved, and GetImages was asked for the
first `calls` of them one by one. -/
def SeriesSaves (xpixels ypixels : Int) (answers : RtaAnswers) (scan : Scan)
    (count calls : Nat) : Prop :=
  savedImages scan.events = rtaImages answers.turns xpixels ypixels 0 count ∧
    fetches scan.events = oneByOne 0 calls

theorem SeriesSaves.of_series {answers : RtaAnswers} {series scan : Scan}
    {before after : List ScanEvent} {count calls : Nat}
    (hsaved : savedImages series.events = rtaImages answers.turns xpixels ypixels 0 count)
    (hfetches : fetches series.events = oneByOne 0 calls)
    (hevents : scan.events = before ++ series.events ++ after)
    (hbefore : savedImages before = [] ∧ fetches before = [])
    (hafter : savedImages after = [] ∧ fetches after = []) :
    SeriesSaves xpixels ypixels answers scan count calls := by
  constructor
  · rw [hevents, savedImages_append, savedImages_append, hbefore.1, hafter.1, hsaved,
      List.nil_append, List.append_nil]
  · rw [hevents, fetches_append, fetches_append, hbefore.2, hafter.2, hfetches, List.nil_append,
      List.append_nil]

theorem reported_saves_nothing (reports : List Text) :
    savedImages (.startAcquisition :: reports.map seriesReport) = [] ∧
      fetches (.startAcquisition :: reports.map seriesReport) = [] := by
  have hsent : reports.map seriesReport =
      (reports.map fun progress => ascii "info:Acquiring image series..." ++ progress).map
        .sent := by
    rw [List.map_map]
    rfl
  rw [hsent, ← List.singleton_append, savedImages_append, fetches_append, savedImages_sent,
    fetches_sent]
  exact ⟨rfl, rfl⟩

/-- `get_rta_scan` returns 0 exactly when every step succeeds; it saves every image before
the first that fails, with the pixels GetImages has copied for it, and goes no further than
the failing step. -/
theorem getRtaScan_saves {answers : RtaAnswers} {scan : Scan}
    (hscan : getRtaScan drvNumber params fheaders xpixels ypixels answers imgBuffer =
      .ok scan) :
    (scan.status = 0 ↔ SeriesSucceeds params fheaders xpixels ypixels answers) ∧
    (SeriesSucceeds params fheaders xpixels ypixels answers →
      SeriesSaves xpixels ypixels answers scan params.numImages.toInt.toNat
        params.numImages.toInt.toNat) ∧
    (answers.startAcquisition ≠ .success → SeriesSaves xpixels ypixels answers scan 0 0) ∧
    ∀ index < params.numImages.toInt.toNat, ∀ failed, answers.startAcquisition = .success →
      (∀ earlier < index,
        (answers.turns earlier).failingStep params fheaders xpixels ypixels = none) →
      (answers.turns index).failingStep params fheaders xpixels ypixels = some failed →
      SeriesSaves xpixels ypixels answers scan index (index + failed.fetches) := by
  rcases getRtaScan_cases hscan with ⟨hstart, message, -, rfl⟩ | ⟨hstart, series, hseries, hend⟩
  · refine ⟨⟨fun hzero => (by cases hzero), fun hall => absurd hall.1 hstart⟩,
      fun hall => absurd hall.1 hstart, fun _ => ⟨rfl, rfl⟩, ?_⟩
    intro index hindex failed hstarted
    exact absurd hstarted hstart
  · obtain ⟨count, hcount, hsucceed, hsaved, hlast⟩ := rtaLoop_failingStep hseries
    simp only [Nat.zero_add] at hsucceed hlast
    have hreported := reported_saves_nothing answers.reports
    rcases hlast with ⟨rfl, hzero, hfetches⟩ | ⟨hless, failed, hfailed, hone, hfetches⟩
    · obtain ⟨message, -, rfl⟩ := (hend.resolve_left fun hfails => hfails.1 hzero).2
      have hall : SeriesSucceeds params fheaders xpixels ypixels answers := ⟨hstart, hsucceed⟩
      refine ⟨⟨fun _ => hall, fun _ => rfl⟩, fun _ => ?_, fun hfails => absurd hstart hfails, ?_⟩
      · exact .of_series hsaved hfetches rfl hreported ⟨rfl, rfl⟩
      · intro index hindex failed _ _ hfailed
        rw [hsucceed index hindex] at hfailed
        cases hfailed
    · obtain ⟨-, rfl⟩ := hend.resolve_right fun hsucceeds => by
        rw [hone] at hsucceeds
        exact absurd hsucceeds.1 (by decide)
      have hnot : ¬ SeriesSucceeds params fheaders xpixels ypixels answers := by
        rintro ⟨-, hall⟩
        rw [hall count hless] at hfailed
        cases hfailed
      refine ⟨⟨fun hzero => ?_, fun hall => absurd hall hnot⟩, fun hall => absurd hall hnot,
        fun hfails => absurd hstart hfails, ?_⟩
      · exact absurd (hone.symm.trans hzero) (by decide)
      · intro index hindex other _ hearlier hother
        have hsame : index = count := by
          rcases Nat.lt_trichotomy index count with hbefore | hequal | hbehind
          · rw [hsucceed index hbefore] at hother
            cases hother
          · exact hequal
          · rw [hearlier count hbehind] at hfailed
            cases hfailed
        subst index
        obtain rfl : failed = other := Option.some.inj (hfailed.symm.trans hother)
        exact .of_series hsaved hfetches (List.append_nil _).symm hreported ⟨rfl, rfl⟩

/-- A square window of one pixel, twice. -/
def rtaOfTwo : AndorParameters := { windowParams 1 1 with numImages := 2 }

def takenTurn : RtaTurn where
  waitForAcquisition := .success
  abortSet := false
  newImage := true
  getImages := .success
  pixels := fun _ => 7
  file := ⟨emptyDirectory, willingCfitsio⟩

/-- The second image is aborted while it is waited for. -/
def abortedSecond : RtaAnswers where
  startAcquisition := .success
  turns := fun index =>
    if index = 0 then takenTurn
    else { takenTurn with waitForAcquisition := .noNewData, abortSet := true }
  reports := []
  curImgInSeries := 0

theorem abortedSecond_saves_first :
    ∃ scan, getRtaScan (fun _ => 20024) rtaOfTwo (FitsHeaders.construct 100) 1 1 abortedSecond
        [0] = .ok scan ∧
      SeriesSaves 1 1 abortedSecond scan 1 1 := by
  have hreturns : (getRtaScan (fun _ => 20024) rtaOfTwo (FitsHeaders.construct 100) 1 1
      abortedSecond [0]).map (·.status) = .ok 1 := by
    decide +kernel
  have hearlier : ∀ earlier < 1, (abortedSecond.turns earlier).failingStep rtaOfTwo
      (FitsHeaders.construct 100) 1 1 = none := by
    decide +kernel
  obtain ⟨scan, hscan, -⟩ := checked_map_eq_ok.mp hreturns
  exact ⟨scan, hscan, (getRtaScan_saves hscan).2.2.2 1 (by decide) .wait rfl hearlier
    (by decide +kernel)⟩

end Acquisition

end Andor2k
