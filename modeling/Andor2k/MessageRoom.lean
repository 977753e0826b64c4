/-
The buffers messages are printed to.  Nothing bounds what vsprintf prints; what the handlers
give it fits nevertheless, with the time stamps that are added.
-/
import Andor2k.ClientSession
import Andor2k.FilenameBounds

namespace Andor2k

open CText

def AtMost (count : Nat) (text : Text) : Prop := text.length ≤ count

theorem AtMost.whole (text : Text) : AtMost text.length text := Nat.le_refl _

theorem AtMost.append {first second : Nat} {front back : Text} (hfront : AtMost first front)
    (hback : AtMost second back) : AtMost (first + second) (front ++ back) := by
  rw [AtMost, List.length_append]
  exact Nat.add_le_add hfront hback

theorem AtMost.ite {count : Nat} {passes : Prop} [Decidable passes] {first second : Text}
    (hfirst : AtMost count first) (hsecond : AtMost count second) :
    AtMost count (if passes then first else second) := by
  split
  · exact hfirst
  · exact hsecond

theorem atMost_decimal {n digits : Nat} (hdigits : 0 < digits) (hn : n < 10 ^ digits) :
    AtMost digits (decimal n) := by
  rw [AtMost, decimal, ofChars, List.length_map]
  exact (Nat.length_toDigits_le_iff (by decide) hdigits).mpr hn

/-- The sign of a number is one character more. -/
theorem atMost_printInt {value : Int} {digits : Nat} (hdigits : 0 < digits)
    (hvalue : value.natAbs < 10 ^ digits) :
    AtMost (1 + digits) (Acquisition.printInt value) := by
  have hdecimal := atMost_decimal hdigits hvalue
  rw [Acquisition.printInt]
  split
  · exact (AtMost.whole (ascii "-")).append hdecimal
  · exact Nat.le_trans hdecimal (Nat.le_add_left _ _)

theorem natAbs_toInt32_lt (value : Int32) : value.toInt.natAbs < 10 ^ 10 := by
  have hlow := Int32.le_toInt value
  have hhigh := Int32.toInt_lt value
  omega

theorem atMost_printInt32 (value : Int32) : AtMost 11 (Acquisition.printInt value.toInt) :=
  atMost_printInt (by decide) (natAbs_toInt32_lt value)

theorem atMost_padLeft {width count : Nat} {text : Text} (hwidth : width ≤ count)
    (htext : AtMost count text) : AtMost count (padLeft width text) := by
  rw [AtMost] at htext ⊢
  rw [padLeft, List.length_append, List.length_replicate]
  omega

/-- `;time:` and a date; socket_sprintf puts it behind every message. -/
def stampLength : Nat := 6 + dateStrLength

/-- The message fits the buffer it is printed to, with a stamp and a semicolon of its own, with
the stamp of socket_sprintf, and with the NUL. -/
def FitsBuffer (message : Text) : Prop :=
  message.length + (stampLength + 1) + stampLength < maxSocketBufferSize

theorem AtMost.fitsBuffer {count : Nat} {message : Text} (hmessage : AtMost count message)
    (hcount : count + (stampLength + 1) + stampLength < maxSocketBufferSize) :
    FitsBuffer message := by
  rw [AtMost] at hmessage
  rw [FitsBuffer]
  omega

/-- A status string fits the `char[MAX_STATUS_STRING_SIZE]` it is copied to. -/
theorem atMost_statusString (status : DrvCode) : AtMost 127 (statusString status) := by
  unfold statusString
  split <;> exact Nat.le_of_ble_eq_true rfl

theorem atMost_getTemperatureString (status : DrvCode) :
    AtMost 127 (getTemperatureString status) := by
  unfold getTemperatureString
  split <;> exact Nat.le_of_ble_eq_true rfl

theorem atMost_getAcquiredDataString (status : DrvCode) :
    AtMost 127 (Acquisition.getAcquiredDataString status) := by
  unfold Acquisition.getAcquiredDataString
  split <;> exact Nat.le_of_ble_eq_true rfl

theorem atMost_startAcquisitionString (status : DrvCode) :
    AtMost 127 (Acquisition.startAcquisitionString status) := by
  unfold Acquisition.startAcquisitionString
  split <;> exact Nat.le_of_ble_eq_true rfl

theorem atMost_getImagesString (status : DrvCode) :
    AtMost 127 (Acquisition.getImagesString status) := by
  unfold Acquisition.getImagesString
  split <;> exact Nat.le_of_ble_eq_true rfl

/-- A return code is an `unsigned`. -/
def CodesFit (drvNumber : DrvCode → Nat) : Prop := ∀ status, drvNumber status < 2 ^ 32

theorem CodesFit.atMost {drvNumber : DrvCode → Nat} (hcodes : CodesFit drvNumber)
    (status : DrvCode) : AtMost 10 (decimal (drvNumber status)) :=
  atMost_decimal (by decide) (Nat.lt_trans (hcodes status) (by decide))

/-- The clock counts the nanoseconds of a wait in a `long`. -/
def CoolingAnswers.Timed (answers : CoolingAnswers) : Prop :=
  ∀ reading ∈ answers.readings, reading.elapsed.natAbs < 2 ^ 63

/-- What a reporter says of its progress: two percentages and two times. -/
def maxReport : Nat := 512

/-- The texts and the number an image command leaves to its surroundings. -/
structure Acquisition.ScanAnswers.Printable (answers : Acquisition.ScanAnswers) : Prop where
  single : ∀ report ∈ answers.single.reports, AtMost maxReport report
  rta : ∀ report ∈ answers.rta.reports, AtMost maxReport report
  kinetic : ∀ turn ∈ answers.kinetic, ∀ report ∈ turn.reports, AtMost maxReport report
  curImgInSeries : answers.rta.curImgInSeries.natAbs < 10 ^ 10

structure Received.Printable (received : Received) : Prop where
  timed : received.answers.cooling.Timed
  scan : received.answers.scan.Printable

namespace Acquisition

def MessagesFit (events : List ScanEvent) : Prop :=
  ∀ message, .sent message ∈ events → FitsBuffer message

theorem MessagesFit.nil : MessagesFit [] := fun _ hmem => absurd hmem List.not_mem_nil

theorem MessagesFit.append {first second : List ScanEvent} (hfirst : MessagesFit first)
    (hsecond : MessagesFit second) : MessagesFit (first ++ second) := fun message hmem =>
  (List.mem_append.mp hmem).elim (hfirst message) (hsecond message)

theorem MessagesFit.sent {message : Text} {later : List ScanEvent}
    (hmessage : FitsBuffer message) (hlater : MessagesFit later) :
    MessagesFit (.sent message :: later) := by
  intro other hmem
  rcases List.mem_cons.mp hmem with heq | hmem
  · rw [ScanEvent.sent.inj heq]
    exact hmessage
  · exact hlater other hmem

theorem MessagesFit.cons {event : ScanEvent} {later : List ScanEvent}
    (hevent : ∀ message, event ≠ .sent message) (hlater : MessagesFit later) :
    MessagesFit (event :: later) := fun message hmem =>
  hlater message ((List.mem_cons.mp hmem).resolve_left fun heq => hevent message heq.symm)

theorem MessagesFit.map {report : Text → ScanEvent} {texts : List Text} {count : Nat}
    (hreport : ∀ text, ∃ front, front.length ≤ count ∧ report text = .sent (front ++ text))
    (hcount : count + maxReport + (stampLength + 1) + stampLength < maxSocketBufferSize)
    (htexts : ∀ text ∈ texts, AtMost maxReport text) : MessagesFit (texts.map report) := by
  intro message hmem
  obtain ⟨text, htext, heq⟩ := List.mem_map.mp hmem
  obtain ⟨front, hfront, hsent⟩ := hreport text
  rw [← ScanEvent.sent.inj (hsent.symm.trans heq)]
  exact (AtMost.append hfront (htexts text htext)).fitsBuffer hcount

section Scans

variable {drvNumber : DrvCode → Nat} {params : AndorParameters} {fheaders : FitsHeaders}
  {xpixels ypixels : Int} {imgBuffer : List Int32}

/-- The path of a file is printed, and it fits the buffer it comes from. -/
theorem saveAsFits_messages {surroundings : Surroundings} {cfitsio : CfitsioAnswers}
    {width height : Nat} {saved : SavedExposure}
    (hsaved : saveAsFits params surroundings cfitsio fheaders width height imgBuffer =
      .ok saved) :
    (∀ message ∈ saved.sent, FitsBuffer message) ∧ AtMost 255 (saved.filename.getD []) := by
  obtain ⟨found, -, hsaved⟩ := checked_bind_eq_ok.mp hsaved
  cases found with
  | none =>
      rw [← Except.ok.inj hsaved]
      exact ⟨List.forall_mem_singleton.mpr ((AtMost.whole _).fitsBuffer (by decide)),
        Nat.zero_le 255⟩
  | some fitsFilename =>
      obtain ⟨filename, htext, hsaved⟩ := checked_bind_eq_ok.mp hsaved
      have hfilename : AtMost 255 filename := Nat.le_of_lt_succ (length_text_lt htext)
      obtain ⟨fits, -, hsaved⟩ := checked_bind_eq_ok.mp hsaved
      obtain ⟨⟨status, image⟩, -, hsaved⟩ := checked_bind_eq_ok.mp hsaved
      dsimp only at hsaved
      split at hsaved
      · rw [← Except.ok.inj hsaved]
        exact ⟨List.forall_mem_singleton.mpr ((AtMost.whole _).fitsBuffer (by decide)), hfilename⟩
      · rw [← Except.ok.inj hsaved]
        exact ⟨List.forall_mem_singleton.mpr
          (((AtMost.whole _).append hfilename).fitsBuffer (by decide)), hfilename⟩

theorem saveImage_messages {file : FileAnswers} {exposure : Nat} {saved : SavedExposure}
    {saving : List ScanEvent}
    (hsaved : saveImage params fheaders xpixels ypixels file exposure imgBuffer =
      .ok (saved, saving)) :
    MessagesFit saving ∧ AtMost 255 (saved.filename.getD []) := by
  obtain ⟨written, hwritten, hsaved⟩ := checked_bind_eq_ok.mp hsaved
  obtain ⟨rfl, rfl⟩ := Prod.mk.inj (Except.ok.inj hsaved)
  obtain ⟨hmessages, hfilename⟩ := saveAsFits_messages hwritten
  refine ⟨MessagesFit.append ?_ ?_, hfilename⟩
  · split
    · exact .cons (by rintro _ ⟨⟩) .nil
    · exact .cons (by rintro _ ⟨⟩) .nil
  · intro message hmem
    obtain ⟨text, htext, heq⟩ := List.mem_map.mp hmem
    rw [← ScanEvent.sent.inj heq]
    exact hmessages text htext

theorem singleScan_messages (hcodes : CodesFit drvNumber) {answers : SingleAnswers} {scan : Scan}
    (hreports : ∀ report ∈ answers.reports, AtMost maxReport report)
    (hscan : getSingleScan drvNumber params fheaders xpixels ypixels answers imgBuffer =
      .ok scan) : MessagesFit scan.events := by
  have hreported : MessagesFit (.startAcquisition :: answers.reports.map singleReport) :=
    .cons (by rintro _ ⟨⟩) (.map (fun _ => ⟨_, AtMost.whole _, rfl⟩) (by decide) hreports)
  rw [getSingleScan] at hscan
  split at hscan
  · rw [← Except.ok.inj hscan]
    refine .cons (by rintro _ ⟨⟩) (.sent ?_ (.cons (by rintro _ ⟨⟩) .nil))
    exact (((AtMost.whole _).append (atMost_startAcquisitionString _)).append
      (.whole _)).fitsBuffer (by decide)
  · dsimp only at hscan
    split at hscan
    · rw [← Except.ok.inj hscan]
      refine hreported.append (.cons (by rintro _ ⟨⟩) (.sent ?_ .nil))
      split
      · exact ((AtMost.whole _).append (hcodes.atMost _)).fitsBuffer (by decide)
      · exact ((AtMost.whole _).append (hcodes.atMost _)).fitsBuffer (by decide)
    · obtain ⟨size, -, hscan⟩ := checked_bind_eq_ok.mp hscan
      split at hscan
      · rw [← Except.ok.inj hscan]
        refine hreported.append (.cons (by rintro _ ⟨⟩) (.cons (by rintro _ ⟨⟩) (.sent ?_ .nil)))
        exact ((((AtMost.whole _).append (atMost_getAcquiredDataString _)).append
          (.whole _)).append (hcodes.atMost _)).fitsBuffer (by decide)
      · obtain ⟨filled, -, hscan⟩ := checked_bind_eq_ok.mp hscan
        obtain ⟨⟨saved, saving⟩, hsaved, hscan⟩ := checked_bind_eq_ok.mp hscan
        obtain ⟨hsaving, hfilename⟩ := saveImage_messages hsaved
        have hacquired : MessagesFit [.retrieved .acquiredData size,
            .sent (ascii "info:image data acquired;status:saving to FITS ...;image:1/1")] :=
          .cons (by rintro _ ⟨⟩) (.sent ((AtMost.whole _).fitsBuffer (by decide)) .nil)
        dsimp only at hscan
        split at hscan
        · rw [← Except.ok.inj hscan]
          exact (hreported.append hacquired).append hsaving
        · rw [← Except.ok.inj hscan]
          refine ((hreported.append hacquired).append hsaving).append (.sent ?_ .nil)
          exact (((AtMost.whole _).append hfilename).append (.whole _)).fitsBuffer (by decide)

/-- `%d/%d` -/
theorem atMost_printFraction {first : Int} (hfirst : first.natAbs < 10 ^ 10) (second : Int32) :
    AtMost 23 (printFraction first second.toInt) :=
  ((atMost_printInt (by decide) hfirst).append (.whole (ascii "/"))).append
    (atMost_printInt32 second)

theorem rtaTurn_messages (hcodes : CodesFit drvNumber) {turn : RtaTurn} {curImgInSeries : Nat}
    {image : Scan} {filled : List Int32} (hcurrent : curImgInSeries < 10 ^ 10)
    (himage : rtaTurn drvNumber params fheaders xpixels ypixels turn curImgInSeries imgBuffer =
      .ok (image, filled)) : MessagesFit image.events := by
  have hseries : AtMost 23 (printFraction curImgInSeries params.numImages.toInt) := by
    apply atMost_printFraction
    rwa [Int.natAbs_natCast]
  rw [rtaTurn] at himage
  dsimp only at himage
  split at himage
  · rw [← (Prod.mk.inj (Except.ok.inj himage)).1]
    refine .cons (by rintro _ ⟨⟩) (.sent ?_ .nil)
    split
    · exact ((((AtMost.whole _).append hseries).append (.whole _)).append
        (hcodes.atMost _)).fitsBuffer (by decide)
    · exact ((((AtMost.whole _).append hseries).append (.whole _)).append
        (hcodes.atMost _)).fitsBuffer (by decide)
  · split at himage
    · rw [← (Prod.mk.inj (Except.ok.inj himage)).1]
      refine .cons (by rintro _ ⟨⟩) (.sent ?_ .nil)
      exact ((((AtMost.whole _).append hseries).append (.whole _)).append
        (hcodes.atMost _)).fitsBuffer (by decide)
    · obtain ⟨size, -, himage⟩ := checked_bind_eq_ok.mp himage
      split at himage
      · rw [← (Prod.mk.inj (Except.ok.inj himage)).1]
        refine .cons (by rintro _ ⟨⟩) (.cons (by rintro _ ⟨⟩) (.sent ?_ .nil))
        exact ((((((AtMost.whole _).append hseries).append (.whole _)).append
          (atMost_getImagesString _)).append (.whole _)).append
          (hcodes.atMost _)).fitsBuffer (by decide)
      · obtain ⟨buffer, -, himage⟩ := checked_bind_eq_ok.mp himage
        obtain ⟨⟨saved, saving⟩, hsaved, himage⟩ := checked_bind_eq_ok.mp himage
        have hsaving := (saveImage_messages hsaved).1
        dsimp only at himage
        split at himage
        · rw [← (Prod.mk.inj (Except.ok.inj himage)).1]
          exact .cons (by rintro _ ⟨⟩) (hsaving.append (.cons (by rintro _ ⟨⟩) .nil))
        · rw [← (Prod.mk.inj (Except.ok.inj himage)).1]
          exact .cons (by rintro _ ⟨⟩) hsaving

theorem rtaLoop_messages (hcodes : CodesFit drvNumber) {turns : Nat → RtaTurn}
    {left curimg : Nat} {series : Scan} (hcount : curimg + left < 10 ^ 10)
    (hseries : rtaLoop drvNumber params fheaders xpixels ypixels turns left curimg imgBuffer =
      .ok series) : MessagesFit series.events := by
  induction left generalizing curimg imgBuffer series with
  | zero =>
      rw [← Except.ok.inj hseries]
      exact .nil
  | succ left ih =>
      obtain ⟨⟨image, filled⟩, himage, hseries⟩ := checked_bind_eq_ok.mp hseries
      have hfirst := rtaTurn_messages hcodes (by omega) himage
      dsimp only at hseries
      split at hseries
      · rw [← Except.ok.inj hseries]
        exact hfirst
      · obtain ⟨later, hlater, hseries⟩ := checked_bind_eq_ok.mp hseries
        rw [← Except.ok.inj hseries]
        exact hfirst.append (ih (by omega) hlater)

theorem rtaScan_messages (hcodes : CodesFit drvNumber) {answers : RtaAnswers} {scan : Scan}
    (hreports : ∀ report ∈ answers.reports, AtMost maxReport report)
    (hcurrent : answers.curImgInSeries.natAbs < 10 ^ 10)
    (hscan : getRtaScan drvNumber params fheaders xpixels ypixels answers imgBuffer =
      .ok scan) : MessagesFit scan.events := by
  have hreported : MessagesFit (.startAcquisition :: answers.reports.map seriesReport) :=
    .cons (by rintro _ ⟨⟩) (.map (fun _ => ⟨_, AtMost.whole _, rfl⟩) (by decide) hreports)
  have hnumber := natAbs_toInt32_lt params.numImages
  rw [getRtaScan] at hscan
  split at hscan
  · rw [← Except.ok.inj hscan]
    refine .cons (by rintro _ ⟨⟩) (.sent ?_ (.cons (by rintro _ ⟨⟩) .nil))
    exact ((((AtMost.whole _).append (hcodes.atMost _)).append (.whole _)).append
      (.whole _)).fitsBuffer (by decide)
  · have hshown : AtMost 23 (printFraction (if 1 ≤ params.numImages.toInt then
        params.numImages.toInt else answers.curImgInSeries) params.numImages.toInt) := by
      apply atMost_printFraction
      split
      · exact hnumber
      · exact hcurrent
    obtain ⟨series, hseries, hscan⟩ := checked_bind_eq_ok.mp hscan
    have hloop := rtaLoop_messages hcodes (by omega) hseries
    dsimp only at hscan
    split at hscan
    · rw [← Except.ok.inj hscan]
      exact hreported.append hloop
    · rw [← Except.ok.inj hscan]
      refine (hreported.append hloop).append (.sent ?_ (.cons (by rintro _ ⟨⟩) .nil))
      exact (((AtMost.whole _).append hshown).append (.whole _)).fitsBuffer (by decide)

theorem saveKineticImage_messages {file : FileAnswers} {exposure : Nat} {saved : Scan}
    (hsaved : saveKineticImage params fheaders xpixels ypixels file exposure imgBuffer =
      .ok saved) : MessagesFit saved.events := by
  rcases saveKineticImage_cases hsaved with ⟨-, rfl⟩ |
    ⟨fitsFilename, filename, fits, status, written, -, -, -, ⟨-, rfl⟩ | ⟨-, rfl⟩⟩
  · exact .cons (by rintro _ ⟨⟩) .nil
  · exact .cons (by rintro _ ⟨⟩) (.cons (by rintro _ ⟨⟩) .nil)
  · exact .cons (by rintro _ ⟨⟩) .nil

theorem kineticTurn_messages (hcodes : CodesFit drvNumber) {turn : KineticTurn} {image : Scan}
    {filled : List Int32} (hreports : ∀ report ∈ turn.reports, AtMost maxReport report)
    (himage : kineticTurn drvNumber params fheaders xpixels ypixels turn imgBuffer =
      .ok (image, filled)) : MessagesFit image.events := by
  have hreported : MessagesFit (turn.reports.map threadReport) :=
    .map (fun _ => ⟨_, AtMost.whole _, rfl⟩) (by decide) hreports
  rw [kineticTurn] at himage
  dsimp only at himage
  split at himage
  · rw [← (Prod.mk.inj (Except.ok.inj himage)).1]
    exact hreported
  · split at himage
    · rw [← (Prod.mk.inj (Except.ok.inj himage)).1]
      exact hreported.append (.cons (by rintro _ ⟨⟩) .nil)
    · obtain ⟨size, -, himage⟩ := checked_bind_eq_ok.mp himage
      split at himage
      · rw [← (Prod.mk.inj (Except.ok.inj himage)).1]
        refine hreported.append (.cons (by rintro _ ⟨⟩) (.cons (by rintro _ ⟨⟩) (.sent ?_ .nil)))
        exact ((AtMost.whole _).append (hcodes.atMost _)).fitsBuffer (by decide)
      · obtain ⟨buffer, -, himage⟩ := checked_bind_eq_ok.mp himage
        obtain ⟨saved, hsaved, himage⟩ := checked_bind_eq_ok.mp himage
        rw [← (Prod.mk.inj (Except.ok.inj himage)).1]
        exact hreported.append (.cons (by rintro _ ⟨⟩) (saveKineticImage_messages hsaved))

theorem kineticEnd_messages (lAcquired : Int32) :
    MessagesFit [.sent (ascii "done;error:0;info:images acquired and saved " ++
      printInt lAcquired.toInt), .abortAcquisition] := by
  refine .sent ?_ (.cons (by rintro _ ⟨⟩) .nil)
  exact ((AtMost.whole _).append (atMost_printInt32 lAcquired)).fitsBuffer (by decide)

theorem kineticLoop_messages (hcodes : CodesFit drvNumber) {turns : List KineticTurn}
    {lAcquired : Int32} {series : Scan}
    (hreports : ∀ turn ∈ turns, ∀ report ∈ turn.reports, AtMost maxReport report)
    (hseries : kineticLoop drvNumber params fheaders xpixels ypixels turns lAcquired imgBuffer =
      .ok (some series)) : MessagesFit series.events := by
  induction turns generalizing lAcquired imgBuffer series with
  | nil =>
      rw [kineticLoop] at hseries
      split at hseries
      · rw [← Option.some.inj (Except.ok.inj hseries)]
        exact kineticEnd_messages lAcquired
      · cases hseries
  | cons turn later ih =>
      obtain ⟨hturn, hlater⟩ := List.forall_mem_cons.mp hreports
      by_cases hall : params.numImages ≤ lAcquired
      · rw [kineticLoop, if_pos hall] at hseries
        rw [← Option.some.inj (Except.ok.inj hseries)]
        exact kineticEnd_messages lAcquired
      · obtain ⟨image, filled, himage, hrest⟩ := kineticLoop_cons hall hseries
        have hfirst := kineticTurn_messages hcodes hturn himage
        rcases hrest with ⟨-, rfl⟩ | ⟨-, rest, hnext, rfl⟩
        · exact hfirst
        · exact hfirst.append (ih hlater hnext)

theorem acquisition_messages (hcodes : CodesFit drvNumber) {answers : ScanAnswers} {scan : Scan}
    (hprintable : answers.Printable)
    (hscan : getAcquisition drvNumber params fheaders xpixels ypixels answers imgBuffer =
      .ok (some scan)) : MessagesFit scan.events := by
  rw [getAcquisition] at hscan
  split at hscan
  · obtain ⟨single, hsingle, hscan⟩ := checked_map_eq_ok.mp hscan
    rw [← Option.some.inj hscan]
    exact singleScan_messages hcodes hprintable.single hsingle
  · split at hscan
    · obtain ⟨series, hseries, hscan⟩ := checked_map_eq_ok.mp hscan
      rw [← Option.some.inj hscan]
      exact rtaScan_messages hcodes hprintable.rta hprintable.curImgInSeries hseries
    · split at hscan
      · obtain ⟨series, hseries, hscan⟩ := checked_bind_eq_ok.mp hscan
        obtain ⟨loop, rfl, rfl⟩ := Option.map_eq_some_iff.mp (Except.ok.inj hscan)
        exact .cons (by rintro _ ⟨⟩) (kineticLoop_messages hcodes hprintable.kinetic hseries)
      · rw [← Option.some.inj (Except.ok.inj hscan)]
        exact .nil

end Scans

/-- Around the scan an array is allocated and deleted. -/
theorem getImage_messages {drvNumber : DrvCode → Nat} (hcodes : CodesFit drvNumber)
    {setupAnswers : SetupAnswers} {answers : ScanAnswers} {command : CommandBuffer}
    {params : AndorParameters} {run : ImageRun} (hprintable : answers.Printable)
    (hrun : getImage drvNumber setupAnswers answers command params = .ok (some run)) :
    MessagesFit run.events := by
  have hallocation : ∀ data, MessagesFit (allocation data) := by
    intro data
    cases data with
    | none => exact .nil
    | some array => exact .cons (by rintro _ ⟨⟩) .nil
  have hdeletion : ∀ data, MessagesFit (deletion data) := by
    intro data
    cases data with
    | none => exact .nil
    | some array => exact .cons (by rintro _ ⟨⟩) .nil
  rcases getImage_cases hrun with ⟨status, -, -, -, hevents⟩ |
    ⟨-, setup, data, -, ⟨-, -, hevents⟩ |
      ⟨-, width, height, array, scan, -, -, hscan, -, hevents⟩⟩
  · rw [hevents]
    exact .nil
  · rw [hevents]
    exact (hallocation data).append (hdeletion data)
  · rw [hevents]
    exact ((hallocation data).append (acquisition_messages hcodes hprintable hscan)).append
      (hdeletion data)

end Acquisition

def AllFit (events : List DaemonEvent) : Prop := ∀ message ∈ sentMessages events, FitsBuffer message

theorem AllFit.nil : AllFit [] := List.forall_mem_nil _

theorem AllFit.append {first second : List DaemonEvent} (hfirst : AllFit first)
    (hsecond : AllFit second) : AllFit (first ++ second) := by
  rw [AllFit, sentMessages_append]
  exact List.forall_mem_append.mpr ⟨hfirst, hsecond⟩

theorem AllFit.cons {event : DaemonEvent} {later : List DaemonEvent}
    (hevent : sentMessage event = none) (hlater : AllFit later) : AllFit (event :: later) := by
  rw [AllFit, sentMessages, List.filterMap_cons_none hevent]
  exact hlater

theorem AllFit.sent {message : Text} (hmessage : FitsBuffer message) : AllFit [.sent message] :=
  List.forall_mem_singleton.mpr hmessage

theorem AllFit.tell {socket : Bool} {message : Text} (hmessage : FitsBuffer message) :
    AllFit (Andor2k.tell socket message) := by
  cases socket with
  | false => exact .nil
  | true => exact .sent hmessage

theorem AllFit.image {events : List Acquisition.ScanEvent}
    (hevents : Acquisition.MessagesFit events) : AllFit (events.map .image) := by
  intro message hmessage
  obtain ⟨event, hevent, hsent⟩ := List.mem_filterMap.mp hmessage
  obtain ⟨scanned, hscanned, rfl⟩ := List.mem_map.mp hevent
  cases scanned with
  | sent text =>
      obtain rfl := Option.some.inj hsent
      exact hevents _ hscanned
  | _ => cases hsent

section Handlers

variable {drvNumber : DrvCode → Nat} {params : AndorParameters}

/-- The minutes of a wait have no more digits than its nanoseconds. -/
theorem atMost_minutes {elapsed : Int} (helapsed : elapsed.natAbs < 2 ^ 63) :
    AtMost 20 (padLeft 3 (Acquisition.printInt (minutes elapsed))) := by
  have hfewer : (minutes elapsed).natAbs ≤ elapsed.natAbs := Int.natAbs_tdiv_le_natAbs _ _
  have hdigits : (minutes elapsed).natAbs < 10 ^ 19 := by omega
  exact atMost_padLeft (by decide) (atMost_printInt (by decide) hdigits)

theorem coolingLoop_messages (hcodes : CodesFit drvNumber) {socket : Bool}
    {readings : List CoolingReading} {wait : Procedure}
    (htimed : ∀ reading ∈ readings, reading.elapsed.natAbs < 2 ^ 63)
    (hwait : coolingLoop drvNumber socket readings = some wait) : AllFit wait.events := by
  induction readings generalizing wait with
  | nil => cases hwait
  | cons reading later ih =>
      obtain ⟨hreading, hlater⟩ := List.forall_mem_cons.mp htimed
      have htemp : AtMost 11 (printTemp reading.currentTemp) := atMost_printInt32 _
      have hcode := hcodes.atMost reading.status
      have hstatus := atMost_getTemperatureString reading.status
      rw [coolingLoop] at hwait
      dsimp only at hwait
      split at hwait
      · rw [← Option.some.inj hwait]
        refine .cons rfl (.tell ?_)
        exact (((AtMost.whole _).append htemp).append (.whole _)).fitsBuffer (by decide)
      · split at hwait
        · rw [← Option.some.inj hwait]
          refine .cons rfl (.tell ?_)
          exact ((((((AtMost.whole _).append hcode).append (.whole _)).append htemp).append
            (.whole _)).append hstatus).fitsBuffer (by decide)
        · have hreport : AllFit (.celsius reading.currentTemp ::
              tell socket (ascii "ctemp:" ++ printTemp reading.currentTemp ++ ascii ";status:" ++
                getTemperatureString reading.status ++ ascii " (" ++
                decimal (drvNumber reading.status) ++ ascii ")") ++
              [.elapsed reading.elapsed]) := by
            refine .append (.cons rfl (.tell ?_)) (.cons rfl .nil)
            exact (((((((AtMost.whole _).append htemp).append (.whole _)).append hstatus).append
              (.whole _)).append hcode).append (.whole _)).fitsBuffer (by decide)
          split at hwait
          · rw [← Option.some.inj hwait]
            refine hreport.append (.tell ?_)
            exact (((((AtMost.whole _).append htemp).append (.whole _)).append
              (atMost_minutes hreading)).append (.whole _)).fitsBuffer (by decide)
          · obtain ⟨rest, hrest, rfl⟩ := Option.map_eq_some_iff.mp hwait
            exact hreport.append (ih hlater hrest)

theorem coolToTemperature_messages (hcodes : CodesFit drvNumber) {socket : Bool} {tempC : Int32}
    {answers : CoolingAnswers} {procedure : Procedure} (htimed : answers.Timed)
    (hcool : coolToTemperature drvNumber socket tempC answers = some procedure) :
    AllFit procedure.events := by
  have htemp : AtMost 11 (printTemp answers.currentTemp) := atMost_printInt32 _
  have hstart : AllFit (.celsius answers.currentTemp ::
      tell socket (ascii "ctemp:" ++ printTemp answers.currentTemp ++
        ascii ";status:got current camera temperature") ++ [.setTemperature tempC]) := by
    refine .append (.cons rfl (.tell ?_)) (.cons rfl .nil)
    exact (((AtMost.whole _).append htemp).append (.whole _)).fitsBuffer (by decide)
  rw [coolToTemperature] at hcool
  split at hcool
  · rw [← Option.some.inj hcool]
    refine hstart.append (.tell ?_)
    exact (((((AtMost.whole _).append (hcodes.atMost _)).append (.whole _)).append htemp).append
      (.whole _)).fitsBuffer (by decide)
  · split at hcool
    · rw [← Option.some.inj hcool]
      refine hstart.append (.cons rfl (.tell ?_))
      exact (((((AtMost.whole _).append (hcodes.atMost _)).append (.whole _)).append htemp).append
        (.whole _)).fitsBuffer (by decide)
    · obtain ⟨wait, hwait, rfl⟩ := Option.map_eq_some_iff.mp hcool
      exact hstart.append (.cons rfl (coolingLoop_messages hcodes htimed hwait))

theorem printStatus_messages (answers : StatusAnswers) : AllFit (printStatus answers).events := by
  refine .sent ?_
  have htemp : AtMost 11 (printSigned answers.ctemp.toInt) := by
    have hdigits := atMost_decimal (by decide) (natAbs_toInt32_lt answers.ctemp)
    exact atMost_padLeft (by decide)
      (.ite ((AtMost.whole (ascii "-")).append hdigits) ((AtMost.whole (ascii "+")).append hdigits))
  exact ((((((AtMost.whole _).append (atMost_statusString _)).append (.whole _)).append
    htemp).append (.whole _)).append (atMost_getTemperatureString _)).append
    (.whole _) |>.fitsBuffer (by decide)

theorem resolveCommand_messages (hcodes : CodesFit drvNumber) {received : Received}
    {served : Served} (hprintable : received.Printable)
    (hserved : resolveCommand drvNumber received params = .ok (some served)) :
    AllFit served.events := by
  unfold resolveCommand at hserved
  cases hhandler : handlerOf received.command.buffer with
  | setTemperature =>
      simp only [hhandler] at hserved
      obtain ⟨found, hset, hserved⟩ := checked_map_eq_ok.mp hserved
      obtain ⟨procedure, rfl, rfl⟩ := Option.map_eq_some_iff.mp hserved
      rcases setTemperature_cases hset with rfl | ⟨targetTemp, hcool⟩
      · exact .sent ((AtMost.whole _).fitsBuffer (by decide))
      · exact coolToTemperature_messages hcodes hprintable.timed hcool
  | printStatus =>
      simp only [hhandler, Except.ok.injEq, Option.some.injEq] at hserved
      subst served
      exact printStatus_messages _
  | getImage =>
      simp only [hhandler] at hserved
      obtain ⟨found, hrun, hserved⟩ := checked_map_eq_ok.mp hserved
      obtain ⟨run, rfl, rfl⟩ := Option.map_eq_some_iff.mp hserved
      exact .image (Acquisition.getImage_messages hcodes hprintable.scan hrun)
  | setParamValue =>
      simp only [hhandler] at hserved
      obtain ⟨reply, -, hserved⟩ := checked_map_eq_ok.mp hserved
      obtain rfl := Option.some.inj hserved
      exact .nil
  | shutdown | abort =>
      simp only [hhandler, Except.ok.injEq, Option.some.injEq] at hserved
      subst served
      exact .nil
  | unknown =>
      simp only [hhandler] at hserved
      obtain ⟨text, -, hserved⟩ := checked_map_eq_ok.mp hserved
      obtain rfl := Option.some.inj hserved
      exact .nil

/-- Whatever a client asks for, and whatever the camera and the file system answer, every message
of the conversation fits the buffer it is printed to. -/
theorem chat_messages_fit (hcodes : CodesFit drvNumber) {conversation : List Received}
    {run : ChatRun} (hprintable : ∀ received ∈ conversation, received.Printable)
    (hchat : chat drvNumber conversation params = .ok run) :
    ∀ message ∈ sentMessages run.events, FitsBuffer message := by
  induction conversation generalizing params run with
  | nil =>
      rw [← Except.ok.inj hchat]
      exact AllFit.nil
  | cons received later ih =>
      obtain ⟨hfirst, hlater⟩ := List.forall_mem_cons.mp hprintable
      rw [chat] at hchat
      split at hchat
      · rw [← Except.ok.inj hchat]
        exact AllFit.nil
      · obtain ⟨found, hserved, hchat⟩ := checked_bind_eq_ok.mp hchat
        cases found with
        | none =>
            rw [← Except.ok.inj hchat]
            exact AllFit.cons rfl .nil
        | some served =>
            have hround : AllFit (.resolve received.command.buffer :: served.events) :=
              .cons rfl (resolveCommand_messages hcodes hfirst hserved)
            dsimp only at hchat
            split at hchat
            · rw [← Except.ok.inj hchat]
              exact hround
            · obtain ⟨rest, hrest, hchat⟩ := checked_bind_eq_ok.mp hchat
              rw [← Except.ok.inj hchat]
              exact hround.append (ih hlater hrest)

end Handlers

/-- A temperature, an exposure, a series, and the status. -/
def talkativeClient : List Received :=
  [goodMessage (ascii "settemp -70") (by decide),
    goodMessage (ascii "image --hend 4 --vend 4") (by decide),
    goodMessage (ascii "image --nimages 2") (by decide),
    goodMessage (ascii "status now") (by decide)]

theorem goodMessage_printable {message : Text} (hfits : message.length ≤ maxSocketBufferSize) :
    (goodMessage message hfits).Printable where
  timed := List.forall_mem_singleton.mpr (by decide)
  scan := ⟨List.forall_mem_nil _, List.forall_mem_nil _, List.forall_mem_nil _,
    show (0 : Int).natAbs < 10 ^ 10 by decide⟩

/-- The four commands make nine messages. -/
theorem talkativeClient_hears :
    ∃ run, chat (fun _ => 20002) talkativeClient (AndorParameters.initial []) = .ok run ∧
      (sentMessages run.events).length = 9 := by
  have hcount : (chat (fun _ => 20002) talkativeClient (AndorParameters.initial [])).map
      (fun run => (sentMessages run.events).length) = .ok 9 := by
    decide +kernel
  exact checked_map_eq_ok.mp hcount

theorem talkativeClient_messages_fit :
    ∃ run, chat (fun _ => 20002) talkativeClient (AndorParameters.initial []) = .ok run ∧
      ∀ message ∈ sentMessages run.events, FitsBuffer message := by
  obtain ⟨run, hrun, -⟩ := talkativeClient_hears
  refine ⟨run, hrun, chat_messages_fit (fun _ => by decide) ?_ hrun⟩
  intro received hreceived
  simp only [talkativeClient, List.mem_cons, List.not_mem_nil, or_false] at hreceived
  rcases hreceived with rfl | rfl | rfl | rfl
  · exact goodMessage_printable _
  · exact goodMessage_printable _
  · exact goodMessage_printable _
  · exact goodMessage_printable _

end Andor2k
