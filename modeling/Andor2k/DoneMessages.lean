/-
The message that ends the conversation about an image: how often it is sent on the way
through get_image.
-/
import Andor2k.Acquisition
import Andor2k.ImageWindow

namespace Andor2k

open CText

namespace Acquisition

def doneMessages (events : List ScanEvent) : Nat := events.countP isDone

@[simp] theorem doneMessages_nil : doneMessages [] = 0 := rfl

@[simp] theorem doneMessages_cons (event : ScanEvent) (later : List ScanEvent) :
    doneMessages (event :: later) = doneMessages later + if isDone event then 1 else 0 :=
  List.countP_cons

@[simp] theorem doneMessages_append (first second : List ScanEvent) :
    doneMessages (first ++ second) = doneMessages first + doneMessages second :=
  List.countP_append

/-- The message of a list of reports. -/
theorem doneMessages_map {report : Text → ScanEvent}
    (hreport : ∀ text, isDone (report text) = false) (reports : List Text) :
    doneMessages (reports.map report) = 0 := by
  induction reports with
  | nil => rfl
  | cons text later ih => simp [hreport, ih]

theorem doneMessages_reports (reports : List Text) :
    doneMessages (reports.map singleReport) = 0 ∧ doneMessages (reports.map seriesReport) = 0 ∧
      doneMessages (reports.map threadReport) = 0 :=
  ⟨doneMessages_map (fun _ => rfl) reports, doneMessages_map (fun _ => rfl) reports,
    doneMessages_map (fun _ => rfl) reports⟩

/-- `save_as_fits` sends the message exactly when it fails. -/
theorem doneMessages_saveImage {params : AndorParameters} {fheaders : FitsHeaders}
    {xpixels ypixels : Int} {file : FileAnswers} {exposure : Nat} {imgBuffer : List Int32}
    {saved : SavedExposure} {saving : List ScanEvent}
    (hsaved : saveImage params fheaders xpixels ypixels file exposure imgBuffer =
      .ok (saved, saving)) :
    doneMessages saving = if saved.status = 0 then 0 else 1 := by
  obtain ⟨written, hwritten, hrest⟩ := checked_bind_eq_ok.mp hsaved
  obtain ⟨rfl, rfl⟩ := Prod.mk.inj (Except.ok.inj hrest)
  rcases saveAsFits_cases hwritten with rfl | ⟨filename, fits, status, image, -, -, hend⟩
  · rfl
  · rcases hend with ⟨-, rfl⟩ | ⟨-, rfl⟩
    · rfl
    · rfl

theorem doneMessages_cons_done {message : Text} (hdone : isDone (.sent message) = true)
    (later : List ScanEvent) :
    doneMessages (.sent message :: later) = doneMessages later + 1 := by
  rw [doneMessages_cons, if_pos hdone]

/-- A single scan sends it once, whatever becomes of the exposure. -/
theorem doneMessages_single {drvNumber : DrvCode → Nat} {params : AndorParameters}
    {fheaders : FitsHeaders} {xpixels ypixels : Int} {answers : SingleAnswers}
    {imgBuffer : List Int32} {scan : Scan}
    (hscan : getSingleScan drvNumber params fheaders xpixels ypixels answers imgBuffer =
      .ok scan) :
    doneMessages scan.events = 1 := by
  have hreports : doneMessages (.startAcquisition :: answers.reports.map singleReport) = 0 :=
    (doneMessages_reports answers.reports).1
  rcases getSingleScan_cases hscan with ⟨-, message, hdone, rfl⟩ |
    ⟨-, -, message, hdone, rfl⟩ | ⟨-, -, size, -, ⟨-, message, hdone, rfl⟩ |
      ⟨-, filled, saved, saving, message, -, hsaved, hdone, rfl⟩⟩
  · rw [doneMessages_cons, doneMessages_cons_done hdone]
    rfl
  · rw [doneMessages_append, hreports, doneMessages_cons, doneMessages_cons_done hdone]
    rfl
  · rw [doneMessages_append, hreports, doneMessages_cons, doneMessages_cons,
      doneMessages_cons_done hdone]
    rfl
  · have hsaving := doneMessages_saveImage hsaved
    by_cases hstatus : saved.status = 0
    · rw [if_pos hstatus] at hsaving
      rw [if_neg (not_not.mpr hstatus), doneMessages_append, doneMessages_append,
        doneMessages_append, hreports, hsaving, doneMessages_cons_done hdone]
      rfl
    · rw [if_neg hstatus] at hsaving
      rw [if_pos hstatus, doneMessages_append, doneMessages_append, hreports, hsaving]
      rfl

/-- An image of a series sends it exactly when the series ends with it. -/
theorem doneMessages_rtaTurn {drvNumber : DrvCode → Nat} {params : AndorParameters}
    {fheaders : FitsHeaders} {xpixels ypixels : Int} {turn : RtaTurn} {curImgInSeries : Nat}
    {imgBuffer filled : List Int32} {image : Scan}
    (himage : rtaTurn drvNumber params fheaders xpixels ypixels turn curImgInSeries imgBuffer =
      .ok (image, filled)) :
    doneMessages image.events = if image.status = 0 then 0 else 1 := by
  rcases rtaTurn_cases himage with ⟨-, -, message, hdone, rfl⟩ |
    ⟨-, -, size, -, ⟨-, -, message, hdone, rfl⟩ | ⟨-, saved, saving, -, hsaved, rfl⟩⟩
  · rw [doneMessages_cons, doneMessages_cons_done hdone]
    rfl
  · rw [doneMessages_cons, doneMessages_cons, doneMessages_cons_done hdone]
    rfl
  · have hsaving := doneMessages_saveImage hsaved
    by_cases hstatus : saved.status = 0
    · rw [if_pos hstatus] at hsaving
      rw [if_neg (not_not.mpr hstatus), doneMessages_cons, hsaving]
      rfl
    · rw [if_neg hstatus] at hsaving
      rw [if_pos hstatus, doneMessages_append, doneMessages_cons, hsaving]
      rfl

theorem doneMessages_rtaLoop {drvNumber : DrvCode → Nat} {params : AndorParameters}
    {fheaders : FitsHeaders} {xpixels ypixels : Int} {turns : Nat → RtaTurn}
    {left curimg : Nat} {imgBuffer : List Int32} {series : Scan}
    (hseries : rtaLoop drvNumber params fheaders xpixels ypixels turns left curimg imgBuffer =
      .ok series) :
    doneMessages series.events = if series.status = 0 then 0 else 1 := by
  induction left generalizing curimg imgBuffer series with
  | zero =>
      rw [← Except.ok.inj hseries]
      rfl
  | succ left ih =>
      obtain ⟨⟨image, filled⟩, himage, hrest⟩ := checked_bind_eq_ok.mp hseries
      have hturn := doneMessages_rtaTurn himage
      dsimp only at hrest
      split at hrest
      · rw [← Except.ok.inj hrest]
        exact hturn
      · rename_i hgoes
        rw [if_pos (not_not.mp hgoes)] at hturn
        obtain ⟨later, hlater, hrest⟩ := checked_bind_eq_ok.mp hrest
        rw [← Except.ok.inj hrest, doneMessages_append, hturn, ih hlater, Nat.zero_add]

/-- A series that runs till it is aborted sends it once. -/
theorem doneMessages_rta {drvNumber : DrvCode → Nat} {params : AndorParameters}
    {fheaders : FitsHeaders} {xpixels ypixels : Int} {answers : RtaAnswers}
    {imgBuffer : List Int32} {scan : Scan}
    (hscan : getRtaScan drvNumber params fheaders xpixels ypixels answers imgBuffer =
      .ok scan) :
    doneMessages scan.events = 1 := by
  have hreports : doneMessages (.startAcquisition :: answers.reports.map seriesReport) = 0 :=
    (doneMessages_reports answers.reports).2.1
  rcases getRtaScan_cases hscan with ⟨-, message, hdone, rfl⟩ |
    ⟨-, series, hseries, ⟨hstatus, rfl⟩ | ⟨hstatus, message, hdone, rfl⟩⟩
  · rw [doneMessages_cons, doneMessages_cons_done hdone]
    rfl
  · rw [doneMessages_append, hreports, doneMessages_rtaLoop hseries, if_neg hstatus]
  · rw [doneMessages_append, doneMessages_append, hreports, doneMessages_rtaLoop hseries,
      if_pos hstatus, doneMessages_cons_done hdone]
    rfl

/-- The file of an exposure cannot be named, created or written. -/
def FileAnswers.Fails (params : AndorParameters) (file : FileAnswers) : Prop :=
  getNextFitsFilename params file.surroundings.isDirectory file.surroundings.date
      file.surroundings.listing = .ok none ∨
    file.cfitsio.createImg ≠ 0 ∨ file.cfitsio.writeImg ≠ 0

/-- A round that ends the series by a signal, or because the exposure could not be waited
for, or not be saved. -/
def KineticTurn.EndsSilently (params : AndorParameters) (turn : KineticTurn) : Prop :=
  turn.sigAbortSet ∨ turn.sigInterruptSet ∨ turn.waitForAcquisition ≠ .success ∨
    (turn.getMostRecentImage = .success ∧ turn.file.Fails params)

/-- No round made ends the series silently. -/
def NoSilentEnd (params : AndorParameters) : Int32 → List KineticTurn → Prop
  | _, [] => True
  | lAcquired, turn :: later =>
      params.numImages ≤ lAcquired ∨
        (¬ turn.EndsSilently params ∧
          (turn.getMostRecentImage = .success →
            NoSilentEnd params turn.totalAcquired later))

theorem write_status {fits : FitsImage} {cfitsio : CfitsioAnswers} {buffer : List Int32}
    {status : Int} {image : Option ImageArray}
    (hwrite : fits.write cfitsio buffer = .ok (status, image)) :
    status ≠ 0 ↔ cfitsio.createImg ≠ 0 ∨ cfitsio.writeImg ≠ 0 := by
  simp only [FitsImage.write] at hwrite
  split at hwrite
  · rename_i hcreate
    obtain ⟨rfl, -⟩ := Prod.mk.inj (Except.ok.inj hwrite)
    exact ⟨Or.inl, fun _ => hcreate⟩
  · rename_i hcreate
    rw [or_iff_right hcreate]
    split at hwrite
    · split at hwrite
      · rename_i hwritten
        obtain ⟨rfl, -⟩ := Prod.mk.inj (Except.ok.inj hwrite)
        exact ⟨fun _ => hwritten, fun _ => hwritten⟩
      · rename_i hwritten
        obtain ⟨rfl, -⟩ := Prod.mk.inj (Except.ok.inj hwrite)
        exact ⟨fun hne => absurd rfl hne, fun hne => absurd hne hwritten⟩
    · cases hwrite

theorem saveKineticImage_spec {params : AndorParameters} {fheaders : FitsHeaders}
    {xpixels ypixels : Int} {file : FileAnswers} {exposure : Nat} {imgBuffer : List Int32}
    {saved : Scan}
    (hsaved : saveKineticImage params fheaders xpixels ypixels file exposure imgBuffer =
      .ok saved) :
    (saved.status ≠ 0 ↔ file.Fails params) ∧ doneMessages saved.events = 0 := by
  rw [FileAnswers.Fails]
  rcases saveKineticImage_cases hsaved with ⟨hnone, rfl⟩ |
    ⟨fitsFilename, filename, fits, status, image, hfound, -, hwrite, hend⟩
  · exact ⟨⟨fun _ => Or.inl hnone, fun _ => by decide⟩, rfl⟩
  · have hstatus := write_status hwrite
    rcases hend with ⟨hfailed, rfl⟩ | ⟨hwritten, rfl⟩
    · exact ⟨⟨fun _ => Or.inr (hstatus.mp hfailed), fun _ => by simp⟩, rfl⟩
    · refine ⟨⟨fun hne => absurd rfl hne, ?_⟩, rfl⟩
      rintro (hnone | hfails)
      · rw [hfound] at hnone
        cases hnone
      · exact absurd hwritten (hstatus.mpr hfails)

/-- A round ends the series silently, or with the message, or not at all. -/
theorem kineticTurn_spec {drvNumber : DrvCode → Nat} {params : AndorParameters}
    {fheaders : FitsHeaders} {xpixels ypixels : Int} {turn : KineticTurn}
    {imgBuffer filled : List Int32} {image : Scan}
    (himage : kineticTurn drvNumber params fheaders xpixels ypixels turn imgBuffer =
      .ok (image, filled)) :
    (turn.EndsSilently params ∧ image.status ≠ 0 ∧ doneMessages image.events = 0) ∨
      (¬ turn.EndsSilently params ∧ turn.getMostRecentImage ≠ .success ∧ image.status ≠ 0 ∧
        doneMessages image.events = 1) ∨
      (¬ turn.EndsSilently params ∧ turn.getMostRecentImage = .success ∧ image.status = 0 ∧
        doneMessages image.events = 0) := by
  have hreports := (doneMessages_reports turn.reports).2.2
  have hsilent : turn.EndsSilently params ↔ (turn.sigAbortSet ∨ turn.sigInterruptSet) ∨
      turn.waitForAcquisition ≠ .success ∨
        (turn.getMostRecentImage = .success ∧ turn.file.Fails params) := or_assoc.symm
  rw [hsilent]
  rcases kineticTurn_cases himage with ⟨hsignal, -, rfl⟩ |
    ⟨hsignal, ⟨hwait, -, rfl⟩ | ⟨hwait, size, -, hdata⟩⟩
  · exact Or.inl ⟨Or.inl hsignal, by simp, hreports⟩
  · refine Or.inl ⟨Or.inr (Or.inl hwait), by simp, ?_⟩
    rw [doneMessages_append, hreports]
    rfl
  · rw [or_iff_right hsignal, or_iff_right (not_not.mpr hwait)]
    rcases hdata with ⟨hfetch, -, message, hdone, rfl⟩ | ⟨hfetch, saved, -, hsaved, rfl⟩
    · refine Or.inr (Or.inl ⟨fun hends => hfetch hends.1, hfetch, by simp, ?_⟩)
      rw [doneMessages_append, hreports, doneMessages_cons, doneMessages_cons,
        doneMessages_cons_done hdone]
      rfl
    · obtain ⟨hfails, hnone⟩ := saveKineticImage_spec hsaved
      have hevents : doneMessages (turn.reports.map threadReport ++
          .retrieved .mostRecentImage size :: saved.events) = 0 := by
        rw [doneMessages_append, doneMessages_cons, hreports, hnone]
        rfl
      by_cases hfailed : saved.status = 0
      · exact Or.inr (Or.inr ⟨fun hends => hfails.mpr hends.2 hfailed, hfetch, hfailed, hevents⟩)
      · exact Or.inl ⟨⟨hfetch, hfails.mp hfailed⟩, hfailed, hevents⟩

theorem doneMessages_kineticLoop {drvNumber : DrvCode → Nat} {params : AndorParameters}
    {fheaders : FitsHeaders} {xpixels ypixels : Int} {turns : List KineticTurn}
    {lAcquired : Int32} {imgBuffer : List Int32} {series : Scan}
    (hseries : kineticLoop drvNumber params fheaders xpixels ypixels turns lAcquired imgBuffer =
      .ok (some series)) :
    doneMessages series.events ≤ 1 ∧
      (doneMessages series.events = 1 ↔ NoSilentEnd params lAcquired turns) := by
  induction turns generalizing lAcquired imgBuffer series with
  | nil =>
      rw [kineticLoop] at hseries
      split at hseries
      · rw [← Option.some.inj (Except.ok.inj hseries)]
        exact ⟨Nat.le_refl 1, fun _ => trivial, fun _ => rfl⟩
      · cases hseries
  | cons turn later ih =>
      by_cases hall : params.numImages ≤ lAcquired
      · rw [kineticLoop, if_pos hall] at hseries
        rw [← Option.some.inj (Except.ok.inj hseries)]
        exact ⟨Nat.le_refl 1, fun _ => Or.inl hall, fun _ => rfl⟩
      · rw [NoSilentEnd, or_iff_right hall]
        obtain ⟨image, filled, himage, hrest⟩ := kineticLoop_cons hall hseries
        rcases kineticTurn_spec himage with ⟨hsilent, hstatus, hdone⟩ |
          ⟨hloud, hfetch, hstatus, hdone⟩ | ⟨hloud, hfetch, hstatus, hdone⟩
        · obtain ⟨-, rfl⟩ := hrest.resolve_right fun hgoes => hstatus hgoes.1
          rw [hdone]
          exact ⟨Nat.zero_le 1, fun hone => absurd hone (by decide),
            fun hnone => absurd hsilent hnone.1⟩
        · obtain ⟨-, rfl⟩ := hrest.resolve_right fun hgoes => hstatus hgoes.1
          rw [hdone]
          exact ⟨Nat.le_refl 1, fun _ => ⟨hloud, fun hsuccess => absurd hsuccess hfetch⟩,
            fun _ => rfl⟩
        · obtain ⟨-, rest, hlater, rfl⟩ := hrest.resolve_left fun hends => hends.1 hstatus
          obtain ⟨hle, hiff⟩ := ih hlater
          rw [doneMessages_append, hdone, Nat.zero_add, hiff]
          exact ⟨hle, fun hnone => ⟨hloud, fun _ => hnone⟩, fun hnone => hnone.2 hfetch⟩

theorem doneMessages_kinetic {drvNumber : DrvCode → Nat} {params : AndorParameters}
    {fheaders : FitsHeaders} {xpixels ypixels : Int} {turns : List KineticTurn}
    {imgBuffer : List Int32} {scan : Scan}
    (hscan : getKineticScan drvNumber params fheaders xpixels ypixels turns imgBuffer =
      .ok (some scan)) :
    doneMessages scan.events ≤ 1 ∧
      (doneMessages scan.events = 1 ↔ NoSilentEnd params 0 turns) := by
  obtain ⟨series, hseries, hscan⟩ := checked_bind_eq_ok.mp hscan
  obtain ⟨loop, rfl, rfl⟩ := Option.map_eq_some_iff.mp (Except.ok.inj hscan)
  have hstart : doneMessages (.startAcquisition :: loop.events) = doneMessages loop.events :=
    rfl
  rw [hstart]
  exact doneMessages_kineticLoop hseries

/-- A scan for the acquisition mode that answers the client when it ends. -/
def AnswersClient (params : AndorParameters) (answers : ScanAnswers) : Prop :=
  params.acquisitionMode = .singleScan ∨ params.acquisitionMode = .runTillAbort ∨
    (params.acquisitionMode = .kineticSeries ∧ NoSilentEnd params 0 answers.kinetic)

theorem doneMessages_acquisition {drvNumber : DrvCode → Nat} {params : AndorParameters}
    {fheaders : FitsHeaders} {xpixels ypixels : Int} {answers : ScanAnswers}
    {imgBuffer : List Int32} {scan : Scan}
    (hscan : getAcquisition drvNumber params fheaders xpixels ypixels answers imgBuffer =
      .ok (some scan)) :
    doneMessages scan.events ≤ 1 ∧
      (doneMessages scan.events = 1 ↔ AnswersClient params answers) := by
  rw [getAcquisition] at hscan
  split at hscan
  · rename_i hmode
    obtain ⟨single, hsingle, hscan⟩ := checked_map_eq_ok.mp hscan
    rw [← Option.some.inj hscan, doneMessages_single hsingle]
    exact ⟨Nat.le_refl 1, fun _ => Or.inl hmode, fun _ => rfl⟩
  · rename_i hsingle
    split at hscan
    · rename_i hmode
      obtain ⟨series, hseries, hscan⟩ := checked_map_eq_ok.mp hscan
      rw [← Option.some.inj hscan, doneMessages_rta hseries]
      exact ⟨Nat.le_refl 1, fun _ => Or.inr (Or.inl hmode), fun _ => rfl⟩
    · rename_i hrta
      rw [AnswersClient, or_iff_right hsingle, or_iff_right hrta]
      split at hscan
      · rename_i hmode
        obtain ⟨hle, hiff⟩ := doneMessages_kinetic hscan
        rw [hiff]
        exact ⟨hle, fun hnone => ⟨hmode, hnone⟩, And.right⟩
      · rename_i hmode
        rw [← Option.some.inj (Except.ok.inj hscan)]
        exact ⟨Nat.zero_le 1, fun hone => absurd hone (by decide),
          fun hkinetic => absurd hkinetic.1 hmode⟩

theorem doneMessages_allocation (data : Option (List Int32)) :
    doneMessages (allocation data) = 0 ∧ doneMessages (deletion data) = 0 := by
  cases data with
  | none => exact ⟨rfl, rfl⟩
  | some array => exact ⟨rfl, rfl⟩

/-- A command the parser accepts, whose set-up succeeds, for a scan that answers. -/
def Answered (setupAnswers : SetupAnswers) (answers : ScanAnswers) (command : CommandBuffer)
    (params : AndorParameters) : Prop :=
  ∃ accepted setup data,
    resolveImageParameters command params = .ok ⟨0, accepted⟩ ∧
    setupImage accepted setupAnswers (FitsHeaders.construct 100) = .ok (setup, data) ∧
    setup.status = 0 ∧ AnswersClient accepted answers

/-- The client gets one final message exactly when its command is accepted, the set-up
succeeds, and the scan is a single one, one that runs till it is aborted, or a kinetic
series that no round ends silently.  Otherwise it gets none. -/
theorem one_done_message_iff {drvNumber : DrvCode → Nat} {setupAnswers : SetupAnswers}
    {answers : ScanAnswers} {command : CommandBuffer} {params : AndorParameters}
    {run : ImageRun}
    (hrun : getImage drvNumber setupAnswers answers command params = .ok (some run)) :
    doneMessages run.events ≤ 1 ∧
      (doneMessages run.events = 1 ↔ Answered setupAnswers answers command params) := by
  rcases getImage_cases hrun with ⟨status, hreply, hrefused, -, hevents⟩ |
    ⟨hreply, setup, data, hsetup, hrest⟩
  · rw [hevents, doneMessages_nil]
    refine ⟨Nat.zero_le 1, fun hone => absurd hone (by decide), ?_⟩
    rintro ⟨accepted, setup, data, haccepted, -⟩
    have hboth := Reply.mk.inj (Except.ok.inj (hreply.symm.trans haccepted))
    exact absurd hboth.1 hrefused
  · obtain ⟨hallocation, hdeletion⟩ := doneMessages_allocation data
    have hanswered : Answered setupAnswers answers command params ↔
        setup.status = 0 ∧ AnswersClient run.params answers := by
      constructor
      · rintro ⟨accepted, other, array, hother, hboth, hstatus, hanswers⟩
        obtain ⟨-, rfl⟩ := Reply.mk.inj (Except.ok.inj (hreply.symm.trans hother))
        rw [hsetup] at hboth
        obtain ⟨rfl, rfl⟩ := Prod.mk.inj (Except.ok.inj hboth)
        exact ⟨hstatus, hanswers⟩
      · rintro ⟨hstatus, hanswers⟩
        exact ⟨run.params, setup, data, hreply, hsetup, hstatus, hanswers⟩
    rw [hanswered]
    rcases hrest with ⟨hfailed, -, hevents⟩ |
      ⟨hstatus, width, height, array, scan, -, -, hscan, -, hevents⟩
    · rw [hevents, doneMessages_append, hallocation, hdeletion]
      exact ⟨Nat.zero_le 1, fun hone => absurd hone (by decide),
        fun hboth => absurd hboth.1 hfailed⟩
    · obtain ⟨hle, hiff⟩ := doneMessages_acquisition hscan
      rw [hevents, doneMessages_append, doneMessages_append, hallocation, hdeletion,
        Nat.zero_add, Nat.add_zero, hiff]
      exact ⟨hle, fun hanswers => ⟨hstatus, hanswers⟩, And.right⟩

def emptyFile : FileAnswers := ⟨emptyDirectory, willingCfitsio⟩

/-- A camera with which every exposure succeeds. -/
def willingScan : ScanAnswers where
  single :=
    { startAcquisition := .success, waitForAcquisition := .success, abortSet := false
      getAcquiredData := .success, pixels := fun _ => 0, reports := [], file := emptyFile }
  rta :=
    { startAcquisition := .success
      turns := fun _ =>
        { waitForAcquisition := .success, abortSet := false, newImage := true
          getImages := .success, pixels := fun _ => 0, file := emptyFile }
      reports := [], curImgInSeries := 0 }
  kinetic := []

def emptyBin : CommandBuffer := .ofText (ascii "image --hbin 0") (by decide)

/-- A run with what it counts. -/
theorem exists_of_count {outcome : Checked (Option ImageRun)} {count : Nat}
    (hcount : outcome.map (fun run => run.map fun run => doneMessages run.events) =
      .ok (some count)) :
    ∃ run, outcome = .ok (some run) ∧ doneMessages run.events = count := by
  obtain ⟨found, hfound, hrun⟩ := checked_map_eq_ok.mp hcount
  obtain ⟨run, rfl, hdone⟩ := Option.map_eq_some_iff.mp hrun
  exact ⟨run, hfound, hdone⟩

theorem smallWindow_run :
    ∃ run, getImage (fun _ => 20002) willingSetup willingScan smallWindow
        (AndorParameters.initial []) = .ok (some run) ∧ doneMessages run.events = 1 :=
  exists_of_count (by decide +kernel)

theorem smallWindow_done_message :
    ∃ run, getImage (fun _ => 20002) willingSetup willingScan smallWindow
        (AndorParameters.initial []) = .ok (some run) ∧
      doneMessages run.events ≤ 1 ∧
      (doneMessages run.events = 1 ↔
        Answered willingSetup willingScan smallWindow (AndorParameters.initial [])) := by
  obtain ⟨run, hrun, -⟩ := smallWindow_run
  exact ⟨run, hrun, one_done_message_iff hrun⟩

/-- Nothing is sent about a rejected command. -/
theorem rejected_image_is_silent :
    ¬ ∀ (drvNumber : DrvCode → Nat) (setupAnswers : SetupAnswers) (answers : ScanAnswers)
      (command : CommandBuffer) (params : AndorParameters) (run : ImageRun),
      getImage drvNumber setupAnswers answers command params = .ok (some run) →
      doneMessages run.events = 1 := by
  intro hdone
  have hcount : (getImage (fun _ => 20002) willingSetup willingScan emptyBin
      (AndorParameters.initial [])).map
        (fun run => run.map fun run => doneMessages run.events) = .ok (some 0) := by
    decide +kernel
  obtain ⟨run, hrun, hnone⟩ := exists_of_count hcount
  exact absurd ((hdone _ _ _ _ _ run hrun).symm.trans hnone) (by decide)

end Acquisition

end Andor2k
