/-
A kinetic series: which exposures its files hold.  The loop counts with the camera's own
counter and always fetches the most recent exposure.
-/
import Andor2k.DoneMessages

namespace Andor2k

open CText

namespace Acquisition

/-- The exposures in the files that were written, by their numbers. -/
def savedExposures (events : List ScanEvent) : List Nat :=
  events.filterMap fun event =>
    match event with
    | .filed exposure file => if file.status = 0 then some exposure else none
    | _ => none

theorem savedExposures_append (first second : List ScanEvent) :
    savedExposures (first ++ second) = savedExposures first ++ savedExposures second :=
  List.filterMap_append

theorem savedExposures_reports (reports : List Text) :
    savedExposures (reports.map threadReport) = [] := by
  induction reports with
  | nil => rfl
  | cons text later ih => exact ih

/-- A camera that takes `numImages` exposures one after the other: what it has counted,
and what it shows as its most recent exposure, never goes back, and the most recent
exposure is never behind the count of a moment ago. -/
def Paced (numImages : Int32) : Int32 → Nat → List KineticTurn → Prop
  | _, _, [] => True
  | counted, shown, turn :: later =>
      numImages ≤ counted ∨
        (counted ≤ turn.totalAcquired ∧ (shown : Int) ≤ turn.totalAcquired.toInt ∧
          turn.totalAcquired.toInt ≤ turn.mostRecent ∧
          (turn.mostRecent : Int) ≤ numImages.toInt ∧
          Paced numImages turn.totalAcquired turn.mostRecent later)

/-- From one round to the next exactly one more exposure becomes available. -/
def InStep (numImages : Int32) : Int32 → Nat → List KineticTurn → Prop
  | _, _, [] => True
  | counted, shown, turn :: later =>
      numImages ≤ counted ∨
        (turn.mostRecent = shown + 1 ∧
          InStep numImages turn.totalAcquired turn.mostRecent later)

/-- The exposures of the rounds a series makes. -/
def shownExposures (numImages : Int32) : Int32 → List KineticTurn → List Nat
  | _, [] => []
  | counted, turn :: later =>
      if numImages ≤ counted then []
      else turn.mostRecent :: shownExposures numImages turn.totalAcquired later

/-- The camera lets the series come to its end. -/
def Completes (numImages : Int32) : Int32 → List KineticTurn → Prop
  | counted, [] => numImages ≤ counted
  | counted, turn :: later =>
      numImages ≤ counted ∨ Completes numImages turn.totalAcquired later

theorem saveKineticImage_saved {params : AndorParameters} {fheaders : FitsHeaders}
    {xpixels ypixels : Int} {file : FileAnswers} {exposure : Nat} {imgBuffer : List Int32}
    {saved : Scan}
    (hsaved : saveKineticImage params fheaders xpixels ypixels file exposure imgBuffer =
      .ok saved)
    (hstatus : saved.status = 0) : savedExposures saved.events = [exposure] := by
  rcases saveKineticImage_cases hsaved with ⟨-, rfl⟩ |
    ⟨fitsFilename, filename, fits, status, image, -, -, -, ⟨-, rfl⟩ | ⟨-, rfl⟩⟩
  · cases hstatus
  · cases hstatus
  · rfl

theorem kineticTurn_saved {drvNumber : DrvCode → Nat} {params : AndorParameters}
    {fheaders : FitsHeaders} {xpixels ypixels : Int} {turn : KineticTurn}
    {imgBuffer filled : List Int32} {image : Scan}
    (himage : kineticTurn drvNumber params fheaders xpixels ypixels turn imgBuffer =
      .ok (image, filled))
    (hstatus : image.status = 0) : savedExposures image.events = [turn.mostRecent] := by
  rcases kineticTurn_cases himage with ⟨-, -, rfl⟩ |
    ⟨-, ⟨-, -, rfl⟩ | ⟨-, size, -, ⟨-, -, message, -, rfl⟩ | ⟨-, saved, -, hsaved, rfl⟩⟩⟩
  · cases hstatus
  · cases hstatus
  · cases hstatus
  · have hone := saveKineticImage_saved hsaved hstatus
    rw [savedExposures_append, savedExposures_reports, List.nil_append]
    exact hone

/-- A series that returns 0 has saved what its rounds have shown, to the end. -/
theorem kineticLoop_saved {drvNumber : DrvCode → Nat} {params : AndorParameters}
    {fheaders : FitsHeaders} {xpixels ypixels : Int} {turns : List KineticTurn}
    {counted : Int32} {imgBuffer : List Int32} {series : Scan}
    (hseries : kineticLoop drvNumber params fheaders xpixels ypixels turns counted imgBuffer =
      .ok (some series))
    (hstatus : series.status = 0) :
    savedExposures series.events = shownExposures params.numImages counted turns ∧
      Completes params.numImages counted turns := by
  induction turns generalizing counted imgBuffer series with
  | nil =>
      rw [kineticLoop] at hseries
      split at hseries
      · rename_i hall
        rw [← Option.some.inj (Except.ok.inj hseries)]
        exact ⟨rfl, hall⟩
      · cases hseries
  | cons turn later ih =>
      by_cases hall : params.numImages ≤ counted
      · rw [kineticLoop, if_pos hall] at hseries
        rw [← Option.some.inj (Except.ok.inj hseries), shownExposures, if_pos hall]
        exact ⟨rfl, Or.inl hall⟩
      · obtain ⟨image, filled, himage, hrest⟩ := kineticLoop_cons hall hseries
        rcases hrest with ⟨hfailed, rfl⟩ | ⟨hgoes, rest, hlater, rfl⟩
        · exact absurd hstatus hfailed
        · obtain ⟨hsaved, hcompletes⟩ := ih hlater hstatus
          rw [savedExposures_append, kineticTurn_saved himage hgoes, hsaved, shownExposures,
            if_neg hall]
          exact ⟨rfl, Or.inr hcompletes⟩

theorem Paced.pairwise {numImages counted : Int32} {shown : Nat} {turns : List KineticTurn}
    (hpaced : Paced numImages counted shown turns) :
    (shownExposures numImages counted turns).Pairwise (· ≤ ·) ∧
      ∀ exposure ∈ shownExposures numImages counted turns, shown ≤ exposure := by
  induction turns generalizing counted shown with
  | nil => exact ⟨List.Pairwise.nil, List.forall_mem_nil _⟩
  | cons turn later ih =>
      rw [shownExposures]
      split
      · exact ⟨List.Pairwise.nil, List.forall_mem_nil _⟩
      · rename_i hmore
        obtain ⟨-, hshown, hrecent, -, hlater⟩ := hpaced.resolve_left hmore
        obtain ⟨hsorted, hle⟩ := ih hlater
        have hstep : shown ≤ turn.mostRecent := by omega
        exact ⟨hsorted.cons hle, List.forall_mem_cons.mpr
          ⟨hstep, fun exposure hexposure => hstep.trans (hle exposure hexposure)⟩⟩

theorem inStep_of_shown_eq {numImages counted : Int32} {shown count : Nat}
    {turns : List KineticTurn}
    (hshown : shownExposures numImages counted turns = List.range' (shown + 1) count) :
    InStep numImages counted shown turns := by
  induction turns generalizing counted shown count with
  | nil => trivial
  | cons turn later ih =>
      rw [shownExposures] at hshown
      split at hshown
      · rename_i hall
        exact Or.inl hall
      · cases count with
        | zero => cases hshown
        | succ count =>
            rw [List.range'_succ] at hshown
            obtain ⟨hrecent, hlater⟩ := List.cons.inj hshown
            exact Or.inr ⟨hrecent, ih (hrecent ▸ hlater)⟩

theorem shown_eq_of_inStep {numImages counted : Int32} {shown : Nat}
    {turns : List KineticTurn} (hpaced : Paced numImages counted shown turns)
    (hcompletes : Completes numImages counted turns) (hstep : InStep numImages counted shown turns)
    (hcounted : counted.toInt ≤ shown) (hle : (shown : Int) ≤ numImages.toInt) :
    shownExposures numImages counted turns =
      List.range' (shown + 1) (numImages.toInt.toNat - shown) := by
  induction turns generalizing counted shown with
  | nil =>
      have hall := Int32.le_iff_toInt_le.mp hcompletes
      have hnone : numImages.toInt.toNat - shown = 0 := by omega
      rw [hnone]
      rfl
  | cons turn later ih =>
      rw [shownExposures]
      split
      · rename_i hall
        have hend := Int32.le_iff_toInt_le.mp hall
        have hnone : numImages.toInt.toNat - shown = 0 := by omega
        rw [hnone]
        rfl
      · rename_i hmore
        obtain ⟨-, -, htotal, hrecent, hlater⟩ := hpaced.resolve_left hmore
        obtain ⟨hnext, hsteps⟩ := hstep.resolve_left hmore
        have hleft : numImages.toInt.toNat - shown =
            numImages.toInt.toNat - turn.mostRecent + 1 := by omega
        rw [ih hlater (hcompletes.resolve_left hmore) hsteps htotal hrecent, hleft, hnext]
        rfl

/-- A kinetic series that returns 0 has saved each of its exposures once exactly when, from
round to round, exactly one more exposure became available. -/
theorem kinetic_saves_each_exposure_iff {drvNumber : DrvCode → Nat} {params : AndorParameters}
    {fheaders : FitsHeaders} {xpixels ypixels : Int} {turns : List KineticTurn}
    {imgBuffer : List Int32} {scan : Scan} (himages : 1 ≤ params.numImages)
    (hpaced : Paced params.numImages 0 0 turns)
    (hscan : getKineticScan drvNumber params fheaders xpixels ypixels turns imgBuffer =
      .ok (some scan))
    (hstatus : scan.status = 0) :
    (savedExposures scan.events).Perm (List.range' 1 params.numImages.toInt.toNat) ↔
      InStep params.numImages 0 0 turns := by
  obtain ⟨series, hseries, hscan⟩ := checked_bind_eq_ok.mp hscan
  obtain ⟨loop, rfl, rfl⟩ := Option.map_eq_some_iff.mp (Except.ok.inj hscan)
  obtain ⟨hsaved, hcompletes⟩ := kineticLoop_saved hseries hstatus
  have hstart : savedExposures (.startAcquisition :: loop.events) =
      savedExposures loop.events := rfl
  rw [hstart, hsaved]
  constructor
  · intro hperm
    have hequal := List.Perm.eq_of_pairwise (fun _ _ _ _ => Nat.le_antisymm)
      hpaced.pairwise.1 (List.pairwise_le_range' 1) hperm
    exact inStep_of_shown_eq hequal
  · intro hstep
    have hpositive : (1 : Int) ≤ params.numImages.toInt := Int32.le_iff_toInt_le.mp himages
    rw [shown_eq_of_inStep hpaced hcompletes hstep (by decide) (by omega)]
    exact List.Perm.refl _

/-- A round with which nothing is wrong. -/
def goodTurn (totalAcquired : Int32) (mostRecent : Nat) : KineticTurn :=
  { reports := [], sigAbortSet := false, sigInterruptSet := false
    waitForAcquisition := .success, totalAcquired := totalAcquired
    getMostRecentImage := .success, mostRecent := mostRecent, pixels := fun _ => 0
    file := emptyFile }

def twoImages : AndorParameters :=
  { windowParams 2 2 with numImages := 2, acquisitionMode := .kineticSeries }

def twoImagesScan (turns : List KineticTurn) : Checked (Option Scan) :=
  getKineticScan (fun _ => 20002) twoImages (FitsHeaders.construct 100) 2 2 turns [0, 0, 0, 0]

theorem exists_of_saved {turns : List KineticTurn} {exposures : List Nat}
    (hsaved : (twoImagesScan turns).map (fun scan => scan.map fun scan =>
      (scan.status, savedExposures scan.events)) = .ok (some (0, exposures))) :
    ∃ scan, twoImagesScan turns = .ok (some scan) ∧ scan.status = 0 ∧
      savedExposures scan.events = exposures := by
  obtain ⟨found, hfound, hscan⟩ := checked_map_eq_ok.mp hsaved
  obtain ⟨scan, rfl, hboth⟩ := Option.map_eq_some_iff.mp hscan
  obtain ⟨hstatus, hexposures⟩ := Prod.mk.inj hboth
  exact ⟨scan, hfound, hstatus, hexposures⟩

theorem two_images_in_step :
    ∃ scan, twoImagesScan [goodTurn 1 1, goodTurn 2 2] = .ok (some scan) ∧
      ((savedExposures scan.events).Perm (List.range' 1 (2 : Int32).toInt.toNat) ↔
        InStep 2 0 0 [goodTurn 1 1, goodTurn 2 2]) := by
  have hsaved : (twoImagesScan [goodTurn 1 1, goodTurn 2 2]).map (fun scan =>
      scan.map fun scan => (scan.status, savedExposures scan.events)) =
        .ok (some (0, [1, 2])) := by
    decide +kernel
  obtain ⟨scan, hscan, hstatus, -⟩ := exists_of_saved hsaved
  have hpaced : Paced 2 0 0 [goodTurn 1 1, goodTurn 2 2] := by
    simp [Paced, goodTurn]
  exact ⟨scan, hscan, kinetic_saves_each_exposure_iff (by decide) hpaced hscan hstatus⟩

/-- A camera that is through with both exposures before the first one is fetched. -/
theorem fast_camera_skips_exposure :
    ¬ ∀ (drvNumber : DrvCode → Nat) (params : AndorParameters) (fheaders : FitsHeaders)
      (xpixels ypixels : Int) (turns : List KineticTurn) (imgBuffer : List Int32)
      (scan : Scan), 1 ≤ params.numImages → Paced params.numImages 0 0 turns →
      getKineticScan drvNumber params fheaders xpixels ypixels turns imgBuffer =
        .ok (some scan) →
      scan.status = 0 →
      (savedExposures scan.events).Perm (List.range' 1 params.numImages.toInt.toNat) := by
  intro heach
  have hsaved : (twoImagesScan [goodTurn 2 2]).map (fun scan =>
      scan.map fun scan => (scan.status, savedExposures scan.events)) =
        .ok (some (0, [2])) := by
    decide +kernel
  obtain ⟨scan, hscan, hstatus, hexposures⟩ := exists_of_saved hsaved
  have hpaced : Paced 2 0 0 [goodTurn 2 2] := by
    simp [Paced, goodTurn]
  have hperm := heach _ _ _ _ _ _ _ scan (by decide) hpaced hscan hstatus
  rw [hexposures] at hperm
  exact absurd hperm.length_eq (by decide)

end Acquisition

end Andor2k
