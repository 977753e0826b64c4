/-
The window of an accepted `image` command: what the tests behind the options leave of it,
and what the size test of setup_acquisition adds.
-/
import Andor2k.SaveAsFits
import Andor2k.WrittenFields

namespace Andor2k

open CText

/-- What the final tests of `resolve_image_parameters` look at, member by member. -/
structure FieldsInRange (params : AndorParameters) : Prop where
  hbin : params.imageHbin ≠ 0
  vbin : params.imageVbin ≠ 0
  hstart : 1 ≤ params.imageHstart.toInt ∧ params.imageHstart.toInt < 2048
  vstart : 1 ≤ params.imageVstart.toInt ∧ params.imageVstart.toInt < 2048
  hend : 1 < params.imageHend.toInt ∧ params.imageHend.toInt ≤ 2048
  vend : 1 < params.imageVend.toInt ∧ params.imageVend.toInt ≤ 2048

/-- One side of a window that is part of the detector, with a binning that fits it. -/
structure LegalSide (start stop bin : Int32) : Prop where
  first : 1 ≤ start.toInt
  ordered : start.toInt ≤ stop.toInt
  last : stop.toInt ≤ 2048
  positive : 1 ≤ bin.toInt
  fits : bin.toInt ≤ stop.toInt - start.toInt + 1

def LegalWindow (params : AndorParameters) : Prop :=
  LegalSide params.imageHstart params.imageHend params.imageHbin ∧
    LegalSide params.imageVstart params.imageVend params.imageVbin

theorem fieldsInRange_of_finalStatus {params : AndorParameters}
    (hstatus : finalStatus params = 0) : FieldsInRange params := by
  simp only [finalStatus] at hstatus
  split_ifs at hstatus with hexposure hends hstarts hbins
  · cases hstatus
  · cases hstatus
  · cases hstatus
  · cases hstatus
  · simp only [not_or, Int32.le_iff_toInt_le, Int32.lt_iff_toInt_lt, Int.not_le,
      Int.not_lt] at hends hstarts hbins
    obtain ⟨⟨hhend, hhendMax⟩, hvend, hvendMax⟩ := hends
    obtain ⟨⟨hhstart, hhstartMax⟩, hvstart, hvstartMax⟩ := hstarts
    exact
      { hbin := hbins.2, vbin := hbins.1
        hstart := ⟨hhstart, hhstartMax⟩, vstart := ⟨hvstart, hvstartMax⟩
        hend := ⟨hhend, hhendMax⟩, vend := ⟨hvend, hvendMax⟩ }

theorem finishImage_accepted {params next : AndorParameters}
    (hfinish : finishImage params = ⟨0, next⟩) :
    FieldsInRange next ∧ next.readOutMode = .image := by
  simp only [finishImage] at hfinish
  split at hfinish
  · cases hfinish
  · rename_i hmode
    obtain ⟨hstatus, rfl⟩ := Reply.mk.inj hfinish
    exact ⟨fieldsInRange_of_finalStatus hstatus, not_not.mp hmode⟩

/-- Every refusal has a status of its own, so an accepted command has passed the final
tests. -/
theorem resolveOptions_accepted {tokens : Tokens} {params next : AndorParameters}
    (hmode : params.readOutMode = .image)
    (haccepted : resolveOptions tokens params = .ok ⟨0, next⟩) :
    FieldsInRange next ∧ next.readOutMode = .image := by
  induction tokens, params using resolveOptions.induct with
  | case1 params => exact finishImage_accepted (Except.ok.inj haccepted)
  | case2 params => cases haccepted
  | case3 word rest params hoption ih =>
      simp only [resolveOptions, hoption] at haccepted
      exact ih hmode haccepted
  | case4 word params option hoption =>
      simp only [resolveOptions, hoption] at haccepted
      cases haccepted
  | case5 word params option hoption =>
      simp only [resolveOptions, hoption] at haccepted
      cases haccepted
  | case6 word params option hoption value rest status after hstore =>
      simp only [resolveOptions, hoption, hstore, Except.ok.injEq, Reply.mk.injEq] at haccepted
      exact absurd haccepted.1 (ImageOption.refused_of_store hmode hstore).2
  | case7 word params option hoption value rest after hstore ih =>
      simp only [resolveOptions, hoption, hstore] at haccepted
      exact ih (ImageOption.kept_of_store hmode hstore).2 haccepted

theorem resolveImageParameters_accepted {command : CommandBuffer}
    {before params : AndorParameters}
    (haccepted : resolveImageParameters command before = .ok ⟨0, params⟩) :
    FieldsInRange params ∧ params.readOutMode = .image := by
  rw [resolveImageParameters] at haccepted
  split at haccepted
  · cases haccepted
  · split at haccepted
    · cases haccepted
    · rename_i hmode
      split at haccepted
      · cases haccepted
      · exact finishImage_accepted (Except.ok.inj haccepted)
      · exact resolveOptions_accepted (not_not.mp hmode) haccepted

/-- The set-up hands out a size exactly when it succeeds. -/
theorem size_of_setup {params : AndorParameters} {answers : SetupAnswers}
    {headers : FitsHeaders} {setup : Setup}
    (hsetup : setupAcquisition params answers headers = .ok setup) :
    (setup.status = 0 ∧ ∃ size, setup.size = some size) ∨
      (setup.status ≠ 0 ∧ setup.size = none) := by
  rw [setupAcquisition] at hsetup
  split at hsetup
  · rename_i status hrefused
    rw [← Except.ok.inj hsetup]
    exact Or.inr ⟨refusedSetup_ne_zero hrefused, rfl⟩
  · obtain ⟨found, -, hsetup⟩ := checked_bind_eq_ok.mp hsetup
    split at hsetup
    · rw [← Except.ok.inj hsetup]
      exact Or.inr ⟨by simp, rfl⟩
    · rename_i size
      dsimp only at hsetup
      split at hsetup
      · rename_i hmerged
        rw [← Except.ok.inj hsetup]
        exact Or.inr ⟨hmerged, rfl⟩
      · obtain ⟨⟨status, table⟩, -, hsetup⟩ := checked_bind_eq_ok.mp hsetup
        dsimp only at hsetup
        split at hsetup
        · rename_i hfailed
          rw [← Except.ok.inj hsetup]
          exact Or.inr ⟨hfailed, rfl⟩
        · rw [← Except.ok.inj hsetup]
          exact Or.inl ⟨rfl, size, rfl⟩

/-- The size that is handed out has passed the size test. -/
theorem imageSize_range {params : AndorParameters} {width height : Nat}
    (hsize : imageSize params = .ok (some (width, height))) :
    (1 ≤ width ∧ width ≤ 2048) ∧ 1 ≤ height ∧ height ≤ 2048 := by
  obtain ⟨xnumpixels, -, hrest⟩ := checked_bind_eq_ok.mp hsize
  obtain ⟨ynumpixels, -, hrest⟩ := checked_bind_eq_ok.mp hrest
  have hmax : maxPixelsInDim.toInt = 2048 := rfl
  rw [hmax] at hrest
  split at hrest
  · cases hrest
  · simp only [pure, Except.pure, Except.ok.injEq, Option.some.injEq, Prod.mk.injEq] at hrest
    omega

theorem size_range_of_setup {params : AndorParameters} {answers : SetupAnswers}
    {headers : FitsHeaders} {setup : Setup}
    (hsetup : setupAcquisition params answers headers = .ok setup) (hstatus : setup.status = 0) :
    ∃ width height, setup.size = some (width, height) ∧
      imageSize params = .ok (some (width, height)) ∧
      (1 ≤ width ∧ width ≤ 2048) ∧ 1 ≤ height ∧ height ≤ 2048 := by
  rcases size_of_setup hsetup with ⟨-, ⟨width, height⟩, hsize⟩ | ⟨hfailed, -⟩
  · have hcomputed := imageSize_of_setup hsetup hsize
    exact ⟨width, height, hsize, hcomputed, imageSize_range hcomputed⟩
  · exact absurd hstatus hfailed

theorem legalSide_of_size {start stop bin : Int32} {size : Nat} (hfirst : 1 ≤ start.toInt)
    (hlast : stop.toInt ≤ 2048) (hpositive : 0 < bin) (hsize : 1 ≤ size)
    (hdiv : (stop.toInt - start.toInt + 1).tdiv bin.toInt = size) :
    LegalSide start stop bin := by
  have hbin : 0 < bin.toInt := Int32.lt_iff_toInt_lt.mp hpositive
  have hspan : bin.toInt ≤ stop.toInt - start.toInt + 1 := by
    by_contra hshort
    have hquotient : (stop.toInt - start.toInt + 1).tdiv bin.toInt ≤
        (bin.toInt - 1).tdiv bin.toInt := Int.tdiv_le_tdiv hbin (by omega)
    rw [hdiv, Int.tdiv_eq_zero_of_lt (by omega) (by omega)] at hquotient
    omega
  exact
    { first := hfirst, ordered := by omega, last := hlast, positive := hbin, fits := hspan }

/-- An accepted window passes the tests member by member; that its sides are in order and
its binnings fit follows, for positive binnings, once the set-up has tested the size. -/
theorem accepted_window {command : CommandBuffer} {before params : AndorParameters}
    (haccepted : resolveImageParameters command before = .ok ⟨0, params⟩) :
    FieldsInRange params ∧
      ∀ (answers : SetupAnswers) (headers : FitsHeaders) (setup : Setup),
        setupAcquisition params answers headers = .ok setup → setup.status = 0 →
        0 < params.imageHbin → 0 < params.imageVbin → LegalWindow params := by
  obtain ⟨hfields, -⟩ := resolveImageParameters_accepted haccepted
  refine ⟨hfields, fun answers headers setup hsetup hstatus hhbin hvbin => ?_⟩
  obtain ⟨width, height, -, hsize, ⟨hwidth, -⟩, hheight, -⟩ :=
    size_range_of_setup hsetup hstatus
  obtain ⟨hx, hy⟩ := imageSize_eq_some hsize
  exact ⟨legalSide_of_size hfields.hstart.1 hfields.hend.2 hhbin hwidth hx,
    legalSide_of_size hfields.vstart.1 hfields.vend.2 hvbin hheight hy⟩

def smallWindow : CommandBuffer := .ofText (ascii "image --hend 2 --vend 2") (by decide)

def reversedWindow : CommandBuffer := .ofText (ascii "image --hstart 100 --hend 50") (by decide)

def reversedParams : AndorParameters :=
  { windowParams 50 2048 with imageHstart := 100 }

theorem resolve_smallWindow :
    resolveImageParameters smallWindow (AndorParameters.initial []) =
      .ok ⟨0, windowParams 2 2⟩ := by
  decide +kernel

theorem smallWindow_accepted :
    FieldsInRange (windowParams 2 2) ∧
      ∀ (answers : SetupAnswers) (headers : FitsHeaders) (setup : Setup),
        setupAcquisition (windowParams 2 2) answers headers = .ok setup → setup.status = 0 →
        0 < (windowParams 2 2).imageHbin → 0 < (windowParams 2 2).imageVbin →
        LegalWindow (windowParams 2 2) :=
  accepted_window resolve_smallWindow

/-- A window that ends before it starts passes the tests. -/
theorem reversed_window_is_accepted :
    ¬ ∀ (command : CommandBuffer) (before params : AndorParameters),
      resolveImageParameters command before = .ok ⟨0, params⟩ → LegalWindow params := by
  intro hlegal
  have haccepted : resolveImageParameters reversedWindow (AndorParameters.initial []) =
      .ok ⟨0, reversedParams⟩ := by
    decide +kernel
  have hordered := (hlegal _ _ _ haccepted).1.ordered
  exact absurd hordered (by decide)

end Andor2k
