/-
FitsImage: the image and the headers of one FITS file, as they are handed to cfitsio.
An image is a two-dimensional array whose first axis varies fastest.
-/
import Andor2k.FitsHeader
import Andor2k.Memory

namespace Andor2k

open CText Ieee

/-- The statuses cfitsio returns; 0 is success.  `updateKey` counts the entries of the
header table. -/
structure CfitsioAnswers where
  createImg : Int
  writeImg : Int
  updateKey : Nat → Int

/-- The primary array of a FITS file. -/
structure ImageArray where
  naxis1 : Nat
  naxis2 : Nat
  bitpix : Int
  data : List Int32
deriving DecidableEq

/-- The value at a position of the first axis and one of the second, from 0 on. -/
def ImageArray.pixel (image : ImageArray) (first second : Nat) : Option Int32 :=
  if first < image.naxis1 ∧ second < image.naxis2 then
    image.data[second * image.naxis1 + first]?
  else none

/-- One call of `fits_update_key`. -/
structure KeyUpdate where
  keyname : Text
  value : HeaderValue
  comment : Text
deriving DecidableEq

def KeyUpdate.ofHeader (hdr : FitsHeader) : KeyUpdate := ⟨hdr.key, hdr.value, hdr.comment⟩

/-- `FitsImage<int32_t>` -/
structure FitsImage where
  filename : CharArray 256
  xpixels : Nat
  ypixels : Nat

namespace FitsImage

def bitpix : Int := 32

/-- `FitsImage(fn, width, height)` -/
def construct (fn : Text) (width height : Nat) : Checked FitsImage :=
  if hfits : fn.length < 256 then .ok ⟨.ofText fn hfits, width, height⟩
  else .error .outOfBounds

/-- `write(image)`: the status, and the array in the file when both calls succeeded.
The second call does nothing when the first one failed. -/
def write (fits : FitsImage) (cfitsio : CfitsioAnswers) (image : List Int32) :
    Checked (Int × Option ImageArray) :=
  let naxes := (fits.ypixels, fits.xpixels)
  if cfitsio.createImg ≠ 0 then .ok (cfitsio.createImg, none)
  else if fits.xpixels * fits.ypixels ≤ image.length then
    if cfitsio.writeImg ≠ 0 then .ok (cfitsio.writeImg, none)
    else
      .ok (0, some
        { naxis1 := naxes.1
          naxis2 := naxes.2
          bitpix := bitpix
          data := image.take (fits.xpixels * fits.ypixels) })
  else .error .outOfBounds

theorem size_of_construct {fn : Text} {width height : Nat} {fits : FitsImage}
    (hfits : construct fn width height = .ok fits) :
    fits.xpixels = width ∧ fits.ypixels = height := by
  unfold construct at hfits
  split at hfits
  · simp only [Except.ok.injEq] at hfits
    rw [← hfits]
    exact ⟨rfl, rfl⟩
  · cases hfits

/-- A written image has `ypixels` on the first axis and `xpixels` on the second. -/
theorem image_of_write {fits : FitsImage} {cfitsio : CfitsioAnswers} {buffer : List Int32}
    {status : Int} {image : ImageArray}
    (hwrite : fits.write cfitsio buffer = .ok (status, some image)) :
    image = ⟨fits.ypixels, fits.xpixels, bitpix,
      buffer.take (fits.xpixels * fits.ypixels)⟩ := by
  simp only [write] at hwrite
  split_ifs at hwrite
  · simp at hwrite
  · simp at hwrite
  · simp only [Except.ok.injEq, Prod.mk.injEq, Option.some.injEq] at hwrite
    exact hwrite.2.symm

/-- The value types the switch of `apply_headers` has a case for. -/
def hasCase : ValueType → Bool
  | .tchar32 => true
  | .tint => true
  | .tfloat => true
  | .tuint => true
  | .tdouble => true
  | _ => false

/-- The loop of `apply_headers`: what it returns, and the calls it makes; `index` counts
the entries. -/
def applyLoop (cfitsio : CfitsioAnswers) (stopIfError : Bool) :
    Nat → Int → Int → List FitsHeader → Int × List KeyUpdate
  | _, applied, errors, [] => (if errors < 0 then errors else applied, [])
  | index, applied, errors, hdr :: rest =>
      let status := if hasCase hdr.value.type then cfitsio.updateKey index else -100
      let calls := if hasCase hdr.value.type then [KeyUpdate.ofHeader hdr] else []
      if status < -99 ∨ (status < 0 ∧ stopIfError) then (status, calls)
      else
        let errors := if status < 0 then errors - 1 else errors
        let applied := if status > 0 then applied + 1 else applied
        let (result, later) := applyLoop cfitsio stopIfError (index + 1) applied errors rest
        (result, calls ++ later)

def applyHeaders (cfitsio : CfitsioAnswers) (headers : FitsHeaders) (stopIfError : Bool) :
    Int × List KeyUpdate :=
  applyLoop cfitsio stopIfError 0 0 0 headers.mvec

end FitsImage

/-- Every entry of the table is handed over once, in the order of the table. -/
def HandsOverAll (headers : FitsHeaders) (calls : List KeyUpdate) : Prop :=
  calls = headers.mvec.map KeyUpdate.ofHeader

/-- One turn of the loop, for an entry without a case. -/
theorem applyLoop_of_not_hasCase (cfitsio : CfitsioAnswers) (stopIfError : Bool)
    (index : Nat) (applied errors : Int) {hdr : FitsHeader} (rest : List FitsHeader)
    (hcase : FitsImage.hasCase hdr.value.type = false) :
    FitsImage.applyLoop cfitsio stopIfError index applied errors (hdr :: rest) =
      (-100, []) := by
  simp [FitsImage.applyLoop, hcase]

/-- One turn of the loop, for an entry whose call has a status below the threshold. -/
theorem applyLoop_of_status_lt {cfitsio : CfitsioAnswers} (stopIfError : Bool)
    {index : Nat} (applied errors : Int) {hdr : FitsHeader} (rest : List FitsHeader)
    (hcase : FitsImage.hasCase hdr.value.type = true)
    (hstatus : cfitsio.updateKey index < -99) :
    FitsImage.applyLoop cfitsio stopIfError index applied errors (hdr :: rest) =
      (cfitsio.updateKey index, [KeyUpdate.ofHeader hdr]) := by
  simp [FitsImage.applyLoop, hcase, hstatus]

/-- One turn of the loop, for an entry whose call lets the loop go on. -/
theorem applyLoop_of_le_status {cfitsio : CfitsioAnswers} {index : Nat}
    (applied errors : Int) {hdr : FitsHeader} (rest : List FitsHeader)
    (hcase : FitsImage.hasCase hdr.value.type = true)
    (hstatus : -99 ≤ cfitsio.updateKey index) :
    ∃ applied' errors',
      (FitsImage.applyLoop cfitsio false index applied errors (hdr :: rest)).2 =
        KeyUpdate.ofHeader hdr ::
          (FitsImage.applyLoop cfitsio false (index + 1) applied' errors' rest).2 := by
  have hgo : ¬ cfitsio.updateKey index < -99 := by omega
  refine ⟨if cfitsio.updateKey index > 0 then applied + 1 else applied,
    if cfitsio.updateKey index < 0 then errors - 1 else errors, ?_⟩
  simp [FitsImage.applyLoop, hcase, hgo]

theorem applyLoop_eq_map_iff (cfitsio : CfitsioAnswers) (index : Nat)
    (applied errors : Int) (entries : List FitsHeader) :
    (FitsImage.applyLoop cfitsio false index applied errors entries).2 =
        entries.map KeyUpdate.ofHeader ↔
      (∀ hdr ∈ entries, FitsImage.hasCase hdr.value.type = true) ∧
        ∀ turn, turn + 1 < entries.length → -99 ≤ cfitsio.updateKey (index + turn) := by
  induction entries generalizing index applied errors with
  | nil => simp [FitsImage.applyLoop]
  | cons hdr rest ih =>
      cases hcase : FitsImage.hasCase hdr.value.type with
      | false =>
          rw [applyLoop_of_not_hasCase cfitsio false index applied errors rest hcase]
          simp [hcase]
      | true =>
          by_cases hstatus : cfitsio.updateKey index < -99
          · rw [applyLoop_of_status_lt false applied errors rest hcase hstatus]
            constructor
            · intro hall
              have hrest : rest = [] := by simpa using hall
              subst rest
              simp [hcase]
            · rintro ⟨-, hgo⟩
              have hrest : rest = [] := by
                by_contra hne
                have hpos := List.length_pos_iff.mpr hne
                have := hgo 0 (by rw [List.length_cons]; omega)
                rw [Nat.add_zero] at this
                omega
              rw [hrest, List.map_singleton]
          · have hgoes : -99 ≤ cfitsio.updateKey index := by omega
            obtain ⟨applied', errors', hloop⟩ :=
              applyLoop_of_le_status applied errors rest hcase hgoes
            rw [hloop, List.map_cons, List.cons.injEq, ih]
            constructor
            · rintro ⟨-, hcases, hgo⟩
              constructor
              · intro entry hentry
                rcases List.mem_cons.mp hentry with rfl | hentry
                · exact hcase
                · exact hcases entry hentry
              · intro turn hturn
                cases turn with
                | zero => rwa [Nat.add_zero]
                | succ turn =>
                    have := hgo turn (by rw [List.length_cons] at hturn; omega)
                    rwa [Nat.add_assoc, Nat.add_comm 1] at this
            · rintro ⟨hcases, hgo⟩
              refine ⟨rfl, fun entry hentry => hcases entry (List.mem_cons_of_mem _ hentry),
                fun turn hturn => ?_⟩
              have := hgo (turn + 1) (by rw [List.length_cons]; omega)
              rwa [Nat.add_assoc, Nat.add_comm 1]

/-- The whole table is handed over exactly when the switch has a case for every entry
and no entry but the last is answered with a status below the threshold. -/
theorem handsOverAll_iff (cfitsio : CfitsioAnswers) (headers : FitsHeaders) :
    HandsOverAll headers (FitsImage.applyHeaders cfitsio headers false).2 ↔
      (∀ hdr ∈ headers.mvec, FitsImage.hasCase hdr.value.type = true) ∧
        ∀ turn, turn + 1 < headers.mvec.length → -99 ≤ cfitsio.updateKey turn := by
  have hloop := applyLoop_eq_map_iff cfitsio 0 0 0 headers.mvec
  simp only [Nat.zero_add] at hloop
  exact hloop

/-- Every call succeeds. -/
def willingCfitsio : CfitsioAnswers := ⟨0, 0, fun _ => 0⟩

/-- The time correction and the temperature, as `setup_acquisition` adds them. -/
def timedHeaders : Checked FitsHeaders := do
  let timecorr ← createFitsHeaderLong (ascii "TIMECORR") 150000000
    (ascii "Timming correction already applied (nanosec)")
  let ccdtemp ← createFitsHeaderFloat (ascii "CCDTEMP") ⟨0xC2200000⟩
    (ascii "CCD temp at start of exposure degC")
  return (((FitsHeaders.construct 100).update timecorr).2.update ccdtemp).2

/-- The `long` entry has no case: neither it nor the temperature behind it is written. -/
theorem timecorr_stops_the_headers :
    ∃ headers, timedHeaders = .ok headers ∧ headers.mvec.length = 2 ∧
      (FitsImage.applyHeaders willingCfitsio headers false).2 = [] ∧
      ¬ HandsOverAll headers (FitsImage.applyHeaders willingCfitsio headers false).2 := by
  have hlength : timedHeaders.map (fun headers => headers.mvec.length) = .ok 2 := by
    decide +kernel
  have hcalls : timedHeaders.map (fun headers =>
      (FitsImage.applyHeaders willingCfitsio headers false).2) = .ok [] := by
    decide +kernel
  obtain ⟨headers, hheaders, htwo⟩ := checked_map_eq_ok.mp hlength
  rw [hheaders] at hcalls
  have hnone : (FitsImage.applyHeaders willingCfitsio headers false).2 = [] := by
    simpa [Except.map] using hcalls
  refine ⟨headers, hheaders, htwo, hnone, ?_⟩
  intro hall
  have hempty := congrArg List.length hall
  rw [hnone, List.length_map, htwo] at hempty
  exact absurd hempty (by decide)

end Andor2k
