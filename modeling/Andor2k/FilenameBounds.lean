/-
The buffers of make_fits_filename and get_next_fits_filename: how long a generic name may
be for the date, the index and the extension to fit behind it.
-/
import Andor2k.FitsFilenames

namespace Andor2k

open CText

/-- The index the next name of a series gets. -/
def nextIndex (stem : Text) (listing : List Text) : Int :=
  Numbering.highest (entryIndex stem) listing + 1

/-- Nothing is appended, or there is a next index and its name fits with its NUL; without
a date it is the date of the error message that has to fit. -/
def FilenameFits (filename : Text) (isDirectory : Bool) (date : Option UtcDate)
    (listing : List Text) : Prop :=
  isDirectory = true →
    (date = none → filename.length + dateStrLength < maxFitsFilenameSize) ∧
      ∀ day, date = some day →
        nextIndex (filename ++ day.text) listing ≤ intMax ∧
          filename.length + 8 +
              (decimal (nextIndex (filename ++ day.text) listing).toNat).length + 5 <
            maxFitsFilenameSize

/-- The loop counts unless the index behind the highest one is no `int`. -/
theorem countImages_defined_iff (stem : Text) {imgCount : Int} {listing : List Text}
    (hone : 1 ≤ imgCount) (hint : imgCount ≤ intMax) :
    (∃ count, countImages stem imgCount listing = .ok count) ↔
      nextIndex stem listing ≤ intMax := by
  constructor
  · rintro ⟨count, hcount⟩
    induction listing generalizing imgCount with
    | nil =>
        rw [nextIndex, Numbering.highest]
        decide
    | cons name rest ih =>
        rw [countImages] at hcount
        rw [nextIndex, Numbering.highest]
        cases hindex : entryIndex stem name with
        | none =>
            rw [hindex] at hcount
            have hrest := ih hone hint hcount
            rw [nextIndex] at hrest
            rw [Option.getD_none]
            omega
        | some currentCount =>
            rw [hindex] at hcount
            dsimp only at hcount
            rw [Option.getD_some]
            split at hcount
            · obtain ⟨next, hnext, hcount⟩ := checked_bind_eq_ok.mp hcount
              obtain ⟨hrange, rfl⟩ := checkInt_eq_ok.mp hnext
              have hmax : intMax = 2 ^ 31 - 1 := rfl
              have hrest := ih (by omega) (by omega) hcount
              rw [nextIndex] at hrest
              omega
            · have hrest := ih hone hint hcount
              rw [nextIndex] at hrest
              omega
  · intro hnext
    exact ⟨_, countImages_eq stem hone (Int.lt_of_add_one_le hnext)⟩

theorem length_text_lt {size : Nat} {array : CharArray size} {text : Text}
    (htext : array.text = .ok text) : text.length < size := by
  rw [CharArray.text, cString] at htext
  split at htext
  · rename_i hnul
    have hshort : (array.bytes.takeWhile (· ≠ 0)).length < array.bytes.length := by
      apply (List.takeWhile_prefix _).length_le.lt_of_ne
      intro hlength
      rw [← (List.takeWhile_prefix _).eq_of_length hlength] at hnul
      simpa using List.mem_takeWhile_imp hnul
    rw [array.length_bytes] at hshort
    rwa [← Except.ok.inj htext]
  · cases htext

theorem length_directoryPrefix_le (dir : Text) : (directoryPrefix dir).length ≤ dir.length + 1 := by
  rw [directoryPrefix]
  split
  · exact Nat.le_succ _
  · rw [List.length_append, List.length_singleton]

theorem length_appendPath_le (dir filename : Text) :
    (appendPath dir filename).length ≤ dir.length + 1 + filename.length := by
  rw [appendPath]
  split
  · exact Nat.le_add_left _ _
  · rw [List.length_append]
    exact Nat.add_le_add_right (length_directoryPrefix_le dir) _

theorem checked_bind_defined {A B : Type} {computation : Checked A} {f : A → Checked B} :
    (∃ result, (computation >>= f) = .ok result) ↔
      ∃ value, computation = .ok value ∧ ∃ result, f value = .ok result := by
  simp only [checked_bind_eq_ok]
  constructor
  · rintro ⟨result, value, hvalue, hresult⟩
    exact ⟨value, hvalue, result, hresult⟩
  · rintro ⟨value, hvalue, result, hresult⟩
    exact ⟨result, value, hvalue, hresult⟩

/-- What can be appended to a text that fits. -/
theorem appendWithin_defined {A : Type} {capacity : Nat} {content added : Text}
    {f : Text → Checked A} :
    (∃ result, (appendWithin capacity content added >>= f) = .ok result) ↔
      content.length + added.length < capacity ∧ ∃ result, f (content ++ added) = .ok result := by
  rw [checked_bind_defined]
  constructor
  · rintro ⟨value, hvalue, hresult⟩
    obtain ⟨hfits, rfl⟩ := appendWithin_eq_ok.mp hvalue
    exact ⟨hfits, hresult⟩
  · rintro ⟨hfits, hresult⟩
    exact ⟨_, appendWithin_eq_ok.mpr ⟨hfits, rfl⟩, hresult⟩

theorem makeFitsFilename_defined_iff {params : AndorParameters} {dir filename : Text}
    (hdir : params.saveDir.text = .ok dir) (hfilename : params.imageFilename.text = .ok filename)
    (isDirectory : Bool) (date : Option UtcDate) (listing : List Text) :
    (∃ path, makeFitsFilename params isDirectory date listing = .ok path) ↔
      FilenameFits filename isDirectory date listing := by
  have hlength := length_text_lt hfilename
  rw [makeFitsFilename, hdir, FilenameFits]
  cases isDirectory with
  | false => exact iff_of_true ⟨_, rfl⟩ (by rintro ⟨⟩)
  | true =>
      rw [hfilename]
      refine appendWithin_defined.trans ?_
      rw [List.nil_append, List.length_nil, Nat.zero_add, and_iff_right hlength]
      cases date with
      | none =>
          refine appendWithin_defined.trans ?_
          rw [List.length_replicate]
          exact ⟨fun hfits _ => ⟨fun _ => hfits.1, by rintro _ ⟨⟩⟩,
            fun hfits => ⟨(hfits rfl).1 rfl, _, rfl⟩⟩
      | some day =>
          have hdigits : day.text.length = 8 := rfl
          have hextension : (ascii ".fits").length = 5 := rfl
          have hnonneg := Numbering.highest_nonneg (entryIndex (filename ++ day.text)) listing
          refine appendWithin_defined.trans ?_
          rw [checked_bind_defined]
          constructor
          · rintro ⟨-, imgCount, hcount, hresult⟩
            have hnext := (countImages_defined_iff (filename ++ day.text) (Int.le_refl 1)
              (by decide)).mp ⟨imgCount, hcount⟩
            rw [countImages_eq _ (Int.le_refl 1) (Int.lt_of_add_one_le hnext),
              max_eq_right (by omega), Except.ok.injEq] at hcount
            subst hcount
            obtain ⟨-, hresult⟩ := appendWithin_defined.mp hresult
            obtain ⟨hfits, -⟩ := appendWithin_defined.mp hresult
            rw [List.length_append, List.length_append, hdigits, hextension] at hfits
            refine fun _ => ⟨by rintro ⟨⟩, ?_⟩
            rintro _ ⟨⟩
            exact ⟨hnext, hfits⟩
          · intro hall
            obtain ⟨hnext, hfits⟩ := (hall rfl).2 day rfl
            refine ⟨by omega, _, countImages_eq _ (Int.le_refl 1) (Int.lt_of_add_one_le hnext), ?_⟩
            rw [max_eq_right (by omega)]
            refine appendWithin_defined.mpr ⟨?_, appendWithin_defined.mpr ⟨?_, _, rfl⟩⟩
            · rw [List.length_append, hdigits]
              exact lt_of_le_of_lt (Nat.le_add_right _ 5) hfits
            · rw [List.length_append, List.length_append, hdigits, hextension]
              exact hfits

/-- The path of a name that fits fits the buffer of the caller. -/
theorem length_makeFitsFilename_lt {params : AndorParameters} {dir path : Text}
    {isDirectory : Bool} {date : Option UtcDate} {listing : List Text}
    (hdir : params.saveDir.text = .ok dir)
    (hpath : makeFitsFilename params isDirectory date listing = .ok (some path)) :
    path.length < maxFitsFileSize := by
  have hlength := length_text_lt hdir
  obtain ⟨sdir, hsdir, hpath⟩ := checked_bind_eq_ok.mp hpath
  obtain rfl := Except.ok.inj (hdir.symm.trans hsdir)
  cases isDirectory with
  | false => cases hpath
  | true =>
      obtain ⟨_, -, hpath⟩ := checked_bind_eq_ok.mp hpath
      obtain ⟨_, -, hpath⟩ := checked_bind_eq_ok.mp hpath
      cases date with
      | none =>
          obtain ⟨_, -, hpath⟩ := checked_bind_eq_ok.mp hpath
          cases hpath
      | some day =>
          obtain ⟨_, -, hpath⟩ := checked_bind_eq_ok.mp hpath
          obtain ⟨_, -, hpath⟩ := checked_bind_eq_ok.mp hpath
          obtain ⟨stemIndex, -, hpath⟩ := checked_bind_eq_ok.mp hpath
          obtain ⟨filename, hfits, hpath⟩ := checked_bind_eq_ok.mp hpath
          obtain ⟨hfits, rfl⟩ := appendWithin_eq_ok.mp hfits
          rw [← Option.some.inj (Except.ok.inj hpath)]
          have hwhole := length_appendPath_le dir (stemIndex ++ ascii ".fits")
          rw [List.length_append] at hwhole
          have hname : maxFitsFilenameSize = 128 := rfl
          have hfile : maxFitsFileSize = 256 := rfl
          omega

/-- Both functions stay within their buffers exactly when the name fits. -/
theorem filename_buffers_iff {params : AndorParameters} {dir filename : Text}
    (hdir : params.saveDir.text = .ok dir) (hfilename : params.imageFilename.text = .ok filename)
    (isDirectory : Bool) (date : Option UtcDate) (listing : List Text) :
    (∃ path buffer, makeFitsFilename params isDirectory date listing = .ok path ∧
        getNextFitsFilename params isDirectory date listing = .ok buffer) ↔
      FilenameFits filename isDirectory date listing := by
  rw [← makeFitsFilename_defined_iff hdir hfilename]
  constructor
  · rintro ⟨path, -, hpath, -⟩
    exact ⟨path, hpath⟩
  · rintro ⟨path, hpath⟩
    cases path with
    | none =>
        refine ⟨none, none, hpath, ?_⟩
        rw [getNextFitsFilename, hpath]
        rfl
    | some path =>
        have hfits := length_makeFitsFilename_lt hdir hpath
        refine ⟨some path, some (.ofText path hfits), hpath, ?_⟩
        rw [getNextFitsFilename, hpath]
        exact dif_pos hfits

/-- image --filename, and a name of so many characters. -/
def nameCommand (count : Nat) (hfits : count + 17 < maxSocketBufferSize) : CommandBuffer :=
  .ofText (ascii "image --filename " ++ List.replicate count 97) (by
    rw [List.length_append, List.length_replicate, Nat.add_comm]
    exact hfits)

def nameParams (count : Nat) (hfits : count < maxFitsFilenameSize) : AndorParameters :=
  { AndorParameters.initial [] with
    imageFilename := .ofText (List.replicate count 97) (by rwa [List.length_replicate])
    saveDir := AndorParameters.fixedSaveDir }

/-- The index 1 leaves no room for the NUL behind the extension. -/
theorem longName_overruns :
    ¬ ∀ (command : CommandBuffer) (before after : AndorParameters) (isDirectory : Bool)
      (date : Option UtcDate) (listing : List Text),
      resolveImageParameters command before = .ok ⟨0, after⟩ →
      ∃ path buffer, makeFitsFilename after isDirectory date listing = .ok path ∧
        getNextFitsFilename after isDirectory date listing = .ok buffer := by
  intro hfits
  have haccepted : resolveImageParameters (nameCommand 114 (by decide))
      (AndorParameters.initial []) = .ok ⟨0, nameParams 114 (by decide)⟩ := by
    decide +kernel
  obtain ⟨path, -, hpath, -⟩ := hfits _ _ _ true (some newYear) [] haccepted
  have hoverrun : makeFitsFilename (nameParams 114 (by decide)) true (some newYear) [] =
      .error .outOfBounds := by
    decide +kernel
  rw [hoverrun] at hpath
  cases hpath

/-- One character less leaves room for one digit. -/
theorem shorterName_fits :
    (∃ path buffer,
      makeFitsFilename (nameParams 113 (by decide)) true (some newYear) [] = .ok path ∧
        getNextFitsFilename (nameParams 113 (by decide)) true (some newYear) [] = .ok buffer) ↔
      FilenameFits (List.replicate 113 97) true (some newYear) [] :=
  filename_buffers_iff
    (show (nameParams 113 _).saveDir.text = .ok AndorParameters.defaultSaveDir by decide +kernel)
    (by decide +kernel) true (some newYear) []

end Andor2k
