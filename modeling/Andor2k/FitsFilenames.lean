/-
make_fits_filename: the path of the next exposure.  The save directory is searched for
names that start like the new one, and the new index goes behind the highest of theirs.
-/
import Mathlib.Data.List.Nodup
import Andor2k.ImageCommand
import Andor2k.Numbering

namespace Andor2k

open CText

/-- A day of the UTC calendar that `%Y%m%d` writes with eight digits. -/
structure UtcDate where
  year : Nat
  month : Nat
  day : Nat
  year_range : 1000 ≤ year ∧ year ≤ 9999
  month_range : 1 ≤ month ∧ month ≤ 12
  day_range : 1 ≤ day ∧ day ≤ 31
deriving DecidableEq, Repr

/-- The last decimal digit of a number. -/
def lastDigit (n : Nat) : UInt8 := UInt8.ofNat (48 + n % 10)

/-- `strftime(buf, MAX_FITS_FILENAME_SIZE, "%Y%m%d", now_utc)` -/
def UtcDate.text (date : UtcDate) : Text :=
  [lastDigit (date.year / 1000), lastDigit (date.year / 100), lastDigit (date.year / 10),
    lastDigit date.year, lastDigit (date.month / 10), lastDigit date.month,
    lastDigit (date.day / 10), lastDigit date.day]

def slash : UInt8 := 47
def dot : UInt8 := 46

/-- What `sdir /= filename` puts in front of a relative file name. -/
def directoryPrefix (dir : Text) : Text :=
  if dir = [] ∨ dir.getLast? = some slash then dir else dir ++ [slash]

/-- `sdir /= filename`: an absolute file name replaces the directory. -/
def appendPath (dir filename : Text) : Text :=
  if filename.head? = some slash then filename else directoryPrefix dir ++ filename

/-- The index of a directory entry: a number behind the stem that a dot follows. -/
def entryIndex (stem name : Text) : Option Int :=
  if startsWith name stem then
    let text := name.drop stem.length
    let parsed := strtol text
    if parsed.rest ≠ text ∧ parsed.rest.head? = some dot then
      some (Int32.ofInt parsed.value).toInt
    else none
  else none

/-- The loop over the directory entries. -/
def countImages (stem : Text) : Int → List Text → Checked Int
  | imgCount, [] => .ok imgCount
  | imgCount, name :: rest =>
      match entryIndex stem name with
      | none => countImages stem imgCount rest
      | some currentCount =>
          if imgCount ≤ currentCount then do
            countImages stem (← addInt currentCount 1) rest
          else countImages stem imgCount rest

/-- As many characters as `date_str` writes: `%F %T` of the local time. -/
def dateStrLength : Nat := 19

/-- `date` is what `gmtime` gives, `listing` what the directory iterator gives. -/
def makeFitsFilename (params : AndorParameters) (isDirectory : Bool)
    (date : Option UtcDate) (listing : List Text) : Checked (Option Text) := do
  let sdir ← params.saveDir.text
  if ¬ isDirectory then return none
  let filename ← appendWithin maxFitsFilenameSize [] (← params.imageFilename.text)
  match date with
  | none =>
      -- the error message has its date written where the digits were to go
      let _ ← appendWithin maxFitsFilenameSize filename (List.replicate dateStrLength 32)
      return none
  | some date =>
      let filename ← appendWithin maxFitsFilenameSize filename date.text
      let imgCount ← countImages filename 1 listing
      let filename ← appendWithin maxFitsFilenameSize filename (decimal imgCount.toNat)
      let filename ← appendWithin maxFitsFilenameSize filename (ascii ".fits")
      return some (appendPath sdir filename)

/-- The path copied to the caller's buffer, or nothing. -/
def getNextFitsFilename (params : AndorParameters) (isDirectory : Bool)
    (date : Option UtcDate) (listing : List Text) :
    Checked (Option (CharArray maxFitsFileSize)) := do
  match ← makeFitsFilename params isDirectory date listing with
  | none => return none
  | some path =>
      if hfits : path.length < maxFitsFileSize then return some (.ofText path hfits)
      else .error .outOfBounds

theorem ne_slash_lastDigit (n : Nat) : slash ≠ lastDigit n := by
  intro heq
  have hvalue : (lastDigit n).toNat = 48 + n % 10 := by
    rw [lastDigit, UInt8.toNat_ofNat']
    omega
  rw [← heq] at hvalue
  have hslash : slash.toNat = 47 := rfl
  omega

theorem slash_not_mem_text (date : UtcDate) : slash ∉ date.text := by
  simp [UtcDate.text, ne_slash_lastDigit]

theorem slash_not_mem_decimal (n : Nat) : slash ∉ decimal n := by
  intro hmem
  have hdigit := isDigit_of_mem_decimal hmem
  exact absurd hdigit (by decide)

/-- The file name with a given index. -/
def seriesName (stem : Text) (index : Int) : Text :=
  stem ++ decimal index.toNat ++ ascii ".fits"

def intMax : Int := 2 ^ 31 - 1

/-- The index of a name of the series is read back, up to the limit of `int`. -/
theorem readsBack_seriesName (stem : Text) :
    Numbering.ReadsBack (entryIndex stem) (seriesName stem) intMax := by
  intro index hpositive hbound
  obtain ⟨n, rfl⟩ : ∃ n : Nat, index = n := ⟨index.toNat, by omega⟩
  have hmax : (n : Int) ≤ 2 ^ 31 - 1 := hbound
  have hprefix : startsWith (seriesName stem n) stem = true := by
    rw [startsWith_iff, seriesName, List.append_assoc]
    exact List.prefix_append _ _
  have hdrop : (seriesName stem n).drop stem.length = decimal n ++ ascii ".fits" := by
    rw [seriesName, List.append_assoc, List.drop_left]
    rfl
  have hparse : strtol (decimal n ++ ascii ".fits") = ⟨n, ascii ".fits", false⟩ := by
    apply strtol_decimal
    · omega
    · intro byte hbyte
      have hdot : some dot = some byte := hbyte
      simp only [Option.some.injEq] at hdot
      rw [← hdot]
      decide
  have hshorter : ascii ".fits" ≠ decimal n ++ ascii ".fits" := by
    intro heq
    have hlength := congrArg List.length heq
    have hdigits := List.length_pos_iff.mpr (decimal_ne_nil n)
    rw [List.length_append] at hlength
    omega
  have hnarrow : (Int32.ofInt (n : Int)).toInt = n :=
    Int32.toInt_ofInt_of_le (by omega) (by omega)
  rw [entryIndex, if_pos hprefix, hdrop]
  simp only [hparse, hnarrow]
  rw [if_pos]
  exact ⟨hshorter, by decide⟩

/-- The loop leaves the index behind the highest one, as long as that is an `int`. -/
theorem countImages_eq (stem : Text) {imgCount : Int} {listing : List Text}
    (hone : 1 ≤ imgCount)
    (hroom : Numbering.highest (entryIndex stem) listing < intMax) :
    countImages stem imgCount listing =
      .ok (max imgCount (Numbering.highest (entryIndex stem) listing + 1)) := by
  induction listing generalizing imgCount with
  | nil =>
      simp only [countImages, Numbering.highest, Int.zero_add, max_eq_left hone]
  | cons name rest ih =>
      have hnonneg := Numbering.highest_nonneg (entryIndex stem) rest
      simp only [Numbering.highest] at hroom ⊢
      cases hindex : entryIndex stem name with
      | none =>
          simp only [hindex, Option.getD_none] at hroom ⊢
          simp only [countImages, hindex]
          rw [ih hone (by omega)]
          congr 1
          omega
      | some currentCount =>
          simp only [hindex, Option.getD_some] at hroom ⊢
          simp only [countImages, hindex]
          by_cases hlarger : imgCount ≤ currentCount
          · have hmax : intMax = 2 ^ 31 - 1 := rfl
            have hsum : addInt currentCount 1 = .ok (currentCount + 1) := by
              apply checkInt_eq_ok.mpr
              omega
            simp only [hlarger, ↓reduceIte, hsum, bind, Except.bind]
            rw [ih (by omega) (by omega)]
            congr 1
            omega
          · simp only [hlarger, ↓reduceIte]
            rw [ih hone (by omega)]
            congr 1
            omega

/-- The name under which a path appears when the directory is listed. -/
def entryName (dir path : Text) : Option Text :=
  if startsWith path (directoryPrefix dir) then
    let name := path.drop (directoryPrefix dir).length
    if name ≠ [] ∧ slash ∉ name then some name else none
  else none

/-- The content of a directory, out of all existing paths. -/
def entries (dir : Text) (files : List Text) : List Text := files.filterMap (entryName dir)

/-- An order in which the directory iterator may go through a directory. -/
structure ListingOrder where
  order : List Text → List Text
  perm : ∀ content, (order content).Perm content

/-- The paths of successive saves on one date, each created before the next call. -/
def saves (params : AndorParameters) (dir : Text) (date : UtcDate)
    (orders : Nat → ListingOrder) : Nat → List Text → Checked (List (Option Text))
  | 0, _ => .ok []
  | count + 1, files => do
      let listing := (orders count).order (entries dir files)
      let path ← makeFitsFilename params true (some date) listing
      let later ← saves params dir date orders count (path.toList ++ files)
      return path :: later

theorem entryName_append {dir name : Text} (hname : name ≠ []) (hslash : slash ∉ name) :
    entryName dir (directoryPrefix dir ++ name) = some name := by
  have hstart : startsWith (directoryPrefix dir ++ name) (directoryPrefix dir) = true :=
    startsWith_iff.mpr (List.prefix_append _ _)
  rw [entryName, if_pos hstart, List.drop_left]
  simp only [ne_eq, hname, not_false_eq_true, hslash, and_self, ↓reduceIte]

theorem entries_cons (dir : Text) {name : Text} (hname : name ≠ []) (hslash : slash ∉ name)
    (files : List Text) :
    entries dir ((directoryPrefix dir ++ name) :: files) = name :: entries dir files := by
  simp only [entries, List.filterMap_cons, entryName_append hname hslash]

theorem seriesName_ne_nil (stem : Text) (index : Int) : seriesName stem index ≠ [] := by
  intro hempty
  have hlength := congrArg List.length hempty
  have hdigits := List.length_pos_iff.mpr (decimal_ne_nil index.toNat)
  simp only [seriesName, List.length_append, List.length_nil] at hlength
  omega

theorem slash_not_mem_seriesName {stem : Text} (hstem : slash ∉ stem) (index : Int) :
    slash ∉ seriesName stem index := by
  have hextension : slash ∉ ascii ".fits" := by decide
  simp only [seriesName, List.mem_append, not_or]
  exact ⟨⟨hstem, slash_not_mem_decimal _⟩, hextension⟩

/-- One save: the next name of the series, in the save directory. -/
theorem makeFitsFilename_eq {params : AndorParameters} {dir filename : Text}
    {date : UtcDate} {listing : List Text}
    (hdir : params.saveDir.text = .ok dir)
    (hfilename : params.imageFilename.text = .ok filename) (hslash : slash ∉ filename)
    (hindex : Numbering.highest (entryIndex (filename ++ date.text)) listing < intMax)
    (hroom : (seriesName (filename ++ date.text)
      (Numbering.highest (entryIndex (filename ++ date.text)) listing + 1)).length <
        maxFitsFilenameSize) :
    makeFitsFilename params true (some date) listing =
      .ok (some (directoryPrefix dir ++ seriesName (filename ++ date.text)
        (Numbering.highest (entryIndex (filename ++ date.text)) listing + 1))) := by
  have hnonneg := Numbering.highest_nonneg (entryIndex (filename ++ date.text)) listing
  have hstem : slash ∉ filename ++ date.text := by
    simp only [List.mem_append, not_or]
    exact ⟨hslash, slash_not_mem_text date⟩
  have hcount := countImages_eq (filename ++ date.text) (Int.le_refl 1) hindex
  rw [max_eq_right (by omega)] at hcount
  generalize Numbering.highest (entryIndex (filename ++ date.text)) listing + 1 = next at *
  have hlength : (filename ++ date.text).length + (decimal next.toNat).length +
      (ascii ".fits").length < maxFitsFilenameSize := by
    simpa only [seriesName, List.length_append] using hroom
  have hcopy : appendWithin maxFitsFilenameSize [] filename = .ok filename := by
    apply appendWithin_eq_ok.mpr
    simp only [List.length_append] at hlength
    exact ⟨by simp only [List.length_nil]; omega, rfl⟩
  have hdate : appendWithin maxFitsFilenameSize filename date.text =
      .ok (filename ++ date.text) := by
    apply appendWithin_eq_ok.mpr
    simp only [List.length_append] at hlength
    exact ⟨by omega, rfl⟩
  have hnumber : appendWithin maxFitsFilenameSize (filename ++ date.text)
      (decimal next.toNat) = .ok (filename ++ date.text ++ decimal next.toNat) := by
    apply appendWithin_eq_ok.mpr
    exact ⟨by omega, rfl⟩
  have hextension : appendWithin maxFitsFilenameSize
      (filename ++ date.text ++ decimal next.toNat) (ascii ".fits") =
        .ok (seriesName (filename ++ date.text) next) := by
    apply appendWithin_eq_ok.mpr
    rw [List.length_append]
    exact ⟨by omega, rfl⟩
  have hpath : appendPath dir (seriesName (filename ++ date.text) next) =
      directoryPrefix dir ++ seriesName (filename ++ date.text) next := by
    rw [appendPath, if_neg]
    intro habsolute
    exact slash_not_mem_seriesName hstem next (List.mem_of_mem_head? habsolute)
  simp only [makeFitsFilename, hdir, hfilename, bind, Except.bind, not_true_eq_false,
    ↓reduceIte, hcopy, hdate, hcount, hnumber, hextension, hpath, pure, Except.pure]

/-- What keeps the names of a series apart: no name leads out of the directory, the
indices stay within `int` and the names within their buffer. -/
structure SeriesFits (filename : Text) (date : UtcDate) (content : List Text)
    (count : Nat) : Prop where
  relative : slash ∉ filename
  index : Numbering.highest (entryIndex (filename ++ date.text)) content + count ≤ intMax
  length : ∀ index,
    Numbering.highest (entryIndex (filename ++ date.text)) content < index →
    index ≤ Numbering.highest (entryIndex (filename ++ date.text)) content + count →
    (seriesName (filename ++ date.text) index).length < maxFitsFilenameSize

/-- The first name of a series is the next one, the others are a series behind it. -/
theorem SeriesFits.tail {filename : Text} {date : UtcDate} {content : List Text}
    {count : Nat} (hfits : SeriesFits filename date content (count + 1)) :
    SeriesFits filename date
      (seriesName (filename ++ date.text)
        (Numbering.highest (entryIndex (filename ++ date.text)) content + 1) :: content)
      count := by
  have hindex := hfits.index
  push_cast at hindex
  have hnext := Numbering.highest_cons_next (entryIndex (filename ++ date.text))
    ((readsBack_seriesName (filename ++ date.text)).next content (by omega))
  constructor
  · exact hfits.relative
  · rw [hnext]
    omega
  · intro index hlow hhigh
    rw [hnext] at hlow hhigh
    apply hfits.length index
    · omega
    · push_cast
      omega

/-- The saves give the names an allocation by index gives, whatever the order of the
directory entries. -/
theorem saves_eq_allocate {params : AndorParameters} {dir filename : Text} {date : UtcDate}
    {files : List Text} {count : Nat} (hdir : params.saveDir.text = .ok dir)
    (hfilename : params.imageFilename.text = .ok filename)
    (hfits : SeriesFits filename date (entries dir files) count)
    (orders : Nat → ListingOrder) :
    saves params dir date orders count files =
      .ok ((Numbering.allocate (entryIndex (filename ++ date.text))
        (seriesName (filename ++ date.text)) count (entries dir files)).map fun name =>
          some (directoryPrefix dir ++ name)) := by
  induction count generalizing files with
  | zero => rfl
  | succ count ih =>
      have hstem : slash ∉ filename ++ date.text := by
        simp only [List.mem_append, not_or]
        exact ⟨hfits.relative, slash_not_mem_text date⟩
      have hindex := hfits.index
      push_cast at hindex
      have hperm := Numbering.highest_perm (entryIndex (filename ++ date.text))
        ((orders count).perm (entries dir files))
      have hfirst : makeFitsFilename params true (some date)
          ((orders count).order (entries dir files)) =
            .ok (some (directoryPrefix dir ++ seriesName (filename ++ date.text)
              (Numbering.highest (entryIndex (filename ++ date.text))
                (entries dir files) + 1))) := by
        rw [← hperm]
        apply makeFitsFilename_eq hdir hfilename hfits.relative
        · rw [hperm]
          omega
        · rw [hperm]
          apply hfits.length
          · omega
          · push_cast
            omega
      have hentries := entries_cons dir (seriesName_ne_nil (filename ++ date.text)
        (Numbering.highest (entryIndex (filename ++ date.text)) (entries dir files) + 1))
        (slash_not_mem_seriesName hstem _) files
      have htail := hfits.tail
      rw [← hentries] at htail
      have hlater := ih htail
      rw [hentries] at hlater
      simp only [saves, bind, Except.bind, hfirst, Option.toList_some,
        List.singleton_append, hlater, pure, Except.pure, Numbering.allocate, List.map_cons]

/-- Successive saves return paths that are new and pairwise distinct, and the same ones
for every order of the directory entries. -/
theorem saved_paths_are_new {params : AndorParameters} {dir filename : Text}
    (hdir : params.saveDir.text = .ok dir)
    (hfilename : params.imageFilename.text = .ok filename) (date : UtcDate)
    (files : List Text) (count : Nat)
    (hfits : SeriesFits filename date (entries dir files) count) :
    ∃ paths : List Text,
      (∀ orders, saves params dir date orders count files = .ok (paths.map some)) ∧
      paths.length = count ∧ paths.Nodup ∧ ∀ path ∈ paths, path ∉ files := by
  obtain ⟨hnodup, hfresh⟩ := Numbering.allocate_fresh
    (readsBack_seriesName (filename ++ date.text)) hfits.index
  refine ⟨(Numbering.allocate (entryIndex (filename ++ date.text))
    (seriesName (filename ++ date.text)) count (entries dir files)).map
      (directoryPrefix dir ++ ·), ?_, ?_, ?_, ?_⟩
  · intro orders
    rw [saves_eq_allocate hdir hfilename hfits orders, List.map_map]
    rfl
  · rw [List.length_map, Numbering.length_allocate]
  · exact List.Nodup.map (List.append_right_injective _) hnodup
  · intro path hpath hexists
    obtain ⟨name, hname, rfl⟩ := List.mem_map.mp hpath
    obtain ⟨index, hindex⟩ := Numbering.exists_index_of_mem_allocate hname
    have hstem : slash ∉ filename ++ date.text := by
      simp only [List.mem_append, not_or]
      exact ⟨hfits.relative, slash_not_mem_text date⟩
    have hentry : entryName dir (directoryPrefix dir ++ name) = some name := by
      rw [hindex]
      exact entryName_append (seriesName_ne_nil _ _) (slash_not_mem_seriesName hstem _)
    apply hfresh name hname
    exact List.mem_filterMap.mpr ⟨_, hexists, hentry⟩

def newYear : UtcDate := ⟨2024, 1, 1, by decide, by decide, by decide⟩

/-- Parameters with the generic file name `m31`. -/
def m31Params : AndorParameters :=
  { AndorParameters.initial [] with imageFilename := .ofText (ascii "m31") (by decide) }

/-- The save directory after an earlier exposure of the same series. -/
def m31Files : List Text :=
  [ascii "/home/andor2k/fits", ascii "/home/andor2k/fits/m31202401017.fits"]

theorem m31_seriesFits :
    SeriesFits (ascii "m31") newYear (entries AndorParameters.defaultSaveDir m31Files) 2 := by
  have hhighest : Numbering.highest (entryIndex (ascii "m31" ++ newYear.text))
      (entries AndorParameters.defaultSaveDir m31Files) = 7 := by decide +kernel
  constructor
  · decide
  · rw [hhighest]
    decide
  · intro index hlow hhigh
    rw [hhighest] at hlow hhigh
    obtain rfl | rfl : index = 8 ∨ index = 9 := by omega
    · decide
    · decide

theorem m31_saved_paths_are_new :
    ∃ paths : List Text,
      (∀ orders, saves m31Params AndorParameters.defaultSaveDir newYear orders 2 m31Files =
        .ok (paths.map some)) ∧
      paths.length = 2 ∧ paths.Nodup ∧ ∀ path ∈ paths, path ∉ m31Files :=
  saved_paths_are_new (by decide) (by decide) newYear m31Files 2 m31_seriesFits

/-- A generic name with a slash is accepted, and leads into a subdirectory that is not
searched: the second save is given the path the first one created. -/
theorem slashed_filename_is_given_twice :
    ∃ params path,
      resolveImageParameters (.ofText (ascii "image --filename sub/x") (by decide))
        (AndorParameters.initial []) = .ok ⟨0, params⟩ ∧
      saves params AndorParameters.defaultSaveDir newYear
        (fun _ => ⟨id, fun content => List.Perm.refl content⟩) 2
        [ascii "/home/andor2k/fits", ascii "/home/andor2k/fits/sub"] =
          .ok [some path, some path] := by
  refine ⟨{ AndorParameters.initial [] with
      imageFilename := .ofText (ascii "sub/x") (by decide)
      saveDir := AndorParameters.fixedSaveDir },
    ascii "/home/andor2k/fits/sub/x202401011.fits", ?_, ?_⟩
  · decide +kernel
  · decide +kernel

end Andor2k
