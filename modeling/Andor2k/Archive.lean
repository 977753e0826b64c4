/-
The files of all exposures.  Whatever commands lead to them, and on whatever days, a file that
has been written is never written again.
-/
import Mathlib.Logic.Function.Basic
import Andor2k.FilenameBounds
import Andor2k.RtaSeries
import Andor2k.Runs

namespace Andor2k

open CText Runs

namespace Acquisition

/-- What is known of every path: nothing, or the image of the file. -/
abbrev Archive := Text → Option ImageArray

abbrev WrittenFile := Text × ImageArray

/-- The file of an exposure that could be written. -/
def writtenFile : ScanEvent → Option WrittenFile
  | .filed _ saved =>
      if saved.status = 0 then
        saved.filename.bind fun path => saved.image.map fun image => (path, image)
      else none
  | _ => none

def writtenFiles (events : List ScanEvent) : List WrittenFile := events.filterMap writtenFile

/-- One exposure on its way to a file, by `save_as_fits` or by the loop of a kinetic series. -/
structure SaveCall where
  params : AndorParameters
  fheaders : FitsHeaders
  xpixels : Int
  ypixels : Int
  file : FileAnswers
  exposure : Nat
  imgBuffer : List Int32
  kinetic : Bool

def SaveCall.events (call : SaveCall) : Checked (List ScanEvent) :=
  if call.kinetic then
    (saveKineticImage call.params call.fheaders call.xpixels call.ypixels call.file
      call.exposure call.imgBuffer).map (·.events)
  else
    (saveImage call.params call.fheaders call.xpixels call.ypixels call.file call.exposure
      call.imgBuffer).map (·.2)

/-- The file that a call writes, if it does. -/
def SaveCall.written (call : SaveCall) : List WrittenFile :=
  match call.events with
  | .ok events => writtenFiles events
  | .error _ => []

/-- `fits_create_file` and the calls behind it. -/
def Archive.store (archive : Archive) (file : WrittenFile) : Archive :=
  Function.update archive file.1 (some file.2)

def archiveStep (archive : Archive) (call : SaveCall) : Option Archive :=
  call.events.toOption.map fun events => (writtenFiles events).foldl Archive.store archive

/-- The generic name stays in the save directory, and the directory iterator shows every file
of the archive that lies there. -/
structure SeesArchive (archive : Archive) (call : SaveCall) : Prop where
  relative : ∀ filename, call.params.imageFilename.text = .ok filename → slash ∉ filename
  listed : ∀ dir path name, call.params.saveDir.text = .ok dir → archive path ≠ none →
    entryName dir path = some name → name ∈ call.file.surroundings.listing

theorem nul_not_mem_cString {memory text : List UInt8} (htext : cString memory = .ok text) :
    0 ∉ text := by
  rw [cString] at htext
  split at htext
  · rw [← Except.ok.inj htext]
    intro hnul
    simpa using List.mem_takeWhile_imp hnul
  · cases htext

theorem text_ofText {size : Nat} {text : Text} (hfits : text.length < size) (hnul : 0 ∉ text) :
    (CharArray.ofText text hfits).text = .ok text := by
  obtain ⟨count, hcount⟩ : ∃ count, size - text.length = count + 1 :=
    ⟨size - text.length - 1, by omega⟩
  have hbytes : (CharArray.ofText text hfits).bytes = text ++ 0 :: List.replicate count 0 := by
    rw [← List.replicate_succ, ← hcount]
    rfl
  rw [CharArray.text, hbytes]
  exact cString_append_nul hnul _

theorem nul_not_mem_seriesName {filename : Text} (hnul : 0 ∉ filename) (date : UtcDate)
    (index : Int) : 0 ∉ seriesName (filename ++ date.text) index := by
  have hdecimal : 0 ∉ decimal index.toNat := fun hmem =>
    absurd (isDigit_of_mem_decimal hmem) (by decide)
  have hdigit : ∀ n, lastDigit n ≠ 0 := by
    intro n hzero
    have hvalue : (lastDigit n).toNat = 48 + n % 10 := by
      rw [lastDigit, UInt8.toNat_ofNat']
      omega
    rw [hzero, show (0 : UInt8).toNat = 0 from rfl] at hvalue
    omega
  have hdate : 0 ∉ date.text := by
    simp only [UtcDate.text, List.mem_cons, List.not_mem_nil, not_or, or_false]
    exact ⟨(hdigit _).symm, (hdigit _).symm, (hdigit _).symm, (hdigit _).symm, (hdigit _).symm,
      (hdigit _).symm, (hdigit _).symm, (hdigit _).symm⟩
  simp only [seriesName, List.mem_append, not_or]
  exact ⟨⟨⟨hnul, hdate⟩, hdecimal⟩, by decide⟩

theorem nul_not_mem_directoryPrefix {dir : Text} (hnul : 0 ∉ dir) :
    0 ∉ directoryPrefix dir := by
  rw [directoryPrefix]
  split
  · exact hnul
  · rw [List.mem_append, not_or]
    exact ⟨hnul, by decide⟩

/-- The count the loop comes to is the index behind the highest one. -/
theorem countImages_spec {stem : Text} {listing : List Text} {count : Int}
    (hcount : countImages stem 1 listing = .ok count) :
    count = nextIndex stem listing ∧ nextIndex stem listing ≤ intMax := by
  have hbound := (countImages_defined_iff stem (Int.le_refl 1) (by decide)).mp ⟨count, hcount⟩
  have hnonneg := Numbering.highest_nonneg (entryIndex stem) listing
  rw [countImages_eq stem (Int.le_refl 1) (Int.lt_of_add_one_le hbound)] at hcount
  refine ⟨?_, hbound⟩
  rw [← Except.ok.inj hcount, nextIndex]
  omega

/-- A path that is returned: the next one of a series, in the save directory. -/
theorem path_of_getNext {params : AndorParameters} {isDirectory : Bool} {date : Option UtcDate}
    {listing : List Text} {array : CharArray maxFitsFileSize}
    (hnext : getNextFitsFilename params isDirectory date listing = .ok (some array))
    (hrelative : ∀ filename, params.imageFilename.text = .ok filename → slash ∉ filename) :
    ∃ dir filename day, params.saveDir.text = .ok dir ∧
      params.imageFilename.text = .ok filename ∧ date = some day ∧
      nextIndex (filename ++ day.text) listing ≤ intMax ∧
      array.text = .ok (directoryPrefix dir ++
        seriesName (filename ++ day.text) (nextIndex (filename ++ day.text) listing)) := by
  obtain ⟨found, hmake, hnext⟩ := checked_bind_eq_ok.mp hnext
  cases found with
  | none => cases hnext
  | some path =>
      dsimp only at hnext
      split at hnext
      · rename_i hfits
        obtain rfl := Option.some.inj (Except.ok.inj hnext)
        obtain ⟨dir, hdir, hmake⟩ := checked_bind_eq_ok.mp hmake
        split at hmake
        · cases hmake
        · obtain ⟨filename, hfilename, hmake⟩ := checked_bind_eq_ok.mp hmake
          obtain ⟨copied, hcopied, hmake⟩ := checked_bind_eq_ok.mp hmake
          obtain ⟨-, rfl⟩ := appendWithin_eq_ok.mp hcopied
          cases date with
          | none =>
              obtain ⟨message, -, hmake⟩ := checked_bind_eq_ok.mp hmake
              cases hmake
          | some day =>
              obtain ⟨dated, hdated, hmake⟩ := checked_bind_eq_ok.mp hmake
              obtain ⟨-, rfl⟩ := appendWithin_eq_ok.mp hdated
              obtain ⟨count, hcount, hmake⟩ := checked_bind_eq_ok.mp hmake
              obtain ⟨numbered, hnumbered, hmake⟩ := checked_bind_eq_ok.mp hmake
              obtain ⟨-, rfl⟩ := appendWithin_eq_ok.mp hnumbered
              obtain ⟨named, hnamed, hmake⟩ := checked_bind_eq_ok.mp hmake
              obtain ⟨-, rfl⟩ := appendWithin_eq_ok.mp hnamed
              obtain rfl := Option.some.inj (Except.ok.inj hmake)
              obtain ⟨rfl, hbound⟩ := countImages_spec hcount
              have hslash : slash ∉ filename := hrelative filename hfilename
              have hstem : slash ∉ filename ++ day.text := by
                rw [List.mem_append, not_or]
                exact ⟨hslash, slash_not_mem_text day⟩
              have hpath : appendPath dir (seriesName (filename ++ day.text)
                  (nextIndex (filename ++ day.text) listing)) = directoryPrefix dir ++
                    seriesName (filename ++ day.text)
                      (nextIndex (filename ++ day.text) listing) := by
                rw [appendPath, if_neg]
                intro habsolute
                exact slash_not_mem_seriesName hstem _ (List.mem_of_mem_head? habsolute)
              have hnul : 0 ∉ appendPath dir (seriesName (filename ++ day.text)
                  (nextIndex (filename ++ day.text) listing)) := by
                rw [hpath, List.mem_append, not_or]
                exact ⟨nul_not_mem_directoryPrefix (nul_not_mem_cString hdir),
                  nul_not_mem_seriesName (nul_not_mem_cString hfilename) day _⟩
              refine ⟨dir, filename, day, hdir, hfilename, rfl, hbound, ?_⟩
              rw [← hpath]
              exact text_ofText _ hnul
      · cases hnext

/-- The path is none of the archive. -/
theorem path_is_new {archive : Archive} {call : SaveCall} {array : CharArray maxFitsFileSize}
    {path : Text} (hsees : SeesArchive archive call)
    (hnext : getNextFitsFilename call.params call.file.surroundings.isDirectory
      call.file.surroundings.date call.file.surroundings.listing = .ok (some array))
    (hpath : array.text = .ok path) : archive path = none := by
  obtain ⟨dir, filename, day, hdir, hfilename, -, hbound, htext⟩ :=
    path_of_getNext hnext hsees.relative
  obtain rfl := Except.ok.inj (htext.symm.trans hpath)
  have hstem : slash ∉ filename ++ day.text := by
    rw [List.mem_append, not_or]
    exact ⟨hsees.relative filename hfilename, slash_not_mem_text day⟩
  have hnonneg := Numbering.highest_nonneg (entryIndex (filename ++ day.text))
    call.file.surroundings.listing
  have hindex := readsBack_seriesName (filename ++ day.text) _
    (show 0 < nextIndex (filename ++ day.text) call.file.surroundings.listing by
      rw [nextIndex]
      omega) hbound
  by_contra hexists
  have hlisted := hsees.listed dir _ _ hdir hexists
    (entryName_append (seriesName_ne_nil _ _) (slash_not_mem_seriesName hstem _))
  exact Numbering.not_mem_of_next_index _ hindex hlisted

theorem writtenFiles_append (first second : List ScanEvent) :
    writtenFiles (first ++ second) = writtenFiles first ++ writtenFiles second :=
  List.filterMap_append

theorem writtenFiles_sent (messages : List Text) : writtenFiles (messages.map .sent) = [] := by
  induction messages with
  | nil => rfl
  | cons message later ih => exact ih

/-- `save_as_fits` writes a file exactly when it returns 0. -/
theorem saveImage_written {params : AndorParameters} {fheaders : FitsHeaders}
    {xpixels ypixels : Int} {file : FileAnswers} {exposure : Nat} {imgBuffer : List Int32}
    {saved : SavedExposure} {saving : List ScanEvent}
    (hsaved : saveImage params fheaders xpixels ypixels file exposure imgBuffer =
      .ok (saved, saving)) :
    (saved.status ≠ 0 ∧ writtenFiles saving = []) ∨
      (saved.status = 0 ∧ ∃ array path image,
        getNextFitsFilename params file.surroundings.isDirectory file.surroundings.date
          file.surroundings.listing = .ok (some array) ∧
        array.text = .ok path ∧ writtenFiles saving = [(path, image)] ∧
        savedImages saving = [(exposure, image)]) := by
  obtain ⟨exposed, hexposed, hsaved⟩ := checked_bind_eq_ok.mp hsaved
  obtain ⟨rfl, rfl⟩ := Prod.mk.inj (Except.ok.inj hsaved)
  rw [writtenFiles_append, writtenFiles_sent, List.append_nil, savedImages_append,
    savedImages_sent, List.append_nil]
  obtain ⟨found, hfound, hexposed⟩ := checked_bind_eq_ok.mp hexposed
  cases found with
  | none =>
      rw [← Except.ok.inj hexposed]
      exact Or.inl ⟨by decide, rfl⟩
  | some array =>
      obtain ⟨path, hpath, hexposed⟩ := checked_bind_eq_ok.mp hexposed
      obtain ⟨fits, -, hexposed⟩ := checked_bind_eq_ok.mp hexposed
      obtain ⟨⟨status, image⟩, hwrite, hexposed⟩ := checked_bind_eq_ok.mp hexposed
      dsimp only at hexposed
      split at hexposed
      · rw [← Except.ok.inj hexposed]
        exact Or.inl ⟨Int.one_ne_zero, rfl⟩
      · rename_i hwritten
        obtain rfl : status = 0 := not_not.mp hwritten
        obtain ⟨image, rfl⟩ := Option.isSome_iff_exists.mp (FitsImage.image_of_write_zero hwrite)
        rw [← Except.ok.inj hexposed]
        exact Or.inr ⟨rfl, array, path, image, hfound, hpath, rfl, rfl⟩

/-- A call writes nothing, or one file under the path it is given. -/
theorem written_cases {call : SaveCall} {events : List ScanEvent}
    (hevents : call.events = .ok events) :
    writtenFiles events = [] ∨ ∃ array path image,
      getNextFitsFilename call.params call.file.surroundings.isDirectory
        call.file.surroundings.date call.file.surroundings.listing = .ok (some array) ∧
      array.text = .ok path ∧ writtenFiles events = [(path, image)] := by
  rw [SaveCall.events] at hevents
  split at hevents
  · obtain ⟨scan, hscan, rfl⟩ := checked_map_eq_ok.mp hevents
    obtain ⟨found, hfound, hscan⟩ := checked_bind_eq_ok.mp hscan
    cases found with
    | none =>
        rw [← Except.ok.inj hscan]
        exact Or.inl rfl
    | some array =>
        obtain ⟨path, hpath, hscan⟩ := checked_bind_eq_ok.mp hscan
        obtain ⟨fits, -, hscan⟩ := checked_bind_eq_ok.mp hscan
        obtain ⟨⟨status, image⟩, -, hscan⟩ := checked_bind_eq_ok.mp hscan
        dsimp only at hscan
        split at hscan
        · rw [← Except.ok.inj hscan]
          exact Or.inl rfl
        · rw [← Except.ok.inj hscan]
          cases image with
          | none => exact Or.inl rfl
          | some image => exact Or.inr ⟨array, path, image, hfound, hpath, rfl⟩
  · obtain ⟨⟨saved, saving⟩, hsaved, rfl⟩ := checked_map_eq_ok.mp hevents
    rcases saveImage_written hsaved with ⟨-, hnone⟩ |
      ⟨-, array, path, image, hnext, hpath, hone, -⟩
    · exact Or.inl hnone
    · exact Or.inr ⟨array, path, image, hnext, hpath, hone⟩

/-- What an archive has become: it has got the files, each under a path of its own that was
free, and nothing else has changed. -/
structure Grows (archive : Archive) (files : List WrittenFile) (later : Archive) : Prop where
  distinct : (files.map Prod.fst).Nodup
  free : ∀ file ∈ files, archive file.1 = none
  held : ∀ file ∈ files, later file.1 = some file.2
  others : ∀ path, path ∉ files.map Prod.fst → later path = archive path

theorem Grows.refl (archive : Archive) : Grows archive [] archive :=
  ⟨List.nodup_nil, List.forall_mem_nil _, List.forall_mem_nil _, fun _ _ => rfl⟩

theorem Grows.store {archive : Archive} {path : Text} (image : ImageArray)
    (hfree : archive path = none) :
    Grows archive [(path, image)] (archive.store (path, image)) := by
  refine ⟨List.nodup_singleton _, List.forall_mem_singleton.mpr hfree,
    List.forall_mem_singleton.mpr (Function.update_self _ _ _), fun other hother => ?_⟩
  exact Function.update_of_ne (fun hsame => hother (List.mem_singleton.mpr hsame)) _ _

/-- Files that have come before are not free any more. -/
theorem Grows.trans {archive middle later : Archive} {first second : List WrittenFile}
    (hfirst : Grows archive first middle) (hsecond : Grows middle second later) :
    Grows archive (first ++ second) later := by
  have hapart : ∀ path ∈ first.map Prod.fst, path ∉ second.map Prod.fst := by
    intro path hpath hmem
    obtain ⟨early, hearly, rfl⟩ := List.mem_map.mp hpath
    obtain ⟨late, hlate, hsame⟩ := List.mem_map.mp hmem
    have hfree := hsecond.free late hlate
    rw [hsame, hfirst.held early hearly] at hfree
    cases hfree
  refine ⟨?_, ?_, ?_, ?_⟩
  · rw [List.map_append]
    refine List.nodup_append.mpr ⟨hfirst.distinct, hsecond.distinct, ?_⟩
    rintro path hearly other hlate rfl
    exact hapart path hearly hlate
  · refine List.forall_mem_append.mpr ⟨hfirst.free, fun file hfile => ?_⟩
    by_cases hmem : file.1 ∈ first.map Prod.fst
    · exact absurd (List.mem_map_of_mem hfile) (hapart _ hmem)
    · rw [← hfirst.others _ hmem]
      exact hsecond.free file hfile
  · refine List.forall_mem_append.mpr ⟨fun file hfile => ?_, hsecond.held⟩
    rw [hsecond.others _ (hapart _ (List.mem_map_of_mem hfile))]
    exact hfirst.held file hfile
  · intro path hpath
    rw [List.map_append, List.mem_append, not_or] at hpath
    rw [hsecond.others path hpath.2, hfirst.others path hpath.1]

theorem archiveStep_grows {archive next : Archive} {call : SaveCall}
    (hsees : SeesArchive archive call) (hstep : archiveStep archive call = some next) :
    Grows archive call.written next := by
  obtain ⟨events, hevents, rfl⟩ := Option.map_eq_some_iff.mp hstep
  have hok : call.events = .ok events := by
    cases hresult : call.events with
    | error fault =>
        rw [hresult] at hevents
        cases hevents
    | ok made =>
        rw [hresult] at hevents
        rw [Option.some.inj hevents]
  have hwritten : call.written = writtenFiles events := by rw [SaveCall.written, hok]
  rw [hwritten]
  rcases written_cases hok with hnone | ⟨array, path, image, hnext, hpath, hone⟩
  · rw [hnone]
    exact .refl archive
  · rw [hone]
    exact .store image (path_is_new hsees hnext hpath)

/-- However many exposures are saved, by whatever commands and on whatever days: every file
that is written is there in the end with its image, under a path that was free and is given to
no other, and the files that were there before are as they were. -/
theorem archive_only_grows {archive later : Archive} {calls : List SaveCall}
    (hsees : Along archiveStep SeesArchive archive calls)
    (hrun : run archiveStep archive calls = some later) :
    Grows archive (calls.flatMap SaveCall.written) later := by
  induction calls generalizing archive with
  | nil =>
      obtain rfl := Option.some.inj hrun
      exact .refl archive
  | cons call rest ih =>
      obtain ⟨next, hnext, hrest⟩ := run_cons_eq_some.mp hrun
      exact (archiveStep_grows hsees.1 hnext).trans (ih (hsees.2 next hnext) hrest)

/-- Only these paths exist. -/
def Covers (paths : List Text) (archive : Archive) : Prop :=
  ∀ path, archive path ≠ none → path ∈ paths

theorem Grows.covers {archive later : Archive} {files : List WrittenFile} {paths : List Text}
    (hgrows : Grows archive files later) (hcovers : Covers paths archive) :
    Covers (files.map Prod.fst ++ paths) later := by
  intro path hexists
  rw [List.mem_append]
  by_cases hnew : path ∈ files.map Prod.fst
  · exact Or.inl hnew
  · rw [hgrows.others path hnew] at hexists
    exact Or.inr (hcovers path hexists)

/-- An iterator that shows the entries of the save directory. -/
theorem seesArchive_of_entries {archive : Archive} {call : SaveCall} {paths : List Text}
    {dir filename : Text} (hcovers : Covers paths archive)
    (hdir : call.params.saveDir.text = .ok dir)
    (hfilename : call.params.imageFilename.text = .ok filename) (hslash : slash ∉ filename)
    (hlisted : entries dir paths ⊆ call.file.surroundings.listing) :
    SeesArchive archive call := by
  constructor
  · intro other hother
    obtain rfl := Except.ok.inj (hfilename.symm.trans hother)
    exact hslash
  · intro other path name hother hexists hentry
    obtain rfl := Except.ok.inj (hdir.symm.trans hother)
    exact hlisted (List.mem_filterMap.mpr ⟨path, hcovers path hexists, hentry⟩)

/-- An exposure of one pixel, at the turn of the year. -/
def m31Call (day : UtcDate) (listing : List Text) (kinetic : Bool) (pixel : Int32) : SaveCall where
  params := m31Params
  fheaders := FitsHeaders.construct 100
  xpixels := 1
  ypixels := 1
  file := ⟨⟨true, some day, listing⟩, willingCfitsio⟩
  exposure := 1
  imgBuffer := [pixel]
  kinetic := kinetic

def newYearsEve : UtcDate := ⟨2023, 12, 31, by decide, by decide, by decide⟩

def m31Calls : List SaveCall :=
  [m31Call newYearsEve [] true 5,
    m31Call newYear [ascii "m31202312311.fits"] false 6,
    m31Call newYear [ascii "m31202401011.fits", ascii "m31202312311.fits"] false 7]

theorem m31Call_sees {archive : Archive} {paths listing : List Text} (day : UtcDate)
    (kinetic : Bool) (pixel : Int32) (hcovers : Covers paths archive)
    (hlisted : entries AndorParameters.defaultSaveDir paths ⊆ listing) :
    SeesArchive archive (m31Call day listing kinetic pixel) :=
  seesArchive_of_entries hcovers (by decide : m31Params.saveDir.text = _)
    (by decide : m31Params.imageFilename.text = .ok (ascii "m31")) (by decide) hlisted

theorem m31_archive_only_grows :
    ∃ later, run archiveStep (fun _ => none) m31Calls = some later ∧
      Grows (fun _ => none) (m31Calls.flatMap SaveCall.written) later := by
  have hruns : (run archiveStep (fun _ => none) m31Calls).isSome = true := by decide +kernel
  have hempty : Covers [] (fun _ => none) := fun _ hexists => absurd rfl hexists
  have hsees : Along archiveStep SeesArchive (fun _ => none) m31Calls := by
    have hfirst := m31Call_sees newYearsEve true 5 hempty (List.Subset.refl [])
    refine ⟨hfirst, fun next hnext => ?_⟩
    have hnew := (archiveStep_grows hfirst hnext).covers hempty
    have hsecond := @m31Call_sees _ _ [ascii "m31202312311.fits"] newYear false 6 hnew
      (by decide +kernel)
    refine ⟨hsecond, fun later hlater => ?_⟩
    have hnewer := (archiveStep_grows hsecond hlater).covers hnew
    have hthird := @m31Call_sees _ _
      [ascii "m31202401011.fits", ascii "m31202312311.fits"] newYear false 7 hnewer
      (by decide +kernel)
    exact ⟨hthird, fun _ _ => trivial⟩
  obtain ⟨later, hrun⟩ := Option.isSome_iff_exists.mp hruns
  exact ⟨later, hrun, archive_only_grows hsees hrun⟩

/-- The directory behind the first images of a series. -/
def seriesListing (stem : Text) (content : List Text) : Nat → List Text
  | 0 => content
  | count + 1 =>
      seriesName stem (nextIndex stem content + count) :: seriesListing stem content count

/-- A generic name, a save directory and a day. -/
structure SeriesName where
  dir : Text
  filename : Text
  day : UtcDate

def SeriesName.stem (name : SeriesName) : Text := name.filename ++ name.day.text

/-- The path of the image with a given index. -/
def SeriesName.path (name : SeriesName) (content : List Text) (index : Nat) : Text :=
  directoryPrefix name.dir ++ seriesName name.stem (nextIndex name.stem content + index)

/-- Each image of the series is saved on the same day, and finds the directory as those before
it have left it. -/
structure SeesSeries (params : AndorParameters) (turns : Nat → RtaTurn) (name : SeriesName)
    (content : List Text) : Prop where
  dir : params.saveDir.text = .ok name.dir
  filename : params.imageFilename.text = .ok name.filename
  relative : slash ∉ name.filename
  date : ∀ index, index < params.numImages.toInt.toNat →
    (turns index).file.surroundings.date = some name.day
  listing : ∀ index, index < params.numImages.toInt.toNat →
    (turns index).file.surroundings.listing.Perm (seriesListing name.stem content index)

section Series

variable {drvNumber : DrvCode → Nat} {params : AndorParameters} {fheaders : FitsHeaders}
  {xpixels ypixels : Int} {turns : Nat → RtaTurn} {name : SeriesName} {content : List Text}

/-- The files of the images from a given index on. -/
def seriesFiles (xpixels ypixels : Int) (turns : Nat → RtaTurn) (name : SeriesName)
    (content : List Text) (first count : Nat) : List WrittenFile :=
  (List.range' first count).map fun index =>
    (name.path content index, (turns index).savedImage xpixels ypixels)

/-- An image of the series is saved under the next number, or ends the series. -/
theorem rtaTurn_numbered (hsees : SeesSeries params turns name content) {curimg : Nat}
    (hcurimg : curimg < params.numImages.toInt.toNat)
    (hhighest : Numbering.highest (entryIndex name.stem)
      (seriesListing name.stem content curimg) + 1 = nextIndex name.stem content + curimg)
    {imgBuffer filled : List Int32} {image : Scan}
    (himage : rtaTurn drvNumber params fheaders xpixels ypixels (turns curimg) (curimg + 1)
      imgBuffer = .ok (image, filled)) :
    (image.status ≠ 0 ∧ writtenFiles image.events = []) ∨
      (image.status = 0 ∧ nextIndex name.stem content + curimg ≤ intMax ∧
        writtenFiles image.events =
          [(name.path content curimg, (turns curimg).savedImage xpixels ypixels)]) := by
  rcases rtaTurn_cases himage with ⟨-, -, message, -, rfl⟩ |
    ⟨-, -, size, hsize, ⟨-, -, message, -, rfl⟩ |
      ⟨-, saved, saving, hfilled, hsaved, rfl⟩⟩
  · exact Or.inl ⟨Int.one_ne_zero, rfl⟩
  · exact Or.inl ⟨Int.one_ne_zero, rfl⟩
  · obtain ⟨-, -, himages⟩ := saveImage_of_retrieve hsize hfilled hsaved
    rcases saveImage_written hsaved with ⟨hfailed, hnone⟩ |
      ⟨hzero, array, path, written, hnext, hpath, hone, hexposed⟩
    · rw [if_pos hfailed]
      refine Or.inl ⟨Int.one_ne_zero, ?_⟩
      rw [writtenFiles_append, ← List.singleton_append, writtenFiles_append, hnone]
      rfl
    · rw [if_neg (not_not.mpr hzero)]
      rw [if_pos hzero, hexposed] at himages
      obtain ⟨-, rfl⟩ := Prod.mk.inj (List.singleton_inj.mp himages)
      obtain ⟨dir, filename, day, hdir, hfilename, hday, hbound, htext⟩ :=
        path_of_getNext hnext fun other hother => by
          rw [← Except.ok.inj (hsees.filename.symm.trans hother)]
          exact hsees.relative
      obtain rfl := Except.ok.inj (hsees.dir.symm.trans hdir)
      obtain rfl := Except.ok.inj (hsees.filename.symm.trans hfilename)
      obtain rfl := Option.some.inj ((hsees.date curimg hcurimg).symm.trans hday)
      have hindex : nextIndex name.stem (turns curimg).file.surroundings.listing =
          nextIndex name.stem content + curimg := by
        rw [nextIndex, Numbering.highest_perm _ (hsees.listing curimg hcurimg), hhighest]
      obtain rfl := Except.ok.inj (htext.symm.trans hpath)
      refine Or.inr ⟨rfl, hindex ▸ hbound, ?_⟩
      rw [← List.singleton_append, writtenFiles_append, hone, SeriesName.path, ← hindex]
      rfl

theorem rtaLoop_numbered (hsees : SeesSeries params turns name content) {left curimg : Nat}
    (hlast : curimg + left = params.numImages.toInt.toNat)
    (hhighest : Numbering.highest (entryIndex name.stem)
      (seriesListing name.stem content curimg) + 1 = nextIndex name.stem content + curimg)
    {imgBuffer : List Int32} {series : Scan}
    (hseries : rtaLoop drvNumber params fheaders xpixels ypixels turns left curimg imgBuffer =
      .ok series) :
    ∃ count ≤ left, (series.status = 0 → count = left) ∧
      writtenFiles series.events =
        seriesFiles xpixels ypixels turns name content curimg count := by
  induction left generalizing curimg imgBuffer series with
  | zero =>
      rw [← Except.ok.inj hseries]
      exact ⟨0, Nat.le_refl 0, fun _ => rfl, rfl⟩
  | succ left ih =>
      obtain ⟨⟨image, filled⟩, himage, hrest⟩ := checked_bind_eq_ok.mp hseries
      dsimp only at hrest
      rcases rtaTurn_numbered hsees (by omega) hhighest himage with ⟨hfailed, hnone⟩ |
        ⟨hzero, hbound, hone⟩
      · rw [if_pos hfailed] at hrest
        rw [← Except.ok.inj hrest]
        exact ⟨0, Nat.zero_le _, fun hzero => absurd hzero hfailed, hnone⟩
      · rw [if_neg (not_not.mpr hzero)] at hrest
        obtain ⟨later, hlater, hrest⟩ := checked_bind_eq_ok.mp hrest
        rw [← Except.ok.inj hrest]
        have hread := readsBack_seriesName name.stem _ (by
          have := Numbering.highest_nonneg (entryIndex name.stem) content
          rw [nextIndex]
          omega) hbound
        have hnext : Numbering.highest (entryIndex name.stem)
            (seriesListing name.stem content (curimg + 1)) + 1 =
              nextIndex name.stem content + (curimg + 1 : Nat) := by
          rw [seriesListing, Numbering.highest_cons_next _ (by rw [hread, hhighest]), hhighest]
          push_cast
          omega
        obtain ⟨count, hcount, hall, hfiles⟩ := ih (by omega) hnext hlater
        refine ⟨count + 1, Nat.succ_le_succ hcount, fun hstatus => by rw [hall hstatus], ?_⟩
        rw [writtenFiles_append, hone, hfiles, seriesFiles, seriesFiles, List.range'_succ]
        rfl

/-- The images of a series that runs till it is aborted are saved in the order of their
exposures under consecutive numbers, from the one behind the highest of the directory on. -/
theorem rta_files_are_numbered {answers : RtaAnswers} {imgBuffer : List Int32} {scan : Scan}
    (hsees : SeesSeries params answers.turns name content)
    (hscan : getRtaScan drvNumber params fheaders xpixels ypixels answers imgBuffer =
      .ok scan) :
    ∃ count ≤ params.numImages.toInt.toNat,
      (scan.status = 0 → count = params.numImages.toInt.toNat) ∧
      writtenFiles scan.events =
        seriesFiles xpixels ypixels answers.turns name content 0 count := by
  have hreported : writtenFiles (.startAcquisition :: answers.reports.map seriesReport) = [] := by
    have hsent : answers.reports.map seriesReport =
        (answers.reports.map fun progress =>
          ascii "info:Acquiring image series..." ++ progress).map .sent := by
      rw [List.map_map]
      rfl
    rw [hsent, ← List.singleton_append, writtenFiles_append, writtenFiles_sent]
    rfl
  rcases getRtaScan_cases hscan with ⟨-, message, -, rfl⟩ | ⟨-, series, hseries, hend⟩
  · exact ⟨0, Nat.zero_le _, fun hzero => absurd hzero Int.one_ne_zero, rfl⟩
  · obtain ⟨count, hcount, hall, hfiles⟩ :=
      rtaLoop_numbered hsees (Nat.zero_add _) (Int.add_zero _).symm hseries
    rcases hend with ⟨-, rfl⟩ | ⟨hzero, message, -, rfl⟩
    · exact ⟨count, hcount, hall, by rw [writtenFiles_append, hreported, hfiles]; rfl⟩
    · refine ⟨count, hcount, fun _ => hall hzero, ?_⟩
      rw [writtenFiles_append, writtenFiles_append, hreported, hfiles]
      exact List.append_nil _

end Series

/-- Two images behind an earlier exposure of the same day. -/
def m31Name : SeriesName := ⟨AndorParameters.defaultSaveDir, ascii "m31", newYear⟩

def m31Content : List Text := [ascii "m31202401017.fits"]

def m31OfTwo : AndorParameters := { m31Params with numImages := 2 }

def m31Series : RtaAnswers where
  startAcquisition := .success
  turns := fun index =>
    { takenTurn with
      file := ⟨⟨true, some newYear, seriesListing m31Name.stem m31Content index⟩,
        willingCfitsio⟩ }
  reports := []
  curImgInSeries := 0

theorem m31_files_are_numbered :
    ∃ scan, getRtaScan (fun _ => 20024) m31OfTwo (FitsHeaders.construct 100) 1 1 m31Series [0] =
        .ok scan ∧
      ∃ count ≤ m31OfTwo.numImages.toInt.toNat,
        (scan.status = 0 → count = m31OfTwo.numImages.toInt.toNat) ∧
        writtenFiles scan.events = seriesFiles 1 1 m31Series.turns m31Name m31Content 0 count := by
  have hreturns : (getRtaScan (fun _ => 20024) m31OfTwo (FitsHeaders.construct 100) 1 1 m31Series
      [0]).map (·.status) = .ok 0 := by
    decide +kernel
  have hsees : SeesSeries m31OfTwo m31Series.turns m31Name m31Content :=
    ⟨by decide, by decide, by decide, fun _ _ => rfl, fun _ _ => List.Perm.refl _⟩
  obtain ⟨scan, hscan, -⟩ := checked_map_eq_ok.mp hreturns
  exact ⟨scan, hscan, rta_files_are_numbered hsees hscan⟩

end Acquisition

end Andor2k
