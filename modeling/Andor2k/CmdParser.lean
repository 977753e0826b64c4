/-
resolve_cmd_parameters: the options of the image command out of an argument vector, and how
far it agrees with resolve_image_parameters.
-/
import Andor2k.ImagePairs
import Andor2k.LayeredWrites

namespace Andor2k

open CText Ieee ConfinedUpdates LayeredWrites

inductive CmdOption where
  | nimages | bin | hbin | vbin | hstart | hend | vstart | vend | filename | type | exposure
deriving DecidableEq, Repr

namespace CmdOption

def flag : CmdOption → Text
  | nimages => ascii "--nimages"
  | bin => ascii "--bin"
  | hbin => ascii "--hbin"
  | vbin => ascii "--vbin"
  | hstart => ascii "--hstart"
  | hend => ascii "--hend"
  | vstart => ascii "--vstart"
  | vend => ascii "--vend"
  | filename => ascii "--filename"
  | type => ascii "--type"
  | exposure => ascii "--exposure"

/-- The options in the order in which the source tests for them. -/
def all : List CmdOption :=
  [nimages, bin, hbin, vbin, hstart, hend, vstart, vend, filename, type, exposure]

def ofWord (word : Text) : Option CmdOption :=
  all.find? fun option => startsWith word option.flag

end CmdOption

/-- `--nimages` asks for a kinetic series here. -/
def storeCmdNimages (params : AndorParameters) (argument : Text) : OptionResult :=
  let parsed := strtol argument
  let params := { params with numImages := Int32.ofInt parsed.value }
  if parsed.rest = argument ∨ params.numImages < 1 then .refused 1 params
  else if params.numImages > 1 then .kept { params with acquisitionMode := .kineticSeries }
  else .kept params

/-- `memcpy(array, text, strlen(text))`: neither is the array cleared nor the NUL copied. -/
def memcpyText {size : Nat} (array : CharArray size) (text : Text) (hfits : text.length < size) :
    CharArray size :=
  ⟨overlay array.bytes 0 text, by
    rw [length_overlay, array.length_bytes]
    rw [array.length_bytes]
    omega⟩

/-- A string option: only the length is tested. -/
def copyText {size : Nat} (member : AndorParameters → CharArray size)
    (store : AndorParameters → CharArray size → AndorParameters)
    (params : AndorParameters) (argument : Text) : OptionResult :=
  if hfits : argument.length < size then
    .kept (store params (memcpyText (member params) argument hfits))
  else .refused 1 params

/-- `params.exposure_ > 0e0` -/
def isPositive (x : Binary32) : Bool := x.isNonNegative && x.magnitude != 0

def storeCmdExposure (params : AndorParameters) (argument : Text) : OptionResult :=
  let parsed := strtod argument
  let params := { params with exposure := parsed.value.toBinary32 }
  if parsed.rest = argument ∨ ¬ isPositive params.exposure then .refused 1 params
  else .kept params

/-- What the loop does with the value of an option. -/
def CmdOption.store : CmdOption → AndorParameters → Text → OptionResult
  | nimages => storeCmdNimages
  | bin => storeInt fun params value => { params with imageVbin := value, imageHbin := value }
  | hbin => storeInt fun params value => { params with imageHbin := value }
  | vbin => storeInt fun params value => { params with imageVbin := value }
  | hstart => storeInt fun params value => { params with imageHstart := value }
  | hend => storeInt fun params value => { params with imageHend := value }
  | vstart => storeInt fun params value => { params with imageVstart := value }
  | vend => storeInt fun params value => { params with imageVend := value }
  | filename => copyText (fun params => params.imageFilename)
      fun params value => { params with imageFilename := value }
  | type => copyText (fun params => params.type) fun params value => { params with type := value }
  | exposure => storeCmdExposure

/-- The loop over the arguments behind the name of the program. -/
def resolveArguments : List Text → AndorParameters → Reply
  | [], params => ⟨0, params⟩
  | word :: rest, params =>
      match CmdOption.ofWord word with
      | none => resolveArguments rest params
      | some option =>
          match rest with
          | [] => ⟨1, params⟩
          | value :: rest =>
              match option.store params value with
              | .refused status params => ⟨status, params⟩
              | .kept params => resolveArguments rest params

def resolveCmdParameters (argv : List Text) (params : AndorParameters) : Reply :=
  resolveArguments (argv.drop 1) params

/-- The option of the image command with the same flag. -/
def CmdOption.image : CmdOption → ImageOption
  | nimages => .nimages
  | bin => .bin
  | hbin => .hbin
  | vbin => .vbin
  | hstart => .hstart
  | hend => .hend
  | vstart => .vstart
  | vend => .vend
  | filename => .filename
  | type => .type
  | exposure => .exposure

theorem CmdOption.ofWord_flag (option : CmdOption) :
    CmdOption.ofWord option.flag = some option := by
  cases option <;> decide

theorem image_ofWord_flag (option : CmdOption) :
    ImageOption.ofWord option.flag = some option.image := by
  cases option <;> decide

/-- An option and its value. -/
abbrev Entry := CmdOption × Text

def entryWords (entries : List Entry) : List Text :=
  entries.flatMap fun entry => [entry.1.flag, entry.2]

/-- The values an option is given, in their order. -/
def valuesOf (option : CmdOption) (entries : List Entry) : List Text :=
  (entries.filter fun entry => entry.1 = option).map Prod.snd

/-- `image ` and the words, joined with blanks. -/
def JoinedCommand (command : CommandBuffer) (words : List Text) : Prop :=
  ∃ behind, command.bytes = ascii "image " ++ ([blank].intercalate words ++ 0 :: behind)

def Entry.pair (entry : Entry) : ImagePair :=
  ⟨entry.1.flag, entry.1.image, image_ofWord_flag entry.1, entry.2⟩

theorem pairWords_entries (entries : List Entry) :
    pairWords (entries.map Entry.pair) = entryWords entries := by
  rw [pairWords, entryWords, List.flatMap_map]
  rfl

theorem CmdOption.isWord_flag (option : CmdOption) : IsWord option.flag := by
  cases option <;> decide

theorem isWord_of_mem_entryWords {entries : List Entry}
    (hwords : ∀ entry ∈ entries, IsWord entry.2) : ∀ word ∈ entryWords entries, IsWord word := by
  intro word hword
  obtain ⟨entry, hentry, hin⟩ := List.mem_flatMap.mp hword
  rcases List.mem_pair.mp hin with rfl | rfl
  · exact CmdOption.isWord_flag entry.1
  · exact hwords entry hentry

theorem intercalate_cons (word : Text) (words : List Text) :
    [blank].intercalate (word :: words) = word ++ words.flatMap fun later => blank :: later := by
  induction words generalizing word with
  | nil => simp [List.intercalate]
  | cons next words ih =>
      have hnext := ih next
      simp only [List.intercalate] at hnext ⊢
      simp [List.intersperse, hnext]

theorem lists_of_joined {command : CommandBuffer} {entries : List Entry}
    (hwords : ∀ entry ∈ entries, IsWord entry.2)
    (hjoined : JoinedCommand command (entryWords entries)) :
    Lists command (entries.map Entry.pair) := by
  obtain ⟨behind, hcommand⟩ := hjoined
  have hall := isWord_of_mem_entryWords hwords
  rw [← pairWords_entries] at hcommand hall
  have himage : IsWord (ascii "image") := by decide
  have hstarts : startsWith (ascii "image") (ascii "image") = true := by decide
  have hblank : ascii "image " = ascii "image" ++ [blank] := by decide
  generalize hpairs : pairWords (entries.map Entry.pair) = words at hcommand hall
  rw [hblank, List.append_assoc] at hcommand
  rcases words with _ | ⟨word, words⟩
  · exact @lists_spaced command _ _ [] 1 behind himage hstarts (List.forall_mem_nil _)
      hpairs.symm hcommand
  · have hspaced : ∀ entry ∈ (word :: words).map (Prod.mk 0), IsWord entry.2 :=
      List.forall_mem_map.mpr hall
    have hmapped : ((word :: words).map (Prod.mk 0)).map Prod.snd =
        pairWords (entries.map Entry.pair) := by
      rw [List.map_map, hpairs]
      exact List.map_id _
    refine @lists_spaced command _ _ _ 0 behind himage hstarts hspaced hmapped ?_
    rw [hcommand, intercalate_cons, spaced, List.flatMap_map]
    simp

/-- The area holding the last text, as the image command leaves it. -/
def latest (size : Nat) (texts : List Text) : List UInt8 :=
  let text := texts.getLast?.getD []
  text ++ List.replicate (size - text.length) 0

/-- Where the two parsers stand after the same entries: they differ in how the texts were
written, and in members no entry is about. -/
structure Tracks (filenames types : List Text) (cmd image : AndorParameters) : Prop where
  hbin : cmd.imageHbin = image.imageHbin
  vbin : cmd.imageVbin = image.imageVbin
  hstart : cmd.imageHstart = image.imageHstart
  hend : cmd.imageHend = image.imageHend
  vstart : cmd.imageVstart = image.imageVstart
  vend : cmd.imageVend = image.imageVend
  exposure : cmd.exposure = image.exposure
  cmdFilename : cmd.imageFilename.bytes = layered maxFitsFilenameSize filenames
  cmdType : cmd.type.bytes = layered maxImageTypeChars types
  imageFilename : image.imageFilename.bytes = latest maxFitsFilenameSize filenames
  imageType : image.type.bytes = latest maxImageTypeChars types
  filenames : ∀ text ∈ filenames, 0 ∉ text ∧ text.length < maxFitsFilenameSize
  types : ∀ text ∈ types, 0 ∉ text ∧ text.length < maxImageTypeChars

theorem tracks_setDefaults (start : AndorParameters) :
    Tracks [] [] start.setDefaults start.setDefaults where
  hbin := rfl
  vbin := rfl
  hstart := rfl
  hend := rfl
  vstart := rfl
  vend := rfl
  exposure := rfl
  cmdFilename := rfl
  cmdType := rfl
  imageFilename := rfl
  imageType := rfl
  filenames := List.forall_mem_nil _
  types := List.forall_mem_nil _

theorem kept_of_storeInt {store : AndorParameters → Int32 → AndorParameters}
    {params after : AndorParameters} {token : Text}
    (hstore : storeInt store params token = .kept after) :
    after = store params (Int32.ofInt (strtol token).value) := by
  have hparams := params_storeInt store params token
  rw [hstore] at hparams
  exact hparams

theorem kept_of_copyText {size : Nat} {member : AndorParameters → CharArray size}
    {store : AndorParameters → CharArray size → AndorParameters}
    {params after : AndorParameters} {argument : Text}
    (hstore : copyText member store params argument = .kept after) :
    ∃ hfits : argument.length < size,
      after = store params (memcpyText (member params) argument hfits) := by
  unfold copyText at hstore
  split at hstore
  · rename_i hfits
    exact ⟨hfits, (OptionResult.kept.inj hstore).symm⟩
  · cases hstore

theorem kept_of_storeCmdExposure {params after : AndorParameters} {argument : Text}
    (hstore : storeCmdExposure params argument = .kept after) :
    after = { params with exposure := (strtod argument).value.toBinary32 } := by
  unfold storeCmdExposure at hstore
  dsimp only at hstore
  split at hstore
  · cases hstore
  · exact (OptionResult.kept.inj hstore).symm

/-- The values with one more, if it belongs to the option. -/
def withValue (option : CmdOption) (entry : Entry) (texts : List Text) : List Text :=
  if entry.1 = option then texts ++ [entry.2] else texts

theorem latest_concat (size : Nat) (texts : List Text) (last : Text) :
    latest size (texts ++ [last]) = last ++ List.replicate (size - last.length) 0 := by
  rw [latest, List.getLast?_concat]
  rfl

theorem forall_mem_concat {texts : List Text} {last : Text} {property : Text → Prop}
    (htexts : ∀ text ∈ texts, property text) (hlast : property last) :
    ∀ text ∈ texts ++ [last], property text := by
  refine List.forall_mem_append.mpr ⟨htexts, ?_⟩
  intro text htext
  rw [List.mem_singleton.mp htext]
  exact hlast

/-- One entry that resolve_cmd_parameters keeps. -/
theorem tracks_step {filenames types : List Text} {cmd image after : AndorParameters}
    {entry : Entry} (htracks : Tracks filenames types cmd image)
    (hoption : entry.1 ≠ .nimages) (hvalue : 0 ∉ entry.2)
    (hstore : entry.1.store cmd entry.2 = .kept after) :
    Tracks (withValue .filename entry filenames) (withValue .type entry types) after
      (entry.1.image.stored entry.2 image) := by
  obtain ⟨option, value⟩ := entry
  cases option with
  | nimages => exact absurd rfl hoption
  | filename =>
      simp only [CmdOption.store] at hstore
      obtain ⟨hfits, rfl⟩ := kept_of_copyText hstore
      simp only [ImageOption.stored, CmdOption.image, ImageOption.store, params_storeText,
        dif_pos hfits]
      exact { htracks with
        cmdFilename := by
          change overlay cmd.imageFilename.bytes 0 value = layered _ (filenames ++ [value])
          rw [htracks.cmdFilename, layered_concat]
        imageFilename := (latest_concat _ _ _).symm
        filenames := forall_mem_concat htracks.filenames ⟨hvalue, hfits⟩ }
  | type =>
      simp only [CmdOption.store] at hstore
      obtain ⟨hfits, rfl⟩ := kept_of_copyText hstore
      simp only [ImageOption.stored, CmdOption.image, ImageOption.store, params_storeText,
        dif_pos hfits]
      exact { htracks with
        cmdType := by
          change overlay cmd.type.bytes 0 value = layered _ (types ++ [value])
          rw [htracks.cmdType, layered_concat]
        imageType := (latest_concat _ _ _).symm
        types := forall_mem_concat htracks.types ⟨hvalue, hfits⟩ }
  | exposure =>
      simp only [CmdOption.store] at hstore
      obtain rfl := kept_of_storeCmdExposure hstore
      simp only [ImageOption.stored, CmdOption.image, ImageOption.store, params_storeExposure]
      exact { htracks with exposure := rfl }
  | bin | hbin | vbin | hstart | hend | vstart | vend =>
      simp only [CmdOption.store] at hstore
      obtain rfl := kept_of_storeInt hstore
      simp only [ImageOption.stored, CmdOption.image, ImageOption.store, params_storeInt,
        params_storeVend]
      -- the member the option is about holds the same number, the others are as they were
      exact { htracks with
        hbin := by first | rfl | exact htracks.hbin
        vbin := by first | rfl | exact htracks.vbin
        hstart := by first | rfl | exact htracks.hstart
        hend := by first | rfl | exact htracks.hend
        vstart := by first | rfl | exact htracks.vstart
        vend := by first | rfl | exact htracks.vend }

theorem status_of_cmdStore {option : CmdOption} {params after : AndorParameters} {value : Text}
    {status : Int} (hstore : option.store params value = .refused status after) : status = 1 := by
  cases option with
  | nimages =>
      simp only [CmdOption.store, storeCmdNimages] at hstore
      split at hstore
      · cases hstore
        rfl
      · split at hstore <;> cases hstore
  | exposure =>
      simp only [CmdOption.store, storeCmdExposure] at hstore
      split at hstore
      · cases hstore
        rfl
      · cases hstore
  | filename | type =>
      simp only [CmdOption.store, copyText] at hstore
      split at hstore
      · cases hstore
      · cases hstore
        rfl
  | bin | hbin | vbin | hstart | hend | vstart | vend =>
      simp only [CmdOption.store] at hstore
      exact status_of_storeInt hstore

theorem resolveArguments_entry (entry : Entry) (entries : List Entry) (params : AndorParameters) :
    resolveArguments (entryWords (entry :: entries)) params =
      match entry.1.store params entry.2 with
      | .refused status after => ⟨status, after⟩
      | .kept after => resolveArguments (entryWords entries) after := by
  change resolveArguments (entry.1.flag :: entry.2 :: entryWords entries) params = _
  simp only [resolveArguments, CmdOption.ofWord_flag]

theorem kept_of_accepted {entry : Entry} {entries : List Entry} {params : AndorParameters}
    (haccepted : (resolveArguments (entryWords (entry :: entries)) params).status = 0) :
    ∃ after, entry.1.store params entry.2 = .kept after ∧
      resolveArguments (entryWords (entry :: entries)) params =
        resolveArguments (entryWords entries) after := by
  rw [resolveArguments_entry] at haccepted ⊢
  cases hstore : entry.1.store params entry.2 with
  | kept after => exact ⟨after, rfl, rfl⟩
  | refused status after =>
      simp only [hstore] at haccepted
      have hone := status_of_cmdStore hstore
      rw [haccepted] at hone
      exact absurd hone (by decide)

theorem valuesOf_cons (option : CmdOption) (entry : Entry) (entries : List Entry)
    (texts : List Text) :
    texts ++ valuesOf option (entry :: entries) =
      withValue option entry texts ++ valuesOf option entries := by
  by_cases hoption : entry.1 = option
  · rw [withValue, if_pos hoption, List.append_assoc, valuesOf,
      List.filter_cons_of_pos (by simpa using hoption)]
    rfl
  · rw [withValue, if_neg hoption, valuesOf, List.filter_cons_of_neg (by simpa using hoption)]
    rfl

/-- Both parsers go through the entries in step. -/
theorem tracks_run {entries : List Entry} {filenames types : List Text}
    {cmd image : AndorParameters} (htracks : Tracks filenames types cmd image)
    (hentries : ∀ entry ∈ entries, entry.1 ≠ .nimages ∧ IsWord entry.2)
    (haccepted : (resolveArguments (entryWords entries) cmd).status = 0) :
    Tracks (filenames ++ valuesOf .filename entries) (types ++ valuesOf .type entries)
      (resolveArguments (entryWords entries) cmd).params
      (ConfinedUpdate.runAll ((entries.map Entry.pair).map ImagePair.update) image) := by
  induction entries generalizing filenames types cmd image with
  | nil =>
      simp only [valuesOf, List.filter_nil, List.map_nil, List.append_nil]
      exact htracks
  | cons entry entries ih =>
      obtain ⟨⟨hoption, hword⟩, hlater⟩ := List.forall_mem_cons.mp hentries
      obtain ⟨after, hstore, hsame⟩ := kept_of_accepted haccepted
      have hnul : 0 ∉ entry.2 := fun hmem => (hword.2 0 hmem).1 rfl
      have hstep := tracks_step htracks hoption hnul hstore
      rw [valuesOf_cons, valuesOf_cons, hsame]
      rw [hsame] at haccepted
      exact ih hstep hlater haccepted

/-- Binning, window, name, type and exposure, the texts as C strings. -/
structure SameSettings (cmd image : AndorParameters) : Prop where
  hbin : cmd.imageHbin = image.imageHbin
  vbin : cmd.imageVbin = image.imageVbin
  hstart : cmd.imageHstart = image.imageHstart
  hend : cmd.imageHend = image.imageHend
  vstart : cmd.imageVstart = image.imageVstart
  vend : cmd.imageVend = image.imageVend
  filename : cmd.imageFilename.text = image.imageFilename.text
  type : cmd.type.text = image.type.text
  exposure : cmd.exposure = image.exposure

/-- The two ways of writing the texts show the same if the last one is the longest. -/
theorem text_eq_iff {size : Nat} {texts : List Text} {cmd image : CharArray size}
    (hcmd : cmd.bytes = layered size texts) (himage : image.bytes = latest size texts)
    (htexts : ∀ text ∈ texts, 0 ∉ text ∧ text.length < size) (hsize : 0 < size) :
    cmd.text = image.text ↔ LastIsLongest texts := by
  obtain ⟨content, hseen, hfits, hlayered⟩ := layered_content htexts hsize
  have hshown : cmd.text = .ok content := by
    rw [CharArray.text, hcmd]
    exact cString_layered hseen hfits hlayered
  have hlast : image.text = .ok (texts.getLast?.getD []) := by
    have hfit : 0 ∉ texts.getLast?.getD [] ∧ (texts.getLast?.getD []).length < size := by
      rcases List.eq_nil_or_concat texts with rfl | ⟨earlier, last, rfl⟩
      · exact ⟨List.not_mem_nil, hsize⟩
      · rw [List.concat_eq_append, List.getLast?_concat]
        apply htexts
        rw [List.concat_eq_append]
        exact List.mem_append_right _ (List.mem_singleton_self _)
    obtain ⟨zeros, hzeros⟩ : ∃ zeros, size - (texts.getLast?.getD []).length = zeros + 1 :=
      ⟨size - (texts.getLast?.getD []).length - 1, by omega⟩
    rw [CharArray.text, himage, latest]
    simp only [hzeros, List.replicate_succ]
    exact cString_append_nul hfit.1 _
  rw [hshown, hlast, ← hseen.eq_last_iff, Except.ok.injEq]

/-- Two accepting parsers agree exactly if neither the name nor the type of the image was given
a longer value before its last one. -/
theorem parsers_agree_iff (start : AndorParameters) (program : Text) (entries : List Entry)
    (hentries : ∀ entry ∈ entries, entry.1 ≠ .nimages ∧ IsWord entry.2)
    (command : CommandBuffer) (hcommand : JoinedCommand command (entryWords entries))
    (reply other : Reply)
    (hreply : resolveCmdParameters (program :: entryWords entries) start.setDefaults = reply)
    (hother : resolveImageParameters command start.setDefaults = .ok other)
    (haccepted : reply.status = 0) (hotherAccepted : other.status = 0) :
    SameSettings reply.params other.params ↔
      LastIsLongest (valuesOf .filename entries) ∧ LastIsLongest (valuesOf .type entries) := by
  have hlists := lists_of_joined (fun entry hentry => (hentries entry hentry).2) hcommand
  have hmode : start.setDefaults.readOutMode = .image := rfl
  rw [resolveImageParameters_of_lists hlists hmode] at hother
  have hkeeps : ∀ pair ∈ entries.map Entry.pair, pair.option.refuses pair.value = false := by
    by_contra hrefused
    have hsome : ∃ pair ∈ entries.map Entry.pair, pair.option.refuses pair.value = true := by
      simpa using hrefused
    obtain ⟨after, hafter⟩ := resolveOptions_pairs_refused hsome hmode
    rw [hafter] at hother
    obtain rfl := Except.ok.inj hother
    exact absurd hotherAccepted Int.one_ne_zero
  rw [resolveOptions_pairs_kept hkeeps hmode] at hother
  obtain rfl := Except.ok.inj hother
  have hrun : resolveArguments (entryWords entries) start.setDefaults = reply := hreply
  rw [← hrun] at haccepted ⊢
  have htracks := tracks_run (tracks_setDefaults start) hentries haccepted
  rw [List.nil_append, List.nil_append] at htracks
  have hname := text_eq_iff htracks.cmdFilename htracks.imageFilename htracks.filenames
    (by decide)
  have htype := text_eq_iff htracks.cmdType htracks.imageType htracks.types (by decide)
  rw [params_finishImage]
  constructor
  · intro hsame
    exact ⟨hname.mp hsame.filename, htype.mp hsame.type⟩
  · rintro ⟨hlongestName, hlongestType⟩
    exact ⟨htracks.hbin, htracks.vbin, htracks.hstart, htracks.hend, htracks.vstart,
      htracks.vend, hname.mpr hlongestName, htype.mpr hlongestType, htracks.exposure⟩

/-- A short name and then a longer one. -/
def longerName : List Entry :=
  [(.filename, ascii "xy"), (.filename, ascii "abcdef"), (.bin, ascii "2")]

def longerNameCommand : CommandBuffer :=
  .ofText (ascii "image --filename xy --filename abcdef --bin 2") (by decide)

theorem longerName_agrees :
    ∃ other, resolveImageParameters longerNameCommand (AndorParameters.initial []).setDefaults =
        .ok other ∧
      SameSettings (resolveCmdParameters (ascii "program" :: entryWords longerName)
        (AndorParameters.initial []).setDefaults).params other.params := by
  have hstatus : (resolveImageParameters longerNameCommand
      (AndorParameters.initial []).setDefaults).map Reply.status = .ok 0 := by decide +kernel
  obtain ⟨other, hother, hzero⟩ := checked_map_eq_ok.mp hstatus
  refine ⟨other, hother, (parsers_agree_iff (AndorParameters.initial []) (ascii "program")
    longerName ?_ longerNameCommand ⟨List.replicate 978 0, by decide +kernel⟩ _ other rfl hother
    (by decide +kernel) hzero).mpr ⟨?_, ?_⟩⟩
  · decide
  · intro last hlast
    obtain rfl : last = ascii "abcdef" := by
      have hvalues : (valuesOf .filename longerName).getLast? = some (ascii "abcdef") := by decide
      exact Option.some.inj (hlast.symm.trans hvalues)
    decide
  · intro last hlast
    cases hlast

/-- A long name and then a shorter one. -/
def shorterName : List Entry := [(.filename, ascii "abcdef"), (.filename, ascii "xy")]

def shorterNameCommand : CommandBuffer :=
  .ofText (ascii "image --filename abcdef --filename xy") (by decide)

/-- Out of the argument vector the first name stays behind the second one. -/
theorem shorterName_differs :
    ∃ other, resolveImageParameters shorterNameCommand (AndorParameters.initial []).setDefaults =
        .ok other ∧ other.status = 0 ∧ other.params.imageFilename.text = .ok (ascii "xy") ∧
      (resolveCmdParameters (ascii "program" :: entryWords shorterName)
        (AndorParameters.initial []).setDefaults).status = 0 ∧
      (resolveCmdParameters (ascii "program" :: entryWords shorterName)
        (AndorParameters.initial []).setDefaults).params.imageFilename.text =
          .ok (ascii "xycdef") ∧
      ¬ SameSettings (resolveCmdParameters (ascii "program" :: entryWords shorterName)
        (AndorParameters.initial []).setDefaults).params other.params := by
  have himage : (resolveImageParameters shorterNameCommand
      (AndorParameters.initial []).setDefaults).map
        (fun reply => (reply.status, reply.params.imageFilename.text)) =
      .ok (0, .ok (ascii "xy")) := by decide +kernel
  obtain ⟨other, hother, hpair⟩ := checked_map_eq_ok.mp himage
  obtain ⟨hzero, hname⟩ := Prod.mk.inj hpair
  have hcmd : (resolveCmdParameters (ascii "program" :: entryWords shorterName)
      (AndorParameters.initial []).setDefaults).params.imageFilename.text =
        .ok (ascii "xycdef") := by decide +kernel
  refine ⟨other, hother, hzero, hname, by decide +kernel, hcmd, ?_⟩
  intro hsame
  have htexts := hsame.filename
  rw [hcmd, hname] at htexts
  exact absurd htexts (by decide)

end Andor2k
