/-
Commands that are sent again.  Each of them writes some bytes of the parameters, whatever
was there; only `--nimages` looks at what it replaces.  So a command that is sent again need
not have been sent before: it answers and leaves the same.
-/
import Andor2k.CommandHistory
import Andor2k.ImagePairs
import Andor2k.LastWrites

namespace Andor2k

open CText Ieee LastWrites

def memberByte (params : AndorParameters) (cell : Field × Nat) : Option UInt8 :=
  (params.fieldBytes cell.1)[cell.2]?

theorem memberByte_injective : Function.Injective memberByte := by
  intro params other hbytes
  apply AndorParameters.eq_of_fieldBytes_eq
  funext field
  apply List.ext_getElem?
  intro i
  exact congrFun hbytes (field, i)

/-- The mode behind a request for several images. -/
def severalImages (code : Option UInt8) : Option UInt8 :=
  if code = some AcquisitionMode.singleScan.code then some AcquisitionMode.runTillAbort.code
  else code

theorem severalImages_twice (code : Option UInt8) :
    severalImages (severalImages code) = severalImages code := by
  by_cases hsingle : code = some AcquisitionMode.singleScan.code
  · subst hsingle
    rfl
  · have hsame : severalImages code = code := if_neg hsingle
    rw [hsame, hsame]

/-- A single scan becomes a series, any other mode stays. -/
theorem severalImages_code (mode : AcquisitionMode) :
    severalImages (some mode.code) =
      some (if mode = .singleScan then AcquisitionMode.runTillAbort else mode).code := by
  by_cases hsingle : mode = .singleScan
  · subst hsingle
    rfl
  · have hcode : some mode.code ≠ some AcquisitionMode.singleScan.code := by
      intro hcode
      apply hsingle
      cases mode
      exact congrArg AcquisitionMode.mk (Option.some.inj hcode)
    rw [if_neg hsingle]
    exact if_neg hcode

/-- What may happen to a byte. -/
def memberWrites : Family (Option UInt8) := Family.constantsAnd severalImages severalImages_twice

/-- An update of which, byte by byte, the last one counts. -/
abbrev WritesMembers (run : AndorParameters → AndorParameters) : Prop :=
  Cellwise memberWrites memberByte run

/-- One member is set to a fixed value. -/
theorem writesMembers_const {run : AndorParameters → AndorParameters} (field : Field)
    (bytes : List UInt8) (hself : ∀ params, (run params).fieldBytes field = bytes)
    (hframe : ∀ params other, other ≠ field →
      (run params).fieldBytes other = params.fieldBytes other) : WritesMembers run := by
  refine ⟨fun cell => if cell.1 = field then Function.const _ bytes[cell.2]? else id, ?_, ?_⟩
  · intro cell
    dsimp only
    split
    · exact Or.inr (Or.inr ⟨_, rfl⟩)
    · exact Or.inl rfl
  · intro params cell
    dsimp only [memberByte]
    split
    · rename_i hcell
      rw [hcell, hself]
      rfl
    · rename_i hcell
      rw [hframe params cell.1 hcell]
      rfl

/-- A text is copied to the front of a member and its last byte is cleared. -/
theorem writesMembers_observerName {text : Text} (hfits : text.length < maxObserverName)
    {run : AndorParameters → AndorParameters}
    (hself : ∀ params, (run params).fieldBytes .observerName =
      (params.observerName.strcpy text hfits).bytes.set 31 0)
    (hframe : ∀ params other, other ≠ .observerName →
      (run params).fieldBytes other = params.fieldBytes other) : WritesMembers run := by
  refine ⟨fun cell =>
    if cell.1 = .observerName then
      if cell.2 = 31 then Function.const _ (some 0)
      else if cell.2 < text.length + 1 then Function.const _ (text ++ [0])[cell.2]?
      else id
    else id, ?_, ?_⟩
  · intro cell
    dsimp only
    split_ifs
    · exact Or.inr (Or.inr ⟨_, rfl⟩)
    · exact Or.inr (Or.inr ⟨_, rfl⟩)
    · exact Or.inl rfl
    · exact Or.inl rfl
  · rintro params ⟨field, i⟩
    dsimp only [memberByte]
    by_cases hfield : field = .observerName
    · subst hfield
      have hlength : params.observerName.bytes.length = 32 := params.observerName.length_bytes
      have hcopy : (params.observerName.strcpy text hfits).bytes =
          text ++ [0] ++ params.observerName.bytes.drop (text.length + 1) := by
        simp [CharArray.strcpy, overlay]
      have hcount : (text ++ [0] ++ params.observerName.bytes.drop (text.length + 1)).length =
          32 := by
        rw [← hcopy]
        exact (params.observerName.strcpy text hfits).length_bytes
      rw [if_pos rfl, hself, hcopy]
      by_cases hlast : i = 31
      · rw [if_pos hlast, hlast, List.getElem?_set_self (by rw [hcount]; decide)]
        rfl
      · rw [if_neg hlast, List.getElem?_set_ne (Ne.symm hlast)]
        split
        · rename_i hin
          rw [List.getElem?_append_left (by simpa using hin)]
          rfl
        · rename_i hout
          have hdropped : text.length + 1 + (i - (text.length + 1)) = i := by omega
          rw [List.getElem?_append_right (by simpa using hout), List.length_append,
            List.length_singleton, List.getElem?_drop, hdropped]
          rfl
    · rw [if_neg hfield, hframe params field hfield]
      rfl

/-- Where several images are asked for, a single scan becomes a series; the mode is otherwise
left alone or set. -/
theorem writesMembers_nimagesMode (count : Int32) (parsed : Bool) :
    WritesMembers fun params =>
      { params with acquisitionMode := nimagesMode count parsed params.acquisitionMode } := by
  by_cases hrefused : ¬ parsed ∨ count < 1
  · have hsame : (fun params : AndorParameters => { params with
        acquisitionMode := nimagesMode count parsed params.acquisitionMode }) = id := by
      funext params
      rw [nimagesMode, if_pos hrefused]
      rfl
    rw [hsame]
    exact cellwise_id
  · have hframe : ∀ (params : AndorParameters) other, other ≠ .acquisitionMode →
        ({ params with acquisitionMode := nimagesMode count parsed params.acquisitionMode } :
          AndorParameters).fieldBytes other = params.fieldBytes other := by
      intro params other hother
      cases other <;> first | rfl | exact absurd rfl hother
    by_cases hone : count = 1
    · refine writesMembers_const .acquisitionMode [AcquisitionMode.singleScan.code]
        (fun params => ?_) hframe
      rw [nimagesMode, if_neg hrefused, if_pos hone]
      rfl
    · have hmany : count > 1 := by
        have hleast := Int32.not_lt.mp (not_or.mp hrefused).2
        exact Int32.lt_of_le_of_ne hleast (Ne.symm hone)
      refine ⟨fun cell => if cell.1 = .acquisitionMode then severalImages else id, ?_, ?_⟩
      · intro cell
        dsimp only
        split
        · exact Or.inr (Or.inl rfl)
        · exact Or.inl rfl
      · rintro params ⟨field, i⟩
        dsimp only
        by_cases hfield : field = .acquisitionMode
        · subst hfield
          have hmode : nimagesMode count parsed params.acquisitionMode =
              if params.acquisitionMode = .singleScan then .runTillAbort
              else params.acquisitionMode := by
            rw [nimagesMode, if_neg hrefused, if_neg hone]
            simp only [hmany, true_and]
          rw [if_pos rfl]
          cases i with
          | zero =>
              refine Eq.trans ?_ (severalImages_code params.acquisitionMode).symm
              rw [← hmode]
              rfl
          | succ i => rfl
        · rw [if_neg hfield]
          exact congrArg (·[i]?) (hframe params field hfield)

namespace ImageOption

/-- An option that sets its one member. -/
theorem writesMembers_stored {option : ImageOption} {value : Text} {field : Field}
    (hfields : option.fields = [field]) (bytes : List UInt8)
    (hself : ∀ params, (option.stored value params).fieldBytes field = bytes) :
    WritesMembers (option.stored value) := by
  apply writesMembers_const field bytes hself
  intro params other hother
  apply option.stored_frame value params
  rw [hfields, List.mem_singleton]
  exact hother

/-- A text option sets its member or leaves it alone. -/
theorem writesMembers_storeText {option : ImageOption} {value : Text} {size : Nat}
    {store : AndorParameters → CharArray size → AndorParameters} {field : Field}
    (hfields : option.fields = [field])
    (hstored : option.store = storeText store)
    (hself : ∀ params array, (store params array).fieldBytes field = array.bytes) :
    WritesMembers (option.stored value) := by
  have hparams : ∀ params, option.stored value params =
      if hfits : value.length < size then store params (.ofText value hfits) else params := by
    intro params
    rw [stored, hstored, params_storeText]
  by_cases hfits : value.length < size
  · apply writesMembers_stored hfields (CharArray.ofText value hfits).bytes
    intro params
    rw [hparams, dif_pos hfits, hself]
  · have hsame : option.stored value = id := by
      funext params
      rw [hparams, dif_neg hfits]
      rfl
    rw [hsame]
    exact cellwise_id

theorem writesMembers (option : ImageOption) (value : Text) :
    WritesMembers (option.stored value) := by
  have hvbin : WritesMembers (vbin.stored value) :=
    writesMembers_stored rfl (Memory.Pod.encode (Int32.ofInt (strtol value).value))
      fun params => by rw [stored, store, params_storeInt]; rfl
  cases option with
  | nimages =>
      have hcount : WritesMembers fun params =>
          { params with numImages := Int32.ofInt (strtol value).value } := by
        refine writesMembers_const .numImages
          (Memory.Pod.encode (Int32.ofInt (strtol value).value)) (fun _ => rfl) ?_
        intro params other hother
        cases other <;> first | rfl | exact absurd rfl hother
      have hboth : nimages.stored value = _ := funext fun params =>
        params_storeNimages params value
      rw [hboth]
      exact hcount.comp (writesMembers_nimagesMode _ _)
  | bin =>
      have hhbin : WritesMembers fun params =>
          { params with imageHbin := Int32.ofInt (strtol value).value } := by
        refine writesMembers_const .imageHbin
          (Memory.Pod.encode (Int32.ofInt (strtol value).value)) (fun _ => rfl) ?_
        intro params other hother
        cases other <;> first | rfl | exact absurd rfl hother
      have hboth : bin.stored value = (fun params =>
          { params with imageHbin := Int32.ofInt (strtol value).value }) ∘ vbin.stored value := by
        funext params
        simp only [stored, store, params_storeInt, Function.comp_apply]
      rw [hboth]
      exact hvbin.comp hhbin
  | vend =>
      refine writesMembers_stored rfl (Memory.Pod.encode (Int32.ofInt (strtol value).value)) ?_
      intro params
      rw [stored, store, params_storeVend]
      rfl
  | exposure =>
      refine writesMembers_stored rfl
        (Memory.Pod.encode (strtod value).value.toBinary32) ?_
      intro params
      rw [stored, store, params_storeExposure]
      rfl
  | filename =>
      have hstore : filename.store =
          storeText fun params value => { params with imageFilename := value } := rfl
      exact writesMembers_storeText rfl hstore fun _ _ => rfl
  | type =>
      have hstore : type.store =
          storeText fun params value => { params with type := value } := rfl
      exact writesMembers_storeText rfl hstore fun _ _ => rfl
  | object =>
      have hstore : object.store =
          storeText fun params value => { params with objectName := value } := rfl
      exact writesMembers_storeText rfl hstore fun _ _ => rfl
  | filter =>
      have hstore : filter.store =
          storeText fun params value => { params with filterName := value } := rfl
      exact writesMembers_storeText rfl hstore fun _ _ => rfl
  | vbin => exact hvbin
  | hbin | hstart | hend | vstart | arTries =>
      refine writesMembers_stored rfl (Memory.Pod.encode (Int32.ofInt (strtol value).value)) ?_
      intro params
      rw [stored, store, params_storeInt]
      rfl

end ImageOption

/-- In the image read-out mode a parser makes an update of the members, and what it returns
shows in what it leaves behind. -/
structure Updates (parser : AndorParameters → Checked Reply)
    (update : AndorParameters → AndorParameters) (report : AndorParameters → Int) : Prop where
  writes : WritesMembers update
  stays : ∀ params, params.readOutMode = .image → (update params).readOutMode = .image
  replies : ∀ params, params.readOutMode = .image →
    parser params = .ok ⟨report (update params), update params⟩

/-- A parser that stores something and goes on with another parser. -/
theorem Updates.after {parser later : AndorParameters → Checked Reply}
    {first update : AndorParameters → AndorParameters} {report : AndorParameters → Int}
    (hupdates : Updates later update report) (hwrites : WritesMembers first)
    (hstays : ∀ params, params.readOutMode = .image → (first params).readOutMode = .image)
    (hgoes : ∀ params, params.readOutMode = .image → parser params = later (first params)) :
    Updates parser (update ∘ first) report where
  writes := hwrites.comp hupdates.writes
  stays params hmode := hupdates.stays _ (hstays params hmode)
  replies params hmode := by
    rw [hgoes params hmode]
    exact hupdates.replies _ (hstays params hmode)

/-- A parser that returns at once. -/
theorem updates_return {parser : AndorParameters → Checked Reply}
    {update : AndorParameters → AndorParameters} (status : Int) (hwrites : WritesMembers update)
    (hstays : ∀ params, params.readOutMode = .image → (update params).readOutMode = .image)
    (hreturns : ∀ params, params.readOutMode = .image →
      parser params = .ok ⟨status, update params⟩) :
    Updates parser update fun _ => status :=
  ⟨hwrites, hstays, hreturns⟩

theorem writesMembers_saveDir :
    WritesMembers fun params => { params with saveDir := AndorParameters.fixedSaveDir } :=
  writesMembers_const .saveDir AndorParameters.fixedSaveDir.bytes (fun _ => rfl)
    saveDirUpdate.frame

/-- What an `image` command stores does not depend on the parameters it finds. -/
theorem updates_resolveOptions {tokens : Tokens} {fields : List Field}
    (hwritten : imageWritten tokens = .ok fields) :
    ∃ update report, Updates (resolveOptions tokens) update report := by
  induction tokens using imageWritten.induct generalizing fields with
  | case1 =>
      refine ⟨_, fun params => finalStatus params, writesMembers_saveDir, fun _ hmode => hmode, ?_⟩
      intro params hmode
      rw [resolveOptions, finishImage]
      dsimp only
      rw [if_neg (not_not.mpr hmode)]
      rfl
  | case2 => cases hwritten
  | case3 word rest hoption ih =>
      simp only [imageWritten, hoption] at hwritten
      obtain ⟨update, report, hupdates⟩ := ih hwritten
      refine ⟨update ∘ id, report, hupdates.after cellwise_id (fun _ hmode => hmode) ?_⟩
      intro params hmode
      simp only [resolveOptions, hoption, id_eq]
  | case4 word option hoption =>
      refine ⟨id, _, updates_return 1 cellwise_id (fun _ hmode => hmode) ?_⟩
      intro params hmode
      simp only [resolveOptions, hoption, id_eq]
  | case5 word option hoption => simp [imageWritten, hoption] at hwritten
  | case6 word option hoption value rest hrefuses =>
      refine ⟨option.stored value, _, updates_return 1 (option.writesMembers value)
        (fun _ => stored_readOutMode option value) ?_⟩
      intro params hmode
      simp only [resolveOptions, hoption, store_of_refuses hrefuses hmode]
  | case7 word option hoption value rest hkeeps ih =>
      simp only [imageWritten, hoption, hkeeps] at hwritten
      obtain ⟨later, hlater, -⟩ := checked_map_eq_ok.mp hwritten
      obtain ⟨update, report, hupdates⟩ := ih hlater
      refine ⟨_, report, hupdates.after (option.writesMembers value)
        (fun _ => stored_readOutMode option value) ?_⟩
      intro params hmode
      simp only [resolveOptions, hoption,
        store_of_keeps (by simpa using hkeeps) hmode]

/-- A word is refused, and nothing is stored, or what is stored does not depend on the
parameters. -/
def SetOption.Uniform (option : SetOption) (sdk : SetParamAnswers) (token : Text) : Prop :=
  (∃ status, ∀ params, option.store sdk params token = .ok (.refused status params)) ∨
    ∃ update, WritesMembers update ∧
      (∀ params, (update params).readOutMode = params.readOutMode) ∧
      ∀ params, option.store sdk params token = .ok (.kept (update params))

/-- A word that is stored sets one member. -/
theorem uniform_of_kept {option : SetOption} {sdk : SetParamAnswers} {token : Text}
    {update : AndorParameters → AndorParameters} (field : Field) (bytes : List UInt8)
    (hself : ∀ params, (update params).fieldBytes field = bytes)
    (hframe : ∀ params other, other ≠ field →
      (update params).fieldBytes other = params.fieldBytes other)
    (hmode : .readOutMode ≠ field)
    (hstore : ∀ params, option.store sdk params token = .ok (.kept (update params))) :
    option.Uniform sdk token :=
  Or.inr ⟨update, writesMembers_const field bytes hself hframe,
    fun params => Memory.Pod.encode_injective (hframe params .readOutMode hmode), hstore⟩

theorem uniform_acqmode (sdk : SetParamAnswers) (token : Text) :
    SetOption.acqmode.Uniform sdk token := by
  let mode := AcquisitionMode.ofInt (Int32.ofInt (strtol (SetOption.acqmode.value token)).value)
  by_cases hrest : (strtol (SetOption.acqmode.value token)).rest = token
  · exact Or.inl ⟨10, fun params => congrArg Except.ok (if_pos hrest)⟩
  · have hstore : ∀ params, SetOption.acqmode.store sdk params token =
        .ok (.kept { params with acquisitionMode := mode }) :=
      fun params => congrArg Except.ok (if_neg hrest)
    refine uniform_of_kept .acquisitionMode (Memory.Pod.encode mode) (fun _ => rfl) ?_
      (by decide) hstore
    intro params other hother
    cases other <;> first | rfl | exact absurd rfl hother

theorem uniform_kineticcycletime (sdk : SetParamAnswers) (token : Text) :
    SetOption.kineticcycletime.Uniform sdk token := by
  let time := (strtod (SetOption.kineticcycletime.value token)).value.toBinary32
  by_cases hrest : (strtod (SetOption.kineticcycletime.value token)).rest = token
  · exact Or.inl ⟨10, fun params => congrArg Except.ok (if_pos hrest)⟩
  · have hstore : ∀ params, SetOption.kineticcycletime.store sdk params token =
        .ok (.kept { params with kineticsCycleTime := time }) :=
      fun params => congrArg Except.ok (if_neg hrest)
    refine uniform_of_kept .kineticsCycleTime (Memory.Pod.encode time) (fun _ => rfl) ?_
      (by decide) hstore
    intro params other hother
    cases other <;> first | rfl | exact absurd rfl hother

theorem uniform_observername (sdk : SetParamAnswers) {token : Text}
    (hfits : SetOption.observername.Fits token) :
    SetOption.observername.Uniform sdk token := by
  have hroom : (SetOption.observername.value token).length < maxObserverName := hfits rfl
  let update : AndorParameters → AndorParameters := fun params =>
    { params with
      observerName :=
        ⟨(params.observerName.strcpy (SetOption.observername.value token) hroom).bytes.set 31 0, by
          rw [List.length_set, CharArray.length_bytes]⟩ }
  have hframe : ∀ params other, other ≠ .observerName →
      (update params).fieldBytes other = params.fieldBytes other := by
    intro params other hother
    cases other <;> first | rfl | exact absurd rfl hother
  refine Or.inr ⟨update, writesMembers_observerName hroom (fun _ => rfl) hframe, fun _ => rfl, ?_⟩
  intro params
  simp only [SetOption.store, setObservername, params.strcpyObserverName_eq_of_fits hroom]
  rfl

theorem uniform_hsspeed (sdk : SetParamAnswers) (token : Text) :
    SetOption.hsspeed.Uniform sdk token := by
  let index := (strtod (SetOption.hsspeed.value token)).value.toInt32
  by_cases hrest : (strtod (SetOption.hsspeed.value token)).rest = token
  · exact Or.inl ⟨10, fun params => congrArg Except.ok (if_pos hrest)⟩
  · by_cases hcount : sdk.getNumberHSSpeeds ≠ .success
    · exact Or.inl ⟨2, fun params => congrArg Except.ok ((if_neg hrest).trans (if_pos hcount))⟩
    · by_cases hindex : (index < 0 ∨ sdk.numSpeeds ≤ index) ∨ sdk.getHSSpeed ≠ .success
      · exact Or.inl ⟨2, fun params =>
          congrArg Except.ok ((if_neg hrest).trans ((if_neg hcount).trans (if_pos hindex)))⟩
      · have hstore : ∀ params, SetOption.hsspeed.store sdk params token =
            .ok (.kept { params with hsspeed := index }) := fun params =>
          congrArg Except.ok ((if_neg hrest).trans ((if_neg hcount).trans (if_neg hindex)))
        refine uniform_of_kept .hsspeed (Memory.Pod.encode index) (fun _ => rfl) ?_
          (by decide) hstore
        intro params other hother
        cases other <;> first | rfl | exact absurd rfl hother

theorem uniform_preampgain (sdk : SetParamAnswers) (token : Text) :
    SetOption.preampgain.Uniform sdk token := by
  let index := (strtod (SetOption.preampgain.value token)).value.toInt32
  by_cases hindex : (strtod (SetOption.preampgain.value token)).rest = token ∨
      (index < 0 ∨ 3 ≤ index)
  · exact Or.inl ⟨11, fun params => congrArg Except.ok (if_pos hindex)⟩
  · by_cases hgain : sdk.getPreAmpGain ≠ .success
    · exact Or.inl ⟨1, fun params => congrArg Except.ok ((if_neg hindex).trans (if_pos hgain))⟩
    · have hstore : ∀ params, SetOption.preampgain.store sdk params token =
          .ok (.kept { params with preampgain := index }) := fun params =>
        congrArg Except.ok ((if_neg hindex).trans (if_neg hgain))
      refine uniform_of_kept .preampgain (Memory.Pod.encode index) (fun _ => rfl) ?_
        (by decide) hstore
      intro params other hother
      cases other <;> first | rfl | exact absurd rfl hother

theorem SetOption.uniform (option : SetOption) (sdk : SetParamAnswers) {token : Text}
    (hfits : option.Fits token) : option.Uniform sdk token := by
  cases option with
  | acqmode => exact uniform_acqmode sdk token
  | kineticcycletime => exact uniform_kineticcycletime sdk token
  | observername => exact uniform_observername sdk hfits
  | hsspeed => exact uniform_hsspeed sdk token
  | preampgain => exact uniform_preampgain sdk token

/-- The same for the whole of a `setparam` command. -/
theorem updates_setOptions {sdk : Nat → SetParamAnswers} {index : Nat} {tokens : Tokens}
    {fields : List Field} (hwritten : setWritten sdk index tokens = .ok fields) :
    ∃ update report, Updates (setOptions sdk index tokens) update report := by
  induction tokens generalizing index fields with
  | done => exact ⟨id, _, updates_return 0 cellwise_id (fun _ hmode => hmode) fun _ _ => rfl⟩
  | overrun => cases hwritten
  | token word rest ih =>
      cases hoption : SetOption.ofWord word with
      | none =>
          simp only [setWritten, hoption] at hwritten
          obtain ⟨update, report, hupdates⟩ := ih hwritten
          refine ⟨update ∘ id, report, hupdates.after cellwise_id (fun _ hmode => hmode) ?_⟩
          intro params hmode
          simp only [setOptions, hoption, id_eq]
      | some option =>
          simp only [setWritten, hoption] at hwritten
          by_cases hfits : option.Fits word
          · rw [if_neg (not_not.mpr hfits)] at hwritten
            rcases option.uniform (sdk index) hfits with ⟨status, hrefused⟩ |
              ⟨update, hwrites, hstays, hkept⟩
            · refine ⟨id, _, updates_return status cellwise_id (fun _ hmode => hmode) ?_⟩
              intro params hmode
              simp only [setOptions, hoption, hrefused, id_eq]
            · have hkeeps : ¬ option.refuses (sdk index) word = true := by
                intro hrefuses
                obtain ⟨result, hresult, hspec⟩ :=
                  option.storesAs_store (sdk index) (AndorParameters.construct []) hfits
                obtain ⟨status, -, hrefused⟩ := hspec.refused hrefuses
                rw [hkept, hrefused] at hresult
                cases hresult
              rw [if_neg hkeeps] at hwritten
              obtain ⟨later, hlater, -⟩ := checked_map_eq_ok.mp hwritten
              obtain ⟨next, report, hupdates⟩ := ih hlater
              refine ⟨_, report, hupdates.after hwrites
                (fun params hmode => (hstays params).trans hmode) ?_⟩
              intro params hmode
              simp only [setOptions, hoption, hkept]
          · rw [if_pos hfits] at hwritten
            cases hwritten

/-- In the image read-out mode a command makes an update of the members; what it answers
shows in what it leaves behind. -/
structure Command.Does (command : Command) (update : AndorParameters → AndorParameters) :
    Prop where
  writes : WritesMembers update
  stays : ∀ params, params.readOutMode = .image → (update params).readOutMode = .image
  serves : ∀ params, params.readOutMode = .image →
    step params command = some (update params)
  answers : ∀ params other, params.readOutMode = .image → other.readOutMode = .image →
    update params = update other → parserReply command params = parserReply command other

/-- A command with a parser does what its parser does. -/
theorem Updates.does {command : Command} {parser : AndorParameters → Checked Reply}
    {update : AndorParameters → AndorParameters} {report : AndorParameters → Int}
    (hupdates : Updates parser update report)
    (hparser : ∀ params, params.readOutMode = .image →
      parserReply command params = some (parser params)) : command.Does update where
  writes := hupdates.writes
  stays := hupdates.stays
  serves params hmode := by
    rw [step, serve, hparser params hmode, hupdates.replies params hmode]
    rfl
  answers params other hmode hother hsame := by
    rw [hparser params hmode, hparser other hother, hupdates.replies params hmode,
      hupdates.replies other hother, hsame]

theorem Command.StaysWithin.does {command : Command} (hwithin : command.StaysWithin) :
    ∃ update, command.Does update := by
  obtain ⟨fields, hwritten⟩ := hwithin
  unfold Command.written at hwritten
  by_cases himage : handlerOf command.buffer = .getImage
  · simp only [himage, ne_eq, not_true_eq_false, ↓reduceIte] at hwritten
    obtain ⟨update, report, hupdates⟩ := updates_resolveOptions hwritten
    refine ⟨update, hupdates.does fun params hmode => ?_⟩
    rw [parserReply_getImage params himage, if_neg (not_not.mpr hmode)]
  · by_cases hset : handlerOf command.buffer = .setParamValue
    · simp only [hset] at hwritten
      obtain ⟨update, report, hupdates⟩ := updates_setOptions hwritten
      exact ⟨update, hupdates.does fun params _ => parserReply_setParamValue params hset⟩
    · have hnone : ∀ params, parserReply command params = none := fun params =>
        parserReply_other params himage hset
      refine ⟨id, cellwise_id, fun _ hmode => hmode, ?_, ?_⟩
      · intro params _
        rw [step, serve, hnone]
        rfl
      · intro params other _ _ _
        rw [hnone, hnone]

/-- Commands one after the other make one update. -/
theorem run_does {commands : List Command} (hwithin : ∀ command ∈ commands, command.StaysWithin) :
    ∃ update, WritesMembers update ∧
      ∀ params, params.readOutMode = .image → (update params).readOutMode = .image ∧
        Runs.run step params commands = some (update params) := by
  induction commands with
  | nil => exact ⟨id, cellwise_id, fun _ hmode => ⟨hmode, rfl⟩⟩
  | cons command rest ih =>
      obtain ⟨hfirst, hlater⟩ := List.forall_mem_cons.mp hwithin
      obtain ⟨first, hdoes⟩ := hfirst.does
      obtain ⟨later, hwrites, hrun⟩ := ih hlater
      refine ⟨later ∘ first, hdoes.writes.comp hwrites, fun params hmode => ?_⟩
      obtain ⟨hstays, hrest⟩ := hrun (first params) (hdoes.stays params hmode)
      exact ⟨hstays, Runs.run_cons_eq_some.mpr ⟨_, hdoes.serves params hmode, hrest⟩⟩

/-- In a session whose commands stay within their memory, a command that is sent again answers
and leaves the same whether it has been sent before or not, whatever came between. -/
theorem resent_command_forgets (memory : List UInt8) {before between : List Command}
    {command : Command}
    (hwithin : ∀ sent ∈ before ++ command :: between, sent.StaysWithin) :
    ∃ params other,
      Runs.run step (AndorParameters.initial memory) (before ++ command :: between) =
        some params ∧
      Runs.run step (AndorParameters.initial memory) (before ++ between) = some other ∧
      parserReply command params = parserReply command other ∧
      step params command = step other command := by
  obtain ⟨hbefore, hbehind⟩ := List.forall_mem_append.mp hwithin
  obtain ⟨hcommand, hbetween⟩ := List.forall_mem_cons.mp hbehind
  obtain ⟨start, hstart, hready⟩ := run_ready (ready_initial memory) hbefore
  obtain ⟨update, hdoes⟩ := hcommand.does
  obtain ⟨meanwhile, hwrites, hrun⟩ := run_does hbetween
  have hmode := hready.readOutMode
  obtain ⟨hstays, hplain⟩ := hrun start hmode
  obtain ⟨hagain, htwice⟩ := hrun (update start) (hdoes.stays start hmode)
  have hsame : update (meanwhile (update start)) = update (meanwhile start) :=
    hdoes.writes.hides memberByte_injective hwrites start
  refine ⟨_, _, ?_, ?_, hdoes.answers _ _ hagain hstays hsame, ?_⟩
  · exact Runs.run_append_eq_some.mpr ⟨start, hstart,
      Runs.run_cons_eq_some.mpr ⟨_, hdoes.serves start hmode, htwice⟩⟩
  · exact Runs.run_append_eq_some.mpr ⟨start, hstart, hplain⟩
  · rw [hdoes.serves _ hagain, hdoes.serves _ hstays, hsame]

def fiveImages : Command :=
  ⟨ascii "image --nimages 5 --hbin 4", by decide, fun _ => willingCamera⟩

/-- Between the two times the binning is changed, and a series is asked for. -/
theorem binCommand_forgets :
    ∃ params other,
      Runs.run step (AndorParameters.initial []) ([gainCommand] ++ binCommand :: [fiveImages]) =
        some params ∧
      Runs.run step (AndorParameters.initial []) ([gainCommand] ++ [fiveImages]) =
        some other ∧
      parserReply binCommand params = parserReply binCommand other ∧
      step params binCommand = step other binCommand := by
  apply resent_command_forgets []
  intro sent hsent
  simp only [List.singleton_append, List.mem_cons, List.not_mem_nil, or_false] at hsent
  rcases hsent with rfl | rfl | rfl
  · exact ⟨_, gainCommand_written⟩
  · exact ⟨_, binCommand_written⟩
  · exact ⟨[.numImages, .acquisitionMode, .imageHbin, .saveDir], by decide +kernel⟩

end Andor2k
