/-
Which members a command writes.  The members are read off the words alone: an option
either refuses its value or lets the loop go on, and this does not depend on the
parameters.  A command that stays within its buffer and within the member it copies to
leaves everything else as it was.
-/
import Andor2k.Daemon

namespace Andor2k

open CText Ieee

/-- The second state differs from the first in the listed members at most. -/
def AgreeOff (fields : List Field) (before after : AndorParameters) : Prop :=
  ∀ field, field ∉ fields → after.fieldBytes field = before.fieldBytes field

theorem AgreeOff.refl (fields : List Field) (params : AndorParameters) :
    AgreeOff fields params params := fun _ _ => rfl

theorem AgreeOff.trans {fields : List Field} {first second third : AndorParameters}
    (hfirst : AgreeOff fields first second) (hsecond : AgreeOff fields second third) :
    AgreeOff fields first third :=
  fun field hfield => (hsecond field hfield).trans (hfirst field hfield)

theorem AgreeOff.mono {small large : List Field} {before after : AndorParameters}
    (hagree : AgreeOff small before after) (hsubset : small ⊆ large) :
    AgreeOff large before after :=
  fun field hfield => hagree field fun hsmall => hfield (hsubset hsmall)

theorem AgreeOff.readOutMode_eq {fields : List Field} {before after : AndorParameters}
    (hagree : AgreeOff fields before after) (hfield : .readOutMode ∉ fields) :
    after.readOutMode = before.readOutMode :=
  Memory.Pod.encode_injective (hagree .readOutMode hfield)

theorem AgreeOff.saveDir_eq {fields : List Field} {before after : AndorParameters}
    (hagree : AgreeOff fields before after) (hfield : .saveDir ∉ fields) :
    after.saveDir = before.saveDir :=
  Memory.Pod.encode_injective (hagree .saveDir hfield)

theorem AgreeOff.numImages_eq {fields : List Field} {before after : AndorParameters}
    (hagree : AgreeOff fields before after) (hfield : .numImages ∉ fields) :
    after.numImages = before.numImages :=
  Memory.Pod.encode_injective (hagree .numImages hfield)

theorem AgreeOff.acquisitionMode_eq {fields : List Field} {before after : AndorParameters}
    (hagree : AgreeOff fields before after) (hfield : .acquisitionMode ∉ fields) :
    after.acquisitionMode = before.acquisitionMode :=
  Memory.Pod.encode_injective (hagree .acquisitionMode hfield)

/-- The save directory is left alone or set to the fixed one. -/
def SaveDirFixed (before after : AndorParameters) : Prop :=
  after.saveDir = before.saveDir ∨ after.saveDir = AndorParameters.fixedSaveDir

namespace ImageOption

/-- The values on which the handler returns, as long as the read-out mode is right. -/
def refuses : ImageOption → Text → Bool
  | nimages, value =>
      (strtol value).rest = value || Int32.ofInt (strtol value).value < 1
  | filename, value => maxFitsFilenameSize ≤ value.length
  | type, value => maxImageTypeChars ≤ value.length
  | object, value => maxObjectNameChars ≤ value.length
  | filter, value => maxFilterNameChars ≤ value.length
  | exposure, value =>
      (strtod value).rest = value || !(strtod value).value.toBinary32.isNonNegative
  | _, value => (strtol value).rest = value

/-- What is written before the value is looked at. -/
def uncheckedFields : ImageOption → List Field
  | nimages => [.numImages]
  | filename => []
  | type => []
  | object => []
  | filter => []
  | option => option.fields

def written (option : ImageOption) (value : Text) : List Field :=
  if option.refuses value then option.uncheckedFields else option.fields

theorem uncheckedFields_subset_fields (option : ImageOption) :
    option.uncheckedFields ⊆ option.fields := by
  cases option <;> simp [uncheckedFields, fields]

theorem written_subset_fields (option : ImageOption) (value : Text) :
    option.written value ⊆ option.fields := by
  unfold written
  split
  · exact option.uncheckedFields_subset_fields
  · exact List.Subset.refl _

theorem readOutMode_not_mem_fields (option : ImageOption) :
    .readOutMode ∉ option.fields := by
  cases option <;> simp [fields]

theorem saveDir_not_mem_fields (option : ImageOption) : .saveDir ∉ option.fields := by
  cases option <;> simp [fields]

end ImageOption

theorem checkReadOutMode_of_image {params : AndorParameters}
    (hmode : params.readOutMode = .image) : checkReadOutMode params = .kept params := by
  simp [checkReadOutMode, hmode]

/-- What an option has to do for its value: refuse or go on as announced, and write the
announced members only. -/
structure StoresAs (result : OptionResult) (refuses : Bool) (written : List Field)
    (params : AndorParameters) : Prop where
  agree : AgreeOff written params result.params
  refused : refuses = true → ∃ status, status ≠ 0 ∧ result = .refused status result.params
  kept : refuses = false → result = .kept result.params

theorem storesAs_storeInt {store : AndorParameters → Int32 → AndorParameters}
    {fields : List Field} {params : AndorParameters}
    (hstore : ∀ value, AgreeOff fields params (store params value)) (token : Text) :
    StoresAs (storeInt store params token) ((strtol token).rest = token) fields params := by
  unfold storeInt
  by_cases hrest : (strtol token).rest = token
  · simp only [hrest, ↓reduceIte]
    exact ⟨hstore _, fun _ => ⟨1, by decide, rfl⟩, by simp⟩
  · simp only [hrest, ↓reduceIte]
    exact ⟨hstore _, by simp, fun _ => rfl⟩

theorem storesAs_storeText {size : Nat}
    {store : AndorParameters → CharArray size → AndorParameters} {fields : List Field}
    {params : AndorParameters}
    (hstore : ∀ value, AgreeOff fields params (store params value))
    (hmode : ∀ value, (store params value).readOutMode = .image) (token : Text) :
    StoresAs (storeText store params token) (size ≤ token.length)
      (if size ≤ token.length then [] else fields) params := by
  unfold storeText
  by_cases hfits : token.length < size
  · have hlong : ¬ size ≤ token.length := by omega
    simp only [hfits, hlong, ↓reduceDIte, ↓reduceIte, checkReadOutMode_of_image (hmode _)]
    exact ⟨hstore _, by simp, fun _ => rfl⟩
  · have hlong : size ≤ token.length := by omega
    simp only [hfits, hlong, ↓reduceDIte, ↓reduceIte]
    exact ⟨AgreeOff.refl _ _, fun _ => ⟨1, by decide, rfl⟩, by simp⟩

theorem storesAs_storeNimages (params : AndorParameters) (token : Text) :
    StoresAs (storeNimages params token) (ImageOption.nimages.refuses token)
      (ImageOption.nimages.written token) params := by
  have hcount : AgreeOff [.numImages] params
      { params with numImages := Int32.ofInt (strtol token).value } := by
    intro field hfield
    cases field <;> first | rfl | simp at hfield
  have hboth : ∀ mode, AgreeOff [.numImages, .acquisitionMode] params
      { params with
        numImages := Int32.ofInt (strtol token).value, acquisitionMode := mode } := by
    intro mode field hfield
    cases field <;> first | rfl | simp at hfield
  unfold storeNimages ImageOption.written ImageOption.refuses
  by_cases hrefuses : (strtol token).rest = token ∨ Int32.ofInt (strtol token).value < 1
  · simp only [hrefuses, ↓reduceIte, Bool.or_eq_true, decide_eq_true_eq]
    exact ⟨hcount, fun _ => ⟨1, by decide, rfl⟩, fun hkept => absurd hrefuses (by
      simpa using hkept)⟩
  · simp only [hrefuses, ↓reduceIte, Bool.or_eq_true, decide_eq_true_eq]
    split
    · exact ⟨hboth _, by simpa using hrefuses, fun _ => rfl⟩
    · split
      · exact ⟨hboth _, by simpa using hrefuses, fun _ => rfl⟩
      · exact ⟨hboth params.acquisitionMode, by simpa using hrefuses, fun _ => rfl⟩

/-- The re-check behind `--vend` changes nothing while the read-out mode is right. -/
theorem storeVend_eq_storeInt {params : AndorParameters}
    (hmode : params.readOutMode = .image) (token : Text) :
    storeVend params token =
      storeInt (fun params value => { params with imageVend := value }) params token := by
  have hkeeps : ∀ value : Int32,
      checkReadOutMode { params with imageVend := value } =
        .kept { params with imageVend := value } :=
    fun value => checkReadOutMode_of_image hmode
  unfold storeVend storeInt
  by_cases hrest : (strtol token).rest = token
  · simp only [hrest, ↓reduceIte]
  · simp only [hrest, ↓reduceIte, hkeeps]

theorem storesAs_storeExposure (params : AndorParameters) (token : Text) :
    StoresAs (storeExposure params token) (ImageOption.exposure.refuses token)
      [.exposure] params := by
  have hstore : AgreeOff [.exposure] params
      { params with exposure := (strtod token).value.toBinary32 } := by
    intro field hfield
    cases field <;> first | rfl | simp at hfield
  unfold storeExposure ImageOption.refuses
  by_cases hrefuses : (strtod token).rest = token ∨
      ¬ (strtod token).value.toBinary32.isNonNegative
  · simp only [hrefuses, ↓reduceIte]
    exact ⟨hstore, fun _ => ⟨1, by decide, rfl⟩, fun hkept => absurd hrefuses (by
      simpa using hkept)⟩
  · simp only [hrefuses, ↓reduceIte]
    exact ⟨hstore, by simpa using hrefuses, fun _ => rfl⟩

/-- An option that is stored by `storeInt`. -/
theorem ImageOption.storesAs_int {option : ImageOption} {params : AndorParameters}
    {value : Text} {store : AndorParameters → Int32 → AndorParameters}
    (hunchecked : option.uncheckedFields = option.fields)
    (hrefuses : option.refuses value = decide ((strtol value).rest = value))
    (hstore : ∀ number, AgreeOff option.fields params (store params number)) :
    StoresAs (storeInt store params value) (option.refuses value) (option.written value)
      params := by
  rw [hrefuses, written, hunchecked, ite_self]
  exact storesAs_storeInt hstore value

/-- An option that is stored by `storeText`. -/
theorem ImageOption.storesAs_text {option : ImageOption} {params : AndorParameters}
    {value : Text} {size : Nat} {store : AndorParameters → CharArray size → AndorParameters}
    (hmode : params.readOutMode = .image)
    (hunchecked : option.uncheckedFields = [])
    (hrefuses : option.refuses value = decide (size ≤ value.length))
    (hstore : ∀ text, AgreeOff option.fields params (store params text)) :
    StoresAs (storeText store params value) (option.refuses value) (option.written value)
      params := by
  have hstill : ∀ text, (store params text).readOutMode = .image :=
    fun text => ((hstore text).readOutMode_eq option.readOutMode_not_mem_fields).trans hmode
  have htext := storesAs_storeText hstore hstill value
  rw [written, hunchecked, hrefuses]
  simpa only [decide_eq_true_eq] using htext

/-- Every option refuses and writes as announced. -/
theorem ImageOption.storesAs_store (option : ImageOption) {params : AndorParameters}
    (hmode : params.readOutMode = .image) (value : Text) :
    StoresAs (option.store params value) (option.refuses value) (option.written value)
      params := by
  cases option with
  | nimages => exact storesAs_storeNimages params value
  | bin | hbin | vbin | hstart | hend | vstart | arTries =>
      simp only [store]
      refine storesAs_int rfl rfl fun number field hfield => ?_
      cases field <;> first | rfl | simp [fields] at hfield
  | vend =>
      simp only [store, storeVend_eq_storeInt hmode]
      refine storesAs_int rfl rfl fun number field hfield => ?_
      cases field <;> first | rfl | simp [fields] at hfield
  | filename | type | object | filter =>
      simp only [store]
      refine storesAs_text hmode rfl rfl fun text field hfield => ?_
      cases field <;> first | rfl | simp [fields] at hfield
  | exposure =>
      have hwritten : exposure.written value = [.exposure] := ite_self _
      rw [hwritten]
      exact storesAs_storeExposure params value

/-- An option that stops the command has refused its value, with a status of its own. -/
theorem ImageOption.refused_of_store {option : ImageOption} {params after : AndorParameters}
    {value : Text} {status : Int} (hmode : params.readOutMode = .image)
    (hstore : option.store params value = .refused status after) :
    option.refuses value = true ∧ status ≠ 0 := by
  have hspec := option.storesAs_store hmode value
  rw [hstore] at hspec
  cases hrefuses : option.refuses value with
  | false => cases hspec.kept hrefuses
  | true =>
      obtain ⟨refusal, hne, heq⟩ := hspec.refused hrefuses
      obtain ⟨rfl, -⟩ := OptionResult.refused.inj heq
      exact ⟨rfl, hne⟩

/-- An option that goes on has accepted its value, and no option writes the read-out mode. -/
theorem ImageOption.kept_of_store {option : ImageOption} {params after : AndorParameters}
    {value : Text} (hmode : params.readOutMode = .image)
    (hstore : option.store params value = .kept after) :
    option.refuses value = false ∧ after.readOutMode = .image := by
  have hspec := option.storesAs_store hmode value
  rw [hstore] at hspec
  have hmember : .readOutMode ∉ option.written value := fun hmem =>
    option.readOutMode_not_mem_fields (option.written_subset_fields value hmem)
  refine ⟨?_, (hspec.agree.readOutMode_eq hmember).trans hmode⟩
  by_contra hrefused
  obtain ⟨status, -, heq⟩ := hspec.refused (by simpa using hrefused)
  cases heq

/-- The members an `image` command writes, option by option up to the refusal; the
save directory is set behind the loop. -/
def imageWritten : Tokens → Checked (List Field)
  | .done => .ok [.saveDir]
  | .overrun => .error .outOfBounds
  | .token word rest =>
      match ImageOption.ofWord word with
      | none => imageWritten rest
      | some option =>
          match rest with
          | .done => .ok []
          | .overrun => .error .outOfBounds
          | .token value rest =>
              if option.refuses value then .ok (option.written value)
              else (imageWritten rest).map fun later => option.written value ++ later

theorem agreeOff_finishImage (params : AndorParameters) :
    AgreeOff [.saveDir] params (finishImage params).params := by
  intro field hfield
  rw [params_finishImage]
  cases field <;> first | rfl | simp at hfield

/-- The loop ends in a reply and writes the announced members only. -/
theorem resolveOptions_agreeOff {tokens : Tokens} {params : AndorParameters}
    {fields : List Field} (hmode : params.readOutMode = .image)
    (hwritten : imageWritten tokens = .ok fields) :
    ∃ reply, resolveOptions tokens params = .ok reply ∧
      AgreeOff fields params reply.params ∧ SaveDirFixed params reply.params := by
  induction tokens, params using resolveOptions.induct generalizing fields with
  | case1 params =>
      simp only [imageWritten, Except.ok.injEq] at hwritten
      subst fields
      refine ⟨_, rfl, agreeOff_finishImage params, Or.inr ?_⟩
      rw [params_finishImage]
  | case2 params => simp [imageWritten] at hwritten
  | case3 word rest params hoption ih =>
      simp only [imageWritten, hoption] at hwritten
      simp only [resolveOptions, hoption]
      exact ih hmode hwritten
  | case4 word params option hoption =>
      simp only [imageWritten, hoption, Except.ok.injEq] at hwritten
      subst fields
      simp only [resolveOptions, hoption]
      exact ⟨_, rfl, AgreeOff.refl _ _, Or.inl rfl⟩
  | case5 word params option hoption => simp [imageWritten, hoption] at hwritten
  | case6 word params option hoption value rest status after hstore =>
      have hspec := option.storesAs_store hmode value
      rw [hstore] at hspec
      obtain ⟨hrefuses, -⟩ := ImageOption.refused_of_store hmode hstore
      have hmember : .saveDir ∉ option.written value := fun hmem =>
        option.saveDir_not_mem_fields (option.written_subset_fields value hmem)
      simp only [imageWritten, hoption, hrefuses, ↓reduceIte, Except.ok.injEq] at hwritten
      subst fields
      simp only [resolveOptions, hoption, hstore]
      exact ⟨_, rfl, hspec.agree, Or.inl (hspec.agree.saveDir_eq hmember)⟩
  | case7 word params option hoption value rest after hstore ih =>
      have hspec := option.storesAs_store hmode value
      rw [hstore] at hspec
      obtain ⟨hrefuses, hstill⟩ := ImageOption.kept_of_store hmode hstore
      simp only [imageWritten, hoption, hrefuses, Bool.false_eq_true, ↓reduceIte] at hwritten
      obtain ⟨later, hlater, rfl⟩ := checked_map_eq_ok.mp hwritten
      have hdir : after.saveDir = params.saveDir :=
        hspec.agree.saveDir_eq fun hmem => option.saveDir_not_mem_fields
          (option.written_subset_fields value hmem)
      obtain ⟨reply, hreply, hagree, hfixed⟩ := ih hstill hlater
      simp only [resolveOptions, hoption, hstore]
      refine ⟨reply, hreply, ?_, ?_⟩
      · exact (hspec.agree.mono (List.subset_append_left _ _)).trans
          (hagree.mono (List.subset_append_right _ _))
      · exact hfixed.imp_left fun heq => heq.trans hdir

namespace SetOption

/-- The words on which the handler returns. -/
def refuses (option : SetOption) (sdk : SetParamAnswers) (token : Text) : Bool :=
  match option with
  | acqmode => (strtol (acqmode.value token)).rest = token
  | kineticcycletime => (strtod (kineticcycletime.value token)).rest = token
  | observername => false
  | hsspeed =>
      let parsed := strtod (hsspeed.value token)
      let ival := parsed.value.toInt32
      decide (parsed.rest = token ∨ sdk.getNumberHSSpeeds ≠ .success ∨
        (ival < 0 ∨ sdk.numSpeeds ≤ ival) ∨ sdk.getHSSpeed ≠ .success)
  | preampgain =>
      let parsed := strtod (preampgain.value token)
      let ival := parsed.value.toInt32
      decide ((parsed.rest = token ∨ (ival < 0 ∨ 3 ≤ ival)) ∨ sdk.getPreAmpGain ≠ .success)

/-- A refused word writes nothing. -/
def written (option : SetOption) (sdk : SetParamAnswers) (token : Text) : List Field :=
  if option.refuses sdk token then [] else option.fields

/-- The copied value has room in its member. -/
def Fits (option : SetOption) (token : Text) : Prop :=
  option = observername → (option.value token).length < maxObserverName

instance (option : SetOption) (token : Text) : Decidable (option.Fits token) :=
  inferInstanceAs (Decidable (_ → _))

theorem readOutMode_not_mem_fields (option : SetOption) : .readOutMode ∉ option.fields := by
  cases option <;> simp [fields]

theorem written_subset_fields (option : SetOption) (sdk : SetParamAnswers) (token : Text) :
    option.written sdk token ⊆ option.fields := by
  unfold written
  split
  · exact List.nil_subset _
  · exact List.Subset.refl _

end SetOption

theorem storesAs_refused {status : Int} (hstatus : status ≠ 0) (params : AndorParameters) :
    StoresAs (.refused status params) true [] params :=
  ⟨AgreeOff.refl _ _, fun _ => ⟨status, hstatus, rfl⟩, by simp⟩

theorem storesAs_kept {fields : List Field} {params after : AndorParameters}
    (hstore : AgreeOff fields params after) : StoresAs (.kept after) false fields params :=
  ⟨hstore, by simp, fun _ => rfl⟩

/-- A word that has room is stored, refused and announced alike. -/
theorem SetOption.storesAs_store (option : SetOption) (sdk : SetParamAnswers)
    (params : AndorParameters) {token : Text} (hfits : option.Fits token) :
    ∃ result, option.store sdk params token = .ok result ∧
      StoresAs result (option.refuses sdk token) (option.written sdk token) params := by
  cases option with
  | acqmode =>
      refine ⟨_, rfl, ?_⟩
      unfold setAcqmode written refuses
      by_cases hrest : (strtol (acqmode.value token)).rest = token
      · simp only [hrest, ↓reduceIte, decide_true]
        exact storesAs_refused (by decide) params
      · simp only [hrest, ↓reduceIte, decide_false, Bool.false_eq_true]
        refine storesAs_kept fun field hfield => ?_
        cases field <;> first | rfl | simp [fields] at hfield
  | kineticcycletime =>
      refine ⟨_, rfl, ?_⟩
      unfold setKineticcycletime written refuses
      by_cases hrest : (strtod (kineticcycletime.value token)).rest = token
      · simp only [hrest, ↓reduceIte, decide_true]
        exact storesAs_refused (by decide) params
      · simp only [hrest, ↓reduceIte, decide_false, Bool.false_eq_true]
        refine storesAs_kept fun field hfield => ?_
        cases field <;> first | rfl | simp [fields] at hfield
  | observername =>
      have hroom : (observername.value token).length < maxObserverName := hfits rfl
      simp only [store, setObservername, params.strcpyObserverName_eq_of_fits hroom]
      refine ⟨_, rfl, storesAs_kept fun field hfield => ?_⟩
      cases field <;> first | rfl | simp [written, refuses, fields] at hfield
  | hsspeed =>
      refine ⟨_, rfl, ?_⟩
      unfold setHsspeed written refuses
      by_cases hrest : (strtod (hsspeed.value token)).rest = token
      · simp only [hrest, ↓reduceIte, true_or, decide_true]
        exact storesAs_refused (by decide) params
      · by_cases hcount : sdk.getNumberHSSpeeds ≠ .success
        · simp only [hrest, hcount, ne_eq, not_false_eq_true, ↓reduceIte, true_or, or_true,
            decide_true]
          exact storesAs_refused (by decide) params
        · by_cases hindex : ((strtod (hsspeed.value token)).value.toInt32 < 0 ∨
              sdk.numSpeeds ≤ (strtod (hsspeed.value token)).value.toInt32) ∨
              sdk.getHSSpeed ≠ .success
          · simp only [hrest, hcount, hindex, ↓reduceIte, or_true, decide_true]
            exact storesAs_refused (by decide) params
          · simp only [hrest, hcount, hindex, ↓reduceIte, or_self, decide_false,
              Bool.false_eq_true]
            refine storesAs_kept fun field hfield => ?_
            cases field <;> first | rfl | simp [fields] at hfield
  | preampgain =>
      refine ⟨_, rfl, ?_⟩
      unfold setPreampgain written refuses
      by_cases hindex : (strtod (preampgain.value token)).rest = token ∨
          ((strtod (preampgain.value token)).value.toInt32 < 0 ∨
            3 ≤ (strtod (preampgain.value token)).value.toInt32)
      · simp only [hindex, ↓reduceIte, true_or, decide_true]
        exact storesAs_refused (by decide) params
      · by_cases hgain : sdk.getPreAmpGain ≠ .success
        · simp only [hindex, hgain, ne_eq, not_false_eq_true, ↓reduceIte, or_true,
            decide_true]
          exact storesAs_refused (by decide) params
        · simp only [hindex, hgain, ↓reduceIte, or_self, decide_false, Bool.false_eq_true]
          refine storesAs_kept fun field hfield => ?_
          cases field <;> first | rfl | simp [fields] at hfield

/-- The members a `setparam` command writes, word by word up to the refusal, as long
as every copied value has room. -/
def setWritten (sdk : Nat → SetParamAnswers) : Nat → Tokens → Checked (List Field)
  | _, .done => .ok []
  | _, .overrun => .error .outOfBounds
  | index, .token word rest =>
      match SetOption.ofWord word with
      | none => setWritten sdk (index + 1) rest
      | some option =>
          if ¬ option.Fits word then .error .outOfBounds
          else if option.refuses (sdk index) word then .ok (option.written (sdk index) word)
          else (setWritten sdk (index + 1) rest).map fun later =>
            option.written (sdk index) word ++ later

theorem setOptions_agreeOff {sdk : Nat → SetParamAnswers} {index : Nat} {tokens : Tokens}
    (params : AndorParameters) {fields : List Field}
    (hwritten : setWritten sdk index tokens = .ok fields) :
    ∃ reply, setOptions sdk index tokens params = .ok reply ∧
      AgreeOff fields params reply.params := by
  induction tokens generalizing index params fields with
  | done => exact ⟨_, rfl, AgreeOff.refl _ params⟩
  | overrun => simp [setWritten] at hwritten
  | token word rest ih =>
      cases hoption : SetOption.ofWord word with
      | none =>
          simp only [setWritten, hoption] at hwritten
          simp only [setOptions, hoption]
          exact ih params hwritten
      | some option =>
          simp only [setWritten, hoption] at hwritten
          by_cases hfits : option.Fits word
          · obtain ⟨result, hresult, hspec⟩ :=
              option.storesAs_store (sdk index) params hfits
            simp only [hfits, not_true_eq_false, ↓reduceIte] at hwritten
            simp only [setOptions, hoption, hresult]
            by_cases hrefuses : option.refuses (sdk index) word = true
            · obtain ⟨status, -, hrefused⟩ := hspec.refused hrefuses
              simp only [hrefuses, ↓reduceIte, Except.ok.injEq] at hwritten
              subst fields
              rw [hrefused]
              exact ⟨_, rfl, hspec.agree⟩
            · have hkept := hspec.kept (by simpa using hrefuses)
              simp only [hrefuses, Bool.false_eq_true, ↓reduceIte] at hwritten
              obtain ⟨later, hlater, rfl⟩ := checked_map_eq_ok.mp hwritten
              rw [hkept]
              obtain ⟨reply, hreply, hagree⟩ := ih result.params hlater
              exact ⟨reply, hreply, (hspec.agree.mono (List.subset_append_left _ _)).trans
                (hagree.mono (List.subset_append_right _ _))⟩
          · simp [hfits] at hwritten

end Andor2k
