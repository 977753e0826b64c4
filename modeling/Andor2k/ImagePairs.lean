/-
`image` commands as lists of options and values.  Each pair is an update confined to the
members of its option, so an accepted command is the sum of its pairs: in whatever order they
are listed, and whether it is sent once or twice.
-/
import Andor2k.ConfinedUpdates
import Andor2k.TypedWords

namespace Andor2k

open CText Ieee ConfinedUpdates

/-- The parameters behind the value of an option, be it kept or refused. -/
def ImageOption.stored (option : ImageOption) (value : Text) (params : AndorParameters) :
    AndorParameters :=
  (option.store params value).params

theorem params_checkReadOutMode (params : AndorParameters) :
    (checkReadOutMode params).params = params := by
  unfold checkReadOutMode
  split
  · rfl
  · rfl

theorem params_storeInt (store : AndorParameters → Int32 → AndorParameters)
    (params : AndorParameters) (token : Text) :
    (storeInt store params token).params = store params (Int32.ofInt (strtol token).value) := by
  unfold storeInt
  dsimp only
  split
  · rfl
  · rfl

theorem params_storeText {size : Nat} (store : AndorParameters → CharArray size → AndorParameters)
    (params : AndorParameters) (token : Text) :
    (storeText store params token).params =
      if hfits : token.length < size then store params (.ofText token hfits) else params := by
  unfold storeText
  split
  · exact params_checkReadOutMode _
  · rfl

theorem params_storeVend (params : AndorParameters) (token : Text) :
    (storeVend params token).params =
      { params with imageVend := Int32.ofInt (strtol token).value } := by
  rw [← params_storeInt fun params value => { params with imageVend := value }]
  unfold storeVend
  cases storeInt (fun params value => { params with imageVend := value }) params token with
  | kept after => exact params_checkReadOutMode after
  | refused status after => rfl

theorem params_storeExposure (params : AndorParameters) (token : Text) :
    (storeExposure params token).params =
      { params with exposure := (strtod token).value.toBinary32 } := by
  unfold storeExposure
  dsimp only
  split
  · rfl
  · rfl

/-- The acquisition mode behind `--nimages`. -/
def nimagesMode (count : Int32) (parsed : Bool) (mode : AcquisitionMode) : AcquisitionMode :=
  if ¬ parsed ∨ count < 1 then mode
  else if count = 1 then .singleScan
  else if count > 1 ∧ mode = .singleScan then .runTillAbort
  else mode

theorem params_storeNimages (params : AndorParameters) (token : Text) :
    (storeNimages params token).params =
      { params with
        numImages := Int32.ofInt (strtol token).value
        acquisitionMode := nimagesMode (Int32.ofInt (strtol token).value)
          (decide ((strtol token).rest ≠ token)) params.acquisitionMode } := by
  unfold storeNimages nimagesMode
  simp only [decide_eq_true_eq, ne_eq, not_not]
  split
  · rfl
  · split
    · rfl
    · split
      · rfl
      · rfl

theorem nimagesMode_twice (count : Int32) (parsed : Bool) (mode : AcquisitionMode) :
    nimagesMode count parsed (nimagesMode count parsed mode) = nimagesMode count parsed mode := by
  unfold nimagesMode
  by_cases hrefused : ¬ parsed ∨ count < 1
  · rw [if_pos hrefused, if_pos hrefused]
  · rw [if_neg hrefused, if_neg hrefused]
    by_cases hone : count = 1
    · rw [if_pos hone, if_pos hone]
    · rw [if_neg hone, if_neg hone]
      by_cases hsingle : count > 1 ∧ mode = .singleScan
      · rw [if_pos hsingle, if_neg fun htwice => absurd htwice.2 (by decide)]
      · rw [if_neg hsingle, if_neg hsingle]

namespace ImageOption

theorem stored_frame (option : ImageOption) (value : Text) (params : AndorParameters)
    (field : Field) (hfield : field ∉ option.fields) :
    (option.stored value params).fieldBytes field = params.fieldBytes field := by
  unfold stored
  cases option with
  | nimages =>
      rw [store, params_storeNimages]
      cases field <;> first | rfl | simp [fields] at hfield
  | vend =>
      rw [store, params_storeVend]
      cases field <;> first | rfl | simp [fields] at hfield
  | exposure =>
      rw [store, params_storeExposure]
      cases field <;> first | rfl | simp [fields] at hfield
  | filename | type | object | filter =>
      rw [store, params_storeText]
      split
      · cases field <;> first | rfl | simp [fields] at hfield
      · rfl
  | bin | hbin | vbin | hstart | hend | vstart | arTries =>
      rw [store, params_storeInt]
      cases field <;> first | rfl | simp [fields] at hfield

/-- What an option makes of its members depends on them alone. -/
theorem stored_reads (option : ImageOption) (value : Text) (params other : AndorParameters)
    (hsame : ∀ field ∈ option.fields, params.fieldBytes field = other.fieldBytes field) :
    ∀ field ∈ option.fields,
      (option.stored value params).fieldBytes field =
        (option.stored value other).fieldBytes field := by
  unfold stored
  cases option with
  | nimages =>
      have hmode : params.acquisitionMode = other.acquisitionMode :=
        Memory.Pod.encode_injective (hsame .acquisitionMode (by decide))
      simp only [store, params_storeNimages, hmode]
      intro field hfield
      rcases List.mem_pair.mp hfield with rfl | rfl
      · rfl
      · rfl
  | bin =>
      simp only [store, params_storeInt]
      intro field hfield
      rcases List.mem_pair.mp hfield with rfl | rfl
      · rfl
      · rfl
  | vend =>
      simp only [store, params_storeVend]
      intro field hfield
      rw [List.mem_singleton.mp hfield]
      rfl
  | exposure =>
      simp only [store, params_storeExposure]
      intro field hfield
      rw [List.mem_singleton.mp hfield]
      rfl
  | filename | type | object | filter =>
      simp only [store, params_storeText]
      split
      · intro field hfield
        rw [List.mem_singleton.mp hfield]
        rfl
      · exact hsame
  | hbin | vbin | hstart | hend | vstart | arTries =>
      simp only [store, params_storeInt]
      intro field hfield
      rw [List.mem_singleton.mp hfield]
      rfl

theorem stored_twice (option : ImageOption) (value : Text) (params : AndorParameters) :
    option.stored value (option.stored value params) = option.stored value params := by
  unfold stored
  cases option with
  | nimages => simp only [store, params_storeNimages, nimagesMode_twice]
  | vend => simp only [store, params_storeVend]
  | exposure => simp only [store, params_storeExposure]
  | filename | type | object | filter =>
      simp only [store, params_storeText]
      split
      · rfl
      · rfl
  | bin | hbin | vbin | hstart | hend | vstart | arTries => simp only [store, params_storeInt]

/-- An option and its value as an update of the parameters. -/
def update (option : ImageOption) (value : Text) :
    ConfinedUpdate AndorParameters.fieldBytes where
  run := option.stored value
  fields := {field | field ∈ option.fields}
  frame := option.stored_frame value
  reads := option.stored_reads value

end ImageOption

/-- What the end of the function does to the parameters. -/
def saveDirUpdate : ConfinedUpdate AndorParameters.fieldBytes where
  run params := { params with saveDir := AndorParameters.fixedSaveDir }
  fields := {.saveDir}
  frame params field hfield := by
    cases field <;> first | rfl | exact absurd rfl hfield
  reads params other _ field hfield := by
    obtain rfl : field = .saveDir := hfield
    rfl

/-- A word the parser takes for an option, and the word behind it. -/
structure ImagePair where
  word : Text
  option : ImageOption
  recognised : ImageOption.ofWord word = some option
  value : Text
deriving DecidableEq

namespace ImagePair

/-- The members a pair writes. -/
def written (pair : ImagePair) : List Field := pair.option.written pair.value

def update (pair : ImagePair) : ConfinedUpdate AndorParameters.fieldBytes :=
  pair.option.update pair.value

end ImagePair

/-- The pairs word by word. -/
def pairWords (pairs : List ImagePair) : List Text :=
  pairs.flatMap fun pair => [pair.word, pair.value]

theorem tokensOf_pairWords_cons (pair : ImagePair) (pairs : List ImagePair) :
    tokensOf (pairWords (pair :: pairs)) =
      .token pair.word (.token pair.value (tokensOf (pairWords pairs))) := rfl

/-- The command consists of its first word and the pairs. -/
structure Lists (command : CommandBuffer) (pairs : List ImagePair) : Prop where
  image : startsWith command.bytes (ascii "image") = true
  words : ∃ first, strtok blank command.bytes = .token first (tokensOf (pairWords pairs))

/-- Words as they may stand in a command, each with the number of blanks in front of it less
one. -/
def spaced (words : List (Nat × Text)) : Text :=
  words.flatMap fun entry => List.replicate (entry.1 + 1) blank ++ entry.2

/-- Not empty, and without a byte that ends a word. -/
def IsWord (word : Text) : Prop := word ≠ [] ∧ ∀ byte ∈ word, byte ≠ 0 ∧ byte ≠ blank

instance decidableIsWord (word : Text) : Decidable (IsWord word) :=
  @instDecidableAnd _ _ inferInstance (List.decidableBAll _ word)

theorem scanTokens_spaced {word : Text} (hword : IsWord word) {words : List (Nat × Text)}
    (hwords : ∀ entry ∈ words, IsWord entry.2) (trailing : Nat) (behind : List UInt8) :
    scanTokens blank word (spaced words ++ (List.replicate trailing blank ++ 0 :: behind)) =
      .token word (tokensOf (words.map Prod.snd)) := by
  induction words generalizing word with
  | nil =>
      cases trailing with
      | zero =>
          change scanTokens blank word (0 :: behind) = _
          rw [scanTokens, if_pos rfl, if_neg hword.1]
          rfl
      | succ trailing =>
          change scanTokens blank word (blank :: (List.replicate trailing blank ++ 0 :: behind)) = _
          rw [scanTokens, if_neg (by decide), if_pos rfl, if_neg hword.1,
            scanTokens_delimiters (by decide), scanTokens, if_pos rfl, if_pos rfl]
          rfl
  | cons entry words ih =>
      obtain ⟨hentry, hwords⟩ := List.forall_mem_cons.mp hwords
      have hspaced : spaced (entry :: words) ++ (List.replicate trailing blank ++ 0 :: behind) =
          blank :: (List.replicate entry.1 blank ++ (entry.2 ++
            (spaced words ++ (List.replicate trailing blank ++ 0 :: behind)))) := by
        simp only [spaced, List.flatMap_cons, List.replicate_succ, List.cons_append,
          List.append_assoc]
      rw [hspaced, scanTokens, if_neg (by decide), if_pos rfl, if_neg hword.1,
        scanTokens_delimiters (by decide), scanTokens_append hentry.2, List.nil_append,
        ih hentry hwords]
      rfl

/-- A command that is written down with blanks between its words, and maybe behind them. -/
theorem lists_spaced {command : CommandBuffer} {pairs : List ImagePair} {first : Text}
    {words : List (Nat × Text)} {trailing : Nat} {behind : List UInt8}
    (hfirst : IsWord first) (himage : startsWith first (ascii "image") = true)
    (hwords : ∀ entry ∈ words, IsWord entry.2) (hpairs : words.map Prod.snd = pairWords pairs)
    (hcommand : command.bytes =
      first ++ (spaced words ++ (List.replicate trailing blank ++ 0 :: behind))) :
    Lists command pairs := by
  refine ⟨?_, first, ?_⟩
  · rw [startsWith_iff] at himage ⊢
    rw [hcommand]
    exact himage.trans (List.prefix_append _ _)
  · rw [strtok, hcommand, scanTokens_append hfirst.2, List.nil_append,
      scanTokens_spaced hfirst hwords, hpairs]

theorem resolveImageParameters_of_lists {command : CommandBuffer} {pairs : List ImagePair}
    (hlists : Lists command pairs) {params : AndorParameters}
    (hmode : params.readOutMode = .image) :
    resolveImageParameters command params =
      resolveOptions (tokensOf (pairWords pairs)) params := by
  obtain ⟨first, hwords⟩ := hlists.words
  rw [resolveImageParameters, hlists.image, hwords]
  simp only [not_true_eq_false, if_false, hmode, ne_eq]

theorem stored_readOutMode (option : ImageOption) (value : Text) {params : AndorParameters}
    (hmode : params.readOutMode = .image) :
    (option.stored value params).readOutMode = .image := by
  have hbytes := option.stored_frame value params .readOutMode option.readOutMode_not_mem_fields
  exact (Memory.Pod.encode_injective hbytes).trans hmode

theorem status_of_storeInt {store : AndorParameters → Int32 → AndorParameters}
    {params after : AndorParameters} {token : Text} {status : Int}
    (hstore : storeInt store params token = .refused status after) : status = 1 := by
  unfold storeInt at hstore
  dsimp only at hstore
  split at hstore
  · cases hstore
    rfl
  · cases hstore

theorem status_of_storeText {size : Nat}
    {store : AndorParameters → CharArray size → AndorParameters}
    {params after : AndorParameters} {token : Text} {status : Int}
    (hmode : ∀ value, (store params value).readOutMode = .image)
    (hstore : storeText store params token = .refused status after) : status = 1 := by
  unfold storeText at hstore
  split at hstore
  · rw [checkReadOutMode_of_image (hmode _)] at hstore
    cases hstore
  · cases hstore
    rfl

theorem ImageOption.status_of_store {option : ImageOption} {params after : AndorParameters}
    {value : Text} {status : Int} (hmode : params.readOutMode = .image)
    (hstore : option.store params value = .refused status after) : status = 1 := by
  cases option with
  | nimages =>
      simp only [store, storeNimages] at hstore
      split at hstore
      · cases hstore
        rfl
      · split at hstore
        · cases hstore
        · split at hstore
          · cases hstore
          · cases hstore
  | exposure =>
      simp only [store, storeExposure] at hstore
      split at hstore
      · cases hstore
        rfl
      · cases hstore
  | vend =>
      rw [store, storeVend_eq_storeInt hmode] at hstore
      exact status_of_storeInt hstore
  | filename | type | object | filter =>
      simp only [store] at hstore
      exact status_of_storeText (fun _ => hmode) hstore
  | bin | hbin | vbin | hstart | hend | vstart | arTries =>
      simp only [store] at hstore
      exact status_of_storeInt hstore

/-- A value is refused with status 1, and only because of what it is. -/
theorem store_of_refuses {option : ImageOption} {value : Text}
    (hrefuses : option.refuses value = true) {params : AndorParameters}
    (hmode : params.readOutMode = .image) :
    option.store params value = .refused 1 (option.stored value params) := by
  obtain ⟨status, -, hstore⟩ := (option.storesAs_store hmode value).refused hrefuses
  have hone : status = 1 := ImageOption.status_of_store hmode hstore
  rw [hone] at hstore
  exact hstore

theorem store_of_keeps {option : ImageOption} {value : Text}
    (hkeeps : option.refuses value = false) {params : AndorParameters}
    (hmode : params.readOutMode = .image) :
    option.store params value = .kept (option.stored value params) :=
  (option.storesAs_store hmode value).kept hkeeps

theorem resolveOptions_pairs_kept {pairs : List ImagePair}
    (hkeeps : ∀ pair ∈ pairs, pair.option.refuses pair.value = false)
    {params : AndorParameters} (hmode : params.readOutMode = .image) :
    resolveOptions (tokensOf (pairWords pairs)) params =
      .ok (finishImage (ConfinedUpdate.runAll (pairs.map ImagePair.update) params)) := by
  induction pairs generalizing params with
  | nil => rfl
  | cons pair pairs ih =>
      obtain ⟨hfirst, hlater⟩ := List.forall_mem_cons.mp hkeeps
      rw [tokensOf_pairWords_cons, resolveOptions_value pair.recognised,
        store_of_keeps hfirst hmode]
      exact ih hlater (stored_readOutMode _ _ hmode)

theorem resolveOptions_pairs_refused {pairs : List ImagePair}
    (hrefused : ∃ pair ∈ pairs, pair.option.refuses pair.value = true)
    {params : AndorParameters} (hmode : params.readOutMode = .image) :
    ∃ after, resolveOptions (tokensOf (pairWords pairs)) params = .ok ⟨1, after⟩ := by
  induction pairs generalizing params with
  | nil => exact absurd hrefused (by simp)
  | cons pair pairs ih =>
      rw [tokensOf_pairWords_cons, resolveOptions_value pair.recognised]
      cases hfirst : pair.option.refuses pair.value with
      | true =>
          rw [store_of_refuses hfirst hmode]
          exact ⟨_, rfl⟩
      | false =>
          rw [store_of_keeps hfirst hmode]
          apply ih _ (stored_readOutMode _ _ hmode)
          obtain ⟨other, hother, hrefuses⟩ := hrefused
          rcases List.mem_cons.mp hother with rfl | hlater
          · exact absurd (hfirst.symm.trans hrefuses) (by decide)
          · exact ⟨other, hlater, hrefuses⟩

/-- The loop writes the members of the pairs only, wherever it stops. -/
theorem imageWritten_pairs (pairs : List ImagePair) :
    ∃ fields, imageWritten (tokensOf (pairWords pairs)) = .ok fields ∧
      fields ⊆ .saveDir :: pairs.flatMap ImagePair.written := by
  induction pairs with
  | nil => exact ⟨_, rfl, List.Subset.refl _⟩
  | cons pair pairs ih =>
      obtain ⟨fields, hfields, hsubset⟩ := ih
      rw [tokensOf_pairWords_cons]
      simp only [imageWritten, pair.recognised, hfields]
      split
      · refine ⟨_, rfl, ?_⟩
        intro field hfield
        exact List.mem_cons_of_mem _ (List.mem_append_left _ hfield)
      · refine ⟨_, rfl, ?_⟩
        intro field hfield
        rcases List.mem_append.mp hfield with hfirst | hlater
        · exact List.mem_cons_of_mem _ (List.mem_append_left _ hfirst)
        · rcases List.mem_cons.mp (hsubset hlater) with rfl | hpairs
          · exact List.mem_cons_self
          · exact List.mem_cons_of_mem _ (List.mem_append_right _ hpairs)

/-- No two pairs write a common member. -/
def WriteApart (pairs : List ImagePair) : Prop :=
  pairs.Pairwise fun pair other => pair.written.Disjoint other.written

theorem separate_updates {pairs : List ImagePair} (hapart : WriteApart pairs)
    (hkeeps : ∀ pair ∈ pairs, pair.option.refuses pair.value = false) :
    ConfinedUpdate.Separate (pairs.map ImagePair.update) := by
  have hwritten : ∀ pair ∈ pairs, pair.written = pair.option.fields := by
    intro pair hpair
    rw [ImagePair.written, ImageOption.written, hkeeps pair hpair]
    rfl
  apply List.pairwise_map.mpr
  apply hapart.imp_of_mem
  intro pair other hpair hother hdisjoint
  rw [hwritten pair hpair, hwritten other hother] at hdisjoint
  exact Set.disjoint_left.mpr fun field hfirst hsecond => hdisjoint hfirst hsecond

/-- The save directory is set behind the loop, and no option reads or writes it. -/
theorem commute_saveDirUpdate (pairs : List ImagePair) :
    Function.Commute saveDirUpdate.run (ConfinedUpdate.runAll (pairs.map ImagePair.update)) := by
  apply ConfinedUpdate.commute_runAll
  intro update hupdate
  obtain ⟨pair, -, rfl⟩ := List.mem_map.mp hupdate
  apply ConfinedUpdate.commute fun _ _ => AndorParameters.eq_of_fieldBytes_eq
  apply Set.disjoint_left.mpr
  rintro field rfl
  exact pair.option.saveDir_not_mem_fields

theorem readOutMode_runAll (pairs : List ImagePair) {params : AndorParameters}
    (hmode : params.readOutMode = .image) :
    (ConfinedUpdate.runAll (pairs.map ImagePair.update) params).readOutMode = .image := by
  have hbytes : (ConfinedUpdate.runAll (pairs.map ImagePair.update) params).fieldBytes
      .readOutMode = params.fieldBytes .readOutMode := by
    apply ConfinedUpdate.runAll_frame
    intro update hupdate
    obtain ⟨pair, -, rfl⟩ := List.mem_map.mp hupdate
    exact pair.option.readOutMode_not_mem_fields
  exact (Memory.Pod.encode_injective hbytes).trans hmode

/-- What the loop leaves behind it leaves behind again. -/
theorem resolveOptions_pairs_twice {pairs : List ImagePair} (hapart : WriteApart pairs)
    (hkeeps : ∀ pair ∈ pairs, pair.option.refuses pair.value = false)
    {params : AndorParameters} (hmode : params.readOutMode = .image) :
    let reply := finishImage (ConfinedUpdate.runAll (pairs.map ImagePair.update) params)
    resolveOptions (tokensOf (pairWords pairs)) reply.params = .ok reply := by
  intro reply
  let loop := ConfinedUpdate.runAll (pairs.map ImagePair.update)
  have htwice : loop (loop params) = loop params := by
    apply ConfinedUpdate.runAll_twice (fun _ _ => AndorParameters.eq_of_fieldBytes_eq)
      (separate_updates hapart hkeeps)
    intro update hupdate
    obtain ⟨pair, -, rfl⟩ := List.mem_map.mp hupdate
    exact pair.option.stored_twice pair.value
  have hagain : loop (saveDirUpdate.run (loop params)) = saveDirUpdate.run (loop params) :=
    (commute_saveDirUpdate pairs (loop params)).symm.trans (congrArg saveDirUpdate.run htwice)
  have hparams : reply.params = saveDirUpdate.run (loop params) := params_finishImage _
  have hstill : (saveDirUpdate.run (loop params)).readOutMode = .image :=
    readOutMode_runAll pairs hmode
  calc resolveOptions (tokensOf (pairWords pairs)) reply.params
      = .ok (finishImage (loop (saveDirUpdate.run (loop params)))) := by
        rw [hparams, resolveOptions_pairs_kept hkeeps hstill]
    _ = .ok (finishImage (saveDirUpdate.run (loop params))) := by rw [hagain]
    _ = .ok reply := rfl

theorem resolveImageParameters_agreeOff {command : CommandBuffer} {pairs : List ImagePair}
    (hlists : Lists command pairs) {params : AndorParameters} {reply : Reply}
    (hmode : params.readOutMode = .image)
    (hreply : resolveImageParameters command params = .ok reply) :
    AgreeOff (.saveDir :: pairs.flatMap ImagePair.written) params reply.params := by
  rw [resolveImageParameters_of_lists hlists hmode] at hreply
  obtain ⟨fields, hfields, hsubset⟩ := imageWritten_pairs pairs
  obtain ⟨same, hsame, hagree, -⟩ := resolveOptions_agreeOff hmode hfields
  obtain rfl : same = reply := Except.ok.inj (hsame.symm.trans hreply)
  exact hagree.mono hsubset

/-- Two commands that list the same pairs answer the same, whatever the order; accepted, they
leave the same parameters behind, and leave them so when they are sent again. -/
theorem resolveImageParameters_perm {first second : CommandBuffer}
    {pairs others : List ImagePair} (hfirst : Lists first pairs) (hsecond : Lists second others)
    (hperm : pairs.Perm others) (hapart : WriteApart pairs) {params : AndorParameters}
    (hmode : params.readOutMode = .image) :
    ∃ reply other, resolveImageParameters first params = .ok reply ∧
      resolveImageParameters second params = .ok other ∧ reply.status = other.status ∧
      (reply.status = 0 → reply.params = other.params ∧
        resolveImageParameters first reply.params = .ok reply) ∧
      AgreeOff (.saveDir :: pairs.flatMap ImagePair.written) params reply.params := by
  by_cases hrefused : ∃ pair ∈ pairs, pair.option.refuses pair.value = true
  · have hothers : ∃ pair ∈ others, pair.option.refuses pair.value = true := by
      obtain ⟨pair, hpair, hrefuses⟩ := hrefused
      exact ⟨pair, hperm.mem_iff.mp hpair, hrefuses⟩
    obtain ⟨after, hafter⟩ := resolveOptions_pairs_refused hrefused hmode
    obtain ⟨behind, hbehind⟩ := resolveOptions_pairs_refused hothers hmode
    rw [← resolveImageParameters_of_lists hfirst hmode] at hafter
    rw [← resolveImageParameters_of_lists hsecond hmode] at hbehind
    refine ⟨_, _, hafter, hbehind, rfl, ?_, resolveImageParameters_agreeOff hfirst hmode hafter⟩
    exact fun hzero => absurd hzero Int.one_ne_zero
  · have hkeeps : ∀ pair ∈ pairs, pair.option.refuses pair.value = false := by
      intro pair hpair
      exact Bool.eq_false_iff.mpr fun hrefuses => hrefused ⟨pair, hpair, hrefuses⟩
    have hothers : ∀ pair ∈ others, pair.option.refuses pair.value = false :=
      fun pair hpair => hkeeps pair (hperm.mem_iff.mpr hpair)
    have hloop : ConfinedUpdate.runAll (pairs.map ImagePair.update) params =
        ConfinedUpdate.runAll (others.map ImagePair.update) params :=
      ConfinedUpdate.runAll_perm (fun _ _ => AndorParameters.eq_of_fieldBytes_eq)
        (hperm.map _) (separate_updates hapart hkeeps) params
    have hreply := resolveOptions_pairs_kept hkeeps hmode
    have hother := resolveOptions_pairs_kept hothers hmode
    rw [← hloop] at hother
    rw [← resolveImageParameters_of_lists hfirst hmode] at hreply
    rw [← resolveImageParameters_of_lists hsecond hmode] at hother
    refine ⟨_, _, hreply, hother, rfl, ?_, resolveImageParameters_agreeOff hfirst hmode hreply⟩
    intro _
    have hstill : (finishImage (ConfinedUpdate.runAll (pairs.map ImagePair.update)
        params)).params.readOutMode = .image := by
      rw [params_finishImage]
      exact readOutMode_runAll pairs hmode
    refine ⟨rfl, ?_⟩
    rw [resolveImageParameters_of_lists hfirst hstill]
    exact resolveOptions_pairs_twice hapart hkeeps hmode

/-- The words `--bin 2` and `--object M31`. -/
def binPair : ImagePair := ⟨ascii "--bin", .bin, by decide, ascii "2"⟩

def objectPair : ImagePair := ⟨ascii "--object", .object, by decide, ascii "M31"⟩

def binFirst : CommandBuffer := .ofText (ascii "image --bin 2 --object M31") (by decide)

def objectFirst : CommandBuffer := .ofText (ascii "image --object  M31 --bin 2 ") (by decide)

theorem binFirst_objectFirst_agree :
    ∃ reply other, resolveImageParameters binFirst (AndorParameters.initial []) = .ok reply ∧
      resolveImageParameters objectFirst (AndorParameters.initial []) = .ok other ∧
      reply.status = other.status ∧
      (reply.status = 0 → reply.params = other.params ∧
        resolveImageParameters binFirst reply.params = .ok reply) ∧
      AgreeOff (.saveDir :: [binPair, objectPair].flatMap ImagePair.written)
        (AndorParameters.initial []) reply.params := by
  have hbin : Lists binFirst [binPair, objectPair] :=
    ⟨by decide +kernel, ascii "image", by decide +kernel⟩
  have hobject : Lists objectFirst [objectPair, binPair] :=
    ⟨by decide +kernel, ascii "image", by decide +kernel⟩
  have hapart : WriteApart [binPair, objectPair] := by
    have hbinning : binPair.written = [.imageVbin, .imageHbin] := by decide
    have hname : objectPair.written = [.objectName] := by decide
    apply List.pairwise_pair.mpr
    rw [hbinning, hname]
    exact List.disjoint_singleton.mpr (by decide)
  exact resolveImageParameters_perm hbin hobject (List.Perm.swap _ _ _) hapart
    (AndorParameters.readOutMode_initial [])

end Andor2k
