/-
The members no parser looks at: the save directory and the names of object and filter.
Whatever they hold, a command answers the same; it sets them anew or leaves them.
-/
import Andor2k.CommandHistory

namespace Andor2k

open CText Ieee

/-- Other contents for some of the members no parser looks at. -/
structure Unread where
  saveDir : Option (CharArray 128)
  objectName : Option (CharArray maxObjectNameChars)
  filterName : Option (CharArray maxFilterNameChars)
deriving DecidableEq

def AndorParameters.replace (params : AndorParameters) (unread : Unread) : AndorParameters :=
  { params with
    saveDir := unread.saveDir.getD params.saveDir
    objectName := unread.objectName.getD params.objectName
    filterName := unread.filterName.getD params.filterName }

def OptionResult.replace (unread : Unread) : OptionResult → OptionResult
  | .kept params => .kept (params.replace unread)
  | .refused status params => .refused status (params.replace unread)

def Reply.replace (unread : Unread) (reply : Reply) : Reply :=
  ⟨reply.status, reply.params.replace unread⟩

/-- An option that keeps a name leaves nothing of what the member held. -/
def Unread.afterOption (unread : Unread) (option : ImageOption) (value : Text) : Unread :=
  if option.refuses value then unread
  else
    match option with
    | .object => { unread with objectName := none }
    | .filter => { unread with filterName := none }
    | _ => unread

/-- The end of an `image` command sets the save directory. -/
def Unread.afterImage (unread : Unread) : Tokens → Unread
  | .done => { unread with saveDir := none }
  | .overrun => unread
  | .token word rest =>
      match ImageOption.ofWord word with
      | none => unread.afterImage rest
      | some option =>
          match rest with
          | .done => unread
          | .overrun => unread
          | .token value rest =>
              if option.refuses value then unread
              else (unread.afterOption option value).afterImage rest

def Unread.after (unread : Unread) (command : Command) (mode : ReadOutMode) : Unread :=
  match handlerOf command.buffer with
  | .getImage => if mode ≠ .image then unread else unread.afterImage command.words
  | _ => unread

theorem Unread.after_of_other {command : Command} (himage : handlerOf command.buffer ≠ .getImage)
    (unread : Unread) (mode : ReadOutMode) : unread.after command mode = unread := by
  unfold Unread.after
  split
  · rename_i hhandler
    exact absurd hhandler himage
  · rfl

theorem checkReadOutMode_replace (params : AndorParameters) (unread : Unread) :
    checkReadOutMode (params.replace unread) = (checkReadOutMode params).replace unread := by
  unfold checkReadOutMode
  rw [apply_ite (OptionResult.replace unread)]
  rfl

theorem storeInt_replace {store : AndorParameters → Int32 → AndorParameters}
    {params : AndorParameters} {unread : Unread}
    (hstore : ∀ value, store (params.replace unread) value = (store params value).replace unread)
    (token : Text) :
    storeInt store (params.replace unread) token =
      (storeInt store params token).replace unread := by
  unfold storeInt
  simp only [hstore]
  split
  · rfl
  · rfl

/-- A text option: the members it sets are no longer replaced. -/
theorem storeText_replace {size : Nat}
    {store : AndorParameters → CharArray size → AndorParameters} {params : AndorParameters}
    {unread later : Unread}
    (hstore : ∀ value, store (params.replace unread) value = (store params value).replace later)
    (token : Text) :
    storeText store (params.replace unread) token =
      (storeText store params token).replace (if size ≤ token.length then unread else later) := by
  unfold storeText
  by_cases hfits : token.length < size
  · have hshort : ¬ size ≤ token.length := by omega
    rw [dif_pos hfits, dif_pos hfits, hstore, checkReadOutMode_replace, if_neg hshort]
  · have hlong : size ≤ token.length := by omega
    rw [dif_neg hfits, dif_neg hfits, if_pos hlong]
    rfl

theorem storeNimages_replace (params : AndorParameters) (unread : Unread) (token : Text) :
    storeNimages (params.replace unread) token = (storeNimages params token).replace unread := by
  unfold storeNimages
  simp only [apply_ite (OptionResult.replace unread)]
  rfl

theorem storeExposure_replace (params : AndorParameters) (unread : Unread) (token : Text) :
    storeExposure (params.replace unread) token =
      (storeExposure params token).replace unread := by
  unfold storeExposure
  simp only [apply_ite (OptionResult.replace unread)]
  rfl

theorem storeVend_replace (params : AndorParameters) (unread : Unread) (token : Text) :
    storeVend (params.replace unread) token = (storeVend params token).replace unread := by
  unfold storeVend
  rw [storeInt_replace fun _ => rfl]
  cases storeInt (fun params value => { params with imageVend := value }) params token with
  | kept after => exact checkReadOutMode_replace after unread
  | refused status after => rfl

theorem ImageOption.store_replace (option : ImageOption) (params : AndorParameters)
    (unread : Unread) (value : Text) :
    option.store (params.replace unread) value =
      (option.store params value).replace (unread.afterOption option value) := by
  unfold Unread.afterOption
  cases option with
  | nimages =>
      rw [ite_self]
      exact storeNimages_replace params unread value
  | vend =>
      rw [ite_self]
      exact storeVend_replace params unread value
  | exposure =>
      rw [ite_self]
      exact storeExposure_replace params unread value
  | filename | type =>
      rw [ite_self]
      simp only [store]
      rw [storeText_replace (fun _ => rfl), ite_self]
  | object | filter =>
      simp only [store, refuses, decide_eq_true_eq]
      exact storeText_replace (fun _ => rfl) value
  | bin | hbin | vbin | hstart | hend | vstart | arTries =>
      rw [ite_self]
      simp only [store]
      exact storeInt_replace (fun _ => rfl) value

theorem finishImage_replace (params : AndorParameters) (unread : Unread) :
    finishImage (params.replace unread) =
      (finishImage params).replace { unread with saveDir := none } := by
  unfold finishImage
  rw [apply_ite (Reply.replace { unread with saveDir := none })]
  rfl

theorem resolveOptions_replace {params : AndorParameters} (hmode : params.readOutMode = .image)
    (unread : Unread) (tokens : Tokens) :
    resolveOptions tokens (params.replace unread) =
      (resolveOptions tokens params).map (Reply.replace (unread.afterImage tokens)) := by
  induction tokens, params using resolveOptions.induct generalizing unread with
  | case1 params =>
      simp only [resolveOptions, Unread.afterImage, finishImage_replace]
      rfl
  | case2 params => rfl
  | case3 word rest params hoption ih =>
      simp only [resolveOptions, Unread.afterImage, hoption]
      exact ih hmode unread
  | case4 word params option hoption =>
      simp only [resolveOptions, Unread.afterImage, hoption]
      rfl
  | case5 word params option hoption =>
      simp only [resolveOptions, hoption]
      rfl
  | case6 word params option hoption value rest status after hstore =>
      obtain ⟨hrefuses, -⟩ := ImageOption.refused_of_store hmode hstore
      simp only [resolveOptions, Unread.afterImage, Unread.afterOption, hoption,
        option.store_replace, hstore, hrefuses, if_true]
      rfl
  | case7 word params option hoption value rest after hstore ih =>
      obtain ⟨hrefuses, hstill⟩ := ImageOption.kept_of_store hmode hstore
      simp only [resolveOptions, Unread.afterImage, hoption, option.store_replace, hstore,
        OptionResult.replace, hrefuses, Bool.false_eq_true, if_false]
      exact ih hstill _

theorem toBytes_strcpy (params : AndorParameters) (written : List UInt8) :
    overlay params.toBytes params.bytesBeforeObserverName.length written =
      params.bytesBeforeObserverName ++
        (written ++ (params.fieldBytes .observerName ++
          params.bytesAfterObserverName).drop written.length) := by
  rw [overlay, AndorParameters.toBytes, List.take_left, List.append_assoc,
    List.drop_append, List.drop_of_length_le (Nat.le_add_right _ _),
    Nat.add_sub_cancel_left, List.nil_append]

/-- The copy starts behind the members that are not looked at. -/
theorem strcpyObserverName_replace (params : AndorParameters) (unread : Unread) (text : Text) :
    (params.replace unread).strcpyObserverName text =
      (params.strcpyObserverName text).map (AndorParameters.replace · unread) := by
  have hof : ∀ memory,
      AndorParameters.ofBytes ((params.replace unread).bytesBeforeObserverName ++ memory) =
      (AndorParameters.ofBytes (params.bytesBeforeObserverName ++ memory)).replace unread := by
    intro memory
    simp only [AndorParameters.replace, AndorParameters.bytesBeforeObserverName,
      AndorParameters.fieldBytes, AndorParameters.ofBytes, List.append_assoc,
      Memory.read_encode_append]
  have hlength : (params.replace unread).toBytes.length = params.toBytes.length := by
    simp only [AndorParameters.toBytes, List.length_append,
      AndorParameters.length_bytesBeforeObserverName,
      AndorParameters.length_bytesAfterObserverName]
    rfl
  have hoffset : (params.replace unread).bytesBeforeObserverName.length =
      params.bytesBeforeObserverName.length := by
    simp only [AndorParameters.length_bytesBeforeObserverName]
  have hbehind : (params.replace unread).fieldBytes .observerName ++
      (params.replace unread).bytesAfterObserverName =
      params.fieldBytes .observerName ++ params.bytesAfterObserverName := rfl
  have hoverlay : AndorParameters.ofBytes (overlay (params.replace unread).toBytes
      (params.replace unread).bytesBeforeObserverName.length (text ++ [0])) =
      (AndorParameters.ofBytes (overlay params.toBytes
        params.bytesBeforeObserverName.length (text ++ [0]))).replace unread := by
    rw [toBytes_strcpy, toBytes_strcpy, hbehind, hof]
  unfold AndorParameters.strcpyObserverName
  simp only [hoverlay]
  rw [hoffset, hlength]
  split
  · rfl
  · rfl

theorem SetOption.store_replace (option : SetOption) (sdk : SetParamAnswers)
    (params : AndorParameters) (unread : Unread) (token : Text) :
    option.store sdk (params.replace unread) token =
      (option.store sdk params token).map (OptionResult.replace unread) := by
  cases option with
  | acqmode =>
      simp only [store, setAcqmode, Except.map, apply_ite (OptionResult.replace unread)]
      rfl
  | kineticcycletime =>
      simp only [store, setKineticcycletime, Except.map, apply_ite (OptionResult.replace unread)]
      rfl
  | observername =>
      simp only [store, setObservername, strcpyObserverName_replace]
      cases params.strcpyObserverName (observername.value token) with
      | error fault => rfl
      | ok after => rfl
  | hsspeed =>
      simp only [store, setHsspeed, Except.map, apply_ite (OptionResult.replace unread)]
      rfl
  | preampgain =>
      simp only [store, setPreampgain, Except.map, apply_ite (OptionResult.replace unread)]
      rfl

theorem setOptions_replace (params : AndorParameters) (unread : Unread)
    (sdk : Nat → SetParamAnswers) (index : Nat) (tokens : Tokens) :
    setOptions sdk index tokens (params.replace unread) =
      (setOptions sdk index tokens params).map (Reply.replace unread) := by
  induction tokens generalizing index params with
  | done => rfl
  | overrun => rfl
  | token word rest ih =>
      cases hoption : SetOption.ofWord word with
      | none =>
          simp only [setOptions, hoption]
          exact ih params (index + 1)
      | some option =>
          simp only [setOptions, hoption, option.store_replace]
          cases option.store (sdk index) params word with
          | error fault => rfl
          | ok result =>
              cases result with
              | kept after => exact ih after (index + 1)
              | refused status after => rfl

/-- A command answers the same whatever the unread members hold. -/
theorem parserReply_replace (params : AndorParameters) (unread : Unread) (command : Command) :
    parserReply command (params.replace unread) =
      (parserReply command params).map fun computation =>
        computation.map (Reply.replace (unread.after command params.readOutMode)) := by
  by_cases himage : handlerOf command.buffer = .getImage
  · rw [parserReply_getImage _ himage, parserReply_getImage params himage, Unread.after, himage]
    by_cases hmode : params.readOutMode = .image
    · have hreplies := resolveOptions_replace hmode unread command.words
      simp only [AndorParameters.replace, hmode, ne_eq, not_true_eq_false, if_false,
        Option.map_some] at hreplies ⊢
      rw [hreplies]
    · simp only [AndorParameters.replace, hmode, ne_eq, not_false_eq_true, if_true,
        Option.map_some]
      rfl
  · by_cases hset : handlerOf command.buffer = .setParamValue
    · rw [parserReply_setParamValue _ hset, parserReply_setParamValue params hset,
        setOptions_replace, Unread.after, hset]
      rfl
    · rw [parserReply_other _ himage hset, parserReply_other params himage hset]
      rfl

theorem serve_replace (params : AndorParameters) (unread : Unread) (command : Command) :
    serve (params.replace unread) command =
      (serve params command).map
        (AndorParameters.replace · (unread.after command params.readOutMode)) := by
  unfold serve
  rw [parserReply_replace]
  cases hreply : parserReply command params with
  | none =>
      have hother : handlerOf command.buffer ≠ .getImage := by
        intro himage
        rw [parserReply_getImage params himage] at hreply
        cases hreply
      rw [Unread.after_of_other hother]
      rfl
  | some computation =>
      cases computation with
      | error fault => rfl
      | ok reply => rfl

theorem step_replace (params : AndorParameters) (unread : Unread) (command : Command) :
    step (params.replace unread) command =
      (step params command).map
        (AndorParameters.replace · (unread.after command params.readOutMode)) := by
  unfold step
  rw [serve_replace]
  cases serve params command with
  | error fault => rfl
  | ok next => rfl

end Andor2k
