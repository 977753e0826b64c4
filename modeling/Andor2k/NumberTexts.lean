/-
Decimal numbers on their way into the parameters: `strtol` reads a `long`, nobody looks
whether it is the number that was written, and the members are `int`s.
-/
import Andor2k.ImagePairs
import Andor2k.ResolveCommand

namespace Andor2k

open CText Ieee ConfinedUpdates

inductive Sign where
  | none | plus | minus
deriving DecidableEq, Repr

def Sign.text : Sign → Text
  | none => []
  | plus => ascii "+"
  | minus => ascii "-"

/-- A number as it is written, with any number of digits. -/
structure DecimalText where
  sign : Sign
  digits : Text
  ne_nil : digits ≠ []
  isDigit : ∀ byte ∈ digits, isDigit byte = true

namespace DecimalText

def text (number : DecimalText) : Text := number.sign.text ++ number.digits

/-- The number the text denotes. -/
def value (number : DecimalText) : Int :=
  match number.sign with
  | .minus => -digitsValue number.digits
  | _ => digitsValue number.digits

/-- What is left of the number in an `int`. -/
def narrowed (number : DecimalText) : Int32 := Int32.ofInt (clampLong number.value)

end DecimalText

/-- The number is one an `int` can hold. -/
def FitsInt (value : Int) : Prop := -2 ^ 31 ≤ value ∧ value < 2 ^ 31

instance decidableFitsInt (value : Int) : Decidable (FitsInt value) :=
  inferInstanceAs (Decidable (_ ∧ _))

theorem fitsInt_toInt (value : Int32) : FitsInt value.toInt := ⟨value.le_toInt, value.toInt_lt⟩

theorem narrowed_toInt_iff (number : DecimalText) :
    number.narrowed.toInt = number.value ↔ FitsInt number.value := by
  constructor
  · intro hsame
    rw [← hsame]
    exact fitsInt_toInt _
  · rintro ⟨hlow, hhigh⟩
    have hclamp : clampLong number.value = number.value := by
      unfold clampLong
      omega
    rw [DecimalText.narrowed, hclamp]
    exact Int32.toInt_ofInt_of_le hlow hhigh

theorem splitSign_text (number : DecimalText) (rest : Text) :
    (number.text ++ rest).dropWhile isSpace = number.text ++ rest ∧
      splitSign (number.text ++ rest) =
        (decide (number.sign = .minus), number.digits ++ rest) := by
  obtain ⟨sign, digits, hdigits, hdigit⟩ := number
  obtain ⟨first, tail, rfl⟩ := List.exists_cons_of_ne_nil hdigits
  obtain ⟨hspace, hminus, hplus⟩ := isSpace_eq_false_of_isDigit (hdigit first List.mem_cons_self)
  cases sign with
  | none =>
      refine ⟨?_, ?_⟩
      · exact List.dropWhile_cons_of_neg (by rw [hspace]; decide)
      · change splitSign (first :: (tail ++ rest)) = _
        rw [splitSign, if_neg hminus, if_neg hplus]
        rfl
  | plus => exact ⟨rfl, rfl⟩
  | minus => exact ⟨rfl, rfl⟩

section Read

variable (number : DecimalText) {spaces rest : Text}

theorem dropWhile_spaces (hspaces : ∀ byte ∈ spaces, isSpace byte = true) :
    (spaces ++ (number.text ++ rest)).dropWhile isSpace = number.text ++ rest := by
  rw [List.dropWhile_append_of_pos hspaces, (splitSign_text number rest).1]

theorem dropWhile_digits (hrest : ∀ byte, rest.head? = some byte → isDigit byte = false) :
    (number.digits ++ rest).dropWhile isDigit = rest := by
  rw [List.dropWhile_append_of_pos number.isDigit]
  cases rest with
  | nil => rfl
  | cons byte more => simp [hrest byte rfl]

/-- `strtol` on a number with anything but a digit behind it. -/
theorem strtol_number (hspaces : ∀ byte ∈ spaces, isSpace byte = true)
    (hrest : ∀ byte, rest.head? = some byte → isDigit byte = false) :
    strtol (spaces ++ (number.text ++ rest)) =
      ⟨clampLong number.value, rest, decide (clampLong number.value ≠ number.value)⟩ := by
  have htake : (number.digits ++ rest).takeWhile isDigit = number.digits := by
    rw [List.takeWhile_append_of_pos number.isDigit]
    cases rest with
    | nil => simp
    | cons byte more => simp [hrest byte rfl]
  have hvalue : (if number.sign = .minus then -(digitsValue number.digits : Int)
      else digitsValue number.digits) = number.value := by
    unfold DecimalText.value
    cases number.sign with
    | none => rfl
    | plus => rfl
    | minus => rfl
  simp only [strtol, dropWhile_spaces number hspaces, (splitSign_text number rest).2, htake,
    dropWhile_digits number hrest, number.ne_nil, if_false, decide_eq_true_eq, hvalue]

theorem strtolIn_number (hspaces : ∀ byte ∈ spaces, isSpace byte = true)
    (hrest : ∀ byte, rest.head? = some byte → isDigit byte = false) (hends : rest ≠ []) :
    strtolIn (spaces ++ (number.text ++ rest)) =
      .ok ⟨clampLong number.value, rest, decide (clampLong number.value ≠ number.value)⟩ := by
  have hstops : (splitSign ((spaces ++ (number.text ++ rest)).dropWhile isSpace)).2.dropWhile
      isDigit ≠ [] := by
    rw [dropWhile_spaces number hspaces, (splitSign_text number rest).2,
      dropWhile_digits number hrest]
    exact hends
  rw [strtolIn, if_neg hstops, strtol_number number hspaces hrest]

end Read

/-- The options the loop reads, each with its value. -/
def optionPairs : Tokens → List (ImageOption × Text)
  | .done => []
  | .overrun => []
  | .token word rest =>
      match ImageOption.ofWord word with
      | none => optionPairs rest
      | some option =>
          match rest with
          | .done => []
          | .overrun => []
          | .token value rest => (option, value) :: optionPairs rest

def commandPairs (command : CommandBuffer) : List (ImageOption × Text) :=
  match strtok blank command.bytes with
  | .token _ rest => optionPairs rest
  | _ => []

def pairUpdate (pair : ImageOption × Text) : ConfinedUpdate AndorParameters.fieldBytes :=
  pair.1.update pair.2

/-- An accepted command has refused no value, and is the sum of its pairs. -/
theorem resolveOptions_sum {tokens : Tokens} {params : AndorParameters} {reply : Reply}
    (hmode : params.readOutMode = .image) (hreply : resolveOptions tokens params = .ok reply)
    (hzero : reply.status = 0) :
    (∀ pair ∈ optionPairs tokens, pair.1.refuses pair.2 = false) ∧
      reply = finishImage (ConfinedUpdate.runAll ((optionPairs tokens).map pairUpdate) params) := by
  induction tokens, params using resolveOptions.induct with
  | case1 params => exact ⟨List.forall_mem_nil _, (Except.ok.inj hreply).symm⟩
  | case2 params => cases hreply
  | case3 word rest params hoption ih =>
      simp only [resolveOptions, hoption] at hreply
      simp only [optionPairs, hoption]
      exact ih hmode hreply
  | case4 word params option hoption =>
      simp only [resolveOptions, hoption, Except.ok.injEq] at hreply
      rw [← hreply] at hzero
      exact absurd hzero Int.one_ne_zero
  | case5 word params option hoption =>
      simp only [resolveOptions, hoption] at hreply
      cases hreply
  | case6 word params option hoption value rest status after hstore =>
      obtain ⟨-, hstatus⟩ := ImageOption.refused_of_store hmode hstore
      simp only [resolveOptions, hoption, hstore, Except.ok.injEq] at hreply
      rw [← hreply] at hzero
      exact absurd hzero hstatus
  | case7 word params option hoption value rest after hstore ih =>
      obtain ⟨hkeeps, hstill⟩ := ImageOption.kept_of_store hmode hstore
      have hafter : option.stored value params = after := by
        rw [ImageOption.stored, hstore]
        rfl
      simp only [resolveOptions, hoption, hstore] at hreply
      obtain ⟨hlater, hsum⟩ := ih hstill hreply
      simp only [optionPairs, hoption]
      refine ⟨List.forall_mem_cons.mpr ⟨hkeeps, hlater⟩, ?_⟩
      rw [hsum, ← hafter]
      rfl

theorem resolveImageParameters_sum {command : CommandBuffer} {params : AndorParameters}
    {reply : Reply} (hreply : resolveImageParameters command params = .ok reply)
    (hzero : reply.status = 0) :
    (∀ pair ∈ commandPairs command, pair.1.refuses pair.2 = false) ∧
      reply =
        finishImage (ConfinedUpdate.runAll ((commandPairs command).map pairUpdate) params) := by
  unfold resolveImageParameters at hreply
  split at hreply
  · rw [← Except.ok.inj hreply] at hzero
    exact absurd hzero Int.one_ne_zero
  · split at hreply
    · rw [← Except.ok.inj hreply] at hzero
      exact absurd (show (4 : Int) = 0 from hzero) (by decide)
    · rename_i hmode
      unfold commandPairs
      split at hreply
      · cases hreply
      · rename_i hwords
        rw [hwords]
        exact ⟨nofun, (Except.ok.inj hreply).symm⟩
      · rename_i first rest hwords
        rw [hwords]
        exact resolveOptions_sum (not_not.mp hmode) hreply hzero

/-- A test behind the loop fails with status 2. -/
theorem ite_two_eq_zero {test : Prop} [Decidable test] {status : Int} :
    (if test then 2 else status) = 0 ↔ ¬ test ∧ status = 0 := by
  split
  · rename_i htest
    exact iff_of_false (by decide) fun hboth => hboth.1 htest
  · rename_i htest
    exact (and_iff_right htest).symm

theorem finalStatus_eq_zero_iff (params : AndorParameters) :
    finalStatus params = 0 ↔
      ¬ params.exposure.isNegative ∧
      (1 < params.imageHend ∧ params.imageHend ≤ maxPixelsInDim) ∧
      (1 < params.imageVend ∧ params.imageVend ≤ maxPixelsInDim) ∧
      (1 ≤ params.imageHstart ∧ params.imageHstart < maxPixelsInDim) ∧
      (1 ≤ params.imageVstart ∧ params.imageVstart < maxPixelsInDim) ∧
      params.imageVbin ≠ 0 ∧ params.imageHbin ≠ 0 := by
  simp only [finalStatus, ite_two_eq_zero, not_or, Int32.not_le, Int32.not_lt, and_true, and_assoc,
    ne_eq]

theorem status_finishImage {params : AndorParameters} (hmode : params.readOutMode = .image) :
    (finishImage params).status = finalStatus params := by
  unfold finishImage
  dsimp only
  rw [if_neg (not_not.mpr hmode)]

namespace ImageOption

/-- The options whose value is read by `strtol`. -/
def isInteger : ImageOption → Bool
  | filename | type | object | filter | exposure => false
  | _ => true

/-- The members the number goes to. -/
def numberFields : ImageOption → List Field
  | nimages => [.numImages]
  | option => option.fields

/-- What the command asks of the number that has been stored. -/
def AcceptsNumber : ImageOption → Int32 → Prop
  | nimages, value => ¬ value < 1
  | bin, value => value ≠ 0
  | hbin, value => value ≠ 0
  | vbin, value => value ≠ 0
  | hstart, value => 1 ≤ value ∧ value < maxPixelsInDim
  | vstart, value => 1 ≤ value ∧ value < maxPixelsInDim
  | hend, value => 1 < value ∧ value ≤ maxPixelsInDim
  | vend, value => 1 < value ∧ value ≤ maxPixelsInDim
  | _, _ => True

/-- The number is stored in every member it goes to. -/
theorem stored_number {option : ImageOption} (hinteger : option.isInteger = true) (value : Text)
    (params : AndorParameters) {field : Field} (hfield : field ∈ option.numberFields) :
    (option.stored value params).fieldBytes field =
      Memory.Pod.encode (Int32.ofInt (strtol value).value) := by
  unfold stored
  cases option with
  | filename | type | object | filter | exposure => cases hinteger
  | nimages =>
      rw [store, params_storeNimages]
      rw [List.mem_singleton.mp hfield]
      rfl
  | vend =>
      rw [store, params_storeVend, List.mem_singleton.mp hfield]
      rfl
  | bin =>
      rw [store, params_storeInt]
      rcases List.mem_pair.mp hfield with rfl | rfl
      · rfl
      · rfl
  | hbin | vbin | hstart | hend | vstart | arTries =>
      rw [store, params_storeInt, List.mem_singleton.mp hfield]
      rfl

theorem numberFields_subset_fields (option : ImageOption) :
    option.numberFields ⊆ option.fields := by
  cases option <;> simp [numberFields, fields]

end ImageOption

theorem strtol_text (number : DecimalText) :
    strtol number.text =
      ⟨clampLong number.value, [], decide (clampLong number.value ≠ number.value)⟩ := by
  have hread := @strtol_number number [] [] nofun nofun
  rwa [List.nil_append, List.append_nil] at hread

theorem text_ne_nil (number : DecimalText) : number.text ≠ [] :=
  List.append_ne_nil_of_right_ne_nil _ number.ne_nil

/-- The member holds the number. -/
def HoldsNumber (params : AndorParameters) (field : Field) (value : Int) : Prop :=
  ∃ stored : Int32, stored.toInt = value ∧ params.fieldBytes field = Memory.Pod.encode stored

/-- Wherever the text is the value of the option in an accepted command, and no later option
writes the member again, the member holds the number. -/
def KeepsNumber (option : ImageOption) (number : DecimalText) : Prop :=
  ∀ command params reply before after, resolveImageParameters command params = .ok reply →
    reply.status = 0 → commandPairs command = before ++ (option, number.text) :: after →
    ∀ field ∈ option.numberFields, (∀ pair ∈ after, field ∉ pair.1.fields) →
      HoldsNumber reply.params field number.value

section Accepted

variable {command : CommandBuffer} {params : AndorParameters} {reply : Reply}
  {option : ImageOption} {number : DecimalText} {before after : List (ImageOption × Text)}
  {field : Field}

/-- What an accepted command leaves of a number. -/
theorem narrowed_in_reply (hreply : resolveImageParameters command params = .ok reply)
    (hzero : reply.status = 0)
    (hpairs : commandPairs command = before ++ (option, number.text) :: after)
    (hinteger : option.isInteger = true) (hfield : field ∈ option.numberFields)
    (hlast : ∀ pair ∈ after, field ∉ pair.1.fields) :
    reply.params.fieldBytes field = Memory.Pod.encode number.narrowed := by
  obtain ⟨-, hsum⟩ := resolveImageParameters_sum hreply hzero
  have hoption : field ∈ option.fields := option.numberFields_subset_fields hfield
  have hdir : field ∉ [Field.saveDir] := by
    rw [List.mem_singleton]
    rintro rfl
    exact option.saveDir_not_mem_fields hoption
  have hupdates : ∀ update ∈ after.map pairUpdate, field ∉ update.fields := by
    intro update hupdate
    obtain ⟨pair, hpair, rfl⟩ := List.mem_map.mp hupdate
    exact hlast pair hpair
  rw [hsum, agreeOff_finishImage _ field hdir, hpairs, List.map_append, List.map_cons,
    ConfinedUpdate.runAll_behind hupdates]
  change (option.stored number.text _).fieldBytes field = _
  rw [ImageOption.stored_number hinteger _ _ hfield, strtol_text]
  rfl

theorem finalStatus_of_accepted (hreply : resolveImageParameters command params = .ok reply)
    (hzero : reply.status = 0) : finalStatus reply.params = 0 := by
  obtain ⟨-, hsum⟩ := resolveImageParameters_sum hreply hzero
  have hparams := congrArg Reply.params hsum
  rw [params_finishImage] at hparams
  rw [hsum, finishImage] at hzero
  dsimp only at hzero
  split at hzero
  · exact absurd (show (4 : Int) = 0 from hzero) (by decide)
  · rw [hparams]
    exact hzero

/-- The number has passed the tests of the command. -/
theorem acceptsNumber_of_accepted (hreply : resolveImageParameters command params = .ok reply)
    (hzero : reply.status = 0)
    (hpairs : commandPairs command = before ++ (option, number.text) :: after)
    (hinteger : option.isInteger = true) (hfield : field ∈ option.numberFields)
    (hlast : ∀ pair ∈ after, field ∉ pair.1.fields) :
    option.AcceptsNumber number.narrowed := by
  have hbytes := narrowed_in_reply hreply hzero hpairs hinteger hfield hlast
  obtain ⟨-, hhend, hvend, hhstart, hvstart, hvbin, hhbin⟩ :=
    (finalStatus_eq_zero_iff reply.params).mp (finalStatus_of_accepted hreply hzero)
  have hmember : ∀ {stored : Int32}, reply.params.fieldBytes field = Memory.Pod.encode stored →
      stored = number.narrowed :=
    fun hstored => Memory.Pod.encode_injective (hstored.symm.trans hbytes)
  cases option with
  | filename | type | object | filter | exposure => cases hinteger
  | nimages =>
      have hkeeps := (resolveImageParameters_sum hreply hzero).1 (.nimages, number.text)
        (hpairs ▸ List.mem_append_right _ List.mem_cons_self)
      simp only [ImageOption.refuses, strtol_text, Bool.or_eq_false_iff,
        decide_eq_false_iff_not] at hkeeps
      exact hkeeps.2
  | bin =>
      rcases List.mem_pair.mp hfield with rfl | rfl
      · rw [← hmember rfl]
        exact hvbin
      · rw [← hmember rfl]
        exact hhbin
  | hbin =>
      obtain rfl := List.mem_singleton.mp hfield
      rw [← hmember rfl]
      exact hhbin
  | vbin =>
      obtain rfl := List.mem_singleton.mp hfield
      rw [← hmember rfl]
      exact hvbin
  | hstart =>
      obtain rfl := List.mem_singleton.mp hfield
      rw [← hmember rfl]
      exact hhstart
  | hend =>
      obtain rfl := List.mem_singleton.mp hfield
      rw [← hmember rfl]
      exact hhend
  | vstart =>
      obtain rfl := List.mem_singleton.mp hfield
      rw [← hmember rfl]
      exact hvstart
  | vend =>
      obtain rfl := List.mem_singleton.mp hfield
      rw [← hmember rfl]
      exact hvend
  | arTries => exact trivial

end Accepted

theorem isWord_flag (option : ImageOption) : IsWord option.flag := by
  cases option <;> decide

theorem isWord_text (number : DecimalText) : IsWord number.text := by
  refine ⟨text_ne_nil number, ?_⟩
  intro byte hbyte
  rcases List.mem_append.mp hbyte with hsign | hdigit
  · cases hs : number.sign <;> rw [hs] at hsign
    · cases hsign
    · rw [List.mem_singleton.mp hsign]
      decide
    · rw [List.mem_singleton.mp hsign]
      decide
  · have htrue := number.isDigit byte hdigit
    constructor
    · rintro rfl
      exact absurd htrue (by decide)
    · rintro rfl
      exact absurd htrue (by decide)

theorem ofWord_flag (option : ImageOption) : ImageOption.ofWord option.flag = some option := by
  cases option <;> decide

/-- The option and the number as a pair of words. -/
def numberPair (option : ImageOption) (number : DecimalText) : ImagePair :=
  ⟨option.flag, option, ofWord_flag option, number.text⟩

def numberCommandText (option : ImageOption) (number : DecimalText) : Text :=
  ascii "image" ++ spaced [(0, option.flag), (0, number.text)]

def numberCommand (option : ImageOption) (number : DecimalText)
    (hroom : (numberCommandText option number).length < maxSocketBufferSize) : CommandBuffer :=
  .ofText (numberCommandText option number) hroom

theorem lists_numberCommand (option : ImageOption) (number : DecimalText)
    (hroom : (numberCommandText option number).length < maxSocketBufferSize) :
    Lists (numberCommand option number hroom) [numberPair option number] := by
  obtain ⟨count, hcount⟩ := Nat.exists_eq_add_of_lt hroom
  have hzeros : maxSocketBufferSize - (numberCommandText option number).length = count + 1 := by
    omega
  apply @lists_spaced _ _ (ascii "image") [(0, option.flag), (0, number.text)] 0
    (List.replicate count 0) (by decide) (by decide)
  · exact List.forall_mem_cons.mpr ⟨isWord_flag option, List.forall_mem_singleton.mpr
      (isWord_text number)⟩
  · rfl
  · rw [numberCommand, CharArray.ofText]
    dsimp only
    rw [hzeros, numberCommandText, List.append_assoc]
    rfl

theorem keeps_number {option : ImageOption} {number : DecimalText}
    (hinteger : option.isInteger = true) (haccepts : option.AcceptsNumber number.narrowed) :
    option.refuses number.text = false := by
  have hread : (strtol number.text).rest ≠ number.text := by
    rw [strtol_text]
    exact (text_ne_nil number).symm
  cases option with
  | filename | type | object | filter | exposure => cases hinteger
  | nimages =>
      rw [ImageOption.refuses, decide_eq_false hread, strtol_text]
      exact decide_eq_false haccepts
  | bin | hbin | vbin | hstart | hend | vstart | vend | arTries => exact decide_eq_false hread

/-- A number that passes does not make the tests behind the loop fail. -/
theorem finalStatus_stored {option : ImageOption} {number : DecimalText}
    (hinteger : option.isInteger = true) (haccepts : option.AcceptsNumber number.narrowed)
    {params : AndorParameters} (hparams : finalStatus params = 0) :
    finalStatus (option.stored number.text params) = 0 := by
  rw [finalStatus_eq_zero_iff] at hparams ⊢
  obtain ⟨hexposure, hhend, hvend, hhstart, hvstart, hvbin, hhbin⟩ := hparams
  have hread : Int32.ofInt (strtol number.text).value = number.narrowed := by
    rw [strtol_text]
    rfl
  unfold ImageOption.stored
  cases option with
  | filename | type | object | filter | exposure => cases hinteger
  | nimages =>
      rw [ImageOption.store, params_storeNimages]
      exact ⟨hexposure, hhend, hvend, hhstart, hvstart, hvbin, hhbin⟩
  | vend =>
      rw [ImageOption.store, params_storeVend, hread]
      exact ⟨hexposure, hhend, haccepts, hhstart, hvstart, hvbin, hhbin⟩
  | bin =>
      rw [ImageOption.store, params_storeInt, hread]
      exact ⟨hexposure, hhend, hvend, hhstart, hvstart, haccepts, haccepts⟩
  | hbin =>
      rw [ImageOption.store, params_storeInt, hread]
      exact ⟨hexposure, hhend, hvend, hhstart, hvstart, hvbin, haccepts⟩
  | vbin =>
      rw [ImageOption.store, params_storeInt, hread]
      exact ⟨hexposure, hhend, hvend, hhstart, hvstart, haccepts, hhbin⟩
  | hstart =>
      rw [ImageOption.store, params_storeInt, hread]
      exact ⟨hexposure, hhend, hvend, haccepts, hvstart, hvbin, hhbin⟩
  | hend =>
      rw [ImageOption.store, params_storeInt, hread]
      exact ⟨hexposure, haccepts, hvend, hhstart, hvstart, hvbin, hhbin⟩
  | vstart =>
      rw [ImageOption.store, params_storeInt, hread]
      exact ⟨hexposure, hhend, hvend, hhstart, haccepts, hvbin, hhbin⟩
  | arTries =>
      rw [ImageOption.store, params_storeInt]
      exact ⟨hexposure, hhend, hvend, hhstart, hvstart, hvbin, hhbin⟩

theorem finalStatus_initial : finalStatus (AndorParameters.initial []) = 0 := by decide +kernel

theorem commandPairs_numberCommand (option : ImageOption) (number : DecimalText)
    (hroom : (numberCommandText option number).length < maxSocketBufferSize) :
    commandPairs (numberCommand option number hroom) = [(option, number.text)] := by
  obtain ⟨first, hwords⟩ := (lists_numberCommand option number hroom).words
  rw [commandPairs, hwords, tokensOf_pairWords_cons]
  simp only [optionPairs, (numberPair option number).recognised]
  rfl

theorem numberCommand_accepted {option : ImageOption} {number : DecimalText}
    (hroom : (numberCommandText option number).length < maxSocketBufferSize)
    (hinteger : option.isInteger = true) (haccepts : option.AcceptsNumber number.narrowed) :
    ∃ reply, resolveImageParameters (numberCommand option number hroom)
      (AndorParameters.initial []) = .ok reply ∧ reply.status = 0 := by
  have hmode := AndorParameters.readOutMode_initial []
  refine ⟨finishImage (option.stored number.text (AndorParameters.initial [])), ?_, ?_⟩
  · rw [resolveImageParameters_of_lists (lists_numberCommand option number hroom) hmode]
    exact resolveOptions_pairs_kept
      (List.forall_mem_singleton.mpr (keeps_number hinteger haccepts)) hmode
  · rw [status_finishImage (stored_readOutMode option number.text hmode)]
    exact finalStatus_stored hinteger haccepts finalStatus_initial

/-- A number no `int` can hold is not kept, unless the command is refused because of what is
left of it. -/
theorem not_keepsNumber {option : ImageOption} {number : DecimalText}
    (hroom : (numberCommandText option number).length < maxSocketBufferSize)
    (hinteger : option.isInteger = true) (haccepts : option.AcceptsNumber number.narrowed)
    (hwide : ¬ FitsInt number.value) : ¬ KeepsNumber option number := by
  intro hkeeps
  obtain ⟨reply, hreply, hzero⟩ := numberCommand_accepted hroom hinteger haccepts
  have hpairs := commandPairs_numberCommand option number hroom
  obtain ⟨field, hfield⟩ : ∃ field, field ∈ option.numberFields := by
    cases option <;> exact ⟨_, List.mem_cons_self⟩
  obtain ⟨stored, hvalue, hstored⟩ :=
    hkeeps _ _ reply [] [] hreply hzero hpairs field hfield nofun
  have hbytes := @narrowed_in_reply _ _ _ _ _ [] [] _ hreply hzero hpairs hinteger hfield nofun
  obtain rfl : stored = number.narrowed :=
    Memory.Pod.encode_injective (hstored.symm.trans hbytes)
  exact hwide ((narrowed_toInt_iff number).mp hvalue)

theorem keepsNumber_iff {option : ImageOption} {number : DecimalText}
    (hroom : (numberCommandText option number).length < maxSocketBufferSize)
    (hinteger : option.isInteger = true) :
    KeepsNumber option number ↔
      FitsInt number.value ∨ ¬ option.AcceptsNumber number.narrowed := by
  constructor
  · intro hkeeps
    by_contra hneither
    obtain ⟨hwide, haccepts⟩ := not_or.mp hneither
    exact not_keepsNumber hroom hinteger (not_not.mp haccepts) hwide hkeeps
  · rintro hcondition command params reply before after hreply hzero hpairs field hfield hlast
    have haccepts := acceptsNumber_of_accepted hreply hzero hpairs hinteger hfield hlast
    rcases hcondition with hfits | hrefused
    · exact ⟨_, (narrowed_toInt_iff number).mpr hfits,
        narrowed_in_reply hreply hzero hpairs hinteger hfield hlast⟩
    · exact absurd haccepts hrefused

/-- The number is the argument of a `settemp` command. -/
def ArgumentOf (command : CommandBuffer) (number : DecimalText) : Prop :=
  ∃ spaces stop behind, (∀ byte ∈ spaces, isSpace byte = true) ∧
    (stop = 0 ∨ isSpace stop = true) ∧
    command.bytes = ascii "settemp" ++ (spaces ++ (number.text ++ stop :: behind))

/-- What is handed to SetTemperature is the number that was written, and the camera can be
cooled to it. -/
def KeepsTemperature (number : DecimalText) : Prop :=
  ∀ drvNumber command answers procedure, ArgumentOf command number →
    setTemperature drvNumber command answers = .ok (some procedure) →
    ∀ temperature, .setTemperature temperature ∈ procedure.events →
      temperature.toInt = number.value ∧ andorMinTemp ≤ number.value ∧
        number.value ≤ andorMaxTemp

/-- What is left of the number is a temperature the camera can be cooled to, and `strtol` has
not reported an overflow. -/
def AcceptsArgument (number : DecimalText) : Prop :=
  clampLong number.value = number.value ∧ andorMinTemp ≤ number.narrowed.toInt ∧
    number.narrowed.toInt ≤ andorMaxTemp

instance decidableAcceptsArgument (number : DecimalText) : Decidable (AcceptsArgument number) :=
  inferInstanceAs (Decidable (_ ∧ _ ∧ _))

theorem isDigit_of_stop {stop : UInt8} (hstop : stop = 0 ∨ isSpace stop = true) :
    isDigit stop = false := by
  rcases hstop with rfl | hspace
  · rfl
  · cases hdigit : isDigit stop with
    | false => rfl
    | true => exact absurd (isSpace_eq_false_of_isDigit hdigit).1 (by rw [hspace]; decide)

section Argument

variable {drvNumber : DrvCode → Nat} {command : CommandBuffer} {answers : CoolingAnswers}
  {number : DecimalText}

theorem setTemperature_argument (hargument : ArgumentOf command number) :
    setTemperature drvNumber command answers =
      if AcceptsArgument number then
        .ok (coolToTemperature drvNumber true number.narrowed answers)
      else command.text.map fun _ => some invalidCommand := by
  obtain ⟨spaces, stop, behind, hspaces, hstop, hbytes⟩ := hargument
  have hstarts : startsWith command.bytes (ascii "settemp") = true := by
    rw [startsWith_iff, hbytes]
    exact List.prefix_append _ _
  have hdrop : command.bytes.drop 7 = spaces ++ (number.text ++ stop :: behind) := by
    rw [hbytes]
    rfl
  have hbehind : ∀ byte, (stop :: behind).head? = some byte → isDigit byte = false := by
    intro byte hbyte
    rw [← Option.some.inj hbyte]
    exact isDigit_of_stop hstop
  have hread := strtolIn_number number hspaces hbehind (List.cons_ne_nil stop behind)
  have hrest : stop :: behind ≠ spaces ++ (number.text ++ stop :: behind) := by
    intro hsame
    have hlength := congrArg List.length hsame
    have hdigits := List.length_pos_iff.mpr (text_ne_nil number)
    simp only [List.length_append] at hlength
    omega
  rw [setTemperature]
  simp only [hstarts, hdrop, hread, not_true_eq_false, if_false]
  change (if stop :: behind = spaces ++ (number.text ++ stop :: behind) ∨
      decide (clampLong number.value ≠ number.value) = true then
      command.text.map fun _ => some invalidCommand
    else if number.narrowed.toInt < andorMinTemp ∨ andorMaxTemp < number.narrowed.toInt then
      command.text.map fun _ => some invalidCommand
    else .ok (coolToTemperature drvNumber true number.narrowed answers)) = _
  have hfailed : (stop :: behind = spaces ++ (number.text ++ stop :: behind) ∨
      decide (clampLong number.value ≠ number.value) = true) ↔
      clampLong number.value ≠ number.value := by
    rw [or_iff_right hrest, decide_eq_true_eq]
  by_cases hclamp : clampLong number.value = number.value
  · rw [if_neg (hfailed.not.mpr (not_not.mpr hclamp))]
    by_cases hrange : number.narrowed.toInt < andorMinTemp ∨ andorMaxTemp < number.narrowed.toInt
    · rw [if_pos hrange, if_neg]
      rintro ⟨-, hlow, hhigh⟩
      exact hrange.elim (Int.not_lt.mpr hlow) (Int.not_lt.mpr hhigh)
    · obtain ⟨hlow, hhigh⟩ := not_or.mp hrange
      rw [if_neg hrange, if_pos ⟨hclamp, Int.not_lt.mp hlow, Int.not_lt.mp hhigh⟩]
  · rw [if_pos (hfailed.mpr hclamp), if_neg fun haccepts => hclamp haccepts.1]

/-- The temperature that is handed on is what is left of the number. -/
theorem temperature_of_event (hargument : ArgumentOf command number) {procedure : Procedure}
    (hset : setTemperature drvNumber command answers = .ok (some procedure))
    {temperature : Int32} (hevent : .setTemperature temperature ∈ procedure.events) :
    AcceptsArgument number ∧ temperature = number.narrowed := by
  rw [setTemperature_argument hargument] at hset
  by_cases haccepts : AcceptsArgument number
  · rw [if_pos haccepts] at hset
    refine ⟨haccepts, ?_⟩
    have hholds : HoldsWhileCooling number.narrowed fun event =>
        ∀ other, event = .setTemperature other → other = number.narrowed := by
      refine ⟨nofun, nofun, nofun, ?_, nofun⟩
      rintro other hother
      exact (DaemonEvent.setTemperature.inj hother).symm
    exact forall_events_coolToTemperature hholds (Except.ok.inj hset) _ hevent temperature rfl
  · rw [if_neg haccepts] at hset
    obtain ⟨text, -, hinvalid⟩ := checked_map_eq_ok.mp hset
    rw [← Option.some.inj hinvalid] at hevent
    cases List.mem_singleton.mp hevent

end Argument

/-- The shortest command with the number as its argument. -/
def tempCommandText (number : DecimalText) : Text := ascii "settemp " ++ number.text

theorem argumentOf_tempCommand {number : DecimalText}
    (hroom : (tempCommandText number).length < maxSocketBufferSize) :
    ArgumentOf (.ofText (tempCommandText number) hroom) number := by
  obtain ⟨count, hcount⟩ := Nat.exists_eq_add_of_lt hroom
  have hzeros : maxSocketBufferSize - (tempCommandText number).length = count + 1 := by omega
  refine ⟨[blank], 0, List.replicate count 0, List.all_eq_true.mp rfl, Or.inl rfl, ?_⟩
  rw [CharArray.ofText]
  dsimp only
  rw [hzeros, tempCommandText, List.append_assoc]
  rfl

/-- A camera that takes no target has still been asked. -/
theorem coolToTemperature_asks (drvNumber : DrvCode → Nat) (tempC : Int32) :
    ∃ procedure, coolToTemperature drvNumber true tempC ⟨0, .errorAck, .success, []⟩ =
      some procedure ∧ .setTemperature tempC ∈ procedure.events :=
  ⟨_, rfl, List.mem_append_left _ (List.mem_append_right _ List.mem_cons_self)⟩

/-- A number no `int` can hold is not what the camera is asked for. -/
theorem not_keepsTemperature {number : DecimalText}
    (hroom : (tempCommandText number).length < maxSocketBufferSize)
    (haccepts : AcceptsArgument number) (hwide : ¬ FitsInt number.value) :
    ¬ KeepsTemperature number := by
  intro hkeeps
  have hargument := argumentOf_tempCommand hroom
  obtain ⟨procedure, hcool, hevent⟩ := coolToTemperature_asks (fun _ => 20002) number.narrowed
  have hset : setTemperature (fun _ => 20002) (.ofText (tempCommandText number) hroom)
      ⟨0, .errorAck, .success, []⟩ = .ok (some procedure) := by
    rw [setTemperature_argument hargument, if_pos haccepts, hcool]
  obtain ⟨hsame, -⟩ := hkeeps _ _ _ _ hargument hset number.narrowed hevent
  exact hwide ((narrowed_toInt_iff number).mp hsame)

theorem keepsTemperature_iff {number : DecimalText}
    (hroom : (tempCommandText number).length < maxSocketBufferSize) :
    KeepsTemperature number ↔ FitsInt number.value ∨ ¬ AcceptsArgument number := by
  constructor
  · intro hkeeps
    by_contra hneither
    obtain ⟨hwide, haccepts⟩ := not_or.mp hneither
    exact not_keepsTemperature hroom (not_not.mp haccepts) hwide hkeeps
  · intro hcondition drvNumber command answers procedure hargument hset temperature hevent
    obtain ⟨haccepts, rfl⟩ := temperature_of_event hargument hset hevent
    rcases hcondition with hfits | hrefused
    · have hsame := (narrowed_toInt_iff number).mpr hfits
      rw [← hsame]
      exact ⟨rfl, haccepts.2⟩
    · exact absurd haccepts hrefused

/-- Every number is kept that an `int` can hold, and of the others exactly those are not whose
rest passes the tests of the command. -/
theorem numbers_kept_iff (number : DecimalText) :
    (∀ option : ImageOption, option.isInteger = true →
      (numberCommandText option number).length < maxSocketBufferSize →
      (KeepsNumber option number ↔
        FitsInt number.value ∨ ¬ option.AcceptsNumber number.narrowed)) ∧
    ((tempCommandText number).length < maxSocketBufferSize →
      (KeepsTemperature number ↔ FitsInt number.value ∨ ¬ AcceptsArgument number)) :=
  ⟨fun _ hinteger hroom => keepsNumber_iff hroom hinteger, keepsTemperature_iff⟩

/-- 2^32 + 1 -/
def wideNumber : DecimalText :=
  ⟨.none, ascii "4294967297", by decide, List.all_eq_true.mp rfl⟩

/-- image --bin 4294967297 sets the binning to 1, and settemp 4294967297 asks for one degree. -/
theorem wideNumber_not_kept :
    ¬ KeepsNumber .bin wideNumber ∧ ¬ KeepsTemperature wideNumber := by
  constructor
  · exact not_keepsNumber (by decide) rfl (show wideNumber.narrowed ≠ 0 by decide) (by decide)
  · exact not_keepsTemperature (by decide) (by decide) (by decide)

/-- The 2 of `image --bin 2` -/
def smallNumber : DecimalText := ⟨.none, ascii "2", by decide, List.all_eq_true.mp rfl⟩

/-- The -50 of `settemp -50` -/
def coldNumber : DecimalText := ⟨.minus, ascii "50", by decide, List.all_eq_true.mp rfl⟩

theorem smallNumbers_kept : KeepsNumber .bin smallNumber ∧ KeepsTemperature coldNumber :=
  ⟨((numbers_kept_iff smallNumber).1 .bin rfl (by decide)).mpr
      (Or.inl ⟨by decide, by decide⟩),
    ((numbers_kept_iff coldNumber).2 (by decide)).mpr (Or.inl ⟨by decide, by decide⟩)⟩

end Andor2k
