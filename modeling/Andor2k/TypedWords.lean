/-
One line from the keyboard to the parser.  The client sends the line break with the line, the
parser splits at blanks only, and so the line break stays behind the last word.
-/
import Andor2k.LineBreaks
import Andor2k.WrittenFields

namespace Andor2k

open CText Ieee

/-- The buffer of the client after the user has typed a line: `getchar` stores the line break
as well. -/
def typeLine (line : Text) : Checked CommandBuffer :=
  if hfits : line.length + 1 ≤ maxSocketBufferSize then
    .ok ⟨line ++ [lineFeed] ++ List.replicate (maxSocketBufferSize - (line.length + 1)) 0, by
      simp only [List.length_append, List.length_singleton, List.length_replicate]
      omega⟩
  else .error .outOfBounds

/-- What `socket.send(buffer)` hands to the connection: the bytes before the first NUL. -/
def sendLine (line : Text) : Checked Text := do
  let buffer ← typeLine line
  cString buffer.bytes

theorem sendLine_eq {line : Text} (hline : 0 ∉ line) :
    sendLine line =
      if line.length + 1 < maxSocketBufferSize then .ok (line ++ [lineFeed])
      else .error .outOfBounds := by
  have hmessage : 0 ∉ line ++ [lineFeed] := by
    rw [List.mem_append, not_or]
    exact ⟨hline, by decide⟩
  unfold sendLine typeLine
  by_cases hroom : line.length + 1 < maxSocketBufferSize
  · obtain ⟨count, hcount⟩ := Nat.exists_eq_add_of_lt hroom
    have hzeros : maxSocketBufferSize - (line.length + 1) = count + 1 := by omega
    rw [dif_pos (Nat.le_of_lt hroom), if_pos hroom]
    change cString (line ++ [lineFeed] ++
      List.replicate (maxSocketBufferSize - (line.length + 1)) 0) = _
    rw [hzeros, List.replicate_succ]
    exact cString_append_nul hmessage _
  · rw [if_neg hroom]
    split
    · rename_i hfits
      have hfull : maxSocketBufferSize - (line.length + 1) = 0 := by omega
      change cString (line ++ [lineFeed] ++
        List.replicate (maxSocketBufferSize - (line.length + 1)) 0) = _
      rw [hfull, List.replicate_zero, List.append_nil, cString, if_neg hmessage]
    · rfl

/-- A word as the user types it. -/
structure Word where
  bytes : Text
  ne_nil : bytes ≠ []
  clean : ∀ byte ∈ bytes, byte ≠ 0 ∧ byte ≠ blank ∧ byte ≠ lineFeed
deriving DecidableEq

/-- The words on one line, with at least one blank between two of them; `gap` is how many more
there are, by the number of words still to come. -/
def typed (gap : Nat → Nat) : List Word → Text
  | [] => []
  | [word] => word.bytes
  | word :: next :: rest =>
      word.bytes ++ (List.replicate (gap rest.length + 1) blank ++ typed gap (next :: rest))

/-- The words as `strtok` hands them out one by one. -/
def tokensOf : List Text → Tokens
  | [] => .done
  | word :: rest => .token word (tokensOf rest)

/-- The words with the line break behind the last one. -/
def breakLast : List Text → List Text
  | [] => []
  | [word] => [word ++ [lineFeed]]
  | word :: next :: rest => word :: breakLast (next :: rest)

theorem nul_not_mem_typed (gap : Nat → Nat) (words : List Word) : 0 ∉ typed gap words := by
  induction words with
  | nil => exact List.not_mem_nil
  | cons word rest ih =>
      have hword : 0 ∉ word.bytes := fun hmem => (word.clean 0 hmem).1 rfl
      cases rest with
      | nil => exact hword
      | cons next later =>
          have hblanks : 0 ∉ List.replicate (gap later.length + 1) blank := by
            intro hmem
            exact absurd (List.eq_of_mem_replicate hmem) (by decide)
          rw [typed, List.mem_append, List.mem_append, not_or, not_or]
          exact ⟨hword, hblanks, ih⟩

theorem scanTokens_append {delimiter : UInt8} {word : Text}
    (hword : ∀ byte ∈ word, byte ≠ 0 ∧ byte ≠ delimiter) (current more : Text) :
    scanTokens delimiter current (word ++ more) =
      scanTokens delimiter (current ++ word) more := by
  induction word generalizing current with
  | nil => rw [List.nil_append, List.append_nil]
  | cons byte rest ih =>
      obtain ⟨hnul, hdelimiter⟩ := hword byte List.mem_cons_self
      have hrest := ih (fun other hother => hword other (List.mem_cons_of_mem byte hother))
        (current ++ [byte])
      rw [List.cons_append, scanTokens, if_neg hnul, if_neg hdelimiter, hrest,
        List.append_assoc, List.singleton_append]

theorem scanTokens_delimiters {delimiter : UInt8} (hdelimiter : delimiter ≠ 0) (count : Nat)
    (more : Text) :
    scanTokens delimiter [] (List.replicate count delimiter ++ more) =
      scanTokens delimiter [] more := by
  induction count with
  | zero => rfl
  | succ count ih =>
      rw [List.replicate_succ, List.cons_append, scanTokens, if_neg hdelimiter, if_pos rfl,
        if_pos rfl, ih]

theorem strtok_typed (gap : Nat → Nat) {words : List Word} (hwords : words ≠ []) (count : Nat) :
    strtok blank (typed gap words ++ [lineFeed] ++ List.replicate (count + 1) 0) =
      tokensOf (breakLast (words.map Word.bytes)) := by
  unfold strtok
  induction words with
  | nil => exact absurd rfl hwords
  | cons word rest ih =>
      have hword : ∀ byte ∈ word.bytes, byte ≠ 0 ∧ byte ≠ blank := fun byte hbyte =>
        ⟨(word.clean byte hbyte).1, (word.clean byte hbyte).2.1⟩
      cases rest with
      | nil =>
          have hbroken : ∀ byte ∈ word.bytes ++ [lineFeed], byte ≠ 0 ∧ byte ≠ blank := by
            intro byte hbyte
            rcases List.mem_append.mp hbyte with hinside | hlast
            · exact hword byte hinside
            · rw [List.mem_singleton.mp hlast]
              decide
          have hne : word.bytes ++ [lineFeed] ≠ [] := List.append_ne_nil_of_right_ne_nil _ (by simp)
          change scanTokens blank [] (word.bytes ++ [lineFeed] ++ List.replicate (count + 1) 0) = _
          rw [scanTokens_append hbroken, List.nil_append, List.replicate_succ, scanTokens,
            if_pos rfl, if_neg hne]
          rfl
      | cons next later =>
          have hlater := ih (List.cons_ne_nil next later)
          rw [typed, List.append_assoc, List.append_assoc, scanTokens_append hword,
            List.nil_append, List.replicate_succ, List.cons_append, List.cons_append,
            scanTokens, if_neg (by decide), if_pos rfl, if_neg word.ne_nil, List.append_assoc,
            scanTokens_delimiters (by decide), ← List.append_assoc, hlater]
          rfl

/-- `resolve_image_parameters` on a list of words. -/
def resolveWords (words : List Text) (params : AndorParameters) : Checked Reply :=
  match words with
  | [] => .ok ⟨1, params⟩
  | command :: options =>
      if ¬ startsWith command (ascii "image") then .ok ⟨1, params⟩
      else if params.readOutMode ≠ .image then .ok ⟨4, params⟩
      else resolveOptions (tokensOf options) params

/-- The client sends the line, the daemon receives it in one piece, and the parser does what
it does on exactly these words. -/
def SeesWords (line : Text) (words : List Text) (params : AndorParameters) : Prop :=
  ∃ command : Command, sendLine line = .ok command.message ∧
    resolveImageParameters command.buffer params = resolveWords words params

/-- The parser does not return before the options. -/
def ReadsOptions (words : List Text) (params : AndorParameters) : Prop :=
  startsWith (words.headD []) (ascii "image") ∧ params.readOutMode = .image

instance (words : List Text) (params : AndorParameters) : Decidable (ReadsOptions words params) :=
  inferInstanceAs (Decidable (_ ∧ _))

/-- The options whose value is kept as it was written. -/
def ImageOption.isText : ImageOption → Bool
  | filename | type | object | filter => true
  | _ => false

/-- The loop comes to a string option that accepts the last word as its value. -/
def acceptsLast : List Text → Bool
  | word :: value :: rest =>
      match ImageOption.ofWord word with
      | none => acceptsLast (value :: rest)
      | some option =>
          if rest = [] then option.isText && !option.refuses value
          else !option.refuses value && acceptsLast rest
  | _ => false

theorem lineFeed_not_mem_flag (option : ImageOption) : lineFeed ∉ option.flag := by
  cases option <;> decide

theorem ofWord_lineFeed (word : Text) :
    ImageOption.ofWord (word ++ [lineFeed]) = ImageOption.ofWord word := by
  unfold ImageOption.ofWord
  congr 1
  funext option
  exact startsWith_lineFeed (lineFeed_not_mem_flag option) word

theorem storeInt_lineFeed (store : AndorParameters → Int32 → AndorParameters)
    (params : AndorParameters) (token : Text) :
    storeInt store params (token ++ [lineFeed]) = storeInt store params token := by
  simp only [storeInt, strtol_lineFeed, List.append_left_inj]

/-- A number is read as if the line break were not there. -/
theorem store_lineFeed {option : ImageOption} (hnumber : option.isText = false)
    (params : AndorParameters) (token : Text) :
    option.store params (token ++ [lineFeed]) = option.store params token := by
  cases option with
  | filename | type | object | filter => cases hnumber
  | bin | hbin | vbin | hstart | hend | vstart | arTries =>
      simp only [ImageOption.store, storeInt_lineFeed]
  | nimages =>
      simp only [ImageOption.store, storeNimages, strtol_lineFeed, List.append_left_inj]
  | vend => simp only [ImageOption.store, storeVend, storeInt_lineFeed]
  | exposure =>
      simp only [ImageOption.store, storeExposure, strtod_lineFeed, List.append_left_inj]

/-- What the parser returns when nothing is left behind a value. -/
def OptionResult.reply : OptionResult → Reply
  | kept params => finishImage params
  | refused status params => ⟨status, params⟩

theorem status_finishImage_ne_one {params : AndorParameters}
    (hmode : params.readOutMode = .image) : (finishImage params).status ≠ 1 := by
  simp only [finishImage, finalStatus, hmode, ne_eq, not_true_eq_false, ↓reduceIte]
  split
  · decide
  · split
    · decide
    · split
      · decide
      · split
        · decide
        · decide

theorem ofText_lineFeed_ne {size : Nat} {token : Text}
    (hbroken : (token ++ [lineFeed]).length < size) (hfits : token.length < size) :
    CharArray.ofText (token ++ [lineFeed]) hbroken ≠ CharArray.ofText token hfits := by
  intro heq
  have hbytes := congrArg CharArray.bytes heq
  simp only [CharArray.ofText, List.append_assoc, List.append_right_inj] at hbytes
  have hmem : lineFeed ∈ List.replicate (size - token.length) (0 : UInt8) := by
    rw [← hbytes]
    exact List.mem_append_left _ (List.mem_singleton_self _)
  exact absurd (List.eq_of_mem_replicate hmem) (by decide)

/-- A string option that accepts a word refuses the word with the line break, or keeps the
line break. -/
theorem storeText_lineFeed_ne {size : Nat}
    {store : AndorParameters → CharArray size → AndorParameters}
    (member : AndorParameters → CharArray size) {params : AndorParameters} {token : Text}
    (hmember : ∀ value, member (finishImage (store params value)).params = value)
    (hmode : ∀ value, (store params value).readOutMode = .image) (hfits : token.length < size) :
    (storeText store params (token ++ [lineFeed])).reply ≠
      (storeText store params token).reply := by
  have hstored : (storeText store params token).reply =
      finishImage (store params (.ofText token hfits)) := by
    rw [storeText, dif_pos hfits, checkReadOutMode_of_image (hmode _)]
    rfl
  rw [hstored]
  intro heq
  by_cases hroom : (token ++ [lineFeed]).length < size
  · rw [storeText, dif_pos hroom, checkReadOutMode_of_image (hmode _)] at heq
    have hkept := congrArg (fun reply => member reply.params) heq
    simp only [OptionResult.reply, hmember] at hkept
    exact ofText_lineFeed_ne hroom hfits hkept
  · rw [storeText, dif_neg hroom] at heq
    exact status_finishImage_ne_one (hmode _) (congrArg Reply.status heq).symm

theorem reply_storeText_lineFeed_iff {size : Nat}
    {store : AndorParameters → CharArray size → AndorParameters}
    (member : AndorParameters → CharArray size) {params : AndorParameters} {token : Text}
    (hmember : ∀ value, member (finishImage (store params value)).params = value)
    (hmode : ∀ value, (store params value).readOutMode = .image) :
    (storeText store params (token ++ [lineFeed])).reply = (storeText store params token).reply ↔
      size ≤ token.length := by
  constructor
  · intro heq
    by_contra hshort
    exact storeText_lineFeed_ne member hmember hmode (Nat.lt_of_not_le hshort) heq
  · intro hlong
    have hbroken : ¬ (token ++ [lineFeed]).length < size := by
      rw [List.length_append, List.length_singleton]
      omega
    rw [storeText, dif_neg hbroken, storeText, dif_neg (Nat.not_lt.mpr hlong)]

/-- The replies agree on the values the option does not keep. -/
theorem reply_lineFeed_iff (option : ImageOption) {params : AndorParameters}
    (hmode : params.readOutMode = .image) (token : Text) :
    (option.store params (token ++ [lineFeed])).reply = (option.store params token).reply ↔
      (option.isText && !option.refuses token) = false := by
  cases htext : option.isText with
  | false =>
      rw [store_lineFeed htext, Bool.false_and]
      exact iff_of_true rfl rfl
  | true =>
      rw [Bool.true_and, Bool.not_eq_false']
      cases option with
      | filename =>
          simp only [ImageOption.store, ImageOption.refuses, decide_eq_true_eq]
          apply reply_storeText_lineFeed_iff AndorParameters.imageFilename
          · intro value
            rw [params_finishImage]
          · exact fun _ => hmode
      | type =>
          simp only [ImageOption.store, ImageOption.refuses, decide_eq_true_eq]
          apply reply_storeText_lineFeed_iff AndorParameters.type
          · intro value
            rw [params_finishImage]
          · exact fun _ => hmode
      | object =>
          simp only [ImageOption.store, ImageOption.refuses, decide_eq_true_eq]
          apply reply_storeText_lineFeed_iff AndorParameters.objectName
          · intro value
            rw [params_finishImage]
          · exact fun _ => hmode
      | filter =>
          simp only [ImageOption.store, ImageOption.refuses, decide_eq_true_eq]
          apply reply_storeText_lineFeed_iff AndorParameters.filterName
          · intro value
            rw [params_finishImage]
          · exact fun _ => hmode
      | nimages | bin | hbin | vbin | hstart | hend | vstart | vend | exposure | arTries =>
          cases htext

theorem resolveOptions_ignored {word : Text} (hoption : ImageOption.ofWord word = none)
    (rest : Tokens) (params : AndorParameters) :
    resolveOptions (.token word rest) params = resolveOptions rest params := by
  rw [resolveOptions, hoption]

theorem resolveOptions_value {word : Text} {option : ImageOption}
    (hoption : ImageOption.ofWord word = some option) (value : Text) (rest : Tokens)
    (params : AndorParameters) :
    resolveOptions (.token word (.token value rest)) params =
      match option.store params value with
      | .refused status params => .ok ⟨status, params⟩
      | .kept params => resolveOptions rest params := by
  cases hstore : option.store params value with
  | kept after => simp only [resolveOptions, hoption, hstore]
  | refused status after => simp only [resolveOptions, hoption, hstore]

theorem resolveOptions_lastValue {word : Text} {option : ImageOption}
    (hoption : ImageOption.ofWord word = some option) (value : Text)
    (params : AndorParameters) :
    resolveOptions (.token word (.token value .done)) params =
      .ok (option.store params value).reply := by
  rw [resolveOptions_value hoption]
  cases option.store params value with
  | kept after => rfl
  | refused status after => rfl

theorem resolveOptions_lastWord {word : Text} {option : ImageOption}
    (hoption : ImageOption.ofWord word = some option) (params : AndorParameters) :
    resolveOptions (.token word .done) params = .ok ⟨1, params⟩ := by
  rw [resolveOptions, hoption]

/-- A single word is an option without a value, or it is ignored. -/
theorem resolveOptions_single_lineFeed (word : Text) (params : AndorParameters) :
    resolveOptions (.token (word ++ [lineFeed]) .done) params =
      resolveOptions (.token word .done) params := by
  have hbroken := ofWord_lineFeed word
  cases hoption : ImageOption.ofWord word with
  | none =>
      rw [hoption] at hbroken
      rw [resolveOptions_ignored hbroken, resolveOptions_ignored hoption]
  | some option =>
      rw [hoption] at hbroken
      rw [resolveOptions_lastWord hbroken, resolveOptions_lastWord hoption]

theorem resolveOptions_breakLast_iff (words : List Text) {params : AndorParameters}
    (hmode : params.readOutMode = .image) :
    resolveOptions (tokensOf (breakLast words)) params = resolveOptions (tokensOf words) params ↔
      acceptsLast words = false := by
  induction words using acceptsLast.induct generalizing params with
  | case1 word value rest hoption ih =>
      rw [breakLast, tokensOf, tokensOf, resolveOptions_ignored hoption,
        resolveOptions_ignored hoption, acceptsLast, hoption]
      exact ih hmode
  | case2 word value option hoption =>
      rw [acceptsLast, hoption]
      change resolveOptions (.token word (.token (value ++ [lineFeed]) .done)) params =
        resolveOptions (.token word (.token value .done)) params ↔ _
      rw [resolveOptions_lastValue hoption, resolveOptions_lastValue hoption, Except.ok.injEq]
      exact reply_lineFeed_iff option hmode value
  | case3 word value rest option hoption hrest ih =>
      obtain ⟨next, later, rfl⟩ := List.exists_cons_of_ne_nil hrest
      rw [acceptsLast, hoption]
      simp only [breakLast, tokensOf, if_neg hrest]
      rw [resolveOptions_value hoption, resolveOptions_value hoption]
      cases hstore : option.store params value with
      | refused status after =>
          obtain ⟨hrefuses, -⟩ := ImageOption.refused_of_store hmode hstore
          rw [hrefuses]
          exact iff_of_true rfl rfl
      | kept after =>
          obtain ⟨hrefuses, hstill⟩ := ImageOption.kept_of_store hmode hstore
          rw [hrefuses, Bool.not_false, Bool.true_and]
          exact ih hstill
  | case4 words hshort =>
      rcases words with _ | ⟨word, _ | ⟨value, rest⟩⟩
      · exact iff_of_true rfl rfl
      · exact iff_of_true (resolveOptions_single_lineFeed word params) rfl
      · exact absurd rfl (hshort word value rest)

example :
    (resolveOptions (tokensOf (breakLast [ascii "--object", ascii "M31"]))
      (AndorParameters.initial [])).map (fun reply => reply.params.objectName.text) =
      .ok (.ok (ascii "M31\n")) := by decide +kernel

theorem startsWith_typed (gap : Nat → Nat) (word : Word) (rest : List Word) (behind : Text) :
    startsWith (typed gap (word :: rest) ++ [lineFeed] ++ behind) (ascii "image") =
      startsWith word.bytes (ascii "image") := by
  cases rest with
  | nil =>
      rw [typed, List.append_assoc]
      exact startsWith_append_stop (by decide) word.bytes behind
  | cons next later =>
      rw [typed, List.replicate_succ, List.append_assoc, List.append_assoc, List.cons_append,
        List.cons_append]
      exact startsWith_append_stop (by decide) word.bytes _

theorem tokensOf_breakLast_cons (word : Text) (rest : List Text) :
    ∃ first, tokensOf (breakLast (word :: rest)) =
      .token first (tokensOf (breakLast rest)) := by
  cases rest with
  | nil => exact ⟨_, rfl⟩
  | cons next later => exact ⟨_, rfl⟩

/-- The received buffer: the line, its end, and at least one NUL. -/
theorem buffer_typed {command : Command} {line : Text}
    (hmessage : command.message = line ++ [lineFeed])
    (hroom : line.length + 1 < maxSocketBufferSize) :
    ∃ count, command.buffer.bytes = line ++ [lineFeed] ++ List.replicate (count + 1) 0 := by
  obtain ⟨count, hcount⟩ := Nat.exists_eq_add_of_lt hroom
  have hlength : maxSocketBufferSize - command.message.length = count + 1 := by
    rw [hmessage, List.length_append, List.length_singleton]
    omega
  refine ⟨count, ?_⟩
  change command.message ++
    List.replicate (maxSocketBufferSize - command.message.length) 0 = _
  rw [hlength, hmessage]

/-- The parser on the received line: the words, the last one with the line break. -/
theorem resolveImageParameters_typed (gap : Nat → Nat) (words : List Word)
    (params : AndorParameters) {command : Command}
    (hmessage : command.message = typed gap words ++ [lineFeed])
    (hroom : (typed gap words).length + 1 < maxSocketBufferSize) :
    resolveImageParameters command.buffer params =
      if ReadsOptions (words.map Word.bytes) params then
        resolveOptions (tokensOf (breakLast (words.map Word.bytes).tail)) params
      else resolveWords (words.map Word.bytes) params := by
  obtain ⟨count, hbuffer⟩ := buffer_typed hmessage hroom
  rw [resolveImageParameters, hbuffer]
  cases words with
  | nil => rfl
  | cons word rest =>
      have htokens := strtok_typed gap (List.cons_ne_nil word rest) count
      obtain ⟨first, hfirst⟩ := tokensOf_breakLast_cons word.bytes (rest.map Word.bytes)
      rw [startsWith_typed, htokens, List.map_cons, hfirst]
      by_cases himage : startsWith word.bytes (ascii "image") = true
      · by_cases hmode : params.readOutMode = .image
        · simp [ReadsOptions, himage, hmode]
        · simp [ReadsOptions, resolveWords, himage, hmode]
      · simp [ReadsOptions, resolveWords, himage]

theorem resolveWords_of_reads {words : List Text} {params : AndorParameters}
    (hreads : ReadsOptions words params) :
    resolveWords words params = resolveOptions (tokensOf words.tail) params := by
  obtain ⟨himage, hmode⟩ := hreads
  cases words with
  | nil => cases himage
  | cons command options =>
      have hstarts : startsWith command (ascii "image") = true := himage
      simp [resolveWords, hstarts, hmode]

theorem sees_received_iff (gap : Nat → Nat) (words : List Word) (params : AndorParameters)
    {command : Command} (hmessage : command.message = typed gap words ++ [lineFeed])
    (hroom : (typed gap words).length + 1 < maxSocketBufferSize) :
    resolveImageParameters command.buffer params = resolveWords (words.map Word.bytes) params ↔
      ¬ (ReadsOptions (words.map Word.bytes) params ∧
        acceptsLast (words.map Word.bytes).tail = true) := by
  rw [resolveImageParameters_typed gap words params hmessage hroom]
  by_cases hreads : ReadsOptions (words.map Word.bytes) params
  · rw [if_pos hreads, resolveWords_of_reads hreads,
      resolveOptions_breakLast_iff _ hreads.2, and_iff_right hreads, Bool.not_eq_true]
  · rw [if_neg hreads]
    exact iff_of_true rfl fun hboth => hreads hboth.1

/-- The parser sees exactly the words of a line if and only if the line fits the buffer of the
client and no string option accepts the last word. -/
theorem seesWords_typed_iff (gap : Nat → Nat) (words : List Word) (params : AndorParameters) :
    SeesWords (typed gap words) (words.map Word.bytes) params ↔
      (typed gap words).length + 1 < maxSocketBufferSize ∧
        ¬ (ReadsOptions (words.map Word.bytes) params ∧
          acceptsLast (words.map Word.bytes).tail = true) := by
  have hsent := sendLine_eq (nul_not_mem_typed gap words)
  by_cases hroom : (typed gap words).length + 1 < maxSocketBufferSize
  · rw [if_pos hroom] at hsent
    rw [and_iff_right hroom]
    constructor
    · rintro ⟨command, hcommand, hsees⟩
      rw [hsent, Except.ok.injEq] at hcommand
      exact (sees_received_iff gap words params hcommand.symm hroom).mp hsees
    · intro hcondition
      have hfits : (typed gap words ++ [lineFeed]).length ≤ maxSocketBufferSize := by
        rw [List.length_append, List.length_singleton]
        exact Nat.le_of_lt hroom
      let command : Command :=
        ⟨typed gap words ++ [lineFeed], hfits, fun _ => ⟨.success, 1, .success, .success⟩⟩
      exact ⟨command, hsent,
        (@sees_received_iff gap words params command rfl hroom).mpr hcondition⟩
  · rw [if_neg hroom] at hsent
    constructor
    · rintro ⟨command, hcommand, -⟩
      rw [hsent] at hcommand
      cases hcommand
    · rintro ⟨hfits, -⟩
      exact absurd hfits hroom

/-- image --object M31 -/
def lastObject : List Word :=
  [⟨ascii "image", by decide, by decide +kernel⟩,
    ⟨ascii "--object", by decide, by decide +kernel⟩, ⟨ascii "M31", by decide, by decide +kernel⟩]

/-- The name of the object becomes M31 and a line break. -/
theorem lastObject_not_seen :
    ¬ SeesWords (typed (fun _ => 0) lastObject) (lastObject.map Word.bytes)
      (AndorParameters.initial []) := by
  have hroom : (typed (fun _ => 0) lastObject).length + 1 < maxSocketBufferSize := by decide
  have hreads : ReadsOptions (lastObject.map Word.bytes) (AndorParameters.initial []) :=
    ⟨rfl, AndorParameters.readOutMode_initial []⟩
  have haccepts : acceptsLast (lastObject.map Word.bytes).tail = true := by decide
  rintro ⟨command, hcommand, hsees⟩
  rw [sendLine_eq (nul_not_mem_typed _ _), if_pos hroom, Except.ok.injEq] at hcommand
  rw [sees_received_iff _ _ _ hcommand.symm hroom] at hsees
  exact hsees ⟨hreads, haccepts⟩

end Andor2k
