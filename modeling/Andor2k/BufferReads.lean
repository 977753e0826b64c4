/-
The receive buffers: which of their bytes are read while a message is processed.  `recv`
may fill a buffer to its last byte, and nothing but the preceding memset ends the strings
in it.  A scan that finds no end inside the buffer reads the byte behind it.
-/
import Andor2k.Chat
import Andor2k.CommandHistory
import Andor2k.DecodeMessage
import Andor2k.FccRequest

namespace Andor2k

open CText

/-- The words `set_param_value` cuts off its copy, up to the one it refuses. -/
def setScan (sdk : Nat → SetParamAnswers) : Nat → Tokens → Checked Unit
  | _, .done => .ok ()
  | _, .overrun => .error .outOfBounds
  | index, .token word rest =>
      match SetOption.ofWord word with
      | none => setScan sdk (index + 1) rest
      | some option =>
          if option.refuses (sdk index) word then .ok () else setScan sdk (index + 1) rest

/-- The scans of the buffer and its copies while a command is processed.  `settemp`, `image` and
an unknown command print the buffer. -/
def commandReads (drvNumber : DrvCode → Nat) (received : Received) (params : AndorParameters) :
    Checked Unit :=
  let command := received.command.buffer
  match handlerOf command with
  | .setTemperature =>
      (setTemperature drvNumber command received.answers.cooling).map fun _ => ()
  | .setParamValue => setScan received.command.sdk 0 received.command.words
  | .getImage => do
      -- compiled in by -DDEBUG, and printed before anything is tested
      let _ ← command.text
      (resolveImageParameters command params).map fun _ => ()
  | .unknown => command.text.map fun _ => ()
  | _ => .ok ()

/-- Some word of a `setparam` command is refused. -/
def SetRefuses (sdk : Nat → SetParamAnswers) : Nat → Tokens → Prop
  | _, .done => False
  | _, .overrun => False
  | index, .token word rest =>
      match SetOption.ofWord word with
      | none => SetRefuses sdk (index + 1) rest
      | some option =>
          option.refuses (sdk index) word = true ∨ SetRefuses sdk (index + 1) rest

/-- `settemp` reads a number it accepts, and a byte that ends it. -/
def AcceptsTemperature (command : CommandBuffer) : Prop :=
  ∃ parsed, strtolIn (command.bytes.drop 7) = .ok parsed ∧
    parsed.rest ≠ command.bytes.drop 7 ∧ parsed.erange = false ∧
    andorMinTemp ≤ (Int32.ofInt parsed.value).toInt ∧
    (Int32.ofInt parsed.value).toInt ≤ andorMaxTemp

/-- The handler is through before it looks for the end of the message. -/
def EndsInside (received : Received) : Prop :=
  match handlerOf received.command.buffer with
  | .setTemperature => AcceptsTemperature received.command.buffer
  | .setParamValue => SetRefuses received.command.sdk 0 received.command.words
  | .getImage => False
  | .unknown => False
  | _ => True

theorem nul_mem_buffer (command : Command) :
    0 ∈ command.buffer.bytes ↔
      command.message.length < maxSocketBufferSize ∨ 0 ∈ command.message := by
  rw [Command.buffer, List.mem_append, List.mem_replicate, or_comm]
  have hroom : maxSocketBufferSize - command.message.length ≠ 0 ↔
      command.message.length < maxSocketBufferSize := by omega
  simp [hroom]

theorem terminated_words {command : Command} :
    command.words.Terminated ↔ 0 ∈ command.buffer.bytes := by
  rw [← terminated_strtok, Command.words]
  split
  · rename_i hwords
    rw [hwords]
  · rename_i hwords
    rw [hwords]
  · rename_i hwords
    rw [hwords]
    rfl

/-- The loop over the options comes to a reply where the words end. -/
theorem resolveOptions_ok {tokens : Tokens} (params : AndorParameters)
    (hterminated : tokens.Terminated) : ∃ reply, resolveOptions tokens params = .ok reply := by
  induction tokens, params using resolveOptions.induct with
  | case1 params => exact ⟨_, rfl⟩
  | case2 params => exact hterminated.elim
  | case3 word rest params hoption ih =>
      simp only [resolveOptions, hoption]
      exact ih hterminated
  | case4 word params option hoption =>
      simp only [resolveOptions, hoption]
      exact ⟨_, rfl⟩
  | case5 word params option hoption => exact False.elim hterminated
  | case6 word params option hoption value rest status after hstore =>
      simp only [resolveOptions, hoption, hstore]
      exact ⟨_, rfl⟩
  | case7 word params option hoption value rest after hstore ih =>
      simp only [resolveOptions, hoption, hstore]
      exact ih hterminated

theorem setScan_ok_iff {sdk : Nat → SetParamAnswers} {index : Nat} {tokens : Tokens} :
    setScan sdk index tokens = .ok () ↔ tokens.Terminated ∨ SetRefuses sdk index tokens := by
  induction tokens generalizing index with
  | done => exact iff_of_true rfl (Or.inl trivial)
  | overrun => exact iff_of_false nofun (fun hends => hends.elim id id)
  | token word rest ih =>
      cases hoption : SetOption.ofWord word with
      | none =>
          simp only [setScan, hoption, SetRefuses, Tokens.Terminated]
          exact ih
      | some option =>
          simp only [setScan, hoption, SetRefuses, Tokens.Terminated]
          split
          · rename_i hrefuses
            exact iff_of_true rfl (Or.inr (Or.inl hrefuses))
          · rename_i hkept
            rw [or_iff_right hkept]
            exact ih

/-- A word is refused on its text, also when the name it copies has no room. -/
theorem SetOption.refuses_of_store {option : SetOption} {sdk : SetParamAnswers}
    {params : AndorParameters} {token : Text} {result : OptionResult}
    (hstore : option.store sdk params token = .ok result) :
    option.refuses sdk token = true ∨ result = .kept result.params := by
  by_cases hfits : option.Fits token
  · obtain ⟨stored, hstored, hspec⟩ := option.storesAs_store sdk params hfits
    obtain rfl : result = stored := Except.ok.inj (hstore.symm.trans hstored)
    cases hrefuses : option.refuses sdk token with
    | true => exact Or.inl rfl
    | false => exact Or.inr (hspec.kept hrefuses)
  · obtain rfl : option = observername := by
      by_contra hother
      exact hfits fun hname => absurd hname hother
    simp only [store, setObservername] at hstore
    split at hstore
    · cases hstore
    · exact Or.inr (by rw [← Except.ok.inj hstore]; rfl)

/-- Where `set_param_value` comes to a reply, its scans have stayed in its copy. -/
theorem setScan_of_setOptions {sdk : Nat → SetParamAnswers} {index : Nat} {tokens : Tokens}
    {params : AndorParameters} {reply : Reply}
    (hreply : setOptions sdk index tokens params = .ok reply) :
    setScan sdk index tokens = .ok () := by
  induction tokens generalizing index params with
  | done => rfl
  | overrun => cases hreply
  | token word rest ih =>
      cases hoption : SetOption.ofWord word with
      | none =>
          simp only [setOptions, hoption] at hreply
          simp only [setScan, hoption]
          exact ih hreply
      | some option =>
          simp only [setOptions, hoption] at hreply
          simp only [setScan, hoption]
          split
          · rfl
          · rename_i hkept
            split at hreply
            · cases hreply
            · rename_i hstore
              cases (SetOption.refuses_of_store hstore).resolve_left hkept
            · exact ih hreply

/-- A command that is processed without a fault has been read inside the buffer, but for the
line that prints an `image` command. -/
theorem commandReads_of_resolveCommand {drvNumber : DrvCode → Nat} {received : Received}
    {params : AndorParameters} {found : Option Served}
    (hprinted : handlerOf received.command.buffer = .getImage →
      ∃ text, received.command.buffer.text = .ok text)
    (hserved : resolveCommand drvNumber received params = .ok found) :
    commandReads drvNumber received params = .ok () := by
  unfold resolveCommand at hserved
  unfold commandReads
  cases hhandler : handlerOf received.command.buffer with
  | setTemperature =>
      simp only [hhandler] at hserved ⊢
      obtain ⟨procedure, hset, -⟩ := checked_map_eq_ok.mp hserved
      exact checked_map_eq_ok.mpr ⟨procedure, hset, rfl⟩
  | setParamValue =>
      simp only [hhandler] at hserved ⊢
      obtain ⟨reply, hreply, -⟩ := checked_map_eq_ok.mp hserved
      have hparser := parserReply_setParamValue params hhandler
      rw [parserReply, hhandler] at hparser
      exact setScan_of_setOptions ((Option.some.inj hparser).symm.trans hreply)
  | getImage =>
      simp only [hhandler] at hserved ⊢
      obtain ⟨run, hrun, -⟩ := checked_map_eq_ok.mp hserved
      obtain ⟨reply, hreply, -⟩ := checked_bind_eq_ok.mp hrun
      obtain ⟨text, htext⟩ := hprinted hhandler
      exact checked_bind_eq_ok.mpr ⟨text, htext, checked_map_eq_ok.mpr ⟨reply, hreply, rfl⟩⟩
  | unknown =>
      simp only [hhandler] at hserved ⊢
      obtain ⟨text, htext, -⟩ := checked_map_eq_ok.mp hserved
      exact checked_map_eq_ok.mpr ⟨text, htext, rfl⟩
  | shutdown | printStatus | abort => simp only [hhandler]

theorem text_ok_iff {size : Nat} {array : CharArray size} :
    (∃ text, array.text = .ok text) ↔ 0 ∈ array.bytes := by
  rw [CharArray.text, cString]
  constructor
  · rintro ⟨text, htext⟩
    split at htext
    · assumption
    · cases htext
  · intro hnul
    rw [if_pos hnul]
    exact ⟨_, rfl⟩

/-- Both refusals print the command. -/
theorem nul_or_accepts_of_setTemperature {drvNumber : DrvCode → Nat} {command : CommandBuffer}
    {answers : CoolingAnswers} {found : Option Procedure}
    (hstart : startsWith command.bytes (ascii "settemp") = true)
    (hset : setTemperature drvNumber command answers = .ok found) :
    0 ∈ command.bytes ∨ AcceptsTemperature command := by
  rw [setTemperature, if_neg (not_not.mpr hstart)] at hset
  obtain ⟨parsed, hparsed, hset⟩ := checked_bind_eq_ok.mp hset
  dsimp only at hset
  split at hset
  · obtain ⟨text, htext, -⟩ := checked_bind_eq_ok.mp hset
    exact Or.inl (text_ok_iff.mp ⟨text, htext⟩)
  · rename_i hnumber
    split at hset
    · obtain ⟨text, htext, -⟩ := checked_bind_eq_ok.mp hset
      exact Or.inl (text_ok_iff.mp ⟨text, htext⟩)
    · rename_i hlimits
      obtain ⟨hrest, herange⟩ := not_or.mp hnumber
      obtain ⟨hlow, hhigh⟩ := not_or.mp hlimits
      exact Or.inr ⟨parsed, hparsed, hrest, Bool.not_eq_true _ ▸ herange,
        Int.not_lt.mp hlow, Int.not_lt.mp hhigh⟩

theorem setTemperature_of_nul (drvNumber : DrvCode → Nat) {command : CommandBuffer}
    (answers : CoolingAnswers) (hstart : startsWith command.bytes (ascii "settemp") = true)
    (hnul : 0 ∈ command.bytes) : ∃ found, setTemperature drvNumber command answers = .ok found := by
  have hargument : 0 ∈ command.bytes.drop 7 := by
    obtain ⟨rest, hbytes⟩ := startsWith_iff.mp hstart
    rw [← hbytes] at hnul ⊢
    exact (List.mem_append.mp hnul).resolve_left (by decide)
  obtain ⟨text, htext⟩ := text_ok_iff.mpr hnul
  rw [setTemperature, if_neg (not_not.mpr hstart)]
  dsimp only
  rw [strtolIn_of_nul hargument, htext]
  by_cases hnumber : (strtol (command.bytes.drop 7)).rest = command.bytes.drop 7 ∨
      (strtol (command.bytes.drop 7)).erange = true
  · exact ⟨_, if_pos hnumber⟩
  · by_cases hlimits :
        (Int32.ofInt (strtol (command.bytes.drop 7)).value).toInt < andorMinTemp ∨
          andorMaxTemp < (Int32.ofInt (strtol (command.bytes.drop 7)).value).toInt
    · exact ⟨_, (if_neg hnumber).trans (if_pos hlimits)⟩
    · exact ⟨_, (if_neg hnumber).trans (if_neg hlimits)⟩

/-- The number is all that is read of an accepted temperature. -/
theorem setTemperature_of_accepts (drvNumber : DrvCode → Nat) {command : CommandBuffer}
    (answers : CoolingAnswers) (hstart : startsWith command.bytes (ascii "settemp") = true)
    (haccepts : AcceptsTemperature command) :
    ∃ found, setTemperature drvNumber command answers = .ok found := by
  obtain ⟨parsed, hparsed, hrest, herange, hlow, hhigh⟩ := haccepts
  have hnumber : ¬ (parsed.rest = command.bytes.drop 7 ∨ parsed.erange = true) := by
    rw [herange]
    exact not_or.mpr ⟨hrest, nofun⟩
  have hlimits : ¬ ((Int32.ofInt parsed.value).toInt < andorMinTemp ∨
      andorMaxTemp < (Int32.ofInt parsed.value).toInt) :=
    not_or.mpr ⟨Int.not_lt.mpr hlow, Int.not_lt.mpr hhigh⟩
  rw [setTemperature, if_neg (not_not.mpr hstart)]
  dsimp only
  rw [hparsed]
  exact ⟨_, (if_neg hnumber).trans (if_neg hlimits)⟩

theorem setTemperature_ok_iff {drvNumber : DrvCode → Nat} {command : CommandBuffer}
    {answers : CoolingAnswers} (hstart : startsWith command.bytes (ascii "settemp") = true) :
    (∃ found, setTemperature drvNumber command answers = .ok found) ↔
      0 ∈ command.bytes ∨ AcceptsTemperature command :=
  ⟨fun ⟨_, hset⟩ => nul_or_accepts_of_setTemperature hstart hset,
    fun hends => hends.elim (setTemperature_of_nul drvNumber answers hstart)
      (setTemperature_of_accepts drvNumber answers hstart)⟩

theorem map_unit_eq_ok {A : Type} {computation : Checked A} :
    (computation.map fun _ => ()) = .ok () ↔ ∃ value, computation = .ok value := by
  rw [checked_map_eq_ok]
  exact ⟨fun ⟨value, hvalue, _⟩ => ⟨value, hvalue⟩, fun ⟨value, hvalue⟩ => ⟨value, hvalue, rfl⟩⟩

/-- The scans of a command stay in its buffer exactly when there is a NUL in it, or the
handler is through before it needs one. -/
theorem commandReads_ok_iff (drvNumber : DrvCode → Nat) (received : Received)
    (params : AndorParameters) :
    commandReads drvNumber received params = .ok () ↔
      0 ∈ received.command.buffer.bytes ∨ EndsInside received := by
  unfold commandReads EndsInside
  cases hhandler : handlerOf received.command.buffer with
  | setTemperature =>
      have hstart : startsWith received.command.buffer.bytes (ascii "settemp") = true := by
        unfold handlerOf at hhandler
        split_ifs at hhandler with hsettemp
        exact hsettemp
      simp only [hhandler]
      rw [map_unit_eq_ok]
      exact setTemperature_ok_iff hstart
  | setParamValue =>
      simp only [hhandler]
      rw [setScan_ok_iff, terminated_words]
  | getImage =>
      have hparser := parserReply_getImage params hhandler
      rw [parserReply, hhandler] at hparser
      simp only [hhandler]
      rw [or_false, ← text_ok_iff]
      constructor
      · intro hreads
        obtain ⟨text, htext, -⟩ := checked_bind_eq_ok.mp hreads
        exact ⟨text, htext⟩
      · rintro ⟨text, htext⟩
        refine checked_bind_eq_ok.mpr ⟨text, htext, map_unit_eq_ok.mpr ?_⟩
        rw [Option.some.inj hparser]
        split
        · exact ⟨_, rfl⟩
        · exact resolveOptions_ok params (terminated_words.mpr (text_ok_iff.mp ⟨text, htext⟩))
  | unknown =>
      simp only [hhandler]
      rw [map_unit_eq_ok, or_false]
      exact text_ok_iff
  | shutdown | printStatus | abort =>
      simp only [hhandler, or_true]

/-- `strstr` on a memory area: it has to find the needle or a NUL. -/
def strstrIn (needle : Text) : List UInt8 → Checked (Option (List UInt8))
  | [] => .error .outOfBounds
  | byte :: rest =>
      if startsWith (byte :: rest) needle then .ok (some (byte :: rest))
      else if byte = 0 then .ok none
      else strstrIn needle rest

/-- The scans of `decode_message`.  `base64decode_len` and `base64decode` make the same one,
and read nothing behind it. -/
def decodeScan (rawMessage : List UInt8) : Checked Unit := do
  match ← strstrIn blockStart rawMessage with
  | none => return ()
  | some found =>
      let start := found.drop 3
      let block ← scanUntil (fun byte => byte = 0 ∨ byte = blockEnd) start
      if (start.drop block.length).head? ≠ some blockEnd then return ()
      -- the semicolon becomes a NUL
      let _ ← scanUntil (fun c => ¬ pr2six c ≤ 63)
        (block ++ 0 :: start.drop (block.length + 1))
      return ()

/-- Every reply is printed, and looked at for an error; the last one is decoded. -/
def replyReads (last : Bool) (header : HeaderBuffer) : Checked Unit := do
  let _ ← header.text
  if responseHasError header.bytes then return ()
  if last then decodeScan header.bytes else return ()

theorem strstrIn_of_nul {needle memory : List UInt8} (hnul : 0 ∈ memory) :
    ∃ found, strstrIn needle memory = .ok found ∧
      ∀ start, found = some start → needle <+: start ∧ 0 ∈ start := by
  induction memory with
  | nil => cases hnul
  | cons byte rest ih =>
      rw [strstrIn]
      split
      · rename_i hstart
        refine ⟨_, rfl, fun start hfound => ?_⟩
        rw [← Option.some.inj hfound]
        exact ⟨startsWith_iff.mp hstart, hnul⟩
      · split
        · exact ⟨_, rfl, nofun⟩
        · rename_i hbyte
          exact ih ((List.mem_cons.mp hnul).resolve_left (Ne.symm hbyte))

/-- A NUL ends all three scans. -/
theorem decodeScan_of_nul {rawMessage : List UInt8} (hnul : 0 ∈ rawMessage) :
    decodeScan rawMessage = .ok () := by
  obtain ⟨found, hfound, hstarts⟩ :
      ∃ found, strstrIn blockStart rawMessage = .ok found ∧
        ∀ start, found = some start → blockStart <+: start ∧ 0 ∈ start :=
    strstrIn_of_nul hnul
  rw [decodeScan]
  refine checked_bind_eq_ok.mpr ⟨found, hfound, ?_⟩
  cases found with
  | none => rfl
  | some start =>
      obtain ⟨⟨rest, rfl⟩, hmem⟩ := hstarts start rfl
      have hrest : 0 ∈ rest := (List.mem_append.mp hmem).resolve_left (by decide)
      refine checked_bind_eq_ok.mpr ⟨_, scanUntil_of_mem hrest rfl, ?_⟩
      split
      · rfl
      · exact checked_bind_eq_ok.mpr
          ⟨_, scanUntil_of_mem (List.mem_append_right _ List.mem_cons_self) rfl, rfl⟩

/-- A comparison that stays inside sees all there is to see, whatever lies behind the buffer. -/
theorem startsWith_append {memory needle : List UInt8} (hneedle : 0 ∉ needle)
    (hroom : 0 ∈ memory ∨ needle.length ≤ memory.length) (behind : List UInt8) :
    startsWith (memory ++ behind) needle = startsWith memory needle := by
  rw [Bool.eq_iff_iff, startsWith_iff, startsWith_iff]
  constructor
  · intro hleads
    rcases List.prefix_or_prefix_of_prefix hleads (List.prefix_append memory behind) with
      hinside | hshort
    · exact hinside
    · rcases hroom with hnul | hlength
      · exact absurd (hshort.subset hnul) hneedle
      · obtain rfl := hshort.eq_of_length (Nat.le_antisymm hshort.length_le hlength)
        exact List.prefix_rfl
  · intro hleads
    exact hleads.trans (List.prefix_append memory behind)

theorem room_of_strstrIn {needle memory : List UInt8} {found : Option (List UInt8)}
    (hfound : strstrIn needle memory = .ok found) :
    0 ∈ memory ∨ needle.length ≤ memory.length := by
  induction memory with
  | nil => cases hfound
  | cons byte rest ih =>
      rw [strstrIn] at hfound
      split at hfound
      · rename_i hstart
        exact Or.inr (startsWith_iff.mp hstart).length_le
      · split at hfound
        · rename_i hnul
          exact Or.inl (hnul ▸ List.mem_cons_self)
        · exact (ih hfound).imp (List.mem_cons_of_mem byte) Nat.le_succ_of_le

theorem strstr_of_strstrIn {needle memory : List UInt8} {found : Option (List UInt8)}
    (hneedle : 0 ∉ needle) (hfound : strstrIn needle memory = .ok found)
    (behind : List UInt8) :
    strstr needle (memory ++ behind) = found.map fun start => start ++ behind := by
  induction memory with
  | nil => cases hfound
  | cons byte rest ih =>
      have hstarts := startsWith_append hneedle (room_of_strstrIn hfound) behind
      rw [strstrIn] at hfound
      rw [List.cons_append, strstr, ← List.cons_append, hstarts]
      split at hfound
      · rename_i hstart
        rw [if_pos hstart, ← Except.ok.inj hfound]
        rfl
      · rename_i hstart
        rw [if_neg hstart]
        split at hfound
        · rename_i hnul
          rw [if_pos hnul, ← Except.ok.inj hfound]
          rfl
        · rename_i hbyte
          rw [if_neg hbyte]
          exact ih hfound

theorem blockStart_prefix_of_strstrIn {memory : List UInt8} {start : List UInt8}
    (hfound : strstrIn blockStart memory = .ok (some start)) : blockStart <+: start := by
  induction memory with
  | nil => cases hfound
  | cons byte rest ih =>
      rw [strstrIn] at hfound
      split at hfound
      · rename_i hstart
        rw [← Option.some.inj (Except.ok.inj hfound)]
        exact startsWith_iff.mp hstart
      · split at hfound
        · cases hfound
        · exact ih hfound

theorem scanUntil_append {stop : UInt8 → Bool} {memory text : List UInt8}
    (hscan : scanUntil stop memory = .ok text) (behind : List UInt8) :
    (memory ++ behind).takeWhile (fun byte => !stop byte) = text ∧
      text.length < memory.length := by
  rw [scanUntil] at hscan
  split at hscan
  · rename_i hstops
    obtain ⟨byte, hbyte, hstop⟩ := List.any_eq_true.mp hstops
    have hshort : (memory.takeWhile fun byte => !stop byte).length < memory.length := by
      by_contra hlong
      have hall := (List.takeWhile_prefix _).eq_of_length_le (Nat.not_lt.mp hlong)
      rw [← hall] at hbyte
      have hgoes := List.mem_takeWhile_imp hbyte
      rw [hstop] at hgoes
      cases hgoes
    obtain rfl := Except.ok.inj hscan
    rw [List.takeWhile_append, if_neg (Nat.ne_of_lt hshort)]
    exact ⟨rfl, hshort⟩
  · cases hscan

/-- What lies behind the buffer does not matter to a scan that stays inside. -/
theorem decodeMessage_of_scan {rawMessage : List UInt8} (decompress : Decompress)
    (hscan : decodeScan rawMessage = .ok ()) (behind : List UInt8) (buffLen : Int) :
    decodeMessage decompress (rawMessage ++ behind) buffLen =
      decodeMessage decompress rawMessage buffLen := by
  obtain ⟨found, hfound, hrest⟩ := checked_bind_eq_ok.mp hscan
  have hneedle : 0 ∉ blockStart := by decide
  have hlong := strstr_of_strstrIn hneedle hfound behind
  have hshort := strstr_of_strstrIn hneedle hfound []
  rw [List.append_nil] at hshort
  rw [decodeMessage, decodeMessage, hlong, hshort]
  cases found with
  | none => rfl
  | some start =>
      obtain ⟨rest, rfl⟩ := blockStart_prefix_of_strstrIn hfound
      obtain ⟨block, hblock, -⟩ := checked_bind_eq_ok.mp hrest
      have hstart : (blockStart ++ rest).drop 3 = rest := rfl
      rw [hstart] at hblock
      obtain ⟨hcut, hshort⟩ := scanUntil_append hblock behind
      obtain ⟨hinside, -⟩ := scanUntil_append hblock []
      have hends : (fun byte : UInt8 => decide (byte ≠ 0 ∧ byte ≠ blockEnd)) =
          fun byte => !decide (byte = 0 ∨ byte = blockEnd) := by
        funext byte
        simp
      have hdrop : ∀ later : List UInt8, (blockStart ++ rest ++ later).drop 3 =
          rest ++ later := fun _ => rfl
      have hhead : ((rest ++ behind).drop block.length).head? =
          ((rest ++ []).drop block.length).head? := by
        rw [List.append_nil, List.drop_append_of_le_length (Nat.le_of_lt hshort),
          List.head?_append_of_ne_nil _ (List.drop_eq_nil_iff.not.mpr (Nat.not_le.mpr hshort))]
      simp only [Option.map_some, hdrop, hends, hcut, hinside, hhead]

theorem replyReads_ok_iff {last : Bool} {header : HeaderBuffer} :
    replyReads last header = .ok () ↔ 0 ∈ header.bytes := by
  rw [← text_ok_iff, replyReads]
  constructor
  · intro hreads
    obtain ⟨text, htext, -⟩ := checked_bind_eq_ok.mp hreads
    exact ⟨text, htext⟩
  · rintro ⟨text, htext⟩
    refine checked_bind_eq_ok.mpr ⟨text, htext, ?_⟩
    split
    · rfl
    · split
      · exact decodeScan_of_nul (text_ok_iff.mp ⟨text, htext⟩)
      · rfl

theorem nul_mem_receivedBuffer {bytes : List UInt8}
    (fits : bytes.length ≤ aristarchosMaxHeaderSize) :
    0 ∈ (receivedBuffer bytes fits).bytes ↔
      bytes.length < aristarchosMaxHeaderSize ∨ 0 ∈ bytes := by
  have hbytes : (receivedBuffer bytes fits).bytes =
      bytes ++ List.replicate (aristarchosMaxHeaderSize - bytes.length) 0 := by
    simp only [receivedBuffer, overlay, CharArray.zero, List.take_zero, List.nil_append,
      Nat.zero_add, List.drop_replicate]
  rw [hbytes, List.mem_append, List.mem_replicate, or_comm]
  have hroom : aristarchosMaxHeaderSize - bytes.length ≠ 0 ↔
      bytes.length < aristarchosMaxHeaderSize := by omega
  simp [hroom]

/-- A command is read inside its buffer exactly when it does not fill the buffer without a
NUL, or its handler is through before it needs one; a reply of the FCC exactly when it does
not fill its buffer without a NUL. -/
theorem receive_buffers_read_inside_iff (drvNumber : DrvCode → Nat) :
    (∀ (received : Received) (params : AndorParameters),
      commandReads drvNumber received params = .ok () ↔
        (received.command.message.length < maxSocketBufferSize ∨
          0 ∈ received.command.message) ∨ EndsInside received) ∧
    ∀ (last : Bool) (bytes : List UInt8) (fits : bytes.length ≤ aristarchosMaxHeaderSize),
      replyReads last (receivedBuffer bytes fits) = .ok () ↔
        bytes.length < aristarchosMaxHeaderSize ∨ 0 ∈ bytes := by
  constructor
  · intro received params
    rw [commandReads_ok_iff, nul_mem_buffer]
  · intro last bytes fits
    rw [replyReads_ok_iff, nul_mem_receivedBuffer]

/-- Both buffers, with a message that does not fill them. -/
theorem short_messages_read_inside_iff :
    (commandReads (fun _ => 20002) (goodMessage (ascii "settemp -50") (by decide))
        (AndorParameters.initial []) = .ok () ↔
      ((ascii "settemp -50").length < maxSocketBufferSize ∨ 0 ∈ ascii "settemp -50") ∨
        EndsInside (goodMessage (ascii "settemp -50") (by decide))) ∧
    (replyReads true (receivedBuffer (ascii "0003RD;") (by decide)) = .ok () ↔
      (ascii "0003RD;").length < aristarchosMaxHeaderSize ∨ 0 ∈ ascii "0003RD;") :=
  ⟨(receive_buffers_read_inside_iff fun _ => 20002).1 _ _,
    (receive_buffers_read_inside_iff fun _ => 20002).2 true _ (by decide)⟩

/-- A message that fills its buffer with the letter x. -/
def fullMessage : Received :=
  goodMessage (List.replicate maxSocketBufferSize 120) (by rw [List.length_replicate])

theorem full_buffers_are_left :
    (¬ ∀ (drvNumber : DrvCode → Nat) (received : Received) (params : AndorParameters),
      commandReads drvNumber received params = .ok ()) ∧
    ¬ ∀ (last : Bool) (bytes : List UInt8) (fits : bytes.length ≤ aristarchosMaxHeaderSize),
      replyReads last (receivedBuffer bytes fits) = .ok () := by
  constructor
  · intro hinside
    have hfault : commandReads (fun _ => 20002) fullMessage (AndorParameters.initial []) =
        .error .outOfBounds := by
      decide +kernel
    have hok := hinside (fun _ => 20002) fullMessage (AndorParameters.initial [])
    rw [hfault] at hok
    cases hok
  · intro hinside
    have hok := hinside true (List.replicate aristarchosMaxHeaderSize 120)
      (by rw [List.length_replicate])
    rw [replyReads_ok_iff, nul_mem_receivedBuffer, List.length_replicate] at hok
    exact hok.elim (Nat.lt_irrefl _) fun hmem => by
      cases List.eq_of_mem_replicate hmem

end Andor2k
