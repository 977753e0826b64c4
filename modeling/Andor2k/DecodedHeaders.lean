/-
decoded_str_to_header: the decoded FCC headers as 80-character lines, and the table they
make together with the entries `update` adds to them.
-/
import Andor2k.HeaderMerge

namespace Andor2k

open CText

def headerSize : Nat := 80

/-- The characters that `strncpy` and `%.*s` read: `limit` of them, or fewer where a NUL
comes first. -/
def boundedText (memory : List UInt8) (limit : Nat) : Checked Text :=
  let chars := (memory.take limit).takeWhile (· ≠ 0)
  if chars.length = memory.length ∧ chars.length < limit then .error .outOfBounds
  else .ok chars

/-- `strchr`: how far ahead the character is, if it comes before the NUL. -/
def strchr (wanted : UInt8) (memory : List UInt8) : Checked (Option Nat) :=
  let before := (memory.takeWhile fun byte => byte ≠ 0 ∧ byte ≠ wanted).length
  match (memory.drop before).head? with
  | none => .error .outOfBounds
  | some byte => if byte = 0 then .ok none else .ok (some before)

/-- `strncpy` into a cleared field, whose text is printed afterwards: the count is
converted to `size_t`, so a negative one is larger than every field. -/
def copyField (size : Nat) (source : List UInt8) (count : Int) :
    Checked { chars : Text // chars.length < size } :=
  if 0 ≤ count ∧ count ≤ size then do
    let chars ← boundedText source count.toNat
    if hfits : chars.length < size then return ⟨chars, hfits⟩ else .error .outOfBounds
  else .error .outOfBounds

inductive HeaderLine where
  | skipped
  | failed
  | resolved (hdr : FitsHeader)
deriving DecidableEq

/-- One line, from the memory that begins with it. -/
def headerLine (start : List UInt8) : Checked HeaderLine := do
  let _ ← boundedText start (headerSize - 1)
  match start[8]? with
  | none => .error .outOfBounds
  | some mark =>
      -- 61 is '=', 47 is '/'
      if mark ≠ 61 then return .skipped
      let ⟨key, keyFits⟩ ← copyField fitsHeaderKeynameChars start 8
      match ← strchr 47 (start.drop 8) with
      | none => return .failed
      | some before =>
          let vstop := 8 + before
          let ⟨cval, cvalFits⟩ ← copyField fitsHeaderValueChars (start.drop 11) (vstop - 11)
          let ⟨comment, commentFits⟩ ← copyField fitsHeaderCommentChars
            (start.drop (vstop + 1)) (headerSize - vstop - 1)
          return .resolved
            { key, comment
              key_fits := keyFits
              comment_fits := commentFits
              value := .cval cval cvalFits }

/-- The lines from `start` on, which is `offset` bytes into the message: the status, and
the headers found so far.  Every line takes bytes off the memory, so there are never more
lines than bytes. -/
def headerLines (msgLen : UInt32) : Nat → Nat → List UInt8 → Checked (Int × List FitsHeader)
  | 0, _, _ => .error .outOfBounds
  | lines + 1, offset, start =>
      match start.head? with
      | none => .error .outOfBounds
      | some first =>
          if first = 0 ∨ msgLen.toNat < offset then .ok (0, [])
          else do
            match ← headerLine start with
            | .failed => return (-1, [])
            | .skipped => headerLines msgLen lines (offset + headerSize) (start.drop headerSize)
            | .resolved hdr =>
                let (status, headers) ←
                  headerLines msgLen lines (offset + headerSize) (start.drop headerSize)
                return (status, hdr :: headers)

/-- `memory` is all there is from `decoded_msg` on. -/
def decodedStrToHeader (memory : List UInt8) (msgLen : UInt32) :
    Checked (Int × List FitsHeader) :=
  headerLines msgLen memory.length 0 memory

/-- The arguments of a call `update(key, value, comment)`. -/
structure HeaderCall where
  key : Text
  value : HeaderValue
  comment : Text
  typed : value.type ≠ .unknown

def FitsHeaders.updateCalls : List HeaderCall → FitsHeaders → Checked FitsHeaders
  | [], headers => .ok headers
  | call :: rest, headers => do
      let hdr ← createFitsHeader call.value call.key call.comment
      updateCalls rest (headers.update hdr).2

/-- An 80-character line. -/
structure Card where
  chars : Text
  length_eq : chars.length = headerSize
  nul_free : 0 ∉ chars

/-- The eight characters before the `=` of a header line. -/
def Card.keyword (card : Card) : Option Text :=
  if card.chars[8]? = some 61 then some (card.chars.take 8) else none

theorem Card.length_of_keyword {card : Card} {key : Text} (hkey : card.keyword = some key) :
    key.length = 8 := by
  rw [keyword] at hkey
  split at hkey
  · rw [← Option.some.inj hkey, List.length_take, card.length_eq]
    rfl
  · cases hkey

/-- The message is these lines: it reaches into the last one, and behind that it is over,
by its length or by a NUL. -/
structure HoldsCards (memory : List UInt8) (msgLen : UInt32) (cards : List Card)
    (rest : List UInt8) : Prop where
  memory_eq : memory = cards.flatMap Card.chars ++ rest
  reaches : headerSize * cards.length ≤ msgLen.toNat + headerSize
  ends : rest.head? = some 0 ∨ msgLen.toNat < headerSize * cards.length

theorem boundedText_append {text rest : List UInt8} {limit : Nat} (hnul : 0 ∉ text)
    (hlimit : limit ≤ text.length) : boundedText (text ++ rest) limit = .ok (text.take limit) := by
  have htake : (text ++ rest).take limit = text.take limit :=
    List.take_append_of_le_length hlimit
  have hchars : (text.take limit).takeWhile (· ≠ 0) = text.take limit :=
    takeWhile_ne_self fun hzero => hnul (List.mem_of_mem_take hzero)
  have hlength : (text.take limit).length = limit := by
    rw [List.length_take, Nat.min_eq_left hlimit]
  rw [boundedText]
  simp only [htake, hchars, hlength]
  rw [if_neg (by omega)]

theorem boundedText_card (card : Card) (rest : List UInt8) {limit : Nat}
    (hlimit : limit ≤ headerSize) :
    boundedText (card.chars ++ rest) limit = .ok (card.chars.take limit) :=
  boundedText_append card.nul_free (by rw [card.length_eq]; exact hlimit)

theorem copyField_eq_ok {size : Nat} {source : List UInt8} {count : Int}
    {field : { chars : Text // chars.length < size }}
    (hcopy : copyField size source count = .ok field) :
    boundedText source count.toNat = .ok field.1 := by
  rw [copyField] at hcopy
  split at hcopy
  · obtain ⟨chars, hchars, hfield⟩ := checked_bind_eq_ok.mp hcopy
    split at hfield
    · simp only [pure, Except.pure, Except.ok.injEq] at hfield
      rw [← hfield, hchars]
    · cases hfield
  · cases hcopy

/-- A line is skipped without its `=`, fails without a `/` before the NUL, or is cut at
its columns. -/
theorem headerLine_cases {start : List UInt8} {line : HeaderLine}
    (hline : headerLine start = .ok line) :
    (line = .skipped ∧ start[8]? ≠ some 61) ∨
      (start[8]? = some 61 ∧
        ((line = .failed ∧ strchr 47 (start.drop 8) = .ok none) ∨
          ∃ hdr before hfits, line = .resolved hdr ∧
            strchr 47 (start.drop 8) = .ok (some before) ∧
            copyField fitsHeaderKeynameChars start 8 = .ok ⟨hdr.key, hdr.key_fits⟩ ∧
            hdr.value = .cval hfits.1 hfits.2 ∧
            copyField fitsHeaderValueChars (start.drop 11) (((8 + before : Nat) : Int) - 11) =
              .ok hfits ∧
            copyField fitsHeaderCommentChars (start.drop (8 + before + 1))
              (headerSize - ((8 + before : Nat) : Int) - 1) =
                .ok ⟨hdr.comment, hdr.comment_fits⟩)) := by
  obtain ⟨_, -, hline⟩ := checked_bind_eq_ok.mp hline
  split at hline
  · cases hline
  · rename_i mark hmark
    split at hline
    · rename_i hother
      rw [hmark]
      exact Or.inl ⟨(Except.ok.inj hline).symm, fun hequal => hother (Option.some.inj hequal)⟩
    · rename_i hequal
      rw [hmark, not_not.mp hequal]
      refine Or.inr ⟨rfl, ?_⟩
      obtain ⟨key, hkey, hline⟩ := checked_bind_eq_ok.mp hline
      obtain ⟨found, hfound, hline⟩ := checked_bind_eq_ok.mp hline
      split at hline
      · exact Or.inl ⟨(Except.ok.inj hline).symm, hfound⟩
      · obtain ⟨cval, hcval, hline⟩ := checked_bind_eq_ok.mp hline
        obtain ⟨comment, hcomment, hline⟩ := checked_bind_eq_ok.mp hline
        exact Or.inr ⟨_, _, cval, (Except.ok.inj hline).symm, hfound, hkey, rfl, hcval,
          hcomment⟩

theorem getElem?_card (card : Card) (rest : List UInt8) :
    (card.chars ++ rest)[8]? = card.chars[8]? :=
  List.getElem?_append_left (by rw [card.length_eq]; decide)

theorem headerLine_skipped {card : Card} {rest : List UInt8}
    (hline : headerLine (card.chars ++ rest) = .ok .skipped) : card.keyword = none := by
  rcases headerLine_cases hline with ⟨-, hmark⟩ | ⟨-, ⟨hfailed, -⟩ | ⟨hdr, before, cval, hres, -⟩⟩
  · rw [getElem?_card] at hmark
    rw [Card.keyword, if_neg hmark]
  · cases hfailed
  · cases hres

/-- The key of a line is a slice of eight characters, blanks and all. -/
theorem headerLine_resolved {card : Card} {rest : List UInt8} {hdr : FitsHeader}
    (hline : headerLine (card.chars ++ rest) = .ok (.resolved hdr)) :
    card.keyword = some hdr.key ∧ hdr.value.type = .tchar32 := by
  rcases headerLine_cases hline with ⟨hskipped, -⟩ |
    ⟨hmark, ⟨hfailed, -⟩ | ⟨found, before, cval, hres, -, hkey, hvalue, -⟩⟩
  · cases hskipped
  · cases hfailed
  · obtain rfl := HeaderLine.resolved.inj hres
    have hslice := copyField_eq_ok hkey
    rw [boundedText_card card rest (by decide)] at hslice
    rw [getElem?_card] at hmark
    rw [Card.keyword, if_pos hmark, hvalue]
    exact ⟨congrArg some (Except.ok.inj hslice), rfl⟩

theorem headerLines_end {msgLen : UInt32} {rest : List UInt8} {lines offset : Nat}
    {headers : List FitsHeader} (hends : rest.head? = some 0 ∨ msgLen.toNat < offset)
    (hlines : headerLines msgLen lines offset rest = .ok (0, headers)) : headers = [] := by
  cases lines with
  | zero => cases hlines
  | succ lines =>
      rw [headerLines] at hlines
      split at hlines
      · cases hlines
      · rename_i first hfirst
        have hover : first = 0 ∨ msgLen.toNat < offset :=
          hends.imp_left fun hnul => Option.some.inj (hfirst.symm.trans hnul)
        rw [if_pos hover] at hlines
        exact (Prod.mk.inj (Except.ok.inj hlines)).2.symm

/-- Inside the message a card is one line, skipped or resolved. -/
theorem headerLines_card {msgLen : UInt32} {card : Card} {rest : List UInt8}
    {lines offset : Nat} {headers : List FitsHeader} (hinside : offset ≤ msgLen.toNat)
    (hlines : headerLines msgLen lines offset (card.chars ++ rest) = .ok (0, headers)) :
    ∃ fewer later, headerLines msgLen fewer (offset + headerSize) rest = .ok (0, later) ∧
      ((card.keyword = none ∧ headers = later) ∨
        ∃ hdr, card.keyword = some hdr.key ∧ hdr.value.type = .tchar32 ∧
          headers = hdr :: later) := by
  cases lines with
  | zero => cases hlines
  | succ lines =>
      have hdrop : (card.chars ++ rest).drop headerSize = rest := by
        rw [← card.length_eq, List.drop_left]
      rw [headerLines, hdrop] at hlines
      split at hlines
      · cases hlines
      · rename_i first hfirst
        have hgoes : ¬ (first = 0 ∨ msgLen.toNat < offset) := by
          rintro (hzero | hover)
          · rw [List.head?_append_of_ne_nil _ (List.ne_nil_of_length_pos
              (by rw [card.length_eq]; decide))] at hfirst
            exact card.nul_free (hzero ▸ List.mem_of_head? hfirst)
          · omega
        rw [if_neg hgoes] at hlines
        obtain ⟨line, hline, hlines⟩ := checked_bind_eq_ok.mp hlines
        cases line with
        | failed => simp [pure, Except.pure] at hlines
        | skipped =>
            exact ⟨lines, headers, hlines, Or.inl ⟨headerLine_skipped hline, rfl⟩⟩
        | resolved hdr =>
            obtain ⟨⟨status, later⟩, hlater, hlines⟩ := checked_bind_eq_ok.mp hlines
            obtain ⟨rfl, rfl⟩ := Prod.mk.inj (Except.ok.inj hlines)
            obtain ⟨hkey, htype⟩ := headerLine_resolved hline
            exact ⟨lines, later, hlater, Or.inr ⟨hdr, hkey, htype, rfl⟩⟩

/-- The lines that are header lines, in their order. -/
theorem headerLines_cards {msgLen : UInt32} {cards : List Card} {rest : List UInt8}
    {lines offset : Nat} {headers : List FitsHeader}
    (hreaches : offset + headerSize * cards.length ≤ msgLen.toNat + headerSize)
    (hends : rest.head? = some 0 ∨ msgLen.toNat < offset + headerSize * cards.length)
    (hlines : headerLines msgLen lines offset (cards.flatMap Card.chars ++ rest) =
      .ok (0, headers)) :
    headers.map headerScheme.key = cards.filterMap Card.keyword ∧
      ∀ hdr ∈ headers, hdr.value.type = .tchar32 := by
  induction cards generalizing lines offset headers with
  | nil =>
      rw [headerLines_end hends hlines]
      exact ⟨rfl, List.forall_mem_nil _⟩
  | cons card later ih =>
      rw [List.length_cons, Nat.mul_succ] at hreaches hends
      rw [List.flatMap_cons, List.append_assoc] at hlines
      obtain ⟨fewer, found, hfound, hcard⟩ := headerLines_card (by omega) hlines
      obtain ⟨hkeys, htypes⟩ :=
        ih (by omega) (hends.imp_right fun hlength => by omega) hfound
      rcases hcard with ⟨hkey, rfl⟩ | ⟨hdr, hkey, htype, rfl⟩
      · rw [List.filterMap_cons_none hkey]
        exact ⟨hkeys, htypes⟩
      · rw [List.filterMap_cons_some hkey, List.map_cons, hkeys]
        exact ⟨rfl, List.forall_mem_cons.mpr ⟨htype, htypes⟩⟩

theorem decodedStrToHeader_cards {memory rest : List UInt8} {msgLen : UInt32}
    {cards : List Card} {headers : List FitsHeader}
    (hcards : HoldsCards memory msgLen cards rest)
    (hdecoded : decodedStrToHeader memory msgLen = .ok (0, headers)) :
    headers.map headerScheme.key = cards.filterMap Card.keyword ∧
      ∀ hdr ∈ headers, hdr.value.type = .tchar32 := by
  rw [decodedStrToHeader, hcards.memory_eq] at hdecoded
  exact headerLines_cards (by rw [Nat.zero_add]; exact hcards.reaches)
    (by rw [Nat.zero_add]; exact hcards.ends) hdecoded

namespace FitsHeaders

/-- What `update(key, value, comment)` makes of its key. -/
def trimmedKey (call : HeaderCall) : Text := rtrim (call.key.dropWhile (· = 32))

/-- The calls bring their own keys, and leave no key twice. -/
theorem keys_updateCalls {calls : List HeaderCall} {headers table : FitsHeaders}
    (hcalls : updateCalls calls headers = .ok table)
    (hnodup : (headers.mvec.map headerScheme.key).Nodup) :
    (table.mvec.map headerScheme.key).Nodup ∧
      ∀ key, key ∈ table.mvec.map headerScheme.key ↔
        key ∈ headers.mvec.map headerScheme.key ∨ key ∈ calls.map trimmedKey := by
  induction calls generalizing headers with
  | nil =>
      rw [← Except.ok.inj hcalls]
      exact ⟨hnodup, by simp⟩
  | cons call rest ih =>
      obtain ⟨hdr, hcreate, hrest⟩ := checked_bind_eq_ok.mp hcalls
      have hmvec := (headers.update_spec hdr).2
      have hkeys : ∀ key, key ∈ (headers.update hdr).2.mvec.map headerScheme.key ↔
          key ∈ headers.mvec.map headerScheme.key ∨ key = trimmedKey call := by
        intro key
        rw [hmvec, trimmedKey, ← (createFitsHeader_spec hcreate).1]
        exact KeyedTable.mem_map_key_update
      have hupdated : ((headers.update hdr).2.mvec.map headerScheme.key).Nodup := by
        rw [hmvec]
        exact KeyedTable.nodup_map_key_update hnodup
      obtain ⟨htable, hmem⟩ := ih hrest hupdated
      refine ⟨htable, fun key => ?_⟩
      rw [hmem, hkeys, List.map_cons, List.mem_cons, or_assoc]

theorem keys_merge (stopIfError : Bool) (sizeHint : Nat) {hvec : List FitsHeader}
    (hchars : ∀ hdr ∈ hvec, hdr.value.type = .tchar32) :
    (((construct sizeHint).merge hvec stopIfError).2.mvec.map headerScheme.key).Nodup ∧
      ∀ key, key ∈ ((construct sizeHint).merge hvec stopIfError).2.mvec.map headerScheme.key ↔
        key ∈ hvec.map headerScheme.key := by
  have hmvec : ((construct sizeHint).merge hvec stopIfError).2.mvec =
      (KeyedTable.updateAll headerScheme hvec []).2 := by
    rw [merge]
    split
    · exact mergeLoop_of_type (by decide) hchars (List.forall_mem_nil _)
    · exact mergeLoop_of_type (by decide) hchars (List.forall_mem_nil _)
  rw [hmvec]
  refine ⟨KeyedTable.nodup_map_key_updateAll List.nodup_nil, fun key => ?_⟩
  rw [KeyedTable.mem_map_key_updateAll.trans (or_iff_right List.not_mem_nil)]

end FitsHeaders

/-- Keys denote one keyword when they are equal up to trailing blanks. -/
def OneEntryPerKeyword (table : FitsHeaders) : Prop :=
  (table.mvec.map fun entry => rtrim entry.key).Nodup

instance (table : FitsHeaders) : Decidable (OneEntryPerKeyword table) :=
  inferInstanceAs (Decidable (List.Nodup _))

theorem rtrim_rtrim (text : Text) : rtrim (rtrim text) = rtrim text :=
  List.rdropWhile_idempotent _ _

/-- Only blanks are trimmed. -/
theorem rtrim_append_blanks (text : Text) :
    rtrim text ++ List.replicate (text.length - (rtrim text).length) 32 = text := by
  induction text using List.reverseRecOn with
  | nil => rfl
  | append_singleton front last ih =>
      by_cases hblank : last = 32
      · have htrim : rtrim (front ++ [last]) = rtrim front :=
          List.rdropWhile_concat_pos _ _ _ (by simpa using hblank)
        have hlength := length_rtrim_le front
        rw [htrim, List.length_append, List.length_singleton, Nat.sub_add_comm hlength,
          List.replicate_succ', ← List.append_assoc, ih, hblank]
      · have htrim : rtrim (front ++ [last]) = front ++ [last] :=
          List.rdropWhile_concat_neg _ _ _ (by simpa using hblank)
        rw [htrim, Nat.sub_self, List.replicate_zero, List.append_nil]

theorem eq_of_rtrim_eq {first second : Text} (hlength : first.length = second.length)
    (htrim : rtrim first = rtrim second) : first = second := by
  rw [← rtrim_append_blanks first, htrim, hlength, rtrim_append_blanks]

theorem eq_rtrim_of_length {text : Text} (hlength : text.length ≤ (rtrim text).length) :
    rtrim text = text :=
  (List.rdropWhile_prefix _ _).eq_of_length_le hlength

/-- Decoded headers, merged into an empty table, and calls of `update` after them leave
one entry a keyword exactly when no call names a keyword of fewer than eight characters
that a header line carries too. -/
theorem oneEntryPerKeyword_iff {memory rest : List UInt8} {msgLen : UInt32}
    {cards : List Card} {decoded : List FitsHeader} {sizeHint : Nat} {stopIfError : Bool}
    {calls : List HeaderCall} {table : FitsHeaders}
    (hcards : HoldsCards memory msgLen cards rest)
    (hdecoded : decodedStrToHeader memory msgLen = .ok (0, decoded))
    (hcalls : FitsHeaders.updateCalls calls
      ((FitsHeaders.construct sizeHint).merge decoded stopIfError).2 = .ok table) :
    OneEntryPerKeyword table ↔
      ∀ key ∈ cards.filterMap Card.keyword, ∀ call ∈ calls,
        rtrim key = FitsHeaders.trimmedKey call → (rtrim key).length = 8 := by
  obtain ⟨hdecodedKeys, htypes⟩ := decodedStrToHeader_cards hcards hdecoded
  obtain ⟨hmergedNodup, hmergedMem⟩ := FitsHeaders.keys_merge stopIfError sizeHint htypes
  obtain ⟨hnodup, hmem⟩ := FitsHeaders.keys_updateCalls hcalls hmergedNodup
  simp only [hmergedMem, hdecodedKeys] at hmem
  have hkeys : table.mvec.map (fun entry => rtrim entry.key) =
      (table.mvec.map headerScheme.key).map rtrim := by
    rw [List.map_map]
    rfl
  have hsliced : ∀ key ∈ cards.filterMap Card.keyword, key.length = 8 := by
    intro key hkey
    obtain ⟨card, -, hcard⟩ := List.mem_filterMap.mp hkey
    exact Card.length_of_keyword hcard
  have htrimmed : ∀ key ∈ calls.map FitsHeaders.trimmedKey, rtrim key = key := by
    intro key hkey
    obtain ⟨call, -, rfl⟩ := List.mem_map.mp hkey
    exact rtrim_rtrim _
  rw [OneEntryPerKeyword, hkeys, List.nodup_map_iff_inj_on hnodup]
  simp only [hmem]
  constructor
  · intro hone key hkey call hcall hsame
    have heq := hone key (Or.inl hkey) (rtrim key) (Or.inr (hsame ▸ List.mem_map_of_mem hcall))
      (rtrim_rtrim _).symm
    rw [← heq]
    exact hsliced key hkey
  · intro hapart
    have hmixed : ∀ slice ∈ cards.filterMap Card.keyword,
        ∀ trimmed ∈ calls.map FitsHeaders.trimmedKey,
          rtrim slice = rtrim trimmed → slice = trimmed := by
      intro slice hslice trimmed hmemCalls hsame
      obtain ⟨call, hcall, rfl⟩ := List.mem_map.mp hmemCalls
      rw [htrimmed _ hmemCalls] at hsame
      have hlength := hapart slice hslice call hcall hsame
      rw [← hsame]
      exact (eq_rtrim_of_length ((hsliced slice hslice).trans hlength.symm).le).symm
    rintro first (hfirst | hfirst) second (hsecond | hsecond) hsame
    · exact eq_of_rtrim_eq (by rw [hsliced first hfirst, hsliced second hsecond]) hsame
    · exact hmixed first hfirst second hsecond hsame
    · exact (hmixed second hsecond first hfirst hsame.symm).symm
    · rw [← htrimmed first hfirst, ← htrimmed second hsecond, hsame]

/-- `OBJECT  = 'M31     '           / Target`, filled up with blanks. -/
def objectCard : Card where
  chars := ascii "OBJECT  = 'M31     '           / Target" ++ List.replicate 41 32
  length_eq := by decide
  nul_free := by decide

def objectMemory : List UInt8 := objectCard.chars ++ [0]

def objectHeader : FitsHeader where
  key := ascii "OBJECT  "
  comment := ascii " Target" ++ List.replicate 41 32
  key_fits := by decide
  comment_fits := by decide
  value := .cval (ascii "M31     '           ") (by decide)

theorem objectMemory_holds : HoldsCards objectMemory 79 [objectCard] [0] where
  memory_eq := by decide +kernel
  reaches := by decide
  ends := Or.inl rfl

theorem decoded_objectMemory : decodedStrToHeader objectMemory 79 = .ok (0, [objectHeader]) := by
  decide +kernel

def namedCall (key : Text) : HeaderCall where
  key := key
  value := .cval (ascii "M33") (by decide)
  comment := []
  typed := by decide

theorem noComment_fits : ([] : Text).length < fitsHeaderCommentChars := by decide

def namedHeader (key : Text) (hfits : key.length < fitsHeaderKeynameChars) : FitsHeader where
  key := key
  comment := []
  key_fits := hfits
  comment_fits := noComment_fits
  value := .cval (ascii "M33") (by decide)

def twoEntries (second : FitsHeader) : FitsHeaders where
  mvec := [objectHeader, second]
  capacity := 100
  length_le := by simp

theorem oneEntryPerKeyword_observer :
    OneEntryPerKeyword (twoEntries (namedHeader (ascii "OBSERVER") (by decide))) ↔
      ∀ key ∈ [objectCard].filterMap Card.keyword, ∀ call ∈ [namedCall (ascii "OBSERVER")],
        rtrim key = FitsHeaders.trimmedKey call → (rtrim key).length = 8 := by
  have hcalls : FitsHeaders.updateCalls [namedCall (ascii "OBSERVER")]
      ((FitsHeaders.construct 100).merge [objectHeader] true).2 =
        .ok (twoEntries (namedHeader (ascii "OBSERVER") (by decide))) := by
    decide +kernel
  exact oneEntryPerKeyword_iff objectMemory_holds decoded_objectMemory hcalls

/-- The card and the call for one object leave two entries. -/
theorem object_twice :
    ¬ ∀ (memory rest : List UInt8) (msgLen : UInt32) (cards : List Card)
      (decoded : List FitsHeader) (calls : List HeaderCall) (table : FitsHeaders),
      HoldsCards memory msgLen cards rest →
      decodedStrToHeader memory msgLen = .ok (0, decoded) →
      FitsHeaders.updateCalls calls ((FitsHeaders.construct 100).merge decoded true).2 =
        .ok table →
      OneEntryPerKeyword table := by
  intro hone
  have htwice := hone objectMemory [0] 79 [objectCard] [objectHeader]
    [namedCall (ascii "OBJECT")] (twoEntries (namedHeader (ascii "OBJECT") (by decide)))
    objectMemory_holds decoded_objectMemory (by decide +kernel)
  exact absurd htwice (by decide)

end Andor2k
