/-
The headers of the FCC from its reply to the FITS file: the cards it has compressed,
encoded and set into a message come out of get_aristarchos_headers one by one, and
setup_acquisition and save_as_fits carry them into the file.
-/
import Andor2k.AristarchosHeaders
import Andor2k.CameraSettings
import Andor2k.HeaderCards
import Andor2k.SaveAsFits

namespace Andor2k

open CText

def cardText (cards : List FittingCard) : Text := cards.flatMap fun card => card.chars

theorem length_cardText (cards : List FittingCard) :
    (cardText cards).length = headerSize * cards.length := by
  rw [cardText, List.length_flatMap, List.map_congr_left (fun card _ => card.length_eq),
    List.map_const', List.sum_replicate_nat, Nat.mul_comm]

/-- A reply that brings cards: their text, compressed to full triples of bytes, is encoded
and set between `BF=` and a semicolon. -/
structure CardReply (decompress : Decompress) (cards : List FittingCard) where
  front : Text
  packed : List UInt8
  suffix : List UInt8
  front_nul : 0 ∉ front
  front_free : ¬ blockStart <:+: front
  packed_full : packed.length % 3 = 0
  unpacks : decompress packed bz2BufferSize = (0, cardText cards)
  fits : (front ++ (blockStart ++ (base64encode packed ++ ([blockEnd] ++ suffix)))).length ≤
    aristarchosMaxHeaderSize

variable {decompress : Decompress} {cards : List FittingCard}

def CardReply.bytes (reply : CardReply decompress cards) : List UInt8 :=
  reply.front ++ (blockStart ++ (base64encode reply.packed ++ ([blockEnd] ++ reply.suffix)))

theorem CardReply.bytes_pos (reply : CardReply decompress cards) : 0 < reply.bytes.length := by
  rw [bytes, List.length_append, List.length_append]
  exact Nat.lt_of_lt_of_le (Nat.succ_pos 2)
    ((Nat.le_add_right _ _).trans (Nat.le_add_left _ _))

theorem CardReply.packed_short (reply : CardReply decompress cards) :
    reply.packed.length ≤ maxPlainLength := by
  have hfits := reply.fits
  have hfull := reply.packed_full
  rw [List.length_append, List.length_append, List.length_append,
    (base64encode_full hfull).1, aristarchosMaxHeaderSize] at hfits
  rw [maxPlainLength]
  omega

theorem CardReply.bytes_fit (reply : CardReply decompress cards) :
    reply.bytes.length ≤ aristarchosMaxHeaderSize :=
  reply.fits

/-- What the FCC answers to the last command. -/
def CardReply.answer (reply : CardReply decompress cards) : FccReply :=
  .received reply.bytes reply.bytes_pos reply.bytes_fit

/-- A loop that completes its commands ends with the reply to the last of them. -/
theorem commandLoop_header (exchange : Nat → FccExchange) {start : Nat}
    {front : List AristrachosCommand} {last : AristrachosCommand} {state : RequestState}
    (hwait : ∀ cmd ∈ front, cmd.waitReply = 0 ∨ cmd.waitReply = 1 ∨ cmd.waitReply = 2)
    (hdone : ∀ i cmd, (front ++ [last])[i]? = some cmd →
      ExchangeComplete cmd (exchange (start + i)))
    (hlast : last.waitReply ≠ 0) {bytes : List UInt8} {nonempty : 0 < bytes.length}
    {fits : bytes.length ≤ aristarchosMaxHeaderSize}
    (hreply : (exchange (start + front.length)).reply = .received bytes nonempty fits) :
    (commandLoop exchange start (front ++ [last]) state).header = receivedBuffer bytes fits := by
  induction front generalizing start state with
  | nil =>
      have hsent : ¬ (exchange start).btSent ≤ 0 := by
        have hcomplete := hdone 0 last rfl
        exact Int.not_le.mpr hcomplete.sent
      have hheader : (sendCommand last (exchange start) state).2.header =
          receivedBuffer bytes fits := by
        rw [List.length_nil, Nat.add_zero] at hreply
        unfold sendCommand
        dsimp only
        rw [if_neg hsent, if_pos hlast, hreply, awaitReply]
        dsimp only
        split <;> rfl
      rw [List.nil_append, commandLoop]
      split
      · rename_i after hsend
        rw [hsend] at hheader
        exact hheader
      · rename_i after hsend
        rw [hsend] at hheader
        exact hheader
  | cons cmd rest ih =>
      obtain ⟨hcmd, hrest⟩ := List.forall_mem_cons.mp hwait
      have hgoes := ((sendCommand_spec (exchange start) state hcmd).1 (hdone 0 cmd rfl)).1
      rw [List.cons_append, commandLoop]
      split
      · rename_i after hsend
        rw [hsend] at hgoes
        cases hgoes
      · refine ih hrest (fun i later hlater => ?_) ?_
        · have hnext := hdone (i + 1) later hlater
          rwa [Nat.add_assoc, Nat.add_comm 1 i]
        · rwa [Nat.add_assoc, Nat.add_comm 1 rest.length]

/-- A complete first try brings its last reply. -/
theorem sendRequestHeaderSequence_header {fcc : Nat → FccTry} (hcomplete : TryComplete (fcc 0))
    {bytes : List UInt8} {nonempty : 0 < bytes.length}
    {fits : bytes.length ≤ aristarchosMaxHeaderSize}
    (hreply : ((fcc 0).exchange 3).reply = .received bytes nonempty fits) {maxTries : Int}
    (htries : 1 ≤ maxTries) (header : HeaderBuffer) :
    (sendRequestHeaderSequence fcc maxTries header).header =
      some (receivedBuffer bytes fits) := by
  have hconnected : ¬ clientSocketStatus (fcc 0) < 0 := by
    obtain ⟨hsockid, hconnect⟩ := hcomplete.connected
    unfold clientSocketStatus
    rw [if_neg (Int.not_lt.mpr hsockid), if_neg (Int.not_lt.mpr hconnect)]
    exact Int.not_lt.mpr hconnect
  have hsequence : cmdSequence = cmdSequence.take 3 ++ [cmdSequence[3]] := rfl
  have hloop : (commandLoop (fcc 0).exchange 0 cmdSequence ⟨1, 0, header⟩).header =
      receivedBuffer bytes fits := by
    rw [hsequence]
    apply commandLoop_header
    · intro cmd hcmd
      exact waitReply_of_mem_cmdSequence (List.mem_of_mem_take hcmd)
    · intro i cmd hcmd
      rw [Nat.zero_add]
      exact hcomplete.exchanges i cmd hcmd
    · exact Int.one_ne_zero
    · exact hreply
  rw [sendRequestHeaderSequence_eq fcc htries header, runTry]
  dsimp only
  rw [if_neg hconnected]
  exact congrArg some hloop

theorem receivedBuffer_bytes {bytes : List UInt8}
    (fits : bytes.length ≤ aristarchosMaxHeaderSize) :
    (receivedBuffer bytes fits).bytes =
      bytes ++ List.replicate (aristarchosMaxHeaderSize - bytes.length) 0 := by
  simp [receivedBuffer, overlay, CharArray.zero]

/-- Whatever is behind the block, its text comes out of it. -/
theorem CardReply.decoded (reply : CardReply decompress cards) :
    decodeMessage decompress (receivedBuffer reply.bytes reply.bytes_fit).bytes bz2BufferSize =
      .ok ⟨some reply.packed, some (cardText cards)⟩ := by
  obtain ⟨hlen, hdecoded⟩ := base64decode_encoded reply.packed_full reply.packed_short
  have hbuffer : decodeBuffer (reply.packed.length + 1) (reply.packed ++ [0]) =
      .ok (reply.packed ++ [0]) := by
    apply decodeBuffer_full
    rw [List.length_append, List.length_singleton]
    push_cast
    rfl
  have hbts : ¬ (reply.packed.length : Int) ≠ reply.packed.length + 1 - 1 := by omega
  have hunpacked : decompressed decompress bz2BufferSize reply.packed =
      ⟨some reply.packed, some (cardText cards)⟩ := by
    rw [decompressed, reply.unpacks]
    exact if_pos rfl
  rw [receivedBuffer_bytes, CardReply.bytes]
  simp only [List.append_assoc]
  rw [decodeMessage_eq decompress bz2BufferSize reply.front_nul reply.front_free
    fun char hchar => ne_of_mem_base64encode hchar, checked_bind_ok hlen,
    checked_bind_ok hdecoded]
  dsimp only
  rw [checked_bind_ok hbuffer, if_neg hbts, Int.toNat_natCast, List.take_left, hunpacked]
  rfl

/-- The first try fetches the text and leaves it in front of the buffer. -/
theorem CardReply.headersTry (reply : CardReply decompress cards)
    (hroom : (cardText cards).length ≤ bz2BufferSize) {fcc : Nat → FccTry}
    (hcomplete : TryComplete (fcc 0)) (hreply : ((fcc 0).exchange 3).reply = reply.answer)
    {numTries : Int} (htries : 1 ≤ numTries) (asciiBuf : AsciiBuffer) :
    ∃ written : AsciiBuffer,
      headersTry decompress fcc numTries asciiBuf = .ok (some (cardText cards), written) ∧
      written.bytes = cardText cards ++ asciiBuf.bytes.drop (cardText cards).length := by
  obtain ⟨written, hwritten, hbytes⟩ : ∃ written, asciiBuf.write (cardText cards) = .ok written ∧
      written.bytes = cardText cards ++ asciiBuf.bytes.drop (cardText cards).length := by
    rw [AsciiBuffer.write, dif_pos hroom]
    exact ⟨_, rfl, by simp [overlay]⟩
  refine ⟨written, ?_, hbytes⟩
  unfold Andor2k.headersTry
  rw [sendRequestHeaderSequence_header hcomplete hreply htries]
  dsimp only
  rw [checked_bind_ok reply.decoded]
  dsimp only
  rw [reply.unpacks, checked_bind_ok hwritten]
  rfl

/-- The cards of a complete first request come out as headers, in their order; what was in
the buffer and in the vector does not matter, nor do the tries that are left. -/
theorem cards_come_out (reply : CardReply decompress cards) (hsome : cards ≠ [])
    (hroom : (cardText cards).length ≤ bz2BufferSize) {fcc : Nat → Nat → FccTry}
    (hcomplete : TryComplete (fcc 0 0))
    (hreply : ((fcc 0 0).exchange 3).reply = reply.answer) {numTries : Int}
    (htries : 1 ≤ numTries) (asciiBuf : AsciiBuffer) (headers : List FitsHeader) :
    getAristarchosHeaders decompress fcc numTries asciiBuf headers =
      .ok (0, cards.filterMap FittingCard.header) := by
  obtain ⟨written, htry, hbytes⟩ :=
    reply.headersTry hroom hcomplete hreply htries asciiBuf
  obtain ⟨left, hleft⟩ : ∃ left, numTries.toNat = left + 1 := ⟨numTries.toNat - 1, by omega⟩
  have hloop : headersLoop decompress fcc numTries numTries.toNat 0 asciiBuf =
      .ok (some (cardText cards), written) := by
    rw [hleft, headersLoop, checked_bind_ok htry]
    rfl
  have hcount := length_cardText cards
  have hpos : 0 < cards.length := List.length_pos_iff.mpr hsome
  -- the size of the buffer is no multiple of that of a card, so a byte is left behind the text
  have hbehind : (cardText cards).length < asciiBuf.bytes.length := by
    rw [asciiBuf.length_bytes, hcount, headerSize, bz2BufferSize]
    rw [hcount, headerSize, bz2BufferSize] at hroom
    omega
  obtain ⟨next, rest, hrest⟩ : ∃ next rest,
      asciiBuf.bytes.drop (cardText cards).length = next :: rest :=
    List.exists_cons_of_ne_nil (List.ne_nil_of_length_pos (by
      rw [List.length_drop]
      exact Nat.sub_pos_of_lt hbehind))
  have hlength : (UInt32.ofNat (cardText cards).length - 1).toNat + 1 =
      0 + headerSize * cards.length := by
    rw [Nat.zero_add, ← hcount]
    exact toNat_textLength (by rw [hcount, headerSize]; omega) hroom
  have hlines : cards.length < (cardText cards ++ next :: rest).length := by
    rw [List.length_append, List.length_cons, hcount, headerSize]
    omega
  rw [getAristarchosHeaders, checked_bind_ok hloop]
  dsimp only
  rw [hbytes, hrest, decodedStrToHeader]
  exact headerLines_fittingCards hlength hlines

def focusCard : FittingCard where
  chars := ascii "FOCUS   =  12.5       / [mm]" ++ List.replicate 52 32
  length_eq := by decide
  nul_free := by decide
  slash_fits := by decide

/-- The card as bzip2 packs it. -/
def packedFocus : List UInt8 :=
  [66, 90, 104, 57, 49, 65, 89, 38, 83, 89, 140, 153, 174, 181, 0, 0, 11, 223, 0, 8, 0, 64,
   1, 242, 2, 9, 0, 138, 10, 0, 2, 32, 0, 49, 67, 77, 48, 0, 53, 50, 13, 30, 166, 38, 136, 3,
   121, 97, 10, 0, 197, 174, 15, 22, 59, 19, 57, 161, 95, 23, 114, 69, 56, 80, 144, 140, 153,
   174, 181]

/-- A decompressor that knows one input; to it any other is no data (`BZ_DATA_ERROR_MAGIC`). -/
def focusDecompress : Decompress := fun bytes _ =>
  if bytes = packedFocus then (0, cardText [focusCard]) else (-5, [])

def focusReply : CardReply focusDecompress [focusCard] where
  front := ascii "0132"
  packed := packedFocus
  suffix := []
  front_nul := by decide
  front_free := by decide
  packed_full := by decide
  unpacks := by rw [focusDecompress, if_pos rfl]
  fits := by decide +kernel

/-- Every command is met with the card. -/
def focusFcc : FccTry := ⟨3, 0, fun _ => ⟨10, focusReply.answer⟩⟩

theorem focusFcc_complete : TryComplete focusFcc := by
  have haccepted : focusReply.answer.Accepted :=
    Or.inr ⟨by decide +kernel, by decide +kernel⟩
  refine ⟨⟨by decide, by decide⟩, ?_⟩
  intro i cmd _
  have hsent : 0 < (10 : Int) := by decide
  exact ⟨hsent, fun _ => haccepted, fun _ => Or.inl haccepted⟩

theorem focusCard_comes_out :
    getAristarchosHeaders focusDecompress (fun _ _ => focusFcc) 3 (CharArray.zero _) [] =
      .ok (0, [focusCard].filterMap FittingCard.header) :=
  cards_come_out focusReply (List.cons_ne_nil _ _) (by decide) focusFcc_complete rfl
    (by decide) _ _

/-- What is decoded are strings. -/
theorem type_of_headerLines {msgLen : UInt32} {lines offset : Nat} {start : List UInt8}
    {status : Int} {headers : List FitsHeader}
    (hlines : headerLines msgLen lines offset start = .ok (status, headers)) :
    ∀ hdr ∈ headers, hdr.value.type = .tchar32 := by
  induction lines generalizing offset start headers with
  | zero => cases hlines
  | succ lines ih =>
      cases hfirst : start.head? with
      | none =>
          rw [headerLines, hfirst] at hlines
          cases hlines
      | some first =>
          by_cases hstops : first = 0 ∨ msgLen.toNat < offset
          · have hover : start.head? = some 0 ∨ msgLen.toNat < offset :=
              hstops.imp_left fun hnul => by rw [hfirst, hnul]
            rw [(headerLines_over hover hlines).2.1]
            exact List.forall_mem_nil _
          · rcases (headerLines_succ hfirst hstops).mp hlines with ⟨-, -, rfl⟩ |
              ⟨-, htail⟩ | ⟨hdr, later, hline, rfl, htail⟩
            · exact List.forall_mem_nil _
            · exact ih htail
            · obtain ⟨field, post, htext⟩ := HeaderText.of_resolved hline
              obtain ⟨hfits, hvalue⟩ := htext.value
              refine List.forall_mem_cons.mpr ⟨?_, ih htail⟩
              rw [hvalue]
              rfl

theorem type_of_getAristarchosHeaders {fcc : Nat → Nat → FccTry} {numTries : Int}
    {asciiBuf : AsciiBuffer} {fetched : Int} {headers : List FitsHeader}
    (hfetched : getAristarchosHeaders decompress fcc numTries asciiBuf [] =
      .ok (fetched, headers)) :
    ∀ hdr ∈ headers, hdr.value.type = .tchar32 := by
  obtain ⟨⟨asciiStr, buffer⟩, -, hresult⟩ := checked_bind_eq_ok.mp hfetched
  cases asciiStr with
  | none =>
      obtain ⟨-, rfl⟩ := Prod.mk.inj (Except.ok.inj hresult)
      exact List.forall_mem_nil _
  | some text => exact type_of_headerLines hresult

/-- Without a try there are no headers. -/
theorem tries_of_getAristarchosHeaders {fcc : Nat → Nat → FccTry} {tries : Int32}
    {asciiBuf : AsciiBuffer} {fetched : Int} {headers : List FitsHeader}
    (hfetched : getAristarchosHeaders decompress fcc tries.toInt asciiBuf [] =
      .ok (fetched, headers)) (hsome : headers ≠ []) : 0 < tries := by
  by_contra hnone
  have hzero : tries.toInt.toNat = 0 := by
    rw [Int32.not_lt, Int32.le_iff_toInt_le] at hnone
    exact Int.toNat_of_nonpos hnone
  rw [getAristarchosHeaders, hzero] at hfetched
  exact hsome (Prod.mk.inj (Except.ok.inj hfetched)).2.symm

/-- Strings under different keys are merged into an empty table as they come. -/
theorem mergeArHeaders_mvec {params : AndorParameters} {answers : SetupAnswers}
    (hstrings : ∀ hdr ∈ answers.arHeaders, hdr.value.type = .tchar32)
    (hkeys : (answers.arHeaders.map headerScheme.key).Nodup)
    (htries : answers.arHeaders ≠ [] → 0 < params.arHdrTries) (sizeHint : Nat) :
    (mergeArHeaders params answers (FitsHeaders.construct sizeHint)).2.mvec =
      answers.arHeaders := by
  by_cases hnone : answers.arHeaders = []
  · rw [mergeArHeaders, if_neg fun hboth => hboth.2 hnone, hnone]
    rfl
  · have hmerged : ∀ headers : FitsHeaders, headers.mvec = [] →
        (FitsHeaders.mergeLoop true 0 0 answers.arHeaders headers).2.mvec =
          answers.arHeaders := by
      intro headers hempty
      have hnodup : (([] ++ answers.arHeaders).map headerScheme.key).Nodup := hkeys
      have hknown : ValueType.tchar32 ≠ .unknown := by rintro ⟨⟩
      rw [FitsHeaders.mergeLoop_of_type hknown hstrings (by rw [hempty]; simp), hempty,
        KeyedTable.updateAll_of_nodup hnodup, List.nil_append]
    have htable : ((FitsHeaders.construct sizeHint).merge answers.arHeaders true).2.mvec =
        answers.arHeaders := by
      rw [FitsHeaders.merge]
      split
      · exact hmerged _ rfl
      · exact hmerged _ rfl
    rw [mergeArHeaders, if_pos ⟨htries hnone, hnone⟩]
    dsimp only
    split
    · exact htable
    · exact htable

/-- The keywords `setup_acquisition` writes itself. -/
def ownKey (key : Text) : Bool :=
  key ∈ ["HSSPEED", "VSSPEED", "GAIN", "OBSERVER", "EXPOSED", "EXPTIME", "VBIN", "HBIN",
    "INSTRUME", "OBJECT", "FILTER", "TIMECORR", "CCDTEMP"].map ascii

theorem ownKey_of_createFitsHeader {value : HeaderValue} {key comment : Text}
    {hdr : FitsHeader} (hcreate : createFitsHeader value key comment = .ok hdr)
    (hown : ownKey (rtrim (key.dropWhile (· = 32))) = true) : ownKey hdr.key = true := by
  rw [(createFitsHeader_spec hcreate).1]
  exact hown

theorem ownKey_of_createFitsHeaderChars {key val comment : Text} {hdr : FitsHeader}
    (hcreate : createFitsHeaderChars key val comment = .ok hdr)
    (hown : ownKey (rtrim (key.dropWhile (· = 32))) = true) : ownKey hdr.key = true := by
  unfold createFitsHeaderChars at hcreate
  split at hcreate
  · exact ownKey_of_createFitsHeader hcreate hown
  · cases hcreate

/-- The table still carries what was merged into it. -/
def CarriesHeaders (base : List FitsHeader) (headers : FitsHeaders) : Prop :=
  KeyedTable.Carries headerScheme ownKey base headers.mvec

theorem CarriesHeaders.update {base : List FitsHeader} {headers : FitsHeaders}
    {hdr : FitsHeader} (hcarries : CarriesHeaders base headers)
    (hown : ownKey hdr.key = true) : CarriesHeaders base (headers.update hdr).2 := by
  rw [CarriesHeaders, (headers.update_spec hdr).2]
  exact KeyedTable.Carries.update hcarries hown

-- with update kept closed, every step of the function only names the entry it creates
seal FitsHeaders.update in
theorem cameraHeaders_carries {params : AndorParameters} {answers : SetupAnswers}
    {size : Nat × Nat} {headers after : FitsHeaders} {status : Int} {base : List FitsHeader}
    (hcamera : cameraHeaders params answers size headers = .ok (status, after))
    (hcarries : CarriesHeaders base headers) : CarriesHeaders base after := by
  unfold cameraHeaders at hcamera
  split at hcamera
  · rw [← (Prod.mk.inj (Except.ok.inj hcamera)).2]
    exact hcarries
  obtain ⟨hsspeed, hhsspeed, hcamera⟩ := checked_bind_eq_ok.mp hcamera
  obtain ⟨vsspeed, hvsspeed, hcamera⟩ := checked_bind_eq_ok.mp hcamera
  have hspeeds := (hcarries.update
    (ownKey_of_createFitsHeader hhsspeed (by decide +kernel))).update
    (ownKey_of_createFitsHeader hvsspeed (by decide +kernel))
  dsimp only at hcamera
  split at hcamera
  · rw [← (Prod.mk.inj (Except.ok.inj hcamera)).2]
    exact hspeeds
  obtain ⟨gain, hgain, hcamera⟩ := checked_bind_eq_ok.mp hcamera
  obtain ⟨observerText, -, hcamera⟩ := checked_bind_eq_ok.mp hcamera
  obtain ⟨observer, hobserver, hcamera⟩ := checked_bind_eq_ok.mp hcamera
  obtain ⟨exposed, hexposed, hcamera⟩ := checked_bind_eq_ok.mp hcamera
  obtain ⟨exptime, hexptime, hcamera⟩ := checked_bind_eq_ok.mp hcamera
  obtain ⟨vbin, hvbin, hcamera⟩ := checked_bind_eq_ok.mp hcamera
  obtain ⟨hbin, hhbin, hcamera⟩ := checked_bind_eq_ok.mp hcamera
  obtain ⟨instrume, hinstrume, hcamera⟩ := checked_bind_eq_ok.mp hcamera
  obtain ⟨objectText, -, hcamera⟩ := checked_bind_eq_ok.mp hcamera
  obtain ⟨object, hobject, hcamera⟩ := checked_bind_eq_ok.mp hcamera
  obtain ⟨filterText, -, hcamera⟩ := checked_bind_eq_ok.mp hcamera
  obtain ⟨filter, hfilter, hcamera⟩ := checked_bind_eq_ok.mp hcamera
  obtain ⟨startTimeCor, -, hcamera⟩ := checked_bind_eq_ok.mp hcamera
  obtain ⟨timecorr, htimecorr, hcamera⟩ := checked_bind_eq_ok.mp hcamera
  have hgained : CarriesHeaders base (if answers.factor.isNonNegative then
      (((headers.update hsspeed).2.update vsspeed).2.update gain).2
      else ((headers.update hsspeed).2.update vsspeed).2) := by
    split
    · exact hspeeds.update (ownKey_of_createFitsHeader hgain (by decide +kernel))
    · exact hspeeds
  have hstrings := ((((((((((hgained.update
    (ownKey_of_createFitsHeaderChars hobserver (by decide +kernel))).update
    (ownKey_of_createFitsHeader hexposed (by decide +kernel))).update
    (ownKey_of_createFitsHeader hexptime (by decide +kernel))).update
    (ownKey_of_createFitsHeader hvbin (by decide +kernel))).update
    (ownKey_of_createFitsHeader hhbin (by decide +kernel))).update
    (ownKey_of_createFitsHeaderChars hinstrume (by decide +kernel))).update
    (ownKey_of_createFitsHeaderChars hobject (by decide +kernel))).update
    (ownKey_of_createFitsHeaderChars hfilter (by decide +kernel))).update
    (ownKey_of_createFitsHeader htimecorr (by decide +kernel))))
  by_cases hstable : answers.getTemperatureF = .tempStabilized
  · replace hcamera := (if_neg (not_not.mpr hstable)).symm.trans hcamera
    obtain ⟨ccdtemp, hccdtemp, hcamera⟩ := checked_bind_eq_ok.mp hcamera
    rw [← (Prod.mk.inj (Except.ok.inj hcamera)).2]
    exact hstrings.update (ownKey_of_createFitsHeader hccdtemp (by decide +kernel))
  · replace hcamera := (if_pos hstable).symm.trans hcamera
    rw [← (Prod.mk.inj (Except.ok.inj hcamera)).2]
    exact hstrings

/-- What is handed over for the entries of a table is handed over in front. -/
theorem applyLoop_append {cfitsio : CfitsioAnswers} {index : Nat} {applied errors : Int}
    {front : List FitsHeader}
    (hcases : ∀ hdr ∈ front, FitsImage.hasCase hdr.value.type = true)
    (hupdates : ∀ turn < front.length, -99 ≤ cfitsio.updateKey (index + turn))
    (back : List FitsHeader) :
    ∃ next applied' errors',
      (FitsImage.applyLoop cfitsio false index applied errors (front ++ back)).2 =
        front.map KeyUpdate.ofHeader ++
          (FitsImage.applyLoop cfitsio false next applied' errors' back).2 := by
  induction front generalizing index applied errors with
  | nil => exact ⟨index, applied, errors, rfl⟩
  | cons hdr rest ih =>
      obtain ⟨hcase, hrest⟩ := List.forall_mem_cons.mp hcases
      have hgo : -99 ≤ cfitsio.updateKey index := hupdates 0 (Nat.succ_pos _)
      obtain ⟨applied', errors', hturn⟩ :=
        applyLoop_of_le_status applied errors (rest ++ back) hcase hgo
      obtain ⟨next, applied'', errors'', hlater⟩ := ih hrest fun turn hlt => by
        have hnext := hupdates (turn + 1) (Nat.succ_lt_succ hlt)
        rwa [Nat.add_comm turn, ← Nat.add_assoc] at hnext
      exact ⟨next, applied'', errors'', by rw [List.cons_append, hturn, hlater]; rfl⟩

/-- Nothing is handed over but entries. -/
theorem mem_of_mem_applyLoop {cfitsio : CfitsioAnswers} {index : Nat} {applied errors : Int}
    {entries : List FitsHeader} {call : KeyUpdate}
    (hcall : call ∈ (FitsImage.applyLoop cfitsio false index applied errors entries).2) :
    ∃ hdr ∈ entries, call = KeyUpdate.ofHeader hdr := by
  induction entries generalizing index applied errors with
  | nil => cases hcall
  | cons hdr rest ih =>
      cases hcase : FitsImage.hasCase hdr.value.type with
      | false =>
          rw [applyLoop_of_not_hasCase cfitsio false index applied errors rest hcase] at hcall
          cases hcall
      | true =>
          rcases Int.lt_or_le (cfitsio.updateKey index) (-99) with hstop | hgo
          · rw [applyLoop_of_status_lt false applied errors rest hcase hstop] at hcall
            exact ⟨hdr, List.mem_cons_self, List.mem_singleton.mp hcall⟩
          · obtain ⟨applied', errors', hturn⟩ :=
              applyLoop_of_le_status applied errors rest hcase hgo
            rw [hturn] at hcall
            rcases List.mem_cons.mp hcall with hfirst | hlater
            · exact ⟨hdr, List.mem_cons_self, hfirst⟩
            · obtain ⟨other, hother, hsame⟩ := ih hlater
              exact ⟨other, List.mem_cons_of_mem hdr hother, hsame⟩

/-- A table that carries strings hands them over, whatever becomes of the rest of it. -/
theorem applyHeaders_carries {cfitsio : CfitsioAnswers} {headers : FitsHeaders}
    {base : List FitsHeader} (hcarries : CarriesHeaders base headers)
    (hstrings : ∀ hdr ∈ base, hdr.value.type = .tchar32)
    (hupdates : ∀ turn < base.length, -99 ≤ cfitsio.updateKey turn) :
    (FitsImage.applyHeaders cfitsio headers false).2.filter
        (fun call => !ownKey call.keyname) =
      (base.filter fun hdr => !ownKey hdr.key).map KeyUpdate.ofHeader := by
  obtain ⟨front, back, hmvec, hlabels, hkept, hback⟩ := hcarries
  have hlength : front.length = base.length := by
    have hcount := congrArg List.length hlabels
    rwa [List.length_map, List.length_map] at hcount
  have hcases : ∀ hdr ∈ front, FitsImage.hasCase hdr.value.type = true := by
    intro hdr hmem
    have hlabel : headerScheme.label hdr ∈ front.map headerScheme.label :=
      List.mem_map_of_mem hmem
    rw [hlabels] at hlabel
    obtain ⟨other, hother, hsame⟩ := List.mem_map.mp hlabel
    have htype : other.value.type = hdr.value.type := (Prod.mk.inj hsame).2
    rw [← htype, hstrings other hother]
    rfl
  have hfront : ∀ turn < front.length, -99 ≤ cfitsio.updateKey (0 + turn) := by
    intro turn hlt
    rw [Nat.zero_add]
    exact hupdates turn (hlength ▸ hlt)
  obtain ⟨next, applied, errors, hcalls⟩ :
      ∃ next applied errors, (FitsImage.applyLoop cfitsio false 0 0 0 (front ++ back)).2 =
        front.map KeyUpdate.ofHeader ++
          (FitsImage.applyLoop cfitsio false next applied errors back).2 :=
    applyLoop_append hcases hfront back
  have hown : (FitsImage.applyLoop cfitsio false next applied errors back).2.filter
      (fun call => !ownKey call.keyname) = [] := by
    rw [List.filter_eq_nil_iff]
    intro call hcall
    obtain ⟨hdr, hmem, rfl⟩ := mem_of_mem_applyLoop hcall
    have hkey : ownKey hdr.key = true := hback hdr hmem
    simp [KeyUpdate.ofHeader, hkey]
  rw [FitsImage.applyHeaders, hmvec, hcalls, List.filter_append, hown, List.append_nil,
    List.filter_map]
  exact congrArg (List.map KeyUpdate.ofHeader) hkept

/-- The headers that were fetched are in the file, in their order and as they came, but for
those under keywords of the camera; under the other keywords there is nothing else. -/
theorem fetched_headers_reach_file {params : AndorParameters} {answers : SetupAnswers}
    {fcc : Nat → Nat → FccTry} {asciiBuf : AsciiBuffer} {fetched : Int}
    (hfetched : getAristarchosHeaders decompress fcc params.arHdrTries.toInt asciiBuf [] =
      .ok (fetched, answers.arHeaders))
    (hkeys : (answers.arHeaders.map fun hdr => hdr.key).Nodup) {sizeHint : Nat} {setup : Setup}
    (hsetup : setupAcquisition params answers (FitsHeaders.construct sizeHint) = .ok setup)
    (hzero : setup.status = 0) {surroundings : Surroundings} {cfitsio : CfitsioAnswers}
    (hupdates : ∀ turn < answers.arHeaders.length, -99 ≤ cfitsio.updateKey turn)
    {xpixels ypixels : Nat} {imgBuffer : List Int32} {saved : SavedExposure}
    (hsaved : saveAsFits params surroundings cfitsio setup.headers xpixels ypixels imgBuffer =
      .ok saved)
    (hwritten : saved.status = 0) :
    saved.keys.filter (fun call => !ownKey call.keyname) =
      (answers.arHeaders.filter fun hdr => !ownKey hdr.key).map KeyUpdate.ofHeader := by
  have hstrings := type_of_getAristarchosHeaders hfetched
  obtain ⟨-, size, -, hcamera⟩ := setup_succeeded hsetup hzero
  have hcarries : CarriesHeaders answers.arHeaders setup.headers := by
    refine cameraHeaders_carries hcamera ?_
    rw [CarriesHeaders,
      mergeArHeaders_mvec hstrings hkeys (tries_of_getAristarchosHeaders hfetched)]
    exact KeyedTable.Carries.refl ownKey answers.arHeaders
  have hsavedKeys : saved.keys = (FitsImage.applyHeaders cfitsio setup.headers false).2 := by
    rcases saveAsFits_cases hsaved with rfl | ⟨filename, fits, status, image, -, -, hend⟩
    · exact absurd hwritten Int.one_ne_zero
    · rcases hend with ⟨-, rfl⟩ | ⟨-, rfl⟩
      · exact absurd hwritten Int.one_ne_zero
      · rfl
  rw [hsavedKeys]
  exact applyHeaders_carries hcarries hstrings hupdates

/-- An exposure of four pixels for which the headers are fetched. -/
def focusParams : AndorParameters := { windowParams 2 2 with arHdrTries := 3 }

def focusSetup : SetupAnswers :=
  { willingSetup with arHeaders := [focusCard].filterMap FittingCard.header }

theorem focusCard_reaches_file :
    ∃ setup saved,
      setupAcquisition focusParams focusSetup (FitsHeaders.construct 100) = .ok setup ∧
      saveAsFits focusParams emptyDirectory willingCfitsio setup.headers 2 2 [1, 2, 3, 4] =
        .ok saved ∧
      saved.keys.filter (fun call => !ownKey call.keyname) =
        (focusSetup.arHeaders.filter fun hdr => !ownKey hdr.key).map KeyUpdate.ofHeader := by
  have hfetched : getAristarchosHeaders focusDecompress (fun _ _ => focusFcc)
      focusParams.arHdrTries.toInt (CharArray.zero _) [] = .ok (0, focusSetup.arHeaders) := by
    decide +kernel
  have hexpose : (setupAcquisition focusParams focusSetup (FitsHeaders.construct 100) >>=
      fun setup => (saveAsFits focusParams emptyDirectory willingCfitsio setup.headers 2 2
        [1, 2, 3, 4]).map fun saved => (setup.status, saved.status)) = .ok (0, 0) := by
    decide +kernel
  obtain ⟨setup, hsetup, hsave⟩ := checked_bind_eq_ok.mp hexpose
  obtain ⟨saved, hsaved, hstatuses⟩ := checked_map_eq_ok.mp hsave
  obtain ⟨hzero, hwritten⟩ := Prod.mk.inj hstatuses
  have hstatus : (-99 : Int) ≤ 0 := by decide
  have hupdates : ∀ turn < focusSetup.arHeaders.length,
      -99 ≤ willingCfitsio.updateKey turn := fun _ _ => hstatus
  exact ⟨setup, saved, hsetup, hsaved, fetched_headers_reach_file hfetched (by decide +kernel)
    hsetup hzero hupdates hsaved hwritten⟩

end Andor2k
