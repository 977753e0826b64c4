/-
decode_message: the base64 block of a reply, decoded and handed to bzip2.
-/
import Andor2k.Cbase64

namespace Andor2k

open CText

/-- `strstr(memory, needle)`: what the result points to; the search ends at a NUL or
where the area ends. -/
def strstr (needle : Text) : List UInt8 → Option (List UInt8)
  | [] => none
  | byte :: rest =>
      if startsWith (byte :: rest) needle then some (byte :: rest)
      else if byte = 0 then none
      else strstr needle rest

def blockStart : Text := ascii "BF="
def blockEnd : UInt8 := 59

/-- `BZ2_bzBuffToBuffDecompress`: the error code and the output, for the input bytes and
the room for the output. -/
abbrev Decompress := List UInt8 → Int → Int × List UInt8

/-- The bytes handed to the decompressor, if it is called, and the text returned. -/
structure Decoded where
  passed : Option (List UInt8)
  asciiStr : Option (List UInt8)
deriving DecidableEq

/-- What the function returns for bytes it hands to the decompressor. -/
def decompressed (decompress : Decompress) (buffLen : Int) (bytes : List UInt8) : Decoded :=
  let (error, output) := decompress bytes buffLen
  if error = 0 then ⟨some bytes, some output⟩ else ⟨some bytes, none⟩

/-- The cleared array of `len` bytes that takes the decoded bytes. -/
def decodeBuffer (len : Int) (written : List UInt8) : Checked (List UInt8) :=
  if len < 0 then .error .badArrayLength
  else if (written.length : Int) ≤ len then
    .ok (overlay (List.replicate len.toNat 0) 0 written)
  else .error .outOfBounds

/-- `rawMessage` is the memory from `raw_message` on, up to its NUL at least. -/
def decodeMessage (decompress : Decompress) (rawMessage : List UInt8) (buffLen : Int) :
    Checked Decoded :=
  match strstr blockStart rawMessage with
  | none => .ok ⟨none, none⟩
  | some found => do
      let start := found.drop 3
      let block := start.takeWhile fun byte => byte ≠ 0 ∧ byte ≠ blockEnd
      if (start.drop block.length).head? ≠ some blockEnd then return ⟨none, none⟩
      -- the semicolon becomes a NUL, so the block is a string of its own
      let len ← base64decodeLen block
      let (written, bts) ← base64decode block
      let ub64Buf ← decodeBuffer len written
      if bts ≠ len - 1 then return ⟨none, none⟩
      return decompressed decompress buffLen (ub64Buf.take bts.toNat)

theorem blockStart_eq : blockStart = [66, 70, 61] := rfl

/-- The start of the block does not overlap itself. -/
theorem not_startsWith_blockStart {byte : UInt8} {front rest : Text}
    (hfree : ¬ blockStart <:+: byte :: front) :
    ¬ startsWith (byte :: (front ++ (blockStart ++ rest))) blockStart = true := by
  intro hstart
  rw [startsWith_iff, blockStart_eq] at hstart
  match front with
  | [] => simp [List.cons_prefix_cons] at hstart
  | [second] => simp [List.cons_prefix_cons] at hstart
  | second :: third :: front =>
      simp only [List.cons_append, List.cons_prefix_cons] at hstart
      obtain ⟨rfl, rfl, rfl, -⟩ := hstart
      apply hfree
      exact List.IsPrefix.isInfix ⟨front, rfl⟩

/-- The block is found behind a front that does not hold its start. -/
theorem strstr_blockStart {front rest : Text} (hnul : 0 ∉ front)
    (hfree : ¬ blockStart <:+: front) :
    strstr blockStart (front ++ (blockStart ++ rest)) = some (blockStart ++ rest) := by
  induction front with
  | nil => rfl
  | cons byte front ih =>
      have hbyte : byte ≠ 0 := fun hzero => hnul (by simp [hzero])
      have hlater : ¬ blockStart <:+: front := fun hin =>
        hfree (hin.trans (List.suffix_cons byte front).isInfix)
      rw [List.cons_append, strstr, if_neg (not_startsWith_blockStart hfree), if_neg hbyte]
      exact ih (fun hin => hnul (List.mem_cons_of_mem byte hin)) hlater

/-- A block without semicolon and NUL is cut out as it is. -/
theorem takeWhile_block {block rest : Text}
    (hblock : ∀ char ∈ block, char ≠ 59 ∧ char ≠ 0) :
    (block ++ ([blockEnd] ++ rest)).takeWhile
      (fun byte => byte ≠ 0 ∧ byte ≠ blockEnd) = block := by
  rw [List.takeWhile_append_of_pos]
  · simp
  · intro char hchar
    have hne := hblock char hchar
    simp only [ne_eq, decide_eq_true_eq]
    exact ⟨hne.2, hne.1⟩

/-- From the block on, `decode_message` only sees the block. -/
theorem decodeMessage_eq (decompress : Decompress) (buffLen : Int)
    {front block suffix : Text} (hnul : 0 ∉ front) (hfree : ¬ blockStart <:+: front)
    (hblock : ∀ char ∈ block, char ≠ 59 ∧ char ≠ 0) :
    decodeMessage decompress (front ++ (blockStart ++ (block ++ ([blockEnd] ++ suffix))))
        buffLen =
      (do
        let len ← base64decodeLen block
        let (written, bts) ← base64decode block
        let ub64Buf ← decodeBuffer len written
        if bts ≠ len - 1 then return ⟨none, none⟩
        return decompressed decompress buffLen (ub64Buf.take bts.toNat)) := by
  have hdrop : (blockStart ++ (block ++ ([blockEnd] ++ suffix))).drop 3 =
      block ++ ([blockEnd] ++ suffix) := rfl
  have hend : ((block ++ ([blockEnd] ++ suffix)).drop block.length).head? =
      some blockEnd := by
    rw [List.drop_left]
    rfl
  unfold decodeMessage
  rw [strstr_blockStart hnul hfree]
  simp only [hdrop, takeWhile_block hblock, hend, ne_eq, not_true_eq_false, ↓reduceIte]

theorem length_decodeBuffer {len : Int} {written buffer : List UInt8}
    (hbuffer : decodeBuffer len written = .ok buffer) :
    0 ≤ len ∧ (buffer.length : Int) = len := by
  unfold decodeBuffer at hbuffer
  split_ifs at hbuffer with hnegative hfits
  simp only [Except.ok.injEq] at hbuffer
  have hlength : (overlay (List.replicate len.toNat 0) 0 written).length = len.toNat := by
    rw [length_overlay, List.length_replicate]
    rw [List.length_replicate]
    omega
  rw [← hbuffer, hlength]
  omega

/-- Bytes that fill the array are what the array holds. -/
theorem decodeBuffer_full {written : List UInt8} {len : Int}
    (hlen : len = written.length) : decodeBuffer len written = .ok written := by
  have hnonneg : ¬ len < 0 := by omega
  have hfits : (written.length : Int) ≤ len := by omega
  have hsame : len.toNat = written.length := by omega
  rw [decodeBuffer, if_neg hnonneg, if_pos hfits, overlay, hsame]
  simp

theorem passed_decompressed (decompress : Decompress) (buffLen : Int) (bytes : List UInt8) :
    (decompressed decompress buffLen bytes).passed = some bytes := by
  unfold decompressed
  dsimp only
  split <;> rfl

/-- What is handed to the decompressor comes in full triples. -/
theorem length_of_passed {decompress : Decompress} {buffLen : Int} {front block suffix : Text}
    (hnul : 0 ∉ front) (hfree : ¬ blockStart <:+: front)
    (hblock : ∀ char ∈ block, char ≠ 59 ∧ char ≠ 0) {bytes : List UInt8}
    (hdecode : decodeMessage decompress
      (front ++ (blockStart ++ (block ++ ([blockEnd] ++ suffix)))) buffLen =
        .ok (decompressed decompress buffLen bytes)) :
    bytes.length % 3 = 0 ∧ bytes.length ≤ maxPlainLength := by
  rw [decodeMessage_eq decompress buffLen hnul hfree hblock] at hdecode
  simp only [checked_bind_eq_ok] at hdecode
  obtain ⟨len, hlen, ⟨written, bts⟩, -, buffer, hbuffer, hlast⟩ := hdecode
  simp only [base64decodeLen, checked_bind_eq_ok] at hlen
  obtain ⟨quanta, hquanta, hlen⟩ := hlen
  simp only [pure, Except.pure, Except.ok.injEq] at hlen
  have hpassed := passed_decompressed decompress buffLen bytes
  dsimp only at hlast
  split at hlast
  · simp only [pure, Except.pure, Except.ok.injEq] at hlast
    rw [← hlast] at hpassed
    cases hpassed
  · rename_i hbts
    simp only [pure, Except.pure, Except.ok.injEq] at hlast
    rw [← hlast, passed_decompressed, Option.some.injEq] at hpassed
    obtain ⟨hnonneg, hlength⟩ := length_decodeBuffer hbuffer
    obtain ⟨htriples, hbound⟩ := quantaBytes_eq_ok hquanta
    rw [← hpassed, List.length_take]
    omega

/-- `decode_message` hands the encoded bytes on exactly when they come in full triples
and their encoded length is an `int`. -/
theorem decodeMessage_passes_iff (decompress : Decompress) (buffLen : Int)
    (bytes : List UInt8) {front : Text} (hnul : 0 ∉ front)
    (hfree : ¬ blockStart <:+: front) (suffix : List UInt8) :
    decodeMessage decompress
        (front ++ (blockStart ++ (base64encode bytes ++ ([blockEnd] ++ suffix)))) buffLen =
          .ok (decompressed decompress buffLen bytes) ↔
      bytes.length % 3 = 0 ∧ bytes.length ≤ maxPlainLength := by
  have hblock : ∀ char ∈ base64encode bytes, char ≠ 59 ∧ char ≠ 0 :=
    fun char hchar => ne_of_mem_base64encode hchar
  constructor
  · exact length_of_passed hnul hfree hblock
  · rintro ⟨hfull, hlong⟩
    obtain ⟨hlen, hdecoded⟩ := base64decode_encoded hfull hlong
    have hbuffer : decodeBuffer (bytes.length + 1) (bytes ++ [0]) = .ok (bytes ++ [0]) := by
      apply decodeBuffer_full
      rw [List.length_append, List.length_singleton]
      push_cast
      rfl
    rw [decodeMessage_eq decompress buffLen hnul hfree hblock]
    apply checked_bind_eq_ok.mpr
    refine ⟨_, hlen, checked_bind_eq_ok.mpr ⟨_, hdecoded, ?_⟩⟩
    apply checked_bind_eq_ok.mpr
    refine ⟨_, hbuffer, ?_⟩
    have hbts : ¬ (bytes.length : Int) ≠ bytes.length + 1 - 1 := by omega
    rw [if_neg hbts, Int.toNat_natCast, List.take_left]
    rfl

/-- A decompressor that knows one input. -/
def singleDecompress : Decompress := fun bytes _ =>
  if bytes = ascii "abc" then (0, ascii "NAME") else (-5, [])

theorem three_bytes_pass :
    decodeMessage singleDecompress
        (ascii "SS=1;" ++ (blockStart ++ (base64encode (ascii "abc") ++
          ([blockEnd] ++ ascii "X=0;")))) 300000 =
          .ok (decompressed singleDecompress 300000 (ascii "abc")) ↔
      (ascii "abc").length % 3 = 0 ∧ (ascii "abc").length ≤ maxPlainLength :=
  decodeMessage_passes_iff singleDecompress 300000 (ascii "abc") (by decide) (by decide)
    (ascii "X=0;")

/-- Four bytes are encoded with padding: the block is refused, and nothing is passed. -/
theorem four_bytes_do_not_pass :
    decodeMessage singleDecompress
        (ascii "SS=1;" ++ (blockStart ++ (base64encode (ascii "abcd") ++
          ([blockEnd] ++ ascii "X=0;")))) 300000 = .ok ⟨none, none⟩ ∧
      decodeMessage singleDecompress
        (ascii "SS=1;" ++ (blockStart ++ (base64encode (ascii "abcd") ++
          ([blockEnd] ++ ascii "X=0;")))) 300000 ≠
            .ok (decompressed singleDecompress 300000 (ascii "abcd")) := by
  decide +kernel

end Andor2k
