/-
get_aristarchos_headers: the tries to fetch and decode the FCC headers, which share one
buffer, and what is left in the vector of headers behind them.
-/
import Andor2k.HeaderText
import Andor2k.FccRequest
import Andor2k.DecodeMessage

namespace Andor2k

open CText

def bz2BufferSize : Nat := 16384

/-- `ascii_buf`, which no try clears. -/
abbrev AsciiBuffer := CharArray bz2BufferSize

/-- The buffer after the decompressor has written to its front. -/
def AsciiBuffer.write (asciiBuf : AsciiBuffer) (output : List UInt8) : Checked AsciiBuffer :=
  if hfits : output.length ≤ bz2BufferSize then
    .ok ⟨overlay asciiBuf.bytes 0 output, by
      rw [length_overlay, asciiBuf.length_bytes]
      rw [asciiBuf.length_bytes, Nat.zero_add]
      exact hfits⟩
  else .error .outOfBounds

/-- One try: the text of the headers, unless it could not be fetched or decoded, and the
buffer.  The decompressor may have written to it also where it fails. -/
def headersTry (decompress : Decompress) (fcc : Nat → FccTry) (numTries : Int)
    (asciiBuf : AsciiBuffer) : Checked (Option (List UInt8) × AsciiBuffer) :=
  match (sendRequestHeaderSequence fcc numTries (CharArray.zero _)).header with
  | none => .ok (none, asciiBuf)
  | some rawMsg => do
      let decoded ← decodeMessage decompress rawMsg.bytes bz2BufferSize
      match decoded.passed with
      | none => return (decoded.asciiStr, asciiBuf)
      | some bytes =>
          let asciiBuf ← asciiBuf.write (decompress bytes bz2BufferSize).2
          return (decoded.asciiStr, asciiBuf)

/-- The tries from number `ctry` on, `left` of them at most; the text is that of the last
try. -/
def headersLoop (decompress : Decompress) (fcc : Nat → Nat → FccTry) (numTries : Int) :
    Nat → Nat → AsciiBuffer → Checked (Option (List UInt8) × AsciiBuffer)
  | 0, _, asciiBuf => .ok (none, asciiBuf)
  | left + 1, ctry, asciiBuf => do
      let (asciiStr, asciiBuf) ← headersTry decompress (fcc ctry) numTries asciiBuf
      if asciiStr.isSome then return (asciiStr, asciiBuf)
      headersLoop decompress fcc numTries left (ctry + 1) asciiBuf

/-- `fcc n` is the behaviour of the FCC during try `n`, counted from 0; `asciiBuf` is what
happens to lie in the buffer.  The result is the status and what `headers` holds. -/
def getAristarchosHeaders (decompress : Decompress) (fcc : Nat → Nat → FccTry)
    (numTries : Int) (asciiBuf : AsciiBuffer) (headers : List FitsHeader) :
    Checked (Int × List FitsHeader) := do
  let headers := if ¬ headers.isEmpty then [] else headers
  let (asciiStr, asciiBuf) ←
    headersLoop decompress fcc numTries numTries.toNat 0 asciiBuf
  match asciiStr with
  | none => return (1, headers)
  | some text => decodedStrToHeader asciiBuf.bytes (UInt32.ofNat text.length - 1)

/-- The headers of a text alone: what is behind it in the buffer is cleared. -/
def parsedPayload (text : List UInt8) : Checked (Int × List FitsHeader) :=
  decodedStrToHeader (text ++ List.replicate (bz2BufferSize - text.length) 0)
    (UInt32.ofNat text.length - 1)

/-- The vector holds the headers of the text, or the status says that it holds none. -/
def ReportsPayload (asciiStr : Option (List UInt8)) (result : Int × List FitsHeader) : Prop :=
  (result.1 = 0 → ∃ text, asciiStr = some text ∧ parsedPayload text = .ok (0, result.2)) ∧
    (result.1 ≠ 0 → result.2 = [])

/-- The header lines the loop comes to as long as none fails: the number of bytes before
each, and the memory that begins with it. -/
def headerLinesFrom (msgLen : UInt32) : Nat → Nat → List UInt8 → List (Nat × List UInt8)
  | 0, _, _ => []
  | lines + 1, offset, start =>
      match start.head? with
      | none => []
      | some first =>
          if first = 0 ∨ msgLen.toNat < offset then []
          else
            let later :=
              headerLinesFrom msgLen lines (offset + headerSize) (start.drop headerSize)
            if start[8]? = some 61 then (offset, start) :: later else later

/-- The line has its `/` before a NUL. -/
def hasComment (start : List UInt8) : Bool :=
  match strchr 47 (start.drop 8) with
  | .ok (some _) => true
  | _ => false

/-- What a line is shows in its `=` and its `/`. -/
theorem headerLine_marks {start : List UInt8} {line : HeaderLine}
    (hline : headerLine start = .ok line) :
    match line with
    | .skipped => start[8]? ≠ some 61
    | .failed => start[8]? = some 61 ∧ hasComment start = false
    | .resolved _ => start[8]? = some 61 ∧ hasComment start = true := by
  rcases headerLine_cases hline with ⟨rfl, hmark⟩ |
    ⟨hmark, ⟨rfl, hnone⟩ | ⟨hdr, before, cval, rfl, hfound, -⟩⟩
  · exact hmark
  · exact ⟨hmark, by rw [hasComment, hnone]⟩
  · exact ⟨hmark, by rw [hasComment, hfound]⟩

/-- One round of the loop, inside the message. -/
theorem headerLines_succ {msgLen : UInt32} {lines offset : Nat} {start : List UInt8}
    {first : UInt8} {status : Int} {headers : List FitsHeader}
    (hfirst : start.head? = some first) (hgoes : ¬ (first = 0 ∨ msgLen.toNat < offset)) :
    headerLines msgLen (lines + 1) offset start = .ok (status, headers) ↔
      (headerLine start = .ok .failed ∧ status = -1 ∧ headers = []) ∨
      (headerLine start = .ok .skipped ∧
        headerLines msgLen lines (offset + headerSize) (start.drop headerSize) =
          .ok (status, headers)) ∨
      ∃ hdr later, headerLine start = .ok (.resolved hdr) ∧ headers = hdr :: later ∧
        headerLines msgLen lines (offset + headerSize) (start.drop headerSize) =
          .ok (status, later) := by
  rw [headerLines, hfirst]
  dsimp only
  rw [if_neg hgoes]
  cases hline : headerLine start with
  | error fault => simp [bind, Except.bind]
  | ok line =>
      cases line with
      | failed => simp [bind, Except.bind, pure, Except.pure, eq_comm]
      | skipped => simp [bind, Except.bind]
      | resolved hdr =>
          cases htail : headerLines msgLen lines (offset + headerSize)
              (start.drop headerSize) with
          | error fault => simp [bind, Except.bind]
          | ok tail =>
              constructor
              · intro hround
                obtain ⟨rfl, rfl⟩ := Prod.mk.inj (Except.ok.inj hround)
                exact Or.inr (Or.inr ⟨hdr, tail.2, rfl, rfl, rfl⟩)
              · rintro (⟨hfailed, -⟩ | ⟨hskipped, -⟩ | ⟨other, later, hother, rfl, hrest⟩)
                · cases hfailed
                · cases hskipped
                · obtain rfl := HeaderLine.resolved.inj (Except.ok.inj hother)
                  rw [Except.ok.inj hrest]
                  rfl

theorem headerLinesFrom_succ {msgLen : UInt32} {lines offset : Nat} {start : List UInt8}
    {first : UInt8} (hfirst : start.head? = some first)
    (hgoes : ¬ (first = 0 ∨ msgLen.toNat < offset)) :
    headerLinesFrom msgLen (lines + 1) offset start =
      if start[8]? = some 61 then
        (offset, start) ::
          headerLinesFrom msgLen lines (offset + headerSize) (start.drop headerSize)
      else headerLinesFrom msgLen lines (offset + headerSize) (start.drop headerSize) := by
  rw [headerLinesFrom, hfirst]
  exact if_neg hgoes

/-- Where the loop is over at once, it has found nothing. -/
theorem headerLines_over {msgLen : UInt32} {lines offset : Nat} {start : List UInt8}
    {status : Int} {headers : List FitsHeader}
    (hover : start.head? = some 0 ∨ msgLen.toNat < offset)
    (hlines : headerLines msgLen lines offset start = .ok (status, headers)) :
    status = 0 ∧ headers = [] ∧ headerLinesFrom msgLen lines offset start = [] := by
  cases lines with
  | zero => cases hlines
  | succ lines =>
      cases hfirst : start.head? with
      | none =>
          rw [headerLines, hfirst] at hlines
          cases hlines
      | some first =>
          have hstops : first = 0 ∨ msgLen.toNat < offset :=
            hover.imp_left fun hnul => Option.some.inj (hfirst.symm.trans hnul)
          rw [headerLines, hfirst] at hlines
          rw [headerLinesFrom, hfirst]
          dsimp only at hlines ⊢
          rw [if_pos hstops] at hlines ⊢
          obtain ⟨rfl, rfl⟩ := Prod.mk.inj (Except.ok.inj hlines)
          exact ⟨rfl, rfl, rfl⟩

theorem headerLines_behind {msgLen : UInt32} {lines offset : Nat} {start : List UInt8}
    (hover : msgLen.toNat < offset) :
    headerLines msgLen lines offset start = .ok (0, []) ↔ lines ≠ 0 ∧ start ≠ [] := by
  cases lines with
  | zero => exact iff_of_false nofun fun hboth => hboth.1 rfl
  | succ lines =>
      cases start with
      | nil => exact iff_of_false nofun fun hboth => hboth.2 rfl
      | cons first rest => exact iff_of_true (if_pos (Or.inr hover)) ⟨nofun, nofun⟩

/-- The status tells whether a header line in reach lacks its `/`; the vector is empty when
the first of them does. -/
theorem headerLines_outcome {msgLen : UInt32} {lines offset : Nat} {start : List UInt8}
    {status : Int} {headers : List FitsHeader}
    (hlines : headerLines msgLen lines offset start = .ok (status, headers)) :
    (status = 0 ↔
      ∀ line ∈ headerLinesFrom msgLen lines offset start, hasComment line.2 = true) ∧
    (headers = [] ↔ ∀ line, (headerLinesFrom msgLen lines offset start).head? = some line →
      hasComment line.2 = false) := by
  induction lines generalizing offset start headers with
  | zero => cases hlines
  | succ lines ih =>
      cases hfirst : start.head? with
      | none =>
          rw [headerLines, hfirst] at hlines
          cases hlines
      | some first =>
          by_cases hstops : first = 0 ∨ msgLen.toNat < offset
          · have hover : start.head? = some 0 ∨ msgLen.toNat < offset :=
              hstops.imp_left fun hnul => by rw [hfirst, hnul]
            obtain ⟨rfl, rfl, hnone⟩ := headerLines_over hover hlines
            rw [hnone]
            refine ⟨⟨fun _ => List.forall_mem_nil _, fun _ => rfl⟩, ⟨?_, fun _ => rfl⟩⟩
            rintro - found ⟨⟩
          · rw [headerLinesFrom_succ hfirst hstops]
            rcases (headerLines_succ hfirst hstops).mp hlines with ⟨hline, rfl, rfl⟩ |
              ⟨hline, htail⟩ | ⟨hdr, later, hline, rfl, htail⟩
            · obtain ⟨hmark, hcomment⟩ := headerLine_marks hline
              rw [if_pos hmark]
              refine ⟨⟨by rintro ⟨⟩, fun hall => ?_⟩, ⟨fun _ found hhead => ?_, fun _ => rfl⟩⟩
              · have htrue := hall _ List.mem_cons_self
                rw [hcomment] at htrue
                cases htrue
              · rw [← Option.some.inj hhead]
                exact hcomment
            · rw [if_neg (headerLine_marks hline)]
              exact ih htail
            · obtain ⟨hmark, hcomment⟩ := headerLine_marks hline
              rw [if_pos hmark, (ih htail).1]
              refine ⟨by rw [List.forall_mem_cons, and_iff_right hcomment], ⟨by rintro ⟨⟩, ?_⟩⟩
              intro hfirstFails
              have hfalse := hfirstFails _ rfl
              rw [hcomment] at hfalse
              cases hfalse

/-- Every header line in reach ends in front of the byte with the number `length`. -/
def EndsBefore (length : Nat) (lines : List (Nat × List UInt8)) : Prop :=
  ∀ line ∈ lines, line.1 + 8 + (lineText line.2).length ≤ length

instance (length : Nat) (lines : List (Nat × List UInt8)) :
    Decidable (EndsBefore length lines) :=
  inferInstanceAs (Decidable (∀ line ∈ lines, _))

/-- A message without a line that fails is read as if zeros were behind it exactly when its
header lines end in it. -/
theorem headerLines_zeros_iff {msgLen : UInt32} {lines offset : Nat}
    {front leftover : List UInt8} {headers : List FitsHeader} (hfront : front ≠ [])
    (hlength : msgLen.toNat + 1 = offset + front.length)
    (hlines : headerLines msgLen lines offset (front ++ leftover) = .ok (0, headers)) :
    headerLines msgLen lines offset (front ++ List.replicate leftover.length 0) =
        .ok (0, headers) ↔
      EndsBefore (offset + front.length)
        (headerLinesFrom msgLen lines offset (front ++ leftover)) := by
  induction lines generalizing offset front headers with
  | zero => cases hlines
  | succ lines ih =>
      obtain ⟨first, rest, rfl⟩ := List.exists_cons_of_ne_nil hfront
      have hleft : ((first :: rest) ++ leftover).head? = some first := rfl
      have hzero : ((first :: rest) ++ List.replicate leftover.length 0).head? = some first := rfl
      by_cases hstops : first = 0 ∨ msgLen.toNat < offset
      · have hover := hstops.imp_left fun hnul : first = 0 => hleft.trans (congrArg some hnul)
        obtain ⟨-, rfl, hnone⟩ := headerLines_over hover hlines
        rw [hnone, headerLines, hzero]
        exact iff_of_true (if_pos hstops) (List.forall_mem_nil _)
      · -- behind this line the message goes on, or it is over for both
        have htail : ∀ later,
            headerLines msgLen lines (offset + headerSize)
              (((first :: rest) ++ leftover).drop headerSize) = .ok (0, later) →
            (headerLines msgLen lines (offset + headerSize)
                (((first :: rest) ++ List.replicate leftover.length 0).drop headerSize) =
                .ok (0, later) ↔
              EndsBefore (offset + (first :: rest).length)
                (headerLinesFrom msgLen lines (offset + headerSize)
                  (((first :: rest) ++ leftover).drop headerSize))) := by
          intro later hlater
          rcases Nat.lt_or_ge headerSize (first :: rest).length with hmore | hlast
          · rw [List.drop_append_of_le_length hmore.le] at hlater
            have hdropped : ((first :: rest).drop headerSize).length =
                (first :: rest).length - headerSize := List.length_drop
            have hends : offset + headerSize + ((first :: rest).drop headerSize).length =
                offset + (first :: rest).length := by
              rw [hdropped]
              omega
            rw [List.drop_append_of_le_length hmore.le, List.drop_append_of_le_length hmore.le,
              ← hends]
            apply ih (List.ne_nil_of_length_pos (by omega)) (by omega) hlater
          · have hbehind : msgLen.toNat < offset + headerSize := by omega
            obtain ⟨-, rfl, hnone⟩ := headerLines_over (Or.inr hbehind) hlater
            obtain ⟨hlines, hsome⟩ := (headerLines_behind hbehind).mp hlater
            rw [hnone]
            refine iff_of_true ((headerLines_behind hbehind).mpr ⟨hlines, ?_⟩)
              (List.forall_mem_nil _)
            rw [← List.length_pos_iff, List.length_drop, List.length_append] at hsome ⊢
            rw [List.length_replicate]
            exact hsome
        rw [headerLinesFrom_succ hleft hstops, headerLines_succ hzero hstops]
        rcases (headerLines_succ hleft hstops).mp hlines with ⟨-, hstatus, -⟩ |
          ⟨hline, hrest⟩ | ⟨hdr, later, hline, rfl, hrest⟩
        · cases hstatus
        · rw [if_neg (headerLine_marks hline), headerLine_skipped_zeros hline, ← htail _ hrest]
          constructor
          · rintro (⟨hfailed, -⟩ | ⟨-, hzeros⟩ | ⟨hdr, later, hresolved, -⟩)
            · cases hfailed
            · exact hzeros
            · cases hresolved
          · intro hzeros
            exact Or.inr (Or.inl ⟨rfl, hzeros⟩)
        · rw [if_pos (headerLine_marks hline).1, EndsBefore, List.forall_mem_cons,
            ← EndsBefore, ← htail _ hrest]
          have hends : offset + 8 + (lineText (first :: rest ++ leftover)).length ≤
              offset + (first :: rest).length ↔
                headerLine (first :: rest ++ List.replicate leftover.length 0) =
                  .ok (.resolved hdr) := by
            rw [headerLine_resolved_zeros_iff hline]
            omega
          rw [hends]
          constructor
          · rintro (⟨-, hstatus, -⟩ | ⟨hskipped, hzeros⟩ | ⟨other, found, hresolved, hsame, hzeros⟩)
            · cases hstatus
            · -- without its `=` in front the line is the last, and nothing comes behind it
              have hshort : (first :: rest).length ≤ 8 := by
                by_contra hlong
                have hmark := (headerLine_marks hline).1
                have hother := headerLine_marks hskipped
                rw [List.getElem?_append_left (by omega)] at hmark hother
                exact hother hmark
              have hbehind : msgLen.toNat < offset + headerSize := by
                rw [headerSize]
                omega
              cases (headerLines_over (Or.inr hbehind) hzeros).2.1
            · obtain ⟨rfl, rfl⟩ := List.cons.inj hsame
              exact ⟨hresolved, hzeros⟩
          · rintro ⟨hresolved, hzeros⟩
            exact Or.inr (Or.inr ⟨hdr, later, hresolved, rfl, hzeros⟩)

/-- The lines of a text in the buffer the parser is handed. -/
def textLines (text leftover : List UInt8) : List (Nat × List UInt8) :=
  headerLinesFrom (UInt32.ofNat text.length - 1) (text ++ leftover).length 0 (text ++ leftover)

/-- The first header line in reach lacks its `/`, or none does and all of them end within
the text. -/
def TextDecides (text leftover : List UInt8) : Prop :=
  (∃ line, (textLines text leftover).head? = some line ∧ hasComment line.2 = false) ∨
    (∀ line ∈ textLines text leftover, hasComment line.2 = true) ∧
      EndsBefore text.length (textLines text leftover)

/-- `ascii_len - 1`, for a text that is not empty. -/
theorem toNat_textLength {count : Nat} (hpos : 0 < count) (hfits : count ≤ bz2BufferSize) :
    (UInt32.ofNat count - 1).toNat + 1 = count := by
  have hsize : count < UInt32.size := lt_of_le_of_lt hfits (by decide)
  have hone : (1 : UInt32) ≤ UInt32.ofNat count := by
    rw [UInt32.le_iff_toNat_le, UInt32.toNat_ofNat_of_lt' hsize]
    exact hpos
  rw [UInt32.toNat_sub_of_le _ _ hone, UInt32.toNat_ofNat_of_lt' hsize]
  exact Nat.sub_add_cancel hpos

theorem parsedPayload_iff {text leftover : List UInt8} {headers : List FitsHeader}
    (hlength : text.length + leftover.length = bz2BufferSize)
    (hparsed : decodedStrToHeader (text ++ leftover) (UInt32.ofNat text.length - 1) =
      .ok (0, headers)) :
    parsedPayload text = .ok (0, headers) ↔ EndsBefore text.length (textLines text leftover) := by
  have hzeros : bz2BufferSize - text.length = leftover.length := by omega
  have hcount : (text ++ List.replicate leftover.length 0).length =
      (text ++ leftover).length := by
    rw [List.length_append, List.length_append, List.length_replicate]
  rw [parsedPayload, hzeros, decodedStrToHeader, hcount]
  cases text with
  | nil =>
      -- the length has wrapped around, so every line of the buffer is in reach
      obtain ⟨hstatus, hempty⟩ := headerLines_outcome hparsed
      have hcomments : ∀ line ∈ textLines [] leftover, hasComment line.2 = true := hstatus.mp rfl
      obtain ⟨more, hmore⟩ : ∃ more, leftover.length = more + 1 :=
        ⟨16383, by simpa [bz2BufferSize] using hlength⟩
      have hcleared : headerLines (UInt32.ofNat 0 - 1) ([] ++ leftover).length 0
          ([] ++ List.replicate leftover.length 0) = .ok (0, []) := by
        rw [List.nil_append, List.nil_append, hmore, List.replicate_succ, headerLines]
        exact if_pos (Or.inl rfl)
      rw [List.length_nil, hcleared]
      constructor
      · intro hnone line hline
        obtain ⟨head, later, hlines⟩ := List.exists_cons_of_ne_nil (List.ne_nil_of_mem hline)
        have hfalse := hempty.mp (Prod.mk.inj (Except.ok.inj hnone)).2.symm head
          (congrArg List.head? hlines)
        rw [hcomments head (by rw [hlines]; exact List.mem_cons_self)] at hfalse
        cases hfalse
      · intro hends
        have hlines : textLines [] leftover = [] := by
          rw [List.eq_nil_iff_forall_not_mem]
          intro line hline
          have hend := hends line hline
          omega
        have hheaders : headers = [] := by
          rw [hempty]
          intro head hhead
          have hsome : (textLines [] leftover).head? = some head := hhead
          rw [hlines] at hsome
          cases hsome
        rw [hheaders]
  | cons first rest =>
      have hmsgLen : (UInt32.ofNat (first :: rest).length - 1).toNat + 1 =
          0 + (first :: rest).length := by
        rw [Nat.zero_add]
        exact toNat_textLength (Nat.succ_pos _) (by omega)
      have hiff := headerLines_zeros_iff (List.cons_ne_nil first rest) hmsgLen hparsed
      rw [Nat.zero_add] at hiff
      exact hiff

/-- What `decode_message` returns is what the decompressor has written. -/
theorem decodeMessage_asciiStr {decompress : Decompress} {rawMessage text : List UInt8}
    {buffLen : Int} {decoded : Decoded}
    (hdecoded : decodeMessage decompress rawMessage buffLen = .ok decoded)
    (htext : decoded.asciiStr = some text) :
    ∃ bytes, decoded.passed = some bytes ∧ (decompress bytes buffLen).2 = text := by
  rw [decodeMessage] at hdecoded
  split at hdecoded
  · rw [← Except.ok.inj hdecoded] at htext
    cases htext
  · dsimp only at hdecoded
    split at hdecoded
    · rw [← Except.ok.inj hdecoded] at htext
      cases htext
    · obtain ⟨len, -, hdecoded⟩ := checked_bind_eq_ok.mp hdecoded
      obtain ⟨⟨written, bts⟩, -, hdecoded⟩ := checked_bind_eq_ok.mp hdecoded
      obtain ⟨ub64Buf, -, hdecoded⟩ := checked_bind_eq_ok.mp hdecoded
      dsimp only at hdecoded
      split at hdecoded
      · rw [← Except.ok.inj hdecoded] at htext
        cases htext
      · obtain rfl := Except.ok.inj hdecoded
        rw [decompressed] at htext ⊢
        dsimp only at htext ⊢
        split at htext
        · rename_i hzero
          rw [if_pos hzero]
          exact ⟨_, rfl, Option.some.inj htext⟩
        · cases htext

/-- A text lies at the front of the buffer. -/
theorem headersTry_text {decompress : Decompress} {fcc : Nat → FccTry} {numTries : Int}
    {asciiBuf after : AsciiBuffer} {text : List UInt8}
    (htry : headersTry decompress fcc numTries asciiBuf = .ok (some text, after)) :
    ∃ leftover, after.bytes = text ++ leftover := by
  rw [headersTry] at htry
  split at htry
  · cases htry
  · obtain ⟨decoded, hdecoded, htry⟩ := checked_bind_eq_ok.mp htry
    split at htry
    · rename_i hpassed
      obtain ⟨htext, -⟩ := Prod.mk.inj (Except.ok.inj htry)
      obtain ⟨bytes, hbytes, -⟩ := decodeMessage_asciiStr hdecoded htext
      rw [hpassed] at hbytes
      cases hbytes
    · rename_i bytes hpassed
      obtain ⟨written, hwrite, htry⟩ := checked_bind_eq_ok.mp htry
      obtain ⟨htext, rfl⟩ := Prod.mk.inj (Except.ok.inj htry)
      obtain ⟨passed, hbytes, houtput⟩ := decodeMessage_asciiStr hdecoded htext
      obtain rfl := Option.some.inj (hpassed.symm.trans hbytes)
      rw [AsciiBuffer.write, houtput] at hwrite
      split at hwrite
      · rw [← Except.ok.inj hwrite]
        exact ⟨_, rfl⟩
      · cases hwrite

theorem headersLoop_text {decompress : Decompress} {fcc : Nat → Nat → FccTry} {numTries : Int}
    {left ctry : Nat} {asciiBuf after : AsciiBuffer} {text : List UInt8}
    (hloop : headersLoop decompress fcc numTries left ctry asciiBuf = .ok (some text, after)) :
    ∃ leftover, after.bytes = text ++ leftover := by
  induction left generalizing ctry asciiBuf with
  | zero => cases hloop
  | succ left ih =>
      obtain ⟨⟨asciiStr, buffer⟩, htry, hloop⟩ := checked_bind_eq_ok.mp hloop
      dsimp only at hloop
      split at hloop
      · obtain ⟨rfl, rfl⟩ := Prod.mk.inj (Except.ok.inj hloop)
        exact headersTry_text htry
      · exact ih hloop

/-- The vector and the status agree with the text of the last try exactly when the text
decides alone: what is parsed behind it, or before a line that fails, makes them differ. -/
theorem getAristarchosHeaders_reports_iff {decompress : Decompress}
    {fcc : Nat → Nat → FccTry} {numTries : Int} {asciiBuf : AsciiBuffer}
    {headers : List FitsHeader} {result : Int × List FitsHeader}
    (hresult : getAristarchosHeaders decompress fcc numTries asciiBuf headers = .ok result) :
    ∃ asciiStr buffer,
      headersLoop decompress fcc numTries numTries.toNat 0 asciiBuf = .ok (asciiStr, buffer) ∧
      (ReportsPayload asciiStr result ↔
        ∀ text, asciiStr = some text → TextDecides text (buffer.bytes.drop text.length)) := by
  obtain ⟨⟨asciiStr, buffer⟩, hloop, hresult⟩ := checked_bind_eq_ok.mp hresult
  refine ⟨asciiStr, buffer, hloop, ?_⟩
  cases asciiStr with
  | none =>
      obtain rfl := Except.ok.inj hresult
      refine iff_of_true ⟨nofun, fun _ => ?_⟩ nofun
      cases headers with
      | nil => rfl
      | cons hdr rest => rfl
  | some text =>
      obtain ⟨leftover, hbytes⟩ := headersLoop_text hloop
      have hlength : text.length + leftover.length = bz2BufferSize := by
        rw [← List.length_append, ← hbytes, buffer.length_bytes]
      obtain ⟨status, found⟩ := result
      dsimp only at hresult
      rw [hbytes] at hresult
      obtain ⟨hzero, hempty⟩ := headerLines_outcome hresult
      have hone : (∀ other, some text = some other → TextDecides other
          (buffer.bytes.drop other.length)) ↔ TextDecides text leftover := by
        rw [hbytes]
        constructor
        · intro hall
          have htext := hall text rfl
          rwa [List.drop_left] at htext
        · rintro hdecides other ⟨⟩
          rwa [List.drop_left]
      have hlines : headerLinesFrom (UInt32.ofNat text.length - 1) (text ++ leftover).length 0
          (text ++ leftover) = textLines text leftover := rfl
      rw [hlines] at hzero hempty
      rw [hone, TextDecides]
      by_cases hall : ∀ line ∈ textLines text leftover, hasComment line.2 = true
      · obtain rfl : status = 0 := hzero.mpr hall
        rw [← parsedPayload_iff hlength hresult]
        constructor
        · rintro ⟨hpayload, -⟩
          obtain ⟨other, hsame, hparsed⟩ := hpayload rfl
          obtain rfl : text = other := Option.some.inj hsame
          exact Or.inr ⟨hall, hparsed⟩
        · rintro (⟨line, hfirst, hnone⟩ | ⟨-, hparsed⟩)
          · rw [hall line (List.mem_of_head? hfirst)] at hnone
            cases hnone
          · exact ⟨fun _ => ⟨text, rfl, hparsed⟩, fun hfailed => absurd rfl hfailed⟩
      · have hstatus : status ≠ 0 := fun heq => hall (hzero.mp heq)
        constructor
        · rintro ⟨-, hnothing⟩
          have hfirstFails := hempty.mp (hnothing hstatus)
          cases hhead : (textLines text leftover).head? with
          | none =>
              rw [List.head?_eq_none_iff] at hhead
              rw [hhead] at hall
              exact absurd (List.forall_mem_nil _) hall
          | some line => exact Or.inl ⟨line, rfl, hfirstFails line hhead⟩
        · rintro (⟨line, hfirst, hnone⟩ | ⟨hcomments, -⟩)
          · refine ⟨fun heq => absurd heq hstatus, fun _ => hempty.mpr fun other hother => ?_⟩
            obtain rfl : line = other := Option.some.inj (hfirst.symm.trans hother)
            exact hnone
          · exact absurd hcomments hall

/-- Replies that bring a block, whatever the command. -/
def answeringFcc : FccTry :=
  ⟨3, 0, fun _ => ⟨10, .received (ascii "0042BF=YWJj;") (by decide) (by decide)⟩⟩

/-- A line with an `=` that ends without a `/`. -/
def openCard : Card where
  chars := ascii "FOCUS   = 12.5" ++ List.replicate 66 32
  length_eq := by decide
  nul_free := by decide

/-- One card is all there is: 0 is returned, with its header. -/
theorem objectCard_reported :
    ∃ result, getAristarchosHeaders (fun _ _ => (0, objectCard.chars)) (fun _ _ => answeringFcc)
        1 (CharArray.zero _) [] = .ok result ∧
      ∃ asciiStr buffer,
        headersLoop (fun _ _ => (0, objectCard.chars)) (fun _ _ => answeringFcc) 1 1 0
          (CharArray.zero _) = .ok (asciiStr, buffer) ∧
        (ReportsPayload asciiStr result ↔
          ∀ text, asciiStr = some text →
            TextDecides text (buffer.bytes.drop text.length)) := by
  have hresult : getAristarchosHeaders (fun _ _ => (0, objectCard.chars))
      (fun _ _ => answeringFcc) 1 (CharArray.zero _) [] = .ok (0, [objectHeader]) := by
    decide +kernel
  exact ⟨_, hresult, getAristarchosHeaders_reports_iff hresult⟩

/-- The second card fails, and the header of the first stays in the vector. -/
theorem openCard_leaves_header :
    getAristarchosHeaders (fun _ _ => (0, objectCard.chars ++ openCard.chars))
        (fun _ _ => answeringFcc) 1 (CharArray.zero _) [] = .ok (-1, [objectHeader]) ∧
      ¬ ∀ (decompress : Decompress) (fcc : Nat → Nat → FccTry) (numTries : Int)
        (asciiBuf : AsciiBuffer) (headers : List FitsHeader) (result : Int × List FitsHeader)
        (asciiStr : Option (List UInt8)) (buffer : AsciiBuffer), 1 ≤ numTries →
        getAristarchosHeaders decompress fcc numTries asciiBuf headers = .ok result →
        headersLoop decompress fcc numTries numTries.toNat 0 asciiBuf =
          .ok (asciiStr, buffer) →
        ReportsPayload asciiStr result := by
  have hresult : getAristarchosHeaders
      (fun _ _ => (0, objectCard.chars ++ openCard.chars)) (fun _ _ => answeringFcc) 1
      (CharArray.zero _) [] = .ok (-1, [objectHeader]) := by
    decide +kernel
  refine ⟨hresult, fun hreports => ?_⟩
  obtain ⟨⟨asciiStr, buffer⟩, hloop, -⟩ := checked_bind_eq_ok.mp hresult
  have hempty := (hreports _ _ 1 _ [] _ asciiStr buffer (by decide) hresult hloop).2 (by decide)
  cases hempty

end Andor2k
