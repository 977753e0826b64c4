/-
What decoded_str_to_header reads: a line is read from its own bytes, whatever lies behind
them, and the loop reads nothing behind the text if it comes to its end inside.
-/
import Andor2k.FieldCopies

namespace Andor2k

open CText

theorem boundedText_append_of_ok {memory chars : List UInt8} {limit : Nat}
    (hchars : boundedText memory limit = .ok chars) (other : List UInt8) :
    boundedText (memory ++ other) limit = .ok chars := by
  obtain ⟨hread, hends⟩ := boundedText_eq_ok.mp hchars
  have hlimit := length_boundedText_le hchars
  refine boundedText_eq_ok.mpr ⟨?_, ?_⟩
  · rw [← hread, List.take_append]
    rcases Nat.lt_or_ge memory.length limit with hshort | hlong
    · -- the text has ended at a NUL inside
      rw [List.take_of_length_le hshort.le] at hread ⊢
      rw [List.takeWhile_append, if_neg]
      rw [hread]
      omega
    · rw [Nat.sub_eq_zero_of_le hlong, List.take_zero, List.append_nil]
  · have hinside : chars.length ≤ memory.length := by
      rw [← hread]
      exact ((List.takeWhile_prefix _).trans (List.take_prefix _ _)).length_le
    rw [List.length_append]
    omega

theorem strchr_append_of_ok {wanted : UInt8} {memory : List UInt8} {found : Option Nat}
    (hfound : strchr wanted memory = .ok found) (other : List UInt8) :
    strchr wanted (memory ++ other) = .ok found := by
  let goes : UInt8 → Bool := fun byte => byte ≠ 0 ∧ byte ≠ wanted
  have hstop : (memory.takeWhile goes).length ≠ memory.length := by
    intro hall
    rw [strchr] at hfound
    simp only [goes] at hall
    rw [hall, List.drop_length] at hfound
    cases hfound
  have hwhile : (memory ++ other).takeWhile goes = memory.takeWhile goes := by
    rw [List.takeWhile_append, if_neg hstop]
  have hlength : (memory.takeWhile goes).length < memory.length :=
    (List.takeWhile_prefix _).length_le.lt_of_ne hstop
  rw [← hfound, strchr, strchr]
  simp only [goes] at hwhile hlength
  rw [hwhile, List.drop_append_of_le_length hlength.le,
    List.head?_append_of_ne_nil _ (by rw [ne_eq, List.drop_eq_nil_iff]; omega)]

theorem copyField_append_of_ok {size : Nat} {source : List UInt8} {count : Int}
    {field : { chars : Text // chars.length < size }}
    (hcopy : copyField size source count = .ok field) (other : List UInt8) :
    copyField size (source ++ other) count = .ok field :=
  copyField_of_boundedText (copyField_range hcopy)
    (boundedText_append_of_ok (copyField_eq_ok hcopy) other) field.2

/-- A line that can be read is what it is, whatever follows. -/
theorem headerLine_append {start : List UInt8} {line : HeaderLine}
    (hline : headerLine start = .ok line) (other : List UInt8) :
    headerLine (start ++ other) = .ok line := by
  obtain ⟨printed, hprinted, -⟩ := checked_bind_eq_ok.mp hline
  have hprintedMore := boundedText_append_of_ok hprinted other
  have hmarkMore : ∀ mark, start[8]? = some mark → (start ++ other)[8]? = some mark := by
    intro mark hmark
    have hlength := (List.getElem?_eq_some_iff.mp hmark).1
    rw [List.getElem?_append_left hlength, hmark]
  rcases headerLine_cases hline with ⟨rfl, hother⟩ |
    ⟨hmark, ⟨rfl, hnone⟩ | ⟨hdr, before, cval, rfl, -⟩⟩
  · cases hmark : start[8]? with
    | none =>
        rw [headerLine, hprinted, hmark] at hline
        cases hline
    | some mark =>
        have hne : mark ≠ 61 := fun hequal => hother (by rw [hmark, hequal])
        rw [headerLine, hprintedMore, hmarkMore mark hmark]
        exact if_pos hne
  · have hdrop : (start ++ other).drop 8 = start.drop 8 ++ other :=
      List.drop_append_of_le_length (by
        have hlength := (List.getElem?_eq_some_iff.mp hmark).1
        omega)
    cases hkey : copyField fitsHeaderKeynameChars start 8 with
    | error fault =>
        simp [headerLine, hprinted, hmark, hkey, bind, Except.bind] at hline
    | ok key =>
        rw [headerLine, hprintedMore, hmarkMore 61 hmark]
        simp only [copyField_append_of_ok hkey other, hdrop, strchr_append_of_ok hnone other, bind,
          Except.bind, ne_eq, not_true_eq_false, if_false, pure, Except.pure]
  · obtain ⟨field, post, hparts⟩ := HeaderText.of_resolved hline
    have hlong := hparts.long
    have hlength := congrArg List.length hparts.text_eq
    rw [List.length_drop, List.length_append, List.length_cons] at hlength
    have hmore : HeaderText (start ++ other) hdr field (post ++ other) :=
      { text_eq := by
          rw [List.drop_append_of_le_length (by omega), hparts.text_eq, List.append_assoc,
            List.cons_append]
        mark := hparts.mark
        clean := hparts.clean
        long := hparts.long
        key := boundedText_append_of_ok hparts.key other
        value := hparts.value
        comment := boundedText_append_of_ok hparts.comment other }
    exact hmore.resolved ⟨printed, hprintedMore⟩

/-- A line without its `=`, or one with its `/` where the copies fit. -/
def PassedOver (card : List UInt8) : Prop :=
  card[8]? = some 61 →
    ∃ before, strchr 47 (card.drop 8) = .ok (some before) ∧ ColumnsFit card (8 + before)

theorem headerLine_of_passedOver {card : List UInt8} (hlength : card.length = headerSize)
    (hpassed : PassedOver card) :
    headerLine card = .ok .skipped ∨ ∃ hdr, headerLine card = .ok (.resolved hdr) := by
  by_cases hmark : card[8]? = some 61
  · obtain ⟨before, hfound, hfits⟩ := hpassed hmark
    exact Or.inr (headerLine_of_slash hmark hfound hfits hlength.ge)
  · exact Or.inl (headerLine_of_other hmark hlength.ge)

theorem columnsFit_of_resolved {card : List UInt8} {hdr : FitsHeader}
    (hline : headerLine card = .ok (.resolved hdr)) :
    ∃ before, strchr 47 (card.drop 8) = .ok (some before) ∧ ColumnsFit card (8 + before) := by
  obtain ⟨field, post, hparts⟩ := HeaderText.of_resolved hline
  obtain ⟨hfits, -⟩ := hparts.value
  have hlong := hparts.long
  have hcomment := hdr.comment_fits
  rw [List.length_drop, fitsHeaderValueChars] at hfits
  rw [fitsHeaderCommentChars] at hcomment
  have hfound : strchr 47 (card.drop 8) = .ok (some field.length) := by
    rw [hparts.text_eq]
    exact strchr_append_cons (by decide) hparts.clean
  refine ⟨field.length, hfound, by omega, by omega, fun hwidest => ?_⟩
  obtain ⟨hread, hmore⟩ := boundedText_eq_ok.mp hparts.comment
  have hpost : card.drop 16 = post := by
    rw [← drop_behind_slash hparts.text_eq]
    congr 1
    omega
  have hlimit : 71 - field.length = 64 := by omega
  rw [hlimit] at hread hmore
  rw [hpost]
  by_contra hnul
  rw [takeWhile_ne_self hnul] at hread
  rw [← hread, List.length_take] at hcomment hmore
  omega

/-- The text comes to its end inside: at a NUL in front of a line, or at a header line that
has a NUL and no `/` before it; the lines passed over before are whole. -/
inductive EndsInText : List UInt8 → Prop
  | nul (rest : List UInt8) : EndsInText (0 :: rest)
  | failed (card rest : List UInt8) : card.length ≤ headerSize → card[8]? = some 61 →
      strchr 47 (card.drop 8) = .ok none → EndsInText (card ++ rest)
  | passed (card rest : List UInt8) : card.length = headerSize → PassedOver card →
      EndsInText rest → EndsInText (card ++ rest)

theorem EndsInText.ne_nil {text : List UInt8} (hends : EndsInText text) : text ≠ [] := by
  cases hends with
  | nul rest => exact List.cons_ne_nil _ _
  | failed card rest hlength hmark hnone =>
      rintro hnil
      rw [(List.append_eq_nil_iff.mp hnil).1] at hmark
      cases hmark
  | passed card rest hlength hpassed hrest =>
      rintro hnil
      rw [(List.append_eq_nil_iff.mp hnil).1] at hlength
      cases hlength

theorem nul_mem_of_strchr {wanted : UInt8} {memory : List UInt8}
    (hnone : strchr wanted memory = .ok none) : 0 ∈ memory := by
  rw [strchr] at hnone
  split at hnone
  · cases hnone
  · rename_i byte hbyte
    split at hnone
    · rename_i hzero
      rw [hzero] at hbyte
      exact List.mem_of_mem_drop (List.mem_of_head? hbyte)
    · cases hnone

theorem boundedText_of_nul {memory : List UInt8} (hnul : 0 ∈ memory) (limit : Nat) :
    ∃ chars, boundedText memory limit = .ok chars := by
  refine ⟨_, boundedText_eq_ok.mpr ⟨rfl, ?_⟩⟩
  rintro ⟨hlength, -⟩
  have hprefix := (List.takeWhile_prefix (fun byte : UInt8 => decide (byte ≠ 0))).trans
    (List.take_prefix limit memory)
  rw [← hprefix.eq_of_length hlength] at hnul
  simpa using List.mem_takeWhile_imp hnul

theorem headerLine_of_nul {card : List UInt8} (hmark : card[8]? = some 61)
    (hnone : strchr 47 (card.drop 8) = .ok none) : headerLine card = .ok .failed := by
  have hnul : 0 ∈ card := List.mem_of_mem_drop (nul_mem_of_strchr hnone)
  obtain ⟨printed, hprinted⟩ := boundedText_of_nul hnul (headerSize - 1)
  obtain ⟨key, hkey⟩ := boundedText_of_nul hnul 8
  have hcopy : copyField fitsHeaderKeynameChars card 8 = .ok ⟨key, _⟩ :=
    copyField_of_boundedText (by decide) hkey
      (lt_of_le_of_lt (length_boundedText_le hkey) (by decide))
  rw [headerLine, hprinted, hmark]
  simp only [hcopy, hnone, bind, Except.bind, ne_eq, not_true_eq_false, if_false, pure,
    Except.pure]

theorem headerLines_of_nul (msgLen : UInt32) (lines offset : Nat) {start : List UInt8}
    (hnul : start.head? = some 0) : headerLines msgLen (lines + 1) offset start = .ok (0, []) := by
  rw [headerLines, hnul]
  exact if_pos (Or.inl rfl)

/-- The loop from `start` on comes to the same end whatever lies behind `start`. -/
def EndsAlike (msgLen : UInt32) (offset : Nat) (start : List UInt8) : Prop :=
  ∃ result, ∀ beyond lines, (start ++ beyond).length ≤ lines →
    headerLines msgLen lines offset (start ++ beyond) = .ok result

/-- One round: a line that can be read, and, unless it fails, what comes behind it. -/
theorem EndsAlike.round {msgLen : UInt32} {offset : Nat} {card rest : List UInt8}
    {line : HeaderLine} (hline : headerLine card = .ok line) (hne : card ++ rest ≠ [])
    (hreach : offset + (card ++ rest).length ≤ msgLen.toNat + 1)
    (hlater : line ≠ .failed →
      card.length = headerSize ∧ EndsAlike msgLen (offset + headerSize) rest) :
    EndsAlike msgLen offset (card ++ rest) := by
  obtain ⟨first, tail, hstart⟩ := List.exists_cons_of_ne_nil hne
  have hfirst : ∀ beyond, (card ++ rest ++ beyond).head? = some first := fun beyond => by
    rw [hstart, List.cons_append, List.head?_cons]
  have hround : ∀ {beyond : List UInt8} {lines : Nat}, (card ++ rest ++ beyond).length ≤ lines →
      ∃ fewer, lines = fewer + 1 ∧ (card ++ rest ++ beyond).length ≤ fewer + 1 := by
    intro beyond lines hlines
    have hpos : 0 < (card ++ rest ++ beyond).length := by
      rw [hstart, List.cons_append, List.length_cons]
      exact Nat.succ_pos _
    exact ⟨lines - 1, by omega, by omega⟩
  by_cases hnul : first = 0
  · refine ⟨(0, []), fun beyond lines hlines => ?_⟩
    obtain ⟨fewer, rfl, -⟩ := hround hlines
    exact headerLines_of_nul msgLen fewer offset (hnul ▸ hfirst beyond)
  · have hgoes : ¬ (first = 0 ∨ msgLen.toNat < offset) := by
      rintro (hzero | hover)
      · exact hnul hzero
      · rw [hstart, List.length_cons] at hreach
        omega
    have hmore : ∀ beyond, headerLine (card ++ rest ++ beyond) = .ok line := fun beyond => by
      rw [List.append_assoc]
      exact headerLine_append hline _
    have htail : card.length = headerSize → ∀ {beyond : List UInt8} {fewer : Nat},
        (card ++ rest ++ beyond).length ≤ fewer + 1 →
          (card ++ rest ++ beyond).drop headerSize = rest ++ beyond ∧
            (rest ++ beyond).length ≤ fewer := by
      intro hlength beyond fewer hlines
      rw [List.append_assoc] at hlines ⊢
      rw [List.length_append, hlength, headerSize] at hlines
      exact ⟨by rw [← hlength, List.drop_left], by omega⟩
    cases line with
    | failed =>
        refine ⟨(-1, []), fun beyond lines hlines => ?_⟩
        obtain ⟨fewer, rfl, -⟩ := hround hlines
        exact (headerLines_succ (hfirst beyond) hgoes).mpr (Or.inl ⟨hmore beyond, rfl, rfl⟩)
    | skipped =>
        obtain ⟨hlength, ⟨status, headers⟩, hrest⟩ := hlater (by decide)
        refine ⟨(status, headers), fun beyond lines hlines => ?_⟩
        obtain ⟨fewer, rfl, hfewer⟩ := hround hlines
        obtain ⟨hdrop, hleft⟩ := htail hlength hfewer
        apply (headerLines_succ (hfirst beyond) hgoes).mpr
        rw [hdrop]
        exact Or.inr (Or.inl ⟨hmore beyond, hrest beyond fewer hleft⟩)
    | resolved hdr =>
        obtain ⟨hlength, ⟨status, headers⟩, hrest⟩ := hlater (by rintro ⟨⟩)
        refine ⟨(status, hdr :: headers), fun beyond lines hlines => ?_⟩
        obtain ⟨fewer, rfl, hfewer⟩ := hround hlines
        obtain ⟨hdrop, hleft⟩ := htail hlength hfewer
        apply (headerLines_succ (hfirst beyond) hgoes).mpr
        rw [hdrop]
        exact Or.inr (Or.inr ⟨hdr, headers, hmore beyond, rfl, hrest beyond fewer hleft⟩)

/-- A text that ends inside is all the loop looks at. -/
theorem EndsInText.endsAlike {msgLen : UInt32} {start : List UInt8} (hends : EndsInText start)
    {offset : Nat} (hreach : offset + start.length ≤ msgLen.toNat + 1) :
    EndsAlike msgLen offset start := by
  induction hends generalizing offset with
  | nul rest =>
      refine ⟨(0, []), fun beyond lines hlines => ?_⟩
      obtain ⟨fewer, rfl⟩ : ∃ fewer, lines = fewer + 1 := ⟨lines - 1, by
        rw [List.cons_append, List.length_cons] at hlines
        omega⟩
      exact headerLines_of_nul msgLen fewer offset rfl
  | failed card rest hlength hmark hnone =>
      exact EndsAlike.round (headerLine_of_nul hmark hnone)
        (EndsInText.failed card rest hlength hmark hnone).ne_nil hreach
        (fun hother => absurd rfl hother)
  | passed card rest hlength hpassed hrest ih =>
      have hbehind : offset + headerSize + rest.length ≤ msgLen.toNat + 1 := by
        rw [List.length_append, hlength] at hreach
        omega
      have hne := (EndsInText.passed card rest hlength hpassed hrest).ne_nil
      rcases headerLine_of_passedOver hlength hpassed with hline | ⟨hdr, hline⟩
      · exact EndsAlike.round hline hne hreach fun _ => ⟨hlength, ih hbehind⟩
      · exact EndsAlike.round hline hne hreach fun _ => ⟨hlength, ih hbehind⟩

/-- A line that is read from its first bytes is read from any that begin with them. -/
theorem headerLine_take {card rest : List UInt8} {line : HeaderLine}
    (hline : headerLine card = .ok line) (hlength : card.length ≤ headerSize)
    (other : List UInt8) :
    headerLine ((card ++ rest).take headerSize ++ other) = headerLine (card ++ rest) := by
  rw [List.take_append, List.take_of_length_le hlength, List.append_assoc,
    headerLine_append hline, headerLine_append hline]

theorem EndsInText.records {msgLen : UInt32} {text : List UInt8} (hends : EndsInText text)
    (lines offset : Nat) :
    ∀ start ∈ linesEntered msgLen lines offset text, ∀ other,
      headerLine (start.take headerSize ++ other) = headerLine start := by
  induction hends generalizing lines offset with
  | nul rest =>
      cases lines with
      | zero => exact List.forall_mem_nil _
      | succ lines =>
          rw [linesEntered, List.head?_cons]
          dsimp only
          rw [if_pos (Or.inl rfl)]
          exact List.forall_mem_nil _
  | failed card rest hlength hmark hnone =>
      have hline := headerLine_of_nul hmark hnone
      cases lines with
      | zero => exact List.forall_mem_nil _
      | succ lines =>
          rw [linesEntered, headerLine_append hline]
          split
          · exact List.forall_mem_nil _
          · split
            · exact List.forall_mem_nil _
            · exact List.forall_mem_cons.mpr
                ⟨headerLine_take hline hlength, List.forall_mem_nil _⟩
  | passed card rest hlength hpassed hrest ih =>
      have hdrop : (card ++ rest).drop headerSize = rest := by
        rw [← hlength, List.drop_left]
      cases lines with
      | zero => exact List.forall_mem_nil _
      | succ lines =>
          rw [linesEntered, hdrop]
          split
          · exact List.forall_mem_nil _
          · split
            · exact List.forall_mem_nil _
            · rcases headerLine_of_passedOver hlength hpassed with hline | ⟨hdr, hline⟩
              · rw [headerLine_append hline]
                exact List.forall_mem_cons.mpr ⟨headerLine_take hline hlength.le, ih _ _⟩
              · rw [headerLine_append hline]
                exact List.forall_mem_cons.mpr ⟨headerLine_take hline hlength.le, ih _ _⟩

/-- No byte behind the text is read, and each line is read from its own bytes. -/
structure StaysInText (text : List UInt8) : Prop where
  within : ∃ result, ∀ beyond,
    decodedStrToHeader (text ++ beyond) (UInt32.ofNat text.length - 1) = .ok result
  records : ∀ start ∈ linesEntered (UInt32.ofNat text.length - 1) text.length 0 text,
    ∀ other, headerLine (start.take headerSize ++ other) = headerLine start

/-- What a run looks at, if no more than its text, ends inside. -/
theorem EndsInText.of_run {msgLen : UInt32} {lines offset : Nat} {start : List UInt8}
    {result : Int × List FitsHeader} (hrun : headerLines msgLen lines offset start = .ok result)
    (hrecords : ∀ line ∈ linesEntered msgLen lines offset start,
      ∀ other, headerLine (line.take headerSize ++ other) = headerLine line)
    (hreach : offset + start.length ≤ msgLen.toNat + 1) : EndsInText start := by
  induction lines generalizing offset start result with
  | zero => cases hrun
  | succ lines ih =>
      cases start with
      | nil => cases hrun
      | cons first tail =>
          by_cases hnul : first = 0
          · rw [hnul]
            exact EndsInText.nul tail
          · have hgoes : ¬ (first = 0 ∨ msgLen.toNat < offset) := by
              rintro (hzero | hover)
              · exact hnul hzero
              · rw [List.length_cons] at hreach
                omega
            rw [linesEntered, List.head?_cons] at hrecords
            dsimp only at hrecords
            rw [if_neg hgoes] at hrecords
            obtain ⟨status, headers⟩ := result
            have hfirst : (first :: tail).head? = some first := rfl
            have hcard := hrecords (first :: tail) List.mem_cons_self []
            rw [List.append_nil] at hcard
            have hsplit : (first :: tail).take headerSize ++ (first :: tail).drop headerSize =
                first :: tail := List.take_append_drop _ _
            -- a line the loop goes on behind is whole, for it reads the byte that follows
            have hwhole : ∀ {fewer : Nat} {later : Int × List FitsHeader},
                headerLines msgLen fewer (offset + headerSize) ((first :: tail).drop headerSize) =
                  .ok later → ((first :: tail).take headerSize).length = headerSize ∧
                    offset + headerSize + ((first :: tail).drop headerSize).length ≤
                      msgLen.toNat + 1 := by
              intro fewer later hlater
              have hmore : (first :: tail).drop headerSize ≠ [] := by
                intro hnil
                rw [hnil] at hlater
                cases fewer with
                | zero => cases hlater
                | succ fewer => cases hlater
              have hlong := List.length_pos_iff.mpr hmore
              rw [List.length_drop] at hlong ⊢
              rw [List.length_take]
              exact ⟨by omega, by omega⟩
            rcases (headerLines_succ hfirst hgoes).mp hrun with ⟨hline, -, -⟩ |
              ⟨hline, hlater⟩ | ⟨hdr, later, hline, -, hlater⟩
            · rw [hline] at hcard
              rw [← hsplit]
              rcases headerLine_cases hcard with ⟨hskipped, -⟩ |
                ⟨hmark, ⟨-, hnone⟩ | ⟨_, _, _, hresolved, -⟩⟩
              · cases hskipped
              · exact EndsInText.failed _ _ (List.length_take_le _ _) hmark hnone
              · cases hresolved
            · obtain ⟨hlength, hbehind⟩ := hwhole hlater
              rw [hline] at hcard hrecords
              rw [← hsplit]
              refine EndsInText.passed _ _ hlength (fun hmark => ?_)
                (ih hlater (fun line hmem => hrecords line (List.mem_cons_of_mem _ hmem)) hbehind)
              exact absurd hmark (headerLine_marks hcard)
            · obtain ⟨hlength, hbehind⟩ := hwhole hlater
              rw [hline] at hcard hrecords
              rw [← hsplit]
              exact EndsInText.passed _ _ hlength (fun _ => columnsFit_of_resolved hcard)
                (ih hlater (fun line hmem => hrecords line (List.mem_cons_of_mem _ hmem)) hbehind)

theorem reach_textLength {count : Nat} (hfits : count ≤ bz2BufferSize) :
    0 + count ≤ (UInt32.ofNat count - 1).toNat + 1 := by
  cases count with
  | zero => exact Nat.zero_le _
  | succ count => rw [toNat_textLength (Nat.succ_pos count) hfits, Nat.zero_add]

/-- The parser keeps to the text exactly when the text ends inside. -/
theorem staysInText_iff {text : List UInt8} (hfits : text.length ≤ bz2BufferSize) :
    StaysInText text ↔ EndsInText text := by
  have hreach := reach_textLength hfits
  constructor
  · rintro ⟨⟨result, hresult⟩, hrecords⟩
    have hrun := hresult []
    rw [List.append_nil] at hrun
    exact EndsInText.of_run hrun hrecords hreach
  · intro hends
    obtain ⟨result, hresult⟩ := hends.endsAlike hreach
    exact ⟨⟨result, fun beyond => hresult beyond _ (Nat.le_refl _)⟩, hends.records _ _⟩

/-- A header line that is cut off behind its value. -/
def cutText : List UInt8 := ascii "FOCUS   =   12.5"

def absorbedHeader : FitsHeader where
  key := ascii "FOCUS   "
  comment := ascii " an older reply"
  key_fits := by decide
  comment_fits := by decide
  value := .cval (ascii " 12.5") (by decide)

/-- The header of the last card is made of what was left in the buffer, or is none. -/
theorem cutText_absorbs :
    decodedStrToHeader (cutText ++ (ascii "/ an older reply" ++ List.replicate 64 0))
        (UInt32.ofNat cutText.length - 1) = .ok (0, [absorbedHeader]) ∧
      decodedStrToHeader (cutText ++ List.replicate 80 0) (UInt32.ofNat cutText.length - 1) =
        .ok (-1, []) ∧
      ¬ ∀ text : List UInt8, text.length ≤ bz2BufferSize → StaysInText text := by
  have hcleared : decodedStrToHeader (cutText ++ List.replicate 80 0)
      (UInt32.ofNat cutText.length - 1) = .ok (-1, []) := by
    decide +kernel
  have halone : decodedStrToHeader cutText (UInt32.ofNat cutText.length - 1) =
      .error .outOfBounds := by
    decide +kernel
  refine ⟨by decide +kernel, hcleared, fun hstays => ?_⟩
  obtain ⟨result, hresult⟩ := (hstays cutText (by decide)).within
  have hnothing := hresult []
  rw [List.append_nil, halone] at hnothing
  cases hnothing

/-- A text that brings its own NUL. -/
theorem objectMemory_stays : StaysInText objectMemory ↔ EndsInText objectMemory :=
  staysInText_iff (by decide)

end Andor2k
