/-
decoded_str_to_header on a text that is nothing but well-formed cards: every card with
an `=` is one header, cut at the columns of the card.
-/
import Andor2k.HeaderText

namespace Andor2k

open CText

/-- Where the comment of a header line begins: the first `/` from the `=` on, or the end. -/
def Card.slash (card : Card) : Nat :=
  8 + ((card.chars.drop 8).takeWhile (· ≠ 47)).length

/-- A card whose value and comment fit their fields, if it is a header line at all. -/
structure FittingCard extends Card where
  slash_fits : chars[8]? = some 61 → 16 ≤ toCard.slash ∧ toCard.slash ≤ 42

theorem Card.length_keyword_lt (card : Card) :
    (card.chars.take 8).length < fitsHeaderKeynameChars :=
  lt_of_le_of_lt (List.length_take_le 8 card.chars) (by decide)

theorem FittingCard.length_value_lt (card : FittingCard) (hmark : card.chars[8]? = some 61) :
    ((card.chars.take card.slash).drop 11).length < fitsHeaderValueChars := by
  have hslash := (card.slash_fits hmark).2
  rw [List.length_drop, List.length_take, card.length_eq, headerSize, fitsHeaderValueChars]
  omega

theorem FittingCard.length_comment_lt (card : FittingCard)
    (hmark : card.chars[8]? = some 61) :
    (card.chars.drop (card.slash + 1)).length < fitsHeaderCommentChars := by
  have hslash := (card.slash_fits hmark).1
  rw [List.length_drop, card.length_eq, headerSize, fitsHeaderCommentChars]
  omega

/-- The header of a card, column by column. -/
def FittingCard.header (card : FittingCard) : Option FitsHeader :=
  if hmark : card.chars[8]? = some 61 then
    some
      { key := card.chars.take 8
        comment := card.chars.drop (card.slash + 1)
        key_fits := card.length_keyword_lt
        comment_fits := card.length_comment_lt hmark
        value := .cval ((card.chars.take card.slash).drop 11) (card.length_value_lt hmark) }
  else none

/-- What the parser makes of a card. -/
def FittingCard.line (card : FittingCard) : HeaderLine :=
  match card.header with
  | none => .skipped
  | some hdr => .resolved hdr

/-- Up to its `/` a card holds neither a NUL nor another `/`. -/
theorem Card.drop_eq_of_slash (card : Card) (hslash : card.slash < headerSize) :
    ∃ before after, card.chars.drop 8 = before ++ 47 :: after ∧
      card.slash = 8 + before.length ∧ ∀ byte ∈ before, byte ≠ 0 ∧ byte ≠ 47 := by
  have hmem : 47 ∈ card.chars.drop 8 := by
    by_contra hnone
    have hself : (card.chars.drop 8).takeWhile (· ≠ 47) = card.chars.drop 8 :=
      takeWhile_ne_self hnone
    rw [slash, hself, List.length_drop, card.length_eq, headerSize] at hslash
    omega
  obtain ⟨before, after, hdrop, hfirst⟩ := List.eq_append_cons_of_mem hmem
  have hne : ∀ byte ∈ before, byte ≠ 47 := fun byte hbyte hequal => hfirst (hequal ▸ hbyte)
  have hwhile : (card.chars.drop 8).takeWhile (· ≠ 47) = before := by
    rw [hdrop, List.takeWhile_append_of_pos (by simpa using hne),
      List.takeWhile_cons_of_neg (by simp), List.append_nil]
  refine ⟨before, after, hdrop, by rw [slash, hwhile], fun byte hbyte => ⟨?_, hne byte hbyte⟩⟩
  intro hzero
  have hdropped : byte ∈ card.chars.drop 8 := hdrop ▸ List.mem_append_left _ hbyte
  exact card.nul_free (hzero ▸ List.mem_of_mem_drop hdropped)

/-- The parts of a header line that is a fitting card, whatever follows it. -/
theorem FittingCard.headerText (card : FittingCard) (rest : List UInt8) {hdr : FitsHeader}
    (hheader : card.header = some hdr) :
    ∃ field post, HeaderText (card.chars ++ rest) hdr field post := by
  rw [header] at hheader
  split at hheader
  · rename_i hmark
    obtain ⟨hstart, hstop⟩ := card.slash_fits hmark
    obtain ⟨before, after, hdrop, hslash, hbefore⟩ :=
      card.toCard.drop_eq_of_slash (by rw [headerSize]; omega)
    have hlength : before.length + (after.length + 1) = 72 := by
      have hdropped := congrArg List.length hdrop
      rw [List.length_drop, card.length_eq, headerSize, List.length_append,
        List.length_cons] at hdropped
      exact hdropped.symm
    have hvalue : (card.chars.take card.slash).drop 11 = before.drop 3 := by
      have height : (card.chars.take card.slash).drop 8 = before := by
        rw [List.drop_take, hdrop, hslash, Nat.add_sub_cancel_left, List.take_left]
      rw [← height, List.drop_drop]
    have hcomment : card.chars.drop (card.slash + 1) = after := by
      rw [hslash, Nat.add_assoc, ← List.drop_drop, hdrop, ← List.drop_drop, List.drop_left]
      rfl
    have hnul : 0 ∉ after := fun hzero => card.nul_free
      (List.mem_of_mem_drop (hcomment ▸ hzero))
    have hlimit : 71 - before.length = after.length := by omega
    rw [← Option.some.inj hheader]
    exact ⟨before, after ++ rest,
      { text_eq := by
          rw [List.drop_append_of_le_length (by rw [card.length_eq]; decide), hdrop,
            List.append_assoc, List.cons_append]
        mark := by
          rw [← List.head?_drop, hdrop,
            List.head?_append_of_ne_nil _ (List.ne_nil_of_length_pos (by omega))] at hmark
          exact hmark
        clean := hbefore
        long := by omega
        key := boundedText_card card.toCard rest (by decide)
        value := ⟨hvalue ▸ card.length_value_lt hmark, by simp only [hvalue]⟩
        comment := by
          rw [boundedText_append hnul hlimit.le, hlimit, List.take_length]
          exact congrArg Except.ok hcomment.symm }⟩
  · cases hheader

/-- A fitting card is one line, whatever follows it. -/
theorem headerLine_fittingCard (card : FittingCard) (rest : List UInt8) :
    headerLine (card.chars ++ rest) = .ok card.line := by
  have hprinted := boundedText_card card.toCard rest (show headerSize - 1 ≤ headerSize by decide)
  cases hheader : card.header with
  | some hdr =>
      obtain ⟨field, post, htext⟩ := card.headerText rest hheader
      rw [FittingCard.line, hheader]
      exact htext.resolved ⟨_, hprinted⟩
  | none =>
      have hmark : ¬ card.chars[8]? = some 61 := by
        intro hequal
        rw [FittingCard.header, dif_pos hequal] at hheader
        cases hheader
      obtain ⟨mark, hmemory⟩ : ∃ mark, card.chars[8]? = some mark :=
        ⟨_, List.getElem?_eq_getElem (by rw [card.length_eq]; decide)⟩
      have hother : mark ≠ 61 := fun hequal => hmark (hequal ▸ hmemory)
      rw [FittingCard.line, hheader, headerLine, hprinted, getElem?_card, hmemory]
      simp [hother, bind, Except.bind, pure, Except.pure]

/-- The loop takes the cards one by one, and stops behind the last of them. -/
theorem headerLines_fittingCards {msgLen : UInt32} {cards : List FittingCard} {next : UInt8}
    {rest : List UInt8} {lines offset : Nat}
    (hlength : msgLen.toNat + 1 = offset + headerSize * cards.length)
    (hlines : cards.length < lines) :
    headerLines msgLen lines offset
        (cards.flatMap (fun card => card.chars) ++ next :: rest) =
      .ok (0, cards.filterMap FittingCard.header) := by
  induction cards generalizing lines offset with
  | nil =>
      obtain ⟨lines, rfl⟩ := Nat.exists_eq_succ_of_ne_zero (Nat.ne_zero_of_lt hlines)
      have hover : msgLen.toNat < offset := by
        rw [List.length_nil, Nat.mul_zero] at hlength
        omega
      simp [headerLines, hover]
  | cons card later ih =>
      obtain ⟨lines, rfl⟩ := Nat.exists_eq_succ_of_ne_zero (Nat.ne_zero_of_lt hlines)
      rw [List.length_cons, Nat.mul_succ] at hlength
      rw [List.length_cons] at hlines
      have hdrop : (card.chars ++ (later.flatMap (fun card => card.chars) ++ next :: rest)).drop
          headerSize = later.flatMap (fun card => card.chars) ++ next :: rest := by
        rw [← card.length_eq, List.drop_left]
      obtain ⟨first, hfirst⟩ : ∃ first, card.chars.head? = some first :=
        ⟨_, List.head?_eq_some_head (List.ne_nil_of_length_pos
          (by rw [card.length_eq]; decide))⟩
      have hgoes : ¬ (first = 0 ∨ msgLen.toNat < offset) := by
        rintro (hzero | hover)
        · exact card.nul_free (hzero ▸ List.mem_of_head? hfirst)
        · rw [headerSize] at hlength
          omega
      have hrest : headerLines msgLen lines (offset + headerSize)
          (later.flatMap (fun card => card.chars) ++ next :: rest) =
            .ok (0, later.filterMap FittingCard.header) :=
        ih (by omega) (by omega)
      rw [List.flatMap_cons, List.append_assoc, headerLines,
        List.head?_append_of_ne_nil _ (List.ne_nil_of_length_pos
          (by rw [card.length_eq]; decide)), hfirst]
      simp only [if_neg hgoes, headerLine_fittingCard, hdrop]
      rw [FittingCard.line]
      cases hheader : card.header with
      | none =>
          rw [List.filterMap_cons_none hheader]
          exact hrest
      | some hdr =>
          rw [List.filterMap_cons_some hheader]
          simp [hrest, bind, Except.bind, pure, Except.pure]

/-- `decoded_str_to_header` on a text of cards: whatever comes behind the text, the
headers are those of the cards, in their order. -/
theorem decodedStrToHeader_fittingCards (cards : List FittingCard) (next : UInt8)
    (rest : List UInt8) {msgLen : UInt32}
    (hlength : msgLen.toNat + 1 = headerSize * cards.length) :
    decodedStrToHeader (cards.flatMap (fun card => card.chars) ++ next :: rest) msgLen =
      .ok (0, cards.filterMap FittingCard.header) := by
  have hcount : (cards.flatMap (fun card => card.chars)).length = headerSize * cards.length := by
    rw [List.length_flatMap, List.map_congr_left (fun card _ => card.length_eq),
      List.map_const', List.sum_replicate_nat, Nat.mul_comm]
  have hlines : cards.length <
      (cards.flatMap (fun card => card.chars) ++ next :: rest).length := by
    rw [List.length_append, List.length_cons, hcount, headerSize]
    omega
  exact headerLines_fittingCards (by rw [Nat.zero_add]; exact hlength) hlines

def blankCard : FittingCard where
  chars := List.replicate 80 32
  length_eq := by decide
  nul_free := by decide
  slash_fits := by decide

def fittingObjectCard : FittingCard where
  toCard := objectCard
  slash_fits := by decide

/-- The line between the two has no `=`; the bytes behind them look like a third header. -/
theorem decodedStrToHeader_objects :
    decodedStrToHeader (objectCard.chars ++ (blankCard.chars ++ (objectCard.chars ++
      objectCard.chars))) 239 = .ok (0, [objectHeader, objectHeader]) := by
  have hheaders : [fittingObjectCard, blankCard, fittingObjectCard].filterMap
      FittingCard.header = [objectHeader, objectHeader] := by
    decide +kernel
  have hdecoded := decodedStrToHeader_fittingCards
    [fittingObjectCard, blankCard, fittingObjectCard] 79 objectCard.chars.tail
    (show (239 : UInt32).toNat + 1 = headerSize * 3 by decide)
  have hnext : (79 : UInt8) :: objectCard.chars.tail = objectCard.chars := by decide
  rw [hheaders, hnext] at hdecoded
  simpa [fittingObjectCard] using hdecoded

end Andor2k
