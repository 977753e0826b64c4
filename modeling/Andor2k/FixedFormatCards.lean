/-
The fixed format of FITS cards with a string value, and what the decoder makes of it: it
looks for the `/` of the comment without a regard to the quotes.
-/
import Andor2k.FieldCopies

namespace Andor2k

open CText

/-- The keyword, the value and the comment of a card. -/
structure StringCard where
  keyword : Text
  value : Text
  comment : Text
  keyword_length : keyword.length ≤ 8
  value_length : 8 ≤ value.length ∧ value.length ≤ 18
  comment_length : comment.length ≤ 40

def padTo (width : Nat) (text : Text) : Text := (text ++ List.replicate width 32).take width

/-- A quote inside a string is written twice. -/
def doubleQuotes (value : Text) : Text :=
  value.flatMap fun byte => if byte = 39 then [39, 39] else [byte]

/-- What follows the opening quote, at index 10. -/
def StringCard.body (card : StringCard) : Text :=
  doubleQuotes card.value ++ ascii "' / " ++ card.comment

/-- The eighty characters of the card. -/
def StringCard.chars (card : StringCard) : Text :=
  padTo headerSize (padTo 8 card.keyword ++ ascii "= '" ++ card.body)

/-- The card is one header, with the value of the card up to trailing blanks. -/
def GivesBack (card : StringCard) (behind : List UInt8) : Prop :=
  ∃ hdr text fits, decodedStrToHeader (card.chars ++ 0 :: behind) 79 = .ok (0, [hdr]) ∧
    hdr.value = .cval text fits ∧ rtrim text = rtrim card.value

theorem length_padTo (width : Nat) (text : Text) : (padTo width text).length = width := by
  rw [padTo, List.length_take, List.length_append, List.length_replicate]
  omega

theorem length_doubleQuotes (value : Text) :
    value.length ≤ (doubleQuotes value).length ∧
      (doubleQuotes value).length ≤ 2 * value.length := by
  induction value with
  | nil => exact ⟨Nat.zero_le _, Nat.zero_le _⟩
  | cons byte rest ih =>
      rw [doubleQuotes, List.flatMap_cons, List.length_append, List.length_cons, ← doubleQuotes]
      split
      · rw [List.length_cons, List.length_singleton]
        omega
      · rw [List.length_singleton]
        omega

theorem mem_doubleQuotes {value : Text} {byte : UInt8} :
    byte ∈ doubleQuotes value ↔ byte ∈ value := by
  have hquoted : ∀ other : UInt8,
      byte ∈ (if other = 39 then [39, 39] else [other]) ↔ byte = other := by
    intro other
    split
    · rename_i hquote
      rw [hquote]
      simp
    · exact List.mem_singleton
  simp only [doubleQuotes, List.mem_flatMap, hquoted, exists_eq_right']

/-- The value column begins behind the opening quote. -/
theorem StringCard.drop_chars (card : StringCard) :
    ∃ rest, card.chars.drop 11 = doubleQuotes card.value ++ ascii "' " ++ 47 :: rest := by
  have hkeyword := length_padTo 8 card.keyword
  have hquoted := (length_doubleQuotes card.value).2
  have hvalue := card.value_length
  have hcolumns : (padTo 8 card.keyword ++ ascii "= '").length = 11 := by
    rw [List.length_append, hkeyword]
    rfl
  have hbody : card.body ++ List.replicate headerSize 32 =
      (doubleQuotes card.value ++ ascii "' ") ++
        47 :: (32 :: (card.comment ++ List.replicate headerSize 32)) := by
    have hseparator : ascii "' / " = ascii "' " ++ [47, 32] := by decide
    rw [StringCard.body, hseparator]
    simp only [List.append_assoc, List.cons_append, List.nil_append]
  have hlength : (doubleQuotes card.value ++ ascii "' ").length < headerSize - 11 := by
    have hclosing : (ascii "' ").length = 2 := rfl
    rw [List.length_append, hclosing, headerSize]
    omega
  obtain ⟨room, hroom⟩ : ∃ room, headerSize - 11 -
      (doubleQuotes card.value ++ ascii "' ").length = room + 1 :=
    ⟨_, (Nat.succ_pred_eq_of_pos (Nat.sub_pos_of_lt hlength)).symm⟩
  refine ⟨(32 :: (card.comment ++ List.replicate headerSize 32)).take room, ?_⟩
  rw [StringCard.chars, padTo, List.append_assoc, ← hcolumns, List.drop_take, List.drop_left,
    hcolumns, hbody, List.take_append, List.take_of_length_le hlength.le, hroom,
    List.take_succ_cons]

theorem StringCard.length_chars (card : StringCard) : card.chars.length = headerSize :=
  length_padTo _ _

/-- The first `/` ends the value. -/
theorem value_of_resolved {card : StringCard} {behind : List UInt8} {hdr : FitsHeader}
    (hline : headerLine (card.chars ++ behind) = .ok (.resolved hdr)) :
    ∃ text fits rest post, hdr.value = .cval text fits ∧ 47 ∉ text ∧
      text ++ 47 :: post = doubleQuotes card.value ++ ascii "' " ++ 47 :: rest := by
  obtain ⟨field, post, hparts⟩ := HeaderText.of_resolved hline
  obtain ⟨hfits, hvalue⟩ := hparts.value
  obtain ⟨rest, hrest⟩ := card.drop_chars
  have hlong := hparts.long
  refine ⟨field.drop 3, hfits, rest ++ behind, post, hvalue, ?_, ?_⟩
  · intro hslash
    exact (hparts.clean 47 (List.mem_of_mem_drop hslash)).2 rfl
  · have hdrop : (card.chars ++ behind).drop 11 = field.drop 3 ++ 47 :: post := by
      rw [← List.drop_append_of_le_length (by omega), ← hparts.text_eq, List.drop_drop]
    have hlength : 11 ≤ card.chars.length := by
      rw [card.length_chars]
      decide
    rw [← hdrop, List.drop_append_of_le_length hlength, hrest]
    simp only [List.append_assoc, List.cons_append]

/-- What stands in front of the first `/`. -/
theorem eq_of_first_slash {first second post rest : Text} (hfirst : 47 ∉ first)
    (hsecond : 47 ∉ second) (hequal : first ++ 47 :: post = second ++ 47 :: rest) :
    first = second := by
  have htake : ∀ {front : Text} (back : Text), 47 ∉ front →
      (front ++ 47 :: back).takeWhile (· ≠ 47) = front := by
    intro front back hfront
    rw [List.takeWhile_append, takeWhile_ne_self hfront, if_pos rfl,
      List.takeWhile_cons_of_neg (by decide), List.append_nil]
  rw [← htake post hfirst, hequal, htake rest hsecond]

theorem rtrim_closing_quote (value : Text) :
    rtrim (value ++ ascii "' ") = value ++ [39] := by
  have hclosing : value ++ ascii "' " = (value ++ [39]) ++ [32] := by
    rw [List.append_assoc]
    rfl
  rw [hclosing, rtrim, List.rdropWhile_concat_pos _ _ _ (by decide),
    List.rdropWhile_concat_neg _ _ _ (by decide)]

theorem mem_rtrim {text : Text} {byte : UInt8} (hmem : byte ∈ text) (hblank : byte ≠ 32) :
    byte ∈ rtrim text := by
  rw [← rtrim_append_blanks text, List.mem_append] at hmem
  exact hmem.resolve_right fun hblanks => hblank (List.eq_of_mem_replicate hblanks)

/-- The value is cut at its own `/`, or keeps the closing quote. -/
theorem rtrim_value_ne {value text post rest : Text} (hslash : 47 ∉ text)
    (htext : text ++ 47 :: post = doubleQuotes value ++ ascii "' " ++ 47 :: rest) :
    rtrim text ≠ rtrim value := by
  intro hsame
  by_cases hvalue : 47 ∈ value
  · have hmem := mem_rtrim hvalue (by decide)
    rw [← hsame] at hmem
    exact hslash ((List.rdropWhile_prefix _ _).mem hmem)
  · have hquoted : 47 ∉ doubleQuotes value ++ ascii "' " := by
      rw [List.mem_append, mem_doubleQuotes, not_or]
      exact ⟨hvalue, by decide⟩
    rw [eq_of_first_slash hslash hquoted htext, rtrim_closing_quote] at hsame
    have hlength := congrArg List.length hsame
    have htrim := length_rtrim_le value
    have hdoubled := (length_doubleQuotes value).1
    rw [List.length_append, List.length_singleton] at hlength
    omega

/-- No string value is given back. -/
theorem never_givesBack (card : StringCard) (behind : List UInt8) : ¬ GivesBack card behind := by
  rintro ⟨hdr, text, fits, hdecoded, hvalue, hsame⟩
  have hchars := card.length_chars
  have hsize : headerSize = 80 := rfl
  obtain ⟨first, tail, hstart⟩ := List.exists_cons_of_ne_nil
    (List.ne_nil_of_length_pos (show 0 < card.chars.length by omega))
  have hfirst : (card.chars ++ 0 :: behind).head? = some first := by
    rw [hstart, List.cons_append, List.head?_cons]
  have hlines : (card.chars ++ 0 :: behind).length = (80 + behind.length) + 1 := by
    rw [List.length_append, List.length_cons]
    omega
  rw [decodedStrToHeader, hlines] at hdecoded
  have hgoes : ¬ (first = 0 ∨ (79 : UInt32).toNat < 0) := by
    rintro (hzero | hover)
    · have hover : (card.chars ++ 0 :: behind).head? = some 0 ∨ (79 : UInt32).toNat < 0 :=
        Or.inl (hzero ▸ hfirst)
      cases headerLines_end hover hdecoded
    · cases hover
  have hdrop : (card.chars ++ 0 :: behind).drop headerSize = 0 :: behind := by
    rw [← hchars, List.drop_left]
  have hend : (0 :: behind).head? = some 0 ∨ (79 : UInt32).toNat < 0 + headerSize := Or.inl rfl
  rcases (headerLines_succ hfirst hgoes).mp hdecoded with ⟨-, -, hnone⟩ | ⟨-, hlater⟩ |
    ⟨other, later, hline, hheaders, -⟩
  · cases hnone
  · rw [hdrop] at hlater
    cases headerLines_end hend hlater
  · obtain ⟨rfl, -⟩ := List.cons.inj hheaders
    obtain ⟨cut, cutFits, rest, post, hcut, hslash, hparts⟩ := value_of_resolved hline
    obtain rfl : text = cut := HeaderValue.cval.inj (hvalue.symm.trans hcut)
    exact rtrim_value_ne hslash hparts hsame

/-- `OBJECT  = 'M31     '           / Target` -/
def objectStringCard : StringCard where
  keyword := ascii "OBJECT"
  value := ascii "M31     "
  comment := ascii "Target"
  keyword_length := by decide
  value_length := by decide
  comment_length := by decide

theorem objectWord_fits : (ascii "OBJECT  ").length < fitsHeaderKeynameChars := by decide

def quotedHeader : FitsHeader where
  key := ascii "OBJECT  "
  comment := ascii " Target" ++ List.replicate 51 32
  key_fits := objectWord_fits
  comment_fits := by decide
  value := .cval (ascii "M31     ' ") (by decide)

/-- M31 comes back with the closing quote behind it. -/
theorem object_keeps_quote :
    decodedStrToHeader (objectStringCard.chars ++ [0]) 79 = .ok (0, [quotedHeader]) ∧
      ¬ ∀ (card : StringCard) (behind : List UInt8), GivesBack card behind := by
  have hquoted : decodedStrToHeader (objectStringCard.chars ++ [0]) 79 =
      .ok (0, [quotedHeader]) := by
    decide +kernel
  refine ⟨hquoted, fun hgives => ?_⟩
  obtain ⟨hdr, text, fits, hdecoded, hvalue, hsame⟩ := hgives objectStringCard []
  rw [hquoted] at hdecoded
  obtain rfl : quotedHeader = hdr := by simpa using hdecoded
  obtain rfl : ascii "M31     ' " = text := HeaderValue.cval.inj hvalue
  exact absurd hsame (by decide)

end Andor2k
