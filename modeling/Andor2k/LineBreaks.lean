/-
A line break behind a number: strtol and strtod read the same value, and leave the line break
to what follows.
-/
import Andor2k.Ieee

namespace CText

def lineFeed : UInt8 := 10

theorem takeWhile_lineFeed (keeps : UInt8 → Bool) (hstop : keeps lineFeed = false)
    (text : Text) : (text ++ [lineFeed]).takeWhile keeps = text.takeWhile keeps := by
  induction text with
  | nil => simp [hstop]
  | cons byte rest ih =>
      rw [List.cons_append, List.takeWhile_cons, List.takeWhile_cons, ih]

theorem dropWhile_lineFeed (skips : UInt8 → Bool) (hstop : skips lineFeed = false)
    (text : Text) :
    (text ++ [lineFeed]).dropWhile skips = text.dropWhile skips ++ [lineFeed] := by
  rw [List.dropWhile_append]
  split
  · rename_i hall
    rw [List.isEmpty_iff.mp hall]
    simp [hstop]
  · rfl

/-- White space in front of something else does not reach the line break. -/
theorem dropSpaces_lineFeed {text : Text} (hword : text.dropWhile isSpace ≠ []) :
    (text ++ [lineFeed]).dropWhile isSpace = text.dropWhile isSpace ++ [lineFeed] := by
  rw [List.dropWhile_append, if_neg]
  rw [List.isEmpty_iff]
  exact hword

theorem splitSign_lineFeed (text : Text) :
    splitSign (text ++ [lineFeed]) = ((splitSign text).1, (splitSign text).2 ++ [lineFeed]) := by
  cases text with
  | nil => rfl
  | cons byte rest =>
      rw [List.cons_append, splitSign, splitSign]
      split
      · rfl
      · split
        · rfl
        · rfl

/-- A prefix without the byte that ends a word is found inside the word or not at all. -/
theorem startsWith_append_stop {literal : Text} {stop : UInt8} (hliteral : stop ∉ literal)
    (text behind : Text) :
    startsWith (text ++ stop :: behind) literal = startsWith text literal := by
  induction text generalizing literal with
  | nil =>
      cases literal with
      | nil => rfl
      | cons byte rest =>
          have hne : byte ≠ stop := fun heq => hliteral (heq ▸ List.mem_cons_self)
          rw [List.nil_append, startsWith, List.isPrefixOf, beq_eq_false_iff_ne.mpr hne,
            Bool.false_and]
          rfl
  | cons first later ih =>
      cases literal with
      | nil => rfl
      | cons byte rest =>
          have hrest : stop ∉ rest := fun hmem => hliteral (List.mem_cons_of_mem byte hmem)
          have hlater := ih hrest
          simp only [startsWith] at hlater
          simp only [startsWith, List.cons_append, List.isPrefixOf, hlater]

theorem startsWith_lineFeed {literal : Text} (hliteral : lineFeed ∉ literal) (text : Text) :
    startsWith (text ++ [lineFeed]) literal = startsWith text literal :=
  startsWith_append_stop hliteral text []

/-- White space only is no number, with or without a line break. -/
theorem strtol_of_spaces {text : Text} (hspaces : text.dropWhile isSpace = []) :
    strtol text = ⟨0, text, false⟩ := by
  simp [strtol, hspaces, splitSign]

theorem spaces_lineFeed {text : Text} (hspaces : text.dropWhile isSpace = []) :
    (text ++ [lineFeed]).dropWhile isSpace = [] := by
  rw [List.dropWhile_append, hspaces]
  rfl

theorem strtol_lineFeed (text : Text) :
    strtol (text ++ [lineFeed]) =
      ⟨(strtol text).value, (strtol text).rest ++ [lineFeed], (strtol text).erange⟩ := by
  by_cases hspaces : text.dropWhile isSpace = []
  · rw [strtol_of_spaces hspaces, strtol_of_spaces (spaces_lineFeed hspaces)]
  · simp only [strtol, dropSpaces_lineFeed hspaces, splitSign_lineFeed,
      takeWhile_lineFeed isDigit rfl, dropWhile_lineFeed isDigit rfl]
    split
    · rfl
    · rfl

end CText

namespace Ieee

open CText

theorem scanExponent_lineFeed {marker : UInt8} (hmarker : marker ≠ lineFeed) (text : Text) :
    scanExponent marker (text ++ [lineFeed]) =
      ((scanExponent marker text).1, (scanExponent marker text).2 ++ [lineFeed]) := by
  cases text with
  | nil =>
      have hnot : lower lineFeed ≠ marker := fun heq => hmarker heq.symm
      simp [scanExponent, hnot]
  | cons byte tail =>
      simp only [List.cons_append, scanExponent, splitSign_lineFeed,
        takeWhile_lineFeed isDigit rfl, dropWhile_lineFeed isDigit rfl]
      split
      · rfl
      · rfl

/-- The digits behind a point, if the text starts with one, and what follows. -/
def splitFraction (inDigits : UInt8 → Bool) (behind : Text) : Text × Text :=
  match behind with
  | 46 :: tail => (tail.takeWhile inDigits, tail.dropWhile inDigits)
  | _ => ([], behind)

theorem splitFraction_lineFeed (inDigits : UInt8 → Bool) (hstop : inDigits lineFeed = false)
    (behind : Text) :
    splitFraction inDigits (behind ++ [lineFeed]) =
      ((splitFraction inDigits behind).1, (splitFraction inDigits behind).2 ++ [lineFeed]) := by
  cases behind with
  | nil => rfl
  | cons byte tail =>
      by_cases hpoint : byte = 46
      · subst hpoint
        simp [splitFraction, takeWhile_lineFeed inDigits hstop, dropWhile_lineFeed inDigits hstop]
      · have hother : ∀ tail : Text,
            splitFraction inDigits (byte :: tail) = ([], byte :: tail) := by
          intro tail
          unfold splitFraction
          split
          · rename_i heq
            exact absurd (List.cons.inj heq).1 hpoint
          · rfl
        rw [List.cons_append, hother, hother]
        rfl

theorem scanNumber_eq (radix : Nat) (digit : UInt8 → Option Nat) (marker : UInt8)
    (text : Text) :
    scanNumber radix digit marker text =
      let inDigits := fun byte => (digit byte).isSome
      let whole := text.takeWhile inDigits
      let (fraction, behind) := splitFraction inDigits (text.dropWhile inDigits)
      if whole ++ fraction = [] then none
      else
        let value := (whole ++ fraction).foldl
          (fun value byte => radix * value + (digit byte).getD 0) 0
        let (exponent, rest) := scanExponent marker behind
        some (value, exponent, fraction.length, rest) := rfl

theorem scanNumber_lineFeed (radix : Nat) (digit : UInt8 → Option Nat) (marker : UInt8)
    (hdigit : digit lineFeed = none) (hmarker : marker ≠ lineFeed) (text : Text) :
    scanNumber radix digit marker (text ++ [lineFeed]) =
      (scanNumber radix digit marker text).map fun (value, exponent, places, rest) =>
        (value, exponent, places, rest ++ [lineFeed]) := by
  have hstop : (digit lineFeed).isSome = false := by
    rw [hdigit]
    rfl
  simp only [scanNumber_eq, takeWhile_lineFeed (fun byte => (digit byte).isSome) hstop,
    dropWhile_lineFeed (fun byte => (digit byte).isSome) hstop,
    splitFraction_lineFeed (fun byte => (digit byte).isSome) hstop,
    scanExponent_lineFeed hmarker]
  split
  · rfl
  · rfl

theorem startsWithCaseless_lineFeed {literal : Text} (hliteral : lineFeed ∉ literal)
    (text : Text) :
    startsWithCaseless (text ++ [lineFeed]) literal = startsWithCaseless text literal := by
  unfold startsWithCaseless
  rw [List.map_append]
  exact startsWith_lineFeed hliteral _

theorem length_of_startsWithCaseless {text literal : Text}
    (hstarts : startsWithCaseless text literal = true) : literal.length ≤ text.length := by
  have hlength := (startsWith_iff.mp hstarts).length_le
  rwa [List.length_map] at hlength

theorem drop_lineFeed {text : Text} {count : Nat} (hinside : count ≤ text.length) :
    (text ++ [lineFeed]).drop count = text.drop count ++ [lineFeed] :=
  List.drop_append_of_le_length hinside

theorem skipNaNPayload_of_open {tail : Text}
    (hopen : ∀ rest, tail.dropWhile isWordByte ≠ 41 :: rest) :
    skipNaNPayload (40 :: tail) = 40 :: tail := by
  unfold skipNaNPayload
  split
  · rename_i heq
    obtain rfl := (List.cons.inj heq).2
    split
    · rename_i rest hclosed
      exact absurd hclosed (hopen rest)
    · rfl
  · rfl

theorem skipNaNPayload_of_other {text : Text} (hother : ∀ tail, text ≠ 40 :: tail) :
    skipNaNPayload text = text := by
  unfold skipNaNPayload
  split
  · exact absurd rfl (hother _)
  · rfl

theorem skipNaNPayload_lineFeed (text : Text) :
    skipNaNPayload (text ++ [lineFeed]) = skipNaNPayload text ++ [lineFeed] := by
  cases text with
  | nil => rfl
  | cons byte tail =>
      by_cases hparenthesis : byte = 40
      · subst hparenthesis
        have hdrop := dropWhile_lineFeed isWordByte rfl tail
        cases hbehind : tail.dropWhile isWordByte with
        | nil =>
            have hopen : ∀ rest, (tail ++ [lineFeed]).dropWhile isWordByte ≠ 41 :: rest := by
              intro rest heq
              rw [hdrop, hbehind] at heq
              exact absurd (List.cons.inj heq).1 (by decide)
            rw [skipNaNPayload_of_open (by simp [hbehind]), List.cons_append,
              skipNaNPayload_of_open hopen]
        | cons first rest =>
            rw [hbehind] at hdrop
            by_cases hclosed : first = 41
            · subst hclosed
              simp [skipNaNPayload, hbehind, hdrop]
            · rw [skipNaNPayload_of_open (by simp [hbehind, hclosed]), List.cons_append,
                skipNaNPayload_of_open (by simp [hdrop, hclosed])]
      · rw [skipNaNPayload_of_other (by simp [hparenthesis]),
          skipNaNPayload_of_other (by simp [hparenthesis])]

theorem scanMagnitude_lineFeed (text : Text) :
    scanMagnitude (text ++ [lineFeed]) =
      (scanMagnitude text).map fun (magnitude, rest) => (magnitude, rest ++ [lineFeed]) := by
  unfold scanMagnitude
  rw [startsWithCaseless_lineFeed (by decide), startsWithCaseless_lineFeed (by decide),
    startsWithCaseless_lineFeed (by decide), startsWithCaseless_lineFeed (by decide)]
  split
  · rename_i hinfinity
    have hlength : 8 ≤ text.length := length_of_startsWithCaseless hinfinity
    rw [drop_lineFeed hlength]
    rfl
  · split
    · rename_i hinf
      have hlength : 3 ≤ text.length := length_of_startsWithCaseless hinf
      rw [drop_lineFeed hlength]
      rfl
    · split
      · rename_i hnan
        have hlength : 3 ≤ text.length := length_of_startsWithCaseless hnan
        rw [drop_lineFeed hlength, skipNaNPayload_lineFeed]
        rfl
      · have hhexadecimal :
            (if startsWithCaseless text (ascii "0x") = true then
              scanNumber 16 hexDigit 112 ((text ++ [lineFeed]).drop 2) else none) =
            (if startsWithCaseless text (ascii "0x") = true then
              scanNumber 16 hexDigit 112 (text.drop 2) else none).map
              fun (value, exponent, places, rest) =>
                (value, exponent, places, rest ++ [lineFeed]) := by
          split
          · rename_i hprefix
            have hlength : 2 ≤ text.length := length_of_startsWithCaseless hprefix
            rw [drop_lineFeed hlength]
            exact scanNumber_lineFeed 16 hexDigit 112 rfl (by decide) _
          · rfl
        simp only [hhexadecimal]
        cases (if startsWithCaseless text (ascii "0x") = true then
            scanNumber 16 hexDigit 112 (text.drop 2) else none) with
        | some scanned => rfl
        | none =>
            simp only [Option.map_none, scanNumber_lineFeed 10 decimalDigit 101 rfl (by decide),
              Option.map_map]
            rfl

theorem strtod_lineFeed (text : Text) :
    strtod (text ++ [lineFeed]) =
      ⟨(strtod text).value, (strtod text).rest ++ [lineFeed]⟩ := by
  by_cases hspaces : text.dropWhile isSpace = []
  · have hnone : ∀ other : Text, other.dropWhile isSpace = [] →
        strtod other = ⟨Binary64.ofMagnitude false 0, other⟩ := by
      intro other hother
      unfold strtod
      rw [hother]
      rfl
    rw [hnone text hspaces, hnone _ (spaces_lineFeed hspaces)]
  · simp only [strtod, dropSpaces_lineFeed hspaces, splitSign_lineFeed, scanMagnitude_lineFeed]
    cases scanMagnitude (splitSign (text.dropWhile isSpace)).2 with
    | none => rfl
    | some scanned => rfl

end Ieee
