/-
The binary floating point formats as bit patterns: rounding a ratio of naturals to
nearest, ties to even, and `strtod` of the "C" locale on top of it.
-/
import Andor2k.CText

namespace Ieee

open CText

/-- `precision` counts the hidden bit. -/
structure Format where
  precision : Nat
  exponentBits : Nat
deriving DecidableEq, Repr

def single : Format := ⟨24, 8⟩
def double : Format := ⟨53, 11⟩

namespace Format

variable (format : Format)

def hidden : Nat := 2 ^ (format.precision - 1)

/-- Magnitude bits of infinity; anything above is a NaN. -/
def infinity : Nat := (2 ^ format.exponentBits - 1) * format.hidden

/-- Magnitude bits of the quiet NaN. -/
def quietNaN : Nat := format.infinity + format.hidden / 2

/-- Weight exponent of the last bit of a subnormal number. -/
def minScale : Int :=
  2 - (2 : Int) ^ (format.exponentBits - 1) - (format.precision - 1)

/-- The finite value `significand * 2 ^ scale` of a magnitude, as a ratio. -/
def ratio (magnitude : Nat) : Nat × Nat :=
  let field := magnitude / format.hidden
  let fraction := magnitude % format.hidden
  let significand := if field = 0 then fraction else format.hidden + fraction
  let scale : Int := format.minScale + (field - 1 : Nat)
  if 0 ≤ scale then (significand * 2 ^ scale.toNat, 1)
  else (significand, 2 ^ (-scale).toNat)

/-- `⌊log₂ (num / den)⌋` for a positive ratio. -/
def floorLog2 (num den : Nat) : Int :=
  let guess : Int := (Nat.log2 num : Int) - Nat.log2 den
  let reached :=
    if 0 ≤ guess then decide (den * 2 ^ guess.toNat ≤ num)
    else decide (den ≤ num * 2 ^ (-guess).toNat)
  if reached then guess else guess - 1

/-- Magnitude bits of the number nearest to `num / den`, ties to even.  A carry out
of the significand moves to the next exponent by itself. -/
def round (num den : Nat) : Nat :=
  if num = 0 then 0
  else
    let scale := max (floorLog2 num den - (format.precision - 1)) format.minScale
    let (scaledNum, scaledDen) :=
      if 0 ≤ scale then (num, den * 2 ^ scale.toNat)
      else (num * 2 ^ (-scale).toNat, den)
    let quotient := scaledNum / scaledDen
    let twice := 2 * (scaledNum % scaledDen)
    let significand :=
      if twice > scaledDen || (twice = scaledDen && quotient % 2 = 1)
      then quotient + 1 else quotient
    min format.infinity
      ((scale - format.minScale).toNat * format.hidden + significand)

end Format

/-- A C `float`. -/
structure Binary32 where
  bits : UInt32
deriving DecidableEq, Repr

/-- A C `double`. -/
structure Binary64 where
  bits : UInt64
deriving DecidableEq, Repr

namespace Binary32

def negative (x : Binary32) : Bool := decide (2 ^ 31 ≤ x.bits.toNat)
def magnitude (x : Binary32) : Nat := x.bits.toNat % 2 ^ 31
def isNaN (x : Binary32) : Bool := decide (single.infinity < x.magnitude)

/-- `x < 0` -/
def isNegative (x : Binary32) : Bool := !x.isNaN && x.negative && x.magnitude != 0

/-- `x >= 0` -/
def isNonNegative (x : Binary32) : Bool := !x.isNaN && (!x.negative || x.magnitude == 0)

end Binary32

namespace Binary64

def negative (x : Binary64) : Bool := decide (2 ^ 63 ≤ x.bits.toNat)
def magnitude (x : Binary64) : Nat := x.bits.toNat % 2 ^ 63

def ofMagnitude (negative : Bool) (magnitude : Nat) : Binary64 :=
  ⟨UInt64.ofNat ((if negative then 2 ^ 63 else 0) + magnitude)⟩

/-- The conversion from `double` to `float`. -/
def toBinary32 (x : Binary64) : Binary32 :=
  let magnitude :=
    if double.infinity < x.magnitude then single.quietNaN
    else if x.magnitude = double.infinity then single.infinity
    else
      let (num, den) := double.ratio x.magnitude
      single.round num den
  ⟨UInt32.ofNat ((if x.negative then 2 ^ 31 else 0) + magnitude)⟩

/-- The conversion from `double` to `int`.  Where the truncated value is no `int`
the x86-64 instruction gives the least one. -/
def toInt32 (x : Binary64) : Int32 :=
  if double.infinity ≤ x.magnitude then Int32.minValue
  else
    let (num, den) := double.ratio x.magnitude
    let truncated : Int := if x.negative then -(num / den : Nat) else (num / den : Nat)
    if -2 ^ 31 ≤ truncated ∧ truncated < 2 ^ 31 then Int32.ofInt truncated
    else Int32.minValue

end Binary64

def lower (byte : UInt8) : UInt8 := if 65 ≤ byte && byte ≤ 90 then byte + 32 else byte

def decimalDigit (byte : UInt8) : Option Nat :=
  if isDigit byte then some (byte.toNat - 48) else none

def hexDigit (byte : UInt8) : Option Nat :=
  if isDigit byte then some (byte.toNat - 48)
  else if 97 ≤ lower byte && lower byte ≤ 102 then some ((lower byte).toNat - 87)
  else none

/-- An exponent part, when `text` starts with one, and what follows it. -/
def scanExponent (marker : UInt8) (text : Text) : Int × Text :=
  match text with
  | [] => (0, [])
  | byte :: tail =>
      let (negative, body) := splitSign tail
      let digits := body.takeWhile isDigit
      if lower byte = marker && digits ≠ [] then
        (if negative then -digitsValue digits else digitsValue digits,
          body.dropWhile isDigit)
      else (0, text)

/-- Significand digits with an optional point and an exponent part: the digits as a
number, the exponent, the number of digits behind the point, and what follows. -/
def scanNumber (radix : Nat) (digit : UInt8 → Option Nat) (marker : UInt8)
    (text : Text) : Option (Nat × Int × Nat × Text) :=
  let inDigits := fun byte => (digit byte).isSome
  let whole := text.takeWhile inDigits
  let behind := text.dropWhile inDigits
  let (fraction, behind) :=
    match behind with
    | 46 :: tail => (tail.takeWhile inDigits, tail.dropWhile inDigits)
    | _ => ([], behind)
  if whole ++ fraction = [] then none
  else
    let value := (whole ++ fraction).foldl
      (fun value byte => radix * value + (digit byte).getD 0) 0
    let (exponent, rest) := scanExponent marker behind
    some (value, exponent, fraction.length, rest)

/-- `value * base ^ exponent` in the double format. -/
def roundScaled (value base : Nat) (exponent : Int) : Nat :=
  if 0 ≤ exponent then double.round (value * base ^ exponent.toNat) 1
  else double.round value (base ^ (-exponent).toNat)

def isWordByte (byte : UInt8) : Bool :=
  isDigit byte || (97 ≤ lower byte && lower byte ≤ 122) || byte = 95

/-- The optional `(n-char-sequence)` behind `nan`. -/
def skipNaNPayload (text : Text) : Text :=
  match text with
  | 40 :: tail =>
      match tail.dropWhile isWordByte with
      | 41 :: rest => rest
      | _ => text
  | _ => text

def startsWithCaseless (text literal : Text) : Bool :=
  startsWith (text.map lower) literal

/-- Magnitude bits of the number `text` starts with, and what follows it. -/
def scanMagnitude (text : Text) : Option (Nat × Text) :=
  if startsWithCaseless text (ascii "infinity") then
    some (double.infinity, text.drop 8)
  else if startsWithCaseless text (ascii "inf") then
    some (double.infinity, text.drop 3)
  else if startsWithCaseless text (ascii "nan") then
    some (double.quietNaN, skipNaNPayload (text.drop 3))
  else
    let hexadecimal :=
      if startsWithCaseless text (ascii "0x") then scanNumber 16 hexDigit 112 (text.drop 2)
      else none
    match hexadecimal with
    | some (value, exponent, places, rest) =>
        some (roundScaled value 2 (exponent - 4 * places), rest)
    | none =>
        (scanNumber 10 decimalDigit 101 text).map fun (value, exponent, places, rest) =>
          (roundScaled value 10 (exponent - places), rest)

/-- The value `strtod` returns and the text its end pointer points to. -/
structure StrtodResult where
  value : Binary64
  rest : Text
deriving DecidableEq, Repr

/-- `strtod(text, &end)`; without a conversion the end pointer is the start. -/
def strtod (text : Text) : StrtodResult :=
  let (negative, body) := splitSign (text.dropWhile isSpace)
  match scanMagnitude body with
  | none => ⟨Binary64.ofMagnitude false 0, text⟩
  | some (magnitude, rest) => ⟨Binary64.ofMagnitude negative magnitude, rest⟩

example : strtod (ascii "0.1s") = ⟨⟨0x3FB999999999999A⟩, ascii "s"⟩ := by decide

example : (strtod (ascii "-1.5e1")).value.toBinary32 = ⟨0xC1700000⟩ := by decide

end Ieee
