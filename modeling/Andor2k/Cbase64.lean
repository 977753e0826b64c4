/-
base64: the decoder, which stops at the first character outside the alphabet, and the
encoder.  Lengths are `int`s, as in the source.
-/
import Mathlib.Tactic.IntervalCases
import Andor2k.CText

namespace Andor2k

open CText

def pr2sixTable : List UInt8 :=
  [
    64, 64, 64, 64, 64, 64, 64, 64, 64, 64, 64, 64, 64, 64, 64, 64,
    64, 64, 64, 64, 64, 64, 64, 64, 64, 64, 64, 64, 64, 64, 64, 64,
    64, 64, 64, 64, 64, 64, 64, 64, 64, 64, 64, 62, 64, 64, 64, 63,
    52, 53, 54, 55, 56, 57, 58, 59, 60, 61, 64, 64, 64, 64, 64, 64,
    64, 0, 1, 2, 3, 4, 5, 6, 7, 8, 9, 10, 11, 12, 13, 14,
    15, 16, 17, 18, 19, 20, 21, 22, 23, 24, 25, 64, 64, 64, 64, 64,
    64, 26, 27, 28, 29, 30, 31, 32, 33, 34, 35, 36, 37, 38, 39, 40,
    41, 42, 43, 44, 45, 46, 47, 48, 49, 50, 51, 64, 64, 64, 64, 64,
    64, 64, 64, 64, 64, 64, 64, 64, 64, 64, 64, 64, 64, 64, 64, 64,
    64, 64, 64, 64, 64, 64, 64, 64, 64, 64, 64, 64, 64, 64, 64, 64,
    64, 64, 64, 64, 64, 64, 64, 64, 64, 64, 64, 64, 64, 64, 64, 64,
    64, 64, 64, 64, 64, 64, 64, 64, 64, 64, 64, 64, 64, 64, 64, 64,
    64, 64, 64, 64, 64, 64, 64, 64, 64, 64, 64, 64, 64, 64, 64, 64,
    64, 64, 64, 64, 64, 64, 64, 64, 64, 64, 64, 64, 64, 64, 64, 64,
    64, 64, 64, 64, 64, 64, 64, 64, 64, 64, 64, 64, 64, 64, 64, 64,
    64, 64, 64, 64, 64, 64, 64, 64, 64, 64, 64, 64, 64, 64, 64, 64]

/-- `pr2six[c]` -/
def pr2six (c : UInt8) : UInt8 := pr2sixTable.getD c.toNat 64

/-- The number of characters before the first one outside the alphabet, as an `int`. -/
def alphabetLength (bufcoded : Text) : Int :=
  (Int32.ofInt (bufcoded.takeWhile fun c => pr2six c ≤ 63).length).toInt

/-- The bytes of the decoded text, all quanta taken as full ones. -/
def quantaBytes (nprbytes : Int) : Checked Int := do
  let rounded ← addInt nprbytes 3
  return rounded.tdiv 4 * 3

def base64decodeLen (bufcoded : Text) : Checked Int := do
  let nbytesdecoded ← quantaBytes (alphabetLength bufcoded)
  return nbytesdecoded + 1

/-- The three bytes four characters stand for. -/
def firstByte (first second : UInt8) : UInt8 := pr2six first <<< 2 ||| pr2six second >>> 4
def secondByte (second third : UInt8) : UInt8 := pr2six second <<< 4 ||| pr2six third >>> 2
def thirdByte (third fourth : UInt8) : UInt8 := pr2six third <<< 6 ||| pr2six fourth

/-- The last quantum, and the NUL. -/
def decodeTail (nprbytes : Int) (bufin : Text) : List UInt8 :=
  (if nprbytes > 1 then [firstByte (bufin.getD 0 0) (bufin.getD 1 0)] else []) ++
  (if nprbytes > 2 then [secondByte (bufin.getD 1 0) (bufin.getD 2 0)] else []) ++
  (if nprbytes > 3 then [thirdByte (bufin.getD 2 0) (bufin.getD 3 0)] else []) ++ [0]

/-- The loop over the full quanta: the bytes written, and the count that is left. -/
def decodeQuanta : Int → Text → List UInt8 × Int
  | nprbytes, first :: second :: third :: fourth :: bufin =>
      if nprbytes > 4 then
        let (written, left) := decodeQuanta (nprbytes - 4) bufin
        ([firstByte first second, secondByte second third, thirdByte third fourth] ++
          written, left)
      else (decodeTail nprbytes (first :: second :: third :: fourth :: bufin), nprbytes)
  | nprbytes, bufin => (decodeTail nprbytes bufin, nprbytes)

/-- The bytes `base64decode` writes, and the number it returns. -/
def base64decode (bufcoded : Text) : Checked (List UInt8 × Int) := do
  let nprbytes := alphabetLength bufcoded
  let nbytesdecoded ← quantaBytes nprbytes
  let (written, left) := decodeQuanta nprbytes bufcoded
  -- `(4 - nprbytes) & 3`
  return (written, nbytesdecoded - (4 - left) % 4)

/-- `basis_64` -/
def basis64 : Text :=
  ascii "ABCDEFGHIJKLMNOPQRSTUVWXYZabcdefghijklmnopqrstuvwxyz0123456789+/"

def basis64At (index : UInt8) : UInt8 := basis64.getD index.toNat 0

/-- The index of each of the four characters three bytes become. -/
def firstIndex (a : UInt8) : UInt8 := (a >>> 2) &&& 0x3F
def secondIndex (a b : UInt8) : UInt8 := ((a &&& 0x3) <<< 4) ||| ((b &&& 0xF0) >>> 4)
def thirdIndex (b c : UInt8) : UInt8 := ((b &&& 0xF) <<< 2) ||| ((c &&& 0xC0) >>> 6)
def fourthIndex (c : UInt8) : UInt8 := c &&& 0x3F

/-- The text `base64encode` writes, without its NUL. -/
def base64encode : List UInt8 → Text
  | a :: b :: c :: rest =>
      [basis64At (firstIndex a), basis64At (secondIndex a b), basis64At (thirdIndex b c),
        basis64At (fourthIndex c)] ++ base64encode rest
  | [a, b] =>
      [basis64At (firstIndex a), basis64At (secondIndex a b),
        basis64At ((b &&& 0xF) <<< 2), 61]
  | [a] => [basis64At (firstIndex a), basis64At ((a &&& 0x3) <<< 4), 61, 61]
  | [] => []

theorem toNat_lt_of_and_eq {index : UInt8} (hmask : index &&& 0x3F = index) :
    index.toNat < 64 := by
  have hsix : (0x3F : UInt8).toNat < 2 ^ 6 := by decide
  rw [← hmask, UInt8.toNat_and]
  exact Nat.and_lt_two_pow _ hsix

theorem firstIndex_lt (a : UInt8) : (firstIndex a).toNat < 64 := by
  apply toNat_lt_of_and_eq
  apply UInt8.toBitVec_inj.mp
  change (a.toBitVec >>> 2 &&& 0x3F#8) &&& 0x3F#8 = a.toBitVec >>> 2 &&& 0x3F#8
  rw [BitVec.and_assoc, BitVec.and_self]

theorem secondIndex_lt (a b : UInt8) : (secondIndex a b).toNat < 64 := by
  apply toNat_lt_of_and_eq
  apply UInt8.toBitVec_inj.mp
  change ((a.toBitVec &&& 0x3#8) <<< 4 ||| (b.toBitVec &&& 0xF0#8) >>> 4) &&& 0x3F#8 =
    (a.toBitVec &&& 0x3#8) <<< 4 ||| (b.toBitVec &&& 0xF0#8) >>> 4
  ext i hi
  interval_cases i <;> simp

theorem thirdIndex_lt (b c : UInt8) : (thirdIndex b c).toNat < 64 := by
  apply toNat_lt_of_and_eq
  apply UInt8.toBitVec_inj.mp
  change ((b.toBitVec &&& 0xF#8) <<< 2 ||| (c.toBitVec &&& 0xC0#8) >>> 6) &&& 0x3F#8 =
    (b.toBitVec &&& 0xF#8) <<< 2 ||| (c.toBitVec &&& 0xC0#8) >>> 6
  ext i hi
  interval_cases i <;> simp

theorem fourthIndex_lt (c : UInt8) : (fourthIndex c).toNat < 64 := by
  apply toNat_lt_of_and_eq
  apply UInt8.toBitVec_inj.mp
  change (c.toBitVec &&& 0x3F#8) &&& 0x3F#8 = c.toBitVec &&& 0x3F#8
  rw [BitVec.and_assoc, BitVec.and_self]

/-- The index of a character of the alphabet is read back; the alphabet holds neither
the semicolon nor the NUL. -/
theorem basis64_spec (index : Fin 64) :
    pr2six (basis64At (UInt8.ofNat index)) = UInt8.ofNat index ∧
      pr2six (basis64At (UInt8.ofNat index)) ≤ 63 ∧
      basis64At (UInt8.ofNat index) ≠ 59 ∧ basis64At (UInt8.ofNat index) ≠ 0 := by
  revert index
  decide +kernel

theorem basis64At_spec {index : UInt8} (hindex : index.toNat < 64) :
    pr2six (basis64At index) = index ∧ pr2six (basis64At index) ≤ 63 ∧
      basis64At index ≠ 59 ∧ basis64At index ≠ 0 := by
  have hspec := basis64_spec ⟨index.toNat, hindex⟩
  rwa [UInt8.ofNat_toNat] at hspec

theorem firstByte_encoded (a b : UInt8) :
    firstByte (basis64At (firstIndex a)) (basis64At (secondIndex a b)) = a := by
  rw [firstByte, (basis64At_spec (firstIndex_lt a)).1, (basis64At_spec (secondIndex_lt a b)).1]
  apply UInt8.toBitVec_inj.mp
  change (a.toBitVec >>> 2 &&& 0x3F#8) <<< 2 |||
    ((a.toBitVec &&& 0x3#8) <<< 4 ||| (b.toBitVec &&& 0xF0#8) >>> 4) >>> 4 = a.toBitVec
  ext i hi
  interval_cases i <;> simp

theorem secondByte_encoded (a b c : UInt8) :
    secondByte (basis64At (secondIndex a b)) (basis64At (thirdIndex b c)) = b := by
  rw [secondByte, (basis64At_spec (secondIndex_lt a b)).1,
    (basis64At_spec (thirdIndex_lt b c)).1]
  apply UInt8.toBitVec_inj.mp
  change ((a.toBitVec &&& 0x3#8) <<< 4 ||| (b.toBitVec &&& 0xF0#8) >>> 4) <<< 4 |||
    ((b.toBitVec &&& 0xF#8) <<< 2 ||| (c.toBitVec &&& 0xC0#8) >>> 6) >>> 2 = b.toBitVec
  ext i hi
  interval_cases i <;> simp

theorem thirdByte_encoded (b c : UInt8) :
    thirdByte (basis64At (thirdIndex b c)) (basis64At (fourthIndex c)) = c := by
  rw [thirdByte, (basis64At_spec (thirdIndex_lt b c)).1,
    (basis64At_spec (fourthIndex_lt c)).1]
  apply UInt8.toBitVec_inj.mp
  change ((b.toBitVec &&& 0xF#8) <<< 2 ||| (c.toBitVec &&& 0xC0#8) >>> 6) <<< 6 |||
    (c.toBitVec &&& 0x3F#8) = c.toBitVec
  ext i hi
  interval_cases i <;> simp

/-- The encoded text holds neither a semicolon nor a NUL. -/
theorem ne_of_mem_base64encode {plain : List UInt8} {char : UInt8}
    (hchar : char ∈ base64encode plain) : char ≠ 59 ∧ char ≠ 0 := by
  induction plain using base64encode.induct with
  | case1 a b c rest ih =>
      simp only [base64encode, List.cons_append, List.nil_append, List.mem_cons] at hchar
      rcases hchar with rfl | rfl | rfl | rfl | hrest
      · exact (basis64At_spec (firstIndex_lt a)).2.2
      · exact (basis64At_spec (secondIndex_lt a b)).2.2
      · exact (basis64At_spec (thirdIndex_lt b c)).2.2
      · exact (basis64At_spec (fourthIndex_lt c)).2.2
      · exact ih hrest
  | case2 a b =>
      have hthird : (b &&& 0xF) <<< 2 = thirdIndex b 0 := by simp [thirdIndex]
      simp only [base64encode, hthird, List.mem_cons, List.not_mem_nil, or_false] at hchar
      rcases hchar with rfl | rfl | rfl | rfl
      · exact (basis64At_spec (firstIndex_lt a)).2.2
      · exact (basis64At_spec (secondIndex_lt a b)).2.2
      · exact (basis64At_spec (thirdIndex_lt b 0)).2.2
      · decide
  | case3 a =>
      have hsecond : (a &&& 0x3) <<< 4 = secondIndex a 0 := by simp [secondIndex]
      simp only [base64encode, hsecond, List.mem_cons, List.not_mem_nil, or_false] at hchar
      rcases hchar with rfl | rfl | rfl | rfl
      · exact (basis64At_spec (firstIndex_lt a)).2.2
      · exact (basis64At_spec (secondIndex_lt a 0)).2.2
      · decide
      · decide
  | case4 => simp [base64encode] at hchar

/-- Full triples become full quanta of the alphabet. -/
theorem base64encode_full {plain : List UInt8} (hfull : plain.length % 3 = 0) :
    (base64encode plain).length = 4 * (plain.length / 3) ∧
      ∀ char ∈ base64encode plain, pr2six char ≤ 63 := by
  induction plain using base64encode.induct with
  | case1 a b c rest ih =>
      obtain ⟨hlength, halphabet⟩ := ih (by simp only [List.length_cons] at hfull; omega)
      constructor
      · simp only [base64encode, List.cons_append, List.nil_append, List.length_cons,
          hlength]
        omega
      · intro char hchar
        simp only [base64encode, List.cons_append, List.nil_append, List.mem_cons] at hchar
        rcases hchar with rfl | rfl | rfl | rfl | hrest
        · exact (basis64At_spec (firstIndex_lt a)).2.1
        · exact (basis64At_spec (secondIndex_lt a b)).2.1
        · exact (basis64At_spec (thirdIndex_lt b c)).2.1
        · exact (basis64At_spec (fourthIndex_lt c)).2.1
        · exact halphabet char hrest
  | case2 a b => simp at hfull
  | case3 a => simp at hfull
  | case4 => simp [base64encode]

theorem decodeQuanta_encoded {plain : List UInt8} (hfull : plain.length % 3 = 0)
    (hplain : plain ≠ []) :
    decodeQuanta (4 * (plain.length / 3 : Nat)) (base64encode plain) = (plain ++ [0], 4) := by
  induction plain using base64encode.induct with
  | case1 a b c rest ih =>
      simp only [List.length_cons] at hfull
      have hcount : ((a :: b :: c :: rest).length / 3 : Nat) = rest.length / 3 + 1 := by
        simp only [List.length_cons]
        omega
      rw [hcount]
      simp only [base64encode, List.cons_append, List.nil_append, decodeQuanta]
      by_cases hrest : rest = []
      · subst rest
        simp [decodeTail, base64encode, firstByte_encoded, secondByte_encoded,
          thirdByte_encoded]
      · have hmore : (4 : Int) * ((rest.length / 3 + 1 : Nat) : Int) > 4 := by
          have := List.length_pos_iff.mpr hrest
          omega
        have hless : (4 : Int) * ((rest.length / 3 + 1 : Nat) : Int) - 4 =
            4 * (rest.length / 3 : Nat) := by
          omega
        rw [if_pos hmore, hless, ih (by omega) hrest]
        simp only [firstByte_encoded, secondByte_encoded, thirdByte_encoded]
  | case2 a b => simp at hfull
  | case3 a => simp at hfull
  | case4 => exact absurd rfl hplain

/-- The longest sequence of full triples whose encoded length an `int` can hold. -/
def maxPlainLength : Nat := 1610612733

theorem takeWhile_encoded {plain : List UInt8} (hfull : plain.length % 3 = 0) :
    (base64encode plain).takeWhile (fun c => decide (pr2six c ≤ 63)) =
      base64encode plain := by
  apply List.takeWhile_eq_self_iff.mpr
  intro char hchar
  exact decide_eq_true ((base64encode_full hfull).2 char hchar)

/-- A number of full quanta survives the narrowing to `int`. -/
theorem toInt_ofInt_quanta {count : Nat} (hcount : count ≤ 536870911) :
    (Int32.ofInt (4 * count : Nat)).toInt = 4 * count := by
  rw [Int32.toInt_ofInt_of_le (by omega) (by omega)]
  omega

theorem count_le_of_length_le {plain : List UInt8} (hlong : plain.length ≤ maxPlainLength) :
    plain.length / 3 ≤ 536870911 := by
  rw [maxPlainLength] at hlong
  omega

theorem alphabetLength_encoded {plain : List UInt8} (hfull : plain.length % 3 = 0)
    (hlong : plain.length ≤ maxPlainLength) :
    alphabetLength (base64encode plain) = 4 * (plain.length / 3 : Nat) := by
  rw [alphabetLength, takeWhile_encoded hfull, (base64encode_full hfull).1]
  exact toInt_ofInt_quanta (count_le_of_length_le hlong)

theorem quantaBytes_full {count : Nat} (hcount : count ≤ 536870911) :
    quantaBytes (4 * (count : Int)) = .ok (3 * count) := by
  have hsum : addInt (4 * (count : Int)) 3 = .ok (4 * count + 3) := by
    apply checkInt_eq_ok.mpr
    omega
  have hquot : (4 * (count : Int) + 3).tdiv 4 * 3 = 3 * count := by
    rw [Int.tdiv_eq_ediv_of_nonneg (by omega)]
    omega
  apply checked_bind_eq_ok.mpr
  exact ⟨_, hsum, congrArg Except.ok hquot⟩

/-- However long the text is, the bytes are full triples, and fit the longest text. -/
theorem quantaBytes_eq_ok {nprbytes bytes : Int}
    (hbytes : quantaBytes nprbytes = .ok bytes) :
    bytes % 3 = 0 ∧ bytes ≤ maxPlainLength := by
  simp only [quantaBytes, checked_bind_eq_ok] at hbytes
  obtain ⟨rounded, hrounded, hquot⟩ := hbytes
  obtain ⟨⟨-, hbound⟩, hsum⟩ := checkInt_eq_ok.mp hrounded
  simp only [pure, Except.pure, Except.ok.injEq] at hquot
  rw [maxPlainLength]
  by_cases hpositive : 0 ≤ rounded
  · rw [Int.tdiv_eq_ediv_of_nonneg hpositive] at hquot
    omega
  · have hopposite : rounded.tdiv 4 = -((-rounded) / 4) := by
      rw [← Int.tdiv_eq_ediv_of_nonneg (by omega), Int.neg_tdiv, Int.neg_neg]
    omega

theorem base64decode_encoded {plain : List UInt8} (hfull : plain.length % 3 = 0)
    (hlong : plain.length ≤ maxPlainLength) :
    base64decodeLen (base64encode plain) = .ok (plain.length + 1) ∧
      base64decode (base64encode plain) = .ok (plain ++ [0], plain.length) := by
  have hquanta := quantaBytes_full (count_le_of_length_le hlong)
  have hthree : (3 : Int) * (plain.length / 3 : Nat) = plain.length := by omega
  rw [hthree] at hquanta
  constructor
  · simp only [base64decodeLen, alphabetLength_encoded hfull hlong, hquanta, bind,
      Except.bind, pure, Except.pure]
  · simp only [base64decode, alphabetLength_encoded hfull hlong, hquanta, bind, Except.bind]
    by_cases hplain : plain = []
    · subst plain
      rfl
    · simp only [decodeQuanta_encoded hfull hplain, pure, Except.pure, Int.sub_self,
        Int.zero_emod, Int.sub_zero]

end Andor2k
