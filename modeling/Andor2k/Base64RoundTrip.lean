/-
base64encode with the `char`s and `int`s of the source, and the round trip through
base64decode.
-/
import Andor2k.Base64Reads

namespace Andor2k

open CText

/-- A `char` is signed; in an expression it is promoted to `int`. -/
def promoted (char : UInt8) : Int32 := char.toInt8.toInt32

def charAt (string : List UInt8) (i : Nat) : Checked Int32 := (byteAt string i).map promoted

/-- `basis_64[index]`; the array ends with a NUL. -/
def basisAt (index : Int32) : Checked UInt8 :=
  if 0 ≤ index.toInt then byteAt (basis64 ++ [0]) index.toInt.toNat else .error .outOfBounds

def base64encodeLen (len : Int) : Checked Int := do
  let rounded ← addInt len 2
  let quanta ← checkInt (rounded.tdiv 3 * 4)
  addInt quanta 1

/-- What follows the loop, without the NUL. -/
def encodeTail (string : List UInt8) (len : Int) (i : Nat) : Checked Text :=
  if (i : Int) < len then do
    let char ← charAt string i
    let first ← basisAt ((char >>> 2) &&& 0x3F)
    if (i : Int) = len - 1 then do
      let second ← basisAt ((char &&& 0x3) <<< 4)
      return [first, second, 61, 61]
    else do
      let next ← charAt string (i + 1)
      let second ← basisAt (((char &&& 0x3) <<< 4) ||| ((next &&& 0xF0) >>> 4))
      let third ← basisAt ((next &&& 0xF) <<< 2)
      return [first, second, third, 61]
  else return []

/-- `for (i = 0; i < len - 2; i += 3)` and what follows. -/
def encodeLoop (string : List UInt8) (len : Int) (i : Nat) : Checked Text :=
  if (i : Int) < len - 2 then do
    let char ← charAt string i
    let next ← charAt string (i + 1)
    let last ← charAt string (i + 2)
    let first ← basisAt ((char >>> 2) &&& 0x3F)
    let second ← basisAt (((char &&& 0x3) <<< 4) ||| ((next &&& 0xF0) >>> 4))
    let third ← basisAt (((next &&& 0xF) <<< 2) ||| ((last &&& 0xC0) >>> 6))
    let fourth ← basisAt (last &&& 0x3F)
    let written ← encodeLoop string len (i + 3)
    return [first, second, third, fourth] ++ written
  else encodeTail string len i
termination_by (len - i).toNat

/-- The bytes written, the NUL included, and the number returned. -/
def base64encodeAt (string : List UInt8) (len : Int) : Checked (Text × Int) := do
  let written ← encodeLoop string len 0
  let encoded := written ++ [0]
  -- `p - encoded`
  return (encoded, (Int32.ofInt encoded.length).toInt)

/-- An index that is computed in eight bits, as an `int`. -/
def widened (index : UInt8) : Int32 := index.toUInt32.toInt32

theorem forall_uint8 {property : UInt8 → Prop}
    (hall : ∀ value : Fin 256, property (UInt8.ofNat value)) (byte : UInt8) : property byte := by
  have hbyte := hall ⟨byte.toNat, byte.toNat_lt⟩
  rwa [UInt8.ofNat_toNat] at hbyte

theorem widened_or (first second : UInt8) :
    widened (first ||| second) = widened first ||| widened second := by
  apply Int32.toBitVec_inj.mp
  change BitVec.setWidth 32 (first.toBitVec ||| second.toBitVec) =
    BitVec.setWidth 32 first.toBitVec ||| BitVec.setWidth 32 second.toBitVec
  exact BitVec.setWidth_or

/-- The sign of the `char` is cut off. -/
theorem promoted_fields (char : UInt8) :
    (promoted char >>> 2) &&& (0x3F : Int32) = widened ((char >>> 2) &&& 0x3F) ∧
      (promoted char &&& 0x3) <<< 4 = widened ((char &&& 0x3) <<< 4) ∧
      (promoted char &&& 0xF0) >>> 4 = widened ((char &&& 0xF0) >>> 4) ∧
      (promoted char &&& 0xF) <<< 2 = widened ((char &&& 0xF) <<< 2) ∧
      (promoted char &&& 0xC0) >>> 6 = widened ((char &&& 0xC0) >>> 6) ∧
      promoted char &&& 0x3F = widened (char &&& 0x3F) := by
  revert char
  apply forall_uint8
  decide +kernel

theorem basisAt_widened {index : UInt8} (hindex : index.toNat < 64) :
    basisAt (widened index) = .ok (basis64At index) := by
  have hall : ∀ value : Fin 64, basisAt (widened (UInt8.ofNat value)) =
      .ok (basis64At (UInt8.ofNat value)) := by decide +kernel
  have hbasis := hall ⟨index.toNat, hindex⟩
  rwa [UInt8.ofNat_toNat] at hbasis

theorem thirdIndex_zero (b : UInt8) : thirdIndex b 0 = (b &&& 0xF) <<< 2 := by
  simp [thirdIndex]

theorem secondIndex_zero (a : UInt8) : secondIndex a 0 = (a &&& 0x3) <<< 4 := by
  simp [secondIndex]

variable (a b c : UInt8)

theorem basisAt_first :
    basisAt ((promoted a >>> 2) &&& 0x3F) = .ok (basis64At (firstIndex a)) := by
  rw [(promoted_fields a).1]
  exact basisAt_widened (firstIndex_lt a)

theorem basisAt_second :
    basisAt (((promoted a &&& 0x3) <<< 4) ||| ((promoted b &&& 0xF0) >>> 4)) =
      .ok (basis64At (secondIndex a b)) := by
  rw [(promoted_fields a).2.1, (promoted_fields b).2.2.1, ← widened_or]
  exact basisAt_widened (secondIndex_lt a b)

theorem basisAt_third :
    basisAt (((promoted b &&& 0xF) <<< 2) ||| ((promoted c &&& 0xC0) >>> 6)) =
      .ok (basis64At (thirdIndex b c)) := by
  rw [(promoted_fields b).2.2.2.1, (promoted_fields c).2.2.2.2.1, ← widened_or]
  exact basisAt_widened (thirdIndex_lt b c)

theorem basisAt_fourth :
    basisAt (promoted c &&& 0x3F) = .ok (basis64At (fourthIndex c)) := by
  rw [(promoted_fields c).2.2.2.2.2]
  exact basisAt_widened (fourthIndex_lt c)

theorem basisAt_thirdLast :
    basisAt ((promoted b &&& 0xF) <<< 2) = .ok (basis64At ((b &&& 0xF) <<< 2)) := by
  rw [(promoted_fields b).2.2.2.1, ← thirdIndex_zero]
  exact basisAt_widened (thirdIndex_lt b 0)

theorem basisAt_secondLast :
    basisAt ((promoted a &&& 0x3) <<< 4) = .ok (basis64At ((a &&& 0x3) <<< 4)) := by
  rw [(promoted_fields a).2.1, ← secondIndex_zero]
  exact basisAt_widened (secondIndex_lt a 0)

section Encode

variable {before after : List UInt8}

theorem charAt_append (before chunk : List UInt8) (index : Nat) :
    charAt (before ++ chunk) (before.length + index) = charAt chunk index := by
  rw [charAt, byteAt_append]
  rfl

theorem charAt_append_zero (before chunk : List UInt8) :
    charAt (before ++ chunk) before.length = charAt chunk 0 := charAt_append before chunk 0

theorem encodeTail_two {len : Int} (hlen : len = before.length + 2) :
    encodeTail (before ++ ([a, b] ++ after)) len before.length =
      .ok (base64encode [a, b]) := by
  rw [encodeTail, if_pos (by omega), charAt_append_zero]
  refine (@checked_bind_ok _ _ _ (promoted a) rfl _).trans ?_
  rw [checked_bind_ok (basisAt_first a), if_neg (by omega), charAt_append]
  refine (@checked_bind_ok _ _ _ (promoted b) rfl _).trans ?_
  rw [checked_bind_ok (basisAt_second a b), checked_bind_ok (basisAt_thirdLast b)]
  rfl

theorem encodeTail_one {len : Int} (hlen : len = before.length + 1) :
    encodeTail (before ++ ([a] ++ after)) len before.length = .ok (base64encode [a]) := by
  rw [encodeTail, if_pos (by omega), charAt_append_zero]
  refine (@checked_bind_ok _ _ _ (promoted a) rfl _).trans ?_
  rw [checked_bind_ok (basisAt_first a), if_pos (by omega),
    checked_bind_ok (basisAt_secondLast a)]
  rfl

/-- From a group border on, the loop writes the encoding of what is left. -/
theorem encodeLoop_append {plain : List UInt8} {len : Int}
    (hlen : len = before.length + plain.length) :
    encodeLoop (before ++ (plain ++ after)) len before.length = .ok (base64encode plain) := by
  induction plain using base64encode.induct generalizing before with
  | case1 a b c rest ih =>
      simp only [List.length_cons] at hlen
      have hrest := @ih (before ++ [a, b, c]) (by
        simp only [List.length_append, List.length_cons, List.length_nil]
        omega)
      have hsplit : before ++ [a, b, c] ++ (rest ++ after) =
          before ++ (a :: b :: c :: rest ++ after) := by simp
      have hindex : (before ++ [a, b, c]).length = before.length + 3 := by simp
      rw [hsplit, hindex] at hrest
      rw [encodeLoop, if_pos (by omega), charAt_append_zero, charAt_append, charAt_append]
      refine (@checked_bind_ok _ _ _ (promoted a) rfl _).trans ?_
      refine (@checked_bind_ok _ _ _ (promoted b) rfl _).trans ?_
      refine (@checked_bind_ok _ _ _ (promoted c) rfl _).trans ?_
      rw [checked_bind_ok (basisAt_first a), checked_bind_ok (basisAt_second a b),
        checked_bind_ok (basisAt_third b c), checked_bind_ok (basisAt_fourth c),
        checked_bind_ok hrest]
      rfl
  | case2 a b =>
      rw [encodeLoop, if_neg (by simp only [List.length_cons, List.length_nil] at hlen; omega)]
      exact encodeTail_two a b hlen
  | case3 a =>
      rw [encodeLoop, if_neg (by simp only [List.length_cons, List.length_nil] at hlen; omega)]
      exact encodeTail_one a hlen
  | case4 =>
      rw [encodeLoop, if_neg (by simp only [List.length_nil] at hlen; omega), encodeTail,
        if_neg (by simp only [List.length_nil] at hlen; omega)]
      rfl

end Encode

theorem length_base64encode (plain : List UInt8) :
    (base64encode plain).length = (plain.length + 2) / 3 * 4 := by
  induction plain using base64encode.induct with
  | case1 a b c rest ih =>
      simp only [base64encode, List.length_append, List.length_cons, List.length_nil, ih]
      omega
  | case2 a b => simp [base64encode]
  | case3 a => simp [base64encode]
  | case4 => rfl

/-- The encoding without its padding. -/
def encodedCharacters : List UInt8 → Text
  | a :: b :: c :: rest =>
      [basis64At (firstIndex a), basis64At (secondIndex a b), basis64At (thirdIndex b c),
        basis64At (fourthIndex c)] ++ encodedCharacters rest
  | [a, b] =>
      [basis64At (firstIndex a), basis64At (secondIndex a b), basis64At (thirdIndex b 0)]
  | [a] => [basis64At (firstIndex a), basis64At (secondIndex a 0)]
  | [] => []

theorem encodedCharacters_alphabet (plain : List UInt8) :
    ∀ char ∈ encodedCharacters plain, pr2six char ≤ 63 := by
  induction plain using encodedCharacters.induct with
  | case1 a b c rest ih =>
      refine List.forall_mem_append.mpr ⟨?_, ih⟩
      simp only [List.forall_mem_cons]
      exact ⟨(basis64At_spec (firstIndex_lt a)).2.1, (basis64At_spec (secondIndex_lt a b)).2.1,
        (basis64At_spec (thirdIndex_lt b c)).2.1, (basis64At_spec (fourthIndex_lt c)).2.1,
        List.forall_mem_nil _⟩
  | case2 a b =>
      simp only [encodedCharacters, List.forall_mem_cons]
      exact ⟨(basis64At_spec (firstIndex_lt a)).2.1, (basis64At_spec (secondIndex_lt a b)).2.1,
        (basis64At_spec (thirdIndex_lt b 0)).2.1, List.forall_mem_nil _⟩
  | case3 a =>
      simp only [encodedCharacters, List.forall_mem_cons]
      exact ⟨(basis64At_spec (firstIndex_lt a)).2.1, (basis64At_spec (secondIndex_lt a 0)).2.1,
        List.forall_mem_nil _⟩
  | case4 => exact List.forall_mem_nil _

/-- The padding or the NUL ends the characters. -/
theorem base64encode_split (plain behind : List UInt8) :
    ∃ stop rest, 63 < pr2six stop ∧
      base64encode plain ++ 0 :: behind = encodedCharacters plain ++ stop :: rest := by
  induction plain using base64encode.induct with
  | case1 a b c rest ih =>
      obtain ⟨stop, later, houtside, hsplit⟩ := ih
      refine ⟨stop, later, houtside, ?_⟩
      rw [base64encode, encodedCharacters, List.append_assoc, List.append_assoc, hsplit]
  | case2 a b =>
      refine ⟨61, 0 :: behind, by decide, ?_⟩
      rw [base64encode, encodedCharacters, thirdIndex_zero]
      rfl
  | case3 a =>
      refine ⟨61, 61 :: 0 :: behind, by decide, ?_⟩
      rw [base64encode, encodedCharacters, secondIndex_zero]
      rfl
  | case4 => exact ⟨0, behind, pr2six_nul, rfl⟩

theorem stopsAt_encoded (plain behind : List UInt8) :
    ∃ stop rest,
      StopsAt (base64encode plain ++ 0 :: behind) (encodedCharacters plain) stop rest := by
  obtain ⟨stop, rest, houtside, hsplit⟩ := base64encode_split plain behind
  exact ⟨stop, rest, hsplit, encodedCharacters_alphabet plain, houtside⟩

theorem length_encodedCharacters_le (plain : List UInt8) :
    (encodedCharacters plain).length ≤ (base64encode plain).length := by
  obtain ⟨stop, rest, -, hsplit⟩ := base64encode_split plain []
  have hlength := congrArg List.length hsplit
  simp only [List.length_append, List.length_cons, List.length_nil] at hlength
  omega

theorem encodedCharacters_ne_nil {plain : List UInt8} (hplain : plain ≠ []) :
    encodedCharacters plain ≠ [] := by
  rcases plain with _ | ⟨a, _ | ⟨b, _ | ⟨c, rest⟩⟩⟩
  · exact absurd rfl hplain
  · exact List.cons_ne_nil _ _
  · exact List.cons_ne_nil _ _
  · exact List.cons_ne_nil _ _

/-- Group by group the bytes come back. -/
theorem decodeQuanta_encodedCharacters (plain : List UInt8) :
    (decodeQuanta (encodedCharacters plain).length (encodedCharacters plain)).1 =
      plain ++ [0] := by
  induction plain using encodedCharacters.induct with
  | case1 a b c rest ih =>
      by_cases hrest : rest = []
      · subst hrest
        simp [encodedCharacters, decodeQuanta, decodeTail, firstByte_encoded,
          secondByte_encoded, thirdByte_encoded]
      · have hpositive := List.length_pos_iff.mpr (encodedCharacters_ne_nil hrest)
        have hmore : (((encodedCharacters rest).length + 4 : Nat) : Int) > 4 := by omega
        have hless : (((encodedCharacters rest).length + 4 : Nat) : Int) - 4 =
            (encodedCharacters rest).length := by omega
        simp only [encodedCharacters, List.cons_append, List.nil_append, List.length_cons,
          decodeQuanta, if_pos hmore, hless]
        simp only [ih, firstByte_encoded, secondByte_encoded, thirdByte_encoded]
  | case2 a b =>
      simp [encodedCharacters, decodeQuanta, decodeTail, firstByte_encoded, secondByte_encoded]
  | case3 a => simp [encodedCharacters, decodeQuanta, decodeTail, firstByte_encoded]
  | case4 => rfl

/-- The encoded size, the NUL included, is an `int`. -/
def EncodedSizeFits (plain : List UInt8) : Prop := (plain.length + 2) / 3 * 4 + 1 < 2 ^ 31

theorem base64encodeLen_of_fits {plain : List UInt8} (hfits : EncodedSizeFits plain) :
    base64encodeLen plain.length = .ok ((base64encode plain).length + 1) := by
  unfold EncodedSizeFits at hfits
  have hrounded : addInt (plain.length : Int) 2 = .ok (plain.length + 2) := by
    refine checkInt_eq_ok.mpr ⟨?_, rfl⟩
    omega
  have hquotient : ((plain.length : Int) + 2).tdiv 3 = (plain.length + 2) / 3 :=
    Int.tdiv_eq_ediv_of_nonneg (by omega)
  have hquanta : checkInt (((plain.length : Int) + 2).tdiv 3 * 4) =
      .ok (base64encode plain).length := by
    rw [hquotient, length_base64encode]
    refine checkInt_eq_ok.mpr ⟨?_, ?_⟩
    · omega
    · omega
  have hsize : addInt ((base64encode plain).length : Int) 1 =
      .ok ((base64encode plain).length + 1) := by
    rw [length_base64encode]
    refine checkInt_eq_ok.mpr ⟨?_, rfl⟩
    omega
  rw [base64encodeLen, checked_bind_ok hrounded, checked_bind_ok hquanta, hsize]

theorem base64encodeAt_of_fits {plain : List UInt8} (hfits : EncodedSizeFits plain)
    (after : List UInt8) :
    base64encodeAt (plain ++ after) plain.length =
      .ok (base64encode plain ++ [0], (base64encode plain).length + 1) := by
  have hloop := @encodeLoop_append [] after plain plain.length (by simp)
  rw [List.nil_append] at hloop
  have hlength : (base64encode plain ++ [0]).length = (base64encode plain).length + 1 := by
    rw [List.length_append]
    rfl
  have hreturned : (Int32.ofInt ((base64encode plain).length + 1 : Nat)).toInt =
      ((base64encode plain).length + 1 : Nat) := by
    unfold EncodedSizeFits at hfits
    rw [length_base64encode]
    exact Int32.toInt_ofInt_of_le (by omega) (by omega)
  refine (checked_bind_ok hloop _).trans ?_
  simp only [hlength, hreturned]
  rfl

theorem base64decodeAt_encoded {plain : List UInt8} (hfits : EncodedSizeFits plain)
    (behind : List UInt8) :
    base64decodeAt (base64encode plain ++ 0 :: behind) = .ok (plain ++ [0], plain.length) := by
  obtain ⟨stop, rest, hstops⟩ := stopsAt_encoded plain behind
  have hfew : (encodedCharacters plain).length ≤ maxCharacters := by
    have hle := length_encodedCharacters_le plain
    unfold EncodedSizeFits at hfits
    rw [length_base64encode] at hle
    rw [maxCharacters]
    omega
  rw [base64decodeAt_of_le hstops hfew, decodeQuanta_encodedCharacters, List.length_append]
  simp

/-- The encoder writes what its length function announces, the decoder gives the bytes back,
and no other sequence has the encoding. -/
structure RoundTrips (plain : List UInt8) : Prop where
  returns : ∃ encoded size, base64encodeLen plain.length = .ok size ∧
    (∀ after, base64encodeAt (plain ++ after) plain.length = .ok (encoded ++ [0], size)) ∧
    ((encoded ++ [0]).length : Int) = size ∧ 0 ∉ encoded ∧
    ∀ behind, base64decodeAt (encoded ++ 0 :: behind) = .ok (plain ++ [0], plain.length)
  distinct : ∀ other, EncodedSizeFits other → plain ≠ other →
    (base64encodeAt plain plain.length).map Prod.fst ≠
      (base64encodeAt other other.length).map Prod.fst

theorem base64_round_trip (plain : List UInt8) (hfits : EncodedSizeFits plain) :
    RoundTrips plain := by
  refine ⟨⟨base64encode plain, _, base64encodeLen_of_fits hfits,
    base64encodeAt_of_fits hfits, ?_, ?_, base64decodeAt_encoded hfits⟩, ?_⟩
  · rw [List.length_append]
    rfl
  · intro hnul
    exact (ne_of_mem_base64encode hnul).2 rfl
  · intro other hother hdistinct hsame
    have hplain := base64encodeAt_of_fits hfits []
    have hencoded := base64encodeAt_of_fits hother []
    rw [List.append_nil] at hplain hencoded
    rw [hplain, hencoded] at hsame
    have htext : base64encode plain ++ [0] = base64encode other ++ [0] := Except.ok.inj hsame
    have hback := base64decodeAt_encoded hfits []
    rw [htext, base64decodeAt_encoded hother []] at hback
    have hbytes : other ++ [0] = plain ++ [0] := congrArg Prod.fst (Except.ok.inj hback)
    exact hdistinct (List.append_cancel_right hbytes).symm

/-- Two bytes, one of them negative as a `char`. -/
theorem two_bytes_round_trip : RoundTrips [0xFF, 65] :=
  base64_round_trip [0xFF, 65] (show (2 + 2) / 3 * 4 + 1 < 2 ^ 31 by decide)

end Andor2k
