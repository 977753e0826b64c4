/-
base64decode on a memory area: which bytes of the text it reads, and how many it writes.
A read outside the area is a fault.
-/
import Andor2k.Cbase64

namespace Andor2k

open CText

section Reads

variable {A : Type}

/-- The first `count` bytes of the memory are enough, whatever lies behind them. -/
def ReadsWithin (computation : List UInt8 → Checked A) (memory : List UInt8) (count : Nat) :
    Prop :=
  ∀ behind, computation (memory.take count ++ behind) = computation memory

end Reads

def byteAt (memory : List UInt8) (offset : Nat) : Checked UInt8 :=
  match memory[offset]? with
  | some byte => .ok byte
  | none => .error .outOfBounds

theorem byteAt_append (before chunk : List UInt8) (index : Nat) :
    byteAt (before ++ chunk) (before.length + index) = byteAt chunk index := by
  rw [byteAt, List.getElem?_append_right (Nat.le_add_right _ _), Nat.add_sub_cancel_left]
  rfl

theorem byteAt_append_zero (before chunk : List UInt8) :
    byteAt (before ++ chunk) before.length = byteAt chunk 0 := byteAt_append before chunk 0

/-- `while (pr2six[*(bufin++)] <= 63);` and the difference of the pointers. -/
def countAt (bufcoded : List UInt8) : Checked Int := do
  let passed ← scanUntil (fun c => !decide (pr2six c ≤ 63)) bufcoded
  return (Int32.ofInt passed.length).toInt

def base64decodeLenAt (bufcoded : List UInt8) : Checked Int := do
  let nprbytes ← countAt bufcoded
  let nbytesdecoded ← quantaBytes nprbytes
  addInt nbytesdecoded 1

def firstByteAt (memory : List UInt8) (bufin : Nat) : Checked UInt8 := do
  let first ← byteAt memory bufin
  let second ← byteAt memory (bufin + 1)
  return firstByte first second

def secondByteAt (memory : List UInt8) (bufin : Nat) : Checked UInt8 := do
  let second ← byteAt memory (bufin + 1)
  let third ← byteAt memory (bufin + 2)
  return secondByte second third

def thirdByteAt (memory : List UInt8) (bufin : Nat) : Checked UInt8 := do
  let third ← byteAt memory (bufin + 2)
  let fourth ← byteAt memory (bufin + 3)
  return thirdByte third fourth

/-- `if (condition) *(bufout++) = byte;` -/
def writeIf (condition : Bool) (byte : Checked UInt8) : Checked (List UInt8) :=
  if condition then byte.map fun written => [written] else .ok []

def tailAt (memory : List UInt8) (bufin : Nat) (nprbytes : Int) : Checked (List UInt8) := do
  let first ← writeIf (nprbytes > 1) (firstByteAt memory bufin)
  let second ← writeIf (nprbytes > 2) (secondByteAt memory bufin)
  let third ← writeIf (nprbytes > 3) (thirdByteAt memory bufin)
  return first ++ second ++ third ++ [0]

/-- The loop over the quanta and what follows: the bytes written, and the count left. -/
def quantaAt (memory : List UInt8) (bufin : Nat) (nprbytes : Int) :
    Checked (List UInt8 × Int) :=
  if nprbytes > 4 then do
    let first ← firstByteAt memory bufin
    let second ← secondByteAt memory bufin
    let third ← thirdByteAt memory bufin
    let (written, left) ← quantaAt memory (bufin + 4) (nprbytes - 4)
    return ([first, second, third] ++ written, left)
  else do
    let written ← tailAt memory bufin nprbytes
    return (written, nprbytes)
termination_by nprbytes.toNat

def base64decodeAt (bufcoded : List UInt8) : Checked (List UInt8 × Int) := do
  let nprbytes ← countAt bufcoded
  let nbytesdecoded ← quantaBytes nprbytes
  let (written, left) ← quantaAt bufcoded 0 nprbytes
  -- `nbytesdecoded -= (4 - nprbytes) & 3;`
  let missing ← subInt 4 left
  let nbytesdecoded ← subInt nbytesdecoded (missing % 4)
  return (written, nbytesdecoded)

/-- The characters before the first one outside the alphabet. -/
def alphabetPrefix (bufcoded : Text) : Text :=
  bufcoded.takeWhile fun c => pr2six c ≤ 63

/-- A text is decoded up to the character at which the scan stops. -/
structure StopsAt (memory characters : List UInt8) (stop : UInt8) (behind : List UInt8) :
    Prop where
  split : memory = characters ++ stop :: behind
  alphabet : ∀ c ∈ characters, pr2six c ≤ 63
  outside : 63 < pr2six stop

theorem pr2six_nul : 63 < pr2six 0 := by decide

/-- The NUL ends the scan at the latest. -/
theorem stopsAt_terminated (text : Text) (behind : List UInt8) :
    ∃ stop rest, StopsAt (text ++ 0 :: behind) (alphabetPrefix text) stop rest := by
  induction text with
  | nil => exact ⟨0, behind, rfl, List.forall_mem_nil _, pr2six_nul⟩
  | cons c text ih =>
      by_cases halphabet : pr2six c ≤ 63
      · obtain ⟨stop, rest, hsplit, hall, houtside⟩ := ih
        have hinitial : alphabetPrefix (c :: text) = c :: alphabetPrefix text := by
          rw [alphabetPrefix, List.takeWhile_cons_of_pos (by simpa using halphabet)]
          rfl
        rw [hinitial]
        refine ⟨stop, rest, ?_, ?_, houtside⟩
        · rw [List.cons_append, hsplit, List.cons_append]
        · exact List.forall_mem_cons.mpr ⟨halphabet, hall⟩
      · have hinitial : alphabetPrefix (c :: text) = [] := by
          rw [alphabetPrefix, List.takeWhile_cons_of_neg (by simpa using halphabet)]
        rw [hinitial]
        exact ⟨c, text ++ 0 :: behind, rfl, List.forall_mem_nil _, UInt8.not_le.mp halphabet⟩

theorem countAt_of_stopsAt {memory characters behind : List UInt8} {stop : UInt8}
    (hstops : StopsAt memory characters stop behind) (hshort : characters.length < 2 ^ 31) :
    countAt memory = .ok characters.length := by
  obtain ⟨rfl, halphabet, houtside⟩ := hstops
  have hnot : ¬ pr2six stop ≤ 63 := UInt8.not_le.mpr houtside
  have hscan : scanUntil (fun c => !decide (pr2six c ≤ 63)) (characters ++ stop :: behind) =
      .ok characters := by
    rw [scanUntil_of_mem (List.mem_append_right _ List.mem_cons_self) (by simpa using hnot)]
    have htake : (characters ++ stop :: behind).takeWhile
        (fun c => !(!decide (pr2six c ≤ 63))) = characters := by
      rw [List.takeWhile_append_of_pos (by simpa using halphabet),
        List.takeWhile_cons_of_neg (by simpa using hnot), List.append_nil]
    rw [htake]
  have hcount : (Int32.ofInt (characters.length : Int)).toInt = characters.length :=
    Int32.toInt_ofInt_of_le (by omega) (by omega)
  simp only [countAt, hscan, bind, Except.bind, pure, Except.pure, hcount]

variable {before after : List UInt8}

theorem firstByteAt_append (a b : UInt8) :
    firstByteAt (before ++ a :: b :: after) before.length = .ok (firstByte a b) := by
  rw [firstByteAt, byteAt_append_zero, byteAt_append]
  rfl

theorem secondByteAt_append (a b c : UInt8) :
    secondByteAt (before ++ a :: b :: c :: after) before.length = .ok (secondByte b c) := by
  rw [secondByteAt, byteAt_append, byteAt_append]
  rfl

theorem thirdByteAt_append (a b c d : UInt8) :
    thirdByteAt (before ++ a :: b :: c :: d :: after) before.length = .ok (thirdByte c d) := by
  rw [thirdByteAt, byteAt_append, byteAt_append]
  rfl

/-- Four characters or fewer: no others are read. -/
theorem tailAt_append {characters : List UInt8} (hfew : characters.length ≤ 4) :
    tailAt (before ++ (characters ++ after)) before.length characters.length =
      .ok (decodeTail characters.length characters) := by
  rcases characters with _ | ⟨a, _ | ⟨b, _ | ⟨c, _ | ⟨d, _ | ⟨e, rest⟩⟩⟩⟩⟩
  · rfl
  · rfl
  · simp [tailAt, writeIf, decodeTail, firstByteAt_append, Except.map, bind, Except.bind, pure,
      Except.pure]
  · simp [tailAt, writeIf, decodeTail, firstByteAt_append, secondByteAt_append, Except.map, bind,
      Except.bind, pure, Except.pure]
  · simp [tailAt, writeIf, decodeTail, firstByteAt_append, secondByteAt_append,
      thirdByteAt_append, Except.map, bind, Except.bind, pure, Except.pure]
  · simp only [List.length_cons] at hfew
    omega

/-- The last quantum is left to the tests behind the loop. -/
theorem decodeQuanta_last {bufin : List UInt8} {nprbytes : Int} (hlast : ¬ nprbytes > 4) :
    decodeQuanta nprbytes bufin = (decodeTail nprbytes bufin, nprbytes) := by
  rcases bufin with _ | ⟨a, _ | ⟨b, _ | ⟨c, _ | ⟨d, rest⟩⟩⟩⟩
  · rfl
  · rfl
  · rfl
  · rfl
  · rw [decodeQuanta, if_neg hlast]

theorem length_le_four {characters : List UInt8}
    (hshort : ∀ a b c d rest, characters = a :: b :: c :: d :: rest → False) :
    characters.length ≤ 4 := by
  rcases characters with _ | ⟨a, _ | ⟨b, _ | ⟨c, _ | ⟨d, rest⟩⟩⟩⟩
  · exact Nat.zero_le 4
  · simp
  · simp
  · simp
  · exact (hshort a b c d rest rfl).elim

theorem quantaAt_few {characters : List UInt8} {nprbytes : Int}
    (hcount : nprbytes = characters.length) (hfew : characters.length ≤ 4) :
    quantaAt (before ++ (characters ++ after)) before.length nprbytes =
      .ok (decodeQuanta nprbytes characters) := by
  rw [quantaAt, if_neg (by omega), decodeQuanta_last (by omega), hcount, tailAt_append hfew]
  rfl

/-- The loop reads the characters it was given, and no others. -/
theorem quantaAt_append {characters : List UInt8} {nprbytes : Int}
    (hcount : nprbytes = characters.length) :
    quantaAt (before ++ (characters ++ after)) before.length nprbytes =
      .ok (decodeQuanta nprbytes characters) := by
  induction nprbytes, characters using decodeQuanta.induct generalizing before with
  | case1 nprbytes a b c d rest hmore _ _ _ ih =>
      have hrest := @ih (before ++ [a, b, c, d]) (by simp only [List.length_cons] at hcount; omega)
      have hshift : before ++ [a, b, c, d] ++ (rest ++ after) =
          before ++ a :: b :: c :: d :: (rest ++ after) := by simp
      rw [hshift, List.length_append] at hrest
      rw [quantaAt, if_pos hmore]
      simp only [List.cons_append, firstByteAt_append, secondByteAt_append, thirdByteAt_append]
      simp only [List.length_cons, List.length_nil, Nat.zero_add] at hrest
      simp only [hrest, bind, Except.bind, pure, Except.pure, decodeQuanta, if_pos hmore,
        List.cons_append, List.nil_append]
  | case2 nprbytes a b c d rest hlast => exact quantaAt_few hcount (by omega)
  | case3 nprbytes characters hshort => exact quantaAt_few hcount (length_le_four hshort)

theorem length_decodeTail (nprbytes : Int) (characters : List UInt8) :
    (decodeTail nprbytes characters).length = (if nprbytes > 1 then 1 else 0) +
      (if nprbytes > 2 then 1 else 0) + (if nprbytes > 3 then 1 else 0) + 1 := by
  simp only [decodeTail, List.length_append, apply_ite List.length, List.length_cons,
    List.length_nil, Nat.zero_add]

/-- How many bytes are written; the count that is left belongs to the last quantum. -/
def WritesQuanta (nprbytes : Int) (result : List UInt8 × Int) : Prop :=
  0 ≤ result.2 ∧ result.2 ≤ 4 ∧
    (result.1.length : Int) = (nprbytes + 3) / 4 * 3 - (4 - result.2) % 4 + 1

theorem writesQuanta_few {characters : List UInt8} {nprbytes : Int}
    (hcount : nprbytes = characters.length) (hfew : characters.length ≤ 4) :
    WritesQuanta nprbytes (decodeQuanta nprbytes characters) := by
  rw [decodeQuanta_last (by omega), WritesQuanta, length_decodeTail]
  refine ⟨by omega, by omega, ?_⟩
  split_ifs <;> omega

theorem writesQuanta_decodeQuanta {characters : List UInt8} {nprbytes : Int}
    (hcount : nprbytes = characters.length) :
    WritesQuanta nprbytes (decodeQuanta nprbytes characters) := by
  induction nprbytes, characters using decodeQuanta.induct with
  | case1 nprbytes a b c d rest hmore _ _ _ ih =>
      obtain ⟨hlow, hhigh, hlength⟩ := ih (by simp only [List.length_cons] at hcount; omega)
      rw [decodeQuanta, if_pos hmore]
      refine ⟨hlow, hhigh, ?_⟩
      simp only [List.length_append, List.length_cons, List.length_nil]
      omega
  | case2 nprbytes a b c d rest hlast => exact writesQuanta_few hcount (by omega)
  | case3 nprbytes characters hshort => exact writesQuanta_few hcount (length_le_four hshort)

/-- What is written does not depend on what lies behind the characters. -/
theorem decodeTail_append {characters : List UInt8} (hfew : characters.length ≤ 4)
    (after : List UInt8) :
    decodeTail characters.length (characters ++ after) =
      decodeTail characters.length characters := by
  rcases characters with _ | ⟨a, _ | ⟨b, _ | ⟨c, _ | ⟨d, _ | ⟨e, rest⟩⟩⟩⟩⟩
  · simp [decodeTail]
  · simp [decodeTail]
  · simp [decodeTail]
  · simp [decodeTail]
  · simp [decodeTail]
  · simp only [List.length_cons] at hfew
    omega

theorem decodeQuanta_append {characters : List UInt8} {nprbytes : Int}
    (hcount : nprbytes = characters.length) (after : List UInt8) :
    decodeQuanta nprbytes (characters ++ after) = decodeQuanta nprbytes characters := by
  induction nprbytes, characters using decodeQuanta.induct with
  | case1 nprbytes a b c d rest hmore _ _ _ ih =>
      have hrest := ih (by simp only [List.length_cons] at hcount; omega)
      simp only [List.cons_append, decodeQuanta, if_pos hmore]
      rw [hrest]
  | case2 nprbytes a b c d rest hlast =>
      rw [decodeQuanta_last hlast, decodeQuanta_last hlast, hcount, decodeTail_append (by omega)]
  | case3 nprbytes characters hshort =>
      have hfew := length_le_four hshort
      have hlast : ¬ nprbytes > 4 := by omega
      rw [decodeQuanta_last hlast, decodeQuanta_last hlast, hcount, decodeTail_append hfew]

/-- The longest run of characters whose rounded length an `int` can hold. -/
def maxCharacters : Nat := 2147483644

theorem quantaBytes_of_le {count : Nat} (hcount : count ≤ maxCharacters) :
    quantaBytes count = .ok ((count + 3) / 4 * 3) := by
  rw [maxCharacters] at hcount
  have hsum : addInt (count : Int) 3 = .ok (count + 3) := by
    apply checkInt_eq_ok.mpr
    omega
  have hquot : ((count : Int) + 3).tdiv 4 = (count + 3) / 4 :=
    Int.tdiv_eq_ediv_of_nonneg (by omega)
  apply checked_bind_eq_ok.mpr
  exact ⟨_, hsum, congrArg (fun quotient : Int => Except.ok (quotient * 3)) hquot⟩

theorem quantaBytes_of_lt {count : Nat} (hcount : maxCharacters < count) :
    quantaBytes count = .error .signedOverflow := by
  rw [maxCharacters] at hcount
  have hsum : addInt (count : Int) 3 = .error .signedOverflow := by
    unfold addInt checkInt
    exact if_neg (by omega)
  exact checked_bind_error hsum _

section StopsAt

variable {memory characters behind : List UInt8} {stop : UInt8}

theorem base64decodeLenAt_of_le (hstops : StopsAt memory characters stop behind)
    (hcount : characters.length ≤ maxCharacters) :
    base64decodeLenAt memory = .ok ((characters.length + 3) / 4 * 3 + 1) := by
  have hfits : addInt (((characters.length : Int) + 3) / 4 * 3) 1 =
      .ok ((characters.length + 3) / 4 * 3 + 1) := by
    rw [maxCharacters] at hcount
    refine checkInt_eq_ok.mpr ⟨?_, rfl⟩
    omega
  have hshort : characters.length < 2 ^ 31 := by
    rw [maxCharacters] at hcount
    omega
  rw [base64decodeLenAt, checked_bind_ok (countAt_of_stopsAt hstops hshort),
    checked_bind_ok (quantaBytes_of_le hcount)]
  exact hfits

theorem base64decodeLenAt_of_lt (hstops : StopsAt memory characters stop behind)
    (hshort : characters.length < 2 ^ 31) (hcount : maxCharacters < characters.length) :
    base64decodeLenAt memory = .error .signedOverflow := by
  rw [base64decodeLenAt, checked_bind_ok (countAt_of_stopsAt hstops hshort)]
  exact checked_bind_error (quantaBytes_of_lt hcount) _

/-- The bytes written are one more than the number returned. -/
theorem base64decodeAt_of_le (hstops : StopsAt memory characters stop behind)
    (hcount : characters.length ≤ maxCharacters) :
    base64decodeAt memory = .ok ((decodeQuanta characters.length characters).1,
      (decodeQuanta characters.length characters).1.length - 1) := by
  have hshort : characters.length < 2 ^ 31 := by
    rw [maxCharacters] at hcount
    omega
  have hquanta : quantaAt memory 0 characters.length =
      .ok (decodeQuanta characters.length characters) := by
    have hloop := @quantaAt_append [] (stop :: behind) characters _ rfl
    rwa [List.nil_append, ← hstops.split] at hloop
  obtain ⟨hlow, hhigh, hlength⟩ := @writesQuanta_decodeQuanta characters _ rfl
  generalize decodeQuanta characters.length characters = result at hquanta hlow hhigh hlength ⊢
  obtain ⟨written, left⟩ := result
  rw [maxCharacters] at hcount
  have hmissing : subInt 4 left = .ok (4 - left) := by
    refine checkInt_eq_ok.mpr ⟨?_, rfl⟩
    simp only at hlow hhigh
    omega
  have hreturned : subInt (((characters.length : Int) + 3) / 4 * 3) ((4 - left) % 4) =
      .ok (written.length - 1) := by
    simp only at hlength
    refine checkInt_eq_ok.mpr ⟨?_, ?_⟩
    · omega
    · omega
  rw [base64decodeAt, checked_bind_ok (countAt_of_stopsAt hstops hshort),
    checked_bind_ok (quantaBytes_of_le hcount), checked_bind_ok hquanta]
  simp only [checked_bind_ok hmissing, checked_bind_ok hreturned]
  rfl

end StopsAt

theorem length_alphabetPrefix_le (text : Text) : (alphabetPrefix text).length ≤ text.length :=
  (List.takeWhile_prefix _).length_le

/-- On a terminated text the decoder does what it does on the text alone. -/
theorem base64decodeAt_terminated {text : Text} (hint : text.length < 2 ^ 31)
    (behind : List UInt8) : base64decodeAt (text ++ 0 :: behind) = base64decode text := by
  obtain ⟨stop, rest, hstops⟩ := stopsAt_terminated text behind
  have hshort : (alphabetPrefix text).length < 2 ^ 31 :=
    Nat.lt_of_le_of_lt (length_alphabetPrefix_le text) hint
  have hcount : alphabetLength text = (alphabetPrefix text).length := by
    change (Int32.ofInt ((alphabetPrefix text).length : Int)).toInt = _
    exact Int32.toInt_ofInt_of_le (by omega) (by omega)
  by_cases hmany : maxCharacters < (alphabetPrefix text).length
  · have hfault := quantaBytes_of_lt hmany
    rw [base64decodeAt, checked_bind_ok (countAt_of_stopsAt hstops hshort),
      checked_bind_error hfault, base64decode, hcount, checked_bind_error hfault]
  · have hfew : (alphabetPrefix text).length ≤ maxCharacters := Nat.not_lt.mp hmany
    have hquanta := @decodeQuanta_append (alphabetPrefix text) _ rfl
      (text.dropWhile fun c => pr2six c ≤ 63)
    rw [alphabetPrefix, List.takeWhile_append_dropWhile, ← alphabetPrefix] at hquanta
    obtain ⟨-, -, hlength⟩ := @writesQuanta_decodeQuanta (alphabetPrefix text) _ rfl
    rw [base64decodeAt_of_le hstops hfew, base64decode, hcount,
      checked_bind_ok (quantaBytes_of_le hfew), hquanta]
    rw [hlength, Int.add_sub_cancel]
    rfl

/-- The decoder on a text in memory: it writes one byte more than it returns, into a buffer of
the size it asks for; it needs nothing behind the first character outside the alphabet, and
any such character will do. -/
structure DecodesInside (text : Text) (behind : List UInt8) : Prop where
  result : ∃ written size r,
    base64decodeLenAt (text ++ 0 :: behind) = .ok size ∧
    base64decodeAt (text ++ 0 :: behind) = .ok (written, r) ∧
    (written.length : Int) = r + 1 ∧ r + 1 ≤ size
  lengthReads : ReadsWithin base64decodeLenAt (text ++ 0 :: behind)
    ((alphabetPrefix text).length + 1)
  reads : ReadsWithin base64decodeAt (text ++ 0 :: behind) ((alphabetPrefix text).length + 1)
  outputLocal : ∀ stop rest, 63 < pr2six stop →
    base64decodeAt (alphabetPrefix text ++ stop :: rest) = base64decodeAt (text ++ 0 :: behind)

theorem take_of_stopsAt {memory characters behind : List UInt8} {stop : UInt8}
    (hstops : StopsAt memory characters stop behind) (other : List UInt8) :
    StopsAt (memory.take (characters.length + 1) ++ other) characters stop other := by
  refine ⟨?_, hstops.alphabet, hstops.outside⟩
  rw [hstops.split, List.append_cons, List.take_left' (by simp), List.append_assoc]
  rfl

/-- The decoder stays inside as long as rounding up the number of characters does not
overflow. -/
theorem decodes_inside_iff (text : Text) (behind : List UInt8) (hint : text.length < 2 ^ 31) :
    DecodesInside text behind ↔ (alphabetPrefix text).length ≤ maxCharacters := by
  obtain ⟨stop, rest, hstops⟩ := stopsAt_terminated text behind
  constructor
  · intro hinside
    by_contra hmany
    obtain ⟨written, size, r, hsize, -⟩ := hinside.result
    have hshort : (alphabetPrefix text).length < 2 ^ 31 :=
      Nat.lt_of_le_of_lt (length_alphabetPrefix_le text) hint
    rw [base64decodeLenAt_of_lt hstops hshort (Nat.not_le.mp hmany)] at hsize
    cases hsize
  · intro hfew
    have hdecode := base64decodeAt_of_le hstops hfew
    have hsize := base64decodeLenAt_of_le hstops hfew
    refine ⟨⟨_, _, _, hsize, hdecode, (Int.sub_add_cancel _ _).symm, ?_⟩, ?_, ?_, ?_⟩
    · obtain ⟨-, -, hlength⟩ := @writesQuanta_decodeQuanta (alphabetPrefix text) _ rfl
      omega
    · intro other
      rw [base64decodeLenAt_of_le (take_of_stopsAt hstops other) hfew, hsize]
    · intro other
      rw [base64decodeAt_of_le (take_of_stopsAt hstops other) hfew, hdecode]
    · intro other later hother
      rw [base64decodeAt_of_le ⟨rfl, hstops.alphabet, hother⟩ hfew, hdecode]

/-- Two characters and their padding, with something behind the NUL. -/
theorem padded_text_decodes_inside : DecodesInside (ascii "QQ==") [1, 2, 3] :=
  (decodes_inside_iff (ascii "QQ==") [1, 2, 3] (by decide)).mpr (by decide)

theorem alphabetPrefix_replicate (count : Nat) :
    alphabetPrefix (List.replicate count 65) = List.replicate count 65 := by
  rw [alphabetPrefix, List.takeWhile_eq_self_iff]
  intro c hc
  rw [List.eq_of_mem_replicate hc]
  decide

/-- The shortest text whose length cannot be rounded up. -/
theorem longest_texts_overflow :
    ¬ DecodesInside (List.replicate 2147483645 65) [] ∧
      base64decodeLenAt (List.replicate 2147483645 65 ++ [0]) = .error .signedOverflow := by
  obtain ⟨stop, rest, hstops⟩ := stopsAt_terminated (List.replicate 2147483645 65) []
  have hlength : (alphabetPrefix (List.replicate 2147483645 65)).length = 2147483645 := by
    rw [alphabetPrefix_replicate, List.length_replicate]
  have hfault := base64decodeLenAt_of_lt hstops (by rw [hlength]; omega)
    (by rw [hlength, maxCharacters]; omega)
  refine ⟨?_, hfault⟩
  rintro ⟨⟨written, size, r, hsize, -⟩, -⟩
  rw [hfault] at hsize
  cases hsize

end Andor2k
