/-
C strings, the part of <cstring>, <cstdlib> and <cstdio> that works on them, and
the executions C leaves undefined.  A `Text` is the content of a C string, without
its terminating NUL; a memory area is the list of its bytes.
-/
import Mathlib.Algebra.Group.Int.Defs
import Mathlib.Algebra.Group.Nat.Defs
import Mathlib.Data.List.TakeWhile
import Mathlib.Data.Nat.Basic

namespace CText

/-- What a C program must not do: the model stops there. -/
inductive Fault where
  | outOfBounds
  | signedOverflow
  | divisionByZero
  | badArrayLength
deriving DecidableEq, Repr

abbrev Checked := Except Fault

instance decidableEqExcept {E A : Type} [DecidableEq E] [DecidableEq A] :
    DecidableEq (Except E A)
  | .error fault, .error other =>
      decidable_of_iff (fault = other) ⟨congrArg Except.error, Except.error.inj⟩
  | .ok value, .ok other => decidable_of_iff (value = other) ⟨congrArg Except.ok, Except.ok.inj⟩
  | .error _, .ok _ => .isFalse nofun
  | .ok _, .error _ => .isFalse nofun

theorem checked_map_eq_ok {A B : Type} {f : A → B} {computation : Checked A} {result : B} :
    computation.map f = .ok result ↔ ∃ value, computation = .ok value ∧ f value = result := by
  cases computation with
  | error fault => simp [Except.map]
  | ok value => simp [Except.map]

theorem checked_bind_eq_ok {A B : Type} {computation : Checked A} {f : A → Checked B}
    {result : B} :
    (computation >>= f) = .ok result ↔
      ∃ value, computation = .ok value ∧ f value = .ok result := by
  cases computation with
  | error fault => simp [bind, Except.bind]
  | ok value => simp [bind, Except.bind]

theorem checked_bind_error {A B : Type} {computation : Checked A} {fault : Fault}
    (hfault : computation = .error fault) (f : A → Checked B) :
    (computation >>= f) = .error fault := by
  rw [hfault]
  rfl

theorem checked_bind_ok {A B : Type} {computation : Checked A} {value : A}
    (hvalue : computation = .ok value) (f : A → Checked B) :
    (computation >>= f) = f value := by
  rw [hvalue]
  rfl

/-- A value that is passed on if it passes a test. -/
theorem checked_ite_eq_ok {A : Type} {passes : Prop} [Decidable passes] {value result : A}
    {fault : Fault} :
    (if passes then Except.ok value else Except.error fault : Checked A) = .ok result ↔
      passes ∧ value = result := by
  by_cases hpasses : passes
  · simp [hpasses]
  · simp [hpasses]

/-- An intermediate result that has to be an `int`. -/
def checkInt (value : Int) : Checked Int :=
  if -2 ^ 31 ≤ value ∧ value < 2 ^ 31 then .ok value else .error .signedOverflow

theorem checkInt_eq_ok {value result : Int} :
    checkInt value = .ok result ↔ (-2 ^ 31 ≤ value ∧ value < 2 ^ 31) ∧ value = result :=
  checked_ite_eq_ok

def addInt (first second : Int) : Checked Int := checkInt (first + second)

def subInt (first second : Int) : Checked Int := checkInt (first - second)

/-- Division towards zero. -/
def divInt (first second : Int) : Checked Int :=
  if second = 0 then .error .divisionByZero else checkInt (first.tdiv second)

theorem divInt_eq_ok {first second result : Int} (hdiv : divInt first second = .ok result) :
    first.tdiv second = result := by
  unfold divInt at hdiv
  split at hdiv
  · simp at hdiv
  · exact (checkInt_eq_ok.mp hdiv).2

abbrev Text := List UInt8

def ofChars (chars : List Char) : Text :=
  chars.map fun c => UInt8.ofNat c.toNat

def ascii (literal : String) : Text := ofChars literal.toList

/-- `!strncmp(text, literal, strlen(literal))` -/
def startsWith (text literal : Text) : Bool := literal.isPrefixOf text

theorem startsWith_iff {text literal : Text} :
    startsWith text literal = true ↔ literal <+: text := List.isPrefixOf_iff_prefix

/-- Reading a C string out of a memory area that may lack a NUL. -/
def cString (memory : List UInt8) : Checked Text :=
  if 0 ∈ memory then .ok (memory.takeWhile (· ≠ 0)) else .error .outOfBounds

theorem takeWhile_ne_self {text : List UInt8} {stop : UInt8} (hstop : stop ∉ text) :
    text.takeWhile (· ≠ stop) = text := by
  rw [List.takeWhile_eq_self_iff]
  intro byte hbyte
  exact decide_eq_true fun hequal => hstop (hequal ▸ hbyte)

theorem takeWhile_zeros (count : Nat) :
    (List.replicate count (0 : UInt8)).takeWhile (· ≠ 0) = [] := by
  cases count with
  | zero => rfl
  | succ count => rfl

/-- The first NUL ends the string. -/
theorem cString_append_nul {text : Text} (htext : 0 ∉ text) (behind : List UInt8) :
    cString (text ++ 0 :: behind) = .ok text := by
  have hnul : 0 ∈ text ++ 0 :: behind := List.mem_append_right _ List.mem_cons_self
  rw [cString, if_pos hnul, List.takeWhile_append, takeWhile_ne_self htext, if_pos rfl]
  simp

/-- A scan for a byte at which it stops: what it has passed over. -/
def scanUntil (stop : UInt8 → Bool) (memory : List UInt8) : Checked (List UInt8) :=
  if memory.any stop then .ok (memory.takeWhile fun byte => !stop byte)
  else .error .outOfBounds

theorem scanUntil_of_mem {stop : UInt8 → Bool} {memory : List UInt8} {byte : UInt8}
    (hbyte : byte ∈ memory) (hstop : stop byte = true) :
    scanUntil stop memory = .ok (memory.takeWhile fun byte => !stop byte) :=
  if_pos (List.any_eq_true.mpr ⟨byte, hbyte, hstop⟩)

/-- Copying or appending to a C string held by an array of `capacity` bytes: the
NUL has to fit as well. -/
def appendWithin (capacity : Nat) (content added : Text) : Checked Text :=
  if content.length + added.length < capacity then .ok (content ++ added)
  else .error .outOfBounds

theorem appendWithin_eq_ok {capacity : Nat} {content added result : Text} :
    appendWithin capacity content added = .ok result ↔
      content.length + added.length < capacity ∧ content ++ added = result :=
  checked_ite_eq_ok

/-- The memory area after `written` has been stored from `offset` on. -/
def overlay (memory : List UInt8) (offset : Nat) (written : List UInt8) : List UInt8 :=
  memory.take offset ++ written ++ memory.drop (offset + written.length)

theorem length_overlay {memory written : List UInt8} {offset : Nat}
    (hfits : offset + written.length ≤ memory.length) :
    (overlay memory offset written).length = memory.length := by
  simp only [overlay, List.length_append, List.length_take, List.length_drop]
  omega

/-- A `char[size]`. -/
structure CharArray (size : Nat) where
  bytes : List UInt8
  length_bytes : bytes.length = size
deriving DecidableEq, Repr

namespace CharArray

variable {size : Nat}

/-- The array after `memset(array, 0, size)`. -/
def zero (size : Nat) : CharArray size := ⟨List.replicate size 0, List.length_replicate⟩

/-- The array after `memset` and `strcpy` of a text that fits with its NUL. -/
def ofText (text : Text) (hfits : text.length < size) : CharArray size :=
  ⟨text ++ List.replicate (size - text.length) 0, by
    rw [List.length_append, List.length_replicate]
    omega⟩

/-- The array after `strcpy(array, text)`; what lies behind the NUL is kept. -/
def strcpy (array : CharArray size) (text : Text) (hfits : text.length < size) :
    CharArray size :=
  ⟨overlay array.bytes 0 (text ++ [0]), by
    rw [length_overlay, array.length_bytes]
    simp only [List.length_append, List.length_singleton, array.length_bytes]
    omega⟩

/-- The C string the array holds. -/
def text (array : CharArray size) : Checked Text := cString array.bytes

end CharArray

/-- What successive calls of `strtok` on one array give: tokens up to the NUL, or a
scan that runs past the end of the array. -/
inductive Tokens where
  | done
  | overrun
  | token (word : Text) (rest : Tokens)
deriving DecidableEq, Repr

/-- `current` holds the bytes of the token that is being scanned. -/
def scanTokens (delimiter : UInt8) (current : Text) : List UInt8 → Tokens
  | [] => .overrun
  | byte :: rest =>
      if byte = 0 then
        if current = [] then .done else .token current .done
      else if byte = delimiter then
        if current = [] then scanTokens delimiter [] rest
        else .token current (scanTokens delimiter [] rest)
      else scanTokens delimiter (current ++ [byte]) rest

def strtok (delimiter : UInt8) (memory : List UInt8) : Tokens :=
  scanTokens delimiter [] memory

/-- The tokens come to their end inside the array. -/
def Tokens.Terminated : Tokens → Prop
  | done => True
  | overrun => False
  | token _ rest => Terminated rest

theorem terminated_scanTokens {delimiter : UInt8} {memory : List UInt8} {current : Text} :
    (scanTokens delimiter current memory).Terminated ↔ 0 ∈ memory := by
  induction memory generalizing current with
  | nil => simp [scanTokens, Tokens.Terminated]
  | cons byte rest ih =>
      rw [scanTokens, List.mem_cons]
      split
      · rename_i hnul
        split
        · exact iff_of_true trivial (Or.inl hnul.symm)
        · exact iff_of_true trivial (Or.inl hnul.symm)
      · rename_i hnul
        rw [or_iff_right (Ne.symm hnul)]
        split
        · split
          · exact ih
          · exact ih
        · exact ih

theorem terminated_strtok {delimiter : UInt8} {memory : List UInt8} :
    (strtok delimiter memory).Terminated ↔ 0 ∈ memory := terminated_scanTokens

def isSpace (byte : UInt8) : Bool := byte = 32 || (9 ≤ byte && byte ≤ 13)

def isDigit (byte : UInt8) : Bool := 48 ≤ byte && byte ≤ 57

def digitsValue (digits : Text) : Nat :=
  digits.foldl (fun value byte => 10 * value + (byte.toNat - 48)) 0

/-- An optional sign, and what follows it. -/
def splitSign : Text → Bool × Text
  | [] => (false, [])
  | byte :: rest =>
      if byte = 45 then (true, rest)
      else if byte = 43 then (false, rest)
      else (false, byte :: rest)

/-- The value `strtol` returns, the text its end pointer points to, and whether it
set `errno` to ERANGE. -/
structure StrtolResult where
  value : Int
  rest : Text
  erange : Bool
deriving DecidableEq, Repr

/-- The nearest 64-bit `long`. -/
def clampLong (value : Int) : Int := max (-2 ^ 63) (min (2 ^ 63 - 1) value)

/-- `strtol(text, &end, 10)`; without a conversion the end pointer is the start. -/
def strtol (text : Text) : StrtolResult :=
  let (negative, body) := splitSign (text.dropWhile isSpace)
  let digits := body.takeWhile isDigit
  if digits = [] then ⟨0, text, false⟩
  else
    let value : Int := if negative then -digitsValue digits else digitsValue digits
    ⟨clampLong value, body.dropWhile isDigit, decide (clampLong value ≠ value)⟩

/-- `strtol` on a memory area: it has to find a byte that ends the number. -/
def strtolIn (memory : List UInt8) : Checked StrtolResult :=
  if (splitSign (memory.dropWhile isSpace)).2.dropWhile isDigit = [] then .error .outOfBounds
  else .ok (strtol memory)

theorem mem_dropWhile {skips : UInt8 → Bool} {memory : List UInt8} {byte : UInt8}
    (hbyte : byte ∈ memory) (hstop : skips byte = false) :
    byte ∈ memory.dropWhile skips := by
  induction memory with
  | nil => cases hbyte
  | cons first rest ih =>
      rw [List.dropWhile_cons]
      split
      · rename_i hskipped
        rcases List.mem_cons.mp hbyte with rfl | hrest
        · exact absurd (hskipped.symm.trans hstop) (by decide)
        · exact ih hrest
      · exact hbyte

theorem nul_mem_splitSign {memory : List UInt8} (hnul : 0 ∈ memory) :
    0 ∈ (splitSign memory).2 := by
  cases memory with
  | nil => cases hnul
  | cons byte rest =>
      rw [splitSign]
      split
      · rename_i hminus
        exact (List.mem_cons.mp hnul).resolve_left (by rw [hminus]; decide)
      · split
        · rename_i hplus
          exact (List.mem_cons.mp hnul).resolve_left (by rw [hplus]; decide)
        · exact hnul

/-- A NUL ends every number. -/
theorem strtolIn_of_nul {memory : List UInt8} (hnul : 0 ∈ memory) :
    strtolIn memory = .ok (strtol memory) := by
  have hspaces : 0 ∈ memory.dropWhile isSpace := mem_dropWhile hnul rfl
  have hend : 0 ∈ (splitSign (memory.dropWhile isSpace)).2.dropWhile isDigit :=
    mem_dropWhile (nul_mem_splitSign hspaces) rfl
  exact if_neg (List.ne_nil_of_mem hend)

/-- `sprintf("%d", n)` for a non-negative number. -/
def decimal (n : Nat) : Text := ofChars (Nat.toDigits 10 n)

theorem isDigit_ofNat_toNat {c : Char} (hdigit : c.isDigit = true) :
    isDigit (UInt8.ofNat c.toNat) = true ∧ (UInt8.ofNat c.toNat).toNat = c.toNat := by
  have hrange : 48 ≤ c.toNat ∧ c.toNat ≤ 57 := by
    simp only [Char.isDigit, Bool.and_eq_true, decide_eq_true_eq] at hdigit
    exact hdigit
  have hsmall : (UInt8.ofNat c.toNat).toNat = c.toNat := by
    rw [UInt8.toNat_ofNat']
    omega
  refine ⟨?_, hsmall⟩
  simp only [isDigit, Bool.and_eq_true, decide_eq_true_eq, UInt8.le_iff_toNat_le, hsmall]
  exact hrange

theorem isDigit_of_mem_decimal {n : Nat} {byte : UInt8} (hbyte : byte ∈ decimal n) :
    isDigit byte = true := by
  simp only [decimal, ofChars, List.mem_map] at hbyte
  obtain ⟨c, hc, rfl⟩ := hbyte
  exact (isDigit_ofNat_toNat (Nat.isDigit_of_mem_toDigits (by omega) (by omega) hc)).1

theorem decimal_ne_nil (n : Nat) : decimal n ≠ [] := by
  simp [decimal, ofChars, Nat.toDigits_ne_nil]

theorem digitsValue_ofChars {chars : List Char}
    (hdigits : ∀ c ∈ chars, c.isDigit = true) (start : Nat) :
    (ofChars chars).foldl (fun value byte => 10 * value + (byte.toNat - 48)) start =
      Nat.ofDigitChars 10 chars start := by
  induction chars generalizing start with
  | nil => simp [ofChars]
  | cons c rest ih =>
      have hc := (isDigit_ofNat_toNat (hdigits c List.mem_cons_self)).2
      simp only [ofChars, List.map_cons, List.foldl_cons, Nat.ofDigitChars_cons, hc]
      exact ih (fun d hd => hdigits d (List.mem_cons_of_mem c hd)) _

theorem digitsValue_decimal (n : Nat) : digitsValue (decimal n) = n := by
  rw [digitsValue, decimal, digitsValue_ofChars
    (fun c hc => Nat.isDigit_of_mem_toDigits (by omega) (by omega) hc)]
  exact Nat.ofDigitChars_ten_toDigits

/-- A digit is neither blank nor a sign. -/
theorem isSpace_eq_false_of_isDigit {byte : UInt8} (hdigit : isDigit byte = true) :
    isSpace byte = false ∧ byte ≠ 45 ∧ byte ≠ 43 := by
  simp only [isDigit, Bool.and_eq_true, decide_eq_true_eq] at hdigit
  obtain ⟨hlow, hhigh⟩ := hdigit
  refine ⟨?_, ?_, ?_⟩
  · simp only [isSpace, Bool.or_eq_false_iff, decide_eq_false_iff_not,
      Bool.and_eq_false_imp, decide_eq_true_eq]
    simp only [UInt8.le_iff_toNat_le, ← UInt8.toNat_inj, UInt8.reduceToNat] at *
    omega
  · rintro rfl
    exact absurd hlow (by decide)
  · rintro rfl
    exact absurd hlow (by decide)

/-- `strtol` reads back the decimal text of a number, whatever non-digit follows. -/
theorem strtol_decimal {n : Nat} (hlong : n < 2 ^ 63) {rest : Text}
    (hrest : ∀ byte, rest.head? = some byte → isDigit byte = false) :
    strtol (decimal n ++ rest) = ⟨n, rest, false⟩ := by
  obtain ⟨first, tail, hdecimal⟩ := List.exists_cons_of_ne_nil (decimal_ne_nil n)
  have hfirst : isDigit first = true :=
    isDigit_of_mem_decimal (hdecimal ▸ List.mem_cons_self)
  obtain ⟨hspace, hminus, hplus⟩ := isSpace_eq_false_of_isDigit hfirst
  have hstart : splitSign ((decimal n ++ rest).dropWhile isSpace) =
      (false, decimal n ++ rest) := by
    rw [hdecimal]
    simp [hspace, splitSign, hminus, hplus]
  have htake : (decimal n ++ rest).takeWhile isDigit = decimal n := by
    rw [List.takeWhile_append_of_pos fun byte hbyte => isDigit_of_mem_decimal hbyte]
    cases rest with
    | nil => simp
    | cons byte more => simp [hrest byte rfl]
  have hdrop : (decimal n ++ rest).dropWhile isDigit = rest := by
    rw [List.dropWhile_append_of_pos fun byte hbyte => isDigit_of_mem_decimal hbyte]
    cases rest with
    | nil => rfl
    | cons byte more => simp [hrest byte rfl]
  have hclamp : clampLong (n : Int) = n := by
    unfold clampLong
    omega
  simp [strtol, hstart, htake, hdrop, decimal_ne_nil, digitsValue_decimal, hclamp]

example : strtol (ascii "  -42abc") = ⟨-42, ascii "abc", false⟩ := by decide

end CText
