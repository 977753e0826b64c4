/-
Values as the bytes they occupy: little-endian integers, character arrays, and the
reading of consecutive members out of one memory area.
-/
import Andor2k.Ieee

namespace Memory

open CText Ieee

def toLittleEndian : Nat → Nat → List UInt8
  | 0, _ => []
  | count + 1, value => UInt8.ofNat value :: toLittleEndian count (value / 256)

def ofLittleEndian : List UInt8 → Nat
  | [] => 0
  | byte :: rest => byte.toNat + 256 * ofLittleEndian rest

theorem length_toLittleEndian (count value : Nat) :
    (toLittleEndian count value).length = count := by
  induction count generalizing value with
  | zero => rfl
  | succ count ih => simp [toLittleEndian, ih]

theorem ofLittleEndian_toLittleEndian {count value : Nat} (hvalue : value < 256 ^ count) :
    ofLittleEndian (toLittleEndian count value) = value := by
  induction count generalizing value with
  | zero =>
      have hzero : value = 0 := by simpa using hvalue
      rw [hzero]
      rfl
  | succ count ih =>
      have hquotient : value / 256 < 256 ^ count := by
        rw [Nat.div_lt_iff_lt_mul (by decide)]
        simpa [Nat.pow_succ] using hvalue
      rw [toLittleEndian, ofLittleEndian, ih hquotient, UInt8.toNat_ofNat']
      omega

/-- A type whose values occupy `size` bytes.  `decode` reads the bytes at the start
of a memory area. -/
class Pod (α : Type) where
  size : Nat
  encode : α → List UInt8
  decode : List UInt8 → α
  length_encode : ∀ value, (encode value).length = size
  decode_encode : ∀ value rest, decode (encode value ++ rest) = value

attribute [simp] Pod.length_encode Pod.decode_encode

theorem Pod.encode_injective {α : Type} [Pod α] {first second : α}
    (hbytes : encode first = encode second) : first = second := by
  calc first = decode (encode first ++ []) := (decode_encode first []).symm
    _ = decode (encode second ++ []) := by rw [hbytes]
    _ = second := decode_encode second []

/-- Read one member and go on behind it. -/
def read (α : Type) [Pod α] (memory : List UInt8) : α × List UInt8 :=
  (Pod.decode memory, memory.drop (Pod.size α))

@[simp] theorem read_encode_append {α : Type} [Pod α] (value : α) (rest : List UInt8) :
    read α (Pod.encode value ++ rest) = (value, rest) := by
  have hdrop : (Pod.encode value ++ rest).drop (Pod.size α) = rest :=
    List.drop_left' (Pod.length_encode value)
  rw [read, Pod.decode_encode, hdrop]

instance : Pod UInt8 where
  size := 1
  encode value := [value]
  decode memory := memory.headD 0
  length_encode _ := rfl
  decode_encode _ _ := rfl

instance : Pod Bool where
  size := 1
  encode value := [if value then 1 else 0]
  decode memory := memory.headD 0 != 0
  length_encode _ := rfl
  decode_encode value _ := by cases value <;> rfl

instance : Pod UInt32 where
  size := 4
  encode value := toLittleEndian 4 value.toNat
  decode memory := UInt32.ofNat (ofLittleEndian (memory.take 4))
  length_encode value := length_toLittleEndian 4 value.toNat
  decode_encode value rest := by
    rw [List.take_left' (length_toLittleEndian 4 value.toNat),
      ofLittleEndian_toLittleEndian value.toNat_lt, UInt32.ofNat_toNat]

instance : Pod Int32 where
  size := 4
  encode value := Pod.encode value.toUInt32
  decode memory := (Pod.decode memory : UInt32).toInt32
  length_encode value := Pod.length_encode value.toUInt32
  decode_encode value rest := by rw [Pod.decode_encode, Int32.toInt32_toUInt32]

instance : Pod Binary32 where
  size := 4
  encode value := Pod.encode value.bits
  decode memory := ⟨Pod.decode memory⟩
  length_encode value := Pod.length_encode value.bits
  decode_encode value rest := by rw [Pod.decode_encode]

instance (size : Nat) : Pod (CharArray size) where
  size := size
  encode array := array.bytes
  decode memory := ⟨memory.take size ++ List.replicate (size - memory.length) 0, by
    rw [List.length_append, List.length_take, List.length_replicate]
    omega⟩
  length_encode array := array.length_bytes
  decode_encode array rest := by
    have htake : (array.bytes ++ rest).take size = array.bytes :=
      List.take_left' array.length_bytes
    have hnone : size - (array.bytes ++ rest).length = 0 := by
      rw [List.length_append, array.length_bytes]
      omega
    simp only [htake, hnone, List.replicate_zero, List.append_nil]

end Memory
