/-
FITS headers: one entry of a header table, the six ways to create one, and the table,
which keeps one entry for a keyword unless it is forced to take another.
-/
import Mathlib.Data.List.DropRight
import Andor2k.Ieee

namespace Andor2k

open CText Ieee

def fitsHeaderKeynameChars : Nat := 16
def fitsHeaderValueChars : Nat := 32
def fitsHeaderCommentChars : Nat := 64

/-- `FitsHeader::ValueType` -/
inductive ValueType where
  | tint | tuint | tfloat | tdouble | tchar32 | tlong | unknown
deriving DecidableEq, Repr

/-- The member of the union that was written last. -/
inductive HeaderValue where
  | ival (value : Int32)
  | uval (value : UInt32)
  | fval (value : Binary32)
  | dval (value : Binary64)
  | cval (value : Text) (fits : value.length < fitsHeaderValueChars)
  | lval (value : Int64)
  | none
deriving DecidableEq

def HeaderValue.type : HeaderValue → ValueType
  | ival _ => .tint
  | uval _ => .tuint
  | fval _ => .tfloat
  | dval _ => .tdouble
  | cval _ _ => .tchar32
  | lval _ => .tlong
  | none => .unknown

/-- The two strings of an entry. -/
structure HeaderChars where
  key : Text
  comment : Text
  key_fits : key.length < fitsHeaderKeynameChars
  comment_fits : comment.length < fitsHeaderCommentChars
deriving DecidableEq

structure FitsHeader extends HeaderChars where
  value : HeaderValue
deriving DecidableEq

/-- Remove trailing blanks. -/
def rtrim (text : Text) : Text := text.rdropWhile (· = 32)

theorem length_rtrim_le (text : Text) : (rtrim text).length ≤ text.length :=
  (List.rdropWhile_prefix _ _).length_le

/-- The key without leading and trailing blanks, and the comment as it is. -/
def cpyChars (ikey icomment : Text) : Checked HeaderChars :=
  let start := ikey.dropWhile (· = 32)
  if hkey : start.length < fitsHeaderKeynameChars then
    if hcomment : icomment.length < fitsHeaderCommentChars then
      .ok
        { key := rtrim start
          comment := icomment
          key_fits := Nat.lt_of_le_of_lt (length_rtrim_le start) hkey
          comment_fits := hcomment }
    else .error .outOfBounds
  else .error .outOfBounds

/-- The part the overloads of `create_fits_header` share. -/
def createFitsHeader (value : HeaderValue) (key comment : Text) : Checked FitsHeader :=
  (cpyChars key comment).map fun chars => { chars with value }

theorem createFitsHeader_spec {value : HeaderValue} {key comment : Text} {hdr : FitsHeader}
    (hcreate : createFitsHeader value key comment = .ok hdr) :
    hdr.key = rtrim (key.dropWhile (· = 32)) ∧ hdr.value = value := by
  obtain ⟨chars, hchars, rfl⟩ := checked_map_eq_ok.mp hcreate
  rw [cpyChars] at hchars
  split at hchars
  · split at hchars
    · rw [← Except.ok.inj hchars]
      exact ⟨rfl, rfl⟩
    · cases hchars
  · cases hchars

def createFitsHeaderChars (key val comment : Text) : Checked FitsHeader :=
  if hfits : val.length < fitsHeaderValueChars then
    createFitsHeader (.cval val hfits) key comment
  else .error .outOfBounds

def createFitsHeaderInt (key : Text) (val : Int32) (comment : Text) : Checked FitsHeader :=
  createFitsHeader (.ival val) key comment

def createFitsHeaderFloat (key : Text) (val : Binary32) (comment : Text) :
    Checked FitsHeader :=
  createFitsHeader (.fval val) key comment

def createFitsHeaderDouble (key : Text) (val : Binary64) (comment : Text) :
    Checked FitsHeader :=
  createFitsHeader (.dval val) key comment

def createFitsHeaderUnsigned (key : Text) (val : UInt32) (comment : Text) :
    Checked FitsHeader :=
  createFitsHeader (.uval val) key comment

def createFitsHeaderLong (key : Text) (val : Int64) (comment : Text) : Checked FitsHeader :=
  createFitsHeader (.lval val) key comment

/-- The table, with the capacity its vector has reserved. -/
structure FitsHeaders where
  mvec : List FitsHeader
  capacity : Nat
  length_le : mvec.length ≤ capacity
deriving DecidableEq

namespace FitsHeaders

/-- `FitsHeaders(int size_hint)` -/
def construct (sizeHint : Nat) : FitsHeaders := ⟨[], sizeHint, Nat.zero_le _⟩

/-- `mvec.emplace_back(hdr)`: a full vector doubles its capacity. -/
def emplaceBack (headers : FitsHeaders) (hdr : FitsHeader) : FitsHeaders where
  mvec := headers.mvec ++ [hdr]
  capacity :=
    if headers.mvec.length < headers.capacity then headers.capacity
    else max 1 (2 * headers.capacity)
  length_le := by
    have := headers.length_le
    rw [List.length_append, List.length_singleton]
    split <;> omega

/-- The entry with the key of `hdr`, replaced when its type is the same: the status,
and the entries; `none` when there is no such entry. -/
def replaceEntry (hdr : FitsHeader) : List FitsHeader → Option (Int × List FitsHeader)
  | [] => none
  | entry :: rest =>
      if entry.key = hdr.key then
        if entry.value.type = hdr.value.type ∧ entry.value.type ≠ .unknown then
          some (0, hdr :: rest)
        else some (-1, entry :: rest)
      else (replaceEntry hdr rest).map fun (status, rest) => (status, entry :: rest)

theorem length_replaceEntry {hdr : FitsHeader} {entries replaced : List FitsHeader}
    {status : Int} (hreplace : replaceEntry hdr entries = some (status, replaced)) :
    replaced.length = entries.length := by
  induction entries generalizing replaced with
  | nil => simp [replaceEntry] at hreplace
  | cons entry rest ih =>
      simp only [replaceEntry] at hreplace
      split_ifs at hreplace with hkey htype
      · simp only [Option.some.injEq, Prod.mk.injEq] at hreplace
        simp [← hreplace.2]
      · simp only [Option.some.injEq, Prod.mk.injEq] at hreplace
        simp [← hreplace.2]
      · obtain ⟨⟨later, tail⟩, htail, heq⟩ := Option.map_eq_some_iff.mp hreplace
        simp only [Prod.mk.injEq] at heq
        obtain ⟨rfl, rfl⟩ := heq
        simp [ih htail]

/-- `update(const FitsHeader &hdr)` -/
def update (headers : FitsHeaders) (hdr : FitsHeader) : Int × FitsHeaders :=
  match hreplace : replaceEntry hdr headers.mvec with
  | none => (1, headers.emplaceBack hdr)
  | some (status, mvec) =>
      (status,
        { headers with
          mvec := mvec
          length_le := (length_replaceEntry hreplace).symm ▸ headers.length_le })

/-- `force_update`: nothing is checked. -/
def forceUpdate (headers : FitsHeaders) (hdr : FitsHeader) : Int × FitsHeaders :=
  (1, headers.emplaceBack hdr)

/-- The loop of `merge`. -/
def mergeLoop (stopIfError : Bool) :
    Int → Int → List FitsHeader → FitsHeaders → Int × FitsHeaders
  | errors, adds, [], headers => (if errors < 0 then errors else adds, headers)
  | errors, adds, hdr :: rest, headers =>
      let (failed, headers) := headers.update hdr
      if failed < 0 then
        if stopIfError then (-1, headers)
        else mergeLoop stopIfError (errors - 1) adds rest headers
      else mergeLoop stopIfError errors (adds + 1) rest headers

/-- Where the capacity does not suffice, the table is swapped with a new, empty vector
of the required capacity. -/
def merge (headers : FitsHeaders) (hvec : List FitsHeader) (stopIfError : Bool) :
    Int × FitsHeaders :=
  let required := headers.mvec.length + hvec.length
  let headers := if headers.capacity < required then construct required else headers
  mergeLoop stopIfError 0 0 hvec headers

end FitsHeaders

end Andor2k
