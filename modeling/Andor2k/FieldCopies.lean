/-
The copies decoded_str_to_header makes into the fields of a header: their counts are
differences of the positions of the line's `/`, its value column and its end.
-/
import Andor2k.AristarchosHeaders

namespace Andor2k

open CText

/-- A `strncpy` into a field. -/
structure FieldCopy where
  size : Nat
  count : Int
deriving DecidableEq, Repr

/-- The text fits, with room for a NUL behind it. -/
def FieldCopy.Fits (copy : FieldCopy) : Prop := 0 ≤ copy.count ∧ copy.count < copy.size

instance FieldCopy.decidableFits (copy : FieldCopy) : Decidable copy.Fits :=
  inferInstanceAs (Decidable (_ ∧ _))

/-- The copies of one line, in their order: none without its `=`, and only that of the
keyword without a `/`. -/
def lineCopies (start : List UInt8) : List FieldCopy :=
  if start[8]? = some 61 then
    ⟨fitsHeaderKeynameChars, 8⟩ ::
      match strchr 47 (start.drop 8) with
      | .ok (some before) =>
          let vstop := 8 + before
          [⟨fitsHeaderValueChars, vstop - 11⟩, ⟨fitsHeaderCommentChars, headerSize - vstop - 1⟩]
      | _ => []
  else []

/-- The lines the loop enters: none after one that fails, or that leaves its fields. -/
def linesEntered (msgLen : UInt32) : Nat → Nat → List UInt8 → List (List UInt8)
  | 0, _, _ => []
  | lines + 1, offset, start =>
      match start.head? with
      | none => []
      | some first =>
          if first = 0 ∨ msgLen.toNat < offset then []
          else
            start ::
              match headerLine start with
              | .error _ => []
              | .ok .failed => []
              | .ok _ =>
                  linesEntered msgLen lines (offset + headerSize) (start.drop headerSize)

/-- The headers of a run are those of the lines it has entered. -/
theorem headerLines_entered {msgLen : UInt32} {lines offset : Nat} {start : List UInt8}
    {status : Int} {headers : List FitsHeader}
    (hlines : headerLines msgLen lines offset start = .ok (status, headers)) :
    headers.map (fun hdr => (.ok (.resolved hdr) : Checked HeaderLine)) =
      ((linesEntered msgLen lines offset start).map headerLine).filter fun line =>
        line ≠ .ok .skipped ∧ line ≠ .ok .failed := by
  induction lines generalizing offset start status headers with
  | zero => cases hlines
  | succ lines ih =>
      rw [headerLines] at hlines
      rw [linesEntered]
      cases hhead : start.head? with
      | none =>
          rw [hhead] at hlines
          cases hlines
      | some first =>
          rw [hhead] at hlines
          dsimp only at hlines ⊢
          split at hlines
          · rename_i hstops
            rw [if_pos hstops, ← (Prod.mk.inj (Except.ok.inj hlines)).2]
            rfl
          · rename_i hgoes
            rw [if_neg hgoes]
            obtain ⟨line, hline, hlines⟩ := checked_bind_eq_ok.mp hlines
            rw [hline, List.map_cons, hline]
            cases line with
            | failed =>
                rw [← (Prod.mk.inj (Except.ok.inj hlines)).2]
                rfl
            | skipped =>
                rw [List.filter_cons_of_neg (by simp)]
                exact ih hlines
            | resolved hdr =>
                obtain ⟨⟨_, later⟩, hlater, hlines⟩ := checked_bind_eq_ok.mp hlines
                rw [← (Prod.mk.inj (Except.ok.inj hlines)).2, List.map_cons,
                  List.filter_cons_of_pos (by simp)]
                exact congrArg _ (ih hlater)

/-- Where the model goes on behind a line, its copies have stayed within their fields. -/
theorem lineCopies_of_ok {start : List UInt8} {line : HeaderLine}
    (hline : headerLine start = .ok line) :
    ∀ copy ∈ lineCopies start, 0 ≤ copy.count ∧ copy.count ≤ copy.size := by
  rw [lineCopies]
  rcases headerLine_cases hline with ⟨-, hmark⟩ |
    ⟨hmark, ⟨-, hnone⟩ | ⟨hdr, before, cval, -, hfound, -, -, hcval, hcomment⟩⟩
  · rw [if_neg hmark]
    exact List.forall_mem_nil _
  · rw [if_pos hmark, hnone]
    simp [fitsHeaderKeynameChars]
  · have hvalue := copyField_range hcval
    have hremainder := copyField_range hcomment
    rw [if_pos hmark, hfound]
    simp only [List.forall_mem_cons]
    exact ⟨by decide, hvalue, hremainder, List.forall_mem_nil _⟩

/-- The `/` of a header line stands where value and comment fit, at index 16 to 42. -/
def SlashInPlace (start : List UInt8) : Prop :=
  start[8]? = some 61 →
    ∀ before, strchr 47 (start.drop 8) = .ok (some before) →
      16 ≤ 8 + before ∧ 8 + before ≤ 42

theorem slashInPlace_iff (start : List UInt8) :
    SlashInPlace start ↔ ∀ copy ∈ lineCopies start, copy.Fits := by
  rw [SlashInPlace, lineCopies]
  by_cases hmark : start[8]? = some 61
  · rw [if_pos hmark, List.forall_mem_cons]
    have hkey : FieldCopy.Fits ⟨fitsHeaderKeynameChars, 8⟩ := by
      simp [FieldCopy.Fits, fitsHeaderKeynameChars]
    rw [and_iff_right hkey]
    cases hfound : strchr 47 (start.drop 8) with
    | error fault => simp
    | ok found =>
        cases found with
        | none => simp
        | some before =>
            simp only [List.forall_mem_cons, FieldCopy.Fits, fitsHeaderValueChars,
              fitsHeaderCommentChars, headerSize]
            constructor
            · intro hplace
              have hrange := hplace hmark before rfl
              refine ⟨?_, ?_, List.forall_mem_nil _⟩
              · omega
              · omega
            · rintro ⟨hvalue, hcomment, -⟩ - other hother
              obtain rfl : before = other := Option.some.inj (Except.ok.inj hother)
              omega
  · rw [if_neg hmark]
    exact iff_of_true (fun hequal => absurd hequal hmark) (List.forall_mem_nil _)

theorem boundedText_of_length {memory : List UInt8} {limit : Nat}
    (hlength : limit ≤ memory.length) : ∃ chars, boundedText memory limit = .ok chars := by
  refine ⟨_, boundedText_eq_ok.mpr ⟨rfl, ?_⟩⟩
  rintro ⟨hall, hshort⟩
  omega

/-- The copies of value and comment leave a NUL: the count of the comment may be that of
its field if a NUL comes before. -/
structure ColumnsFit (start : List UInt8) (vstop : Nat) : Prop where
  value : vstop ≤ 42
  comment : 15 ≤ vstop
  widest : vstop = 15 → 0 ∈ (start.drop 16).take 64

theorem SlashInPlace.columnsFit {start : List UInt8} {before : Nat} (hplace : SlashInPlace start)
    (hmark : start[8]? = some 61) (hfound : strchr 47 (start.drop 8) = .ok (some before)) :
    ColumnsFit start (8 + before) := by
  obtain ⟨hlow, hhigh⟩ := hplace hmark before hfound
  exact ⟨hhigh, by omega, fun hwidest => absurd hwidest (by omega)⟩

theorem length_boundedText_lt {memory chars : List UInt8} {limit : Nat}
    (hchars : boundedText memory limit = .ok chars) (hnul : 0 ∈ memory.take limit) :
    chars.length < limit := by
  apply (length_boundedText_le hchars).lt_of_ne
  intro hlength
  have hread := (boundedText_eq_ok.mp hchars).1
  have hprefix : chars <+: memory.take limit := by
    rw [← hread]
    exact List.takeWhile_prefix _
  have hall : chars = memory.take limit :=
    hprefix.eq_of_length_le (by rw [hlength]; exact List.length_take_le _ _)
  rw [← hall, ← hread] at hnul
  simpa using List.mem_takeWhile_imp hnul

/-- In memory that goes on behind it, a line whose columns fit is resolved. -/
theorem headerLine_of_slash {start : List UInt8} {before : Nat} (hmark : start[8]? = some 61)
    (hfound : strchr 47 (start.drop 8) = .ok (some before))
    (hfits : ColumnsFit start (8 + before)) (hlength : headerSize ≤ start.length) :
    ∃ hdr, headerLine start = .ok (.resolved hdr) := by
  obtain ⟨hvalue, hcomment, hwidest⟩ := hfits
  obtain ⟨field, post, htext, hfield, hclean⟩ := strchr_eq_some hfound
  have hsize : headerSize = 80 := rfl
  have hrest : post.length + field.length + 9 = start.length := by
    have hcount := congrArg List.length htext
    rw [List.length_drop, List.length_append, List.length_cons] at hcount
    omega
  obtain ⟨key, hkey⟩ := boundedText_of_length (show 8 ≤ start.length by omega)
  obtain ⟨comment, hcommentText⟩ :=
    boundedText_of_length (show 71 - field.length ≤ post.length by omega)
  have hcommentFits : comment.length < fitsHeaderCommentChars := by
    have hle := length_boundedText_le hcommentText
    rw [fitsHeaderCommentChars]
    by_cases hwide : 8 + before = 15
    · have hpost : start.drop 16 = post := by
        rw [← drop_behind_slash htext]
        congr 1
        omega
      have hnul := hwidest hwide
      rw [hpost] at hnul
      have hlt := length_boundedText_lt hcommentText (by
        rw [show 71 - field.length = 64 by omega]
        exact hnul)
      omega
    · omega
  have hvalueFits : (field.drop 3).length < fitsHeaderValueChars := by
    rw [List.length_drop, fitsHeaderValueChars]
    omega
  let hdr : FitsHeader :=
    { key := key
      comment := comment
      key_fits := lt_of_le_of_lt (length_boundedText_le hkey) (by decide)
      comment_fits := hcommentFits
      value := .cval (field.drop 3) hvalueFits }
  have hhead : field.head? = some 61 := by
    have hfirst : (start.drop 8).head? = some 61 := by rwa [List.head?_drop]
    rwa [htext, List.head?_append_of_ne_nil _ (List.ne_nil_of_length_pos (by omega))] at hfirst
  have hparts : HeaderText start hdr field post :=
    ⟨htext, hhead, hclean, by omega, hkey, ⟨hvalueFits, rfl⟩, hcommentText⟩
  exact ⟨hdr, hparts.resolved (boundedText_of_length (by omega))⟩

theorem headerLine_of_other {start : List UInt8} (hmark : start[8]? ≠ some 61)
    (hlength : headerSize ≤ start.length) : headerLine start = .ok .skipped := by
  have hsize : headerSize = 80 := rfl
  obtain ⟨printed, hprinted⟩ :=
    boundedText_of_length (show headerSize - 1 ≤ start.length by omega)
  have hsome : start[8]? = some start[8] := List.getElem?_eq_getElem (by omega)
  have hother : start[8] ≠ 61 := fun hequal => hmark (by rw [hsome, hequal])
  rw [headerLine, hprinted, hsome]
  exact if_pos hother

/-- The lines up to a NUL in front, to the end of the message, or to a header line without
its `/`, which is the last. -/
def recordsReached (msgLen : UInt32) : Nat → Nat → List UInt8 → List (List UInt8)
  | 0, _, _ => []
  | lines + 1, offset, start =>
      match start.head? with
      | none => []
      | some first =>
          if first = 0 ∨ msgLen.toNat < offset then []
          else
            start ::
              if start[8]? = some 61 ∧ hasComment start = false then []
              else recordsReached msgLen lines (offset + headerSize) (start.drop headerSize)

theorem linesEntered_nil (msgLen : UInt32) (lines offset : Nat) :
    linesEntered msgLen lines offset [] = [] := by
  cases lines with
  | zero => rfl
  | succ lines => rfl

theorem exists_of_hasComment {start : List UInt8} (hcomment : hasComment start = true) :
    ∃ before, strchr 47 (start.drop 8) = .ok (some before) := by
  unfold hasComment at hcomment
  split at hcomment
  · exact ⟨_, by assumption⟩
  · cases hcomment

/-- Behind a line whose `/` is in place, the loop goes on exactly if the records do. -/
theorem linesEntered_behind {msgLen : UInt32} {lines offset : Nat} {start : List UInt8}
    (hplace : SlashInPlace start) :
    (match headerLine start with
      | .error _ => []
      | .ok .failed => []
      | .ok _ => linesEntered msgLen lines (offset + headerSize) (start.drop headerSize)) =
      if start[8]? = some 61 ∧ hasComment start = false then []
      else linesEntered msgLen lines (offset + headerSize) (start.drop headerSize) := by
  rcases Nat.lt_or_ge start.length headerSize with hshort | hlong
  · -- nothing is left behind a line that ends early
    have hdrop : start.drop headerSize = [] := List.drop_eq_nil_of_le hshort.le
    rw [hdrop, linesEntered_nil, ite_self]
    cases headerLine start with
    | error fault => rfl
    | ok line => cases line <;> rfl
  · by_cases hmark : start[8]? = some 61
    · cases hcomment : hasComment start with
      | false =>
          rw [if_pos ⟨hmark, rfl⟩]
          cases hline : headerLine start with
          | error fault => rfl
          | ok line =>
              have hmarks := headerLine_marks hline
              cases line with
              | failed => rfl
              | skipped => exact absurd hmark hmarks
              | resolved hdr =>
                  rw [hcomment] at hmarks
                  cases hmarks.2
      | true =>
          obtain ⟨before, hfound⟩ := exists_of_hasComment hcomment
          obtain ⟨hdr, hline⟩ :=
            headerLine_of_slash hmark hfound (hplace.columnsFit hmark hfound) hlong
          rw [hline, if_neg (by simp)]
    · rw [headerLine_of_other hmark hlong, if_neg (fun hboth => hmark hboth.1)]

theorem copies_fit_iff (msgLen : UInt32) (lines offset : Nat) (memory : List UInt8) :
    (∀ start ∈ linesEntered msgLen lines offset memory, ∀ copy ∈ lineCopies start, copy.Fits) ↔
      ∀ start ∈ recordsReached msgLen lines offset memory, SlashInPlace start := by
  induction lines generalizing offset memory with
  | zero => exact iff_of_true (List.forall_mem_nil _) (List.forall_mem_nil _)
  | succ lines ih =>
      rw [linesEntered, recordsReached]
      cases memory.head? with
      | none => exact iff_of_true (List.forall_mem_nil _) (List.forall_mem_nil _)
      | some first =>
          dsimp only
          split
          · exact iff_of_true (List.forall_mem_nil _) (List.forall_mem_nil _)
          · rw [List.forall_mem_cons, List.forall_mem_cons, ← slashInPlace_iff]
            apply and_congr_right
            intro hplace
            rw [linesEntered_behind hplace]
            split
            · exact iff_of_true (List.forall_mem_nil _) (List.forall_mem_nil _)
            · exact ih _ _

/-- Every copy `decoded_str_to_header` makes has a count its field holds with a NUL. -/
def CopiesFit (memory : List UInt8) (msgLen : UInt32) : Prop :=
  ∀ start ∈ linesEntered msgLen memory.length 0 memory, ∀ copy ∈ lineCopies start, copy.Fits

/-- The copies fit exactly when every header line that is reached has its `/` in place, or
none at all. -/
theorem decoded_copiesFit_iff (memory : List UInt8) (msgLen : UInt32) :
    CopiesFit memory msgLen ↔
      ∀ start ∈ recordsReached msgLen memory.length 0 memory, SlashInPlace start :=
  copies_fit_iff msgLen memory.length 0 memory

/-- A value of 34 characters between its quotes, filled up with blanks. -/
def longValueCard : Card where
  chars := ascii "OBJECT  = 'aaaaaaaaaaaaaaaaaaaaaaaaaaaaaaaaaa' / target" ++ List.replicate 25 32
  length_eq := by decide
  nul_free := by decide

/-- The copy of the value writes 36 characters into 32. -/
theorem longValue_overruns :
    lineCopies longValueCard.chars = [⟨16, 8⟩, ⟨32, 36⟩, ⟨64, 32⟩] ∧
      ¬ ∀ (memory : List UInt8) (msgLen : UInt32), CopiesFit memory msgLen := by
  have hcopies : lineCopies (longValueCard.chars ++ [0]) = [⟨16, 8⟩, ⟨32, 36⟩, ⟨64, 32⟩] := by
    decide +kernel
  refine ⟨by decide +kernel, fun hfits => ?_⟩
  have hentered : longValueCard.chars ++ [0] ∈
      linesEntered 79 (longValueCard.chars ++ [0]).length 0 (longValueCard.chars ++ [0]) := by
    decide +kernel
  have hcopy := hfits _ _ _ hentered ⟨32, 36⟩ (by rw [hcopies]; decide)
  exact absurd hcopy (by decide)

end Andor2k
