/-
A header line as a text: what the parser takes from it, and which bytes decide about that.
-/
import Andor2k.DecodedHeaders

namespace Andor2k

open CText

theorem boundedText_eq_ok {memory chars : List UInt8} {limit : Nat} :
    boundedText memory limit = .ok chars ↔
      (memory.take limit).takeWhile (· ≠ 0) = chars ∧
        ¬ (chars.length = memory.length ∧ chars.length < limit) := by
  rw [boundedText]
  split
  · rename_i hends
    constructor
    · intro hfault
      cases hfault
    · rintro ⟨rfl, hgoes⟩
      exact absurd hends hgoes
  · rename_i hgoes
    rw [Except.ok.injEq]
    constructor
    · rintro rfl
      exact ⟨rfl, hgoes⟩
    · rintro ⟨hchars, -⟩
      exact hchars

theorem length_boundedText_le {memory chars : List UInt8} {limit : Nat}
    (hchars : boundedText memory limit = .ok chars) : chars.length ≤ limit := by
  rw [← (boundedText_eq_ok.mp hchars).1]
  exact (List.takeWhile_prefix _).length_le.trans (List.length_take_le limit _)

theorem copyField_range {size : Nat} {source : List UInt8} {count : Int}
    {field : { chars : Text // chars.length < size }}
    (hcopy : copyField size source count = .ok field) : 0 ≤ count ∧ count ≤ size := by
  rw [copyField] at hcopy
  split at hcopy
  · assumption
  · cases hcopy

theorem copyField_of_boundedText {size : Nat} {source chars : List UInt8} {count : Int}
    (hcount : 0 ≤ count ∧ count ≤ size) (hchars : boundedText source count.toNat = .ok chars)
    (hfits : chars.length < size) : copyField size source count = .ok ⟨chars, hfits⟩ := by
  rw [copyField, if_pos hcount, hchars]
  exact dif_pos hfits

theorem copyField_append {size : Nat} {text chars rest : List UInt8} {count : Int}
    (hnul : 0 ∉ text) (hcount : 0 ≤ count ∧ count ≤ size) (hlength : count ≤ text.length)
    (hchars : text.take count.toNat = chars) (hfits : chars.length < size) :
    copyField size (text ++ rest) count = .ok ⟨chars, hfits⟩ := by
  subst hchars
  rw [copyField, if_pos hcount, boundedText_append hnul (by omega)]
  exact dif_pos hfits

theorem strchr_append_cons {before rest : List UInt8} {wanted : UInt8} (hwanted : wanted ≠ 0)
    (hbefore : ∀ byte ∈ before, byte ≠ 0 ∧ byte ≠ wanted) :
    strchr wanted (before ++ wanted :: rest) = .ok (some before.length) := by
  have hwhile : (before ++ wanted :: rest).takeWhile
      (fun byte => byte ≠ 0 ∧ byte ≠ wanted) = before := by
    rw [List.takeWhile_append_of_pos (by simpa using hbefore),
      List.takeWhile_cons_of_neg (by simp), List.append_nil]
  rw [strchr]
  simp only [hwhile, List.drop_left, List.head?_cons]
  rw [if_neg hwanted]

/-- What is found lies behind neither a NUL nor another character of the kind. -/
theorem strchr_eq_some {wanted : UInt8} {memory : List UInt8} {before : Nat}
    (hfound : strchr wanted memory = .ok (some before)) :
    ∃ front rest, memory = front ++ wanted :: rest ∧ front.length = before ∧
      ∀ byte ∈ front, byte ≠ 0 ∧ byte ≠ wanted := by
  let goes : UInt8 → Bool := fun byte => byte ≠ 0 ∧ byte ≠ wanted
  have hsplit : memory.takeWhile goes ++ memory.dropWhile goes = memory :=
    List.takeWhile_append_dropWhile
  have hdrop : memory.drop (memory.takeWhile goes).length = memory.dropWhile goes := by
    conv => lhs; arg 2; rw [← hsplit]
    rw [List.drop_left]
  have hstop := List.head?_dropWhile_not goes memory
  rw [strchr] at hfound
  simp only [goes] at hdrop hstop hsplit
  rw [hdrop] at hfound
  cases hrest : memory.dropWhile fun byte => decide (byte ≠ 0 ∧ byte ≠ wanted) with
  | nil =>
      rw [hrest] at hfound
      cases hfound
  | cons byte rest =>
      rw [hrest, List.head?_cons] at hfound hstop
      dsimp only at hfound
      split at hfound
      · cases hfound
      · rename_i hbyte
        have hwanted : byte = wanted := by simpa [hbyte] using hstop
        rw [hrest, hwanted] at hsplit
        refine ⟨_, rest, hsplit.symm, Option.some.inj (Except.ok.inj hfound), ?_⟩
        intro other hother
        simpa using List.mem_takeWhile_imp hother

/-- What lies behind the `/`. -/
theorem drop_behind_slash {start field post : List UInt8}
    (htext : start.drop 8 = field ++ 47 :: post) : start.drop (8 + field.length + 1) = post := by
  rw [Nat.add_assoc, ← List.drop_drop, htext, ← List.drop_drop, List.drop_left]
  rfl

/-- The parts of a header line: from the `=` to the `/` the field, behind it the memory
the comment begins with. -/
structure HeaderText (start : List UInt8) (hdr : FitsHeader) (field post : List UInt8) :
    Prop where
  text_eq : start.drop 8 = field ++ 47 :: post
  mark : field.head? = some 61
  clean : ∀ byte ∈ field, byte ≠ 0 ∧ byte ≠ 47
  long : 7 ≤ field.length
  key : boundedText start 8 = .ok hdr.key
  value : ∃ hfits, hdr.value = .cval (field.drop 3) hfits
  comment : boundedText post (71 - field.length) = .ok hdr.comment

theorem HeaderText.of_resolved {start : List UInt8} {hdr : FitsHeader}
    (hline : headerLine start = .ok (.resolved hdr)) :
    ∃ field post, HeaderText start hdr field post := by
  rcases headerLine_cases hline with ⟨hskipped, -⟩ |
    ⟨hmark, ⟨hfailed, -⟩ | ⟨found, before, cval, hres, hfound, hkey, hvalue, hcval, hcomment⟩⟩
  · cases hskipped
  · cases hfailed
  · obtain rfl := HeaderLine.resolved.inj hres
    obtain ⟨field, post, htext, hlength, hclean⟩ := strchr_eq_some hfound
    have hcount := copyField_range hcval
    have hroom := copyField_range hcomment
    rw [fitsHeaderValueChars] at hcount
    rw [headerSize, fitsHeaderCommentChars] at hroom
    have hslice := copyField_eq_ok hcval
    have hdrop : start.drop 11 = field.drop 3 ++ 47 :: post := by
      rw [← List.drop_append_of_le_length (by omega), ← htext, List.drop_drop]
    have hnul : 0 ∉ field.drop 3 := fun hzero =>
      (hclean 0 (List.mem_of_mem_drop hzero)).1 rfl
    have hsource : (((8 + before : Nat) : Int) - 11).toNat = (field.drop 3).length := by
      rw [List.length_drop]
      omega
    rw [hdrop, hsource, boundedText_append hnul (Nat.le_refl _), List.take_length] at hslice
    have htext' : start.drop (8 + before + 1) = post := by
      rw [← hlength]
      exact drop_behind_slash htext
    have hbehind := copyField_eq_ok hcomment
    have hlimit : ((headerSize : Int) - ((8 + before : Nat) : Int) - 1).toNat =
        71 - field.length := by
      rw [headerSize]
      omega
    rw [htext', hlimit] at hbehind
    have hhead : field.head? = some 61 := by
      have hfirst : (start.drop 8).head? = some 61 := by
        rw [List.head?_drop]
        exact hmark
      rwa [htext, List.head?_append_of_ne_nil _ (List.ne_nil_of_length_pos (by omega))] at hfirst
    obtain ⟨chars, hfits⟩ := cval
    obtain rfl : field.drop 3 = chars := Except.ok.inj hslice
    exact ⟨field, post, htext, hhead, hclean, by omega, copyField_eq_ok hkey,
      ⟨hfits, hvalue⟩, hbehind⟩

/-- The parts decide what the line is, if it can be printed. -/
theorem HeaderText.resolved {start field post : List UInt8} {hdr : FitsHeader}
    (htext : HeaderText start hdr field post)
    (hprinted : ∃ chars, boundedText start (headerSize - 1) = .ok chars) :
    headerLine start = .ok (.resolved hdr) := by
  obtain ⟨hfits, hvalue⟩ := htext.value
  obtain ⟨printed, hprinted⟩ := hprinted
  have hlong := htext.long
  have hlength : (field.drop 3).length = field.length - 3 := List.length_drop
  have hshort := hfits
  rw [hlength, fitsHeaderValueChars] at hshort
  have hmark : start[8]? = some 61 := by
    rw [← List.head?_drop, htext.text_eq,
      List.head?_append_of_ne_nil _ (List.ne_nil_of_length_pos (by omega)), htext.mark]
  have hkey : copyField fitsHeaderKeynameChars start 8 = .ok ⟨hdr.key, hdr.key_fits⟩ :=
    copyField_of_boundedText (by decide) htext.key _
  have hfound : strchr 47 (start.drop 8) = .ok (some field.length) := by
    rw [htext.text_eq]
    exact strchr_append_cons (by decide) htext.clean
  have hdrop : start.drop 11 = field.drop 3 ++ 47 :: post := by
    rw [← List.drop_append_of_le_length (by omega), ← htext.text_eq, List.drop_drop]
  have hnul : 0 ∉ field.drop 3 := fun hzero =>
    (htext.clean 0 (List.mem_of_mem_drop hzero)).1 rfl
  have hcval : copyField fitsHeaderValueChars (start.drop 11)
      (((8 + field.length : Nat) : Int) - 11) = .ok ⟨field.drop 3, hfits⟩ := by
    rw [hdrop]
    apply copyField_append hnul
    · rw [fitsHeaderValueChars]
      omega
    · omega
    · apply List.take_of_length_le
      omega
  have hbehind : start.drop (8 + field.length + 1) = post := drop_behind_slash htext.text_eq
  have hcomment : copyField fitsHeaderCommentChars (start.drop (8 + field.length + 1))
      (headerSize - ((8 + field.length : Nat) : Int) - 1) =
        .ok ⟨hdr.comment, hdr.comment_fits⟩ := by
    rw [hbehind]
    apply copyField_of_boundedText
    · rw [headerSize, fitsHeaderCommentChars]
      omega
    · rw [headerSize, ← htext.comment]
      congr 1
      omega
  have hline : headerLine start = .ok (.resolved
      { key := hdr.key
        comment := hdr.comment
        key_fits := hdr.key_fits
        comment_fits := hdr.comment_fits
        value := .cval (field.drop 3) hfits }) := by
    rw [headerLine, hprinted, hmark]
    simp only [hkey, hfound, hcval, hcomment, bind, Except.bind, pure, Except.pure, ne_eq,
      not_true_eq_false, if_false]
  rw [hline, ← hvalue]

/-- The characters of a line from the `=` to its end, or to a NUL. -/
def lineText (start : List UInt8) : Text := ((start.drop 8).take 72).takeWhile (· ≠ 0)

theorem HeaderText.lineText_eq {start field post : List UInt8} {hdr : FitsHeader}
    (htext : HeaderText start hdr field post) : lineText start = field ++ 47 :: hdr.comment := by
  obtain ⟨hfits, -⟩ := htext.value
  have hlong := htext.long
  rw [List.length_drop, fitsHeaderValueChars] at hfits
  have hclean : ∀ byte ∈ field, (decide (byte ≠ 0)) = true := fun byte hbyte => by
    simpa using (htext.clean byte hbyte).1
  obtain ⟨m, hm⟩ : ∃ m, 72 - field.length = m + 1 := ⟨71 - field.length, by omega⟩
  rw [lineText, htext.text_eq, List.take_append, List.take_of_length_le (by omega), hm,
    List.take_succ_cons, List.takeWhile_append_of_pos hclean,
    List.takeWhile_cons_of_pos (by decide), ← (boundedText_eq_ok.mp htext.comment).1]
  congr 4
  omega

/-- A text that ends before the memory does is read up to the NUL behind it. -/
theorem boundedText_append_nul {chars rest : List UInt8} {limit : Nat} (hnul : 0 ∉ chars)
    (hlimit : chars.length < limit) : boundedText (chars ++ 0 :: rest) limit = .ok chars := by
  obtain ⟨m, hm⟩ : ∃ m, limit - chars.length = m + 1 := ⟨limit - chars.length - 1, by omega⟩
  have hclean : ∀ byte ∈ chars, (decide (byte ≠ 0)) = true := fun byte hbyte => by
    have hne : byte ≠ 0 := fun hzero => hnul (hzero ▸ hbyte)
    simpa using hne
  refine boundedText_eq_ok.mpr ⟨?_, ?_⟩
  · rw [List.take_append, List.take_of_length_le hlimit.le, hm, List.take_succ_cons,
      List.takeWhile_append_of_pos hclean, List.takeWhile_cons_of_neg (by decide),
      List.append_nil]
  · rw [List.length_append, List.length_cons]
    omega

/-- A text that lies in front of the left-over bytes is read as if these were zeros. -/
theorem boundedText_leftover {front leftover chars : List UInt8} {limit : Nat}
    (hchars : boundedText (front ++ leftover) limit = .ok chars)
    (hinside : chars.length ≤ front.length) :
    boundedText (front ++ List.replicate leftover.length 0) limit = .ok chars := by
  obtain ⟨hread, hmore⟩ := boundedText_eq_ok.mp hchars
  have hnul : 0 ∉ chars := by
    intro hzero
    rw [← hread] at hzero
    simpa using List.mem_takeWhile_imp hzero
  have hlimit := length_boundedText_le hchars
  have hleads : chars <+: front ++ leftover := by
    rw [← hread]
    exact (List.takeWhile_prefix _).trans (List.take_prefix _ _)
  obtain ⟨behind, rfl⟩ :=
    List.prefix_of_prefix_length_le hleads (List.prefix_append front leftover) hinside
  rw [List.append_assoc] at hread hmore ⊢
  rcases hlimit.eq_or_lt with hfull | hshort
  · rw [boundedText_append hnul hfull.ge, List.take_of_length_le hlimit]
  · -- the text ended at a NUL, in front or behind
    have hstop : (behind ++ leftover).head? = some 0 := by
      cases hbehind : behind ++ leftover with
      | nil =>
          rw [hbehind, List.append_nil] at hmore
          exact absurd ⟨rfl, hshort⟩ hmore
      | cons byte rest =>
          obtain ⟨m, hm⟩ : ∃ m, limit - chars.length = m + 1 :=
            ⟨limit - chars.length - 1, by omega⟩
          have hclean : ∀ other ∈ chars, (decide (other ≠ 0)) = true := fun other hother => by
            have hne : other ≠ 0 := fun hzero => hnul (hzero ▸ hother)
            simpa using hne
          rw [hbehind, List.take_append, List.take_of_length_le hlimit, hm,
            List.take_succ_cons, List.takeWhile_append_of_pos hclean] at hread
          have hnone := List.append_right_eq_self.mp hread
          rw [List.head?_cons]
          by_contra hbyte
          rw [List.takeWhile_cons_of_pos (by simpa using hbyte)] at hnone
          cases hnone
    cases behind with
    | cons byte rest =>
        obtain rfl : byte = 0 := Option.some.inj hstop
        exact boundedText_append_nul hnul hshort
    | nil =>
        cases leftover with
        | nil => cases hstop
        | cons byte rest => exact boundedText_append_nul hnul hshort

/-- What can be read with the left-over bytes can be read with zeros. -/
theorem exists_boundedText_zeros {front leftover chars : List UInt8} {limit : Nat}
    (hchars : boundedText (front ++ leftover) limit = .ok chars) :
    ∃ other, boundedText (front ++ List.replicate leftover.length 0) limit = .ok other := by
  refine ⟨_, boundedText_eq_ok.mpr ⟨rfl, ?_⟩⟩
  rintro ⟨hlength, hshort⟩
  cases leftover with
  | nil =>
      obtain ⟨hread, hmore⟩ := boundedText_eq_ok.mp hchars
      rw [List.append_nil] at hread hmore
      rw [List.length_nil, List.replicate_zero, List.append_nil, hread] at hlength hshort
      exact hmore ⟨hlength, hshort⟩
  | cons byte rest =>
      have hwhole := ((List.takeWhile_prefix _).trans (List.take_prefix limit _)).eq_of_length
        hlength
      have hzero : 0 ∈ front ++ List.replicate (byte :: rest).length 0 :=
        List.mem_append_right _ (List.mem_replicate.mpr ⟨nofun, rfl⟩)
      rw [← hwhole] at hzero
      exact absurd (List.mem_takeWhile_imp hzero) (by decide)

/-- Zeros are no part of a line. -/
theorem length_lineText_zeros {front : List UInt8} {count : Nat}
    (hsome : lineText (front ++ List.replicate count 0) ≠ []) :
    8 + (lineText (front ++ List.replicate count 0)).length ≤ front.length := by
  have hprefix : lineText (front ++ List.replicate count 0) <+:
      ((front ++ List.replicate count 0).drop 8).takeWhile (· ≠ 0) := by
    rw [lineText, ← List.take_takeWhile]
    exact List.take_prefix _ _
  rw [List.drop_append, List.drop_replicate] at hprefix
  have hfront : lineText (front ++ List.replicate count 0) <+: front.drop 8 := by
    rw [List.takeWhile_append, takeWhile_zeros, List.append_nil] at hprefix
    split at hprefix
    · exact hprefix
    · exact hprefix.trans (List.takeWhile_prefix _)
  have hlength := hfront.length_le
  have hpos := List.length_pos_iff.mpr hsome
  rw [List.length_drop] at hlength
  omega

theorem mark_zeros {front leftover : List UInt8} (hsome : (front ++ leftover)[8]? ≠ none)
    (hmark : (front ++ leftover)[8]? ≠ some 61) :
    ∃ mark, (front ++ List.replicate leftover.length 0)[8]? = some mark ∧ mark ≠ 61 := by
  rcases Nat.lt_or_ge 8 front.length with hin | hout
  · rw [List.getElem?_append_left hin] at hmark ⊢
    exact ⟨front[8], List.getElem?_eq_getElem hin, fun hequal =>
      hmark (by rw [List.getElem?_eq_getElem hin, hequal])⟩
  · have hlength : 8 < (front ++ leftover).length := by
      by_contra hshort
      exact hsome (List.getElem?_eq_none (Nat.le_of_not_lt hshort))
    rw [List.length_append] at hlength
    refine ⟨0, ?_, by decide⟩
    rw [List.getElem?_append_right hout, List.getElem?_replicate, if_pos (by omega)]

/-- A line that is no header line stays one. -/
theorem headerLine_skipped_zeros {front leftover : List UInt8}
    (hline : headerLine (front ++ leftover) = .ok .skipped) :
    headerLine (front ++ List.replicate leftover.length 0) = .ok .skipped := by
  obtain ⟨printed, hprinted, hrest⟩ := checked_bind_eq_ok.mp hline
  obtain ⟨other, hother⟩ := exists_boundedText_zeros hprinted
  have hsome : (front ++ leftover)[8]? ≠ none := by
    intro hnone
    rw [hnone] at hrest
    cases hrest
  rcases headerLine_cases hline with ⟨-, hmark⟩ | ⟨-, ⟨hfailed, -⟩ | ⟨hdr, before, cval, hres, -⟩⟩
  · obtain ⟨mark, hzeros, hne⟩ := mark_zeros hsome hmark
    rw [headerLine, hother, hzeros]
    simp only [bind, Except.bind, pure, Except.pure, ne_eq, hne, not_false_eq_true, if_true]
  · cases hfailed
  · cases hres

/-- The left-over bytes decide about no part of a header line exactly when its text ends in
front of them. -/
theorem headerLine_resolved_zeros_iff {front leftover : List UInt8} {hdr : FitsHeader}
    (hline : headerLine (front ++ leftover) = .ok (.resolved hdr)) :
    headerLine (front ++ List.replicate leftover.length 0) = .ok (.resolved hdr) ↔
      8 + (lineText (front ++ leftover)).length ≤ front.length := by
  obtain ⟨field, post, htext⟩ := HeaderText.of_resolved hline
  have hlong := htext.long
  obtain ⟨hfits, hvalue⟩ := htext.value
  rw [htext.lineText_eq]
  constructor
  · intro hzeros
    obtain ⟨field', post', htext'⟩ := HeaderText.of_resolved hzeros
    obtain ⟨hfits', hvalue'⟩ := htext'.value
    have hlong' := htext'.long
    have hfields : (field.drop 3).length = (field'.drop 3).length := by
      rw [hvalue, HeaderValue.cval.injEq] at hvalue'
      rw [hvalue']
    rw [List.length_drop, List.length_drop] at hfields
    have hsome : lineText (front ++ List.replicate leftover.length 0) ≠ [] := by
      rw [htext'.lineText_eq]
      simp
    have hlength := length_lineText_zeros hsome
    rw [htext'.lineText_eq, List.length_append, List.length_cons] at hlength
    rw [List.length_append, List.length_cons]
    omega
  · intro hinside
    rw [List.length_append, List.length_cons] at hinside
    have hfront : (front ++ leftover).drop 8 = front.drop 8 ++ leftover :=
      List.drop_append_of_le_length (by omega)
    have hleads : field ++ [47] <+: front.drop 8 ++ leftover := by
      rw [← hfront, htext.text_eq]
      exact ⟨post, by simp⟩
    obtain ⟨behind, hbehind⟩ := List.prefix_of_prefix_length_le hleads
      (List.prefix_append (front.drop 8) leftover) (by
        rw [List.length_append, List.length_singleton, List.length_drop]
        omega)
    have hpost : post = behind ++ leftover := by
      have hequal := htext.text_eq
      rw [hfront, ← hbehind, List.append_assoc, List.append_assoc, List.singleton_append] at hequal
      exact (List.cons.inj (List.append_cancel_left hequal)).2.symm
    have hlength : (front.drop 8).length = field.length + 1 + behind.length := by
      rw [← hbehind, List.length_append, List.length_append, List.length_singleton]
    rw [List.length_drop] at hlength
    have hcomment := htext.comment
    rw [hpost] at hcomment
    obtain ⟨printed, hprinted, -⟩ := checked_bind_eq_ok.mp hline
    have hzeros : HeaderText (front ++ List.replicate leftover.length 0) hdr field
        (behind ++ List.replicate leftover.length 0) :=
      { text_eq := by
          rw [List.drop_append_of_le_length (by omega), ← hbehind, List.append_assoc,
            List.append_assoc, List.singleton_append]
        mark := htext.mark
        clean := htext.clean
        long := hlong
        key := boundedText_leftover htext.key
          ((length_boundedText_le htext.key).trans (by omega))
        value := ⟨hfits, hvalue⟩
        comment := boundedText_leftover hcomment (by omega) }
    exact hzeros.resolved (exists_boundedText_zeros hprinted)

end Andor2k
