/-
A stream cut into pieces.  A frame ends with the first end mark in it, so a stream of
frames can be cut into frames in one way only.
-/
import Mathlib.Data.List.Basic

namespace Framing

universe u

variable {α : Type u}

/-- The end mark stands at the end of a frame and nowhere else in it. -/
def IsFrame (mark : α) (frame : List α) : Prop :=
  ∃ body, mark ∉ body ∧ frame = body ++ [mark]

theorem IsFrame.ne_nil {mark : α} {frame : List α} (hframe : IsFrame mark frame) :
    frame ≠ [] := by
  obtain ⟨body, -, rfl⟩ := hframe
  exact List.concat_ne_nil mark body

/-- What stands before the first end mark cannot be longer on one side. -/
theorem body_eq {mark : α} {body content rest other : List α} (hbody : mark ∉ body)
    (hcontent : mark ∉ content) (hstream : body ++ mark :: rest = content ++ mark :: other) :
    body = content := by
  rcases List.append_eq_append_iff.mp hstream with ⟨more, rfl, hmore⟩ | ⟨more, rfl, hmore⟩
  · cases more with
    | nil => exact (List.append_nil body).symm
    | cons byte tail =>
        obtain ⟨rfl, -⟩ := List.cons.inj hmore
        exact absurd (List.mem_append_right body List.mem_cons_self) hcontent
  · cases more with
    | nil => exact List.append_nil content
    | cons byte tail =>
        obtain ⟨rfl, -⟩ := List.cons.inj hmore
        exact absurd (List.mem_append_right content List.mem_cons_self) hbody

/-- The first frame of a stream is where the first end mark says. -/
theorem IsFrame.append_inj {mark : α} {first second rest other : List α}
    (hfirst : IsFrame mark first) (hsecond : IsFrame mark second)
    (hstream : first ++ rest = second ++ other) : first = second ∧ rest = other := by
  obtain ⟨body, hbody, rfl⟩ := hfirst
  obtain ⟨content, hcontent, rfl⟩ := hsecond
  rw [List.append_assoc, List.append_assoc] at hstream
  obtain rfl := body_eq hbody hcontent hstream
  exact ⟨rfl, (List.cons.inj (List.append_cancel_left hstream)).2⟩

section UpTo

variable (stop : List α → Prop) [DecidablePred stop]

/-- The pieces up to the first one at which the reader stops. -/
def upTo : List (List α) → List (List α)
  | [] => []
  | piece :: later => if stop piece then [piece] else piece :: upTo later

theorem upTo_subset (pieces : List (List α)) : upTo stop pieces ⊆ pieces := by
  induction pieces with
  | nil => exact List.Subset.refl _
  | cons piece later ih =>
      rw [upTo]
      split
      · simp
      · exact List.cons_subset_cons piece ih

/-- Pieces that are frames as far as the reader goes are the frames of the stream as far
as it goes. -/
theorem upTo_eq_of_flatten_eq {mark : α} {pieces frames : List (List α)}
    (hframes : ∀ frame ∈ frames, IsFrame mark frame) (hpieces : ∀ piece ∈ pieces, piece ≠ [])
    (hread : ∀ piece ∈ upTo stop pieces, IsFrame mark piece)
    (hstream : pieces.flatten = frames.flatten) : upTo stop pieces = upTo stop frames := by
  induction pieces generalizing frames with
  | nil =>
      cases frames with
      | nil => rfl
      | cons frame later =>
          have hempty := (List.append_eq_nil_iff.mp hstream.symm).1
          exact absurd hempty (hframes frame List.mem_cons_self).ne_nil
  | cons piece others ih =>
      cases frames with
      | nil =>
          have hempty := (List.append_eq_nil_iff.mp hstream).1
          exact absurd hempty (hpieces piece List.mem_cons_self)
      | cons frame later =>
          have hpiece : IsFrame mark piece := by
            refine hread piece ?_
            rw [upTo]
            split
            · exact List.mem_cons_self
            · exact List.mem_cons_self
          obtain ⟨rfl, hrest⟩ :=
            hpiece.append_inj (hframes frame List.mem_cons_self) hstream
          rw [upTo, upTo]
          split
          · rfl
          · rename_i hgoes
            rw [upTo, if_neg hgoes] at hread
            rw [ih (fun other hother => hframes other (List.mem_cons_of_mem piece hother))
              (fun other hother => hpieces other (List.mem_cons_of_mem piece hother))
              (fun other hother => hread other (List.mem_cons_of_mem piece hother)) hrest]

end UpTo

end Framing
