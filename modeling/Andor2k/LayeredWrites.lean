/-
Texts that are copied one after the other to the start of a zeroed memory area, without their
NUL: what is longer than a later text stays behind it.
-/
import Mathlib.Data.List.Induction
import Andor2k.CText

namespace LayeredWrites

open CText

/-- The area after the texts have been copied to its start. -/
def layered (size : Nat) (texts : List Text) : List UInt8 :=
  texts.foldl (fun memory text => overlay memory 0 text) (List.replicate size 0)

theorem layered_concat (size : Nat) (texts : List Text) (last : Text) :
    layered size (texts ++ [last]) = overlay (layered size texts) 0 last := by
  rw [layered, List.foldl_append]
  rfl

/-- No text is longer than the last one. -/
def LastIsLongest (texts : List Text) : Prop :=
  ∀ last, texts.getLast? = some last → ∀ text ∈ texts, text.length ≤ last.length

/-- The texts are seen as one: it starts with the last and is as long as the longest. -/
structure SeenAs (texts : List Text) (content : Text) : Prop where
  noNul : 0 ∉ content
  last : ∀ last, texts.getLast? = some last → last <+: content
  longest : ∀ text ∈ texts, text.length ≤ content.length
  reached : content = [] ∨ ∃ text ∈ texts, text.length = content.length

theorem overlay_zero (memory written : List UInt8) :
    overlay memory 0 written = written ++ memory.drop written.length := by
  simp [overlay]

/-- A further text covers the start of what is seen, or all of it. -/
theorem SeenAs.concat {texts : List Text} {content last : Text} (hseen : SeenAs texts content)
    (hlast : 0 ∉ last) :
    SeenAs (texts ++ [last]) (last ++ content.drop last.length) := by
  have hlength : (last ++ content.drop last.length).length = max last.length content.length := by
    rw [List.length_append, List.length_drop]
    omega
  refine ⟨?_, ?_, ?_, ?_⟩
  · intro hnul
    rcases List.mem_append.mp hnul with hnul | hnul
    · exact hlast hnul
    · exact hseen.noNul (List.mem_of_mem_drop hnul)
  · intro other hother
    rw [List.getLast?_concat] at hother
    obtain rfl := Option.some.inj hother
    exact List.prefix_append _ _
  · intro text htext
    rw [hlength]
    rcases List.mem_append.mp htext with hearlier | hnew
    · exact Nat.le_trans (hseen.longest text hearlier) (Nat.le_max_right _ _)
    · rw [List.mem_singleton.mp hnew]
      exact Nat.le_max_left _ _
  · refine Or.inr ?_
    rw [hlength]
    rcases Nat.le_total content.length last.length with hcovered | hstays
    · exact ⟨last, List.mem_append_right _ (List.mem_singleton_self _),
        (Nat.max_eq_left hcovered).symm⟩
    · rcases hseen.reached with rfl | ⟨text, htext, hlongest⟩
      · exact ⟨last, List.mem_append_right _ (List.mem_singleton_self _),
          (Nat.max_eq_left (Nat.zero_le _)).symm⟩
      · exact ⟨text, List.mem_append_left _ htext, hlongest.trans (Nat.max_eq_right hstays).symm⟩

theorem drop_content (content : Text) (zeros : Nat) (count : Nat) :
    (content ++ List.replicate zeros (0 : UInt8)).drop count =
      content.drop count ++ List.replicate (zeros - (count - content.length)) 0 := by
  rw [List.drop_append, List.drop_replicate]

/-- What the area holds as a C string. -/
theorem layered_content {size : Nat} {texts : List Text}
    (htexts : ∀ text ∈ texts, 0 ∉ text ∧ text.length < size) (hsize : 0 < size) :
    ∃ content, SeenAs texts content ∧ content.length < size ∧
      layered size texts = content ++ List.replicate (size - content.length) 0 := by
  induction texts using List.reverseRecOn with
  | nil =>
      refine ⟨[], ⟨List.not_mem_nil, ?_, ?_, Or.inl rfl⟩, hsize, rfl⟩
      · rintro last ⟨⟩
      · intro text htext
        exact absurd htext List.not_mem_nil
  | append_singleton texts last ih =>
      obtain ⟨content, hseen, hfits, hlayered⟩ :=
        ih fun text htext => htexts text (List.mem_append_left _ htext)
      obtain ⟨hnul, hlast⟩ := htexts last (List.mem_append_right _ (List.mem_singleton_self _))
      refine ⟨_, hseen.concat hnul, ?_, ?_⟩
      · rw [List.length_append, List.length_drop]
        omega
      · rw [layered_concat, overlay_zero, hlayered, drop_content, List.append_assoc]
        congr 3
        rw [List.length_append, List.length_drop]
        omega

theorem cString_layered {size : Nat} {texts : List Text} {content : Text}
    (hseen : SeenAs texts content) (hfits : content.length < size)
    (hlayered : layered size texts = content ++ List.replicate (size - content.length) 0) :
    cString (layered size texts) = .ok content := by
  obtain ⟨zeros, hzeros⟩ : ∃ zeros, size - content.length = zeros + 1 :=
    ⟨size - content.length - 1, by omega⟩
  rw [hlayered, hzeros, List.replicate_succ]
  exact cString_append_nul hseen.noNul _

/-- The last text is all that is seen if no other one is longer. -/
theorem SeenAs.eq_last_iff {texts : List Text} {content : Text} (hseen : SeenAs texts content) :
    content = texts.getLast?.getD [] ↔ LastIsLongest texts := by
  rcases List.eq_nil_or_concat texts with rfl | ⟨earlier, last, rfl⟩
  · have hnone : content = [] := by
      rcases hseen.reached with hnil | ⟨text, htext, -⟩
      · exact hnil
      · exact absurd htext List.not_mem_nil
    refine iff_of_true hnone ?_
    rintro last ⟨⟩
  · rw [List.concat_eq_append] at hseen ⊢
    rw [List.getLast?_concat, Option.getD_some]
    have hinitial := hseen.last last List.getLast?_concat
    constructor
    · rintro rfl other hother
      rw [List.getLast?_concat] at hother
      obtain rfl := Option.some.inj hother
      exact hseen.longest
    · intro hlongest
      have hall := hlongest last List.getLast?_concat
      refine (hinitial.eq_of_length_le ?_).symm
      rcases hseen.reached with rfl | ⟨text, htext, hlength⟩
      · exact Nat.zero_le _
      · rw [← hlength]
        exact hall text htext

end LayeredWrites
