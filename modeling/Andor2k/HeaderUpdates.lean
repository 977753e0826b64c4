/-
FitsHeaders::update(key, value, comment), call after call: the table is the association
list of the keywords, each with the type it was first given.
-/
import Andor2k.AssociationList
import Andor2k.DecodedHeaders

namespace Andor2k

open CText AssociationList

/-- A key without the blanks around it. -/
def stripBlanks (key : Text) : Text := (key.dropWhile (· = 32)).rdropWhile (· = 32)

/-- Only blanks are stripped, and none is left at either end. -/
theorem stripBlanks_spec (key : Text) :
    (∃ front back, key = List.replicate front 32 ++ (stripBlanks key ++ List.replicate back 32)) ∧
      (stripBlanks key).head? ≠ some 32 ∧ (stripBlanks key).getLast? ≠ some 32 := by
  refine ⟨?_, ?_, ?_⟩
  · have hblanks : List.replicate (key.takeWhile (· = 32)).length 32 =
        key.takeWhile (· = 32) := by
      symm
      rw [List.eq_replicate_iff]
      refine ⟨rfl, fun byte hbyte => ?_⟩
      simpa using List.mem_takeWhile_imp hbyte
    have hback : stripBlanks key ++
        List.replicate ((key.dropWhile (· = 32)).length - (stripBlanks key).length) 32 =
          key.dropWhile (· = 32) := rtrim_append_blanks _
    refine ⟨(key.takeWhile (· = 32)).length,
      (key.dropWhile (· = 32)).length - (stripBlanks key).length, ?_⟩
    rw [hblanks, hback, List.takeWhile_append_dropWhile]
  · intro hhead
    obtain ⟨back, hback⟩ : stripBlanks key <+: key.dropWhile (· = 32) :=
      List.rdropWhile_prefix _ _
    have hstop := List.head?_dropWhile_not (fun byte : UInt8 => decide (byte = 32)) key
    have hne : stripBlanks key ≠ [] := by
      intro hnil
      rw [hnil] at hhead
      cases hhead
    rw [← hback, List.head?_append_of_ne_nil _ hne, hhead] at hstop
    exact absurd hstop (by decide)
  · intro hlast
    have hne : stripBlanks key ≠ [] := by
      intro hnil
      rw [hnil] at hlast
      cases hlast
    rw [List.getLast?_eq_getLast_of_ne_nil hne, Option.some.injEq] at hlast
    exact List.rdropWhile_last_not _ _ hne (decide_eq_true hlast)

/-- The key and the comment can be copied into their fields. -/
def HeaderCall.Fits (call : HeaderCall) : Prop :=
  (call.key.dropWhile (· = 32)).length < fitsHeaderKeynameChars ∧
    call.comment.length < fitsHeaderCommentChars

instance (call : HeaderCall) : Decidable call.Fits :=
  inferInstanceAs (Decidable (_ ∧ _))

namespace FitsHeaders

/-- `update(key, value, comment)` for each call: what the calls return, and the table. -/
def updateReturns : List HeaderCall → FitsHeaders → Checked (List Int × FitsHeaders)
  | [], headers => .ok ([], headers)
  | call :: rest, headers => do
      let hdr ← createFitsHeader call.value call.key call.comment
      let updated := headers.update hdr
      let later ← updateReturns rest updated.2
      return (updated.1 :: later.1, later.2)

end FitsHeaders

/-- A row of the reference table: the keyword, its first type, and what it now has. -/
abbrev HeaderRow := Row Text ValueType (HeaderValue × Text)

def callRow (call : HeaderCall) : HeaderRow :=
  ⟨stripBlanks call.key, call.value.type, (call.value, call.comment)⟩

/-- What the calls are to return, and the rows they are to leave. -/
def referenceUpdates (calls : List HeaderCall) (rows : List HeaderRow) :
    List Int × List HeaderRow :=
  let rest := putAll (calls.map callRow) rows
  (rest.1.map updateStatus, rest.2)

def headerRow : FitsHeader → HeaderRow := rowOf headerScheme fun hdr => (hdr.value, hdr.comment)

theorem createFitsHeader_of_fits {call : HeaderCall} (hfits : call.Fits) :
    ∃ hdr, createFitsHeader call.value call.key call.comment = .ok hdr ∧
      headerRow hdr = callRow call ∧ headerScheme.closed (headerScheme.kind hdr) = false := by
  obtain ⟨hkey, hcomment⟩ := hfits
  rw [createFitsHeader, cpyChars]
  simp only [hkey, hcomment, ↓reduceDIte, Except.map]
  exact ⟨_, rfl, rfl, decide_eq_false call.typed⟩

namespace FitsHeaders

/-- The calls are updates by the entries they create. -/
theorem updateReturns_of_fits {calls : List HeaderCall} (headers : FitsHeaders)
    (hfits : ∀ call ∈ calls, call.Fits) :
    ∃ hdrs, updateReturns calls headers = .ok (updateEach hdrs headers) ∧
      hdrs.map headerRow = calls.map callRow ∧
      ∀ hdr ∈ hdrs, headerScheme.closed (headerScheme.kind hdr) = false := by
  induction calls generalizing headers with
  | nil => exact ⟨[], rfl, rfl, List.forall_mem_nil _⟩
  | cons call rest ih =>
      obtain ⟨hcall, hrest⟩ := List.forall_mem_cons.mp hfits
      obtain ⟨hdr, hcreate, hrow, hopen⟩ := createFitsHeader_of_fits hcall
      obtain ⟨later, hlater, hrows, hopens⟩ := ih (headers.update hdr).2 hrest
      refine ⟨hdr :: later, ?_, ?_, ?_⟩
      · simp only [updateReturns, hcreate, hlater, bind, Except.bind, updateEach, pure,
          Except.pure]
      · rw [List.map_cons, List.map_cons, hrow, hrows]
      · exact List.forall_mem_cons.mpr ⟨hopen, hopens⟩

theorem updateReturns_append {front back : List HeaderCall} {headers before after : FitsHeaders}
    {earlier later : List Int} (hfront : updateReturns front headers = .ok (earlier, before))
    (hback : updateReturns back before = .ok (later, after)) :
    updateReturns (front ++ back) headers = .ok (earlier ++ later, after) := by
  induction front generalizing headers earlier with
  | nil =>
      obtain ⟨rfl, rfl⟩ := Prod.mk.inj (Except.ok.inj hfront)
      exact hback
  | cons call rest ih =>
      obtain ⟨hdr, hcreate, hfront⟩ := checked_bind_eq_ok.mp hfront
      obtain ⟨⟨statuses, table⟩, hrest, hfront⟩ := checked_bind_eq_ok.mp hfront
      obtain ⟨hstatuses, htable⟩ := Prod.mk.inj (Except.ok.inj hfront)
      subst htable
      have hlater := ih hrest
      simp only [List.cons_append, updateReturns, hcreate, hlater, bind, Except.bind, pure,
        Except.pure, ← hstatuses]

/-- Later calls neither move a keyword nor change its type. -/
theorem labels_prefix_updateReturns {calls : List HeaderCall} {headers table : FitsHeaders}
    {returns : List Int} (hfits : ∀ call ∈ calls, call.Fits)
    (hcalls : updateReturns calls headers = .ok (returns, table)) :
    headers.mvec.map headerScheme.label <+: table.mvec.map headerScheme.label := by
  obtain ⟨hdrs, hupdates, -⟩ := updateReturns_of_fits headers hfits
  rw [hupdates] at hcalls
  have htable : (updateEach hdrs headers).2 = table := congrArg Prod.snd (Except.ok.inj hcalls)
  rw [← htable, (updateEach_spec hdrs headers).2, KeyedTable.map_label_updateAll]
  exact List.prefix_append _ _

/-- What calls of `update` leave is the reference table: the same returns and rows, no
keyword twice, the keywords in the order in which they first came, and each with the type
it had after any of the calls. -/
structure IsReference (sizeHint : Nat) (calls : List HeaderCall) (returns : List Int)
    (table : FitsHeaders) : Prop where
  rows : (returns, table.mvec.map headerRow) = referenceUpdates calls []
  distinct : (table.mvec.map headerScheme.key).Nodup
  order : table.mvec.map headerScheme.key =
    (calls.map fun call => stripBlanks call.key).eraseDups
  stable : ∀ front back earlier before, calls = front ++ back →
    updateReturns front (construct sizeHint) = .ok (earlier, before) →
    before.mvec.map headerScheme.label <+: table.mvec.map headerScheme.label

theorem updateReturns_isReference (sizeHint : Nat) {calls : List HeaderCall}
    (hfits : ∀ call ∈ calls, call.Fits) :
    ∃ returns table, updateReturns calls (construct sizeHint) = .ok (returns, table) ∧
      IsReference sizeHint calls returns table := by
  obtain ⟨hdrs, hupdates, hrows, hopen⟩ := updateReturns_of_fits (construct sizeHint) hfits
  obtain ⟨hstatuses, htable⟩ := updateEach_spec hdrs (construct sizeHint)
  have hnone : (construct sizeHint).mvec = [] := rfl
  rw [hnone] at hstatuses htable
  have hkeys : hdrs.map headerScheme.key = calls.map fun call => stripBlanks call.key := by
    have hsame := congrArg (List.map Row.key) hrows
    rwa [headerRow, map_key_map_rowOf, List.map_map] at hsame
  have hempty : (([] : List FitsHeader).map headerScheme.key).Nodup := List.nodup_nil
  refine ⟨_, _, hupdates, ?_, ?_, ?_, ?_⟩
  · have hput : putAll (hdrs.map headerRow) [] =
        ((KeyedTable.updateAll headerScheme hdrs []).1,
          (KeyedTable.updateAll headerScheme hdrs []).2.map headerRow) :=
      putAll_map_rowOf hopen hempty
    rw [referenceUpdates, ← hrows, hput, hstatuses, htable]
  · rw [htable]
    exact KeyedTable.nodup_map_key_updateAll hempty
  · rw [htable, map_key_updateAll hempty, List.map_nil, List.nil_append, hkeys]
  · intro front back earlier before hcalls hfront
    subst hcalls
    have hback : ∀ call ∈ back, call.Fits := fun call hcall =>
      hfits call (List.mem_append_right _ hcall)
    obtain ⟨rest, hrest, -⟩ := updateReturns_of_fits before hback
    have hwhole := updateReturns_append hfront hrest
    rw [hupdates] at hwhole
    rw [congrArg Prod.snd (Except.ok.inj hwhole)]
    exact labels_prefix_updateReturns hback hrest

def airmassCall (key : Text) (value : HeaderValue) (typed : value.type ≠ .unknown) :
    HeaderCall :=
  ⟨key, value, ascii "from the exposure", typed⟩

/-- One keyword under three spellings, the last time with another type. -/
def airmassCalls : List HeaderCall :=
  [airmassCall (ascii "AIRMASS") (.ival 1) (by decide),
    airmassCall (ascii "  AIRMASS ") (.ival 2) (by decide),
    airmassCall (ascii "AIRMASS ") (.uval 3) (by decide)]

theorem airmassCalls_isReference :
    ∃ returns table, updateReturns airmassCalls (construct 100) = .ok (returns, table) ∧
      IsReference 100 airmassCalls returns table :=
  updateReturns_isReference 100 (by decide)

example : (referenceUpdates airmassCalls []).1 = [1, 0, -1] := by decide

end FitsHeaders

end Andor2k
