/-
FitsHeaders as a keyed table: an update is the update of a keyed table, a merge is the
series of updates it stands for, as long as growing the vector does not lose entries.
-/
import Andor2k.FitsHeader
import Andor2k.KeyedTable

namespace Andor2k

open CText Ieee

/-- Entries are found by their key, and only replaced by one of the same known type. -/
def headerScheme : KeyedTable.Scheme FitsHeader Text ValueType where
  key hdr := hdr.key
  kind hdr := hdr.value.type
  closed type := decide (type = .unknown)

def updateStatus : KeyedTable.Outcome → Int
  | .added => 1
  | .replaced => 0
  | .refused => -1

namespace FitsHeaders

theorem replaceEntry_spec (hdr : FitsHeader) (entries : List FitsHeader) :
    replaceEntry hdr entries =
      if hdr.key ∈ entries.map headerScheme.key then
        some (updateStatus (KeyedTable.update headerScheme hdr entries).1,
          (KeyedTable.update headerScheme hdr entries).2)
      else none := by
  induction entries with
  | nil => rfl
  | cons entry rest ih =>
      by_cases hkey : entry.key = hdr.key
      · have hfound : headerScheme.key entry = headerScheme.key hdr := hkey
        have hmem : hdr.key ∈ (entry :: rest).map headerScheme.key := by
          rw [← hkey]
          exact List.mem_cons_self
        rw [if_pos hmem, replaceEntry, if_pos hkey, KeyedTable.update, if_pos hfound]
        by_cases htype : entry.value.type = hdr.value.type ∧ entry.value.type ≠ .unknown
        · have hkind : headerScheme.kind entry = headerScheme.kind hdr ∧
              headerScheme.closed (headerScheme.kind entry) = false :=
            ⟨htype.1, decide_eq_false htype.2⟩
          rw [if_pos htype, if_pos hkind]
          rfl
        · have hkind : ¬ (headerScheme.kind entry = headerScheme.kind hdr ∧
              headerScheme.closed (headerScheme.kind entry) = false) :=
            fun hkind => htype ⟨hkind.1, of_decide_eq_false hkind.2⟩
          rw [if_neg htype, if_neg hkind]
          rfl
      · have hother : ¬ headerScheme.key entry = headerScheme.key hdr := hkey
        have hmem : hdr.key ∈ (entry :: rest).map headerScheme.key ↔
            hdr.key ∈ rest.map headerScheme.key := by
          rw [List.map_cons, List.mem_cons]
          exact or_iff_right fun heq => hkey heq.symm
        rw [replaceEntry, if_neg hkey, KeyedTable.update, if_neg hother, ih]
        simp only [hmem]
        split
        · rfl
        · rfl

/-- `update` is the update of a keyed table. -/
theorem update_spec (headers : FitsHeaders) (hdr : FitsHeader) :
    (headers.update hdr).1 =
        updateStatus (KeyedTable.update headerScheme hdr headers.mvec).1 ∧
      (headers.update hdr).2.mvec =
        (KeyedTable.update headerScheme hdr headers.mvec).2 := by
  have hspec := replaceEntry_spec hdr headers.mvec
  by_cases hmem : hdr.key ∈ headers.mvec.map headerScheme.key
  · rw [if_pos hmem] at hspec
    unfold update
    split
    · rename_i hnone
      rw [hspec] at hnone
      cases hnone
    · rename_i status mvec hsome
      rw [hspec, Option.some.injEq, Prod.mk.injEq] at hsome
      exact ⟨hsome.1.symm, hsome.2.symm⟩
  · rw [if_neg hmem] at hspec
    have hadded : KeyedTable.update headerScheme hdr headers.mvec = _ :=
      KeyedTable.update_of_not_mem hmem
    unfold update
    split
    · rw [hadded]
      exact ⟨rfl, rfl⟩
    · rename_i status mvec hsome
      rw [hspec] at hsome
      cases hsome

/-- `update(h)` for each entry in turn: what the calls return, and the table. -/
def updateEach : List FitsHeader → FitsHeaders → List Int × FitsHeaders
  | [], headers => ([], headers)
  | hdr :: rest, headers =>
      let (status, headers) := headers.update hdr
      let (later, headers) := updateEach rest headers
      (status :: later, headers)

theorem updateEach_spec (entries : List FitsHeader) (headers : FitsHeaders) :
    (updateEach entries headers).1 =
        (KeyedTable.updateAll headerScheme entries headers.mvec).1.map updateStatus ∧
      (updateEach entries headers).2.mvec =
        (KeyedTable.updateAll headerScheme entries headers.mvec).2 := by
  induction entries generalizing headers with
  | nil => exact ⟨rfl, rfl⟩
  | cons hdr rest ih =>
      obtain ⟨hstatus, htable⟩ := headers.update_spec hdr
      obtain ⟨hlater, hfinal⟩ := ih (headers.update hdr).2
      rw [htable] at hlater hfinal
      exact ⟨by simp only [updateEach, KeyedTable.updateAll, List.map_cons, hstatus, hlater],
        hfinal⟩

def failures (statuses : List Int) : Nat := statuses.countP (· < 0)

def successes (statuses : List Int) : Nat := statuses.countP (0 ≤ ·)

/-- The number of successful updates, or minus the number of failures if there are any. -/
def mergeResult (statuses : List Int) : Int :=
  if failures statuses = 0 then successes statuses else -failures statuses

/-- A merge is the updates it stands for: it leaves their table, counts them, and every
entry of the old table is still there, under its key and with a value of its type. -/
structure MergesAsUpdates (headers : FitsHeaders) (hvec : List FitsHeader)
    (merged : Int × FitsHeaders) : Prop where
  table : merged.2.mvec = (updateEach hvec headers).2.mvec
  returned : merged.1 = mergeResult (updateEach hvec headers).1
  kept : ∀ entry ∈ headers.mvec, ∃ stored ∈ merged.2.mvec,
    stored.key = entry.key ∧ stored.value.type = entry.value.type

theorem failures_add_successes (statuses : List Int) :
    failures statuses + successes statuses = statuses.length := by
  induction statuses with
  | nil => rfl
  | cons status later ih =>
      simp only [failures, successes, List.countP_cons, List.length_cons,
        decide_eq_true_eq] at ih ⊢
      by_cases hfailed : status < 0
      · rw [if_pos hfailed, if_neg (by omega)]
        omega
      · rw [if_neg hfailed, if_pos (by omega)]
        omega

theorem mergeLoop_spec (errors adds : Int) (hvec : List FitsHeader) (headers : FitsHeaders) :
    mergeLoop false errors adds hvec headers =
      (if errors - failures (updateEach hvec headers).1 < 0 then
          errors - failures (updateEach hvec headers).1
        else adds + successes (updateEach hvec headers).1,
        (updateEach hvec headers).2) := by
  induction hvec generalizing errors adds headers with
  | nil => simp [mergeLoop, updateEach, failures, successes]
  | cons hdr rest ih =>
      simp only [mergeLoop, updateEach, failures, successes, List.countP_cons,
        decide_eq_true_eq, Bool.false_eq_true, ↓reduceIte]
      by_cases hfailed : (headers.update hdr).1 < 0
      · rw [if_pos hfailed, if_pos hfailed, if_neg (by omega : ¬ 0 ≤ (headers.update hdr).1),
          ih, failures, successes]
        push_cast
        rw [Int.sub_sub, Int.add_comm 1]
        rfl
      · rw [if_neg hfailed, if_neg hfailed, if_pos (by omega : 0 ≤ (headers.update hdr).1),
          ih, failures, successes]
        push_cast
        rw [Int.add_assoc, Int.add_comm 1]
        rfl

/-- The loop of a merge makes the updates, whatever table it starts from. -/
theorem mergeLoop_eq_updateEach (hvec : List FitsHeader) (headers : FitsHeaders) :
    mergeLoop false 0 0 hvec headers =
      (mergeResult (updateEach hvec headers).1, (updateEach hvec headers).2) := by
  rw [mergeLoop_spec, mergeResult]
  by_cases hnone : failures (updateEach hvec headers).1 = 0
  · simp [hnone]
  · rw [if_neg hnone, if_pos (by omega), Int.zero_sub]

theorem failures_map_updateStatus (outcomes : List KeyedTable.Outcome) :
    failures (outcomes.map updateStatus) = KeyedTable.refusals outcomes := by
  rw [failures, List.countP_map, KeyedTable.refusals, List.count]
  congr 1
  funext outcome
  cases outcome with
  | added => rfl
  | replaced => rfl
  | refused => rfl

theorem length_updateEach (hvec : List FitsHeader) (headers : FitsHeaders) :
    (updateEach hvec headers).1.length = hvec.length := by
  induction hvec generalizing headers with
  | nil => rfl
  | cons hdr rest ih => simp only [updateEach, List.length_cons, ih]

/-- Merges of one list return the same exactly when they fail as often. -/
theorem mergeResult_eq_iff {statuses other : List Int}
    (hlength : statuses.length = other.length) :
    mergeResult statuses = mergeResult other ↔ failures statuses = failures other := by
  have hsum := failures_add_successes statuses
  have hother := failures_add_successes other
  constructor
  · intro hresult
    rw [mergeResult, mergeResult] at hresult
    split at hresult
    · split at hresult
      · omega
      · omega
    · split at hresult
      · omega
      · omega
  · intro hfailures
    have hsuccesses : successes statuses = successes other := by omega
    rw [mergeResult, mergeResult, hfailures, hsuccesses]

theorem updateEach_kept (hvec : List FitsHeader) (headers : FitsHeaders) :
    ∀ entry ∈ headers.mvec, ∃ stored ∈ (updateEach hvec headers).2.mvec,
      stored.key = entry.key ∧ stored.value.type = entry.value.type := by
  intro entry hentry
  have hlabel : headerScheme.label entry ∈
      (updateEach hvec headers).2.mvec.map headerScheme.label := by
    rw [(updateEach_spec hvec headers).2, KeyedTable.map_label_updateAll]
    exact List.mem_append_left _ (List.mem_map_of_mem hentry)
  obtain ⟨stored, hstored, heq⟩ := List.mem_map.mp hlabel
  simp only [KeyedTable.Scheme.label, Prod.mk.injEq] at heq
  exact ⟨stored, hstored, heq⟩

theorem merge_of_capacity {headers : FitsHeaders} {hvec : List FitsHeader}
    (hfits : headers.mvec.length + hvec.length ≤ headers.capacity) :
    headers.merge hvec false =
      (mergeResult (updateEach hvec headers).1, (updateEach hvec headers).2) := by
  rw [merge, if_neg (Nat.not_lt.mpr hfits), mergeLoop_eq_updateEach]

/-- The table the vector is swapped with is empty. -/
theorem merge_of_growth {headers : FitsHeaders} {hvec : List FitsHeader}
    (hgrows : headers.capacity < headers.mvec.length + hvec.length) :
    ((headers.merge hvec false).2.mvec =
        (KeyedTable.updateAll headerScheme hvec []).2) ∧
      (headers.merge hvec false).1 = mergeResult
        ((KeyedTable.updateAll headerScheme hvec []).1.map updateStatus) := by
  rw [merge, if_pos hgrows, mergeLoop_eq_updateEach]
  obtain ⟨hstatuses, htable⟩ := updateEach_spec hvec
    (construct (headers.mvec.length + hvec.length))
  exact ⟨htable, by rw [hstatuses]; rfl⟩

/-- A merge is its updates exactly when the vector need not grow, or what it loses by
growing comes again: its keys, with their types, are the first ones of the merged list,
and none of them is of the unknown type, which an update refuses. -/
theorem merge_mergesAsUpdates_iff (headers : FitsHeaders) (hvec : List FitsHeader) :
    MergesAsUpdates headers hvec (headers.merge hvec false) ↔
      headers.mvec.length + hvec.length ≤ headers.capacity ∨
        (headers.mvec.map headerScheme.label <+:
            KeyedTable.firstLabels headerScheme [] hvec ∧
          ∀ entry ∈ headers.mvec, entry.value.type ≠ .unknown) := by
  rcases Nat.lt_or_ge headers.capacity (headers.mvec.length + hvec.length) with hgrows | hfits
  · obtain ⟨htable, hreturned⟩ := merge_of_growth hgrows
    obtain ⟨hstatuses, hupdated⟩ := updateEach_spec hvec headers
    have hlength : ((KeyedTable.updateAll headerScheme hvec []).1.map updateStatus).length =
        (updateEach hvec headers).1.length := by
      have hempty := (updateEach_spec hvec (construct 0)).1
      rw [length_updateEach, ← length_updateEach hvec (construct 0), hempty]
      rfl
    have hunknown : (∀ entry ∈ headers.mvec, entry.value.type ≠ .unknown) ↔
        ∀ entry ∈ headers.mvec,
          headerScheme.closed (headerScheme.kind entry) = false := by
      simp [headerScheme]
    rw [or_iff_right (Nat.not_le.mpr hgrows), hunknown, ← KeyedTable.updateAll_eq_of_empty_iff]
    have hreturns : (headers.merge hvec false).1 = mergeResult (updateEach hvec headers).1 ↔
        KeyedTable.refusals (KeyedTable.updateAll headerScheme hvec headers.mvec).1 =
          KeyedTable.refusals (KeyedTable.updateAll headerScheme hvec []).1 := by
      rw [hreturned, mergeResult_eq_iff hlength, hstatuses, failures_map_updateStatus,
        failures_map_updateStatus, eq_comm]
    constructor
    · intro hmerges
      exact ⟨by rw [← hupdated, ← hmerges.table, htable], hreturns.mp hmerges.returned⟩
    · rintro ⟨hsame, hrefusals⟩
      have htables : (headers.merge hvec false).2.mvec = (updateEach hvec headers).2.mvec := by
        rw [htable, hupdated, hsame]
      refine ⟨htables, hreturns.mpr hrefusals, ?_⟩
      rw [htables]
      exact updateEach_kept hvec headers
  · rw [or_iff_left_of_imp fun _ => hfits, merge_of_capacity hfits]
    exact ⟨fun _ => hfits, fun _ => ⟨rfl, rfl, updateEach_kept hvec headers⟩⟩

/-- Entries of one known type meet no refusal, so nothing stops their merge. -/
theorem mergeLoop_of_type {stopIfError : Bool} {errors adds : Int} {type : ValueType}
    {hvec : List FitsHeader} {headers : FitsHeaders} (hknown : type ≠ .unknown)
    (hvecType : ∀ hdr ∈ hvec, hdr.value.type = type)
    (htableType : ∀ entry ∈ headers.mvec, entry.value.type = type) :
    (mergeLoop stopIfError errors adds hvec headers).2.mvec =
      (KeyedTable.updateAll headerScheme hvec headers.mvec).2 := by
  induction hvec generalizing errors adds headers with
  | nil => rfl
  | cons hdr rest ih =>
      obtain ⟨hhdr, hrest⟩ := List.forall_mem_cons.mp hvecType
      obtain ⟨hstatus, hmvec⟩ := headers.update_spec hdr
      have haccepted : ¬ (headers.update hdr).1 < 0 := by
        have hopen : headerScheme.closed (headerScheme.kind hdr) = false :=
          decide_eq_false fun hunknown => hknown (hhdr.symm.trans hunknown)
        have hne := KeyedTable.update_fst_ne_refused hopen fun entry hentry =>
          (htableType entry hentry).trans hhdr.symm
        rw [hstatus]
        cases houtcome : (KeyedTable.update headerScheme hdr headers.mvec).1 with
        | added => decide
        | replaced => decide
        | refused => exact absurd houtcome hne
      have htable : ∀ entry ∈ (headers.update hdr).2.mvec, entry.value.type = type := by
        intro entry hentry
        rw [hmvec] at hentry
        rcases KeyedTable.eq_or_mem_of_mem_update hentry with rfl | hold
        · exact hhdr
        · exact htableType entry hold
      simp only [mergeLoop, haccepted, ↓reduceIte]
      rw [ih hrest htable, hmvec, KeyedTable.updateAll]

/-- A table that is full with one entry. -/
def fullTable : FitsHeaders where
  mvec := [⟨⟨ascii "A", [], by decide, by decide⟩, .ival 1⟩]
  capacity := 1
  length_le := Nat.le_refl 1

def addedEntry : FitsHeader := ⟨⟨ascii "B", [], by decide, by decide⟩, .ival 2⟩

/-- The entry of a full table is lost. -/
theorem merge_loses_entry :
    ¬ ∀ (headers : FitsHeaders) (hvec : List FitsHeader),
      MergesAsUpdates headers hvec (headers.merge hvec false) := by
  intro hmerges
  obtain ⟨stored, hstored, hkey, _⟩ :=
    (hmerges fullTable [addedEntry]).kept _ List.mem_cons_self
  have hmerged : (fullTable.merge [addedEntry] false).2.mvec = [addedEntry] := by decide
  rw [hmerged, List.mem_singleton] at hstored
  rw [hstored] at hkey
  exact absurd hkey (by decide)

end FitsHeaders

end Andor2k
