/-
The number apply_headers returns, against the statuses cfitsio answered its calls with.
-/
import Andor2k.FitsImage

namespace Andor2k

open CText

/-- The statuses up to the first below -99, behind which the loop makes no call any more. -/
def callsMade : List Int → List Int
  | [] => []
  | status :: rest => if status < -99 then [status] else status :: callsMade rest

/-- The statuses of the calls of `fits_update_key` that are made for `count` entries from `index`
on. -/
def keyStatuses (cfitsio : CfitsioAnswers) (index count : Nat) : List Int :=
  callsMade ((List.range' index count).map cfitsio.updateKey)

/-- The status of every call that is made for a table, in the order of the table. -/
def entryStatuses (cfitsio : CfitsioAnswers) (headers : FitsHeaders) : List Int :=
  keyStatuses cfitsio 0 headers.mvec.length

def failedEntries (statuses : List Int) : Nat := statuses.countP (· ≠ 0)

def writtenEntries (statuses : List Int) : Nat := statuses.countP (· = 0)

/-- Minus the number of the failed entries if there is one, and otherwise the number of
the entries written; the statuses are those of the calls that are made. -/
def CountsEntries (statuses : List Int) (returned : Int) : Prop :=
  (0 < failedEntries statuses → returned = -(failedEntries statuses : Int)) ∧
    (failedEntries statuses = 0 → returned = writtenEntries statuses)

instance (statuses : List Int) (returned : Int) :
    Decidable (CountsEntries statuses returned) :=
  inferInstanceAs (Decidable (_ ∧ _))

/-- What the loop takes for errors. -/
def countedErrors (statuses : List Int) : Nat := statuses.countP (· < 0)

/-- What the loop takes for entries applied. -/
def countedApplied (statuses : List Int) : Nat := statuses.countP (0 < ·)

theorem failedEntries_eq (statuses : List Int) :
    failedEntries statuses = countedErrors statuses + countedApplied statuses := by
  induction statuses with
  | nil => rfl
  | cons status rest ih =>
      simp only [failedEntries, countedErrors, countedApplied, List.countP_cons,
        decide_eq_true_eq] at ih ⊢
      rw [ih]
      split_ifs <;> omega

/-- The first status below the threshold, or one of the two counters. -/
def reportedStatus (applied errors : Int) (statuses : List Int) : Int :=
  match statuses.find? (· < -99) with
  | some status => status
  | none =>
      if errors - countedErrors statuses < 0 then errors - countedErrors statuses
      else applied + countedApplied statuses

theorem reportedStatus_cons_of_lt (applied errors : Int) {status : Int}
    (rest : List Int) (hstop : status < -99) :
    reportedStatus applied errors (status :: rest) = status := by
  rw [reportedStatus, List.find?_cons_of_pos (by simpa using hstop)]

theorem reportedStatus_cons_of_le (applied errors : Int) {status : Int}
    (rest : List Int) (hgo : -99 ≤ status) :
    reportedStatus applied errors (status :: rest) =
      reportedStatus (if status > 0 then applied + 1 else applied)
        (if status < 0 then errors - 1 else errors) rest := by
  rw [reportedStatus, List.find?_cons_of_neg (by simpa using hgo), reportedStatus]
  simp only [countedErrors, countedApplied, List.countP_cons, decide_eq_true_eq]
  cases rest.find? (· < -99) with
  | some first => rfl
  | none =>
      rcases Int.lt_trichotomy status 0 with hneg | hzero | hpos
      · have hnot : ¬ 0 < status := by omega
        simp only [if_pos hneg, if_neg hnot]
        push_cast
        grind
      · subst hzero
        simp
      · have hnot : ¬ status < 0 := by omega
        simp only [if_pos hpos, if_neg hnot]
        push_cast
        grind

theorem keyStatuses_stop {cfitsio : CfitsioAnswers} {index : Nat} (count : Nat)
    (hstop : cfitsio.updateKey index < -99) :
    keyStatuses cfitsio index (count + 1) = [cfitsio.updateKey index] := by
  rw [keyStatuses, List.range'_succ, List.map_cons, callsMade, if_pos hstop]

theorem keyStatuses_go {cfitsio : CfitsioAnswers} {index : Nat} (count : Nat)
    (hgo : -99 ≤ cfitsio.updateKey index) :
    keyStatuses cfitsio index (count + 1) =
      cfitsio.updateKey index :: keyStatuses cfitsio (index + 1) count := by
  rw [keyStatuses, List.range'_succ, List.map_cons, callsMade, if_neg (Int.not_lt.mpr hgo),
    keyStatuses]

/-- One turn of the loop, for an entry whose call lets the loop go on. -/
theorem applyLoop_turn {cfitsio : CfitsioAnswers} {index : Nat} (applied errors : Int)
    {hdr : FitsHeader} (rest : List FitsHeader)
    (hcase : FitsImage.hasCase hdr.value.type = true)
    (hgo : -99 ≤ cfitsio.updateKey index) :
    (FitsImage.applyLoop cfitsio false index applied errors (hdr :: rest)).1 =
      (FitsImage.applyLoop cfitsio false (index + 1)
        (if cfitsio.updateKey index > 0 then applied + 1 else applied)
        (if cfitsio.updateKey index < 0 then errors - 1 else errors) rest).1 := by
  have hstop : ¬ cfitsio.updateKey index < -99 := by omega
  simp [FitsImage.applyLoop, hcase, hstop]

/-- The loop stops at the first status below the threshold and returns it; behind the last
entry it returns one of its two counters. -/
theorem applyLoop_result (cfitsio : CfitsioAnswers) (index : Nat) (applied errors : Int)
    {entries : List FitsHeader}
    (hcases : ∀ hdr ∈ entries, FitsImage.hasCase hdr.value.type = true) :
    (FitsImage.applyLoop cfitsio false index applied errors entries).1 =
      reportedStatus applied errors (keyStatuses cfitsio index entries.length) := by
  induction entries generalizing index applied errors with
  | nil =>
      simp [FitsImage.applyLoop, reportedStatus, keyStatuses, callsMade, countedErrors,
        countedApplied]
  | cons hdr rest ih =>
      obtain ⟨hcase, hrest⟩ := List.forall_mem_cons.mp hcases
      rw [List.length_cons]
      by_cases hstop : cfitsio.updateKey index < -99
      · rw [applyLoop_of_status_lt false applied errors rest hcase hstop,
          keyStatuses_stop rest.length hstop, reportedStatus_cons_of_lt applied errors _ hstop]
      · have hgo : -99 ≤ cfitsio.updateKey index := by omega
        rw [applyLoop_turn applied errors rest hcase hgo, ih _ _ _ hrest,
          keyStatuses_go rest.length hgo, reportedStatus_cons_of_le applied errors _ hgo]

/-- Statuses the right number is made from: there are none; none stops the loop, none is positive
and at least one is negative; or the status the loop stops at happens to be minus the number of
the calls that have failed. -/
def CountedRight (statuses : List Int) : Prop :=
  match statuses.find? (· < -99) with
  | some status => status = -(failedEntries statuses : Int)
  | none =>
      statuses = [] ∨
        ((∃ status ∈ statuses, status < 0) ∧ ∀ status ∈ statuses, status ≤ 0)

theorem countedErrors_pos_iff {statuses : List Int} :
    0 < countedErrors statuses ↔ ∃ status ∈ statuses, status < 0 := by
  rw [countedErrors, List.countP_pos_iff]
  simp

theorem countedApplied_eq_zero_iff {statuses : List Int} :
    countedApplied statuses = 0 ↔ ∀ status ∈ statuses, status ≤ 0 := by
  rw [countedApplied, List.countP_eq_zero]
  simp

/-- A list without a failure is written as a whole. -/
theorem writtenEntries_of_failedEntries {statuses : List Int}
    (hnone : failedEntries statuses = 0) : writtenEntries statuses = statuses.length := by
  rw [failedEntries, List.countP_eq_zero] at hnone
  rw [writtenEntries, List.countP_eq_length]
  simpa using hnone

theorem countsEntries_reportedStatus_iff (statuses : List Int) :
    CountsEntries statuses (reportedStatus 0 0 statuses) ↔ CountedRight statuses := by
  have hfailed := failedEntries_eq statuses
  rw [reportedStatus, CountedRight]
  cases hfind : statuses.find? (· < -99) with
  | some status =>
      have hlow : status < -99 := by simpa using List.find?_some hfind
      have hpos : 0 < countedErrors statuses :=
        countedErrors_pos_iff.mpr ⟨status, List.mem_of_find?_eq_some hfind, by omega⟩
      constructor
      · rintro ⟨hsome, -⟩
        exact hsome (by omega)
      · intro hequal
        exact ⟨fun _ => hequal, fun hzero => by omega⟩
  | none =>
      rw [← countedErrors_pos_iff, ← countedApplied_eq_zero_iff]
      rcases Nat.eq_zero_or_pos (countedErrors statuses) with hzero | hpos
      · simp only [hzero, Int.natCast_zero, Int.sub_self, if_neg (Int.lt_irrefl 0)]
        constructor
        · rintro ⟨hsome, hnone⟩
          rcases Nat.eq_zero_or_pos (countedApplied statuses) with hunapplied | happlied
          · have hwritten := hnone (by omega)
            rw [writtenEntries_of_failedEntries (by omega)] at hwritten
            exact Or.inl (List.eq_nil_of_length_eq_zero (by omega))
          · have := hsome (by omega)
            omega
        · rintro (rfl | ⟨hpos, -⟩)
          · decide
          · exact absurd hpos (Nat.lt_irrefl 0)
      · simp only [if_pos (by omega : (0 : Int) - countedErrors statuses < 0)]
        constructor
        · rintro ⟨hsome, -⟩
          have := hsome (by omega)
          exact Or.inr ⟨hpos, by omega⟩
        · rintro (hempty | ⟨-, happlied⟩)
          · rw [hempty] at hpos
            exact absurd hpos (by decide)
          · exact ⟨fun _ => by omega, fun hnone => by omega⟩

/-- What `apply_headers` returns counts the entries exactly when the statuses are of the
kind that comes out right. -/
theorem applyHeaders_counts_iff (cfitsio : CfitsioAnswers) {headers : FitsHeaders}
    (hcases : ∀ hdr ∈ headers.mvec, FitsImage.hasCase hdr.value.type = true) :
    CountsEntries (entryStatuses cfitsio headers)
        (FitsImage.applyHeaders cfitsio headers false).1 ↔
      CountedRight (entryStatuses cfitsio headers) := by
  rw [FitsImage.applyHeaders, applyLoop_result cfitsio 0 0 0 hcases, entryStatuses]
  exact countsEntries_reportedStatus_iff _

/-- Only the temperature. -/
def temperatureHeader : FitsHeader where
  key := ascii "CCDTEMP"
  comment := ascii "CCD temp at start of exposure degC"
  key_fits := by decide
  comment_fits := by decide
  value := .fval ⟨0xC2200000⟩

def temperatureHeaders : FitsHeaders where
  mvec := [temperatureHeader]
  capacity := 100
  length_le := by decide

theorem temperatureHeaders_typed :
    ∀ hdr ∈ temperatureHeaders.mvec, FitsImage.hasCase hdr.value.type = true := by
  decide

/-- A status of -11, for a value out of range, is counted. -/
theorem overflow_is_counted :
    CountsEntries (entryStatuses ⟨0, 0, fun _ => -11⟩ temperatureHeaders)
        (FitsImage.applyHeaders ⟨0, 0, fun _ => -11⟩ temperatureHeaders false).1 ↔
      CountedRight (entryStatuses ⟨0, 0, fun _ => -11⟩ temperatureHeaders) :=
  applyHeaders_counts_iff _ temperatureHeaders_typed

/-- A status of 106, for a write that failed, counts as an entry applied: the header is
missing, and 1 is returned. -/
theorem failure_counts_as_applied :
    (FitsImage.applyHeaders ⟨0, 0, fun _ => 106⟩ temperatureHeaders false).1 = 1 ∧
      ¬ ∀ (cfitsio : CfitsioAnswers) (headers : FitsHeaders),
        (∀ hdr ∈ headers.mvec, FitsImage.hasCase hdr.value.type = true) →
        CountsEntries (entryStatuses cfitsio headers)
          (FitsImage.applyHeaders cfitsio headers false).1 := by
  constructor
  · decide
  · intro hcounts
    have hone := hcounts ⟨0, 0, fun _ => 106⟩ temperatureHeaders temperatureHeaders_typed
    exact absurd hone (by decide)

end Andor2k
