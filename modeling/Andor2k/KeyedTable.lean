/-
Tables whose entries carry a key and a kind.  An update appends an entry with a new key
and replaces the first one with its own key; it is refused when that one is of another
kind, or of a kind that is closed to replacement.  What a table looks like from outside
are its labels, the keys with their kinds: updates only ever add labels at the end.
-/
import Mathlib.Data.List.Basic
import Mathlib.Data.List.Nodup

namespace KeyedTable

universe u v w

structure Scheme (E : Type u) (K : Type v) (T : Type w) where
  key : E → K
  kind : E → T
  closed : T → Bool

inductive Outcome where
  | added | replaced | refused
deriving DecidableEq, Repr

variable {E : Type u} {K : Type v} {T : Type w}

section Labels

variable (scheme : Scheme E K T)

def Scheme.label (entry : E) : K × T := (scheme.key entry, scheme.kind entry)

theorem map_fst_map_label (table : List E) :
    (table.map scheme.label).map Prod.fst = table.map scheme.key := by
  rw [List.map_map]
  rfl

theorem map_key_eq_of_map_label_eq {table other : List E}
    (hlabels : table.map scheme.label = other.map scheme.label) :
    table.map scheme.key = other.map scheme.key := by
  rw [← map_fst_map_label, hlabels, map_fst_map_label]

variable [DecidableEq K]

/-- The labels of the entries whose key is neither in `seen` nor that of an earlier
entry. -/
def firstLabels (seen : List K) : List E → List (K × T)
  | [] => []
  | entry :: later =>
      if scheme.key entry ∈ seen then firstLabels seen later
      else scheme.label entry :: firstLabels (seen ++ [scheme.key entry]) later

/-- The entries `back` are the ones that new keys are about to bring, at least by label. -/
def Leads (front back entries : List E) : Prop :=
  back.map scheme.label <+: firstLabels scheme (front.map scheme.key) entries

variable {scheme}

/-- A new key brings the label of the first entry that is already there. -/
theorem Leads.of_not_mem {front back later : List E} {entry first : E}
    (hleads : Leads scheme front (first :: back) (entry :: later))
    (hnew : scheme.key entry ∉ front.map scheme.key) :
    scheme.label first = scheme.label entry ∧ Leads scheme (front ++ [entry]) back later := by
  rw [Leads, firstLabels, if_neg hnew, List.map_cons, List.cons_prefix_cons] at hleads
  rwa [Leads, List.map_append, List.map_singleton]

end Labels

variable [DecidableEq K] [DecidableEq T] (scheme : Scheme E K T)

def update (entry : E) : List E → Outcome × List E
  | [] => (.added, [entry])
  | first :: rest =>
      if scheme.key first = scheme.key entry then
        if scheme.kind first = scheme.kind entry ∧ scheme.closed (scheme.kind first) = false
        then (.replaced, entry :: rest)
        else (.refused, first :: rest)
      else ((update entry rest).1, first :: (update entry rest).2)

/-- The entries one after the other: what became of each, and the table. -/
def updateAll : List E → List E → List Outcome × List E
  | [], table => ([], table)
  | entry :: later, table =>
      let outcome := (update scheme entry table).1
      let rest := updateAll later (update scheme entry table).2
      (outcome :: rest.1, rest.2)

def refusals (outcomes : List Outcome) : Nat := outcomes.count .refused

variable {scheme}

theorem update_of_not_mem {entry : E} {table : List E}
    (hnew : scheme.key entry ∉ table.map scheme.key) :
    update scheme entry table = (.added, table ++ [entry]) := by
  induction table with
  | nil => rfl
  | cons first rest ih =>
      simp only [List.map_cons, List.mem_cons, not_or] at hnew
      rw [update, if_neg (Ne.symm hnew.1), ih hnew.2]
      rfl

/-- An entry that finds its own label in front takes that place, or nothing. -/
theorem update_cons_of_label {entry first : E} {rest : List E}
    (hlabel : scheme.label first = scheme.label entry) :
    update scheme entry (first :: rest) =
      if scheme.closed (scheme.kind first) then (.refused, first :: rest)
      else (.replaced, entry :: rest) := by
  obtain ⟨hkey, hkind⟩ := Prod.mk.inj hlabel
  rw [update, if_pos hkey]
  cases hclosed : scheme.closed (scheme.kind first) with
  | false => exact if_pos ⟨hkind, rfl⟩
  | true => exact if_neg fun hopen => nomatch hopen.2

theorem update_append_of_mem {entry : E} {front : List E} (back : List E)
    (hmem : scheme.key entry ∈ front.map scheme.key) :
    update scheme entry (front ++ back) =
      ((update scheme entry front).1, (update scheme entry front).2 ++ back) := by
  induction front with
  | nil => simp at hmem
  | cons first rest ih =>
      rw [List.cons_append, update, update]
      by_cases hkey : scheme.key first = scheme.key entry
      · simp only [hkey, ↓reduceIte]
        split
        · rfl
        · rfl
      · have hrest : scheme.key entry ∈ rest.map scheme.key := by
          rcases List.mem_cons.mp hmem with heq | hrest
          · exact absurd heq.symm hkey
          · exact hrest
        simp only [hkey, ↓reduceIte, ih hrest, List.cons_append]

theorem update_append_of_not_mem {entry : E} {front : List E} (back : List E)
    (hnew : scheme.key entry ∉ front.map scheme.key) :
    update scheme entry (front ++ back) =
      ((update scheme entry back).1, front ++ (update scheme entry back).2) := by
  induction front with
  | nil => rfl
  | cons first rest ih =>
      simp only [List.map_cons, List.mem_cons, not_or] at hnew
      rw [List.cons_append, update, if_neg (Ne.symm hnew.1), ih hnew.2]
      rfl

/-- A known key changes no label. -/
theorem map_label_update_of_mem {entry : E} {table : List E}
    (hmem : scheme.key entry ∈ table.map scheme.key) :
    (update scheme entry table).2.map scheme.label = table.map scheme.label := by
  induction table with
  | nil => simp at hmem
  | cons first rest ih =>
      rw [update]
      by_cases hkey : scheme.key first = scheme.key entry
      · simp only [hkey, ↓reduceIte]
        split
        · rename_i hkind
          simp only [List.map_cons, Scheme.label, hkey, hkind.1]
        · rfl
      · have hrest : scheme.key entry ∈ rest.map scheme.key := by
          rcases List.mem_cons.mp hmem with heq | hrest
          · exact absurd heq.symm hkey
          · exact hrest
        simp only [hkey, ↓reduceIte, List.map_cons, ih hrest]

theorem map_key_update_of_mem {entry : E} {table : List E}
    (hmem : scheme.key entry ∈ table.map scheme.key) :
    (update scheme entry table).2.map scheme.key = table.map scheme.key :=
  map_key_eq_of_map_label_eq scheme (map_label_update_of_mem hmem)

/-- What becomes of an entry depends on the labels of the table only. -/
theorem update_fst_eq_of_map_label_eq {table other : List E}
    (hlabels : table.map scheme.label = other.map scheme.label) (entry : E) :
    (update scheme entry table).1 = (update scheme entry other).1 := by
  induction table generalizing other with
  | nil =>
      have hnil : other = [] := by simpa using hlabels.symm
      rw [hnil]
  | cons first rest ih =>
      obtain ⟨second, later, rfl⟩ : ∃ second later, other = second :: later := by
        cases other with
        | nil => simp at hlabels
        | cons second later => exact ⟨second, later, rfl⟩
      simp only [List.map_cons, List.cons.injEq, Scheme.label, Prod.mk.injEq] at hlabels
      obtain ⟨⟨hkey, hkind⟩, hrest⟩ := hlabels
      rw [update, update, hkey, hkind]
      split
      · split
        · rfl
        · rfl
      · exact ih hrest

theorem eq_or_mem_of_mem_update {entry other : E} {table : List E}
    (hother : other ∈ (update scheme entry table).2) : other = entry ∨ other ∈ table := by
  induction table with
  | nil => exact Or.inl (List.mem_singleton.mp hother)
  | cons first rest ih =>
      rw [update] at hother
      split at hother
      · split at hother
        · exact (List.mem_cons.mp hother).imp_right (List.mem_cons_of_mem first)
        · exact Or.inr hother
      · rcases List.mem_cons.mp hother with rfl | hrest
        · exact Or.inr List.mem_cons_self
        · exact (ih hrest).imp_right (List.mem_cons_of_mem first)

/-- Nothing is refused among entries of one open kind. -/
theorem update_fst_ne_refused {entry : E} {table : List E}
    (hopen : scheme.closed (scheme.kind entry) = false)
    (hkind : ∀ other ∈ table, scheme.kind other = scheme.kind entry) :
    (update scheme entry table).1 ≠ .refused := by
  induction table with
  | nil => simp [update]
  | cons first rest ih =>
      obtain ⟨hfirst, hrest⟩ := List.forall_mem_cons.mp hkind
      rw [update]
      split
      · rw [if_pos ⟨hfirst, hfirst ▸ hopen⟩]
        simp
      · exact ih hrest

/-- The first entry of a key. -/
def lookup (scheme : Scheme E K T) (key : K) (table : List E) : Option E :=
  table.find? fun entry => scheme.key entry = key

/-- The key is new, or its entry is of the kind. -/
def Free (scheme : Scheme E K T) (key : K) (kind : T) (table : List E) : Prop :=
  ∀ entry, lookup scheme key table = some entry → scheme.kind entry = kind

omit [DecidableEq T] in
theorem lookup_cons_of_key {first : E} {rest : List E} {key : K}
    (hkey : scheme.key first = key) : lookup scheme key (first :: rest) = some first :=
  List.find?_cons_of_pos (decide_eq_true hkey)

omit [DecidableEq T] in
theorem lookup_cons_of_ne {first : E} {rest : List E} {key : K}
    (hother : scheme.key first ≠ key) :
    lookup scheme key (first :: rest) = lookup scheme key rest :=
  List.find?_cons_of_neg (by simpa using hother)

theorem lookup_update_of_ne {entry : E} {key : K} (hother : scheme.key entry ≠ key)
    (table : List E) :
    lookup scheme key (update scheme entry table).2 = lookup scheme key table := by
  induction table with
  | nil => exact lookup_cons_of_ne hother
  | cons first rest ih =>
      rw [update]
      by_cases hkey : scheme.key first = scheme.key entry
      · have hfirst : scheme.key first ≠ key := fun heq => hother (hkey.symm.trans heq)
        rw [if_pos hkey, lookup_cons_of_ne hfirst]
        split
        · exact lookup_cons_of_ne hother
        · exact lookup_cons_of_ne hfirst
      · rw [if_neg hkey]
        by_cases hfirst : scheme.key first = key
        · rw [lookup_cons_of_key hfirst, lookup_cons_of_key hfirst]
        · rw [lookup_cons_of_ne hfirst, lookup_cons_of_ne hfirst, ih]

/-- An update of an open kind is seen exactly when its key is free for the kind. -/
theorem lookup_update_self {entry : E} (hopen : scheme.closed (scheme.kind entry) = false)
    (table : List E) :
    (Free scheme (scheme.key entry) (scheme.kind entry) table ∧
      lookup scheme (scheme.key entry) (update scheme entry table).2 = some entry) ∨
    (¬ Free scheme (scheme.key entry) (scheme.kind entry) table ∧
      lookup scheme (scheme.key entry) (update scheme entry table).2 =
        lookup scheme (scheme.key entry) table) := by
  induction table with
  | nil => exact Or.inl ⟨nofun, lookup_cons_of_key rfl⟩
  | cons first rest ih =>
      rw [update]
      by_cases hkey : scheme.key first = scheme.key entry
      · rw [if_pos hkey]
        by_cases hkind : scheme.kind first = scheme.kind entry
        · left
          rw [if_pos ⟨hkind, hkind ▸ hopen⟩]
          refine ⟨?_, lookup_cons_of_key rfl⟩
          intro found hfound
          rw [lookup_cons_of_key hkey] at hfound
          rw [← Option.some.inj hfound]
          exact hkind
        · right
          rw [if_neg fun hboth => hkind hboth.1]
          exact ⟨fun hfree => hkind (hfree first (lookup_cons_of_key hkey)), rfl⟩
      · rw [if_neg hkey]
        unfold Free
        rw [lookup_cons_of_ne hkey, lookup_cons_of_ne hkey]
        exact ih

theorem lookup_updateAll_of_ne {entries : List E} {key : K}
    (hothers : ∀ entry ∈ entries, scheme.key entry ≠ key) (table : List E) :
    lookup scheme key (updateAll scheme entries table).2 = lookup scheme key table := by
  induction entries generalizing table with
  | nil => rfl
  | cons entry later ih =>
      obtain ⟨hentry, hlater⟩ := List.forall_mem_cons.mp hothers
      rw [updateAll]
      exact (ih hlater _).trans (lookup_update_of_ne hentry table)

theorem updateAll_append_snd (front back table : List E) :
    (updateAll scheme (front ++ back) table).2 =
      (updateAll scheme back (updateAll scheme front table).2).2 := by
  induction front generalizing table with
  | nil => rfl
  | cons entry front ih => exact ih _

/-- Among updates of other keys, one update decides what is found under its key. -/
theorem lookup_updateAll {entry : E} {front back : List E}
    (hopen : scheme.closed (scheme.kind entry) = false)
    (hfront : ∀ other ∈ front, scheme.key other ≠ scheme.key entry)
    (hback : ∀ other ∈ back, scheme.key other ≠ scheme.key entry) (table : List E) :
    (Free scheme (scheme.key entry) (scheme.kind entry) table ∧
      lookup scheme (scheme.key entry) (updateAll scheme (front ++ entry :: back) table).2 =
        some entry) ∨
    (¬ Free scheme (scheme.key entry) (scheme.kind entry) table ∧
      lookup scheme (scheme.key entry) (updateAll scheme (front ++ entry :: back) table).2 =
        lookup scheme (scheme.key entry) table) := by
  have hbefore := lookup_updateAll_of_ne hfront table
  have hself := lookup_update_self hopen (updateAll scheme front table).2
  unfold Free at hself ⊢
  rw [hbefore] at hself
  rw [updateAll_append_snd, updateAll, lookup_updateAll_of_ne hback]
  exact hself

/-- Among updates of different keys, each one decides what is found under its key. -/
theorem lookup_updateAll_of_nodup {entries : List E} (hnodup : (entries.map scheme.key).Nodup)
    {entry : E} (hmem : entry ∈ entries) (hopen : scheme.closed (scheme.kind entry) = false)
    (table : List E) :
    (Free scheme (scheme.key entry) (scheme.kind entry) table ∧
      lookup scheme (scheme.key entry) (updateAll scheme entries table).2 = some entry) ∨
    (¬ Free scheme (scheme.key entry) (scheme.kind entry) table ∧
      lookup scheme (scheme.key entry) (updateAll scheme entries table).2 =
        lookup scheme (scheme.key entry) table) := by
  obtain ⟨front, back, rfl⟩ := List.append_of_mem hmem
  rw [List.map_append, List.map_cons, List.nodup_append] at hnodup
  obtain ⟨-, hentry, hfront⟩ := hnodup
  obtain ⟨hback, -⟩ := List.nodup_cons.mp hentry
  apply lookup_updateAll hopen
  · intro other hother
    exact hfront _ (List.mem_map_of_mem hother) _ List.mem_cons_self
  · intro other hother hkey
    apply hback
    rw [← hkey]
    exact List.mem_map_of_mem hother

theorem mem_map_key_update {entry : E} {table : List E} {key : K} :
    key ∈ (update scheme entry table).2.map scheme.key ↔
      key ∈ table.map scheme.key ∨ key = scheme.key entry := by
  by_cases hmem : scheme.key entry ∈ table.map scheme.key
  · rw [map_key_update_of_mem hmem]
    constructor
    · exact Or.inl
    · rintro (hkey | rfl)
      · exact hkey
      · exact hmem
  · rw [update_of_not_mem hmem, List.map_append, List.mem_append, List.map_singleton,
      List.mem_singleton]

theorem nodup_map_key_update {entry : E} {table : List E}
    (hnodup : (table.map scheme.key).Nodup) :
    ((update scheme entry table).2.map scheme.key).Nodup := by
  by_cases hmem : scheme.key entry ∈ table.map scheme.key
  · rwa [map_key_update_of_mem hmem]
  · rw [update_of_not_mem hmem, List.map_append, List.map_singleton]
    exact hnodup.append (List.nodup_singleton _) (by simpa using hmem)

theorem mem_map_key_updateAll {entries table : List E} {key : K} :
    key ∈ (updateAll scheme entries table).2.map scheme.key ↔
      key ∈ table.map scheme.key ∨ key ∈ entries.map scheme.key := by
  induction entries generalizing table with
  | nil => simp [updateAll]
  | cons entry later ih =>
      rw [updateAll, ih, mem_map_key_update, List.map_cons, List.mem_cons, or_assoc]

/-- Updates keep the keys apart. -/
theorem nodup_map_key_updateAll {entries table : List E}
    (hnodup : (table.map scheme.key).Nodup) :
    ((updateAll scheme entries table).2.map scheme.key).Nodup := by
  induction entries generalizing table with
  | nil => exact hnodup
  | cons entry later ih => exact ih (nodup_map_key_update hnodup)

/-- The labels of the table stay, those of new keys follow in the order of the entries. -/
theorem map_label_updateAll (entries table : List E) :
    (updateAll scheme entries table).2.map scheme.label =
      table.map scheme.label ++ firstLabels scheme (table.map scheme.key) entries := by
  induction entries generalizing table with
  | nil => simp [updateAll, firstLabels]
  | cons entry later ih =>
      rw [updateAll, ih, firstLabels]
      by_cases hmem : scheme.key entry ∈ table.map scheme.key
      · rw [if_pos hmem, map_label_update_of_mem hmem, map_key_update_of_mem hmem]
      · rw [if_neg hmem, update_of_not_mem hmem, List.map_append, List.map_append,
          List.map_singleton, List.map_singleton, List.append_assoc, List.singleton_append]

theorem Leads.of_mem {front back later : List E} {entry : E}
    (hleads : Leads scheme front back (entry :: later))
    (hmem : scheme.key entry ∈ front.map scheme.key) :
    Leads scheme (update scheme entry front).2 back later := by
  rw [Leads, firstLabels, if_pos hmem] at hleads
  rwa [Leads, map_key_update_of_mem hmem]

/-- Entries that come anyway need not be there before. -/
theorem updateAll_append {front back entries : List E}
    (hleads : Leads scheme front back entries)
    (hopen : ∀ entry ∈ back, scheme.closed (scheme.kind entry) = false) :
    (updateAll scheme entries (front ++ back)).2 = (updateAll scheme entries front).2 := by
  induction entries generalizing front back with
  | nil =>
      have hnil : back = [] := by simpa [Leads, firstLabels] using hleads
      rw [hnil, List.append_nil]
  | cons entry later ih =>
      rw [updateAll, updateAll]
      by_cases hmem : scheme.key entry ∈ front.map scheme.key
      · rw [update_append_of_mem back hmem]
        exact ih (hleads.of_mem hmem) hopen
      · rw [update_append_of_not_mem back hmem, update_of_not_mem hmem]
        cases back with
        | nil => rfl
        | cons first back =>
            obtain ⟨hlabel, hback⟩ := hleads.of_not_mem hmem
            have hnext := ih hback fun other hother =>
              hopen other (List.mem_cons_of_mem first hother)
            rw [update_cons_of_label hlabel, if_neg (by simp [hopen first List.mem_cons_self])]
            simpa only [List.append_assoc, List.singleton_append] using hnext

/-- Those of a closed kind are refused once more each than without them. -/
theorem refusals_updateAll_append {front twin back entries : List E}
    (htwin : twin.map scheme.label = front.map scheme.label)
    (hleads : Leads scheme front back entries) :
    refusals (updateAll scheme entries (twin ++ back)).1 =
      refusals (updateAll scheme entries front).1 +
        back.countP fun entry => scheme.closed (scheme.kind entry) := by
  induction entries generalizing front twin back with
  | nil =>
      have hnil : back = [] := by simpa [Leads, firstLabels] using hleads
      rw [hnil]
      rfl
  | cons entry later ih =>
      have hkeys := map_key_eq_of_map_label_eq scheme htwin
      by_cases hmem : scheme.key entry ∈ front.map scheme.key
      · have htwinMem : scheme.key entry ∈ twin.map scheme.key := hkeys ▸ hmem
        have htwins : (update scheme entry twin).2.map scheme.label =
            (update scheme entry front).2.map scheme.label := by
          rw [map_label_update_of_mem htwinMem, map_label_update_of_mem hmem, htwin]
        have hnext := ih htwins (hleads.of_mem hmem)
        simp only [updateAll, update_append_of_mem back htwinMem,
          update_fst_eq_of_map_label_eq htwin, refusals, List.count_cons] at hnext ⊢
        omega
      · have htwinNew : scheme.key entry ∉ twin.map scheme.key := hkeys ▸ hmem
        have hsame : ∀ stored, scheme.label stored = scheme.label entry →
            (twin ++ [stored]).map scheme.label = (front ++ [entry]).map scheme.label := by
          intro stored hstored
          rw [List.map_append, List.map_append, htwin, List.map_singleton, List.map_singleton,
            hstored]
        simp only [updateAll, update_append_of_not_mem back htwinNew, update_of_not_mem hmem]
        cases back with
        | nil =>
            have hnone : Leads scheme (front ++ [entry]) [] later := List.nil_prefix
            simpa [update, refusals, List.count_cons] using ih (hsame entry rfl) hnone
        | cons first back =>
            obtain ⟨hlabel, hback⟩ := hleads.of_not_mem hmem
            have hnext : ∀ stored, scheme.label stored = scheme.label entry →
                refusals (updateAll scheme later (twin ++ stored :: back)).1 =
                  refusals (updateAll scheme later (front ++ [entry])).1 +
                    back.countP fun entry => scheme.closed (scheme.kind entry) := by
              intro stored hstored
              simpa only [List.append_assoc, List.singleton_append] using
                ih (hsame stored hstored) hback
            rw [update_cons_of_label hlabel, List.countP_cons]
            cases hclosed : scheme.closed (scheme.kind first) with
            | false => simpa [refusals, List.count_cons] using hnext entry rfl
            | true =>
                have hstored := hnext first hlabel
                simp only [refusals, List.count_cons, ↓reduceIte, beq_self_eq_true,
                  reduceCtorEq, beq_iff_eq] at hstored ⊢
                omega

/-- Entries may be left out of a table that is updated exactly when their labels are the
first ones to come and none of them is of a closed kind. -/
theorem updateAll_eq_of_empty_iff {table entries : List E} :
    ((updateAll scheme entries table).2 = (updateAll scheme entries []).2 ∧
        refusals (updateAll scheme entries table).1 =
          refusals (updateAll scheme entries []).1) ↔
      table.map scheme.label <+: firstLabels scheme [] entries ∧
        ∀ entry ∈ table, scheme.closed (scheme.kind entry) = false := by
  constructor
  · rintro ⟨htable, hrefusals⟩
    have hlabels := congrArg (List.map scheme.label) htable
    rw [map_label_updateAll, map_label_updateAll, List.map_nil, List.nil_append] at hlabels
    have hleads : Leads scheme [] table entries := ⟨_, hlabels⟩
    have hcount := refusals_updateAll_append (List.map_nil.trans List.map_nil.symm) hleads
    rw [List.nil_append] at hcount
    have hnone : table.countP (fun entry => scheme.closed (scheme.kind entry)) = 0 := by omega
    refine ⟨hleads, fun entry hentry => ?_⟩
    simpa using List.countP_eq_zero.mp hnone entry hentry
  · rintro ⟨hlabels, hopen⟩
    have hleads : Leads scheme [] table entries := hlabels
    have hcount := refusals_updateAll_append (List.map_nil.trans List.map_nil.symm) hleads
    have hnone : table.countP (fun entry => scheme.closed (scheme.kind entry)) = 0 :=
      List.countP_eq_zero.mpr fun entry hentry => by simp [hopen entry hentry]
    rw [List.nil_append] at hcount
    exact ⟨updateAll_append hleads hopen, by omega⟩

/-- New keys put their entries at the end, as they come. -/
theorem updateAll_of_nodup {entries table : List E}
    (hnodup : ((table ++ entries).map scheme.key).Nodup) :
    (updateAll scheme entries table).2 = table ++ entries := by
  induction entries generalizing table with
  | nil => exact (List.append_nil table).symm
  | cons entry later ih =>
      have hkeys : table ++ entry :: later = table ++ [entry] ++ later := by simp
      rw [hkeys] at hnodup ⊢
      have hfront := hnodup
      rw [List.map_append, List.map_append, List.map_singleton] at hfront
      have hnew : scheme.key entry ∉ table.map scheme.key := fun hmem =>
        (List.nodup_append.mp (List.nodup_append.mp hfront).1).2.2 _ hmem _
          (List.mem_singleton_self _) rfl
      rw [updateAll, update_of_not_mem hnew]
      exact ih hnodup

/-- An update is not seen among the other keys. -/
theorem filter_update {own : K → Bool} {entry : E} (hown : own (scheme.key entry) = true)
    (table : List E) :
    (update scheme entry table).2.filter (fun other => !own (scheme.key other)) =
      table.filter (fun other => !own (scheme.key other)) := by
  have hskips : ∀ other tail, scheme.key other = scheme.key entry →
      (other :: tail).filter (fun other => !own (scheme.key other)) =
        tail.filter (fun other => !own (scheme.key other)) := by
    intro other tail hkey
    rw [List.filter_cons_of_neg (by simp [hkey, hown])]
  induction table with
  | nil => exact hskips entry [] rfl
  | cons first rest ih =>
      rw [update]
      by_cases hkey : scheme.key first = scheme.key entry
      · rw [if_pos hkey, hskips first rest hkey]
        split
        · exact hskips entry rest rfl
        · exact hskips first rest hkey
      · rw [if_neg hkey, List.filter_cons, List.filter_cons, ih]

/-- The table begins with the entries of `base`, all under their labels and unchanged but
for the keys in `own`; what is behind them is under such keys only. -/
def Carries (scheme : Scheme E K T) (own : K → Bool) (base table : List E) : Prop :=
  ∃ front back, table = front ++ back ∧
    front.map scheme.label = base.map scheme.label ∧
    front.filter (fun entry => !own (scheme.key entry)) =
      base.filter (fun entry => !own (scheme.key entry)) ∧
    ∀ entry ∈ back, own (scheme.key entry) = true

omit [DecidableEq K] [DecidableEq T] in
theorem Carries.refl (own : K → Bool) (base : List E) : Carries scheme own base base :=
  ⟨base, [], (List.append_nil base).symm, rfl, rfl, List.forall_mem_nil _⟩

theorem Carries.update {own : K → Bool} {base table : List E} {entry : E}
    (hcarries : Carries scheme own base table) (hown : own (scheme.key entry) = true) :
    Carries scheme own base (KeyedTable.update scheme entry table).2 := by
  obtain ⟨front, back, rfl, hlabels, hkept, hback⟩ := hcarries
  by_cases hmem : scheme.key entry ∈ front.map scheme.key
  · rw [update_append_of_mem back hmem]
    exact ⟨_, back, rfl, (map_label_update_of_mem hmem).trans hlabels,
      (filter_update hown front).trans hkept, hback⟩
  · rw [update_append_of_not_mem back hmem]
    refine ⟨front, _, rfl, hlabels, hkept, ?_⟩
    intro other hother
    rcases eq_or_mem_of_mem_update hother with rfl | hold
    · exact hown
    · exact hback other hold

end KeyedTable
