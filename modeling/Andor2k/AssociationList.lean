/-
Association lists whose rows remember the kind their key was first inserted with: what a
keyed table is for, said by lookup instead of by a search through its entries.
-/
import Andor2k.KeyedTable

namespace AssociationList

open KeyedTable (Outcome Scheme)

universe u v w x

/-- A key with the kind of its first insertion and the content of its last one. -/
structure Row (K : Type v) (T : Type w) (C : Type x) where
  key : K
  kind : T
  content : C
deriving DecidableEq, Repr

variable {E : Type u} {K : Type v} {T : Type w} {C : Type x}

/-- An entry as a row: its kind is the one of the first insertion. -/
def rowOf (scheme : Scheme E K T) (content : E → C) (entry : E) : Row K T C :=
  ⟨scheme.key entry, scheme.kind entry, content entry⟩

theorem map_key_map_rowOf {scheme : Scheme E K T} {content : E → C} (table : List E) :
    (table.map (rowOf scheme content)).map Row.key = table.map scheme.key := by
  rw [List.map_map]
  rfl

variable [DecidableEq K]

def assign (key : K) (content : C) (rows : List (Row K T C)) : List (Row K T C) :=
  rows.map fun row => if row.key = key then { row with content := content } else row

theorem assign_of_not_mem {key : K} {content : C} {rows : List (Row K T C)}
    (hnew : key ∉ rows.map Row.key) : assign key content rows = rows := by
  rw [assign]
  conv => rhs; rw [← List.map_id rows]
  apply List.map_congr_left
  intro row hrow
  apply if_neg
  rintro rfl
  exact hnew (List.mem_map_of_mem hrow)

variable [DecidableEq T]

/-- A new key goes to the end; the row of a known one takes the content, if the kind is
the one it has. -/
def put (added : Row K T C) (rows : List (Row K T C)) : Outcome × List (Row K T C) :=
  match rows.find? fun row => row.key = added.key with
  | none => (.added, rows ++ [added])
  | some row =>
      if row.kind = added.kind then (.replaced, assign added.key added.content rows)
      else (.refused, rows)

/-- One after the other: what became of each, and the rows. -/
def putAll : List (Row K T C) → List (Row K T C) → List Outcome × List (Row K T C)
  | [], rows => ([], rows)
  | added :: later, rows =>
      let outcome := (put added rows).1
      let rest := putAll later (put added rows).2
      (outcome :: rest.1, rest.2)

theorem put_cons_of_key {added first : Row K T C} {rest : List (Row K T C)}
    (hkey : first.key = added.key) (hnew : added.key ∉ rest.map Row.key) :
    put added (first :: rest) =
      if first.kind = added.kind then (.replaced, { first with content := added.content } :: rest)
      else (.refused, first :: rest) := by
  have hfind : (first :: rest).find? (fun row => row.key = added.key) = some first :=
    List.find?_cons_of_pos (decide_eq_true hkey)
  have hassign : assign added.key added.content (first :: rest) =
      { first with content := added.content } :: assign added.key added.content rest := by
    rw [assign, List.map_cons, if_pos hkey]
    rfl
  rw [put, hfind, hassign, assign_of_not_mem hnew]

theorem put_cons_of_ne {added first : Row K T C} {rest : List (Row K T C)}
    (hother : first.key ≠ added.key) :
    put added (first :: rest) = ((put added rest).1, first :: (put added rest).2) := by
  have hfind : (first :: rest).find? (fun row => row.key = added.key) =
      rest.find? fun row => row.key = added.key :=
    List.find?_cons_of_neg (by simpa using hother)
  have hassign : assign added.key added.content (first :: rest) =
      first :: assign added.key added.content rest := by
    rw [assign, List.map_cons, if_neg hother]
    rfl
  rw [put, put, hfind, hassign]
  cases rest.find? fun row => row.key = added.key with
  | none => rfl
  | some row =>
      dsimp only
      split
      · rfl
      · rfl

/-- An update refines the insertion: by its outcome, and by the rows of the table. -/
theorem put_map_rowOf {scheme : Scheme E K T} {content : E → C} {entry : E} {table : List E}
    (hopen : scheme.closed (scheme.kind entry) = false)
    (hnodup : (table.map scheme.key).Nodup) :
    put (rowOf scheme content entry) (table.map (rowOf scheme content)) =
      ((KeyedTable.update scheme entry table).1,
        (KeyedTable.update scheme entry table).2.map (rowOf scheme content)) := by
  induction table with
  | nil => rfl
  | cons first rest ih =>
      obtain ⟨hfirst, hrest⟩ := List.nodup_cons.mp hnodup
      rw [KeyedTable.update, List.map_cons]
      by_cases hkey : scheme.key first = scheme.key entry
      · have hsame : (rowOf scheme content first).key = (rowOf scheme content entry).key := hkey
        have hnew : (rowOf scheme content entry).key ∉
            (rest.map (rowOf scheme content)).map Row.key := by
          rw [map_key_map_rowOf, ← hsame]
          exact hfirst
        rw [if_pos hkey, put_cons_of_key hsame hnew]
        by_cases hkind : scheme.kind first = scheme.kind entry
        · have hreplaces : scheme.kind first = scheme.kind entry ∧
              scheme.closed (scheme.kind first) = false := ⟨hkind, hkind ▸ hopen⟩
          have hsameKind : (rowOf scheme content first).kind = (rowOf scheme content entry).kind :=
            hkind
          rw [if_pos hreplaces, if_pos hsameKind, List.map_cons]
          simp only [rowOf, hkey, hkind]
        · have hrefuses : ¬ (scheme.kind first = scheme.kind entry ∧
              scheme.closed (scheme.kind first) = false) := fun hboth => hkind hboth.1
          rw [if_neg hrefuses]
          exact if_neg hkind
      · have hother : (rowOf scheme content first).key ≠ (rowOf scheme content entry).key := hkey
        rw [if_neg hkey, put_cons_of_ne hother, ih hrest]
        rfl

/-- Hence a run of updates refines a run of insertions. -/
theorem putAll_map_rowOf {scheme : Scheme E K T} {content : E → C} {entries table : List E}
    (hopen : ∀ entry ∈ entries, scheme.closed (scheme.kind entry) = false)
    (hnodup : (table.map scheme.key).Nodup) :
    putAll (entries.map (rowOf scheme content)) (table.map (rowOf scheme content)) =
      ((KeyedTable.updateAll scheme entries table).1,
        (KeyedTable.updateAll scheme entries table).2.map (rowOf scheme content)) := by
  induction entries generalizing table with
  | nil => rfl
  | cons entry later ih =>
      obtain ⟨hentry, hlater⟩ := List.forall_mem_cons.mp hopen
      rw [List.map_cons, putAll, put_map_rowOf hentry hnodup,
        ih hlater (KeyedTable.nodup_map_key_update hnodup)]
      rfl

theorem eraseDups_of_nodup {A : Type v} [BEq A] [LawfulBEq A] {keys : List A}
    (hnodup : keys.Nodup) : keys.eraseDups = keys := by
  induction keys with
  | nil => rfl
  | cons key rest ih =>
      obtain ⟨hkey, hrest⟩ := List.nodup_cons.mp hnodup
      have hfilter : rest.filter (fun other => !other == key) = rest := by
        rw [List.filter_eq_self]
        intro other hother
        have hne : other ≠ key := fun heq => hkey (heq ▸ hother)
        simpa using hne
      rw [List.eraseDups_cons, hfilter, ih hrest]

/-- A repeated key is not seen. -/
theorem eraseDups_append_cons_of_mem {A : Type v} [BEq A] [LawfulBEq A] {key : A}
    {front back : List A} (hmem : key ∈ front) :
    (front ++ key :: back).eraseDups = (front ++ back).eraseDups := by
  rw [List.eraseDups_append, List.eraseDups_append]
  congr 2
  rw [List.removeAll, List.removeAll, List.filter_cons_of_neg]
  simpa using hmem

/-- The keys stand in the order in which they first came. -/
theorem map_key_updateAll [BEq K] [LawfulBEq K] {scheme : Scheme E K T}
    {entries table : List E} (hnodup : (table.map scheme.key).Nodup) :
    (KeyedTable.updateAll scheme entries table).2.map scheme.key =
      (table.map scheme.key ++ entries.map scheme.key).eraseDups := by
  induction entries generalizing table with
  | nil =>
      rw [KeyedTable.updateAll, List.map_nil, List.append_nil, eraseDups_of_nodup hnodup]
  | cons entry later ih =>
      rw [KeyedTable.updateAll, ih (KeyedTable.nodup_map_key_update hnodup), List.map_cons]
      by_cases hmem : scheme.key entry ∈ table.map scheme.key
      · rw [KeyedTable.map_key_update_of_mem hmem, eraseDups_append_cons_of_mem hmem]
      · rw [KeyedTable.update_of_not_mem hmem, List.map_append, List.map_singleton,
          List.append_assoc, List.singleton_append]

end AssociationList
