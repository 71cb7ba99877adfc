import Mathlib.Data.List.Nodup

/-!
# Tables

A table keeps its rows under primary keys that a counter hands out, so a key
belongs to at most one row and is never used again.  Rows are inserted,
rewritten and deleted; a selection lists the rows that satisfy a condition.
-/

namespace ConcertTicketing

universe u v

/-- Rows under distinct keys, all of them below the next key. -/
structure Table (ρ : Type u) where
  rows : List (Nat × ρ)
  nextKey : Nat
  below : ∀ entry ∈ rows, entry.1 < nextKey
  distinct : (rows.map Prod.fst).Nodup

namespace Table

variable {ρ : Type u}

def empty : Table ρ where
  rows := []
  nextKey := 0
  below := by simp
  distinct := List.nodup_nil

/-- `INSERT` of one row. -/
def insert (table : Table ρ) (row : ρ) : Table ρ where
  rows := table.rows ++ [(table.nextKey, row)]
  nextKey := table.nextKey + 1
  below := by
    intro entry member
    rcases List.mem_append.mp member with old | new
    · exact Nat.lt_succ_of_lt (table.below entry old)
    · rw [List.mem_singleton.mp new]
      exact Nat.lt_succ_self table.nextKey
  distinct := by
    rw [List.map_append]
    refine List.nodup_append.mpr
      ⟨table.distinct, List.nodup_singleton table.nextKey, ?_⟩
    intro key member other last same
    obtain ⟨entry, old, rfl⟩ := List.mem_map.mp member
    rw [List.mem_singleton.mp last] at same
    exact Nat.ne_of_lt (table.below entry old) same

/-- `INSERT` of several rows. -/
def insertMany (table : Table ρ) (rows : List ρ) : Table ρ :=
  rows.foldl insert table

/-- `UPDATE` of all rows. -/
def mapRows (table : Table ρ) (change : Nat → ρ → ρ) : Table ρ where
  rows := table.rows.map fun entry => (entry.1, change entry.1 entry.2)
  nextKey := table.nextKey
  below := by
    intro entry member
    obtain ⟨before, old, rfl⟩ := List.mem_map.mp member
    exact table.below before old
  distinct := by
    rw [List.map_map]
    exact table.distinct

/-- `UPDATE` of the row with the key. -/
def modify (table : Table ρ) (key : Nat) (change : ρ → ρ) : Table ρ :=
  table.mapRows fun other row => if other = key then change row else row

/-- `DELETE` of the row with the key. -/
def erase (table : Table ρ) (key : Nat) : Table ρ where
  rows := table.rows.filter fun entry => decide (entry.1 ≠ key)
  nextKey := table.nextKey
  below := by
    intro entry member
    exact table.below entry (List.mem_of_mem_filter member)
  distinct := table.distinct.sublist (List.filter_sublist.map Prod.fst)

def view {σ : Type v} (table : Table ρ) (shows : Nat → ρ → σ) : Table σ where
  rows := table.rows.map fun entry => (entry.1, shows entry.1 entry.2)
  nextKey := table.nextKey
  below := by
    intro entry member
    obtain ⟨before, old, rfl⟩ := List.mem_map.mp member
    exact table.below before old
  distinct := by
    rw [List.map_map]
    exact table.distinct

def find? (table : Table ρ) (key : Nat) : Option ρ :=
  (table.rows.find? fun entry => decide (entry.1 = key)).map Prod.snd

def select (table : Table ρ) (condition : ρ → Bool) : List (Nat × ρ) :=
  table.rows.filter fun entry => condition entry.2

theorem find?_eq_some {table : Table ρ} {key : Nat} {row : ρ} :
    table.find? key = some row ↔ (key, row) ∈ table.rows := by
  constructor
  · intro found
    obtain ⟨⟨same, other⟩, first, rfl⟩ := Option.map_eq_some_iff.mp found
    have equal : same = key := by
      simpa using List.find?_some first
    subst same
    exact List.mem_of_find?_eq_some first
  · intro member
    have matching : ∃ entry ∈ table.rows, decide (entry.1 = key) = true :=
      ⟨(key, row), member, decide_eq_true rfl⟩
    obtain ⟨⟨same, other⟩, first⟩ :=
      Option.isSome_iff_exists.mp (List.find?_isSome.mpr matching)
    have equal : same = key := by
      simpa using List.find?_some first
    subst same
    have both : (key, other) = (key, row) :=
      List.inj_on_of_nodup_map table.distinct
        (List.mem_of_find?_eq_some first) member rfl
    rw [find?, first, both]
    rfl

theorem unique {table : Table ρ} {key : Nat} {row other : ρ}
    (member : (key, row) ∈ table.rows)
    (otherMember : (key, other) ∈ table.rows) : row = other :=
  Option.some.inj
    ((find?_eq_some.mpr member).symm.trans (find?_eq_some.mpr otherMember))

theorem find?_insert {table : Table ρ} {key : Nat} {row : ρ}
    (found : table.find? key = some row) (new : ρ) :
    (table.insert new).find? key = some row :=
  find?_eq_some.mpr (List.mem_append_left _ (find?_eq_some.mp found))

theorem mem_select {table : Table ρ} {condition : ρ → Bool} {key : Nat}
    {row : ρ} :
    (key, row) ∈ table.select condition ↔
      (key, row) ∈ table.rows ∧ condition row = true :=
  List.mem_filter

theorem mem_insert {table : Table ρ} {new row : ρ} {key : Nat} :
    (key, row) ∈ (table.insert new).rows ↔
      (key, row) ∈ table.rows ∨ (key = table.nextKey ∧ row = new) := by
  simp only [insert, List.mem_append, List.mem_singleton, Prod.mk.injEq]

theorem mem_insertMany {new : List ρ} {table : Table ρ} {key : Nat} {row : ρ}
    (member : (key, row) ∈ (table.insertMany new).rows) :
    (key, row) ∈ table.rows ∨ row ∈ new := by
  induction new generalizing table with
  | nil => exact Or.inl member
  | cons first rest inductionHypothesis =>
      rcases inductionHypothesis member with earlier | later
      · rcases mem_insert.mp earlier with old | ⟨_, rfl⟩
        · exact Or.inl old
        · exact Or.inr List.mem_cons_self
      · exact Or.inr (List.mem_cons_of_mem first later)

theorem mem_insertMany_of_mem (new : List ρ) {table : Table ρ}
    {entry : Nat × ρ} (member : entry ∈ table.rows) :
    entry ∈ (table.insertMany new).rows := by
  induction new generalizing table with
  | nil => exact member
  | cons first rest inductionHypothesis =>
      exact inductionHypothesis (List.mem_append_left _ member)

theorem exists_mem_insertMany {new : List ρ} (table : Table ρ) {row : ρ}
    (member : row ∈ new) :
    ∃ key, (key, row) ∈ (table.insertMany new).rows := by
  induction new generalizing table with
  | nil => cases member
  | cons first rest inductionHypothesis =>
      rcases List.mem_cons.mp member with rfl | later
      · exact ⟨table.nextKey, mem_insertMany_of_mem rest
          (mem_insert.mpr (Or.inr ⟨rfl, rfl⟩))⟩
      · exact inductionHypothesis (table.insert first) later

theorem mem_mapRows {table : Table ρ} {change : Nat → ρ → ρ} {key : Nat}
    {row : ρ} :
    (key, row) ∈ (table.mapRows change).rows ↔
      ∃ before, (key, before) ∈ table.rows ∧ change key before = row := by
  constructor
  · intro member
    obtain ⟨⟨same, before⟩, old, equal⟩ := List.mem_map.mp member
    cases equal
    exact ⟨before, old, rfl⟩
  · rintro ⟨before, old, rfl⟩
    exact List.mem_map.mpr ⟨(key, before), old, rfl⟩

theorem mem_modify {table : Table ρ} {key other : Nat} {change : ρ → ρ}
    {row : ρ} :
    (other, row) ∈ (table.modify key change).rows ↔
      ∃ before, (other, before) ∈ table.rows ∧
        (if other = key then change before else before) = row :=
  mem_mapRows

theorem find?_modify (table : Table ρ) (key other : Nat) (change : ρ → ρ) :
    (table.modify key change).find? other =
      (table.find? other).map fun row =>
        if other = key then change row else row := by
  apply Option.ext
  intro row
  rw [Option.map_eq_some_iff, find?_eq_some, mem_modify]
  simp only [find?_eq_some]

theorem mem_erase {table : Table ρ} {key other : Nat} {row : ρ} :
    (other, row) ∈ (table.erase key).rows ↔
      (other, row) ∈ table.rows ∧ other ≠ key := by
  simp only [erase, List.mem_filter, decide_eq_true_eq]

theorem find?_erase_self (table : Table ρ) (key : Nat) :
    (table.erase key).find? key = none := by
  apply Option.eq_none_iff_forall_ne_some.mpr
  intro row found
  exact (mem_erase.mp (find?_eq_some.mp found)).2 rfl

theorem find?_view {σ : Type v} (table : Table ρ) (shows : Nat → ρ → σ)
    (key : Nat) :
    (table.view shows).find? key = (table.find? key).map (shows key) := by
  have matching :
      (fun entry : Nat × σ => decide (entry.1 = key)) ∘
          (fun entry : Nat × ρ => (entry.1, shows entry.1 entry.2)) =
        fun entry => decide (entry.1 = key) := rfl
  rw [find?, view, List.find?_map, matching, find?, Option.map_map,
    Option.map_map]
  cases found : table.rows.find? fun entry => decide (entry.1 = key) with
  | none => rfl
  | some entry =>
      have same : entry.1 = key := by
        simpa using List.find?_some found
      rw [Option.map_some, Option.map_some, Function.comp, Function.comp,
        same]

/-! ## Selections -/

theorem select_view {σ : Type v} (table : Table ρ) (shows : Nat → ρ → σ)
    (condition : σ → Bool) :
    (table.view shows).select condition =
      (table.rows.filter fun entry =>
        condition (shows entry.1 entry.2)).map
          fun entry => (entry.1, shows entry.1 entry.2) := by
  rw [select, view, List.filter_map]
  rfl

theorem select_insert (table : Table ρ) (new : ρ) (condition : ρ → Bool)
    (other : condition new = false) :
    (table.insert new).select condition = table.select condition := by
  simp only [select, insert, List.filter_append, List.filter_cons, other,
    Bool.false_eq_true, if_false, List.filter_nil, List.append_nil]

theorem select_insertMany {new : List ρ} {condition : ρ → Bool}
    (others : ∀ row ∈ new, condition row = false) (table : Table ρ) :
    (table.insertMany new).select condition = table.select condition := by
  induction new generalizing table with
  | nil => rfl
  | cons first rest inductionHypothesis =>
      have parts := List.forall_mem_cons.mp others
      exact (inductionHypothesis parts.2 (table.insert first)).trans
        (table.select_insert first condition parts.1)

/-- The selected rows behind an insertion: the earlier ones, then the new
ones. -/
theorem map_snd_select_insertMany (new : List ρ) (table : Table ρ)
    (condition : ρ → Bool) :
    ((table.insertMany new).select condition).map Prod.snd =
      (table.select condition).map Prod.snd ++ new.filter condition := by
  induction new generalizing table with
  | nil => exact (List.append_nil _).symm
  | cons first rest inductionHypothesis =>
      have inserted : ((table.insert first).select condition).map Prod.snd =
          (table.select condition).map Prod.snd ++
            [first].filter condition := by
        simp only [select, insert, List.filter_append, List.map_append]
        by_cases selected : condition first = true
        · simp [selected]
        · simp [selected]
      calc
        (((table.insert first).insertMany rest).select condition).map
            Prod.snd
            = ((table.insert first).select condition).map Prod.snd ++
                rest.filter condition := inductionHypothesis _
        _ = (table.select condition).map Prod.snd ++
              (first :: rest).filter condition := by
          rw [inserted, List.append_assoc, ← List.filter_append,
            List.singleton_append]

/-- A view of the selected rows that no change shows in. -/
theorem select_mapRows {β : Type u} {table : Table ρ}
    {change : Nat → ρ → ρ} {condition : ρ → Bool} (view : ρ → β)
    (stays : ∀ entry ∈ table.rows,
      condition (change entry.1 entry.2) = condition entry.2)
    (unseen : ∀ entry ∈ table.rows, condition entry.2 = true →
      view (change entry.1 entry.2) = view entry.2) :
    ((table.mapRows change).select condition).map
        (fun entry => (entry.1, view entry.2)) =
      (table.select condition).map
        (fun entry => (entry.1, view entry.2)) := by
  have kept :
      (table.rows.filter fun entry => condition (change entry.1 entry.2)) =
        table.rows.filter fun entry => condition entry.2 :=
    List.filter_congr stays
  simp only [select, mapRows, List.filter_map, List.map_map]
  change List.map _ (table.rows.filter fun entry =>
    condition (change entry.1 entry.2)) = _
  rw [kept]
  refine List.map_congr_left ?_
  intro entry member
  obtain ⟨old, selected⟩ := List.mem_filter.mp member
  simp only [Function.comp, unseen entry old selected]

/-- A change of other rows than the selected ones. -/
theorem select_mapRows_eq {table : Table ρ} {change : Nat → ρ → ρ}
    {condition : ρ → Bool}
    (stays : ∀ entry ∈ table.rows,
      condition (change entry.1 entry.2) = condition entry.2)
    (unseen : ∀ entry ∈ table.rows, condition entry.2 = true →
      change entry.1 entry.2 = entry.2) :
    (table.mapRows change).select condition = table.select condition := by
  have viewed := select_mapRows id stays unseen
  simpa using viewed

/-- A change of one row that is not selected, before or after. -/
theorem select_modify {table : Table ρ} {key : Nat} {change : ρ → ρ}
    {condition : ρ → Bool}
    (stays : ∀ row, condition (change row) = condition row)
    (other : ∀ row, (key, row) ∈ table.rows → condition row = false) :
    (table.modify key change).select condition = table.select condition := by
  apply select_mapRows_eq
  · intro entry member
    split
    · exact stays entry.2
    · rfl
  · rintro ⟨found, row⟩ member selected
    by_cases same : found = key
    · subst found
      rw [other row member] at selected
      cases selected
    · exact if_neg same

theorem select_erase {table : Table ρ} {key : Nat} {condition : ρ → Bool}
    (other : ∀ row, (key, row) ∈ table.rows → condition row = false) :
    (table.erase key).select condition = table.select condition := by
  simp only [select, erase, List.filter_filter]
  refine List.filter_congr ?_
  rintro ⟨found, row⟩ member
  by_cases same : found = key
  · subst found
    simp [other row member]
  · simp [same]

end Table

end ConcertTicketing
