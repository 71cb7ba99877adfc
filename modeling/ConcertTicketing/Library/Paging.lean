import ConcertTicketing.Library.Sorting
import Mathlib.Data.List.Range
import Mathlib.Data.List.Count
import Mathlib.Data.List.Perm.Basic

/-!
# Pages of a sorted list

A reader asks for one page after the other, and every page is cut out of an
answer of its own: the same rows, sorted anew.  Where the order leaves open
which row stands on which side of a page boundary, a row can be on two pages
and another one on none.  Where it does not, the pages partition the rows.
-/

namespace ConcertTicketing

universe u v

/-- An answer with `limit` rows at most, and the number of rows that there
are on all pages. -/
structure Page (ρ : Type u) where
  total : Nat
  page : Nat
  limit : Nat
  items : List ρ
  deriving DecidableEq, Repr

namespace Paging

variable {α : Type u}

/-- `OFFSET` and `LIMIT`. -/
def window (skip take : Nat) (list : List α) : List α :=
  (list.drop skip).take take

def readPages (pages : Nat → List α) (count : Nat) : List α :=
  (List.range count).flatMap pages

/-- So many pages have to be read for `total` items, and no more. -/
structure ReadsAll (pages : Nat → List α) (total count : Nat) : Prop where
  enough : total ≤ (readPages pages count).length
  needed : ∀ fewer < count, (readPages pages fewer).length < total

/-- Reading pages until there are `total` items gives every row once. -/
def Partitions (pages : Nat → List α) (total : Nat) (rows : List α) : Prop :=
  ∃ count, ReadsAll pages total count ∧ (readPages pages count).Perm rows

theorem readPages_succ (pages : Nat → List α) (count : Nat) :
    readPages pages (count + 1) = readPages pages count ++ pages count := by
  simp [readPages, List.range_succ]

theorem readPages_map {β : Type v} (pages : Nat → List α) (select : α → β)
    (count : Nat) :
    readPages (fun index => (pages index).map select) count =
      (readPages pages count).map select := by
  simp [readPages, List.map_flatMap]

theorem ReadsAll.map {β : Type v} {pages : Nat → List α} {total count : Nat}
    (reads : ReadsAll pages total count) (select : α → β) :
    ReadsAll (fun index => (pages index).map select) total count := by
  constructor
  · rw [readPages_map, List.length_map]
    exact reads.enough
  · intro fewer early
    rw [readPages_map, List.length_map]
    exact reads.needed fewer early

/-- The pages of one list, put together, are its beginning. -/
theorem readPages_window (list : List α) (limit count : Nat) :
    readPages (fun index => window (index * limit) limit list) count =
      list.take (count * limit) := by
  induction count with
  | zero => simp [readPages]
  | succ count inductionHypothesis =>
      rw [readPages_succ, inductionHypothesis, Nat.succ_mul, List.take_add]
      rfl

theorem readPages_perm {pages others : Nat → List α}
    (same : ∀ index, (pages index).Perm (others index)) (count : Nat) :
    (readPages pages count).Perm (readPages others count) := by
  induction count with
  | zero => exact List.Perm.refl _
  | succ count inductionHypothesis =>
      rw [readPages_succ, readPages_succ]
      exact inductionHypothesis.append (same count)

theorem length_window (skip take : Nat) (list : List α) :
    (window skip take list).length = min take (list.length - skip) := by
  simp [window]

/-- How many items have been read does not depend on the sorting. -/
theorem length_readPages_congr {pages others : Nat → List α}
    (same : ∀ index, (pages index).length = (others index).length)
    (count : Nat) :
    (readPages pages count).length = (readPages others count).length := by
  induction count with
  | zero => rfl
  | succ count inductionHypothesis =>
      rw [readPages_succ, readPages_succ, List.length_append,
        List.length_append, inductionHypothesis, same]

section Positions

variable {P : α → Bool} {list : List α}

/-- A condition that holds of whatever stands before one of its elements holds
up to a position. -/
theorem holds_iff_lt_countP
    (down : list.Pairwise fun first second => P second = true → P first = true)
    {index : Nat} {element : α} (found : list[index]? = some element) :
    P element = true ↔ index < list.countP P := by
  induction list generalizing index with
  | nil => cases found
  | cons head rest inductionHypothesis =>
      obtain ⟨headFirst, later⟩ := List.pairwise_cons.mp down
      by_cases holds : P head = true
      · cases index with
        | zero =>
            cases found
            simp [holds]
        | succ index =>
            have inRest : rest[index]? = some element := found
            rw [inductionHypothesis later inRest,
              List.countP_cons_of_pos holds]
            omega
      · have none : rest.countP P = 0 := by
          rw [List.countP_eq_zero]
          intro other member holdsOther
          exact holds (headFirst other member holdsOther)
        rw [List.countP_cons_of_neg holds, none]
        have fails : ¬ P element = true := by
          intro holdsElement
          rcases List.mem_cons.mp (List.mem_of_getElem? found) with
            same | member
          · rw [same] at holdsElement
            exact holds holdsElement
          · exact holds (headFirst element member holdsElement)
        simp [fails]

/-- A condition that holds up to a position selects the elements before it. -/
theorem filter_eq_take {boundary : Nat}
    (holds : ∀ index element, list[index]? = some element →
      (P element = true ↔ index < boundary)) :
    list.filter P = list.take boundary := by
  have front : (list.take boundary).filter P = list.take boundary := by
    rw [List.filter_eq_self]
    intro element member
    obtain ⟨index, found⟩ := List.mem_iff_getElem?.mp member
    rw [List.getElem?_take] at found
    split at found
    · next inside => exact (holds index element found).mpr inside
    · cases found
  have back : (list.drop boundary).filter P = [] := by
    rw [List.filter_eq_nil_iff]
    intro element member holdsElement
    obtain ⟨index, found⟩ := List.mem_iff_getElem?.mp member
    rw [List.getElem?_drop] at found
    have inside := (holds _ element found).mp holdsElement
    omega
  calc
    list.filter P = (list.take boundary ++ list.drop boundary).filter P := by
      rw [List.take_append_drop]
    _ = list.take boundary := by
      rw [List.filter_append, front, back, List.append_nil]

end Positions

section Ties

variable (le : α → α → Prop) [DecidableRel le]

/-- How many rows come strictly before the row. -/
def before (rows : List α) (row : α) : Nat :=
  rows.countP fun other => decide (¬ le row other)

/-- How many rows do not come after the row. -/
def upTo (rows : List α) (row : α) : Nat :=
  rows.countP fun other => decide (le other row)

/-- Rows that the order takes for equal stand on both sides of the boundary. -/
def Straddled (rows : List α) (boundary : Nat) : Prop :=
  ∃ row ∈ rows, before le rows row < boundary ∧ boundary < upTo le rows row

instance (rows : List α) (boundary : Nat) :
    Decidable (Straddled le rows boundary) :=
  inferInstanceAs (Decidable (∃ row ∈ rows, _))

variable {le} in
theorem not_straddled_of_length_le {rows : List α} {boundary : Nat}
    (short : rows.length ≤ boundary) : ¬ Straddled le rows boundary := by
  rintro ⟨row, _, _, ahead⟩
  have most : upTo le rows row ≤ rows.length := List.countP_le_length
  omega

variable {le} [IsTrans α le] {rows sorted : List α} {index : Nat}
  {element row : α}

theorem le_iff_lt_upTo (same : sorted.Perm rows)
    (ascending : sorted.Pairwise le) (found : sorted[index]? = some element)
    (row : α) : le element row ↔ index < upTo le rows row := by
  have down : sorted.Pairwise fun first second =>
      decide (le second row) = true → decide (le first row) = true := by
    refine ascending.imp ?_
    intro first second below holds
    exact decide_eq_true
      (IsTrans.trans _ _ _ below (of_decide_eq_true holds))
  rw [upTo, ← same.countP_eq, ← holds_iff_lt_countP down found,
    decide_eq_true_iff]

theorem not_le_iff_lt_before (same : sorted.Perm rows)
    (ascending : sorted.Pairwise le) (found : sorted[index]? = some element)
    (row : α) : ¬ le row element ↔ index < before le rows row := by
  have down : sorted.Pairwise fun first second =>
      decide (¬ le row second) = true → decide (¬ le row first) = true := by
    refine ascending.imp ?_
    intro first second below holds
    refine decide_eq_true fun above => ?_
    exact of_decide_eq_true holds (IsTrans.trans _ _ _ above below)
  rw [before, ← same.countP_eq, ← holds_iff_lt_countP down found,
    decide_eq_true_iff]

/-- Without a tie across the boundary, every sorting has the same rows in
front of it. -/
theorem take_perm [Std.Total le] {boundary : Nat}
    (settled : ¬ Straddled le rows boundary) (same : sorted.Perm rows)
    (ascending : sorted.Pairwise le) :
    (sorted.take boundary).Perm
      (rows.filter fun row => decide (upTo le rows row ≤ boundary)) := by
  rw [← filter_eq_take]
  · exact same.filter _
  · intro index element found
    have level : le element element := Std.Refl.refl element
    have within := (le_iff_lt_upTo same ascending found element).mp level
    have behind : before le rows element ≤ index := by
      by_contra beyond
      have strict := (not_le_iff_lt_before same ascending found element).mpr
        (Nat.lt_of_not_le beyond)
      exact strict level
    have member : element ∈ rows :=
      same.subset (List.mem_of_getElem? found)
    rw [decide_eq_true_iff]
    constructor
    · intro closed
      omega
    · intro inside
      by_contra beyond
      exact settled ⟨element, member, by omega, by omega⟩

/-- At a boundary with a tie across it, two neighbours can change places. -/
theorem exists_neighbours {boundary : Nat}
    (straddled : Straddled le rows boundary) (same : sorted.Perm rows)
    (ascending : sorted.Pairwise le) :
    ∃ front first second back,
      sorted = front ++ first :: second :: back ∧
        front.length + 1 = boundary ∧ le second first := by
  have inside : boundary < sorted.length := by
    by_contra short
    rw [Nat.not_lt, same.length_eq] at short
    exact not_straddled_of_length_le short straddled
  obtain ⟨row, _, behind, ahead⟩ := straddled
  have firstInside : boundary - 1 < sorted.length := by omega
  have firstFound : sorted[boundary - 1]? = some sorted[boundary - 1] :=
    List.getElem?_eq_getElem firstInside
  have secondFound : sorted[boundary]? = some sorted[boundary] :=
    List.getElem?_eq_getElem inside
  have secondBelow : le sorted[boundary] row :=
    (le_iff_lt_upTo same ascending secondFound row).mpr ahead
  have firstAbove : le row sorted[boundary - 1] := by
    by_contra notAbove
    have early :=
      (not_le_iff_lt_before same ascending firstFound row).mp notAbove
    omega
  refine ⟨sorted.take (boundary - 1), sorted[boundary - 1], sorted[boundary],
    sorted.drop (boundary + 1), ?_, ?_, ?_⟩
  · have next : boundary - 1 + 1 = boundary := by omega
    have cut : sorted.drop (boundary - 1) =
        sorted[boundary - 1] :: sorted.drop boundary := by
      rw [List.drop_eq_getElem_cons firstInside, next]
    rw [← List.drop_eq_getElem_cons inside, ← cut, List.take_append_drop]
  · rw [List.length_take]
    omega
  · exact IsTrans.trans _ _ _ secondBelow firstAbove

end Ties

/-! ## Pages of sorted answers -/

section Sorted

variable {le : α → α → Prop} {rows : List α} {limit : Nat}

def sortedPage (sortings : Nat → Sorting le) (limit : Nat) (rows : List α)
    (index : Nat) : List α :=
  window (index * limit) limit ((sortings index).sort rows)

theorem length_readPages_sortedPage (sortings : Nat → Sorting le)
    (count : Nat) :
    (readPages (sortedPage sortings limit rows) count).length =
      min (count * limit) rows.length := by
  have sameLengths : ∀ index,
      (sortedPage sortings limit rows index).length =
        (window (index * limit) limit rows).length := by
    intro index
    rw [sortedPage, length_window, length_window,
      ((sortings index).perm rows).length_eq]
  rw [length_readPages_congr sameLengths count, readPages_window,
    List.length_take]

/-- The reader comes to an end, and then all pages are read. -/
theorem exists_readsAll (positive : 0 < limit) (sortings : Nat → Sorting le) :
    ∃ count, ReadsAll (sortedPage sortings limit rows) rows.length count ∧
      rows.length ≤ count * limit := by
  have some : ∃ count, rows.length ≤ count * limit :=
    ⟨rows.length, Nat.le_mul_of_pos_right _ positive⟩
  refine ⟨Nat.find some, ⟨?_, ?_⟩, Nat.find_spec some⟩
  · rw [length_readPages_sortedPage]
    exact le_min (Nat.find_spec some) le_rfl
  · intro fewer early
    rw [length_readPages_sortedPage]
    have missing := Nat.find_min some early
    omega

/-- Two neighbours that the order takes for equal can change places. -/
theorem pairwise_swap {front back : List α} {first second : α}
    (ascending : (front ++ first :: second :: back).Pairwise le)
    (below : le second first) :
    (front ++ second :: first :: back).Pairwise le := by
  obtain ⟨inFront, rest, across⟩ := List.pairwise_append.mp ascending
  obtain ⟨firstBelow, later⟩ := List.pairwise_cons.mp rest
  obtain ⟨secondBelow, inBack⟩ := List.pairwise_cons.mp later
  refine List.pairwise_append.mpr ⟨inFront, ?_, ?_⟩
  · refine List.pairwise_cons.mpr ⟨?_, List.pairwise_cons.mpr ⟨?_, inBack⟩⟩
    · intro other member
      rcases List.mem_cons.mp member with rfl | member
      · exact below
      · exact secondBelow other member
    · intro other member
      exact firstBelow other (List.mem_cons_of_mem _ member)
  · intro early inEarly late inLate
    have swap : (second :: first :: back).Perm (first :: second :: back) :=
      List.Perm.swap first second back
    exact across early inEarly late (swap.subset inLate)

variable [DecidableRel le] [Std.Total le] [IsTrans α le]

/-- Between settled boundaries every sorting has the same rows. -/
theorem sortedPage_perm
    (settled : ∀ number, ¬ Straddled le rows (number * limit))
    (sortings others : Nat → Sorting le) (index : Nat) :
    (sortedPage sortings limit rows index).Perm
      (sortedPage others limit rows index) := by
  have take_sort : ∀ (number : Nat) (first second : Sorting le),
      ((first.sort rows).take (number * limit)).Perm
        ((second.sort rows).take (number * limit)) := by
    intro number first second
    exact (take_perm (settled number) (first.perm rows)
      (first.ascending rows)).trans
        (take_perm (settled number) (second.perm rows)
          (second.ascending rows)).symm
  have front := take_sort index (sortings index) (others index)
  have both := take_sort (index + 1) (sortings index) (others index)
  rw [Nat.succ_mul, List.take_add, List.take_add] at both
  exact (List.perm_append_left_iff _).mp
    (both.trans (front.symm.append_right _))

theorem readPages_perm_rows
    (settled : ∀ number, ¬ Straddled le rows (number * limit))
    (sortings : Nat → Sorting le) {count : Nat}
    (enough : rows.length ≤ count * limit) :
    (readPages (sortedPage sortings limit rows) count).Perm rows := by
  have one := readPages_perm
    (sortedPage_perm settled sortings fun _ => sortings 0) count
  have whole : readPages
      (sortedPage (fun _ => sortings 0) limit rows) count =
        ((sortings 0).sort rows).take (count * limit) :=
    readPages_window _ limit count
  rw [whole, List.take_of_length_le] at one
  · exact one.trans ((sortings 0).perm rows)
  · rw [((sortings 0).perm rows).length_eq]
    exact enough

theorem mem_take_of_mem_window {list : List α} {skip take : Nat} {row : α}
    (member : row ∈ window skip take list) : row ∈ list.take (skip + take) := by
  rw [window, List.take_drop] at member
  exact List.mem_of_mem_drop member

theorem mem_drop_of_mem_window {list : List α} {skip take : Nat} {row : α}
    (member : row ∈ window skip take list) : row ∈ list.drop skip :=
  List.mem_of_mem_take member

/-- Two neighbours that change places between the queries: one of them is
behind the boundary while the pages in front of it are read, and in front of
it while the others are. -/
theorem exists_unread [DecidableEq α] (distinct : rows.Nodup) {number : Nat}
    (straddled : Straddled le rows (number * limit)) :
    ∃ sortings : Nat → Sorting le, ∃ row ∈ rows,
      ∀ count, row ∉ readPages (sortedPage sortings limit rows) count := by
  let plain : Sorting le := Sorting.stable
  obtain ⟨front, first, second, back, split, atBoundary, below⟩ :=
    exists_neighbours straddled (plain.perm rows) (plain.ascending rows)
  have plainPerm := plain.perm rows
  have plainAscending := plain.ascending rows
  rw [split] at plainPerm plainAscending
  have swappedPerm : (front ++ second :: first :: back).Perm rows :=
    ((List.Perm.swap first second back).append_left front).trans plainPerm
  have swappedAscending : (front ++ second :: first :: back).Pairwise le :=
    pairwise_swap plainAscending below
  have distinctHere : (front ++ first :: second :: back).Nodup :=
    plainPerm.nodup_iff.mpr distinct
  have notInFront : first ∉ front := by
    intro member
    have apart := (List.nodup_append.mp distinctHere).2.2
    exact apart first member first List.mem_cons_self rfl
  have notBehind : first ∉ second :: back :=
    (List.nodup_cons.mp (List.nodup_append.mp distinctHere).2.1).1
  refine ⟨fun index => if index < number then
      plain.arranged swappedPerm swappedAscending else plain, first, ?_, ?_⟩
  · exact plainPerm.subset (by simp)
  · intro count read
    obtain ⟨index, _, onPage⟩ := List.mem_flatMap.mp read
    rw [sortedPage] at onPage
    split at onPage
    · next early =>
        rw [Sorting.arranged_sort] at onPage
        have earlier := mem_take_of_mem_window onPage
        have order : index * limit + limit ≤ number * limit := by
          rw [← Nat.succ_mul]
          exact Nat.mul_le_mul_right limit early
        have inTake := List.take_subset_take_left _ order earlier
        rw [← atBoundary, List.take_length_add_append] at inTake
        rcases List.mem_append.mp inTake with member | member
        · exact notInFront member
        · rw [List.mem_singleton.mp member] at notBehind
          exact notBehind List.mem_cons_self
    · next late =>
        have later := mem_drop_of_mem_window onPage
        have order : number * limit ≤ index * limit :=
          Nat.mul_le_mul_right limit (Nat.le_of_not_lt late)
        have inDrop := List.drop_subset_drop_left _ order later
        rw [split, ← atBoundary, List.drop_length_add_append] at inDrop
        exact notBehind inDrop

variable {β : Type v} {select : α → β}

/-- The pages partition the rows, however each query sorts, if and only if no
tie goes across a page boundary. -/
theorem partitions_iff [DecidableEq α] (distinct : rows.Nodup)
    (selectApart : ∀ first ∈ rows, ∀ second ∈ rows,
      select first = select second → first = second)
    (positive : 0 < limit) :
    (∀ sortings : Nat → Sorting le,
      Partitions
        (fun index => (sortedPage sortings limit rows index).map select)
        rows.length (rows.map select)) ↔
      ∀ number, ¬ Straddled le rows (number * limit) := by
  constructor
  · intro partitions number straddled
    obtain ⟨sortings, row, member, unread⟩ := exists_unread distinct straddled
    obtain ⟨count, _, once⟩ := partitions sortings
    rw [readPages_map] at once
    have selected : select row ∈
        (readPages (sortedPage sortings limit rows) count).map select :=
      once.symm.subset (List.mem_map_of_mem member)
    obtain ⟨other, read, same⟩ := List.mem_map.mp selected
    obtain ⟨index, _, onPage⟩ := List.mem_flatMap.mp read
    have otherMember : other ∈ rows :=
      ((sortings index).perm rows).subset
        (List.mem_of_mem_drop (List.mem_of_mem_take onPage))
    have equal := selectApart other otherMember row member same
    rw [equal] at read
    exact unread count read
  · intro settled sortings
    obtain ⟨count, reads, enough⟩ := exists_readsAll positive sortings
    refine ⟨count, reads.map select, ?_⟩
    rw [readPages_map]
    exact (readPages_perm_rows settled sortings enough).map select

end Sorted

end Paging

end ConcertTicketing
