import Mathlib.Data.List.Nodup
import Mathlib.Data.List.Sort
import Mathlib.Order.Defs.LinearOrder

/-!
# Sorted answers

A query with `ORDER BY` answers with its rows in ascending order; rows that the
order takes for equal may stand in any order.  A part of the rows in which the
order leaves nothing open keeps its order in every answer, and rows with one
value of the leading column stand together.
-/

namespace ConcertTicketing

universe u v

/-- A way to sort that the order allows. -/
structure Sorting {α : Type u} (le : α → α → Prop) where
  sort : List α → List α
  perm : ∀ list, (sort list).Perm list
  ascending : ∀ list, (sort list).Pairwise le

/-- Some order of rows that nothing sorts. -/
abbrev RowOrder (α : Type u) := Sorting fun (_ _ : α) => True

def RowOrder.asStored {α : Type u} : RowOrder α where
  sort := id
  perm := List.Perm.refl
  ascending := fun _ => List.pairwise_of_forall fun _ _ => trivial

namespace Sorting

variable {α : Type u} {le : α → α → Prop}

def Strict (le : α → α → Prop) (list : List α) : Prop :=
  list.Pairwise fun first second => le first second ∧ ¬ le second first

theorem Strict.nodup {list : List α} (strict : Strict le list) :
    list.Nodup := by
  refine strict.imp ?_
  rintro first second ⟨below, notAbove⟩ rfl
  exact notAbove below

/-- In a strict list only equal elements are below each other. -/
theorem Strict.antisymm {list : List α} (strict : Strict le list)
    {first second : α} (member : first ∈ list) (other : second ∈ list)
    (below : le first second) (above : le second first) :
    first = second := by
  induction list with
  | nil => cases member
  | cons head rest inductionHypothesis =>
      obtain ⟨headBelow, later⟩ := List.pairwise_cons.mp strict
      rcases List.mem_cons.mp member with rfl | firstLater
      · rcases List.mem_cons.mp other with rfl | secondLater
        · rfl
        · exact absurd above (headBelow second secondLater).2
      · rcases List.mem_cons.mp other with rfl | secondLater
        · exact absurd below (headBelow first firstLater).2
        · exact inductionHypothesis later firstLater secondLater

/-- A strict part of an ascending list stands in its order. -/
theorem Strict.sublist [DecidableEq α] {part list : List α}
    (strict : Strict le part) (subset : part ⊆ list)
    (distinct : list.Nodup) (ascending : list.Pairwise le) :
    part.Sublist list := by
  let kept := list.filter fun element => decide (element ∈ part)
  have same : kept.Perm part := by
    refine (List.perm_ext_iff_of_nodup (distinct.filter _)
      strict.nodup).mpr ?_
    intro element
    rw [List.mem_filter, decide_eq_true_eq]
    constructor
    · exact And.right
    · intro member
      exact ⟨subset member, member⟩
  have equal : kept = part := by
    refine List.Perm.eq_of_pairwise ?_ (ascending.filter _)
      (strict.imp And.left) same
    intro first second member other below above
    exact strict.antisymm (same.mem_iff.mp member) other below above
  rw [← equal]
  exact List.filter_sublist

section Column

variable {β : Type v} [LinearOrder β] (column : α → β) {value : β}
  [DecidablePred fun element => column element = value]

/-- The smallest value stands in front. -/
theorem filter_isPrefix {list : List α}
    (ascending : list.Pairwise fun first second =>
      column first ≤ column second)
    (least : ∀ element ∈ list, value ≤ column element) :
    (list.filter fun element => decide (column element = value)) <+: list := by
  induction list with
  | nil => exact List.nil_prefix
  | cons head rest inductionHypothesis =>
      obtain ⟨headBelow, later⟩ := List.pairwise_cons.mp ascending
      obtain ⟨headLeast, restLeast⟩ := List.forall_mem_cons.mp least
      by_cases here : column head = value
      · rw [List.filter_cons, if_pos (decide_eq_true here)]
        exact List.cons_prefix_cons.mpr
          ⟨rfl, inductionHypothesis later restLeast⟩
      · have above : value < column head :=
          lt_of_le_of_ne headLeast (Ne.symm here)
        have absent : ∀ element ∈ head :: rest,
            ¬ decide (column element = value) = true := by
          intro element member equal
          have same := of_decide_eq_true equal
          rcases List.mem_cons.mp member with rfl | inRest
          · exact here same
          · have bound := headBelow element inRest
            rw [same] at bound
            exact absurd above (not_lt_of_ge bound)
        rw [List.filter_eq_nil_iff.mpr absent]
        exact List.nil_prefix

/-- Elements with one value stand together. -/
theorem filter_isInfix {list : List α}
    (ascending : list.Pairwise fun first second =>
      column first ≤ column second) :
    (list.filter fun element => decide (column element = value)) <:+: list := by
  induction list with
  | nil => exact List.nil_infix
  | cons head rest inductionHypothesis =>
      obtain ⟨headBelow, later⟩ := List.pairwise_cons.mp ascending
      by_cases here : column head = value
      · have least : ∀ element ∈ rest, value ≤ column element := by
          intro element member
          rw [← here]
          exact headBelow element member
        have front := filter_isPrefix column later least
        rw [List.filter_cons, if_pos (decide_eq_true here)]
        exact (List.cons_prefix_cons.mpr ⟨rfl, front⟩).isInfix
      · have dropped : ¬ decide (column head = value) = true := by
          simpa using here
        rw [List.filter_cons, if_neg dropped]
        exact List.infix_cons (inductionHypothesis later)

end Column

/-- The rows stand as chosen, any other list as before. -/
def arranged [DecidableEq α] (sorting : Sorting le) {rows chosen : List α}
    (same : chosen.Perm rows) (ascending : chosen.Pairwise le) :
    Sorting le where
  sort list := if list = rows then chosen else sorting.sort list
  perm list := by
    split
    · next equal =>
        rw [equal]
        exact same
    · exact sorting.perm list
  ascending list := by
    split
    · exact ascending
    · exact sorting.ascending list

theorem arranged_sort [DecidableEq α] (sorting : Sorting le)
    {rows chosen : List α} (same : chosen.Perm rows)
    (ascending : chosen.Pairwise le) :
    (sorting.arranged same ascending).sort rows = chosen :=
  if_pos rfl

section Ways

variable [DecidableRel le] [Std.Total le] [IsTrans α le]

def stable : Sorting le where
  sort := List.insertionSort le
  perm := List.perm_insertionSort le
  ascending := List.pairwise_insertionSort le

/-- The element comes last among its equals. -/
def last [DecidableEq α] (element : α) : Sorting le where
  sort list := List.insertionSort le
    ((list.filter fun other => decide (other ≠ element)) ++
      list.filter fun other => !decide (other ≠ element))
  perm list := (List.perm_insertionSort le _).trans
    (List.filter_append_perm _ list)
  ascending _ := List.pairwise_insertionSort le _

/-- Whatever is not above the element stands before it. -/
theorem pair_sublist_last [DecidableEq α] {list : List α}
    {element other : α} (member : element ∈ list) (otherMember : other ∈ list)
    (different : other ≠ element) (below : le other element) :
    [other, element].Sublist ((last element : Sorting le).sort list) := by
  apply List.pair_sublist_insertionSort below
  have front : [other].Sublist
      (list.filter fun other => decide (other ≠ element)) :=
    List.singleton_sublist.mpr
      (List.mem_filter.mpr ⟨otherMember, decide_eq_true different⟩)
  have back : [element].Sublist
      (list.filter fun other => !decide (other ≠ element)) :=
    List.singleton_sublist.mpr
      (List.mem_filter.mpr ⟨member, by simp⟩)
  exact front.append back

end Ways

/-- An element behind the first and not above the second of a row breaks the
row. -/
theorem not_isInfix_of_between {list rest : List α}
    {first second between : α} (distinct : list.Nodup)
    (ascending : list.Pairwise le)
    (behind : [first, between].Sublist list)
    (different : between ≠ second) (notAbove : ¬ le second between) :
    ¬ (first :: second :: rest) <:+: list := by
  rintro ⟨front, back, rfl⟩
  rw [List.append_assoc] at distinct ascending behind
  obtain ⟨_, _, apart⟩ := List.nodup_append.mp distinct
  have notFirst : between ≠ first := by
    intro same
    have pair := behind.nodup distinct
    rw [same] at pair
    simp at pair
  have later : between ∈ (first :: second :: rest) ++ back := by
    rcases List.sublist_append_iff.mp behind with
      ⟨inFront, inRow, split, frontPart, rowPart⟩
    cases inFront with
    | nil =>
        apply rowPart.subset
        rw [← List.nil_append inRow, ← split]
        simp
    | cons head tail =>
        have same : head = first := (List.cons.inj split).1.symm
        rw [same] at frontPart
        have member : first ∈ front := frontPart.subset List.mem_cons_self
        exact absurd rfl
          (apart first member first (by simp))
  obtain ⟨_, rowAscending, _⟩ := List.pairwise_append.mp ascending
  have secondBelow := (List.pairwise_cons.mp
    (List.pairwise_cons.mp rowAscending).2).1
  rw [List.cons_append, List.cons_append] at later
  rcases List.mem_cons.mp later with same | later
  · exact notFirst same
  · rcases List.mem_cons.mp later with same | later
    · exact different same
    · exact notAbove (secondBelow between later)

end Sorting

end ConcertTicketing
