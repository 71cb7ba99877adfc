import Mathlib.Algebra.Group.Nat.Defs
import Mathlib.Data.List.Sort

/-!
# Sorted sets

A sorted set gives every member a score.  It lists its members by score, and
members with one score in their own order.  A score is an IEEE double, so an
integer score is exact only up to 53 bits.
-/

namespace ConcertTicketing.Redis

universe u v

/-- Entries in the order in which the server ranks them, with no member
twice. -/
structure SortedSet (σ : Type u) (μ : Type v) [LinearOrder σ]
    [LinearOrder μ] where
  entries : List (σ × μ)
  sorted : entries.Pairwise (Prod.Lex (· < ·) (· ≤ ·))
  nodup : (entries.map Prod.snd).Nodup

namespace SortedSet

variable {σ : Type u} {μ : Type v} [LinearOrder σ] [LinearOrder μ]

def empty : SortedSet σ μ := ⟨[], List.Pairwise.nil, List.nodup_nil⟩

/-- The entries determine the set. -/
theorem eq_of_entries_eq {first second : SortedSet σ μ}
    (same : first.entries = second.entries) : first = second := by
  cases first
  cases second
  cases same
  rfl

def members (set : SortedSet σ μ) : List μ := set.entries.map Prod.snd

/-- `ZSCORE key member`. -/
def score? (set : SortedSet σ μ) (member : μ) : Option σ :=
  (set.entries.find? fun entry => decide (entry.2 = member)).map Prod.fst

/-- `ZRANK key member`. -/
def rank? (set : SortedSet σ μ) (member : μ) : Option Nat :=
  set.members.idxOf? member

/-- `ZCARD key`. -/
def card (set : SortedSet σ μ) : Nat := set.entries.length

def others (set : SortedSet σ μ) (member : μ) : List (σ × μ) :=
  set.entries.filter fun entry => decide (entry.2 ≠ member)

/-- `ZADD key score member`. -/
def add (set : SortedSet σ μ) (score : σ) (member : μ) : SortedSet σ μ where
  entries :=
    (set.others member).orderedInsert (Prod.Lex (· < ·) (· ≤ ·))
      (score, member)
  sorted := by
    have kept : (set.others member).Pairwise (Prod.Lex (· < ·) (· ≤ ·)) :=
      set.sorted.filter _
    exact kept.orderedInsert _ _
  nodup := by
    have inserted :=
      (List.perm_orderedInsert (Prod.Lex (· < ·) (· ≤ ·)) (score, member)
        (set.others member)).map Prod.snd
    rw [inserted.nodup_iff, List.map_cons, List.nodup_cons]
    constructor
    · intro again
      obtain ⟨entry, kept, same⟩ := List.mem_map.mp again
      exact of_decide_eq_true (List.mem_filter.mp kept).2 same
    · exact set.nodup.sublist (List.filter_sublist.map Prod.snd)

/-- `ZPOPMIN key`. -/
def popMin (set : SortedSet σ μ) : Option (μ × SortedSet σ μ) :=
  match set with
  | ⟨[], _, _⟩ => none
  | ⟨first :: rest, sorted, nodup⟩ =>
      some (first.2, ⟨rest, sorted.of_cons, nodup.of_cons⟩)

theorem score?_eq_none_iff {set : SortedSet σ μ} {member : μ} :
    set.score? member = none ↔ member ∉ set.members := by
  simp only [score?, members, Option.map_eq_none_iff, List.find?_eq_none,
    decide_eq_true_iff, List.mem_map, not_exists, not_and]

theorem popMin_eq_none_iff {set : SortedSet σ μ} :
    set.popMin = none ↔ set.members = [] := by
  rcases set with ⟨entries, sorted, nodup⟩
  cases entries <;> simp [popMin, members]

/-- The popped member was the first in rank order. -/
theorem entries_of_popMin {set popped : SortedSet σ μ} {member : μ}
    (pops : set.popMin = some (member, popped)) :
    ∃ score, set.entries = (score, member) :: popped.entries := by
  rcases set with ⟨entries, sorted, nodup⟩
  cases entries with
  | nil => cases pops
  | cons first rest =>
      cases pops
      exact ⟨first.1, rfl⟩

theorem orderedInsert_of_last {entries : List (σ × μ)} {entry : σ × μ}
    (last : ∀ other ∈ entries, other.1 < entry.1) :
    entries.orderedInsert (Prod.Lex (· < ·) (· ≤ ·)) entry =
      entries ++ [entry] := by
  induction entries with
  | nil => rfl
  | cons first rest inductionHypothesis =>
      have below : first.1 < entry.1 := last first List.mem_cons_self
      have notBefore : ¬ Prod.Lex (· < ·) (· ≤ ·) entry first := by
        rw [Prod.lex_iff]
        rintro (above | ⟨same, _⟩)
        · exact lt_asymm below above
        · exact absurd same below.ne'
      rw [List.orderedInsert_of_not_le _ _ notBefore,
        inductionHypothesis fun other member =>
          last other (List.mem_cons_of_mem _ member)]
      rfl

theorem entries_add (set : SortedSet σ μ) (score : σ) (member : μ) :
    (set.add score member).entries =
      (set.others member).orderedInsert (Prod.Lex (· < ·) (· ≤ ·))
        (score, member) := rfl

theorem mem_members_add {set : SortedSet σ μ} {score : σ}
    {added member : μ} :
    member ∈ (set.add score added).members ↔
      member = added ∨ member ∈ set.members := by
  have inserted :=
    List.perm_orderedInsert (Prod.Lex (· < ·) (· ≤ ·)) (score, added)
      (set.others added)
  rw [members, entries_add, (inserted.map Prod.snd).mem_iff, List.map_cons,
    List.mem_cons]
  by_cases same : member = added
  · simp [same]
  · simp [same, others, members]

/-- A new member whose score exceeds all others is ranked last. -/
theorem entries_add_of_last {set : SortedSet σ μ} {score : σ} {member : μ}
    (fresh : member ∉ set.members)
    (last : ∀ entry ∈ set.entries, entry.1 < score) :
    (set.add score member).entries = set.entries ++ [(score, member)] := by
  have unchanged : set.others member = set.entries := by
    apply List.filter_eq_self.mpr
    intro entry inSet
    apply decide_eq_true
    intro same
    apply fresh
    rw [← same]
    exact List.mem_map_of_mem inSet
  rw [entries_add, unchanged]
  exact orderedInsert_of_last last

/-- The rank of a member is the number of entries before its own. -/
theorem rank?_of_entries {set : SortedSet σ μ} {front back : List (σ × μ)}
    {entry : σ × μ} (split : set.entries = front ++ entry :: back) :
    set.rank? entry.2 = some front.length := by
  have distinct := set.nodup
  rw [split, List.map_append, List.map_cons, List.nodup_append] at distinct
  have absent : entry.2 ∉ front.map Prod.snd := by
    intro again
    exact distinct.2.2 _ again _ List.mem_cons_self rfl
  rw [rank?, members, split, List.map_append, List.map_cons, List.idxOf?,
    List.findIdx?_append]
  have notBefore :
      List.findIdx? (· == entry.2) (front.map Prod.snd) = none := by
    rw [List.findIdx?_eq_none_iff]
    intro member inFront
    apply beq_false_of_ne
    intro same
    rw [same] at inFront
    exact absent inFront
  simp [notBefore, List.findIdx?_cons]

/-- With distinct scores the rank of a member is the number of entries with a
lower score. -/
theorem rank?_eq_countP {set : SortedSet σ μ}
    (increasing : set.entries.Pairwise fun first second =>
      first.1 < second.1)
    {entry : σ × μ} (member : entry ∈ set.entries) :
    set.rank? entry.2 =
      some (set.entries.countP fun other => decide (other.1 < entry.1)) := by
  obtain ⟨front, back, split⟩ := List.mem_iff_append.mp member
  rw [rank?_of_entries split, split]
  rw [split, List.pairwise_append, List.pairwise_cons] at increasing
  have allBefore :
      front.countP (fun other => decide (other.1 < entry.1)) =
        front.length := by
    apply List.countP_eq_length.mpr
    intro other inFront
    exact decide_eq_true (increasing.2.2 other inFront entry List.mem_cons_self)
  have noneBehind :
      back.countP (fun other => decide (other.1 < entry.1)) = 0 := by
    apply List.countP_eq_zero.mpr
    intro other inBack
    rw [decide_eq_true_iff]
    exact lt_asymm (increasing.2.1.1 other inBack)
  rw [List.countP_append, List.countP_cons, allBefore, noneBehind,
    decide_eq_false (lt_irrefl entry.1)]
  rfl

end SortedSet

/-- The integer that is nearest to `number` among the doubles, ties to an even
significand. -/
def toDouble (number : Nat) : Nat :=
  if number < 2 ^ 53 then number
  else
    let unit := 2 ^ (number.log2 - 52)
    let kept := number / unit
    let rest := number % unit
    if unit < 2 * rest ∨ (unit = 2 * rest ∧ kept % 2 = 1) then
      (kept + 1) * unit
    else kept * unit

/-- Integers of 53 bits are doubles. -/
theorem toDouble_of_lt {number : Nat} (small : number < 2 ^ 53) :
    toDouble number = number := if_pos small

/-- The first integer that is no double is rounded to its even neighbour. -/
example : toDouble (2 ^ 53 + 1) = 2 ^ 53 := by decide

end ConcertTicketing.Redis
