import ConcertTicketing.Library.Trace
import Mathlib.Algebra.Ring.Nat

/-!
# Work that runs out

A step that works lowers a measure, and no other step raises it, so a run does
no more work than the measure of its first state.  Working on as long as
possible leads to a state in which there is nothing left to do.
-/

namespace ConcertTicketing

universe u v

variable {σ : Type u} {α : Type v} {step : σ → α → Option σ}
  {works guard : σ → α → Prop} {good : σ → Prop} {measure : σ → Nat}
  {start : σ}

/-- No step that works is enabled. -/
def Stuck (step : σ → α → Option σ) (works : σ → α → Prop) (state : σ) :
    Prop :=
  ∀ action, works state action → step state action = none

/-- How many steps of the history have worked. -/
def workDone (works : σ → α → Prop)
    [∀ state action, Decidable (works state action)]
    (history : List (σ × α)) : Nat :=
  history.countP fun entry => decide (works entry.1 entry.2)

/-- The work that a run does is paid for by the measure. -/
theorem Trace.workDone_le [∀ state action, Decidable (works state action)]
    (descends : ∀ state action next,
      good state →
      guard state action →
      step state action = some next →
      good next ∧ measure next ≤ measure state ∧
        (works state action → measure next < measure state))
    {history : List (σ × α)} {state : σ}
    (run : Trace step start history state) (holds : good start)
    (guarded : StepsMeet guard history) :
    good state ∧ workDone works history + measure state ≤ measure start := by
  induction run with
  | nil => exact ⟨holds, by simp [workDone]⟩
  | @snoc earlier before after action runBefore stepped inductionHypothesis =>
      have parts := stepsMeet_cons.mp guarded
      obtain ⟨goodBefore, paid⟩ := inductionHypothesis parts.2
      obtain ⟨goodAfter, noMore, less⟩ :=
        descends before action after goodBefore parts.1 stepped
      refine ⟨goodAfter, ?_⟩
      rw [workDone, List.countP_cons, ← workDone]
      by_cases working : works before action
      · have lower := less working
        simp only [working, decide_true, if_true]
        omega
      · simp only [working, decide_false, Bool.false_eq_true, if_false]
        omega

/-- Working on leads to a state in which nothing works. -/
theorem exists_stuck
    (descends : ∀ state action next,
      good state →
      works state action →
      step state action = some next →
      good next ∧ measure next < measure state)
    (holds : good start) :
    ∃ history last,
      Trace step start history last ∧ StepsMeet works history ∧
        good last ∧ Stuck step works last := by
  induction size : measure start using Nat.strongRecOn
    generalizing start with
  | ind size inductionHypothesis =>
      by_cases stuck : Stuck step works start
      · exact ⟨[], start, .nil, List.forall_mem_nil _, holds, stuck⟩
      · simp only [Stuck, not_forall] at stuck
        obtain ⟨action, working, enabled⟩ := stuck
        obtain ⟨next, stepped⟩ := Option.ne_none_iff_exists'.mp enabled
        obtain ⟨goodNext, lower⟩ :=
          descends start action next holds working stepped
        rw [size] at lower
        obtain ⟨history, last, run, worked, ends⟩ :=
          inductionHypothesis (measure next) lower goodNext rfl
        refine ⟨history ++ [(start, action)], last,
          (Trace.nil.snoc stepped).append run, ?_, ends⟩
        intro entry member
        rcases List.mem_append.mp member with later | first
        · exact worked entry later
        · rw [List.mem_singleton.mp first]
          exact working

/-- The sum after one of the shares has changed. -/
theorem sum_map_set {γ : Type u} (share : γ → Nat) (after : γ) {list : List γ}
    {index : Nat} {before : γ} (found : list[index]? = some before) :
    ((list.set index after).map share).sum + share before =
      (list.map share).sum + share after := by
  induction list generalizing index with
  | nil => cases found
  | cons first rest inductionHypothesis =>
      cases index with
      | zero =>
          cases found
          simp only [List.set_cons_zero, List.map_cons, List.sum_cons]
          omega
      | succ position =>
          have others := inductionHypothesis found
          simp only [List.set_cons_succ, List.map_cons, List.sum_cons]
          omega

end ConcertTicketing
