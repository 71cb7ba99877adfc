import ConcertTicketing.Library.Trace
import Mathlib.Data.List.Forall2

/-!
# Refinement, step by step

A system refines another one along a relation of their states when each of its
steps from related states is a step of the other one to related states.  Then
its runs are runs of the other one, state by state.
-/

namespace ConcertTicketing

universe u v w x

variable {σ : Type u} {α : Type v} {τ : Type w} {β : Type x}

/-- Every step of the one is a step of the other that matches it. -/
def Refines (step : σ → α → Option σ) (abstract : τ → β → Option τ)
    (related : σ → τ → Prop) (matching : α → β → Prop) : Prop :=
  ∀ state action next view,
    related state view →
    step state action = some next →
    ∃ other after, matching action other ∧
      abstract view other = some after ∧ related next after

/-- The states in which the steps are taken are related, and the actions
match. -/
def EntryRefines (related : σ → τ → Prop) (matching : α → β → Prop)
    (entry : σ × α) (other : τ × β) : Prop :=
  related entry.1 other.1 ∧ matching entry.2 other.2

theorem Refines.run {step : σ → α → Option σ}
    {abstract : τ → β → Option τ} {related : σ → τ → Prop}
    {matching : α → β → Prop}
    (refines : Refines step abstract related matching)
    {start : σ} {startView : τ} (base : related start startView)
    {history : List (σ × α)} {state : σ}
    (run : Trace step start history state) :
    ∃ older view, Trace abstract startView older view ∧
      List.Forall₂ (EntryRefines related matching) history older ∧
      related state view := by
  induction run with
  | nil => exact ⟨[], startView, .nil, .nil, base⟩
  | @snoc earlier before after action runBefore stepped inductionHypothesis =>
      obtain ⟨older, view, runView, entries, relatedBefore⟩ :=
        inductionHypothesis
      obtain ⟨other, viewAfter, matched, steppedView, relatedAfter⟩ :=
        refines before action after view relatedBefore stepped
      exact ⟨(view, other) :: older, viewAfter, runView.snoc steppedView,
        .cons ⟨relatedBefore, matched⟩ entries, relatedAfter⟩

end ConcertTicketing
