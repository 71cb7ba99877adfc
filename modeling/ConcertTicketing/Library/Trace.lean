import Mathlib.Data.List.Basic

/-!
# Traces of a partial step function

A system is a partial function `step : σ → α → Option σ`: in a given state an
action either is not enabled or leads to one next state.  A trace is a finite
run of such a system together with its history, newest entry first.  Each
entry holds the state in which an action was taken and the action.

The module packages the inductions over runs once: invariants, invariants of
the runs whose steps all pass a guard, and the exact form in which a property
of the visited states is equivalent to a guard on the steps.
-/

namespace ConcertTicketing

universe u v w x

variable {σ : Type u} {α : Type v}

/-- `Trace step start history state` is a run from `start` to `state`. -/
inductive Trace (step : σ → α → Option σ) (start : σ) :
    List (σ × α) → σ → Prop
  | nil : Trace step start [] start
  | snoc {history : List (σ × α)} {state next : σ} {action : α} :
      Trace step start history state →
      step state action = some next →
      Trace step start ((state, action) :: history) next

def StepsMeet (guard : σ → α → Prop) (history : List (σ × α)) : Prop :=
  ∀ entry ∈ history, guard entry.1 entry.2

/-- The states a run has been in, the current one first. -/
def visited (history : List (σ × α)) (state : σ) : List σ :=
  state :: history.map Prod.fst

theorem stepsMeet_cons {guard : σ → α → Prop}
    {entry : σ × α} {history : List (σ × α)} :
    StepsMeet guard (entry :: history) ↔
      guard entry.1 entry.2 ∧ StepsMeet guard history := by
  simp only [StepsMeet, List.forall_mem_cons]

instance (guard : σ → α → Prop) [∀ state action, Decidable (guard state action)]
    (history : List (σ × α)) : Decidable (StepsMeet guard history) :=
  inferInstanceAs (Decidable (∀ entry ∈ history, guard entry.1 entry.2))

namespace Trace

variable {step : σ → α → Option σ} {start : σ}

/-- A run that goes on from the last state of another run. -/
theorem append {middle : σ} {older newer : List (σ × α)} {state : σ}
    (first : Trace step start older middle)
    (second : Trace step middle newer state) :
    Trace step start (newer ++ older) state := by
  induction second with
  | nil => exact first
  | snoc runBefore stepped inductionHypothesis =>
      exact inductionHypothesis.snoc stepped

/-- The run up to one of its steps. -/
theorem before {newer older : List (σ × α)} {state last : σ} {action : α}
    (run : Trace step start (newer ++ (state, action) :: older) last) :
    Trace step start older state := by
  induction newer generalizing last with
  | nil =>
      cases run with
      | snoc runBefore _ => exact runBefore
  | cons entry newer inductionHypothesis =>
      cases run with
      | snoc runBefore _ => exact inductionHypothesis runBefore

/-- A property of history and state that holds at the start and is preserved
by every guarded step holds at the end of every guarded run. -/
theorem invariantWith (guard : σ → α → Prop)
    (invariant : List (σ × α) → σ → Prop)
    (base : invariant [] start)
    (preserved : ∀ history state action next,
      Trace step start history state →
      invariant history state →
      guard state action →
      step state action = some next →
      invariant ((state, action) :: history) next)
    {history : List (σ × α)} {state : σ}
    (run : Trace step start history state)
    (guarded : StepsMeet guard history) :
    invariant history state := by
  induction run with
  | nil =>
      exact base
  | @snoc earlier before after action runBefore stepped inductionHypothesis =>
      have parts := stepsMeet_cons.mp guarded
      exact preserved earlier before action after runBefore
        (inductionHypothesis parts.2) parts.1 stepped

/-- The same for a property of the state alone. -/
theorem invariantUnder (guard : σ → α → Prop) (invariant : σ → Prop)
    (base : invariant start)
    (preserved : ∀ state action next,
      invariant state →
      guard state action →
      step state action = some next →
      invariant next)
    {history : List (σ × α)} {state : σ}
    (run : Trace step start history state)
    (guarded : StepsMeet guard history) :
    invariant state :=
  invariantWith guard (fun _ current => invariant current) base
    (fun _ state action next _ => preserved state action next) run guarded

/-- An invariant of every run. -/
theorem invariant (invariant : σ → Prop)
    (base : invariant start)
    (preserved : ∀ state action next,
      invariant state →
      step state action = some next →
      invariant next)
    {history : List (σ × α)} {state : σ}
    (run : Trace step start history state) :
    invariant state :=
  invariantUnder (fun _ _ => True) invariant base
    (fun state action next holds _ => preserved state action next holds)
    run (fun _ _ => trivial)

/-- An invariant of history and state of every run. -/
theorem invariantHistory (invariant : List (σ × α) → σ → Prop)
    (base : invariant [] start)
    (preserved : ∀ history state action next,
      Trace step start history state →
      invariant history state →
      step state action = some next →
      invariant ((state, action) :: history) next)
    {history : List (σ × α)} {state : σ}
    (run : Trace step start history state) :
    invariant history state :=
  invariantWith (fun _ _ => True) invariant base
    (fun history state action next runBefore holds _ =>
      preserved history state action next runBefore holds)
    run (fun _ _ => trivial)

/-- An invariant whose preservation uses what is known of the run so far. -/
theorem invariantAlong (invariant : σ → Prop)
    (base : invariant start)
    (preserved : ∀ history state action next,
      Trace step start history state →
      invariant state →
      step state action = some next →
      invariant next)
    {history : List (σ × α)} {state : σ}
    (run : Trace step start history state) :
    invariant state :=
  invariantHistory (fun _ current => invariant current) base preserved run

/-- What holds at the end of every guarded run holds in every state that a
guarded run visits. -/
theorem forall_visited (guard : σ → α → Prop) (good : σ → Prop)
    (atEnd : ∀ history state,
      Trace step start history state →
      StepsMeet guard history →
      good state)
    {history : List (σ × α)} {state : σ}
    (run : Trace step start history state)
    (guarded : StepsMeet guard history) :
    ∀ reached ∈ visited history state, good reached := by
  induction run with
  | nil =>
      intro reached member
      rw [visited, List.map_nil, List.mem_singleton] at member
      rw [member]
      exact atEnd [] start Trace.nil guarded
  | @snoc earlier before after action runBefore stepped inductionHypothesis =>
      have parts := stepsMeet_cons.mp guarded
      intro reached member
      rcases List.mem_cons.mp member with rfl | old
      · exact atEnd _ _ (runBefore.snoc stepped) guarded
      · exact inductionHypothesis parts.2 reached old

/-- An invariant that guarded steps preserve, in every state that a guarded run
visits. -/
theorem invariantVisited (guard : σ → α → Prop) (invariant : σ → Prop)
    (base : invariant start)
    (preserved : ∀ state action next,
      invariant state →
      guard state action →
      step state action = some next →
      invariant next)
    {history : List (σ × α)} {state : σ}
    (run : Trace step start history state)
    (guarded : StepsMeet guard history) :
    ∀ reached ∈ visited history state, invariant reached :=
  run.forall_visited guard invariant
    (fun _ _ runHere guardedHere =>
      runHere.invariantUnder guard invariant base preserved guardedHere)
    guarded

/-- What holds at the end of every run holds in every visited state. -/
theorem forall_reached {good : σ → Prop}
    (atEnd : ∀ history state, Trace step start history state → good state)
    {history : List (σ × α)} {state : σ}
    (run : Trace step start history state) :
    ∀ reached ∈ visited history state, good reached :=
  forall_visited (fun _ _ => True) good
    (fun history state runHere _ => atEnd history state runHere) run
    (fun _ _ => trivial)

/-- A symmetric relation between the last state of every run and each state
visited before it relates any two visited states. -/
theorem forall_pairs (related : σ → σ → Prop)
    (symmetric : ∀ reached other, related reached other →
      related other reached)
    (atEnd : ∀ history state, Trace step start history state →
      ∀ reached ∈ visited history state, related reached state)
    {history : List (σ × α)} {state : σ}
    (run : Trace step start history state) :
    ∀ reached ∈ visited history state, ∀ other ∈ visited history state,
      related reached other := by
  induction run with
  | nil =>
      intro reached member other otherMember
      rw [visited, List.map_nil, List.mem_singleton] at otherMember
      rw [otherMember]
      exact atEnd [] start Trace.nil reached member
  | @snoc earlier before after action runBefore stepped inductionHypothesis =>
      have runHere : Trace step start ((before, action) :: earlier) after :=
        runBefore.snoc stepped
      intro reached member other otherMember
      rcases List.mem_cons.mp otherMember with rfl | otherOld
      · exact atEnd _ _ runHere reached member
      · rcases List.mem_cons.mp member with rfl | old
        · exact symmetric other _ (atEnd _ _ runHere other otherMember)
        · exact inductionHypothesis reached old other otherOld

/-- A run seen through a view of its states, when every step is a step of the
view or leaves it alone. -/
theorem project {τ : Type w} {β : Type x} {stepView : τ → β → Option τ}
    (view : σ → τ) (image : α → Option β)
    (simulates : ∀ state action next,
      step state action = some next →
      (∃ seen, image action = some seen ∧
        stepView (view state) seen = some (view next)) ∨
      (image action = none ∧ view next = view state))
    {history : List (σ × α)} {state : σ}
    (run : Trace step start history state) :
    Trace stepView (view start)
      (history.filterMap fun entry =>
        (image entry.2).map fun seen => (view entry.1, seen))
      (view state) := by
  induction run with
  | nil => exact .nil
  | @snoc earlier before after action _ stepped inductionHypothesis =>
      rcases simulates before action after stepped with
        ⟨other, seen, taken⟩ | ⟨unseen, same⟩
      · rw [List.filterMap_cons_some (by simp [seen]; rfl)]
        exact inductionHypothesis.snoc taken
      · rw [List.filterMap_cons_none (by simp [unseen]), same]
        exact inductionHypothesis

/-- What every step preserves and some visited state has, the last state
has. -/
theorem persists (property : σ → Prop)
    (preserved : ∀ state action next,
      property state →
      step state action = some next →
      property next)
    {history : List (σ × α)} {state : σ}
    (run : Trace step start history state) :
    ∀ reached ∈ visited history state, property reached → property state := by
  induction run with
  | nil =>
      intro reached member holds
      rw [visited, List.map_nil, List.mem_singleton] at member
      rw [← member]
      exact holds
  | @snoc earlier before after action runBefore stepped inductionHypothesis =>
      intro reached member holds
      rcases List.mem_cons.mp member with rfl | old
      · exact holds
      · have holdsBefore : property before :=
          inductionHypothesis reached old holds
        exact preserved before action after holdsBefore stepped

/-- When each step from a good state leads to a good state exactly if it
passes the guard, a run visits good states only exactly if all its steps pass
the guard. -/
theorem forall_visited_iff {guard : σ → α → Prop} {good : σ → Prop}
    (base : good start)
    (sharp : ∀ history state action next,
      Trace step start history state →
      good state →
      step state action = some next →
      (good next ↔ guard state action))
    {history : List (σ × α)} {state : σ}
    (run : Trace step start history state) :
    (∀ reached ∈ visited history state, good reached) ↔
      StepsMeet guard history := by
  induction run with
  | nil =>
      simp [visited, StepsMeet, base]
  | @snoc earlier before after action runBefore stepped inductionHypothesis =>
      rw [stepsMeet_cons, ← inductionHypothesis]
      simp only [visited, List.map_cons, List.forall_mem_cons]
      constructor
      · rintro ⟨goodAfter, goodBefore, goodEarlier⟩
        exact ⟨(sharp _ _ _ _ runBefore goodBefore stepped).mp goodAfter,
          goodBefore, goodEarlier⟩
      · rintro ⟨guarded, goodBefore, goodEarlier⟩
        exact ⟨(sharp _ _ _ _ runBefore goodBefore stepped).mpr guarded,
          goodBefore, goodEarlier⟩

end Trace

/-- Take a list of actions one after the other, keeping the history. -/
def replay (step : σ → α → Option σ) :
    List (σ × α) → σ → List α → Option (List (σ × α) × σ)
  | history, state, [] => some (history, state)
  | history, state, action :: rest =>
      match step state action with
      | none => none
      | some next => replay step ((state, action) :: history) next rest

theorem Trace.of_replay {step : σ → α → Option σ} {start : σ} :
    ∀ {actions : List α} {history : List (σ × α)} {state : σ}
      {result : List (σ × α) × σ},
      Trace step start history state →
      replay step history state actions = some result →
      Trace step start result.1 result.2
  | [], history, state, result, run, replayed => by
      simp only [replay, Option.some.injEq] at replayed
      subst result
      exact run
  | action :: rest, history, state, result, run, replayed => by
      simp only [replay] at replayed
      split at replayed
      · cases replayed
      · next next stepped =>
          exact of_replay (run.snoc stepped) replayed

/-- A replayed list of actions is a run. -/
theorem Trace.of_replay_get {step : σ → α → Option σ} {start : σ}
    (actions : List α)
    (enabled : (replay step [] start actions).isSome) :
    Trace step start
      ((replay step [] start actions).get enabled).1
      ((replay step [] start actions).get enabled).2 :=
  Trace.of_replay Trace.nil (Option.some_get enabled).symm

/-- A replayed list of actions exhibits a run with a decidable property. -/
theorem Trace.exists_of_replay (step : σ → α → Option σ) (start : σ)
    (actions : List α) (holds : List (σ × α) × σ → Bool)
    (checked : (replay step [] start actions).any holds = true) :
    ∃ history state,
      Trace step start history state ∧ holds (history, state) = true := by
  cases replayed : replay step [] start actions with
  | none =>
      simp [replayed] at checked
  | some result =>
      refine ⟨result.1, result.2, Trace.of_replay Trace.nil replayed, ?_⟩
      simpa [replayed] using checked

end ConcertTicketing
