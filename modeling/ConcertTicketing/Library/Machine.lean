import Mathlib.Data.List.Basic

/-!
# Machines that answer

A machine answers each input and goes on to its next state.  Two machines that
stay related give the same answers to the same inputs.  And what a machine
answers to some of its inputs does not depend on the others, when the others
leave alone what those answers are made from.
-/

namespace ConcertTicketing

universe u v w x y

structure Machine (σ : Type u) (ι : Type v) (ρ : Type w) where
  reply : σ → ι → ρ
  next : σ → ι → σ

namespace Machine

variable {σ : Type u} {ι : Type v} {ρ : Type w}

def answers (machine : Machine σ ι ρ) : σ → List ι → List (ι × ρ)
  | _, [] => []
  | state, input :: rest =>
      (input, machine.reply state input) ::
        answers machine (machine.next state input) rest

def after (machine : Machine σ ι ρ) (state : σ) (inputs : List ι) : σ :=
  inputs.foldl machine.next state

theorem answers_append (machine : Machine σ ι ρ) (state : σ)
    (first second : List ι) :
    machine.answers state (first ++ second) =
      machine.answers state first ++
        machine.answers (machine.after state first) second := by
  induction first generalizing state with
  | nil => rfl
  | cons input rest inductionHypothesis =>
      rw [List.cons_append, answers, answers, List.cons_append,
        inductionHypothesis]
      rfl

section Along

variable {κ : Type x}

/-- The machine for inputs that stand for its own. -/
def along (machine : Machine σ ι ρ) (meaning : κ → ι) : Machine σ κ ρ where
  reply state input := machine.reply state (meaning input)
  next state input := machine.next state (meaning input)

theorem answers_along (machine : Machine σ ι ρ) (meaning : κ → ι)
    (state : σ) (inputs : List κ) :
    ((machine.along meaning).answers state inputs).map
        (Prod.map meaning id) =
      machine.answers state (inputs.map meaning) := by
  induction inputs generalizing state with
  | nil => rfl
  | cons input rest inductionHypothesis =>
      rw [answers, List.map_cons, List.map_cons, answers,
        inductionHypothesis]
      rfl

end Along

/-! ## Simulation -/

section Simulation

variable {τ : Type x} {concrete : Machine σ ι ρ} {abstract : Machine τ ι ρ}

/-- A simulation: as long as the inputs so far are allowed, related states
answer alike and go on to related states. -/
structure Simulates (concrete : Machine σ ι ρ) (abstract : Machine τ ι ρ)
    (allowed : List ι → Prop) (related : List ι → σ → τ → Prop) : Prop where
  earlier : ∀ past later, allowed (past ++ later) → allowed past
  reply : ∀ past input state view, related past state view →
    allowed (past ++ [input]) →
    concrete.reply state input = abstract.reply view input
  next : ∀ past input state view, related past state view →
    allowed (past ++ [input]) →
    related (past ++ [input]) (concrete.next state input)
      (abstract.next view input)

variable {allowed : List ι → Prop} {related : List ι → σ → τ → Prop}

theorem Simulates.run
    (simulates : Simulates concrete abstract allowed related)
    {past inputs : List ι} {state : σ} {view : τ}
    (start : related past state view) (all : allowed (past ++ inputs)) :
    concrete.answers state inputs = abstract.answers view inputs ∧
      related (past ++ inputs) (concrete.after state inputs)
        (abstract.after view inputs) := by
  induction inputs generalizing past state view with
  | nil =>
      rw [List.append_nil]
      exact ⟨rfl, start⟩
  | cons input rest inductionHypothesis =>
      rw [← List.singleton_append, ← List.append_assoc] at all ⊢
      have here := simulates.earlier _ rest all
      have sameReply := simulates.reply past input state view start here
      have rests := inductionHypothesis
        (simulates.next past input state view start here) all
      exact ⟨by rw [List.singleton_append, answers, answers, sameReply,
        rests.1], rests.2⟩

end Simulation

section Purge

variable {ν : Type y} {machine : Machine σ ι ρ} {view : σ → ν}
  {concerns : ι → Bool}

/-- The answers to the inputs that concern a part of the state are made from
that part, and the other inputs leave it alone. -/
structure Unwinds (machine : Machine σ ι ρ) (view : σ → ν)
    (concerns : ι → Bool) : Prop where
  reply : ∀ first second input, concerns input = true →
    view first = view second →
    machine.reply first input = machine.reply second input
  next : ∀ first second input, concerns input = true →
    view first = view second →
    view (machine.next first input) = view (machine.next second input)
  others : ∀ state input, concerns input = false →
    view (machine.next state input) = view state

/-- Without the other inputs the answers are the same. -/
theorem Unwinds.answers_filter (unwinds : Unwinds machine view concerns)
    {inputs : List ι} {first second : σ} (same : view first = view second) :
    (machine.answers first inputs).filter (fun entry => concerns entry.1) =
      machine.answers second (inputs.filter concerns) := by
  induction inputs generalizing first second with
  | nil => rfl
  | cons input rest inductionHypothesis =>
      cases concerned : concerns input with
      | true =>
          have sameReply := unwinds.reply first second input concerned same
          have sameNext := unwinds.next first second input concerned same
          simp only [answers, List.filter_cons, concerned, if_true, sameReply,
            inductionHypothesis sameNext]
      | false =>
          have sameNext : view (machine.next first input) = view second :=
            (unwinds.others first input concerned).trans same
          simp only [answers, List.filter_cons, concerned,
            Bool.false_eq_true, if_false, inductionHypothesis sameNext]

end Purge

end Machine

end ConcertTicketing
