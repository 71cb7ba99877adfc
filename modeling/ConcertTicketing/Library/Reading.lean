import ConcertTicketing.Library.Program

/-!
# Programs that only ask

A program whose commands are questions leaves the stores as they are.  Its
questions are answered at different moments, and what it comes to can be a
mixture of them.  When the questions that it asks at one moment have the same
answers at all the others, it comes to what it comes to at that moment.
-/

namespace ConcertTicketing

universe u v w x y

namespace Program

variable {κ : Type u} {Reply : κ → Type v} {ε : Type w} {α β : Type x}
  {τ : Type y}

/-- Every question is answered at one moment. -/
def answerAt (ask : (command : κ) → τ → Reply command) (moment : τ) :
    Program κ Reply ε α → Except ε α
  | .done result => .ok result
  | .throw error => .error error
  | .perform command next => (next (ask command moment)).answerAt ask moment

/-- Every question is answered at some moment, whatever their order. -/
inductive Answered (ask : (command : κ) → τ → Reply command)
    (moments : τ → Prop) : Program κ Reply ε α → Except ε α → Prop
  | done (result : α) : Answered ask moments (.done result) (.ok result)
  | throw (error : ε) : Answered ask moments (.throw error) (.error error)
  | asked (command : κ) (next : Reply command → Program κ Reply ε α)
      (moment : τ) (among : moments moment) (outcome : Except ε α)
      (rest : Answered ask moments (next (ask command moment)) outcome) :
      Answered ask moments (.perform command next) outcome

/-- Answered at the moment, the program asks good questions only. -/
def OnlyAsks (ask : (command : κ) → τ → Reply command) (good : κ → Prop)
    (moment : τ) : Program κ Reply ε α → Prop
  | .done _ => True
  | .throw _ => True
  | .perform command next =>
      good command ∧ (next (ask command moment)).OnlyAsks ask good moment

variable {ask : (command : κ) → τ → Reply command} {good : κ → Prop}
  {moments : τ → Prop} {moment : τ}

theorem answerAt_bind (program : Program κ Reply ε α)
    (next : α → Program κ Reply ε β) (moment : τ) :
    (program >>= next).answerAt ask moment =
      (program.answerAt ask moment).bind fun result =>
        (next result).answerAt ask moment := by
  change (program.bind next).answerAt ask moment = _
  induction program with
  | done result => rfl
  | throw error => rfl
  | perform command rest inductionHypothesis =>
      exact inductionHypothesis _

@[simp]
theorem answerAt_call (command : κ) (moment : τ) :
    (call command : Program κ Reply ε _).answerAt ask moment =
      .ok (ask command moment) := rfl

@[simp]
theorem answerAt_ofExcept (outcome : Except ε α) (moment : τ) :
    (ofExcept outcome : Program κ Reply ε α).answerAt ask moment =
      outcome := by
  cases outcome with
  | ok result => rfl
  | error error => rfl

/-- One of the moments at which a program can be answered. -/
theorem answered_answerAt (among : moments moment)
    (program : Program κ Reply ε α) :
    program.Answered ask moments (program.answerAt ask moment) := by
  induction program with
  | done result => exact .done result
  | throw error => exact .throw error
  | perform command next inductionHypothesis =>
      exact .asked command next moment among _ (inductionHypothesis _)

theorem onlyAsks_call {command : κ} (isGood : good command) :
    (call command : Program κ Reply ε _).OnlyAsks ask good moment :=
  ⟨isGood, trivial⟩

theorem onlyAsks_ofExcept (outcome : Except ε α) :
    (ofExcept outcome : Program κ Reply ε α).OnlyAsks ask good moment := by
  cases outcome with
  | ok result => trivial
  | error error => trivial

/-- The rule of sequence. -/
theorem OnlyAsks.bind {program : Program κ Reply ε α}
    {next : α → Program κ Reply ε β}
    (first : program.OnlyAsks ask good moment)
    (goesOn : ∀ result, program.answerAt ask moment = .ok result →
      (next result).OnlyAsks ask good moment) :
    (program >>= next).OnlyAsks ask good moment := by
  change (program.bind next).OnlyAsks ask good moment
  induction program with
  | done result => exact goesOn result rfl
  | throw error => trivial
  | perform command rest inductionHypothesis =>
      exact ⟨first.1, inductionHypothesis _ first.2 goesOn⟩

/-- Good questions have one answer, so the program does. -/
theorem Answered.eq_answerAt {program : Program κ Reply ε α}
    {outcome : Except ε α} (answered : program.Answered ask moments outcome)
    (same : ∀ later, moments later → ∀ command, good command →
      ask command later = ask command moment)
    (only : program.OnlyAsks ask good moment) :
    outcome = program.answerAt ask moment := by
  induction answered with
  | done result => rfl
  | throw error => rfl
  | asked command next later among outcome rest inductionHypothesis =>
      have answer := same later among command only.1
      rw [answer] at inductionHypothesis
      exact inductionHypothesis only.2

end Program

end ConcertTicketing
