import Mathlib.Data.List.Basic

/-!
# Programs of remote commands

An async function seen as a tree: it returns, throws, or awaits the reply to a
remote command and goes on with it.  The tree says nothing about what happens
between two commands; `run` is the function on stores that nobody else uses.
-/

namespace ConcertTicketing

universe u v w x y

inductive Program (κ : Type u) (Reply : κ → Type v) (ε : Type w)
    (α : Type x) where
  | done (result : α)
  | throw (error : ε)
  | perform (command : κ) (next : Reply command → Program κ Reply ε α)

namespace Program

variable {κ : Type u} {Reply : κ → Type v} {ε : Type w} {α : Type x}
  {β : Type x} {τ : Type y}

def call (command : κ) : Program κ Reply ε (Reply command) :=
  .perform command .done

/-- A value, or a `throw`. -/
def ofExcept : Except ε α → Program κ Reply ε α
  | .ok result => .done result
  | .error error => .throw error

def bind (program : Program κ Reply ε α)
    (next : α → Program κ Reply ε β) : Program κ Reply ε β :=
  match program with
  | .done result => next result
  | .throw error => .throw error
  | .perform command rest =>
      .perform command fun reply => (rest reply).bind next

instance : Monad (Program κ Reply ε) where
  pure := .done
  bind := bind

/-- The function on its own: its outcome, and the stores behind it. -/
def run (perform : (command : κ) → τ → Reply command × τ) :
    Program κ Reply ε α → τ → Except ε α × τ
  | .done result, stores => (.ok result, stores)
  | .throw error, stores => (.error error, stores)
  | .perform command next, stores =>
      (next (perform command stores).1).run perform
        (perform command stores).2

variable {perform : (command : κ) → τ → Reply command × τ}

theorem run_bind (program : Program κ Reply ε α)
    (next : α → Program κ Reply ε β) (stores : τ) :
    (program >>= next).run perform stores =
      match program.run perform stores with
      | (.ok result, after) => (next result).run perform after
      | (.error error, after) => (.error error, after) := by
  change (program.bind next).run perform stores = _
  induction program generalizing stores with
  | done result => rfl
  | throw error => rfl
  | perform command rest inductionHypothesis =>
      exact inductionHypothesis _ _

theorem run_bind_ok {program : Program κ Reply ε α} {stores after : τ}
    {result : α}
    (ran : program.run perform stores = (.ok result, after))
    (next : α → Program κ Reply ε β) :
    (program >>= next).run perform stores =
      (next result).run perform after := by
  rw [run_bind, ran]

theorem run_bind_error {program : Program κ Reply ε α} {stores after : τ}
    {error : ε}
    (ran : program.run perform stores = (.error error, after))
    (next : α → Program κ Reply ε β) :
    (program >>= next).run perform stores = (.error error, after) := by
  rw [run_bind, ran]

end Program

end ConcertTicketing
