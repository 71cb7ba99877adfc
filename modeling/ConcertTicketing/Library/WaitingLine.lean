import Mathlib.Data.Finset.Card
import Mathlib.Data.List.Nodup

/-!
# Waiting lines

People wait in a line before a room of limited size.  Whoever comes goes to
the end, whoever is let in leaves at the front, and each of those inside may
stay until an instant of their own.  Who is let in is a function of the line
and of those inside, and any procedure that takes one person after the other
computes it.
-/

namespace ConcertTicketing

universe u

structure WaitingLine (π : Type u) where
  line : List π
  distinct : line.Nodup
  inside : Finset π
  staysUntil : π → Int

namespace WaitingLine

variable {π : Type u}

def empty : WaitingLine π := ⟨[], List.nodup_nil, ∅, fun _ => 0⟩

variable [DecidableEq π]

/-- To the end of the line, unless the person waits already. -/
def join (room : WaitingLine π) (person : π) : WaitingLine π :=
  if waits : person ∈ room.line then room
  else
    { room with
      line := room.line ++ [person]
      distinct := by
        rw [← List.concat_eq_append]
        exact room.distinct.concat waits }

theorem line_join (room : WaitingLine π) (person : π) :
    (room.join person).line =
      if person ∈ room.line then room.line else room.line ++ [person] := by
  unfold join
  split <;> rfl

@[simp]
theorem inside_join (room : WaitingLine π) (person : π) :
    (room.join person).inside = room.inside := by
  unfold join
  split <;> rfl

@[simp]
theorem staysUntil_join (room : WaitingLine π) (person : π) :
    (room.join person).staysUntil = room.staysUntil := by
  unfold join
  split <;> rfl

/-- How many people are in front of somebody who waits. -/
def place? (room : WaitingLine π) (person : π) : Option Nat :=
  room.line.idxOf? person

/-- Those whose time is over have left. -/
def leave (room : WaitingLine π) (now : Int) : WaitingLine π :=
  { room with
    inside := room.inside.filter fun person => now < room.staysUntil person }

/-- From the front of the line, as long as there is room. -/
def admits (cap : Int) : Finset π → List π → List π × List π
  | _, [] => ([], [])
  | inside, person :: rest =>
      if (inside.card : Int) < cap then
        let (admitted, left) := admits cap (insert person inside) rest
        (person :: admitted, left)
      else ([], person :: rest)

inductive Admits (cap : Int) :
    Finset π → List π → List π → List π → Prop
  | closed {inside : Finset π} {line : List π}
      (noMore : cap ≤ (inside.card : Int) ∨ line = []) :
      Admits cap inside line [] line
  | entered {inside : Finset π} {person : π} {rest admitted left : List π}
      (room : (inside.card : Int) < cap)
      (later : Admits cap (insert person inside) rest admitted left) :
      Admits cap inside (person :: rest) (person :: admitted) left

theorem Admits.eq {cap : Int} {inside : Finset π}
    {line admitted left : List π}
    (taken : Admits cap inside line admitted left) :
    admits cap inside line = (admitted, left) := by
  induction taken with
  | @closed inside line noMore =>
      cases line with
      | nil => rfl
      | cons person rest =>
          have full : ¬ (inside.card : Int) < cap := by
            rcases noMore with full | nobody
            · exact not_lt.mpr full
            · cases nobody
          rw [admits, if_neg full]
  | entered room later inductionHypothesis =>
      rw [admits, if_pos room, inductionHypothesis]

theorem admits_append (cap : Int) (inside : Finset π) (line : List π) :
    (admits cap inside line).1 ++ (admits cap inside line).2 = line := by
  induction line generalizing inside with
  | nil => rfl
  | cons person rest inductionHypothesis =>
      rw [admits]
      split
      · exact congrArg (person :: ·) (inductionHypothesis _)
      · rfl

/-- Nobody else comes in when nobody waits or the room is full. -/
theorem admits_of_closed {cap : Int} {inside : Finset π} {line : List π}
    (noMore : cap ≤ (inside.card : Int) ∨ line = []) :
    admits cap inside line = ([], line) :=
  (Admits.closed noMore).eq

def letIn (room : WaitingLine π) (cap stay : Int) : WaitingLine π :=
  let taken := admits cap room.inside room.line
  { line := taken.2
    distinct := by
      have whole := room.distinct
      rw [← admits_append cap room.inside room.line] at whole
      exact whole.of_append_right
    inside := room.inside ∪ taken.1.toFinset
    staysUntil := fun person =>
      if person ∈ taken.1 then stay else room.staysUntil person }

def admitted (room : WaitingLine π) (cap : Int) : List π :=
  (admits cap room.inside room.line).1

/-- After that the room is full, or nobody waits. -/
theorem full_or_empty (room : WaitingLine π) (cap stay : Int) :
    cap ≤ ((room.letIn cap stay).inside.card : Int) ∨
      (room.letIn cap stay).line = [] := by
  have general : ∀ (line : List π) (inside : Finset π),
      cap ≤ ((inside ∪ (admits cap inside line).1.toFinset).card : Int) ∨
        (admits cap inside line).2 = [] := by
    intro line
    induction line with
    | nil => exact fun _ => Or.inr rfl
    | cons person rest inductionHypothesis =>
        intro inside
        rw [admits]
        split
        · have later := inductionHypothesis (insert person inside)
          simpa only [List.toFinset_cons, Finset.union_insert,
            Finset.insert_union] using later
        · next full =>
            left
            simpa using full
  exact general room.line room.inside

/-- To let in twice is to let in once. -/
theorem admitted_letIn (room : WaitingLine π) (cap stay : Int) :
    (room.letIn cap stay).admitted cap = [] := by
  unfold admitted
  rw [admits_of_closed (room.full_or_empty cap stay)]

end WaitingLine

end ConcertTicketing
