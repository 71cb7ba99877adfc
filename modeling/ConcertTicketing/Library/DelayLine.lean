import ConcertTicketing.Library.Machine
import Mathlib.Data.List.Forall2
import Mathlib.Order.Basic

/-!
# Delay lines

What is put into a delay line comes out again after a fixed delay, in the
order in which it was put in: first it is delayed, then ready, then taken.
Whoever runs the line decides when it looks for what is due.
-/

namespace ConcertTicketing

universe u

/-- What is delayed, with the instant since when, and what is ready. -/
structure DelayLine (π : Type u) where
  delayed : List (π × Int)
  ready : List π

namespace DelayLine

variable {π : Type u}

def empty : DelayLine π := ⟨[], []⟩

def put (line : DelayLine π) (payload : π) (now : Int) : DelayLine π :=
  { line with delayed := line.delayed ++ [(payload, now)] }

/-- The oldest one is ready when its time is over. -/
def expire (line : DelayLine π) (delay now : Int) : Option (DelayLine π) :=
  match line.delayed with
  | [] => none
  | (payload, since) :: rest =>
      if since + delay ≤ now then some ⟨rest, line.ready ++ [payload]⟩
      else none

def take (line : DelayLine π) : Option (π × DelayLine π) :=
  match line.ready with
  | [] => none
  | payload :: rest => some (payload, { line with ready := rest })

/-! ## Runs -/

inductive Input (π : Type u) where
  | put (payload : π)
  | expire
  | take
  | tick (elapsed : Nat)

/-- A line refuses nothing; what stands in for one may. -/
inductive Output (π : Type u) where
  | accepted
  | refused
  | expired (moved : Bool)
  | taken (payload : Option π)
  | noted

def machine (delay : Int) :
    Machine (DelayLine π × Int) (Input π) (Output π) where
  reply state
    | .put _ => .accepted
    | .expire => .expired (state.1.expire delay state.2).isSome
    | .take => .taken (state.1.take.map Prod.fst)
    | .tick _ => .noted
  next state
    | .put payload => (state.1.put payload state.2, state.2)
    | .expire => ((state.1.expire delay state.2).getD state.1, state.2)
    | .take => ((state.1.take.map Prod.snd).getD state.1, state.2)
    | .tick elapsed => (state.1, state.2 + elapsed)

def Input.clock (now : Int) : Input π → Int
  | .tick elapsed => now + elapsed
  | _ => now

def puts (now : Int) : List (Input π) → List (π × Int)
  | [] => []
  | .put payload :: rest => (payload, now) :: puts now rest
  | input :: rest => puts (input.clock now) rest

/-- What is taken, and when. -/
def takes (now : Int) : List (Input π × Output π) → List (π × Int)
  | [] => []
  | (.take, .taken (some payload)) :: rest =>
      (payload, now) :: takes now rest
  | (input, _) :: rest => takes (input.clock now) rest

def ComesOut (delay : Int) (put taken : π × Int) : Prop :=
  put.1 = taken.1 ∧ put.2 + delay ≤ taken.2

/-- The first ones come out in their order, each after its time. -/
def InOrder (delay : Int) (put taken : List (π × Int)) : Prop :=
  List.Forall₂ (ComesOut delay) (put.take taken.length) taken

/-- What is ready has been put in long enough ago, and nothing has been put in
later than now. -/
structure Timed (delay now : Int) (line : DelayLine π)
    (due : List (π × Int)) : Prop where
  ready : due.map Prod.fst = line.ready
  waited : ∀ entry ∈ due, entry.2 + delay ≤ now
  past : ∀ entry ∈ line.delayed, entry.2 ≤ now

theorem timed_empty (delay now : Int) :
    Timed delay now (empty : DelayLine π) [] :=
  ⟨rfl, by simp, by simp [empty]⟩

section Steps

variable {delay now : Int} {line : DelayLine π} {due : List (π × Int)}

theorem Timed.put (timed : Timed delay now line due) (payload : π) :
    Timed delay now (line.put payload now) due where
  ready := timed.ready
  waited := timed.waited
  past := by
    intro entry member
    rcases List.mem_append.mp member with old | new
    · exact timed.past entry old
    · obtain rfl := List.mem_singleton.mp new
      exact Int.le_refl now

theorem Timed.tick (timed : Timed delay now line due) (elapsed : Nat) :
    Timed delay (now + elapsed) line due where
  ready := timed.ready
  waited := by
    intro entry member
    have waited := timed.waited entry member
    omega
  past := by
    intro entry member
    have past := timed.past entry member
    omega

theorem Timed.take (timed : Timed delay now line due) :
    ∃ dueAfter, Timed delay now ((line.take.map Prod.snd).getD line)
      dueAfter := by
  cases waits : line.ready with
  | nil =>
      refine ⟨due, ?_⟩
      simpa [DelayLine.take, waits] using timed
  | cons payload ready =>
      have isReady := timed.ready
      rw [waits] at isReady
      obtain ⟨first, others, rfl, rfl, sameReady⟩ :=
        List.map_eq_cons_iff.mp isReady
      have taken : line.take =
          some (first.1, { line with ready := ready }) := by
        simp [DelayLine.take, waits]
      rw [taken]
      exact ⟨others, sameReady,
        fun entry member =>
          timed.waited entry (List.mem_cons_of_mem first member),
        timed.past⟩

/-- The line moves its oldest one, or keeps everything. -/
theorem Timed.expire (timed : Timed delay now line due) :
    ∃ dueAfter,
      Timed delay now ((line.expire delay now).getD line) dueAfter ∧
      dueAfter ++ ((line.expire delay now).getD line).delayed =
        due ++ line.delayed := by
  cases waits : line.delayed with
  | nil =>
      refine ⟨due, ?_, ?_⟩
      · simpa [DelayLine.expire, waits] using timed
      · simp [DelayLine.expire, waits]
  | cons first rest =>
      by_cases isOver : first.2 + delay ≤ now
      · have moves : line.expire delay now =
            some ⟨rest, line.ready ++ [first.1]⟩ := by
          simp [DelayLine.expire, waits, isOver]
        rw [moves]
        refine ⟨due ++ [first], ⟨?_, ?_, ?_⟩, ?_⟩
        · simp [timed.ready]
        · intro entry member
          rcases List.mem_append.mp member with old | new
          · exact timed.waited entry old
          · rw [List.mem_singleton.mp new]
            exact isOver
        · intro entry member
          apply timed.past entry
          rw [waits]
          exact List.mem_cons_of_mem first member
        · simp
      · have stays : line.expire delay now = none := by
          simp [DelayLine.expire, waits, isOver]
        rw [stays, Option.getD_none, waits]
        exact ⟨due, timed, rfl⟩

end Steps

/-- From any state: what is ready, then what is delayed, then what is put
in. -/
theorem inOrder_from {delay now : Int} {line : DelayLine π}
    {due : List (π × Int)} (timed : Timed delay now line due)
    (inputs : List (Input π)) :
    InOrder delay (due ++ line.delayed ++ puts now inputs)
      (takes now ((machine delay).answers (line, now) inputs)) := by
  induction inputs generalizing now line due with
  | nil => exact List.Forall₂.nil
  | cons input rest inductionHypothesis =>
      cases input with
      | put payload =>
          have later := inductionHypothesis (timed.put payload)
          simpa [puts, takes, Machine.answers, machine, DelayLine.put,
            Input.clock] using later
      | expire =>
          obtain ⟨dueAfter, timedAfter, same⟩ := timed.expire
          have later := inductionHypothesis timedAfter
          rw [same] at later
          exact later
      | take =>
          cases waits : line.ready with
          | nil =>
              have nothing : line.take = none := by
                simp [DelayLine.take, waits]
              have later := inductionHypothesis timed
              simpa [puts, takes, Machine.answers, machine, nothing,
                Input.clock] using later
          | cons payload ready =>
              have taken : line.take =
                  some (payload, { line with ready := ready }) := by
                simp [DelayLine.take, waits]
              have isReady := timed.ready
              rw [waits] at isReady
              obtain ⟨first, others, rfl, rfl, sameReady⟩ :=
                List.map_eq_cons_iff.mp isReady
              have timedAfter : Timed delay now { line with ready := ready }
                  others :=
                ⟨sameReady,
                  fun entry member =>
                    timed.waited entry (List.mem_cons_of_mem first member),
                  timed.past⟩
              have later := inductionHypothesis timedAfter
              have waited := timed.waited first List.mem_cons_self
              simp only [puts, takes, Machine.answers, machine, taken,
                Option.map_some, Option.getD_some, Input.clock]
              exact List.Forall₂.cons ⟨rfl, waited⟩ later
      | tick elapsed => exact inductionHypothesis (timed.tick elapsed)

/-- What comes out of a line that was empty. -/
theorem inOrder (delay now : Int) (inputs : List (Input π)) :
    InOrder delay (puts now inputs)
      (takes now ((machine delay).answers (empty, now) inputs)) :=
  inOrder_from (timed_empty delay now) inputs

/-- What is in the line and what is put in is what is taken and what is in the
line at the end. -/
theorem conserved_from (delay now : Int) (line : DelayLine π)
    (inputs : List (Input π)) :
    line.ready ++ line.delayed.map Prod.fst ++
        (puts now inputs).map Prod.fst =
      (takes now ((machine delay).answers (line, now) inputs)).map Prod.fst ++
        (((machine delay).after (line, now) inputs).1.ready ++
          ((machine delay).after (line, now) inputs).1.delayed.map
            Prod.fst) := by
  induction inputs generalizing now line with
  | nil => simp [puts, takes, Machine.answers, Machine.after]
  | cons input rest inductionHypothesis =>
      cases input with
      | put payload =>
          have later := inductionHypothesis now (line.put payload now)
          simpa [puts, takes, Machine.answers, Machine.after, machine,
            DelayLine.put, Input.clock] using later
      | expire =>
          have same : ((line.expire delay now).getD line).ready ++
              ((line.expire delay now).getD line).delayed.map Prod.fst =
                line.ready ++ line.delayed.map Prod.fst := by
            cases waits : line.delayed with
            | nil => simp [DelayLine.expire, waits]
            | cons first others =>
                by_cases isOver : first.2 + delay ≤ now
                · simp [DelayLine.expire, waits, isOver]
                · simp [DelayLine.expire, waits, isOver]
          have later := inductionHypothesis now
            ((line.expire delay now).getD line)
          rw [same] at later
          exact later
      | take =>
          cases waits : line.ready with
          | nil =>
              have later := inductionHypothesis now line
              simpa [puts, takes, Machine.answers, Machine.after, machine,
                DelayLine.take, waits, Input.clock] using later
          | cons payload ready =>
              have later := inductionHypothesis now
                { line with ready := ready }
              simpa [puts, takes, Machine.answers, Machine.after, machine,
                DelayLine.take, waits, Input.clock] using later
      | tick elapsed => exact inductionHypothesis (now + elapsed) line

/-- When everything is due, so many looks make everything ready. -/
theorem after_expire {delay now : Int} {count : Nat} {line : DelayLine π}
    (waited : ∀ entry ∈ line.delayed, entry.2 + delay ≤ now)
    (enough : line.delayed.length ≤ count) :
    (machine delay).after (line, now) (List.replicate count .expire) =
      (⟨[], line.ready ++ line.delayed.map Prod.fst⟩, now) := by
  induction count generalizing line with
  | zero =>
      have nothing := List.length_eq_zero_iff.mp (Nat.le_zero.mp enough)
      cases line
      simp_all [Machine.after]
  | succ count inductionHypothesis =>
      cases waits : line.delayed with
      | nil =>
          have stays : line.expire delay now = none := by
            simp [DelayLine.expire, waits]
          have later := inductionHypothesis waited (by simp [waits])
          rw [waits] at later
          simpa [Machine.after, List.replicate_succ, machine, stays] using
            later
      | cons first rest =>
          rw [waits] at waited enough
          obtain ⟨isOver, others⟩ := List.forall_mem_cons.mp waited
          have moves : line.expire delay now =
              some ⟨rest, line.ready ++ [first.1]⟩ := by
            simp [DelayLine.expire, waits, isOver]
          have later := @inductionHypothesis
            ⟨rest, line.ready ++ [first.1]⟩ others
            (Nat.le_of_succ_le_succ enough)
          simpa [Machine.after, List.replicate_succ, machine, moves] using
            later

/-- So many takes empty what is ready. -/
theorem after_take {delay now : Int} {count : Nat} {line : DelayLine π}
    (enough : line.ready.length ≤ count) :
    (machine delay).after (line, now) (List.replicate count .take) =
      (⟨line.delayed, []⟩, now) := by
  induction count generalizing line with
  | zero =>
      have nothing := List.length_eq_zero_iff.mp (Nat.le_zero.mp enough)
      cases line
      simp_all [Machine.after]
  | succ count inductionHypothesis =>
      cases waits : line.ready with
      | nil =>
          have stays : line.take = none := by
            simp [DelayLine.take, waits]
          have later := @inductionHypothesis line (by simp [waits])
          simpa [Machine.after, List.replicate_succ, machine, stays] using
            later
      | cons payload rest =>
          rw [waits] at enough
          have taken : line.take =
              some (payload, { line with ready := rest }) := by
            simp [DelayLine.take, waits]
          have later := @inductionHypothesis { line with ready := rest }
            (Nat.le_of_succ_le_succ enough)
          simpa [Machine.after, List.replicate_succ, machine, taken] using
            later

/-- The delay passes, and everything that may be in the line is looked for and
taken. -/
def flush (π : Type u) (delay : Int) (count : Nat) : List (Input π) :=
  .tick delay.toNat ::
    (List.replicate count .expire ++ List.replicate count .take)

/-- Looks and takes put nothing in. -/
theorem puts_looks (now : Int) (count more : Nat) :
    puts now (List.replicate count .expire ++
      List.replicate more (.take : Input π)) = [] := by
  induction count with
  | zero =>
      induction more with
      | zero => rfl
      | succ more inductionHypothesis => exact inductionHypothesis
  | succ count inductionHypothesis => exact inductionHypothesis

theorem puts_append_flush (now delay : Int) (count : Nat)
    (inputs : List (Input π)) :
    puts now (inputs ++ flush π delay count) = puts now inputs := by
  induction inputs generalizing now with
  | nil => exact puts_looks (now + delay.toNat) count count
  | cons input rest inductionHypothesis =>
      cases input with
      | put payload =>
          exact congrArg ((payload, now) :: ·) (inductionHypothesis now)
      | expire => exact inductionHypothesis now
      | take => exact inductionHypothesis now
      | tick elapsed => exact inductionHypothesis (now + elapsed)

/-- The line stays timed. -/
theorem timed_after {delay now : Int} {line : DelayLine π}
    {due : List (π × Int)} (timed : Timed delay now line due)
    (inputs : List (Input π)) :
    ∃ dueAfter, Timed delay ((machine delay).after (line, now) inputs).2
      ((machine delay).after (line, now) inputs).1 dueAfter := by
  induction inputs generalizing now line due with
  | nil => exact ⟨due, timed⟩
  | cons input rest inductionHypothesis =>
      cases input with
      | put payload => exact inductionHypothesis (timed.put payload)
      | expire =>
          obtain ⟨dueAfter, timedAfter, _⟩ := timed.expire
          exact inductionHypothesis timedAfter
      | take =>
          obtain ⟨dueAfter, timedAfter⟩ := timed.take
          exact inductionHypothesis timedAfter
      | tick elapsed => exact inductionHypothesis (timed.tick elapsed)

theorem after_append (delay : Int) (state : DelayLine π × Int)
    (first second : List (Input π)) :
    (machine delay).after state (first ++ second) =
      (machine delay).after ((machine delay).after state first) second :=
  List.foldl_append

/-- A flush empties the line. -/
theorem after_flush {delay now : Int} {count : Nat} {line : DelayLine π}
    {due : List (π × Int)} (timed : Timed delay now line due)
    (enough : line.ready.length + line.delayed.length ≤ count) :
    (machine delay).after (line, now) (flush π delay count) =
      (empty, now + delay.toNat) := by
  have waited : ∀ entry ∈ line.delayed,
      entry.2 + delay ≤ now + delay.toNat := by
    intro entry member
    have past := timed.past entry member
    omega
  have moved := after_expire waited (by omega : line.delayed.length ≤ count)
  have taken := @after_take π delay (now + delay.toNat) count
    ⟨[], line.ready ++ line.delayed.map Prod.fst⟩ (by simpa using enough)
  calc
    (machine delay).after (line, now) (flush π delay count) =
        (machine delay).after
          ((machine delay).after (line, now + delay.toNat)
            (List.replicate count .expire))
          (List.replicate count .take) := after_append delay _ _ _
    _ = (empty, now + delay.toNat) := by
        rw [moved]
        exact taken

/-- Whatever has been put in comes out of a line that is flushed. -/
theorem come_through {delay now : Int} {count : Nat}
    {inputs : List (Input π)} (enough : (puts now inputs).length ≤ count) :
    (takes now ((machine delay).answers (empty, now)
        (inputs ++ flush π delay count))).map Prod.fst =
      (puts now inputs).map Prod.fst := by
  have all := conserved_from delay now empty (inputs ++ flush π delay count)
  have before := conserved_from delay now empty inputs
  obtain ⟨due, timed⟩ := timed_after (timed_empty delay now) inputs
  have room :
      ((machine delay).after (empty, now) inputs).1.ready.length +
        ((machine delay).after (empty, now) inputs).1.delayed.length ≤
          count := by
    have fits := congrArg List.length before
    simp only [List.length_map, List.length_append] at fits
    have none : (empty : DelayLine π).ready.length +
        (empty : DelayLine π).delayed.length = 0 := rfl
    omega
  have emptied := after_flush timed room
  rw [puts_append_flush, after_append, emptied] at all
  simpa [empty] using all.symm

end DelayLine

end ConcertTicketing
