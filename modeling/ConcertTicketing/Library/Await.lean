import ConcertTicketing.Library.Trace
import Mathlib.Data.List.Basic

/-!
# Async functions as machines of their awaits

An async function runs from one `await` to the next.  A stage names the remote
call that is awaited; one step performs that call on the shared stores and
runs the code up to the next `await`.  A call can also reject, before or after
it took effect, and the process can stop while it is pending.

The functions in flight are kept in a list of calls; a step advances one of
them.
-/

namespace ConcertTicketing

universe u v w x y z

/-- How a pending remote call ends. -/
inductive Await where
  | resolves
  /-- The caller sees an error; the call may have been applied all the same. -/
  | rejects (applied : Bool)
  | stops
  deriving DecidableEq, Repr

namespace Await

def Applies : Await → Bool
  | .resolves => true
  | .rejects applied => applied
  | .stops => false

/-- Of the calls that end as listed, the one at the position takes effect. -/
def appliesAt (outcomes : List Await) (position : Nat) : Bool :=
  outcomes[position]?.any Applies

@[simp]
theorem appliesAt_cons_zero (outcome : Await) (rest : List Await) :
    appliesAt (outcome :: rest) 0 = outcome.Applies := rfl

end Await

inductive Progress (σ : Type u) (ρ : Type v) where
  | running (stage : σ)
  | failed (stage : σ) (applied : Bool)
  | stopped (stage : σ)
  | finished (result : ρ)
  deriving DecidableEq, Repr

namespace Progress

variable {σ : Type u} {ρ : Type v}

/-- The stage the function is in or ended in, unless it returned. -/
def stage? : Progress σ ρ → Option σ
  | .running stage => some stage
  | .failed stage _ => some stage
  | .stopped stage => some stage
  | .finished _ => none

/-- A remote call of the function is pending. -/
def isRunning : Progress σ ρ → Bool
  | .running _ => true
  | _ => false

end Progress

/-- The code of an async function: what each awaited call does to the stores
when it is enabled, and how the function goes on. -/
structure AsyncFunction (τ : Type x) (σ : Type u) (ρ : Type v) where
  resolve : τ → σ → Option (τ × Progress σ ρ)
  reject : σ → Bool → Progress σ ρ

namespace AsyncFunction

variable {τ : Type x} {σ : Type u} {ρ : Type v}

/-- One step of the function in the given stage. -/
def await (function : AsyncFunction τ σ ρ) (stores : τ) (stage : σ) :
    Await → Option (τ × Progress σ ρ)
  | .resolves => function.resolve stores stage
  | .rejects true =>
      (function.resolve stores stage).map fun resolved =>
        (resolved.1, function.reject stage true)
  | .rejects false => some (stores, function.reject stage false)
  | .stops => some (stores, .stopped stage)

/-- A step either performs the awaited call or leaves the stores alone. -/
theorem await_cases {function : AsyncFunction τ σ ρ} {stores after : τ}
    {stage : σ} {outcome : Await} {progress : Progress σ ρ}
    (awaited : function.await stores stage outcome = some (after, progress)) :
    (∃ resolved, function.resolve stores stage = some (after, resolved) ∧
      outcome.Applies = true ∧
      (outcome = .resolves ∧ progress = resolved ∨
        outcome = .rejects true ∧
          progress = function.reject stage true)) ∨
    (after = stores ∧ outcome.Applies = false ∧
      (outcome = .rejects false ∧
          progress = function.reject stage false ∨
        outcome = .stops ∧ progress = .stopped stage)) := by
  cases outcome with
  | resolves =>
      exact Or.inl ⟨progress, awaited, rfl, Or.inl ⟨rfl, rfl⟩⟩
  | rejects applied =>
      cases applied with
      | true =>
          simp only [await, Option.map_eq_some_iff] at awaited
          obtain ⟨⟨reached, resolved⟩, performed, same⟩ := awaited
          cases same
          exact Or.inl ⟨resolved, performed, rfl, Or.inr ⟨rfl, rfl⟩⟩
      | false =>
          cases awaited
          exact Or.inr ⟨rfl, rfl, Or.inl ⟨rfl, rfl⟩⟩
  | stops =>
      cases awaited
      exact Or.inr ⟨rfl, rfl, Or.inr ⟨rfl, rfl⟩⟩

/-- When a rejected call ends the function with the error, a step resolves or
ends the function in its stage. -/
theorem resolves_or_ends {function : AsyncFunction τ σ ρ} {stores after : τ}
    {stage : σ} {outcome : Await} {progress : Progress σ ρ}
    (throws : ∀ applied, function.reject stage applied = .failed stage applied)
    (awaited : function.await stores stage outcome = some (after, progress)) :
    (outcome = .resolves ∧
      function.resolve stores stage = some (after, progress)) ∨
    progress = .failed stage outcome.Applies ∨ progress = .stopped stage := by
  rcases await_cases awaited with
    ⟨resolved, performed, applies, ⟨resolves, same⟩ | ⟨_, same⟩⟩ |
      ⟨_, idle, ⟨_, same⟩ | ⟨_, same⟩⟩
  · rw [same]
    exact Or.inl ⟨resolves, performed⟩
  · rw [same, throws, applies]
    exact Or.inr (Or.inl rfl)
  · rw [same, throws, idle]
    exact Or.inr (Or.inl rfl)
  · exact Or.inr (Or.inr same)

/-- The function runs from a stage to its end with nothing in between and no
failure. -/
inductive Completes (function : AsyncFunction τ σ ρ) :
    τ → σ → τ → ρ → Prop
  | last {stores after : τ} {stage : σ} {result : ρ}
      (resolved :
        function.resolve stores stage = some (after, .finished result)) :
      Completes function stores stage after result
  | next {stores middle after : τ} {stage later : σ} {result : ρ}
      (resolved :
        function.resolve stores stage = some (middle, .running later))
      (rest : Completes function middle later after result) :
      Completes function stores stage after result

/-- The function runs from a stage to its end with nothing in between, its
awaits ending as listed. -/
def execute (function : AsyncFunction τ σ ρ) :
    List Await → τ → σ → Option (τ × Progress σ ρ)
  | [], _, _ => none
  | outcome :: rest, stores, stage =>
      match function.await stores stage outcome with
      | some (after, .running later) => function.execute rest after later
      | ended => if rest = [] then ended else none

section Execute

variable {function : AsyncFunction τ σ ρ} {outcome : Await}
  {outcomes rest : List Await} {stores after : τ} {stage : σ}
  {progress : Progress σ ρ}

theorem execute_resolves {middle : τ} {later : σ}
    (performed :
      function.resolve stores stage = some (middle, .running later)) :
    function.execute (.resolves :: rest) stores stage =
      function.execute rest middle later := by
  simp only [execute, await, performed]

/-- The first await ends the function, or it resolves and the function goes
on. -/
theorem execute_cases
    (ends : ∀ stage applied,
      (function.reject stage applied).isRunning = false)
    (executed :
      function.execute (outcome :: rest) stores stage =
        some (after, progress)) :
    (rest = [] ∧ progress.isRunning = false ∧
      function.await stores stage outcome = some (after, progress)) ∨
    ∃ middle later,
      outcome = .resolves ∧
      function.resolve stores stage = some (middle, .running later) ∧
      function.execute rest middle later = some (after, progress) := by
  simp only [execute] at executed
  split at executed
  · next middle later awaited =>
      rcases await_cases awaited with
        ⟨resolved, performed, _, ⟨resolves, same⟩ | ⟨_, same⟩⟩ |
          ⟨_, _, ⟨_, same⟩ | ⟨_, same⟩⟩
      · rw [← same] at performed
        exact Or.inr ⟨middle, later, resolves, performed, executed⟩
      · have ended := ends stage true
        rw [← same] at ended
        cases ended
      · have ended := ends stage false
        rw [← same] at ended
        cases ended
      · cases same
  · next ended =>
      split at executed
      · next last =>
          refine Or.inl ⟨last, ?_, executed⟩
          cases progress with
          | running later => exact absurd executed (ended after later)
          | failed _ _ => rfl
          | stopped _ => rfl
          | finished _ => rfl
      · cases executed

/-- A property of the stores that every call awaited from some stages on
keeps. -/
theorem execute_invariant (within : σ → Prop) (invariant : τ → Prop)
    (ends : ∀ stage applied,
      (function.reject stage applied).isRunning = false)
    (preserved : ∀ stores stage after progress,
      within stage →
      invariant stores →
      function.resolve stores stage = some (after, progress) →
      invariant after ∧ ∀ later, progress = .running later → within later)
    (executed :
      function.execute outcomes stores stage = some (after, progress))
    (inside : within stage) (holds : invariant stores) :
    invariant after := by
  induction outcomes generalizing stores stage with
  | nil => cases executed
  | cons outcome rest inductionHypothesis =>
      rcases execute_cases ends executed with
        ⟨_, _, awaited⟩ | ⟨middle, later, _, performed, goesOn⟩
      · rcases await_cases awaited with ⟨resolved, performed, _⟩ | ⟨idle, _⟩
        · exact (preserved _ _ _ _ inside holds performed).1
        · rw [idle]
          exact holds
      · have kept := preserved _ _ _ _ inside holds performed
        exact inductionHypothesis goesOn (kept.2 later rfl) kept.1

/-- An execution has ended. -/
theorem execute_ended
    (ends : ∀ stage applied,
      (function.reject stage applied).isRunning = false)
    (executed :
      function.execute outcomes stores stage = some (after, progress)) :
    progress.isRunning = false := by
  induction outcomes generalizing stores stage with
  | nil => cases executed
  | cons outcome rest inductionHypothesis =>
      rcases execute_cases ends executed with
        ⟨_, done, _⟩ | ⟨middle, later, _, _, goesOn⟩
      · exact done
      · exact inductionHypothesis goesOn

/-- An execution is a run of a system that holds the function as one of its
calls. -/
theorem run_of_execute {ω : Type y} {α : Type z} {step : ω → α → Option ω}
    {embed : τ → Progress σ ρ → ω} {act : Await → α}
    (ends : ∀ stage applied,
      (function.reject stage applied).isRunning = false)
    (steps : ∀ stores stage outcome,
      step (embed stores (.running stage)) (act outcome) =
        (function.await stores stage outcome).map
          fun stepped => embed stepped.1 stepped.2)
    (executed :
      function.execute outcomes stores stage = some (after, progress)) :
    ∃ history,
      Trace step (embed stores (.running stage)) history
        (embed after progress) := by
  induction outcomes generalizing stores stage with
  | nil => cases executed
  | cons outcome rest inductionHypothesis =>
      rcases execute_cases ends executed with
        ⟨_, _, awaited⟩ | ⟨middle, later, rfl, performed, goesOn⟩
      · have stepped := steps stores stage outcome
        rw [awaited, Option.map_some] at stepped
        exact ⟨_, Trace.nil.snoc stepped⟩
      · have awaited : function.await stores stage .resolves =
            some (middle, .running later) := performed
        have stepped := steps stores stage .resolves
        rw [awaited, Option.map_some] at stepped
        obtain ⟨history, run⟩ := inductionHypothesis goesOn
        exact ⟨_, (Trace.nil.snoc stepped).append run⟩

end Execute

end AsyncFunction

/-- An async function in flight, with the input it was called with. -/
structure Call (ι : Type w) (σ : Type u) (ρ : Type v) where
  input : ι
  progress : Progress σ ρ
  deriving DecidableEq, Repr

namespace Call

variable {ι : Type w} {τ : Type x} {σ : Type u} {ρ : Type v}

/-- Let one running call of a list take its next step. -/
def advance (function : ι → AsyncFunction τ σ ρ)
    (calls : List (Call ι σ ρ)) (index : Nat) (outcome : Await)
    (stores : τ) : Option (τ × List (Call ι σ ρ)) :=
  match calls[index]? with
  | some ⟨input, .running stage⟩ =>
      ((function input).await stores stage outcome).map fun stepped =>
        (stepped.1, calls.set index ⟨input, stepped.2⟩)
  | _ => none

/-- The last call of a list takes its next step. -/
theorem advance_last {function : ι → AsyncFunction τ σ ρ}
    (calls : List (Call ι σ ρ)) (input : ι) (stage : σ) (outcome : Await)
    (stores : τ) :
    advance function (calls ++ [⟨input, .running stage⟩]) calls.length outcome
        stores =
      ((function input).await stores stage outcome).map
        fun stepped => (stepped.1, calls ++ [⟨input, stepped.2⟩]) := by
  simp [advance]

theorem advance_cases {function : ι → AsyncFunction τ σ ρ}
    {calls advanced : List (Call ι σ ρ)} {index : Nat} {outcome : Await}
    {stores after : τ}
    (stepped :
      advance function calls index outcome stores = some (after, advanced)) :
    ∃ input stage progress,
      calls[index]? = some ⟨input, .running stage⟩ ∧
      (function input).await stores stage outcome = some (after, progress) ∧
      advanced = calls.set index ⟨input, progress⟩ := by
  unfold advance at stepped
  split at stepped
  · next input stage found =>
      simp only [Option.map_eq_some_iff] at stepped
      obtain ⟨⟨reached, progress⟩, awaited, same⟩ := stepped
      cases same
      exact ⟨input, stage, progress, found, awaited, rfl⟩
  · cases stepped

def runningAt (calls : List (Call ι σ ρ)) (index : Nat) : Option (ι × σ) :=
  match calls[index]? with
  | some ⟨input, .running stage⟩ => some (input, stage)
  | _ => none

def applied (calls : List (Call ι σ ρ)) (index : Nat) (outcome : Await) :
    Option (ι × σ) :=
  if outcome.Applies then runningAt calls index else none

theorem runningAt_eq_some {calls : List (Call ι σ ρ)} {index : Nat}
    {input : ι} {stage : σ} :
    runningAt calls index = some (input, stage) ↔
      calls[index]? = some ⟨input, .running stage⟩ := by
  unfold runningAt
  split
  · next found => simp [found]
  · next other =>
      constructor
      · intro none
        cases none
      · intro found
        exact absurd found (other input stage)

theorem applied_of_found {calls : List (Call ι σ ρ)} {index : Nat}
    {input : ι} {stage : σ} {outcome : Await}
    (found : calls[index]? = some ⟨input, .running stage⟩) :
    applied calls index outcome =
      if outcome.Applies then some (input, stage) else none := by
  unfold applied
  rw [runningAt_eq_some.mpr found]

theorem applied_eq_some {calls : List (Call ι σ ρ)} {index : Nat}
    {input : ι} {stage : σ} {outcome : Await} :
    applied calls index outcome = some (input, stage) ↔
      outcome.Applies = true ∧
        calls[index]? = some ⟨input, .running stage⟩ := by
  unfold applied
  by_cases applies : outcome.Applies = true
  · rw [if_pos applies, runningAt_eq_some]
    simp [applies]
  · rw [if_neg applies]
    simp [applies]

/-- The calls after one of them has been replaced. -/
theorem getElem?_set_cases {calls : List (Call ι σ ρ)} {index : Nat}
    {before changed : Call ι σ ρ} (found : calls[index]? = some before)
    {other : Nat} {call : Call ι σ ρ}
    (reached : (calls.set index changed)[other]? = some call) :
    (other = index ∧ call = changed) ∨
      (other ≠ index ∧ calls[other]? = some call) := by
  by_cases same : other = index
  · subst other
    have inside : index < calls.length :=
      (List.getElem?_eq_some_iff.mp found).1
    rw [List.getElem?_set_self inside] at reached
    exact Or.inl ⟨rfl, (Option.some.inj reached).symm⟩
  · rw [List.getElem?_set_ne (Ne.symm same)] at reached
    exact Or.inr ⟨same, reached⟩

/-- A call is still there unless it is the one that has been replaced. -/
theorem mem_set_of_mem {calls : List (Call ι σ ρ)} {index : Nat}
    {before : Call ι σ ρ} (found : calls[index]? = some before)
    (changed : Call ι σ ρ) {call : Call ι σ ρ} (member : call ∈ calls) :
    call ∈ calls.set index changed ∨ call = before := by
  obtain ⟨position, reached⟩ := List.mem_iff_getElem?.mp member
  by_cases same : position = index
  · subst position
    rw [found] at reached
    exact Or.inr (Option.some.inj reached).symm
  · left
    apply List.mem_iff_getElem?.mpr
    refine ⟨position, ?_⟩
    rw [List.getElem?_set_ne (Ne.symm same)]
    exact reached

/-- What some call has before one of them is replaced, some call has
afterwards, if the replaced one does not lose it. -/
theorem exists_mem_set {calls : List (Call ι σ ρ)} {index : Nat}
    {before : Call ι σ ρ} (found : calls[index]? = some before)
    {changed : Call ι σ ρ} {property : Call ι σ ρ → Prop}
    (keeps : property before → property changed)
    (has : ∃ call ∈ calls, property call) :
    ∃ call ∈ calls.set index changed, property call := by
  obtain ⟨call, member, holds⟩ := has
  rcases mem_set_of_mem found changed member with kept | rfl
  · exact ⟨call, kept, holds⟩
  · refine ⟨changed, ?_, keeps holds⟩
    exact List.mem_set (List.getElem?_eq_some_iff.mp found).1 changed

theorem mem_set_self {calls : List (Call ι σ ρ)} {index : Nat}
    {before : Call ι σ ρ} (found : calls[index]? = some before)
    (changed : Call ι σ ρ) : changed ∈ calls.set index changed :=
  List.mem_set (List.getElem?_eq_some_iff.mp found).1 changed

/-- The calls after a new one has been added. -/
theorem getElem?_append_cases {calls : List (Call ι σ ρ)}
    {added : Call ι σ ρ} {other : Nat} {call : Call ι σ ρ}
    (reached : (calls ++ [added])[other]? = some call) :
    calls[other]? = some call ∨
      (other = calls.length ∧ call = added) := by
  rw [List.getElem?_append] at reached
  split at reached
  · exact Or.inl reached
  · next beyond =>
      obtain ⟨inside, found⟩ := List.getElem?_eq_some_iff.mp reached
      simp only [List.length_singleton] at inside
      have position : other = calls.length := by omega
      subst position
      simp at found
      exact Or.inr ⟨rfl, found.symm⟩

end Call

/-- The ids of the calls are below the counter, and no two calls have drawn
the same id. -/
structure DrawnOnce {γ : Type u} (idOf : γ → Option Nat) (calls : List γ)
    (counter : Nat) : Prop where
  below : ∀ (index : Nat) (call : γ) (id : Nat),
    calls[index]? = some call →
    idOf call = some id →
    id < counter
  once : ∀ (first second : Nat) (one other : γ) (id : Nat),
    calls[first]? = some one →
    calls[second]? = some other →
    idOf one = some id →
    idOf other = some id →
    first = second

/-- Every id after a step is an old id of the same call, or the call that
took the step has drawn it from the counter. -/
theorem DrawnOnce.step {γ : Type u} {idOf : γ → Option Nat}
    {calls after : List γ} {counter counterAfter : Nat} {drawer : Option Nat}
    (drawn : DrawnOnce idOf calls counter)
    (upwards : counter ≤ counterAfter)
    (origin : ∀ (index : Nat) (call : γ) (id : Nat),
      after[index]? = some call →
      idOf call = some id →
      (∃ earlier, calls[index]? = some earlier ∧ idOf earlier = some id) ∨
        (id = counter ∧ counter < counterAfter ∧ drawer = some index)) :
    DrawnOnce idOf after counterAfter where
  below := by
    intro index call id reached has
    rcases origin index call id reached has with
      ⟨earlier, found, had⟩ | ⟨rfl, advanced, _⟩
    · have bound := drawn.below index earlier id found had
      omega
    · exact advanced
  once := by
    intro first second one other id reachedFirst reachedSecond hasFirst
      hasSecond
    rcases origin first one id reachedFirst hasFirst with
      ⟨earlier, found, had⟩ | ⟨new, _, drew⟩
    · rcases origin second other id reachedSecond hasSecond with
        ⟨twin, foundTwin, hadTwin⟩ | ⟨new, _, _⟩
      · exact drawn.once first second earlier twin id found foundTwin had
          hadTwin
      · have bound := drawn.below first earlier id found had
        omega
    · rcases origin second other id reachedSecond hasSecond with
        ⟨twin, foundTwin, hadTwin⟩ | ⟨_, _, drewTwin⟩
      · have bound := drawn.below second twin id foundTwin hadTwin
        omega
      · rw [drew] at drewTwin
        exact Option.some.inj drewTwin

end ConcertTicketing
