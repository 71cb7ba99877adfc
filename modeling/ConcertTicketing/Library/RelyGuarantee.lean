import ConcertTicketing.Library.Program
import ConcertTicketing.Library.Server

/-!
# Programs among others

Several programs run on shared stores, one command at a time.  What a program
may rely on is a relation between the stores at two moments; a program is safe
when, under everything that it relies on, each of its commands is good at the
moment it is performed.  If good commands in turn do what the others rely on,
all programs stay safe.
-/

namespace ConcertTicketing

universe u v w x y z u₁

namespace Program

variable {κ : Type u} {Reply : κ → Type v} {ε : Type w} {α β : Type x}
  {τ : Type y}

/-- From the given stores on, the program performs good commands only,
whatever happens to the stores in between, and returns with `post`. -/
def Safe (perform : (command : κ) → τ → Reply command × τ)
    (rely : τ → τ → Prop) (good : κ → τ → Prop) :
    Program κ Reply ε α → (α → τ → Prop) → τ → Prop
  | .done result, post, stores => post result stores
  | .throw _, _, _ => True
  | .perform command next, post, stores =>
      ∀ later, rely stores later →
        good command later ∧
          Safe perform rely good (next (perform command later).1) post
            (perform command later).2

def isDone : Program κ Reply ε α → Bool
  | .done _ => true
  | _ => false

/-- The program returns only with the reply to a command that is a key at the
moment it is performed. -/
def ReturnsWith (perform : (command : κ) → τ → Reply command × τ)
    (key : κ → τ → Prop) : Program κ Reply ε α → Prop
  | .done _ => False
  | .throw _ => True
  | .perform command next =>
      ∀ stores,
        ((next (perform command stores).1).isDone = true ∧
          key command stores) ∨
        ReturnsWith perform key (next (perform command stores).1)

section Rules

variable {perform : (command : κ) → τ → Reply command × τ}
  {rely : τ → τ → Prop} {good key : κ → τ → Prop}

/-- Safety is stable under what the program relies on. -/
theorem Safe.later (transitive : ∀ first second third,
      rely first second → rely second third → rely first third)
    {program : Program κ Reply ε α} {post : α → τ → Prop} {stores later : τ}
    (stable : ∀ result, post result stores → post result later)
    (safe : program.Safe perform rely good post stores)
    (goesOn : rely stores later) :
    program.Safe perform rely good post later := by
  cases program with
  | done result => exact stable result safe
  | throw error => trivial
  | perform command next =>
      intro last relied
      exact safe last (transitive stores later last goesOn relied)

/-- The rule of consequence. -/
theorem Safe.weaken {program : Program κ Reply ε α}
    {strong weak : α → τ → Prop} {stores : τ}
    (safe : program.Safe perform rely good strong stores)
    (implies : ∀ result later, strong result later → weak result later) :
    program.Safe perform rely good weak stores := by
  induction program generalizing stores with
  | done result => exact implies result stores safe
  | throw error => trivial
  | perform command next inductionHypothesis =>
      intro later relied
      obtain ⟨isGood, rest⟩ := safe later relied
      exact ⟨isGood, inductionHypothesis _ rest⟩

/-- The rule of sequence. -/
theorem Safe.bind {program : Program κ Reply ε α}
    {next : α → Program κ Reply ε β} {post : β → τ → Prop} {stores : τ}
    (safe : program.Safe perform rely good
      (fun result later => (next result).Safe perform rely good post later)
      stores) :
    (program >>= next).Safe perform rely good post stores := by
  change (program.bind next).Safe perform rely good post stores
  induction program generalizing stores with
  | done result => exact safe
  | throw error => trivial
  | perform command rest inductionHypothesis =>
      intro later relied
      obtain ⟨isGood, restSafe⟩ := safe later relied
      exact ⟨isGood, inductionHypothesis _ restSafe⟩

theorem Safe.call {command : κ} {post : Reply command → τ → Prop}
    {stores : τ}
    (replies : ∀ later, rely stores later →
      good command later ∧
        post (perform command later).1 (perform command later).2) :
    (Program.call (ε := ε) command).Safe perform rely good post stores :=
  replies

theorem ReturnsWith.isDone {program : Program κ Reply ε α}
    (returns : program.ReturnsWith perform key) : program.isDone = false := by
  cases program with
  | done result => exact returns.elim
  | throw error => rfl
  | perform command next => rfl

theorem returnsWith_bind (program : Program κ Reply ε α)
    {next : α → Program κ Reply ε β}
    (returns : ∀ result, (next result).ReturnsWith perform key) :
    (program >>= next).ReturnsWith perform key := by
  change (program.bind next).ReturnsWith perform key
  induction program with
  | done result => exact returns result
  | throw error => trivial
  | perform command rest inductionHypothesis =>
      intro stores
      exact Or.inr (inductionHypothesis _)

end Rules

end Program

/-- A request and what is left of the program that serves it. -/
structure ProgramCall (ι : Type z) (κ : Type u) (Reply : κ → Type v)
    (ε : Type w) (α : Type x) where
  input : ι
  rest : Program κ Reply ε α

namespace ProgramCall

variable {ι : Type z} {κ : Type u} {Reply : κ → Type v} {ε : Type w}
  {α : Type x}

def pending (call : ProgramCall ι κ Reply ε α) :
    Option (Pending κ Reply (ProgramCall ι κ Reply ε α)) :=
  match call.rest with
  | .perform command next =>
      some ⟨command, fun reply => ⟨call.input, next reply⟩⟩
  | _ => none

theorem pending_eq_some {call : ProgramCall ι κ Reply ε α}
    {pending : Pending κ Reply (ProgramCall ι κ Reply ε α)}
    (waits : call.pending = some pending) :
    ∃ next, call.rest = .perform pending.command next ∧
      ∀ reply, pending.next reply = ⟨call.input, next reply⟩ := by
  rw [ProgramCall.pending] at waits
  split at waits
  · next command next same =>
      cases waits
      exact ⟨next, same, fun _ => rfl⟩
  · cases waits

def succeeded (call : ProgramCall ι κ Reply ε α) : Bool :=
  call.rest.isDone

end ProgramCall

section Servers

variable {ι : Type z} {κ : Type u} {Reply : κ → Type v} {ε : Type w}
  {α : Type x} {τ : Type y} {η : Type u₁}

/-- Each request is served by its program; a command that fails, or a process
that stops, ends the program with the error. -/
def programServer (external : η → τ → τ) (program : ι → Program κ Reply ε α)
    (perform : (command : κ) → τ → Reply command × τ) (failure : ε) :
    Server τ η ι κ Reply (ProgramCall ι κ Reply ε α) where
  external := external
  accept := fun input => some ⟨input, program input⟩
  perform := perform
  pending := ProgramCall.pending
  reject := fun call _ => ⟨call.input, .throw failure⟩
  stop := fun call => ⟨call.input, .throw failure⟩

structure AllSafe (perform : (command : κ) → τ → Reply command × τ)
    (rely : τ → τ → Prop) (good : κ → τ → Prop) (invariant : τ → Prop)
    (state : ServerState τ (ProgramCall ι κ Reply ε α)) : Prop where
  stores : invariant state.stores
  calls : ∀ call ∈ state.calls,
    call.rest.Safe perform rely good (fun _ _ => True) state.stores

variable {external : η → τ → τ} {program : ι → Program κ Reply ε α}
  {perform : (command : κ) → τ → Reply command × τ} {failure : ε}
  {rely : τ → τ → Prop} {good : κ → τ → Prop} {invariant : τ → Prop}

/-- A program that runs alone and without failures does what `run` says. -/
theorem ends_run (input : ι) (rest : Program κ Reply ε α) (stores : τ) :
    (programServer external program perform failure).Ends
      (fun _ => .resolves) stores ⟨input, rest⟩ (rest.run perform stores).2
      ⟨input, .ofExcept (rest.run perform stores).1⟩ := by
  induction rest generalizing stores with
  | done result => exact .ended rfl
  | throw error => exact .ended rfl
  | perform command next inductionHypothesis =>
      have waits : (ProgramCall.mk input (.perform command next)).pending =
          some ⟨command, fun reply => ⟨input, next reply⟩⟩ := rfl
      exact .next waits (inductionHypothesis _ _)

/-- What is left of a program when its command has ended is safe. -/
theorem safe_answer
    {call : ProgramCall ι κ Reply ε α}
    {pending : Pending κ Reply (ProgramCall ι κ Reply ε α)} {stores : τ}
    (waits : call.pending = some pending)
    (reflexive : ∀ stores, rely stores stores)
    (safe : call.rest.Safe perform rely good (fun _ _ => True) stores)
    (outcome : Await) :
    ((programServer external program perform failure).answer call pending
        stores outcome).2.rest.Safe perform rely good (fun _ _ => True)
      ((programServer external program perform failure).answer call pending
        stores outcome).1 := by
  obtain ⟨next, rest, answers⟩ := ProgramCall.pending_eq_some waits
  rw [rest] at safe
  cases outcome with
  | resolves =>
      have goesOn := (safe stores (reflexive stores)).2
      simp only [Server.answer, answers]
      exact goesOn
  | rejects applied => cases applied <;> trivial
  | stops => trivial

/-- A command that is performed is good. -/
theorem good_of_safe {call : ProgramCall ι κ Reply ε α}
    {pending : Pending κ Reply (ProgramCall ι κ Reply ε α)} {stores : τ}
    (waits : call.pending = some pending)
    (reflexive : ∀ stores, rely stores stores)
    (safe : call.rest.Safe perform rely good (fun _ _ => True) stores) :
    good pending.command stores := by
  obtain ⟨next, rest, _⟩ := ProgramCall.pending_eq_some waits
  rw [rest] at safe
  exact (safe stores (reflexive stores)).1

/-- The rule of parallel programs: a step of safe programs keeps them safe and
does what they rely on, when the environment and good commands do so. -/
theorem AllSafe.step
    {before after : ServerState τ (ProgramCall ι κ Reply ε α)}
    {action : ServerAction η ι}
    (sound : AllSafe perform rely good invariant before)
    (reflexive : ∀ stores, rely stores stores)
    (transitive : ∀ first second third,
      rely first second → rely second third → rely first third)
    (accepts : ∀ input stores, invariant stores →
      (program input).Safe perform rely good (fun _ _ => True) stores)
    (outside : ∀ event stores, invariant stores →
      invariant (external event stores) ∧ rely stores (external event stores))
    (guarantees : ∀ command,
      (programServer external program perform failure).applied before action =
        some command →
      invariant before.stores → good command before.stores →
      invariant (perform command before.stores).2 ∧
        rely before.stores (perform command before.stores).2)
    (stepped : (programServer external program perform failure).step before
      action = some after) :
    AllSafe perform rely good invariant after ∧
      rely before.stores after.stores := by
  have later : ∀ {stores : τ}, rely before.stores stores →
      ∀ call ∈ before.calls,
        call.rest.Safe perform rely good (fun _ _ => True) stores := by
    intro stores goesOn call member
    exact (sound.calls call member).later transitive (fun _ holds => holds)
      goesOn
  cases Server.step_cases stepped with
  | external event =>
      obtain ⟨kept, relied⟩ := outside event before.stores sound.stores
      exact ⟨⟨kept, later relied⟩, relied⟩
  | requested input call accepted =>
      refine ⟨⟨sound.stores, ?_⟩, reflexive before.stores⟩
      intro other member
      rcases List.mem_append.mp member with old | new
      · exact sound.calls other old
      · rw [List.mem_singleton.mp new, ← Option.some.inj accepted]
        exact accepts input before.stores sound.stores
  | awaited index outcome call pending found waits =>
      have safe := sound.calls call (List.mem_of_getElem? found)
      have isGood := good_of_safe waits reflexive safe
      have kept : invariant ((programServer external program perform
            failure).answer call pending before.stores outcome).1 ∧
          rely before.stores ((programServer external program perform
            failure).answer call pending before.stores outcome).1 := by
        rw [Server.answer_stores]
        by_cases applies : outcome.Applies = true
        · rw [if_pos applies]
          have applied := Server.applied_eq_some.mpr
            ⟨index, outcome, call, pending, rfl, applies, found, waits, rfl⟩
          exact guarantees pending.command applied sound.stores isGood
        · rw [if_neg applies]
          exact ⟨sound.stores, reflexive before.stores⟩
      refine ⟨⟨kept.1, ?_⟩, kept.2⟩
      intro other member
      rcases List.mem_or_eq_of_mem_set member with old | new
      · exact later kept.2 other old
      · rw [new]
        exact safe_answer waits reflexive safe outcome

/-- The number of programs that have returned, among those that count. -/
def returned (counts : ι → Bool)
    (calls : List (ProgramCall ι κ Reply ε α)) : Nat :=
  calls.countP fun call => counts call.input && call.succeeded

/-- Those that have not ended need a key to return, and none has returned
before the stores are marked. -/
structure ReturnsOnce (perform : (command : κ) → τ → Reply command × τ)
    (key : κ → τ → Prop) (marked : τ → Bool) (counts : ι → Bool)
    (state : ServerState τ (ProgramCall ι κ Reply ε α)) : Prop where
  locked : ∀ call ∈ state.calls, counts call.input = true →
    call.succeeded = true ∨ call.rest.ReturnsWith perform key
  bound : returned counts state.calls ≤ (marked state.stores).toNat

variable {key : κ → τ → Prop} {marked : τ → Bool} {counts : ι → Bool}

/-- A program that has returned awaits nothing. -/
theorem not_succeeded_of_pending {call : ProgramCall ι κ Reply ε α}
    {pending : Pending κ Reply (ProgramCall ι κ Reply ε α)}
    (waits : call.pending = some pending) : call.succeeded = false := by
  obtain ⟨next, rest, _⟩ := ProgramCall.pending_eq_some waits
  rw [ProgramCall.succeeded, rest]
  rfl

theorem returned_append (calls : List (ProgramCall ι κ Reply ε α))
    {call : ProgramCall ι κ Reply ε α}
    (unfinished : (counts call.input && call.succeeded) = false) :
    returned counts (calls ++ [call]) = returned counts calls := by
  rw [returned, List.countP_append, List.countP_singleton, unfinished]
  simp [returned]

theorem returned_set {calls : List (ProgramCall ι κ Reply ε α)} {index : Nat}
    {call : ProgramCall ι κ Reply ε α}
    {pending : Pending κ Reply (ProgramCall ι κ Reply ε α)}
    (found : calls[index]? = some call)
    (waits : call.pending = some pending)
    (answered : ProgramCall ι κ Reply ε α) :
    returned counts (calls.set index answered) =
      returned counts calls +
        (counts answered.input && answered.succeeded).toNat := by
  obtain ⟨inside, same⟩ := List.getElem?_eq_some_iff.mp found
  have unfinished : (counts call.input && call.succeeded) = false := by
    rw [not_succeeded_of_pending waits, Bool.and_false]
  rw [returned, List.countP_set inside, same, unfinished]
  cases counts answered.input && answered.succeeded <;> rfl

theorem input_answer {call : ProgramCall ι κ Reply ε α}
    {pending : Pending κ Reply (ProgramCall ι κ Reply ε α)}
    (waits : call.pending = some pending) (stores : τ) (outcome : Await) :
    ((programServer external program perform failure).answer call pending
      stores outcome).2.input = call.input := by
  obtain ⟨next, _, answers⟩ := ProgramCall.pending_eq_some waits
  cases outcome with
  | resolves => simp only [Server.answer, answers]
  | rejects applied => cases applied <;> rfl
  | stops => rfl

/-- A program that needs a key to return has got it when it returns. -/
theorem returnsWith_answer {call : ProgramCall ι κ Reply ε α}
    {pending : Pending κ Reply (ProgramCall ι κ Reply ε α)}
    (waits : call.pending = some pending)
    (returns : call.rest.ReturnsWith perform key) (stores : τ)
    (outcome : Await) :
    (((programServer external program perform failure).answer call pending
        stores outcome).2.succeeded = true ∧
      outcome.Applies = true ∧ key pending.command stores) ∨
    ((programServer external program perform failure).answer call pending
      stores outcome).2.rest.ReturnsWith perform key := by
  obtain ⟨next, rest, answers⟩ := ProgramCall.pending_eq_some waits
  rw [rest] at returns
  cases outcome with
  | resolves =>
      simp only [Server.answer, answers]
      rcases returns stores with ⟨isDone, turned⟩ | later
      · exact Or.inl ⟨isDone, rfl, turned⟩
      · exact Or.inr later
  | rejects applied => cases applied <;> exact Or.inr trivial
  | stops => exact Or.inr trivial

/-- The end of one command keeps this, when a program that returns with it
finds the stores without the mark and leaves them with the mark. -/
theorem ReturnsOnce.answered
    {state : ServerState τ (ProgramCall ι κ Reply ε α)} {index : Nat}
    {call answered : ProgramCall ι κ Reply ε α}
    {pending : Pending κ Reply (ProgramCall ι κ Reply ε α)} {stores : τ}
    (sound : ReturnsOnce perform key marked counts state)
    (found : state.calls[index]? = some call)
    (waits : call.pending = some pending)
    (sameInput : answered.input = call.input)
    (grows : (marked state.stores).toNat ≤ (marked stores).toNat)
    (ends : call.rest.ReturnsWith perform key →
      (answered.succeeded = true ∧ marked state.stores = false ∧
        marked stores = true) ∨
      answered.rest.ReturnsWith perform key) :
    ReturnsOnce perform key marked counts
      ⟨stores, state.calls.set index answered⟩ := by
  have needsKey : counts call.input = true →
      call.rest.ReturnsWith perform key := by
    intro counted
    rcases sound.locked call (List.mem_of_getElem? found) counted with
      ended | returns
    · rw [not_succeeded_of_pending waits] at ended
      cases ended
    · exact returns
  constructor
  · intro other member counted
    rcases List.mem_or_eq_of_mem_set member with old | new
    · exact sound.locked other old counted
    · rw [new, sameInput] at counted
      rw [new]
      rcases ends (needsKey counted) with ⟨succeeds, _⟩ | later
      · exact Or.inl succeeds
      · exact Or.inr later
  · have bound := sound.bound
    rw [returned_set found waits, sameInput]
    cases counted : counts call.input with
    | false =>
        rw [Bool.false_and, Bool.toNat_false]
        exact bound.trans grows
    | true =>
        rcases ends (needsKey counted) with
          ⟨succeeds, unmarked, nowMarked⟩ | later
        · rw [unmarked, Bool.toNat_false] at bound
          rw [succeeds, nowMarked, Bool.and_self, Bool.toNat_true]
          omega
        · rw [ProgramCall.succeeded, later.isDone, Bool.and_false,
            Bool.toNat_false]
          exact bound.trans grows

/-- A step keeps this when a key is turned only in stores without the mark,
which it leaves with the mark. -/
theorem ReturnsOnce.step
    {before after : ServerState τ (ProgramCall ι κ Reply ε α)}
    {action : ServerAction η ι}
    (sound : ReturnsOnce perform key marked counts before)
    (accepts : ∀ input, counts input = true →
      (program input).ReturnsWith perform key)
    (stepped : (programServer external program perform failure).step before
      action = some after)
    (persists : marked before.stores = true → marked after.stores = true)
    (turned : ∀ command,
      (programServer external program perform failure).applied before action =
        some command →
      key command before.stores →
      marked before.stores = false ∧
        marked (perform command before.stores).2 = true) :
    ReturnsOnce perform key marked counts after := by
  have grows : (marked before.stores).toNat ≤ (marked after.stores).toNat := by
    cases isMarked : marked before.stores with
    | false => exact Nat.zero_le _
    | true => rw [persists isMarked]
  cases Server.step_cases stepped with
  | external event => exact ⟨sound.locked, sound.bound.trans grows⟩
  | requested input call accepted =>
      have made : call = ⟨input, program input⟩ :=
        (Option.some.inj accepted).symm
      subst call
      constructor
      · intro other member counted
        rcases List.mem_append.mp member with old | new
        · exact sound.locked other old counted
        · rw [List.mem_singleton.mp new] at counted ⊢
          exact Or.inr (accepts input counted)
      · have unfinished : (counts input && (program input).isDone) = false := by
          cases counted : counts input with
          | false => rfl
          | true => exact (accepts input counted).isDone
        rw [returned_append _ unfinished]
        exact sound.bound
  | awaited index outcome call pending found waits =>
      refine sound.answered found waits
        (input_answer waits before.stores outcome) grows ?_
      intro returns
      rcases returnsWith_answer waits returns before.stores outcome with
        ⟨succeeds, applies, isKey⟩ | later
      · left
        have applied := Server.applied_eq_some.mpr
          ⟨index, outcome, call, pending, rfl, applies, found, waits, rfl⟩
        obtain ⟨unmarked, nowMarked⟩ := turned pending.command applied isKey
        rw [Server.answer_stores, if_pos applies]
        exact ⟨succeeds, unmarked, nowMarked⟩
      · exact Or.inr later

end Servers

end ConcertTicketing
