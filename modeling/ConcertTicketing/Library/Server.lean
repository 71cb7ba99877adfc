import ConcertTicketing.Library.Await
import ConcertTicketing.Library.Trace
import Mathlib.Algebra.Order.BigOperators.Group.List
import Mathlib.Algebra.Order.Group.Nat
import Mathlib.Algebra.Ring.Nat

/-!
# Servers

A server keeps a list of calls over shared stores.  A call in flight awaits
the reply to one remote command; the command is data, so that what a step can
do to the stores is known from the commands alone.  A step lets an event from
outside act on the stores, accepts a request as a new call, or ends the
pending command of one call.
-/

namespace ConcertTicketing

universe u v w x y z u₁ u₂ u₃

/-- The command that is awaited, and how the code goes on with its reply. -/
structure Pending (κ : Type u) (Reply : κ → Type v) (γ : Type w) where
  command : κ
  next : Reply command → γ

namespace Pending

variable {κ : Type u} {Reply : κ → Type v} {γ : Type w} {δ : Type x}

def map (wrap : γ → δ) (pending : Pending κ Reply γ) : Pending κ Reply δ :=
  ⟨pending.command, fun reply => wrap (pending.next reply)⟩

@[simp]
theorem map_command (wrap : γ → δ) (pending : Pending κ Reply γ) :
    (pending.map wrap).command = pending.command := rfl

end Pending

/-- The stores `τ`, what can happen to them from outside, the requests `ι`,
the commands `κ`, and the calls `γ`. -/
structure Server (τ : Type u) (ε : Type v) (ι : Type w) (κ : Type x)
    (Reply : κ → Type y) (γ : Type z) where
  external : ε → τ → τ
  accept : ι → Option γ
  perform : (command : κ) → τ → Reply command × τ
  pending : γ → Option (Pending κ Reply γ)
  reject : γ → Bool → γ
  stop : γ → γ

structure ServerState (τ : Type u) (γ : Type v) where
  stores : τ
  calls : List γ

inductive ServerAction (ε : Type u) (ι : Type v) where
  | external (event : ε)
  | request (input : ι)
  | await (index : Nat) (outcome : Await)
  deriving DecidableEq, Repr

namespace ServerAction

def Resolves {ε : Type u} {ι : Type v} : ServerAction ε ι → Prop
  | .await _ outcome => outcome = .resolves
  | _ => True

instance {ε : Type u} {ι : Type v} :
    (action : ServerAction ε ι) → Decidable action.Resolves
  | .external _ => inferInstanceAs (Decidable True)
  | .request _ => inferInstanceAs (Decidable True)
  | .await _ _ => inferInstanceAs (Decidable (_ = _))

end ServerAction

namespace Server

variable {τ : Type u} {ε : Type v} {ι : Type w} {κ : Type x}
  {Reply : κ → Type y} {γ : Type z}

/-- The pending command of a call ends. -/
def answer (server : Server τ ε ι κ Reply γ) (call : γ)
    (pending : Pending κ Reply γ) (stores : τ) : Await → τ × γ
  | .resolves =>
      let (reply, after) := server.perform pending.command stores
      (after, pending.next reply)
  | .rejects true =>
      ((server.perform pending.command stores).2, server.reject call true)
  | .rejects false => (stores, server.reject call false)
  | .stops => (stores, server.stop call)

def step (server : Server τ ε ι κ Reply γ) (state : ServerState τ γ) :
    ServerAction ε ι → Option (ServerState τ γ)
  | .external event =>
      some { state with stores := server.external event state.stores }
  | .request input =>
      (server.accept input).map fun call =>
        { state with calls := state.calls ++ [call] }
  | .await index outcome =>
      match state.calls[index]? with
      | none => none
      | some call =>
          (server.pending call).map fun pending =>
            let (after, answered) :=
              server.answer call pending state.stores outcome
            ⟨after, state.calls.set index answered⟩

/-- Every way in which a server can take a step. -/
inductive Step (server : Server τ ε ι κ Reply γ) (state : ServerState τ γ) :
    ServerAction ε ι → ServerState τ γ → Prop
  | external (event : ε) :
      Step server state (.external event)
        { state with stores := server.external event state.stores }
  | requested (input : ι) (call : γ)
      (accepted : server.accept input = some call) :
      Step server state (.request input)
        { state with calls := state.calls ++ [call] }
  | awaited (index : Nat) (outcome : Await) (call : γ)
      (pending : Pending κ Reply γ)
      (found : state.calls[index]? = some call)
      (waits : server.pending call = some pending) :
      Step server state (.await index outcome)
        ⟨(server.answer call pending state.stores outcome).1,
          state.calls.set index
            (server.answer call pending state.stores outcome).2⟩

theorem step_cases {server : Server τ ε ι κ Reply γ}
    {state next : ServerState τ γ} {action : ServerAction ε ι}
    (stepped : server.step state action = some next) :
    Step server state action next := by
  cases action with
  | external event =>
      cases stepped
      exact .external event
  | request input =>
      simp only [step, Option.map_eq_some_iff] at stepped
      obtain ⟨call, accepted, rfl⟩ := stepped
      exact .requested input call accepted
  | await index outcome =>
      simp only [step] at stepped
      split at stepped
      · cases stepped
      · next call found =>
          simp only [Option.map_eq_some_iff] at stepped
          obtain ⟨pending, waits, rfl⟩ := stepped
          exact .awaited index outcome call pending found waits

/-- The command that a step applies to the stores. -/
def applied (server : Server τ ε ι κ Reply γ) (state : ServerState τ γ) :
    ServerAction ε ι → Option κ
  | .await index outcome =>
      if outcome.Applies then
        (state.calls[index]?).bind fun call =>
          (server.pending call).map Pending.command
      else none
  | _ => none

theorem applied_eq_some {server : Server τ ε ι κ Reply γ}
    {state : ServerState τ γ} {action : ServerAction ε ι} {command : κ} :
    server.applied state action = some command ↔
      ∃ index outcome call pending,
        action = .await index outcome ∧ outcome.Applies = true ∧
        state.calls[index]? = some call ∧
        server.pending call = some pending ∧ pending.command = command := by
  constructor
  · intro applies
    cases action with
    | external event => cases applies
    | request input => cases applies
    | await index outcome =>
        simp only [applied, Option.ite_none_right_eq_some,
          Option.bind_eq_some_iff, Option.map_eq_some_iff] at applies
        obtain ⟨effective, call, found, pending, waits, same⟩ := applies
        exact ⟨index, outcome, call, pending, rfl, effective, found, waits,
          same⟩
  · rintro ⟨index, outcome, call, pending, rfl, effective, found, waits, rfl⟩
    simp only [applied, effective, if_true, found, waits, Option.bind_some,
      Option.map_some]

theorem answer_stores (server : Server τ ε ι κ Reply γ) (call : γ)
    (pending : Pending κ Reply γ) (stores : τ) (outcome : Await) :
    (server.answer call pending stores outcome).1 =
      if outcome.Applies then (server.perform pending.command stores).2
      else stores := by
  cases outcome with
  | resolves => rfl
  | rejects applied => cases applied <;> rfl
  | stops => rfl

/-- What a step can do to the stores. -/
theorem step_stores {server : Server τ ε ι κ Reply γ}
    {state next : ServerState τ γ} {action : ServerAction ε ι}
    (stepped : server.step state action = some next) :
    (∃ event, action = .external event ∧
      next.stores = server.external event state.stores) ∨
    (∃ command, server.applied state action = some command ∧
      next.stores = (server.perform command state.stores).2) ∨
    ((∀ event, action ≠ .external event) ∧
      server.applied state action = none ∧ next.stores = state.stores) := by
  cases step_cases stepped with
  | external event => exact Or.inl ⟨event, rfl, rfl⟩
  | requested input call accepted =>
      right
      right
      exact ⟨nofun, rfl, rfl⟩
  | awaited index outcome call pending found waits =>
      right
      rw [answer_stores]
      by_cases applies : outcome.Applies = true
      · left
        refine ⟨pending.command, ?_, if_pos applies⟩
        simp only [applied, if_pos applies, found, waits, Option.bind_some,
          Option.map_some]
      · right
        refine ⟨nofun, ?_, if_neg applies⟩
        simp only [applied, if_neg applies]

/-- Where a call of the next state comes from. -/
inductive Origin (server : Server τ ε ι κ Reply γ) (state : ServerState τ γ)
    (action : ServerAction ε ι) (index : Nat) : γ → Prop
  | kept (call : γ) (elsewhere : ∀ outcome, action ≠ .await index outcome)
      (found : state.calls[index]? = some call) :
      Origin server state action index call
  | accepted (input : ι) (call : γ) (ran : action = .request input)
      (accepts : server.accept input = some call)
      (vacant : index = state.calls.length) :
      Origin server state action index call
  | answered (outcome : Await) (call : γ) (pending : Pending κ Reply γ)
      (ran : action = .await index outcome)
      (found : state.calls[index]? = some call)
      (waits : server.pending call = some pending) :
      Origin server state action index
        (server.answer call pending state.stores outcome).2

theorem step_calls {server : Server τ ε ι κ Reply γ}
    {state next : ServerState τ γ} {action : ServerAction ε ι}
    (stepped : server.step state action = some next) {index : Nat} {call : γ}
    (reached : next.calls[index]? = some call) :
    Origin server state action index call := by
  cases step_cases stepped with
  | external event =>
      exact .kept call nofun reached
  | requested input new accepts =>
      rw [List.getElem?_append] at reached
      split at reached
      · exact .kept call nofun reached
      · next beyond =>
          obtain ⟨inside, found⟩ := List.getElem?_eq_some_iff.mp reached
          have position : index = state.calls.length := by
            simp only [List.length_singleton] at inside
            omega
          subst position
          simp only [Nat.sub_self, List.getElem_cons_zero] at found
          subst found
          exact .accepted input new rfl accepts rfl
  | awaited position outcome earlier pending found waits =>
      by_cases same : index = position
      · subst index
        have inside : position < state.calls.length :=
          (List.getElem?_eq_some_iff.mp found).1
        rw [List.getElem?_set_self inside] at reached
        rw [← Option.some.inj reached]
        exact .answered outcome earlier pending rfl found waits
      · rw [List.getElem?_set_ne (Ne.symm same)] at reached
        refine .kept call ?_ reached
        intro other taken
        injection taken with samePosition
        exact same samePosition.symm

/-- With nothing in between, a call comes from its present state to its end,
each of its commands ending as `outcome` says. -/
inductive Ends (server : Server τ ε ι κ Reply γ) (outcome : γ → Await) :
    τ → γ → τ → γ → Prop
  | ended {stores : τ} {call : γ} (isOver : server.pending call = none) :
      Ends server outcome stores call stores call
  | next {stores after : τ} {call last : γ} {pending : Pending κ Reply γ}
      (waits : server.pending call = some pending)
      (rest : Ends server outcome
        (server.answer call pending stores (outcome call)).1
        (server.answer call pending stores (outcome call)).2 after last) :
      Ends server outcome stores call after last

variable {server : Server τ ε ι κ Reply γ} {outcome : γ → Await}
  {stores after : τ} {call last : γ}

/-- There is one end. -/
theorem Ends.unique (first : server.Ends outcome stores call after last)
    {afterToo : τ} {lastToo : γ}
    (second : server.Ends outcome stores call afterToo lastToo) :
    after = afterToo ∧ last = lastToo := by
  induction first with
  | ended isOver =>
      cases second with
      | ended _ => exact ⟨rfl, rfl⟩
      | next waits _ =>
          rw [isOver] at waits
          cases waits
  | next waits _ inductionHypothesis =>
      cases second with
      | ended isOver =>
          rw [isOver] at waits
          cases waits
      | next waitsToo rest =>
          rw [waits] at waitsToo
          cases waitsToo
          exact inductionHypothesis rest

theorem trace_cons {start middle : ServerState τ γ} {action : ServerAction ε ι}
    (stepped : server.step start action = some middle)
    {history : List (ServerState τ γ × ServerAction ε ι)}
    {state : ServerState τ γ} (run : Trace server.step middle history state) :
    Trace server.step start (history ++ [(start, action)]) state := by
  have first : Trace server.step start [(start, action)] middle :=
    Trace.nil.snoc stepped
  exact first.append run

/-- The end is reached in a run of the server. -/
theorem Ends.trace (ends : server.Ends outcome stores call after last) :
    ∃ history, Trace server.step ⟨stores, [call]⟩ history ⟨after, [last]⟩ := by
  induction ends with
  | ended isOver => exact ⟨[], Trace.nil⟩
  | @next stores after call last pending waits rest inductionHypothesis =>
      obtain ⟨history, run⟩ := inductionHypothesis
      have stepped : server.step ⟨stores, [call]⟩ (.await 0 (outcome call)) =
          some ⟨(server.answer call pending stores (outcome call)).1,
            [(server.answer call pending stores (outcome call)).2]⟩ := by
        simp only [step, List.getElem?_cons_zero, waits, Option.map_some,
          List.set_cons_zero]
      exact ⟨_, trace_cons stepped run⟩

/-- Calls that run one after the other, each of them alone and without a
failure, with an event from outside before each. -/
inductive Serial (server : Server τ ε ι κ Reply γ) :
    τ → List (ε × γ) → τ → List γ → Prop
  | nil {stores : τ} : Serial server stores [] stores []
  | cons {stores middle after : τ} {event : ε} {call last : γ}
      {calls : List (ε × γ)} {lasts : List γ}
      (ends : server.Ends (fun _ => .resolves)
        (server.external event stores) call middle last)
      (rest : Serial server middle calls after lasts) :
      Serial server stores ((event, call) :: calls) after (last :: lasts)

theorem Serial.unique {calls : List (ε × γ)} {lasts : List γ}
    (first : server.Serial stores calls after lasts)
    {afterToo : τ} {lastsToo : List γ}
    (second : server.Serial stores calls afterToo lastsToo) :
    after = afterToo ∧ lasts = lastsToo := by
  induction first generalizing afterToo lastsToo with
  | nil =>
      cases second with
      | nil => exact ⟨rfl, rfl⟩
  | cons ends rest inductionHypothesis =>
      cases second with
      | cons endsToo restToo =>
          obtain ⟨rfl, rfl⟩ := ends.unique endsToo
          obtain ⟨rfl, rfl⟩ := inductionHypothesis restToo
          exact ⟨rfl, rfl⟩

/-- Calls of which each ends can run one after the other. -/
theorem Serial.exists_of_ends {calls : List (ε × γ)}
    (ends : ∀ entry ∈ calls, ∀ stores : τ, ∃ after last,
      server.Ends (fun _ => .resolves) stores entry.2 after last)
    (stores : τ) :
    ∃ after lasts, server.Serial stores calls after lasts := by
  induction calls generalizing stores with
  | nil => exact ⟨stores, [], .nil⟩
  | cons entry calls inductionHypothesis =>
      obtain ⟨event, call⟩ := entry
      obtain ⟨middle, last, first⟩ :=
        ends _ List.mem_cons_self (server.external event stores)
      obtain ⟨after, lasts, rest⟩ := inductionHypothesis
        (fun entry member => ends entry (List.mem_cons_of_mem _ member)) middle
      exact ⟨after, last :: lasts, .cons first rest⟩

/-- A request comes only when no call awaits anything. -/
def Sequential (server : Server τ ε ι κ Reply γ) (state : ServerState τ γ) :
    ServerAction ε ι → Prop
  | .request _ => ∀ call ∈ state.calls, (server.pending call).isNone = true
  | _ => True

instance (server : Server τ ε ι κ Reply γ) (state : ServerState τ γ) :
    (action : ServerAction ε ι) → Decidable (server.Sequential state action)
  | .external _ => inferInstanceAs (Decidable True)
  | .request _ => inferInstanceAs (Decidable (∀ _ ∈ state.calls, _ = true))
  | .await _ _ => inferInstanceAs (Decidable True)

/-- At most one call awaits anything. -/
def Alone (server : Server τ ε ι κ Reply γ) (state : ServerState τ γ) :
    Prop :=
  ∀ (first second : Nat) (one other : γ),
    state.calls[first]? = some one →
    state.calls[second]? = some other →
    (server.pending one).isSome = true →
    (server.pending other).isSome = true →
    first = second

theorem Alone.step {state next : ServerState τ γ} {action : ServerAction ε ι}
    (alone : server.Alone state)
    (stepped : server.step state action = some next)
    (sequential : server.Sequential state action) : server.Alone next := by
  have before : ∀ {index : Nat} {call : γ}, next.calls[index]? = some call →
      (server.pending call).isSome = true →
      (∃ earlier, state.calls[index]? = some earlier ∧
        (server.pending earlier).isSome = true) ∨
      (index = state.calls.length ∧
        ∀ call ∈ state.calls, (server.pending call).isNone = true) := by
    intro index call reached waits
    cases step_calls stepped reached with
    | kept _ _ found => exact Or.inl ⟨call, found, waits⟩
    | accepted input _ ran _ vacant =>
        subst ran
        exact Or.inr ⟨vacant, sequential⟩
    | answered outcome earlier pending _ found awaits =>
        refine Or.inl ⟨earlier, found, ?_⟩
        rw [awaits, Option.isSome_some]
  intro first second one other reachedFirst reachedSecond waitsFirst
    waitsSecond
  rcases before reachedFirst waitsFirst with
    ⟨one, foundFirst, awaitsFirst⟩ | ⟨newFirst, idle⟩
  · rcases before reachedSecond waitsSecond with
      ⟨other, foundSecond, awaitsSecond⟩ | ⟨_, idle⟩
    · exact alone first second one other foundFirst foundSecond awaitsFirst
        awaitsSecond
    · have isOver := idle one (List.mem_of_getElem? foundFirst)
      rw [Option.isNone_iff_eq_none] at isOver
      rw [isOver] at awaitsFirst
      cases awaitsFirst
  · rcases before reachedSecond waitsSecond with
      ⟨other, foundSecond, awaitsSecond⟩ | ⟨newSecond, _⟩
    · have isOver := idle other (List.mem_of_getElem? foundSecond)
      rw [Option.isNone_iff_eq_none] at isOver
      rw [isOver] at awaitsSecond
      cases awaitsSecond
    · rw [newFirst, newSecond]

end Server

/-- Another call is still there when one call has taken a step. -/
theorem mem_set_of_mem_eraseIdx {γ : Type u} {calls : List γ} {index : Nat}
    {other : γ} (member : other ∈ calls.eraseIdx index) (changed : γ) :
    other ∈ calls.set index changed := by
  obtain ⟨position, elsewhere, found⟩ :=
    List.mem_eraseIdx_iff_getElem?.mp member
  have kept : (calls.set index changed)[position]? = some other := by
    rw [List.getElem?_set_ne (Ne.symm elsewhere)]
    exact found
  exact List.mem_of_getElem? kept

theorem mem_eraseIdx_of_ne {γ : Type u} {calls : List γ} {index : Nat}
    {call other : γ} (found : calls[index]? = some call)
    (member : other ∈ calls) (different : other ≠ call) :
    other ∈ calls.eraseIdx index := by
  obtain ⟨position, reached⟩ := List.mem_iff_getElem?.mp member
  refine List.mem_eraseIdx_iff_getElem?.mpr ⟨position, ?_, reached⟩
  intro same
  subst position
  rw [found] at reached
  exact different (Option.some.inj reached).symm

def load {γ : Type u} (weight : γ → Nat) (calls : List γ) : Nat :=
  (calls.map weight).sum

theorem le_load {γ : Type u} (weight : γ → Nat) {calls : List γ} {call : γ}
    (member : call ∈ calls) : weight call ≤ load weight calls :=
  List.single_le_sum (fun _ _ => Nat.zero_le _) _ (List.mem_map_of_mem member)

theorem load_le_load {γ : Type u} {light heavy : γ → Nat}
    (lighter : ∀ call, light call ≤ heavy call) (calls : List γ) :
    load light calls ≤ load heavy calls :=
  List.sum_le_sum fun call _ => lighter call

theorem load_append {γ : Type u} (weight : γ → Nat) (calls : List γ)
    (call : γ) : load weight (calls ++ [call]) =
      load weight calls + weight call := by
  simp only [load, List.map_append, List.sum_append, List.map_cons,
    List.map_nil, List.sum_cons, List.sum_nil, Nat.add_zero]

/-- Replacing a call exchanges its weight. -/
theorem load_set {γ : Type u} (weight : γ → Nat) {calls : List γ}
    {index : Nat} {call : γ} (found : calls[index]? = some call)
    (changed : γ) :
    load weight (calls.set index changed) + weight call =
      load weight calls + weight changed := by
  induction calls generalizing index with
  | nil => cases found
  | cons first rest inductionHypothesis =>
      cases index with
      | zero =>
          have same : first = call := Option.some.inj found
          subst same
          simp only [load, List.set_cons_zero, List.map_cons, List.sum_cons]
          omega
      | succ index =>
          have foundLater : rest[index]? = some call := found
          have others := inductionHypothesis foundLater
          simp only [load, List.set_cons_succ, List.map_cons,
            List.sum_cons] at others ⊢
          omega

/-! ## Typed calls -/

namespace Call

variable {ι : Type u} {σ : Type v} {ρ : Type w} {κ : Type x}
  {Reply : κ → Type y}

/-- The pending command of a call whose code is a function of its stages. -/
def pending
    (code : ι → σ → Pending κ Reply (Progress σ ρ)) (call : Call ι σ ρ) :
    Option (Pending κ Reply (Call ι σ ρ)) :=
  match call.progress with
  | .running stage =>
      some ((code call.input stage).map fun progress =>
        ⟨call.input, progress⟩)
  | _ => none

/-- An error of the pending command that the code does not catch. -/
def reject (call : Call ι σ ρ) (applied : Bool) : Call ι σ ρ :=
  match call.progress with
  | .running stage => ⟨call.input, .failed stage applied⟩
  | _ => call

def stop (call : Call ι σ ρ) : Call ι σ ρ :=
  match call.progress with
  | .running stage => ⟨call.input, .stopped stage⟩
  | _ => call

theorem pending_eq_some
    {code : ι → σ → Pending κ Reply (Progress σ ρ)} {call : Call ι σ ρ}
    {waiting : Pending κ Reply (Call ι σ ρ)}
    (waits : call.pending code = some waiting) :
    ∃ stage, call.progress = .running stage ∧
      waiting = (code call.input stage).map fun progress =>
        ⟨call.input, progress⟩ := by
  unfold pending at waits
  split at waits
  · next stage running =>
      cases waits
      exact ⟨stage, running, rfl⟩
  · cases waits

theorem input_reject (call : Call ι σ ρ) (applied : Bool) :
    (call.reject applied).input = call.input := by
  obtain ⟨input, progress⟩ := call
  cases progress <;> rfl

theorem input_stop (call : Call ι σ ρ) : call.stop.input = call.input := by
  obtain ⟨input, progress⟩ := call
  cases progress <;> rfl

/-- A call that has failed awaits nothing. -/
theorem pending_reject (code : ι → σ → Pending κ Reply (Progress σ ρ))
    (call : Call ι σ ρ) (applied : Bool) :
    (call.reject applied).pending code = none := by
  obtain ⟨input, progress⟩ := call
  cases progress <;> rfl

theorem pending_stop (code : ι → σ → Pending κ Reply (Progress σ ρ))
    (call : Call ι σ ρ) : call.stop.pending code = none := by
  obtain ⟨input, progress⟩ := call
  cases progress <;> rfl

def goOn {τ : Type z} (perform : (command : κ) → τ → Reply command × τ)
    (code : ι → σ → Pending κ Reply (Progress σ ρ)) (input : ι) (stage : σ)
    (stores : τ) : Await → Progress σ ρ
  | .resolves =>
      (code input stage).next (perform (code input stage).command stores).1
  | .rejects applied => .failed stage applied
  | .stops => .stopped stage

end Call

namespace Server

variable {τ : Type u} {ε : Type v} {α : Type w} {κ : Type x}
  {Reply : κ → Type y} {γ : Type z}
  {ι : Type u₁} {σ : Type u₂} {ρ : Type u₃}

/-- The calls of the form `wrap call` run the given code. -/
structure Hosts (server : Server τ ε α κ Reply γ) (wrap : Call ι σ ρ → γ)
    (code : ι → σ → Pending κ Reply (Progress σ ρ)) : Prop where
  pending : ∀ call, server.pending (wrap call) =
    (call.pending code).map (Pending.map wrap)
  reject : ∀ call applied,
    server.reject (wrap call) applied = wrap (call.reject applied)
  stop : ∀ call, server.stop (wrap call) = wrap call.stop

variable {server : Server τ ε α κ Reply γ} {wrap : Call ι σ ρ → γ}
  {code : ι → σ → Pending κ Reply (Progress σ ρ)}

/-- The pending command of a hosted call is that of its stage. -/
theorem Hosts.running (hosts : server.Hosts wrap code) {call : Call ι σ ρ}
    {waiting : Pending κ Reply γ}
    (waits : server.pending (wrap call) = some waiting) :
    ∃ stage, call = ⟨call.input, .running stage⟩ ∧
      waiting = (code call.input stage).map fun progress =>
        wrap ⟨call.input, progress⟩ := by
  rw [hosts.pending, Option.map_eq_some_iff] at waits
  obtain ⟨typed, isPending, rfl⟩ := waits
  obtain ⟨stage, running, rfl⟩ := Call.pending_eq_some isPending
  refine ⟨stage, ?_, rfl⟩
  rw [← running]

theorem Hosts.answer (hosts : server.Hosts wrap code) (input : ι)
    (stage : σ) (stores : τ) (outcome : Await) :
    (server.answer (wrap ⟨input, .running stage⟩)
        ((code input stage).map fun progress => wrap ⟨input, progress⟩)
        stores outcome).2 =
      wrap ⟨input,
        Call.goOn server.perform code input stage stores outcome⟩ := by
  cases outcome with
  | resolves => rfl
  | rejects applied => cases applied <;> exact hosts.reject _ _
  | stops => exact hosts.stop _

theorem Hosts.waits (hosts : server.Hosts wrap code) (input : ι) (stage : σ) :
    server.pending (wrap ⟨input, .running stage⟩) =
      some ((code input stage).map fun progress =>
        wrap ⟨input, progress⟩) := by
  rw [hosts.pending]
  rfl

/-- One step of a hosted call that runs alone. -/
theorem Hosts.ends_next (hosts : server.Hosts wrap code) {input : ι}
    {stage : σ} {outcome : γ → Await} {stores after : τ} {last : γ}
    (ended : Await)
    (ends : outcome (wrap ⟨input, .running stage⟩) = ended)
    (rest : server.Ends outcome
      (if ended.Applies then
        (server.perform (code input stage).command stores).2
      else stores)
      (wrap ⟨input,
        Call.goOn server.perform code input stage stores ended⟩) after last) :
    server.Ends outcome stores (wrap ⟨input, .running stage⟩) after last := by
  subst ended
  refine .next (hosts.waits input stage) ?_
  rw [hosts.answer, answer_stores]
  exact rest

/-- A hosted call that runs alone ends as it does after its next step. -/
theorem Hosts.ends_iff (hosts : server.Hosts wrap code) {input : ι}
    {stage : σ} {outcome : γ → Await} {stores after : τ} {last : γ}
    (ended : Await)
    (ends : outcome (wrap ⟨input, .running stage⟩) = ended) :
    server.Ends outcome stores (wrap ⟨input, .running stage⟩) after last ↔
      server.Ends outcome
        (if ended.Applies then
          (server.perform (code input stage).command stores).2
        else stores)
        (wrap ⟨input,
          Call.goOn server.perform code input stage stores ended⟩)
        after last := by
  constructor
  · intro run
    subst ended
    have waiting := hosts.waits input stage
    cases run with
    | ended isOver =>
        rw [waiting] at isOver
        cases isOver
    | next waits rest =>
        rw [waiting] at waits
        cases waits
        rw [hosts.answer, answer_stores] at rest
        exact rest
  · exact hosts.ends_next ended ends

end Server

end ConcertTicketing
