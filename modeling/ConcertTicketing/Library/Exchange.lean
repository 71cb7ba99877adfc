import ConcertTicketing.Library.DelayLine
import Mathlib.Data.List.Dedup
import Mathlib.Logic.Function.Basic

/-!
# Exchanges, queues and what happens to a message that expires

Asserting what a broker already has changes nothing; asserting something else
under the same name fails and closes the channel.  An exchange copies a message
to the queues bound to it.  A message that has waited in a queue for as long as
the queue allows goes to the queue's dead-letter exchange with the routing key
it came with.
-/

namespace ConcertTicketing.Amqp

universe u

inductive ExchangeKind where
  | direct
  | fanout
  deriving DecidableEq, Repr

structure QueueArguments where
  messageTtl : Option Int
  deadLetterExchange : Option String
  deriving DecidableEq, Repr

/-- A broker refuses a negative time to live. -/
def QueueArguments.Valid (arguments : QueueArguments) : Prop :=
  ∀ ttl ∈ arguments.messageTtl, 0 ≤ ttl

instance (arguments : QueueArguments) : Decidable arguments.Valid :=
  match same : arguments.messageTtl with
  | none => isTrue (by simp [QueueArguments.Valid, same])
  | some ttl =>
      decidable_of_iff (0 ≤ ttl) (by simp [QueueArguments.Valid, same])

structure Binding where
  queue : String
  exchange : String
  routingKey : String
  deriving DecidableEq, Repr

inductive Declaration where
  | exchange (name : String) (kind : ExchangeKind)
  | queue (name : String) (arguments : QueueArguments)
  | binding (binding : Binding)
  deriving DecidableEq, Repr

structure Topology where
  exchanges : String → Option ExchangeKind
  queues : String → Option QueueArguments
  bindings : List Binding

namespace Topology

def empty : Topology := ⟨fun _ => none, fun _ => none, []⟩

/-- A name that is taken keeps its value. -/
def assertAs {α : Type} [DecidableEq α] (table : String → Option α)
    (name : String) (value : α) : Option (String → Option α) :=
  match table name with
  | none => some (Function.update table name (some value))
  | some old => if old = value then some table else none

def declare (topology : Topology) : Declaration → Option Topology
  | .exchange name kind =>
      (assertAs topology.exchanges name kind).map fun exchanges =>
        { topology with exchanges := exchanges }
  | .queue name arguments =>
      if arguments.Valid then
        (assertAs topology.queues name arguments).map fun queues =>
          { topology with queues := queues }
      else none
  | .binding binding =>
      if (topology.queues binding.queue).isSome ∧
          (topology.exchanges binding.exchange).isSome then
        if binding ∈ topology.bindings then some topology
        else
          some { topology with bindings := topology.bindings ++ [binding] }
      else none

/-- One after the other, up to the first that fails; and whether none has. -/
def declareAll (topology : Topology) :
    List Declaration → Topology × Bool
  | [] => (topology, true)
  | declaration :: rest =>
      match topology.declare declaration with
      | none => (topology, false)
      | some next => declareAll next rest

/-- The broker has been told so. -/
def Has (topology : Topology) : Declaration → Prop
  | .exchange name kind => topology.exchanges name = some kind
  | .queue name arguments =>
      arguments.Valid ∧ topology.queues name = some arguments
  | .binding binding =>
      ((topology.queues binding.queue).isSome ∧
        (topology.exchanges binding.exchange).isSome) ∧
        binding ∈ topology.bindings

/-- Nothing that a broker has been told is taken back. -/
structure Grows (before after : Topology) : Prop where
  exchanges : ∀ name kind, before.exchanges name = some kind →
    after.exchanges name = some kind
  queues : ∀ name arguments, before.queues name = some arguments →
    after.queues name = some arguments
  bindings : before.bindings ⊆ after.bindings

theorem Grows.refl (topology : Topology) : Grows topology topology :=
  ⟨fun _ _ same => same, fun _ _ same => same, List.Subset.refl _⟩

theorem Grows.trans {first second third : Topology}
    (earlier : Grows first second) (later : Grows second third) :
    Grows first third where
  exchanges name kind has :=
    later.exchanges name kind (earlier.exchanges name kind has)
  queues name arguments has :=
    later.queues name arguments (earlier.queues name arguments has)
  bindings := List.Subset.trans earlier.bindings later.bindings

section Assert

variable {α : Type} [DecidableEq α] {table next : String → Option α}
  {name : String} {value : α}

theorem assertAs_kept (asserted : assertAs table name value = some next)
    {other : String} {old : α} (has : table other = some old) :
    next other = some old := by
  unfold assertAs at asserted
  cases found : table name with
  | none =>
      rw [found] at asserted
      cases asserted
      have differ : other ≠ name := by
        rintro rfl
        rw [found] at has
        cases has
      rw [Function.update_of_ne differ, has]
  | some taken =>
      simp only [found, Option.ite_none_right_eq_some,
        Option.some.injEq] at asserted
      rw [← asserted.2, has]

theorem assertAs_self (asserted : assertAs table name value = some next) :
    next name = some value := by
  unfold assertAs at asserted
  cases found : table name with
  | none =>
      rw [found] at asserted
      cases asserted
      exact Function.update_self ..
  | some taken =>
      simp only [found, Option.ite_none_right_eq_some,
        Option.some.injEq] at asserted
      rw [← asserted.2, found, asserted.1]

/-- Asserting again changes nothing. -/
theorem assertAs_again (has : table name = some value) :
    assertAs table name value = some table := by
  simp [assertAs, has]

/-- Another value is refused. -/
theorem assertAs_other {old : α} (has : table name = some old)
    (differ : old ≠ value) : assertAs table name value = none := by
  simp [assertAs, has, differ]

end Assert

section Declare

variable {before after : Topology} {declaration : Declaration}

/-- A declaration that succeeds adds what it declares and nothing is lost. -/
theorem declare_grows (declared : before.declare declaration = some after) :
    Grows before after ∧ after.Has declaration := by
  cases declaration with
  | exchange name kind =>
      simp only [declare, Option.map_eq_some_iff] at declared
      obtain ⟨exchanges, asserted, rfl⟩ := declared
      refine ⟨⟨?_, fun _ _ same => same, List.Subset.refl _⟩, ?_⟩
      · intro other old has
        exact assertAs_kept asserted has
      · exact assertAs_self asserted
  | queue name arguments =>
      simp only [declare, Option.ite_none_right_eq_some,
        Option.map_eq_some_iff] at declared
      obtain ⟨valid, queues, asserted, rfl⟩ := declared
      refine ⟨⟨fun _ _ same => same, ?_, List.Subset.refl _⟩, valid, ?_⟩
      · intro other old has
        exact assertAs_kept asserted has
      · exact assertAs_self asserted
  | binding binding =>
      simp only [declare, Option.ite_none_right_eq_some] at declared
      obtain ⟨both, declared⟩ := declared
      by_cases known : binding ∈ before.bindings
      · rw [if_pos known] at declared
        cases declared
        exact ⟨Grows.refl before, both, known⟩
      · rw [if_neg known] at declared
        cases declared
        refine ⟨⟨fun _ _ same => same, fun _ _ same => same, ?_⟩, both, ?_⟩
        · exact List.subset_append_left _ _
        · exact List.mem_append_right _ (List.mem_singleton_self binding)

theorem Has.grows (has : before.Has declaration)
    (grows : Grows before after) : after.Has declaration := by
  cases declaration with
  | exchange name kind => exact grows.exchanges name kind has
  | queue name arguments =>
      exact ⟨has.1, grows.queues name arguments has.2⟩
  | binding binding =>
      obtain ⟨⟨hasQueue, hasExchange⟩, member⟩ := has
      obtain ⟨arguments, queue⟩ := Option.isSome_iff_exists.mp hasQueue
      obtain ⟨kind, exchange⟩ := Option.isSome_iff_exists.mp hasExchange
      refine ⟨⟨?_, ?_⟩, grows.bindings member⟩
      · rw [grows.queues _ _ queue, Option.isSome_some]
      · rw [grows.exchanges _ _ exchange, Option.isSome_some]

/-- Whatever a broker has been told can be declared again, without effect. -/
theorem Has.declare_again (has : before.Has declaration) :
    before.declare declaration = some before := by
  cases declaration with
  | exchange name kind => simp [declare, assertAs_again has]
  | queue name arguments => simp [declare, has.1, assertAs_again has.2]
  | binding binding => simp [declare, has.1, has.2]

/-- Declaring it succeeds without effect or fails. -/
def Keeps (topology : Topology) (declaration : Declaration) : Prop :=
  (topology.declare declaration).getD topology = topology

theorem Has.keeps (has : before.Has declaration) :
    before.Keeps declaration := by
  rw [Keeps, has.declare_again, Option.getD_some]

theorem declareAll_grows {declarations : List Declaration}
    (declared : before.declareAll declarations = (after, true)) :
    Grows before after ∧ ∀ one ∈ declarations, after.Has one := by
  induction declarations generalizing before with
  | nil =>
      cases declared
      exact ⟨Grows.refl _, by simp⟩
  | cons first rest inductionHypothesis =>
      unfold declareAll at declared
      cases here : before.declare first with
      | none =>
          rw [here] at declared
          cases declared
      | some next =>
          rw [here] at declared
          obtain ⟨grows, has⟩ := declare_grows here
          obtain ⟨growsOn, hasRest⟩ := inductionHypothesis declared
          refine ⟨grows.trans growsOn, ?_⟩
          intro one member
          cases member with
          | head => exact has.grows growsOn
          | tail _ inRest => exact hasRest one inRest

/-- Declaring everything again succeeds and changes nothing. -/
theorem declareAll_again {declarations : List Declaration}
    (has : ∀ one ∈ declarations, before.Has one) :
    before.declareAll declarations = (before, true) := by
  induction declarations with
  | nil => rfl
  | cons first rest inductionHypothesis =>
      obtain ⟨hasFirst, hasRest⟩ := List.forall_mem_cons.mp has
      simp only [declareAll, hasFirst.declare_again]
      exact inductionHypothesis hasRest

end Declare

/-- The queues that get a copy. -/
def targets (topology : Topology) (exchange routingKey : String) :
    List String :=
  match topology.exchanges exchange with
  | none => []
  | some .direct =>
      ((topology.bindings.filter fun binding =>
        decide (binding.exchange = exchange ∧
          binding.routingKey = routingKey)).map Binding.queue).dedup
  | some .fanout =>
      ((topology.bindings.filter fun binding =>
        decide (binding.exchange = exchange)).map Binding.queue).dedup

end Topology

/-! ## Messages on their way -/

structure Queued (π : Type u) where
  queue : String
  routingKey : String
  payload : π
  since : Int

/-- A broker with its messages, in the order in which they came to their
queues. -/
structure Router (π : Type u) where
  topology : Topology
  messages : List (Queued π)

namespace Router

variable {π : Type u}

def empty : Router π := ⟨.empty, []⟩

/-- Where no queue is bound, the message is dropped. -/
def route (router : Router π) (exchange routingKey : String) (payload : π)
    (now : Int) : Router π :=
  { router with
    messages :=
      router.messages ++
        (router.topology.targets exchange routingKey).map fun queue =>
          ⟨queue, routingKey, payload, now⟩ }

/-- A channel that publishes to an exchange that does not exist is closed. -/
def publish (router : Router π) (exchange routingKey : String) (payload : π)
    (now : Int) : Option (Router π) :=
  if (router.topology.exchanges exchange).isSome then
    some (router.route exchange routingKey payload now)
  else none

def declare (router : Router π) (declaration : Declaration) :
    Option (Router π) :=
  (router.topology.declare declaration).map fun topology =>
    { router with topology := topology }

def waiting (router : Router π) (queue : String) : List (Queued π) :=
  router.messages.filter fun message => decide (message.queue = queue)

def dropHead (router : Router π) (queue : String) : Router π :=
  { router with
    messages :=
      router.messages.eraseP fun message => decide (message.queue = queue) }

/-- The oldest message of the queue has waited for as long as the queue
allows, and is dead-lettered. -/
def expire (router : Router π) (queue : String) (now : Int) :
    Option (Router π) :=
  match router.waiting queue, router.topology.queues queue with
  | message :: _, some ⟨some ttl, deadLetterExchange⟩ =>
      if message.since + ttl ≤ now then
        match deadLetterExchange with
        | none => some (router.dropHead queue)
        | some exchange =>
            some ((router.dropHead queue).route exchange message.routingKey
              message.payload now)
      else none
  | _, _ => none

def deliver (router : Router π) (queue : String) :
    Option (π × Router π) :=
  match router.waiting queue with
  | [] => none
  | message :: _ => some (message.payload, router.dropHead queue)

/-- A delivery that has not been settled goes back to its queue, to a place
that the broker chooses. -/
def takeBack (router : Router π) (message : Queued π) (place : Nat) :
    Router π :=
  { router with
    messages :=
      router.messages.take place ++ message :: router.messages.drop place }

theorem waiting_route {router : Router π} {exchange routingKey : String}
    {payload : π} {now : Int} {target : String}
    (goes : router.topology.targets exchange routingKey = [target])
    (queue : String) :
    (router.route exchange routingKey payload now).waiting queue =
      router.waiting queue ++
        if target = queue then [⟨target, routingKey, payload, now⟩]
        else [] := by
  simp only [waiting, route, goes, List.map_cons, List.map_nil,
    List.filter_append, List.filter_cons, List.filter_nil, decide_eq_true_eq]

theorem waiting_dropHead (router : Router π) (queue : String) :
    (router.dropHead queue).waiting queue = (router.waiting queue).tail := by
  simp only [waiting, dropHead]
  induction router.messages with
  | nil => rfl
  | cons message rest inductionHypothesis =>
      by_cases here : message.queue = queue
      · simp [here]
      · simp [here, inductionHypothesis]

theorem waiting_dropHead_other (router : Router π) {queue other : String}
    (differ : other ≠ queue) :
    (router.dropHead queue).waiting other = router.waiting other := by
  simp only [waiting, dropHead]
  induction router.messages with
  | nil => rfl
  | cons message rest inductionHypothesis =>
      by_cases here : message.queue = queue
      · simp [here, differ.symm]
      · by_cases there : message.queue = other
        · simp [there, inductionHypothesis, differ]
        · simp [here, there, inductionHypothesis]

theorem waiting_takeBack_perm (router : Router π) (message : Queued π)
    (place : Nat) :
    ((router.takeBack message place).waiting message.queue).Perm
      (message :: router.waiting message.queue) := by
  have moved : (router.takeBack message place).messages.Perm
      (message :: router.messages) := by
    have split : router.messages.take place ++ router.messages.drop place =
        router.messages := List.take_append_drop ..
    have toFront := @List.perm_middle _ message
      (router.messages.take place) (router.messages.drop place)
    rw [split] at toFront
    exact toFront
  have kept := moved.filter fun other => decide (other.queue = message.queue)
  simpa [waiting] using kept

theorem waiting_takeBack_other (router : Router π) {message : Queued π}
    (place : Nat) {other : String} (differ : other ≠ message.queue) :
    (router.takeBack message place).waiting other = router.waiting other := by
  have split : router.messages.take place ++ router.messages.drop place =
      router.messages := List.take_append_drop ..
  have passed : decide (message.queue = other) = false :=
    decide_eq_false differ.symm
  conv_rhs => rw [waiting, ← split, List.filter_append]
  simp only [waiting, takeBack, List.filter_append, List.filter_cons,
    passed, Bool.false_eq_true, if_false]

/-- Behind all that wait. -/
theorem waiting_takeBack_last (router : Router π) (message : Queued π) :
    (router.takeBack message router.messages.length).waiting message.queue =
      router.waiting message.queue ++ [message] := by
  simp [waiting, takeBack]

end Router

/-! ## A queue in which messages wait -/

/-- The exchange to publish to, the queue in which a message waits, the
exchange it goes to then, and the queue it arrives in. -/
structure Relay where
  delayExchange : String
  delayQueue : String
  workExchange : String
  workQueue : String
  routingKey : String

/-- What happens at the broker: something is declared, or published, the head
of the delay queue expires, the head of the work queue is delivered, or time
passes. -/
inductive RelayInput (π : Type u) where
  | declare (declaration : Declaration)
  | publish (payload : π)
  | expire
  | deliver
  | tick (elapsed : Nat)

namespace Relay

variable {π : Type u}

open DelayLine (Input Output)

/-- Whether a declaration succeeds concerns its channel only. -/
def machine (relay : Relay) :
    Machine (Router π × Int) (RelayInput π) (Output π) where
  reply state
    | .declare _ => .noted
    | .publish payload =>
        if (state.1.publish relay.delayExchange relay.routingKey payload
          state.2).isSome then .accepted else .refused
    | .expire => .expired (state.1.expire relay.delayQueue state.2).isSome
    | .deliver => .taken ((state.1.deliver relay.workQueue).map Prod.fst)
    | .tick _ => .noted
  next state
    | .declare declaration =>
        ((state.1.declare declaration).getD state.1, state.2)
    | .publish payload =>
        ((state.1.publish relay.delayExchange relay.routingKey payload
          state.2).getD state.1, state.2)
    | .expire =>
        ((state.1.expire relay.delayQueue state.2).getD state.1, state.2)
    | .deliver =>
        (((state.1.deliver relay.workQueue).map Prod.snd).getD state.1,
          state.2)
    | .tick elapsed => (state.1, state.2 + elapsed)

/-- What it is for a line. -/
def meaning : RelayInput π → Input π
  | .declare _ => .tick 0
  | .publish payload => .put payload
  | .expire => .expire
  | .deliver => .take
  | .tick elapsed => .tick elapsed

/-- The broker has what a relay needs. -/
structure Ready (relay : Relay) (delay : Int) (topology : Topology) :
    Prop where
  distinct : relay.workQueue ≠ relay.delayQueue
  declared : (topology.exchanges relay.delayExchange).isSome
  delays : topology.targets relay.delayExchange relay.routingKey =
    [relay.delayQueue]
  expires : topology.queues relay.delayQueue =
    some ⟨some delay, some relay.workExchange⟩
  works : topology.targets relay.workExchange relay.routingKey =
    [relay.workQueue]

/-- The messages in the two queues are those in the line. -/
structure Shows (relay : Relay) (topology : Topology) (state : Router π × Int)
    (view : DelayLine π × Int) : Prop where
  topology : state.1.topology = topology
  clock : state.2 = view.2
  delayed : state.1.waiting relay.delayQueue =
    view.1.delayed.map fun entry =>
      ⟨relay.delayQueue, relay.routingKey, entry.1, entry.2⟩
  ready : (state.1.waiting relay.workQueue).map Queued.payload =
    view.1.ready

section Steps

variable {relay : Relay} {delay : Int} {topology : Topology}
  {router : Router π} {line : DelayLine π} {now : Int}

theorem Shows.publish (ready : relay.Ready delay topology)
    (shows : relay.Shows topology (router, now) (line, now)) (payload : π) :
    ∃ next, router.publish relay.delayExchange relay.routingKey payload now =
        some next ∧
      relay.Shows topology (next, now) (line.put payload now, now) := by
  have same : router.topology = topology := shows.topology
  have goes : router.topology.targets relay.delayExchange relay.routingKey =
      [relay.delayQueue] := same ▸ ready.delays
  have declared : (router.topology.exchanges relay.delayExchange).isSome :=
    same ▸ ready.declared
  refine ⟨_, if_pos declared, shows.topology, rfl, ?_, ?_⟩
  · have delayed : router.waiting relay.delayQueue = _ := shows.delayed
    rw [Router.waiting_route goes, delayed, if_pos rfl]
    simp [DelayLine.put]
  · have waits : (router.waiting relay.workQueue).map Queued.payload = _ :=
      shows.ready
    rw [Router.waiting_route goes, if_neg ready.distinct.symm,
      List.append_nil, waits]
    rfl

/-- The head of the delay queue moves when the line moves its oldest one. -/
theorem Shows.expire (ready : relay.Ready delay topology)
    (shows : relay.Shows topology (router, now) (line, now)) :
    (router.expire relay.delayQueue now).isSome =
        (line.expire delay now).isSome ∧
      relay.Shows topology
        ((router.expire relay.delayQueue now).getD router, now)
        ((line.expire delay now).getD line, now) := by
  have same : router.topology = topology := shows.topology
  have delayed : router.waiting relay.delayQueue = _ := shows.delayed
  have queue : router.topology.queues relay.delayQueue = _ :=
    same ▸ ready.expires
  cases waits : line.delayed with
  | nil =>
      rw [waits, List.map_nil] at delayed
      have stays : router.expire relay.delayQueue now = none := by
        simp [Router.expire, delayed]
      have lineStays : line.expire delay now = none := by
        simp [DelayLine.expire, waits]
      rw [stays, lineStays]
      exact ⟨rfl, shows⟩
  | cons first rest =>
      rw [waits, List.map_cons] at delayed
      by_cases isOver : first.2 + delay ≤ now
      · have moves : router.expire relay.delayQueue now =
            some ((router.dropHead relay.delayQueue).route
              relay.workExchange relay.routingKey first.1 now) := by
          simp [Router.expire, delayed, queue, isOver]
        have lineMoves : line.expire delay now =
            some ⟨rest, line.ready ++ [first.1]⟩ := by
          simp [DelayLine.expire, waits, isOver]
        have goes : (router.dropHead relay.delayQueue).topology.targets
            relay.workExchange relay.routingKey = [relay.workQueue] :=
          same ▸ ready.works
        rw [moves, lineMoves]
        refine ⟨rfl, shows.topology, rfl, ?_, ?_⟩
        · simp only [Option.getD_some]
          rw [Router.waiting_route goes, if_neg ready.distinct,
            List.append_nil, Router.waiting_dropHead, delayed,
            List.tail_cons]
        · have arrived :
              (router.waiting relay.workQueue).map Queued.payload = _ :=
            shows.ready
          simp only [Option.getD_some]
          rw [Router.waiting_route goes, if_pos rfl,
            Router.waiting_dropHead_other router ready.distinct,
            List.map_append, arrived]
          rfl
      · have stays : router.expire relay.delayQueue now = none := by
          simp [Router.expire, delayed, queue, isOver]
        have lineStays : line.expire delay now = none := by
          simp [DelayLine.expire, waits, isOver]
        rw [stays, lineStays]
        exact ⟨rfl, shows⟩

theorem Shows.deliver (ready : relay.Ready delay topology)
    (shows : relay.Shows topology (router, now) (line, now)) :
    (router.deliver relay.workQueue).map Prod.fst =
        line.take.map Prod.fst ∧
      relay.Shows topology
        (((router.deliver relay.workQueue).map Prod.snd).getD router, now)
        ((line.take.map Prod.snd).getD line, now) := by
  have arrived : (router.waiting relay.workQueue).map Queued.payload =
      line.ready := shows.ready
  cases waits : router.waiting relay.workQueue with
  | nil =>
      rw [waits, List.map_nil] at arrived
      have nothing : router.deliver relay.workQueue = none := by
        simp [Router.deliver, waits]
      have lineNothing : line.take = none := by
        simp [DelayLine.take, ← arrived]
      rw [nothing, lineNothing]
      exact ⟨rfl, shows⟩
  | cons message rest =>
      rw [waits, List.map_cons] at arrived
      have delivers : router.deliver relay.workQueue =
          some (message.payload, router.dropHead relay.workQueue) := by
        simp [Router.deliver, waits]
      have lineTakes : line.take = some (message.payload,
          { line with ready := rest.map Queued.payload }) := by
        simp [DelayLine.take, ← arrived]
      rw [delivers, lineTakes]
      refine ⟨rfl, shows.topology, rfl, ?_, ?_⟩
      · have delayed : router.waiting relay.delayQueue = _ := shows.delayed
        simp only [Option.map_some, Option.getD_some]
        rw [Router.waiting_dropHead_other router ready.distinct.symm,
          delayed]
      · simp only [Option.map_some, Option.getD_some]
        rw [Router.waiting_dropHead, waits, List.tail_cons]

/-- What goes back to the work queue is ready again. -/
theorem Shows.takeBack (ready : relay.Ready delay topology)
    (shows : relay.Shows topology (router, now) (line, now))
    (payload : π) (since : Int) (place : Nat) :
    ∃ readyAfter, readyAfter.Perm (payload :: line.ready) ∧
      relay.Shows topology
        (router.takeBack ⟨relay.workQueue, relay.routingKey, payload, since⟩
          place, now)
        ({ line with ready := readyAfter }, now) := by
  have arrived : (router.waiting relay.workQueue).map Queued.payload =
      line.ready := shows.ready
  have delayed : router.waiting relay.delayQueue = _ := shows.delayed
  let message : Queued π :=
    ⟨relay.workQueue, relay.routingKey, payload, since⟩
  have back := (router.waiting_takeBack_perm message place).map Queued.payload
  rw [List.map_cons, arrived] at back
  refine ⟨_, back, shows.topology, rfl, ?_, rfl⟩
  have differ : relay.delayQueue ≠ message.queue := ready.distinct.symm
  exact (router.waiting_takeBack_other place differ).trans delayed

/-- It may be ready after all others. -/
theorem Shows.takeBack_last (ready : relay.Ready delay topology)
    (shows : relay.Shows topology (router, now) (line, now))
    (payload : π) (since : Int) :
    relay.Shows topology
      (router.takeBack ⟨relay.workQueue, relay.routingKey, payload, since⟩
        router.messages.length, now)
      ({ line with ready := line.ready ++ [payload] }, now) := by
  have arrived : (router.waiting relay.workQueue).map Queued.payload =
      line.ready := shows.ready
  have delayed : router.waiting relay.delayQueue = _ := shows.delayed
  let message : Queued π :=
    ⟨relay.workQueue, relay.routingKey, payload, since⟩
  have differ : relay.delayQueue ≠ message.queue := ready.distinct.symm
  refine ⟨shows.topology, rfl, ?_, ?_⟩
  · exact (router.waiting_takeBack_other _ differ).trans delayed
  · have atEnd := congrArg (List.map Queued.payload)
      (router.waiting_takeBack_last message)
    rw [List.map_append, arrived] at atEnd
    exact atEnd

/-- A declaration that the topology does not take changes nothing. -/
theorem Shows.declare
    (shows : relay.Shows topology (router, now) (line, now))
    {declaration : Declaration} (keeps : topology.Keeps declaration) :
    (router.declare declaration).getD router = router := by
  have same : router.topology = topology := shows.topology
  subst same
  unfold Topology.Keeps at keeps
  cases declared : router.topology.declare declaration with
  | none => simp [Router.declare, declared]
  | some next =>
      rw [declared, Option.getD_some] at keeps
      simp [Router.declare, declared, keeps]

end Steps

def KeepsAll (topology : Topology) (inputs : List (RelayInput π)) : Prop :=
  ∀ declaration, .declare declaration ∈ inputs → topology.Keeps declaration

/-- A broker that is ready answers like a delay line. -/
theorem simulates {relay : Relay} {delay : Int} {topology : Topology}
    (ready : relay.Ready delay topology) :
    Machine.Simulates relay.machine
      ((DelayLine.machine delay).along (meaning : RelayInput π → Input π))
      (KeepsAll topology) (fun _ => relay.Shows topology) where
  earlier past later keeps declaration member :=
    keeps declaration (List.mem_append_left later member)
  reply past input state view shows keeps := by
    obtain ⟨router, now⟩ := state
    obtain ⟨line, clock⟩ := view
    obtain rfl : now = clock := shows.clock
    cases input with
    | declare declaration => rfl
    | publish payload =>
        obtain ⟨next, published, _⟩ := shows.publish ready payload
        simp [machine, Machine.along, DelayLine.machine, meaning, published]
    | expire => exact congrArg Output.expired (shows.expire ready).1
    | deliver => exact congrArg Output.taken (shows.deliver ready).1
    | tick elapsed => rfl
  next past input state view shows keeps := by
    obtain ⟨router, now⟩ := state
    obtain ⟨line, clock⟩ := view
    obtain rfl : now = clock := shows.clock
    cases input with
    | declare declaration =>
        have same := shows.declare (keeps declaration (by simp))
        simpa [machine, Machine.along, DelayLine.machine, meaning,
          same] using shows
    | publish payload =>
        obtain ⟨next, published, showsNext⟩ := shows.publish ready payload
        simpa [machine, Machine.along, DelayLine.machine, meaning,
          published] using showsNext
    | expire => exact (shows.expire ready).2
    | deliver => exact (shows.deliver ready).2
    | tick elapsed =>
        exact ⟨shows.topology, rfl, shows.delayed, shows.ready⟩

section Start

variable {relay : Relay} {before after : Topology}
  {messages : List (Queued π)} {now : Int} {declarations : List Declaration}

/-- The declarations that the broker is told at first. -/
def start (declarations : List Declaration) : List (RelayInput π) :=
  declarations.map .declare

theorem after_start
    (declared : before.declareAll declarations = (after, true)) :
    relay.machine.after (⟨before, messages⟩, now) (start declarations) =
      (⟨after, messages⟩, now) := by
  induction declarations generalizing before with
  | nil =>
      cases declared
      rfl
  | cons first rest inductionHypothesis =>
      unfold Topology.declareAll at declared
      cases here : before.declare first with
      | none =>
          rw [here] at declared
          cases declared
      | some next =>
          rw [here] at declared
          have later := inductionHypothesis declared
          simpa [start, Machine.after, machine, Router.declare, here] using
            later

theorem answers_start (state : Router π × Int) (delay : Int)
    (view : DelayLine π × Int) :
    (relay.machine.answers state (start declarations)).map
        (Prod.map meaning id) =
      (DelayLine.machine delay).answers view
        ((start declarations).map meaning) := by
  induction declarations generalizing state view with
  | nil => rfl
  | cons first rest inductionHypothesis =>
      exact congrArg ((.tick 0, .noted) :: ·) (inductionHypothesis _ _)

theorem lineAfter_start (delay : Int) (line : DelayLine π) :
    (DelayLine.machine delay).after (line, now)
        ((start declarations).map meaning) = (line, now) := by
  induction declarations with
  | nil => rfl
  | cons first rest inductionHypothesis =>
      simpa [start, Machine.after, meaning, DelayLine.machine] using
        inductionHypothesis

end Start

/-- From a broker that knows nothing: it is told what a relay needs, and then
it answers like a delay line that is empty. -/
theorem answers_eq_line {relay : Relay} {delay now : Int}
    {topology : Topology} {declarations : List Declaration}
    (declared : Topology.empty.declareAll declarations = (topology, true))
    (ready : relay.Ready delay topology) {inputs : List (RelayInput π)}
    (keeps : KeepsAll topology inputs) :
    (relay.machine.answers (Router.empty, now)
        (start declarations ++ inputs)).map (Prod.map meaning id) =
      (DelayLine.machine delay).answers (DelayLine.empty, now)
        ((start declarations ++ inputs).map meaning) := by
  have shows : relay.Shows topology ((⟨topology, []⟩ : Router π), now)
      (DelayLine.empty, now) := ⟨rfl, rfl, rfl, rfl⟩
  have allKept : KeepsAll topology ([] ++ inputs) := keeps
  have same := ((simulates ready).run shows allKept).1
  rw [Machine.answers_append, List.map_append, List.map_append,
    Machine.answers_append, lineAfter_start, Router.empty,
    after_start declared, same, Machine.answers_along,
    answers_start _ delay (DelayLine.empty, now)]

end Relay

end ConcertTicketing.Amqp
