import ConcertTicketing.Booking.System
import ConcertTicketing.Library.Exchange
import ConcertTicketing.Messaging.Service

/-!
# Order timers

`publishExpiration` publishes to `delay.x`, which is a fanout, so the message
waits in `delay.q`.  When its time is over it goes to `work.x` with the routing
key it came with, and from there to `order.timeout.q`, which
`OrderTimeoutConsumer` has bound.  Every start of the application declares all
of this again, with the booking window it has been configured with.
-/

namespace ConcertTicketing.Messaging

open Amqp

def exchangeKind? : String → Option ExchangeKind
  | "direct" => some .direct
  | "fanout" => some .fanout
  | _ => none

def TopologyCommand.declaration? : TopologyCommand → Option Declaration
  | .assertExchange name kind => (exchangeKind? kind).map (.exchange name)
  | .assertQueue name messageTtl deadLetterExchange =>
      some (.queue name ⟨some messageTtl, some deadLetterExchange⟩)
  | .bindQueue queue exchange routingKey =>
      some (.binding ⟨queue, exchange, routingKey⟩)

/-- `onApplicationBootstrap` of `OrderTimeoutConsumer`. -/
def orderTimeoutQueue : List Declaration :=
  [.queue "order.timeout.q" ⟨none, none⟩,
    .binding ⟨"order.timeout.q", "work.x", "order.expire"⟩]

/-- A start of the application: `connect`, then the consumer. -/
def orderTimers (config : Config) : List Declaration :=
  (delayTopology config).filterMap TopologyCommand.declaration? ++
    orderTimeoutQueue

def timerRelay : Relay where
  delayExchange := "delay.x"
  delayQueue := "delay.q"
  workExchange := "work.x"
  workQueue := "order.timeout.q"
  routingKey := "order.expire"

def timerExchanges : String → Option ExchangeKind :=
  Function.update (Function.update (fun _ => none) "delay.x" (some .fanout))
    "work.x" (some .direct)

def timerTopology (window : Int) : Topology where
  exchanges := timerExchanges
  queues :=
    Function.update
      (Function.update (fun _ => none) "delay.q"
        (some ⟨some window, some "work.x"⟩))
      "order.timeout.q" (some ⟨none, none⟩)
  bindings :=
    [⟨"delay.q", "delay.x", ""⟩,
      ⟨"order.timeout.q", "work.x", "order.expire"⟩]

/-- The topology of a broker that has refused the queue. -/
def exchangesOnly : Topology := ⟨timerExchanges, fun _ => none, []⟩

private theorem orderTimers_eq (config : Config) :
    orderTimers config =
      [.exchange "delay.x" .fanout, .exchange "work.x" .direct,
        .queue "delay.q"
          ⟨some config.bookingWindowMs, some "work.x"⟩,
        .binding ⟨"delay.q", "delay.x", ""⟩,
        .queue "order.timeout.q" ⟨none, none⟩,
        .binding ⟨"order.timeout.q", "work.x", "order.expire"⟩] := rfl

private theorem valid_window {window : Int} {exchange : String} :
    (QueueArguments.mk (some window) (some exchange)).Valid ↔
      0 ≤ window := by
  simp [QueueArguments.Valid]

theorem ready_timerTopology (window : Int) :
    timerRelay.Ready window (timerTopology window) where
  distinct := by decide
  declared := by simp [timerTopology, timerExchanges, timerRelay]
  delays := by
    simp [Topology.targets, timerTopology, timerExchanges, timerRelay]
  expires := by simp [timerTopology, timerRelay]
  works := by
    simp [Topology.targets, timerTopology, timerExchanges, timerRelay]

/-- The broker declares the exchanges of a start whichever window it has. -/
theorem declareAll_fresh {topology : Topology} (config : Config)
    (fresh : topology = .empty ∨ topology = exchangesOnly) :
    topology.declareAll (orderTimers config) =
      if 0 ≤ config.bookingWindowMs then
        (timerTopology config.bookingWindowMs, true)
      else (exchangesOnly, false) := by
  rw [orderTimers_eq]
  rcases fresh with rfl | rfl
  · by_cases nonnegative : 0 ≤ config.bookingWindowMs
    · simp [Topology.declareAll, Topology.declare, Topology.assertAs,
        Topology.empty, nonnegative, timerTopology, timerExchanges,
        QueueArguments.Valid]
    · simp [Topology.declareAll, Topology.declare, Topology.assertAs,
        Topology.empty, valid_window, nonnegative, exchangesOnly,
        timerExchanges]
  · by_cases nonnegative : 0 ≤ config.bookingWindowMs
    · simp [Topology.declareAll, Topology.declare, Topology.assertAs,
        exchangesOnly, nonnegative, timerTopology, timerExchanges,
        QueueArguments.Valid]
    · simp [Topology.declareAll, Topology.declare, Topology.assertAs,
        valid_window, nonnegative, exchangesOnly, timerExchanges]

private theorem has_orderTimers {config : Config}
    (nonnegative : 0 ≤ config.bookingWindowMs) :
    ∀ declaration ∈ orderTimers config,
      (timerTopology config.bookingWindowMs).Has declaration := by
  have declared := declareAll_fresh config (Or.inl rfl)
  rw [if_pos nonnegative] at declared
  exact (Topology.declareAll_grows declared).2

/-- The queue keeps the window that it has been declared with. -/
theorem declare_delayQueue {window other : Int} (differ : window ≠ other) :
    (timerTopology window).declare
      (.queue "delay.q" ⟨some other, some "work.x"⟩) = none := by
  have has : (timerTopology window).queues "delay.q" =
      some ⟨some window, some "work.x"⟩ := by
    simp [timerTopology]
  have refused : Topology.assertAs (timerTopology window).queues "delay.q"
      ⟨some other, some "work.x"⟩ = none := by
    apply Topology.assertAs_other has
    simpa using differ
  simp only [Topology.declare, refused, Option.map_none, ite_self]

theorem declareAll_timerTopology {config : Config}
    (nonnegative : 0 ≤ config.bookingWindowMs) (later : Config) :
    (timerTopology config.bookingWindowMs).declareAll (orderTimers later) =
      (timerTopology config.bookingWindowMs,
        decide (config.bookingWindowMs = later.bookingWindowMs)) := by
  have has := has_orderTimers nonnegative
  by_cases same : config.bookingWindowMs = later.bookingWindowMs
  · have sameTimers : orderTimers later = orderTimers config := by
      rw [orderTimers_eq, orderTimers_eq, same]
    rw [sameTimers, decide_eq_true same]
    exact Topology.declareAll_again has
  · rw [orderTimers_eq] at has
    rw [orderTimers_eq, decide_eq_false same]
    simp only [List.forall_mem_cons] at has
    obtain ⟨hasDelay, hasWork, _⟩ := has
    simp only [Topology.declareAll, hasDelay.declare_again,
      hasWork.declare_again, declare_delayQueue same]

/-- Whatever a later start declares changes nothing. -/
theorem keeps_orderTimers {config later : Config}
    (nonnegative : 0 ≤ config.bookingWindowMs)
    {declaration : Declaration} (member : declaration ∈ orderTimers later) :
    (timerTopology config.bookingWindowMs).Keeps declaration := by
  have has := has_orderTimers nonnegative
  by_cases same : declaration ∈ orderTimers config
  · exact (has declaration same).keeps
  · rw [orderTimers_eq] at member same
    simp only [List.mem_cons, List.not_mem_nil, or_false] at member same
    have isQueue : declaration = .queue "delay.q"
        ⟨some later.bookingWindowMs, some "work.x"⟩ := by
      tauto
    subst isQueue
    have differ : config.bookingWindowMs ≠ later.bookingWindowMs := by
      intro equal
      rw [equal] at same
      simp at same
    rw [Topology.Keeps, declare_delayQueue differ, Option.getD_none]

def starts : Machine Topology Config Bool where
  reply topology config := (topology.declareAll (orderTimers config)).2
  next topology config := (topology.declareAll (orderTimers config)).1

/-- The first window that can be declared is the only one from then on. -/
def firstWindow : Machine (Option Int) Int Bool where
  reply inForce window :=
    match inForce with
    | none => decide (0 ≤ window)
    | some first => decide (first = window)
  next inForce window :=
    match inForce with
    | none => if 0 ≤ window then some window else none
    | some first => some first

/-- The topology for the window in force. -/
def InForce (topology : Topology) : Option Int → Prop
  | none => topology = .empty ∨ topology = exchangesOnly
  | some window =>
      ∃ config : Config, config.bookingWindowMs = window ∧ 0 ≤ window ∧
        topology = timerTopology window

private theorem starts_simulates :
    Machine.Simulates starts (firstWindow.along Config.bookingWindowMs)
      (fun _ => True) (fun _ => InForce) where
  earlier _ _ _ := trivial
  reply past config topology view inForce _ := by
    cases view with
    | none =>
        have declared := declareAll_fresh config inForce
        by_cases nonnegative : 0 ≤ config.bookingWindowMs
        · simp [starts, Machine.along, firstWindow, declared, nonnegative]
        · simp [starts, Machine.along, firstWindow, declared, nonnegative]
    | some window =>
        obtain ⟨first, rfl, nonnegative, rfl⟩ := inForce
        simp [starts, Machine.along, firstWindow,
          declareAll_timerTopology nonnegative]
  next past config topology view inForce _ := by
    cases view with
    | none =>
        have declared := declareAll_fresh config inForce
        by_cases nonnegative : 0 ≤ config.bookingWindowMs
        · rw [if_pos nonnegative] at declared
          simp only [starts, Machine.along, firstWindow, declared,
            nonnegative, if_true]
          exact ⟨config, rfl, nonnegative, rfl⟩
        · rw [if_neg nonnegative] at declared
          simp only [starts, Machine.along, firstWindow, declared,
            nonnegative, if_false]
          exact Or.inr rfl
    | some window =>
        obtain ⟨first, rfl, nonnegative, rfl⟩ := inForce
        simp only [starts, Machine.along, firstWindow,
          declareAll_timerTopology nonnegative]
        exact ⟨first, rfl, nonnegative, rfl⟩

/-- Which starts of the application succeed: as long as the broker has no
`delay.q`, those whose window is not negative, and afterwards those with the
window it has been declared with. -/
theorem starts_eq_firstWindow (configs : List Config) :
    (starts.answers Topology.empty configs).map Prod.snd =
      (firstWindow.answers none
        (configs.map Config.bookingWindowMs)).map Prod.snd := by
  have fresh : InForce Topology.empty none := Or.inl rfl
  have same : starts.answers Topology.empty configs =
      (firstWindow.along Config.bookingWindowMs).answers none configs :=
    (@Machine.Simulates.run _ _ _ _ _ _ _ _ starts_simulates []
      configs _ _ fresh trivial).1
  rw [same, ← Machine.answers_along, List.map_map]
  rfl

/-! ## The timers -/

/-- After the first start: messages of orders, and later starts. -/
abbrev TimerInput := RelayInput OrderId

/-- The application declares nothing else, whatever its windows. -/
def FromStarts (inputs : List TimerInput) : Prop :=
  ∀ declaration, .declare declaration ∈ inputs →
    ∃ later, declaration ∈ orderTimers later

def timerRun (config : Config) (inputs : List TimerInput) :
    List TimerInput :=
  Relay.start (orderTimers config) ++ inputs

def timerAnswers (config : Config) (now : Instant)
    (inputs : List TimerInput) :
    List (TimerInput × DelayLine.Output OrderId) :=
  timerRelay.machine.answers (Router.empty, now) (timerRun config inputs)

/-- The orders whose message has been published, and when. -/
def timersSet (config : Config) (now : Instant) (inputs : List TimerInput) :
    List (OrderId × Instant) :=
  DelayLine.puts now ((timerRun config inputs).map Relay.meaning)

/-- The orders whose message the consumer has got, and when. -/
def timersFired (config : Config) (now : Instant)
    (inputs : List TimerInput) : List (OrderId × Instant) :=
  DelayLine.takes now
    ((timerAnswers config now inputs).map (Prod.map Relay.meaning id))

section Timers

variable {config : Config} {inputs : List TimerInput} (now : Instant)

/-- The exchanges and queues are a delay line of the booking window. -/
theorem timerAnswers_eq_line (nonnegative : 0 ≤ config.bookingWindowMs)
    (fromStarts : FromStarts inputs) :
    (timerAnswers config now inputs).map (Prod.map Relay.meaning id) =
      (DelayLine.machine config.bookingWindowMs).answers
        (DelayLine.empty, now)
        ((timerRun config inputs).map Relay.meaning) := by
  have declared := declareAll_fresh config (Or.inl rfl)
  rw [if_pos nonnegative] at declared
  apply Relay.answers_eq_line declared (ready_timerTopology _)
  intro declaration member
  obtain ⟨later, isTimer⟩ := fromStarts declaration member
  exact keeps_orderTimers nonnegative isTimer

/-- Every message fires a booking window after it has been published, or
later, and they fire in the order in which they were published. -/
theorem timers_inOrder (nonnegative : 0 ≤ config.bookingWindowMs)
    (fromStarts : FromStarts inputs) :
    DelayLine.InOrder config.bookingWindowMs
      (timersSet config now inputs) (timersFired config now inputs) := by
  rw [timersFired, timerAnswers_eq_line now nonnegative fromStarts]
  exact DelayLine.inOrder config.bookingWindowMs now _

private theorem fromStarts_append {more : List TimerInput}
    (fromStarts : FromStarts inputs)
    (quiet : ∀ declaration, .declare declaration ∉ more) :
    FromStarts (inputs ++ more) := by
  intro declaration member
  rcases List.mem_append.mp member with old | new
  · exact fromStarts declaration old
  · exact absurd new (quiet declaration)

def timersDue (config : Config) (count : Nat) : List TimerInput :=
  .tick config.bookingWindowMs.toNat ::
    (List.replicate count .expire ++ List.replicate count .deliver)

private theorem map_timersDue (config : Config) (count : Nat) :
    (timersDue config count).map Relay.meaning =
      DelayLine.flush OrderId config.bookingWindowMs count := by
  simp [timersDue, DelayLine.flush, Relay.meaning]

private theorem declare_not_mem_timersDue (config : Config) (count : Nat)
    (declaration : Declaration) :
    .declare declaration ∉ timersDue config count := by
  simp [timersDue]

/-- Once the booking window is over, every message that has been published
fires. -/
theorem timers_comeThrough (nonnegative : 0 ≤ config.bookingWindowMs)
    (fromStarts : FromStarts inputs) {count : Nat}
    (enough : (timersSet config now inputs).length ≤ count) :
    (timersFired config now (inputs ++ timersDue config count)).map
        Prod.fst =
      (timersSet config now inputs).map Prod.fst := by
  have fromStartsOn := fromStarts_append fromStarts
    (declare_not_mem_timersDue config count)
  have through := @DelayLine.come_through OrderId config.bookingWindowMs now
    count ((timerRun config inputs).map Relay.meaning) enough
  rw [timersFired, timerAnswers_eq_line now nonnegative fromStartsOn,
    timerRun, ← List.append_assoc, List.map_append, map_timersDue]
  exact through

/-- Each message that is published fires once, in its order, not before its
time; and when the time of all is over, all have fired. -/
theorem timers_fire_once (nonnegative : 0 ≤ config.bookingWindowMs)
    (fromStarts : FromStarts inputs) :
    DelayLine.InOrder config.bookingWindowMs
        (timersSet config now inputs) (timersFired config now inputs) ∧
      ∀ count, (timersSet config now inputs).length ≤ count →
        (timersFired config now (inputs ++ timersDue config count)).map
            Prod.fst =
          (timersSet config now inputs).map Prod.fst :=
  ⟨timers_inOrder now nonnegative fromStarts,
    fun _ enough => timers_comeThrough now nonnegative fromStarts enough⟩

end Timers

/-- Two orders, with a start between them that has another window. -/
def twoOrders : List TimerInput :=
  .publish 1 :: .tick 1000 ::
    (Relay.start (orderTimers ⟨60, 4⟩) ++
      [.publish 2, .expire, .tick 899000, .expire, .expire, .deliver,
        .deliver])

private theorem fromStarts_twoOrders : FromStarts twoOrders := by
  intro declaration member
  refine ⟨⟨60, 4⟩, ?_⟩
  simpa [twoOrders, Relay.start] using member

theorem timers_fire_once_twoOrders :
    timersFired .default 0 twoOrders = [(1, 900000)] ∧
      DelayLine.InOrder 900000 (timersSet .default 0 twoOrders)
        (timersFired .default 0 twoOrders) ∧
      (timersFired .default 0 (twoOrders ++ timersDue .default 2)).map
        Prod.fst = [1, 2] := by
  have nonnegative : 0 ≤ Config.default.bookingWindowMs := by decide
  have fire := timers_fire_once 0 nonnegative fromStarts_twoOrders
  have all := fire.2 2 (by decide)
  exact ⟨by decide +kernel, fire.1, all.trans (by decide)⟩

def timerLine (broker : Booking.Broker) : DelayLine OrderId where
  delayed := broker.delayQueue.map fun message =>
    (message.orderId, message.publishedAt)
  ready := broker.timeoutQueue

end ConcertTicketing.Messaging
