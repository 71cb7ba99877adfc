import ConcertTicketing.Booking.Deployed

/-!
# No message is held up

A queue expires and delivers from its head only.  All messages wait in one queue
and for the same time, so one that is due stands behind due ones, and the broker
can bring it to a handler on its own.
-/

namespace ConcertTicketing.Booking

open Amqp
open Messaging (timerRelay timerTopology timerLine ready_timerTopology)

/-- The messages wait in the order in which they were published. -/
structure DelayOrdered (world : World) : Prop where
  sorted : world.broker.delayQueue.Pairwise fun first second =>
    first.publishedAt ≤ second.publishedAt
  past : ∀ message ∈ world.broker.delayQueue,
    message.publishedAt ≤ world.now

private theorem delayOrdered_init (origin : Instant) :
    DelayOrdered (World.init origin) where
  sorted := .nil
  past message member := by cases member

private theorem delayOrdered_step {env : Environment} {world next : World}
    {action : Action} (ordered : DelayOrdered world)
    (stepped : step env world action = some next) :
    DelayOrdered next := by
  have noEarlier := step_now_le stepped
  have change := step_broker stepped
  have kept : ∀ {broker : Broker}, BrokerChange env world action broker →
      (broker.delayQueue.Pairwise fun first second =>
        first.publishedAt ≤ second.publishedAt) ∧
      ∀ message ∈ broker.delayQueue, message.publishedAt ≤ world.now := by
    intro broker change
    cases change with
    | unchanged => exact ⟨ordered.sorted, ordered.past⟩
    | published index outcome input row found applies =>
        constructor
        · refine List.pairwise_append.mpr ⟨ordered.sorted, by simp, ?_⟩
          intro message member sent isSent
          rw [List.mem_singleton.mp isSent]
          exact ordered.past message member
        · intro message member
          rcases List.mem_append.mp member with old | new
          · exact ordered.past message old
          · rw [List.mem_singleton.mp new]
    | deadLettered index message found due =>
        constructor
        · exact ordered.sorted.sublist (List.eraseIdx_sublist ..)
        · intro other member
          exact ordered.past other (List.mem_of_mem_eraseIdx member)
    | delivered => exact ⟨ordered.sorted, ordered.past⟩
    | requeued => exact ⟨ordered.sorted, ordered.past⟩
  obtain ⟨sorted, past⟩ := kept change
  exact ⟨sorted, fun message member =>
    (past message member).trans noEarlier⟩

def BrokerWorks (_ : Deployed) (action : DeployedAction) : Prop :=
  action = .expire ∨ action = .deliver

def handlerOf (orderId : OrderId) : ExpireCall :=
  ⟨⟨orderId, .unsettled⟩, .running .markExpired⟩

section Works

variable {env : Environment}

private theorem stepsMeet_after {deployed : Deployed} {action : DeployedAction}
    {later : List (Deployed × DeployedAction)}
    (works : BrokerWorks deployed action)
    (worksOn : StepsMeet BrokerWorks later) :
    StepsMeet BrokerWorks (later ++ [(deployed, action)]) := by
  intro entry member
  rcases List.mem_append.mp member with after | first
  · exact worksOn entry after
  · rw [List.mem_singleton.mp first]
    exact works

/-- The due messages at the head of `delay.q` move on. -/
theorem expire_upTo {world : World} {router : Router OrderId}
    {line : DelayLine OrderId} (first : List (OrderId × Instant))
    {rest : List (OrderId × Instant)}
    (shows : timerRelay.Shows (timerTopology env.bookingWindowMs)
      (router, world.now) (line, world.now))
    (waits : line.delayed = first ++ rest)
    (due : ∀ entry ∈ first, entry.2 + env.bookingWindowMs ≤ world.now) :
    ∃ later after,
      Trace (deployedStep env) ⟨world, router⟩ later ⟨world, after⟩ ∧
      StepsMeet BrokerWorks later ∧
      timerRelay.Shows (timerTopology env.bookingWindowMs)
        (after, world.now)
        (⟨rest, line.ready ++ first.map Prod.fst⟩, world.now) := by
  induction first generalizing router line with
  | nil =>
      obtain ⟨delayed, ready⟩ := line
      obtain rfl : delayed = rest := waits
      refine ⟨[], router, .nil, by simp [StepsMeet], ?_⟩
      simpa using shows
  | cons entry others inductionHypothesis =>
      obtain ⟨entryDue, othersDue⟩ := List.forall_mem_cons.mp due
      have lineMoves : line.expire env.bookingWindowMs world.now =
          some ⟨others ++ rest, line.ready ++ [entry.1]⟩ := by
        simp [DelayLine.expire, waits, entryDue]
      obtain ⟨moves, showsNext⟩ := shows.expire (ready_timerTopology _)
      rw [lineMoves] at moves showsNext
      obtain ⟨middle, expired⟩ := Option.isSome_iff_exists.mp moves
      rw [expired] at showsNext
      have stepped : deployedStep env ⟨world, router⟩ .expire =
          some ⟨world, middle⟩ := by
        simp [deployedStep, expired]
      obtain ⟨later, after, run, worksOn, showsAfter⟩ :=
        inductionHypothesis showsNext rfl othersDue
      refine ⟨later ++ [(⟨world, router⟩, .expire)], after,
        (Trace.nil.snoc stepped).append run,
        stepsMeet_after (Or.inl rfl) worksOn, ?_⟩
      simpa using showsAfter

/-- The message at the head of `order.timeout.q` starts its handler. -/
theorem deliver_head {deployed : Deployed} {line : DelayLine OrderId}
    {orderId : OrderId} {rest : List OrderId}
    (quiet : deployed.world.withoutQueues = deployed.world)
    (shows : timerRelay.Shows (timerTopology env.bookingWindowMs)
      (deployed.router, deployed.world.now) (line, deployed.world.now))
    (waits : line.ready = orderId :: rest) :
    ∃ next, deployedStep env deployed .deliver = some next ∧
      next.world =
        { deployed.world with
          expireCalls := deployed.world.expireCalls ++ [handlerOf orderId] } ∧
      timerRelay.Shows (timerTopology env.bookingWindowMs)
        (next.router, deployed.world.now)
        ({ line with ready := rest }, deployed.world.now) := by
  have lineTakes : line.take = some (orderId, { line with ready := rest }) := by
    simp [DelayLine.take, waits]
  obtain ⟨takes, showsNext⟩ := shows.deliver (ready_timerTopology _)
  rw [lineTakes] at takes showsNext
  obtain ⟨⟨payload, router⟩, delivers, rfl⟩ :=
    Option.map_eq_some_iff.mp takes
  rw [delivers] at showsNext
  have starts : step env (deployed.world.behind [] [payload]) (.deliver 0) =
      some
        { deployed.world with
          expireCalls :=
            deployed.world.expireCalls ++ [handlerOf payload] } := by
    rw [← quiet]
    rfl
  refine ⟨⟨_, router⟩, ?_, rfl, showsNext⟩
  simp only [deployedStep, delivers, Option.bind_some, starts,
    Option.map_some]

/-- Whatever is in `order.timeout.q` comes to its handler. -/
theorem deliver_upTo {deployed : Deployed} {line : DelayLine OrderId}
    (first : List OrderId) {orderId : OrderId} {rest : List OrderId}
    (quiet : deployed.world.withoutQueues = deployed.world)
    (shows : timerRelay.Shows (timerTopology env.bookingWindowMs)
      (deployed.router, deployed.world.now) (line, deployed.world.now))
    (waits : line.ready = first ++ orderId :: rest) :
    ∃ later reached others,
      Trace (deployedStep env) deployed later reached ∧
      StepsMeet BrokerWorks later ∧
      reached.world =
        { deployed.world with
          expireCalls :=
            deployed.world.expireCalls ++ others ++ [handlerOf orderId] } := by
  induction first generalizing deployed line with
  | nil =>
      obtain ⟨next, stepped, delivered, _⟩ := deliver_head quiet shows waits
      refine ⟨[(deployed, .deliver)], next, [], Trace.nil.snoc stepped, ?_, ?_⟩
      · simp [StepsMeet, BrokerWorks]
      · simpa using delivered
  | cons ahead others inductionHypothesis =>
      obtain ⟨next, stepped, delivered, showsNext⟩ :=
        deliver_head quiet shows waits
      have quietNext : next.world.withoutQueues = next.world := by
        rw [delivered, ← quiet]
        rfl
      have sameNow : next.world.now = deployed.world.now := by
        rw [delivered]
      rw [← sameNow] at showsNext
      obtain ⟨later, reached, between, run, worksOn, handled⟩ :=
        inductionHypothesis quietNext showsNext rfl
      refine ⟨later ++ [(deployed, .deliver)], reached,
        handlerOf ahead :: between, (Trace.nil.snoc stepped).append run,
        stepsMeet_after (Or.inr rfl) worksOn, ?_⟩
      rw [handled, delivered]
      simp

/-- The due messages of `delay.q`, and all of `order.timeout.q`. -/
def Deliverable (env : Environment) (deployed : Deployed)
    (message : Queued OrderId) : Prop :=
  message ∈ deployed.router.waiting timerRelay.workQueue ∨
    (message ∈ deployed.router.waiting timerRelay.delayQueue ∧
      message.since + env.bookingWindowMs ≤ deployed.world.now)

/-- Whatever the run before, the broker alone can bring a message to its
handler once its time is over: no other message holds it up. -/
theorem reaches_handler (nonnegative : 0 ≤ env.bookingWindowMs)
    {origin : Instant} {history : List (Deployed × DeployedAction)}
    {deployed : Deployed}
    (run :
      Trace (deployedStep env) (Deployed.init env origin) history deployed)
    {message : Queued OrderId}
    (deliverable : Deliverable env deployed message) :
    ∃ later reached others,
      Trace (deployedStep env) deployed later reached ∧
      StepsMeet BrokerWorks later ∧
      reached.world =
        { deployed.world with
          expireCalls :=
            deployed.world.expireCalls ++ others ++
              [handlerOf message.payload] } := by
  have base := presents_init origin nonnegative
  obtain ⟨older, world, runWorld, _, presents⟩ :=
    (refines_booking nonnegative).run base run
  obtain ⟨ready, _, shows⟩ := presents.queues
  have ordered : DelayOrdered world :=
    runWorld.invariant DelayOrdered (delayOrdered_init origin)
      fun _ _ _ holds stepped => delayOrdered_step holds stepped
  have quiet := presents.quiet
  rw [← presents.sameNow] at shows
  rcases deliverable with ready_mem | ⟨delayed, due⟩
  · have member : message.payload ∈ ready := by
      have payloads := List.mem_map_of_mem (f := Queued.payload) ready_mem
      rwa [shows.ready] at payloads
    obtain ⟨first, rest, split⟩ := List.append_of_mem member
    exact deliver_upTo first quiet shows split
  · rw [shows.delayed] at delayed
    obtain ⟨entry, member, rfl⟩ := List.mem_map.mp delayed
    obtain ⟨first, rest, split⟩ := List.append_of_mem member
    have waits : (timerLine world.broker).delayed =
        (first ++ [entry]) ++ rest := by
      simpa using split
    have allDue : ∀ other ∈ first ++ [entry],
        other.2 + env.bookingWindowMs ≤ deployed.world.now := by
      intro other among
      have noLater : other.2 ≤ entry.2 := by
        have sorted : (timerLine world.broker).delayed.Pairwise
            fun earlier later => earlier.2 ≤ later.2 :=
          List.pairwise_map.mpr ordered.sorted
        rw [split] at sorted
        rcases List.mem_append.mp among with before | itself
        · exact (List.pairwise_append.mp sorted).2.2 other before entry
            List.mem_cons_self
        · rw [List.mem_singleton.mp itself]
      have entryDue : entry.2 + env.bookingWindowMs ≤ deployed.world.now := due
      omega
    obtain ⟨later, router, runMoved, works, moved⟩ :=
      expire_upTo (first ++ [entry]) shows waits allDue
    have waitsReady : ready ++ (first ++ [entry]).map Prod.fst =
        (ready ++ first.map Prod.fst) ++ entry.1 :: [] := by
      simp
    obtain ⟨newer, reached, others, runOn, worksOn, handled⟩ :=
      @deliver_upTo env ⟨deployed.world, router⟩ _ _ _ _ quiet moved
        waitsReady
    exact ⟨newer ++ later, reached, others, runMoved.append runOn,
      List.forall_mem_append.mpr ⟨worksOn, works⟩, handled⟩

end Works

/-- Two orders at different times, of which the first one is due. -/
def twoTimers : List DeployedAction :=
  (lockSeatRun 0 ⟨10, 1, 7⟩ ++ createOrderRun 0 ⟨10, 1, [7], "first"⟩ ++
    Action.tick 400000 :: lockSeatRun 1 ⟨11, 1, 8⟩ ++
    createOrderRun 1 ⟨11, 1, [8], "second"⟩ ++
    [Action.tick 500000]).map .process

private theorem twoTimers_enabled :
    (replay (deployedStep smallVenue) [] (Deployed.init smallVenue 0)
      twoTimers).isSome = true := by
  decide +kernel

def afterTwoTimers : List (Deployed × DeployedAction) × Deployed :=
  (replay (deployedStep smallVenue) [] (Deployed.init smallVenue 0)
    twoTimers).get twoTimers_enabled

theorem reaches_handler_first :
    ∃ later reached others,
      Trace (deployedStep smallVenue) afterTwoTimers.2 later reached ∧
      StepsMeet BrokerWorks later ∧
      reached.world =
        { afterTwoTimers.2.world with
          expireCalls :=
            afterTwoTimers.2.world.expireCalls ++ others ++
              [handlerOf 0] } := by
  have run := Trace.of_replay_get twoTimers twoTimers_enabled
  have waiting : afterTwoTimers.2.router.waiting timerRelay.delayQueue =
      [⟨"delay.q", "order.expire", 0, 0⟩,
        ⟨"delay.q", "order.expire", 1, 400000⟩] := by
    rfl
  have deliverable : Deliverable smallVenue afterTwoTimers.2
      ⟨"delay.q", "order.expire", 0, 0⟩ := by
    refine Or.inr ⟨?_, by decide +kernel⟩
    rw [waiting]
    exact List.mem_cons_self
  exact reaches_handler (by decide) run deliverable

end ConcertTicketing.Booking
