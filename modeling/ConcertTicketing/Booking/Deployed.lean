import ConcertTicketing.Booking.Expiry
import ConcertTicketing.Library.Refinement
import ConcertTicketing.Messaging.Timers

/-!
# The booking system over its exchanges

The broker of `Booking.step` has two queues, and takes from them what it likes.
Deployed, the calls publish to `delay.x`, the broker routes, dead-letters and
delivers what the starts of the application have declared, a queue at a time
and the oldest message first, and a delivery that comes back goes to whatever
place.  Each step of the deployed system is a step of the booking system, and a
message that is due can always go its way to a handler.
-/

namespace ConcertTicketing.Booking

open Amqp SeatLock
open Messaging (orderTimers timerRelay timerTopology timerLine)

/-- The same stores, behind messages that are in the queues already. -/
def Stores.behind (stores : Stores) (delayed : List Message)
    (timedOut : List OrderId) : Stores :=
  { stores with
    broker :=
      { stores.broker with
        delayQueue := delayed ++ stores.broker.delayQueue
        timeoutQueue := timedOut ++ stores.broker.timeoutQueue } }

namespace World

def behind (world : World) (delayed : List Message)
    (timedOut : List OrderId) : World :=
  { world with toStores := world.toStores.behind delayed timedOut }

def withoutQueues (world : World) : World :=
  { world with
    broker := { world.broker with delayQueue := [], timeoutQueue := [] } }

end World

/-- Requests and the application with their messages at a broker of exchanges;
the queues of the world's own broker stay empty. -/
structure Deployed where
  world : World
  router : Router OrderId

/-- Another process starts, the application takes a step, the message at the
head of `delay.q` expires, the one at the head of `order.timeout.q` is
delivered, or a delivery that has not been settled goes back. -/
inductive DeployedAction where
  | start (config : Config)
  | process (action : Action)
  | expire
  | deliver
  | requeue (index place : Nat)

def Action.atBroker : Action → Bool
  | .deadLetter _ | .deliver _ | .requeue _ => true
  | _ => false

/-- `publishDelayed`, for every message that a step has sent. -/
def publishAll (router : Router OrderId) (messages : List Message) :
    Option (Router OrderId) :=
  messages.foldlM
    (fun router message =>
      router.publish timerRelay.delayExchange timerRelay.routingKey
        message.orderId message.publishedAt)
    router

def takeBackAll (router : Router OrderId) (place : Nat) (now : Instant)
    (orderIds : List OrderId) : Router OrderId :=
  orderIds.foldl
    (fun router orderId =>
      router.takeBack
        ⟨timerRelay.workQueue, timerRelay.routingKey, orderId, now⟩ place)
    router

/-- A start that fails has declared what comes before the failure. -/
def deployedStep (env : Environment) (deployed : Deployed) :
    DeployedAction → Option Deployed
  | .start config =>
      let declared :=
        deployed.router.topology.declareAll (orderTimers config)
      some
        { deployed with
          router := { deployed.router with topology := declared.1 } }
  | .process action =>
      if action.atBroker then none
      else
        (step env deployed.world action).bind fun next =>
          (publishAll deployed.router next.broker.delayQueue).map
            fun router => ⟨next.withoutQueues, router⟩
  | .expire =>
      (deployed.router.expire timerRelay.delayQueue deployed.world.now).map
        fun router => { deployed with router := router }
  | .deliver =>
      (deployed.router.deliver timerRelay.workQueue).bind fun delivered =>
        (step env (deployed.world.behind [] [delivered.1])
          (.deliver 0)).map fun next => ⟨next, delivered.2⟩
  | .requeue index place =>
      (step env deployed.world (.requeue index)).map fun next =>
        ⟨next.withoutQueues,
          takeBackAll deployed.router place deployed.world.now
            next.broker.timeoutQueue⟩

def Deployed.init (env : Environment) (origin : Instant) : Deployed where
  world := World.init origin
  router :=
    ⟨(Topology.empty.declareAll (orderTimers env.toConfig)).1, []⟩

private theorem World.behind_withoutQueues (world : World) :
    world.withoutQueues.behind world.broker.delayQueue
      world.broker.timeoutQueue = world := by
  simp [World.behind, World.withoutQueues, Stores.behind]

/-- What waits in the queues plays no part in what a call does. -/
def QueuesApart {σ ρ : Type} (function : AsyncFunction Stores σ ρ) : Prop :=
  ∀ (stores : Stores) (stage : σ) (delayed : List Message)
    (timedOut : List OrderId),
    function.resolve (stores.behind delayed timedOut) stage =
      (function.resolve stores stage).map
        (Prod.map (Stores.behind · delayed timedOut) id)

private theorem lockSeat_apart (env : Environment) (input : LockSeatInput) :
    QueuesApart (lockSeat env input) := by
  intro stores stage delayed timedOut
  cases stage with
  | acquire => rfl
  | findActive =>
      simp only [lockSeat, Stores.behind]
      split <;> rfl
  | recordAcquired expiresAt =>
      simp only [lockSeat, Stores.behind]
      split <;> rfl

private theorem releaseSeat_apart (input : ReleaseInput) :
    QueuesApart (releaseSeat input) := by
  intro stores stage delayed timedOut
  cases stage <;> rfl

private theorem createOrder_apart (env : Environment) (uncommitted : List Order)
    (input : CreateOrderInput) :
    QueuesApart (createOrder env uncommitted input) := by
  intro stores stage delayed timedOut
  cases stage with
  | verifyHeld => rfl
  | loadSeatPricing =>
      simp only [createOrder]
      split <;> rfl
  | insertOrder data =>
      simp only [createOrder, Stores.behind]
      split
      · rfl
      · split
        · rfl
        · split <;> rfl
  | extendHold row => rfl
  | commit row => rfl
  | publishExpiration row =>
      simp [createOrder, Stores.behind, Broker.publishExpiration,
        Stores.now]
  | findByIdempotencyKey => rfl

private theorem expireOrder_apart (orderId : OrderId) :
    QueuesApart (expireOrder orderId) := by
  intro stores stage delayed timedOut
  cases stage with
  | markExpired => rfl
  | findOrder changed => rfl
  | releaseHold result position =>
      simp only [expireOrder]
      split <;> rfl
  | expireSeatLockAudit result => rfl

section Apart

variable {σ ρ ι : Type} {stores : Stores} {delayed : List Message}
  {timedOut : List OrderId}

theorem QueuesApart.await {function : AsyncFunction Stores σ ρ}
    (apart : QueuesApart function) (stage : σ) (outcome : Await) :
    function.await (stores.behind delayed timedOut) stage outcome =
      (function.await stores stage outcome).map
        (Prod.map (Stores.behind · delayed timedOut) id) := by
  cases outcome with
  | resolves => exact apart stores stage delayed timedOut
  | rejects applied =>
      cases applied with
      | true =>
          simp only [AsyncFunction.await, apart stores stage delayed timedOut,
            Option.map_map]
          rfl
      | false => rfl
  | stops => rfl

private theorem advance_behind {function : ι → AsyncFunction Stores σ ρ}
    (apart : ∀ input, QueuesApart (function input))
    (calls : List (Call ι σ ρ)) (index : Nat) (outcome : Await) :
    Call.advance function calls index outcome
        (stores.behind delayed timedOut) =
      (Call.advance function calls index outcome stores).map
        (Prod.map (Stores.behind · delayed timedOut) id) := by
  unfold Call.advance
  split
  · next input stage found =>
      rw [(apart input).await, Option.map_map, Option.map_map]
      rfl
  · rfl

end Apart

/-- The same for a step that takes nothing from a queue. -/
theorem step_behind (env : Environment) (world : World)
    (delayed : List Message) (timedOut : List OrderId) {action : Action}
    (takesNothing : action.atBroker = false ∨
      ∃ index, action = .requeue index) :
    step env (world.behind delayed timedOut) action =
      (step env world action).map (World.behind · delayed timedOut) := by
  cases action with
  | tick elapsed => rfl
  | lockSeat input => rfl
  | releaseSeat input => rfl
  | createOrder input => rfl
  | expireOrder orderId => rfl
  | lockAwait index outcome =>
      simp only [step, World.behind, advance_behind (lockSeat_apart env),
        Option.map_map]
      rfl
  | releaseAwait index outcome =>
      simp only [step, World.behind, advance_behind releaseSeat_apart,
        Option.map_map]
      rfl
  | createAwait index outcome =>
      have sameRows : (world.behind delayed timedOut).uncommitted =
          world.uncommitted := rfl
      simp only [step, sameRows]
      simp only [World.behind,
        advance_behind (createOrder_apart env world.uncommitted),
        Option.map_map]
      rfl
  | expireAwait index outcome =>
      simp only [step, World.behind,
        advance_behind fun request : ExpireRequest =>
          expireOrder_apart request.orderId,
        Option.map_map]
      rfl
  | deadLetter index =>
      rcases takesNothing with atBroker | ⟨_, other⟩ <;> contradiction
  | deliver index =>
      rcases takesNothing with atBroker | ⟨_, other⟩ <;> contradiction
  | settle index =>
      simp only [step, World.behind]
      split
      · rw [Option.map_map]
        rfl
      · rfl
  | requeue index =>
      simp only [step, World.behind]
      split
      · simp [Stores.behind]
      · rfl

/-- What the application sends in one step it sends now. -/
theorem sent_of_step {env : Environment} {world next : World}
    {action : Action} (process : action.atBroker = false)
    (quiet : world.withoutQueues = world)
    (stepped : step env world action = some next) :
    next.broker.timeoutQueue = [] ∧
      ∀ message ∈ next.broker.delayQueue,
        message.publishedAt = world.now := by
  have noDelayed : world.broker.delayQueue = [] := by
    rw [← quiet]
    rfl
  have noTimedOut : world.broker.timeoutQueue = [] := by
    rw [← quiet]
    rfl
  have change := step_broker stepped
  generalize next.broker = broker at change
  cases change with
  | unchanged => simp [noDelayed, noTimedOut]
  | published index outcome input row found applies =>
      simp [Broker.publishExpiration, noDelayed, noTimedOut]
  | deadLettered => cases process
  | delivered => cases process
  | requeued => cases process

/-- The messages come to the end of `delay.q`. -/
theorem publishAll_shows {window : Int} {router : Router OrderId}
    {line : DelayLine OrderId} {now : Instant} {messages : List Message}
    (shows : timerRelay.Shows (timerTopology window) (router, now)
      (line, now))
    (sentNow : ∀ message ∈ messages, message.publishedAt = now) :
    ∃ after, publishAll router messages = some after ∧
      timerRelay.Shows (timerTopology window) (after, now)
        (⟨line.delayed ++ messages.map fun message =>
            (message.orderId, message.publishedAt),
          line.ready⟩, now) := by
  induction messages generalizing router line with
  | nil =>
      refine ⟨router, rfl, ?_⟩
      simpa using shows
  | cons message rest inductionHypothesis =>
      obtain ⟨isNow, restNow⟩ := List.forall_mem_cons.mp sentNow
      obtain ⟨middle, publishes, showsNext⟩ :=
        shows.publish (Messaging.ready_timerTopology _) message.orderId
      obtain ⟨after, publishesRest, showsAfter⟩ :=
        inductionHypothesis showsNext restNow
      refine ⟨after, ?_, ?_⟩
      · simpa [publishAll, isNow, publishes] using publishesRest
      · simpa [DelayLine.put, isNow] using showsAfter

/-- The queues of the router are those of the broker. -/
structure Presents (env : Environment) (deployed : Deployed) (world : World) :
    Prop where
  calls : deployed.world = world.withoutQueues
  queues : ∃ ready, ready.Perm world.broker.timeoutQueue ∧
    timerRelay.Shows (timerTopology env.bookingWindowMs)
      (deployed.router, world.now)
      (⟨(timerLine world.broker).delayed, ready⟩, world.now)

/-- The step of the booking system behind a step of the deployed one. -/
inductive Behind : DeployedAction → Action → Prop
  | start (config : Config) : Behind (.start config) (.tick 0)
  | process (action : Action) : Behind (.process action) action
  | expire : Behind .expire (.deadLetter 0)
  | deliver (index : Nat) : Behind .deliver (.deliver index)
  | requeue (index place : Nat) :
      Behind (.requeue index place) (.requeue index)

theorem presents_init {env : Environment} (origin : Instant)
    (nonnegative : 0 ≤ env.bookingWindowMs) :
    Presents env (Deployed.init env origin) (World.init origin) where
  calls := rfl
  queues := by
    have declared :=
      Messaging.declareAll_fresh env.toConfig (Or.inl rfl)
    rw [if_pos nonnegative] at declared
    refine ⟨[], .refl [], ?_⟩
    simp only [Deployed.init, declared]
    exact ⟨rfl, rfl, rfl, rfl⟩

section Steps

variable {env : Environment} {deployed next : Deployed} {world : World}

theorem Presents.start (presents : Presents env deployed world)
    (nonnegative : 0 ≤ env.bookingWindowMs) (config : Config)
    (stepped : deployedStep env deployed (.start config) = some next) :
    ∃ after, step env world (.tick 0) = some after ∧
      Presents env next after := by
  obtain ⟨ready, sameReady, shows⟩ := presents.queues
  have topology : deployed.router.topology = _ := shows.topology
  have declared :
      deployed.router.topology.declareAll (orderTimers config) =
        (deployed.router.topology, _) :=
    topology ▸ Messaging.declareAll_timerTopology nonnegative config
  simp only [deployedStep, declared, Option.some.injEq] at stepped
  subst next
  have stays : world.redis.tick 0 = world.redis := by
    simp [Redis.Db.tick]
  refine ⟨world, ?_, presents.calls, ready, sameReady, shows⟩
  rw [step, stays]

theorem Presents.sameNow (presents : Presents env deployed world) :
    deployed.world.now = world.now := by
  rw [presents.calls]
  rfl

theorem Presents.quiet (presents : Presents env deployed world) :
    deployed.world.withoutQueues = deployed.world := by
  rw [presents.calls]
  rfl

theorem Presents.behind (presents : Presents env deployed world) :
    deployed.world.behind world.broker.delayQueue world.broker.timeoutQueue =
      world := by
  rw [presents.calls]
  exact world.behind_withoutQueues

/-- What the calls do they do in both systems, and what they send arrives. -/
theorem Presents.reached (presents : Presents env deployed world)
    {line : DelayLine OrderId}
    (shows : timerRelay.Shows (timerTopology env.bookingWindowMs)
      (deployed.router, world.now) (line, world.now))
    (delayed : line.delayed = (timerLine world.broker).delayed)
    {action : Action} (process : action.atBroker = false) {reached : World}
    (steppedCalls : step env deployed.world action = some reached) :
    ∃ after router, step env world action = some after ∧
      publishAll deployed.router reached.broker.delayQueue = some router ∧
      reached.withoutQueues = after.withoutQueues ∧
      after.broker.timeoutQueue = world.broker.timeoutQueue ∧
      timerRelay.Shows (timerTopology env.bookingWindowMs)
        (router, after.now)
        (⟨(timerLine after.broker).delayed, line.ready⟩, after.now) := by
  have steppedBehind := step_behind env deployed.world
    world.broker.delayQueue world.broker.timeoutQueue (Or.inl process)
  rw [presents.behind, steppedCalls, Option.map_some] at steppedBehind
  obtain ⟨noTimedOut, sentNow⟩ :=
    sent_of_step process presents.quiet steppedCalls
  rw [presents.sameNow] at sentNow
  obtain ⟨router, published, showsAfter⟩ := publishAll_shows shows sentNow
  refine ⟨_, router, steppedBehind, published, rfl, ?_, ?_⟩
  · simp [World.behind, Stores.behind, noTimedOut]
  · refine ⟨showsAfter.topology, rfl, ?_, showsAfter.ready⟩
    simpa [World.behind, Stores.behind, timerLine, delayed] using
      showsAfter.delayed

theorem Presents.process (presents : Presents env deployed world)
    (action : Action)
    (stepped : deployedStep env deployed (.process action) = some next) :
    ∃ after, step env world action = some after ∧
      Presents env next after := by
  obtain ⟨ready, sameReady, shows⟩ := presents.queues
  have process : action.atBroker = false := by
    cases atBroker : action.atBroker with
    | false => rfl
    | true => simp [deployedStep, atBroker] at stepped
  simp only [deployedStep, process, Bool.false_eq_true, if_false,
    Option.bind_eq_some_iff, Option.map_eq_some_iff] at stepped
  obtain ⟨reached, steppedCalls, router, published, rfl⟩ := stepped
  obtain ⟨after, routerAfter, steppedWorld, publishes, sameCalls, sameQueue,
    showsAfter⟩ := presents.reached shows rfl process steppedCalls
  obtain rfl : routerAfter = router :=
    Option.some.inj (publishes.symm.trans published)
  rw [← sameQueue] at sameReady
  exact ⟨after, steppedWorld, sameCalls, ready, sameReady, showsAfter⟩

theorem Presents.expire (presents : Presents env deployed world)
    (stepped : deployedStep env deployed .expire = some next) :
    ∃ after, step env world (.deadLetter 0) = some after ∧
      Presents env next after := by
  obtain ⟨ready, sameReady, shows⟩ := presents.queues
  simp only [deployedStep, Option.map_eq_some_iff] at stepped
  obtain ⟨router, expired, rfl⟩ := stepped
  obtain ⟨moves, showsAfter⟩ :=
    shows.expire (Messaging.ready_timerTopology env.bookingWindowMs)
  rw [presents.sameNow] at expired
  rw [expired] at moves showsAfter
  cases waits : world.broker.delayQueue with
  | nil => simp [DelayLine.expire, timerLine, waits] at moves
  | cons message rest =>
      by_cases isOver :
          message.publishedAt + env.bookingWindowMs ≤ world.now
      · have stepped : step env world (.deadLetter 0) =
            some
              { world with
                broker :=
                  { world.broker with
                    delayQueue := rest
                    timeoutQueue :=
                      world.broker.timeoutQueue ++ [message.orderId] } } := by
          simp [step, deadLetter, waits, isOver]
        simp only [DelayLine.expire, timerLine, waits, List.map_cons,
          if_pos isOver, Option.getD_some] at showsAfter
        refine ⟨_, stepped, presents.calls, ready ++ [message.orderId], ?_, ?_⟩
        · exact sameReady.append_right [message.orderId]
        · exact showsAfter
      · simp [DelayLine.expire, timerLine, waits, isOver] at moves

theorem Presents.deliver (presents : Presents env deployed world)
    (stepped : deployedStep env deployed .deliver = some next) :
    ∃ index after, step env world (.deliver index) = some after ∧
      Presents env next after := by
  obtain ⟨ready, sameReady, shows⟩ := presents.queues
  simp only [deployedStep, Option.bind_eq_some_iff,
    Option.map_eq_some_iff] at stepped
  obtain ⟨⟨orderId, router⟩, delivered, reached, starts, rfl⟩ := stepped
  obtain ⟨takes, showsAfter⟩ :=
    shows.deliver (Messaging.ready_timerTopology env.bookingWindowMs)
  rw [delivered] at takes showsAfter
  cases ready with
  | nil => simp [DelayLine.take] at takes
  | cons first rest =>
      obtain rfl : orderId = first := by
        simpa [DelayLine.take] using takes
      have member : orderId ∈ world.broker.timeoutQueue :=
        sameReady.subset List.mem_cons_self
      obtain ⟨index, found⟩ := List.mem_iff_getElem?.mp member
      have stepped : step env world (.deliver index) =
          some
            { world with
              broker :=
                { world.broker with
                  timeoutQueue := world.broker.timeoutQueue.eraseIdx index }
              expireCalls :=
                world.expireCalls ++
                  [⟨⟨orderId, .unsettled⟩, .running .markExpired⟩] } := by
        simp [step, found]
      refine ⟨index, _, stepped, ?_, rest, ?_, ?_⟩
      · rw [presents.calls] at starts
        cases starts
        rfl
      · obtain ⟨inside, here⟩ := List.getElem?_eq_some_iff.mp found
        have taken := List.getElem_cons_eraseIdx_perm inside
        rw [here] at taken
        exact (sameReady.trans taken.symm).cons_inv
      · simpa [DelayLine.take, timerLine, Stores.now] using showsAfter

theorem Presents.requeue (presents : Presents env deployed world)
    (index place : Nat)
    (stepped :
      deployedStep env deployed (.requeue index place) = some next) :
    ∃ after, step env world (.requeue index) = some after ∧
      Presents env next after := by
  obtain ⟨ready, sameReady, shows⟩ := presents.queues
  simp only [deployedStep, Option.map_eq_some_iff] at stepped
  obtain ⟨reached, steppedCalls, rfl⟩ := stepped
  have steppedBehind := step_behind env deployed.world
    world.broker.delayQueue world.broker.timeoutQueue
    (Or.inr ⟨index, rfl⟩)
  rw [presents.behind, steppedCalls, Option.map_some] at steppedBehind
  refine ⟨_, steppedBehind, rfl, ?_⟩
  cases step_cases steppedCalls with
  | requeued index orderId progress found =>
      obtain ⟨readyAfter, moved, showsAfter⟩ :=
        shows.takeBack (Messaging.ready_timerTopology env.bookingWindowMs)
          orderId deployed.world.now place
      rw [presents.calls] at showsAfter ⊢
      refine ⟨readyAfter, ?_, ?_⟩
      · have atEnd : (world.broker.timeoutQueue ++ [orderId]).Perm
            (orderId :: world.broker.timeoutQueue) :=
          List.perm_append_singleton ..
        exact (moved.trans (sameReady.cons orderId)).trans atEnd.symm
      · simpa [World.behind, Stores.behind, World.withoutQueues,
          takeBackAll, timerLine, Stores.now] using showsAfter

end Steps

/-- A step over the exchanges is a step of the booking system. -/
theorem refines_booking {env : Environment}
    (nonnegative : 0 ≤ env.bookingWindowMs) :
    Refines (deployedStep env) (step env) (Presents env) Behind := by
  intro deployed action next world presents stepped
  cases action with
  | start config =>
      obtain ⟨after, steppedWorld, presentsAfter⟩ :=
        presents.start nonnegative config stepped
      exact ⟨_, after, .start config, steppedWorld, presentsAfter⟩
  | process action =>
      obtain ⟨after, steppedWorld, presentsAfter⟩ :=
        presents.process action stepped
      exact ⟨_, after, .process action, steppedWorld, presentsAfter⟩
  | expire =>
      obtain ⟨after, steppedWorld, presentsAfter⟩ := presents.expire stepped
      exact ⟨_, after, .expire, steppedWorld, presentsAfter⟩
  | deliver =>
      obtain ⟨index, after, steppedWorld, presentsAfter⟩ :=
        presents.deliver stepped
      exact ⟨_, after, .deliver index, steppedWorld, presentsAfter⟩
  | requeue index place =>
      obtain ⟨after, steppedWorld, presentsAfter⟩ :=
        presents.requeue index place stepped
      exact ⟨_, after, .requeue index place, steppedWorld, presentsAfter⟩

/-- Whatever processes start in between and with whatever windows, a run over
the exchanges is, state by state, a run of the booking system with the window
of the first start. -/
theorem deployed_refines {env : Environment} {origin : Instant}
    {history : List (Deployed × DeployedAction)} {deployed : Deployed}
    (nonnegative : 0 ≤ env.bookingWindowMs)
    (run :
      Trace (deployedStep env) (Deployed.init env origin) history deployed) :
    ∃ older world, Trace (step env) (World.init origin) older world ∧
      List.Forall₂ (EntryRefines (Presents env) Behind) history older ∧
      Presents env deployed world := by
  have base := presents_init origin nonnegative
  obtain ⟨older, world, runWorld, entries, presents⟩ :=
    (refines_booking nonnegative).run base run
  exact ⟨older, world, runWorld, entries, presents⟩

/-- An order whose message is delivered, comes back and is delivered again,
beside a start with another window. -/
def deployedSale : List DeployedAction :=
  (lockSeatRun 0 ⟨10, 1, 7⟩ ++ createOrderRun 0 ⟨10, 1, [7], "first"⟩).map
      .process ++
    [.start ⟨60, 4⟩, .process (.tick 900000), .expire, .deliver,
      .requeue 0 3, .deliver]

private theorem deployedSale_enabled :
    (replay (deployedStep smallVenue) [] (Deployed.init smallVenue 0)
      deployedSale).isSome = true := by
  decide +kernel

/-- The run of `deployedSale` and the state it ends in. -/
def afterSale : List (Deployed × DeployedAction) × Deployed :=
  (replay (deployedStep smallVenue) [] (Deployed.init smallVenue 0)
    deployedSale).get deployedSale_enabled

theorem deployed_refines_sale :
    0 ≤ smallVenue.bookingWindowMs ∧
      afterSale.2.world.expireCalls.map Call.input =
        [⟨0, .requeued⟩, ⟨0, .unsettled⟩] ∧
      ∃ older world, Trace (step smallVenue) (World.init 0) older world ∧
        List.Forall₂ (EntryRefines (Presents smallVenue) Behind)
          afterSale.1 older ∧
        Presents smallVenue afterSale.2 world := by
  have nonnegative : 0 ≤ smallVenue.bookingWindowMs := by decide
  have run := Trace.of_replay_get deployedSale deployedSale_enabled
  exact ⟨nonnegative, by decide +kernel, deployed_refines nonnegative run⟩

end ConcertTicketing.Booking
