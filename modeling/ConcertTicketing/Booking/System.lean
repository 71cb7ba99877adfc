import ConcertTicketing.Booking.UseCases
import ConcertTicketing.SeatLock.HeldSets

/-!
# The booking system

Any number of requests run at the same time and interleave at their awaits.
Beside the requests there are the clock and the broker: a message whose
time-to-live has run out moves from `delay.q` to `order.timeout.q`, a delivery
starts `ExpireOrderUseCase.execute`, and the consumer acknowledges a delivery
that returned and rejects one that threw.  The broker takes an unsettled
delivery back when it loses the consumer.  A handler that outlives its channel
settles nothing here; that it would settle on the channel of the next
connection is modelled in `Messaging`.
-/

namespace ConcertTicketing.Booking

open SeatLock Redis

/-- How the expiry of an order was requested: in a direct call, or by a
delivery that the broker waits to see settled. -/
inductive Delivery where
  | direct
  | unsettled
  | acked
  | nacked
  | requeued
  deriving DecidableEq, Repr

structure ExpireRequest where
  orderId : OrderId
  delivery : Delivery
  deriving DecidableEq, Repr

abbrev LockCall :=
  Call LockSeatInput LockStage (Except SeatLockError LockSeatOutput)

abbrev ReleaseCall :=
  Call ReleaseInput ReleaseStage (Except ReleaseSeatError Unit)

abbrev CreateCall :=
  Call CreateOrderInput CreateStage (Except OrderError CreateOrderOutput)

abbrev ExpireCall := Call ExpireRequest ExpireStage Unit

structure World extends Stores where
  lockCalls : List LockCall
  releaseCalls : List ReleaseCall
  createCalls : List CreateCall
  expireCalls : List ExpireCall

/-- The row of a running transaction. -/
def uncommittedRow (call : CreateCall) : Option Order :=
  match call.progress with
  | .running (.extendHold row) => some row
  | .running (.commit row) => some row
  | _ => none

namespace World

def init (origin : Instant) : World :=
  ⟨Stores.empty origin, [], [], [], []⟩

def uncommitted (world : World) : List Order :=
  world.createCalls.filterMap uncommittedRow

end World

/-- A request arrives, a pending call of a request ends, the broker acts, or
time passes. -/
inductive Action where
  | tick (elapsed : Nat)
  | lockSeat (input : LockSeatInput)
  | releaseSeat (input : ReleaseInput)
  | createOrder (input : CreateOrderInput)
  | expireOrder (orderId : OrderId)
  | lockAwait (index : Nat) (outcome : Await)
  | releaseAwait (index : Nat) (outcome : Await)
  | createAwait (index : Nat) (outcome : Await)
  | expireAwait (index : Nat) (outcome : Await)
  | deadLetter (index : Nat)
  | deliver (index : Nat)
  | settle (index : Nat)
  | requeue (index : Nat)
  deriving DecidableEq, Repr

namespace Action

/-- The create call whose pending call ends, and how. -/
def createAwait? : Action → Option (Nat × Await)
  | .createAwait index outcome => some (index, outcome)
  | _ => none

/-- The expire call whose pending call ends, and how. -/
def expireAwait? : Action → Option (Nat × Await)
  | .expireAwait index outcome => some (index, outcome)
  | _ => none

/-- The expire call whose delivery is settled. -/
def settle? : Action → Option Nat
  | .settle index => some index
  | _ => none

end Action

/-! ## Steps -/

/-- The time-to-live of `delay.q` has run out and `work.x` routes the message
to `order.timeout.q`. -/
def deadLetter (env : Environment) (broker : Broker) (now : Instant)
    (index : Nat) : Option Broker :=
  match broker.delayQueue[index]? with
  | some message =>
      if message.publishedAt + env.bookingWindowMs ≤ now then
        some
          { broker with
            delayQueue := broker.delayQueue.eraseIdx index
            timeoutQueue := broker.timeoutQueue ++ [message.orderId] }
      else none
  | none => none

/-- `handleMessage` after the handler: `ack`, or `nack` without requeue.  The
queue has no dead-letter exchange, so a rejected message is gone. -/
def settlement : ExpireProgress → Option Delivery
  | .finished () => some .acked
  | .failed _ _ => some .nacked
  | .running _ => none
  | .stopped _ => none

def step (env : Environment) (world : World) : Action → Option World
  | .tick elapsed =>
      some { world with redis := world.redis.tick elapsed }
  | .lockSeat input =>
      some
        { world with
          lockCalls := world.lockCalls ++ [⟨input, .running .acquire⟩] }
  | .releaseSeat input =>
      some
        { world with
          releaseCalls := world.releaseCalls ++ [⟨input, .running .release⟩] }
  | .createOrder input =>
      some
        { world with
          createCalls :=
            world.createCalls ++ [⟨input, .running .verifyHeld⟩] }
  | .expireOrder orderId =>
      some
        { world with
          expireCalls :=
            world.expireCalls ++
              [⟨⟨orderId, .direct⟩, .running .markExpired⟩] }
  | .lockAwait index outcome =>
      (Call.advance (lockSeat env) world.lockCalls index outcome
        world.toStores).map fun stepped =>
          { world with toStores := stepped.1, lockCalls := stepped.2 }
  | .releaseAwait index outcome =>
      (Call.advance releaseSeat world.releaseCalls index outcome
        world.toStores).map fun stepped =>
          { world with toStores := stepped.1, releaseCalls := stepped.2 }
  | .createAwait index outcome =>
      (Call.advance (createOrder env world.uncommitted) world.createCalls
        index outcome world.toStores).map fun stepped =>
          { world with toStores := stepped.1, createCalls := stepped.2 }
  | .expireAwait index outcome =>
      (Call.advance (fun request => expireOrder request.orderId)
        world.expireCalls index outcome world.toStores).map fun stepped =>
          { world with toStores := stepped.1, expireCalls := stepped.2 }
  | .deadLetter index =>
      (deadLetter env world.broker world.now index).map fun broker =>
        { world with broker := broker }
  | .deliver index =>
      match world.broker.timeoutQueue[index]? with
      | some orderId =>
          some
            { world with
              broker :=
                { world.broker with
                  timeoutQueue := world.broker.timeoutQueue.eraseIdx index }
              expireCalls :=
                world.expireCalls ++
                  [⟨⟨orderId, .unsettled⟩, .running .markExpired⟩] }
      | none => none
  | .settle index =>
      match world.expireCalls[index]? with
      | some ⟨⟨orderId, .unsettled⟩, progress⟩ =>
          (settlement progress).map fun delivery =>
            { world with
              expireCalls :=
                world.expireCalls.set index ⟨⟨orderId, delivery⟩, progress⟩ }
      | _ => none
  | .requeue index =>
      match world.expireCalls[index]? with
      | some ⟨⟨orderId, .unsettled⟩, progress⟩ =>
          some
            { world with
              broker :=
                { world.broker with
                  timeoutQueue := world.broker.timeoutQueue ++ [orderId] }
              expireCalls :=
                world.expireCalls.set index ⟨⟨orderId, .requeued⟩, progress⟩ }
      | _ => none

inductive Step (env : Environment) (world : World) : Action → World → Prop
  | ticked (elapsed : Nat) :
      Step env world (.tick elapsed)
        { world with redis := world.redis.tick elapsed }
  | lockRequested (input : LockSeatInput) :
      Step env world (.lockSeat input)
        { world with
          lockCalls := world.lockCalls ++ [⟨input, .running .acquire⟩] }
  | releaseRequested (input : ReleaseInput) :
      Step env world (.releaseSeat input)
        { world with
          releaseCalls := world.releaseCalls ++ [⟨input, .running .release⟩] }
  | createRequested (input : CreateOrderInput) :
      Step env world (.createOrder input)
        { world with
          createCalls :=
            world.createCalls ++ [⟨input, .running .verifyHeld⟩] }
  | expireRequested (orderId : OrderId) :
      Step env world (.expireOrder orderId)
        { world with
          expireCalls :=
            world.expireCalls ++
              [⟨⟨orderId, .direct⟩, .running .markExpired⟩] }
  | lockAwaited (index : Nat) (outcome : Await) (input : LockSeatInput)
      (stage : LockStage) (progress : LockProgress) (after : Stores)
      (found : world.lockCalls[index]? = some ⟨input, .running stage⟩)
      (awaited :
        (lockSeat env input).await world.toStores stage outcome =
          some (after, progress)) :
      Step env world (.lockAwait index outcome)
        { world with
          toStores := after
          lockCalls := world.lockCalls.set index ⟨input, progress⟩ }
  | releaseAwaited (index : Nat) (outcome : Await) (input : ReleaseInput)
      (stage : ReleaseStage)
      (progress : Progress ReleaseStage (Except ReleaseSeatError Unit))
      (after : Stores)
      (found : world.releaseCalls[index]? = some ⟨input, .running stage⟩)
      (awaited :
        (releaseSeat input).await world.toStores stage outcome =
          some (after, progress)) :
      Step env world (.releaseAwait index outcome)
        { world with
          toStores := after
          releaseCalls := world.releaseCalls.set index ⟨input, progress⟩ }
  | createAwaited (index : Nat) (outcome : Await)
      (input : CreateOrderInput) (stage : CreateStage)
      (progress : CreateProgress) (after : Stores)
      (found : world.createCalls[index]? = some ⟨input, .running stage⟩)
      (awaited :
        (createOrder env world.uncommitted input).await world.toStores stage
            outcome =
          some (after, progress)) :
      Step env world (.createAwait index outcome)
        { world with
          toStores := after
          createCalls := world.createCalls.set index ⟨input, progress⟩ }
  | expireAwaited (index : Nat) (outcome : Await) (request : ExpireRequest)
      (stage : ExpireStage) (progress : ExpireProgress) (after : Stores)
      (found : world.expireCalls[index]? = some ⟨request, .running stage⟩)
      (awaited :
        (expireOrder request.orderId).await world.toStores stage outcome =
          some (after, progress)) :
      Step env world (.expireAwait index outcome)
        { world with
          toStores := after
          expireCalls := world.expireCalls.set index ⟨request, progress⟩ }
  | deadLettered (index : Nat) (message : Message)
      (found : world.broker.delayQueue[index]? = some message)
      (due : message.publishedAt + env.bookingWindowMs ≤ world.now) :
      Step env world (.deadLetter index)
        { world with
          broker :=
            { world.broker with
              delayQueue := world.broker.delayQueue.eraseIdx index
              timeoutQueue :=
                world.broker.timeoutQueue ++ [message.orderId] } }
  | delivered (index : Nat) (orderId : OrderId)
      (found : world.broker.timeoutQueue[index]? = some orderId) :
      Step env world (.deliver index)
        { world with
          broker :=
            { world.broker with
              timeoutQueue := world.broker.timeoutQueue.eraseIdx index }
          expireCalls :=
            world.expireCalls ++
              [⟨⟨orderId, .unsettled⟩, .running .markExpired⟩] }
  | settled (index : Nat) (orderId : OrderId) (progress : ExpireProgress)
      (delivery : Delivery)
      (found :
        world.expireCalls[index]? = some ⟨⟨orderId, .unsettled⟩, progress⟩)
      (answered : settlement progress = some delivery) :
      Step env world (.settle index)
        { world with
          expireCalls :=
            world.expireCalls.set index ⟨⟨orderId, delivery⟩, progress⟩ }
  | requeued (index : Nat) (orderId : OrderId) (progress : ExpireProgress)
      (found :
        world.expireCalls[index]? = some ⟨⟨orderId, .unsettled⟩, progress⟩) :
      Step env world (.requeue index)
        { world with
          broker :=
            { world.broker with
              timeoutQueue := world.broker.timeoutQueue ++ [orderId] }
          expireCalls :=
            world.expireCalls.set index ⟨⟨orderId, .requeued⟩, progress⟩ }

theorem step_cases {env : Environment} {world next : World} {action : Action}
    (stepped : step env world action = some next) :
    Step env world action next := by
  cases action with
  | tick elapsed =>
      cases stepped
      exact .ticked elapsed
  | lockSeat input =>
      cases stepped
      exact .lockRequested input
  | releaseSeat input =>
      cases stepped
      exact .releaseRequested input
  | createOrder input =>
      cases stepped
      exact .createRequested input
  | expireOrder orderId =>
      cases stepped
      exact .expireRequested orderId
  | lockAwait index outcome =>
      simp only [step, Option.map_eq_some_iff] at stepped
      obtain ⟨⟨after, calls⟩, advanced, rfl⟩ := stepped
      obtain ⟨input, stage, progress, found, awaited, rfl⟩ :=
        Call.advance_cases advanced
      exact .lockAwaited index outcome input stage progress after found awaited
  | releaseAwait index outcome =>
      simp only [step, Option.map_eq_some_iff] at stepped
      obtain ⟨⟨after, calls⟩, advanced, rfl⟩ := stepped
      obtain ⟨input, stage, progress, found, awaited, rfl⟩ :=
        Call.advance_cases advanced
      exact .releaseAwaited index outcome input stage progress after found
        awaited
  | createAwait index outcome =>
      simp only [step, Option.map_eq_some_iff] at stepped
      obtain ⟨⟨after, calls⟩, advanced, rfl⟩ := stepped
      obtain ⟨input, stage, progress, found, awaited, rfl⟩ :=
        Call.advance_cases advanced
      exact .createAwaited index outcome input stage progress after found
        awaited
  | expireAwait index outcome =>
      simp only [step, Option.map_eq_some_iff] at stepped
      obtain ⟨⟨after, calls⟩, advanced, rfl⟩ := stepped
      obtain ⟨request, stage, progress, found, awaited, rfl⟩ :=
        Call.advance_cases advanced
      exact .expireAwaited index outcome request stage progress after found
        awaited
  | deadLetter index =>
      simp only [step, Option.map_eq_some_iff] at stepped
      obtain ⟨broker, moved, rfl⟩ := stepped
      unfold deadLetter at moved
      split at moved
      · next message found =>
          split at moved
          · next due =>
              cases moved
              exact .deadLettered index message found due
          · cases moved
      · cases moved
  | deliver index =>
      simp only [step] at stepped
      split at stepped
      · next orderId found =>
          cases stepped
          exact .delivered index orderId found
      · cases stepped
  | settle index =>
      simp only [step] at stepped
      split at stepped
      · next orderId progress found =>
          simp only [Option.map_eq_some_iff] at stepped
          obtain ⟨delivery, answered, rfl⟩ := stepped
          exact .settled index orderId progress delivery found answered
      · cases stepped
  | requeue index =>
      simp only [step] at stepped
      split at stepped
      · next orderId progress found =>
          cases stepped
          exact .requeued index orderId progress found
      · cases stepped

/-- The remote call of a create call is enabled when it can resolve. -/
theorem step_createAwait_isSome {env : Environment} {world : World}
    {index : Nat} {input : CreateOrderInput} {stage : CreateStage}
    (found : world.createCalls[index]? = some ⟨input, .running stage⟩)
    (enabled :
      ((createOrder env world.uncommitted input).resolve world.toStores
        stage).isSome) :
    (step env world (.createAwait index .resolves)).isSome := by
  simp only [step, Call.advance, found, AsyncFunction.await,
    Option.isSome_map]
  exact enabled

/-- The steps of the `LockSeat` request that is the next one to arrive. -/
def lockSeatRun (index : Nat) (input : LockSeatInput) : List Action :=
  [.lockSeat input, .lockAwait index .resolves, .lockAwait index .resolves]

def releaseSeatRun (index : Nat) (input : ReleaseInput) : List Action :=
  [.releaseSeat input, .releaseAwait index .resolves,
    .releaseAwait index .resolves]

def createOrderRun (index : Nat) (input : CreateOrderInput) : List Action :=
  .createOrder input :: List.replicate 6 (.createAwait index .resolves)

/-- The message at the head of `delay.q` is dead-lettered and delivered, and
its order, of the given number of seats, is expired. -/
def expiryRun (index seats : Nat) : List Action :=
  [.deadLetter 0, .deliver 0] ++
    List.replicate (seats + 3) (.expireAwait index .resolves) ++
      [.settle index]

def smallVenue : Environment where
  toConfig := Config.default
  seat := fun seatId =>
    if seatId = 7 ∨ seatId = 8 then some ⟨1, some 3⟩ else none
  price := fun ticketTypeId => if ticketTypeId = 3 then some 5000 else none

end ConcertTicketing.Booking
