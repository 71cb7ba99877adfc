import ConcertTicketing.Booking.Invariants

/-!
# The broker and the clean-ups of expired orders

Every message that the broker has accepted names a committed order.  An
`ExpireOrder` call whose compare-and-set moved an order works with the data of
that order, which is no longer `PENDING`, and no second call moved it.
-/

namespace ConcertTicketing.Booking

open SeatLock

inductive BrokerChange (env : Environment) (world : World) :
    Action → Broker → Prop
  | unchanged (action : Action) :
      BrokerChange env world action world.broker
  | published (index : Nat) (outcome : Await) (input : CreateOrderInput)
      (row : Order)
      (found :
        world.createCalls[index]? =
          some ⟨input, .running (.publishExpiration row)⟩)
      (applies : outcome.Applies = true) :
      BrokerChange env world (.createAwait index outcome)
        (world.broker.publishExpiration row.id world.now)
  | deadLettered (index : Nat) (message : Message)
      (found : world.broker.delayQueue[index]? = some message)
      (due : message.publishedAt + env.bookingWindowMs ≤ world.now) :
      BrokerChange env world (.deadLetter index)
        { world.broker with
          delayQueue := world.broker.delayQueue.eraseIdx index
          timeoutQueue := world.broker.timeoutQueue ++ [message.orderId] }
  | delivered (index : Nat) (orderId : OrderId)
      (found : world.broker.timeoutQueue[index]? = some orderId) :
      BrokerChange env world (.deliver index)
        { world.broker with
          timeoutQueue := world.broker.timeoutQueue.eraseIdx index }
  | requeued (index : Nat) (orderId : OrderId) (progress : ExpireProgress)
      (found :
        world.expireCalls[index]? = some ⟨⟨orderId, .unsettled⟩, progress⟩) :
      BrokerChange env world (.requeue index)
        { world.broker with
          timeoutQueue := world.broker.timeoutQueue ++ [orderId] }

theorem step_broker {env : Environment} {world next : World}
    {action : Action} (stepped : step env world action = some next) :
    BrokerChange env world action next.broker := by
  cases step_cases stepped with
  | lockAwaited index outcome input stage progress after found awaited =>
      have same := (lockSeat_sameOrders awaited).broker
      exact same ▸ .unchanged _
  | releaseAwaited index outcome input stage progress after found awaited =>
      have same := (releaseSeat_sameOrders awaited).broker
      exact same ▸ .unchanged _
  | createAwaited index outcome input stage progress after found awaited =>
      rcases AsyncFunction.await_cases awaited with
        ⟨resolved, performed, applies, _⟩ | ⟨rfl, _, _⟩
      · cases createOrder_resolved performed with
        | published row => exact .published index outcome input row found applies
        | _ => exact .unchanged _
      · exact .unchanged _
  | expireAwaited index outcome request stage progress after found awaited =>
      rcases AsyncFunction.await_cases awaited with
        ⟨resolved, performed, applies, _⟩ | ⟨rfl, _, _⟩
      · cases expireOrder_resolved performed <;> exact .unchanged _
      · exact .unchanged _
  | deadLettered index message found due =>
      exact .deadLettered index message found due
  | delivered index orderId found => exact .delivered index orderId found
  | requeued index orderId progress found =>
      exact .requeued index orderId progress found
  | _ => exact .unchanged _

/-- What the broker has accepted stays accepted. -/
theorem BrokerChange.accepted_kept {env : Environment} {world : World}
    {action : Action} {broker : Broker}
    (change : BrokerChange env world action broker) {orderId : OrderId}
    (accepted : orderId ∈ world.broker.accepted) :
    orderId ∈ broker.accepted := by
  cases change with
  | published => exact List.mem_cons_of_mem _ accepted
  | _ => exact accepted

/-- What is known of the messages in `delay.q`, and of the orders behind
them. -/
structure Provenance (messages : Message → Prop)
    (deliveries : OrderId → Prop) (world : World) : Prop where
  delayed : ∀ message ∈ world.broker.delayQueue, messages message
  timedOut : ∀ orderId ∈ world.broker.timeoutQueue, deliveries orderId
  delivered : ∀ (index : Nat) (call : ExpireCall),
    world.expireCalls[index]? = some call →
    call.input.delivery ≠ .direct →
    deliveries call.input.orderId

namespace Provenance

variable {env : Environment} {world next : World} {action : Action}
  {messages messagesNext : Message → Prop}
  {deliveries deliveriesNext : OrderId → Prop}

private theorem delayed_step (known : Provenance messages deliveries world)
    (stepped : step env world action = some next)
    (kept : ∀ message, messages message → messagesNext message)
    (published : ∀ index outcome input row,
      action = .createAwait index outcome →
      outcome.Applies = true →
      world.createCalls[index]? =
        some ⟨input, .running (.publishExpiration row)⟩ →
      next.broker = world.broker.publishExpiration row.id world.now →
      messagesNext ⟨row.id, world.now⟩) :
    ∀ message ∈ next.broker.delayQueue, messagesNext message := by
  have change := step_broker stepped
  generalize atNext : next.broker = broker at change
  intro message member
  cases change with
  | published index outcome input row found applies =>
      rcases List.mem_append.mp member with old | new
      · exact kept message (known.delayed message old)
      · rw [List.mem_singleton] at new
        subst new
        exact published index outcome input row rfl applies found atNext
  | deadLettered index other found due =>
      exact kept message
        (known.delayed message (List.mem_of_mem_eraseIdx member))
  | _ => exact kept message (known.delayed message member)

private theorem timedOut_step (known : Provenance messages deliveries world)
    (stepped : step env world action = some next)
    (kept : ∀ orderId, deliveries orderId → deliveriesNext orderId)
    (due : ∀ message, messages message →
      message.publishedAt + env.bookingWindowMs ≤ world.now →
      deliveriesNext message.orderId) :
    ∀ orderId ∈ next.broker.timeoutQueue, deliveriesNext orderId := by
  have change := step_broker stepped
  generalize next.broker = broker at change
  intro orderId member
  cases change with
  | deadLettered index message found ripe =>
      rcases List.mem_append.mp member with old | new
      · exact kept orderId (known.timedOut orderId old)
      · rw [List.mem_singleton] at new
        subst new
        have queued := known.delayed message (List.mem_of_getElem? found)
        exact due message queued ripe
  | delivered index other found =>
      exact kept orderId
        (known.timedOut orderId (List.mem_of_mem_eraseIdx member))
  | requeued index other progress found =>
      rcases List.mem_append.mp member with old | new
      · exact kept orderId (known.timedOut orderId old)
      · rw [List.mem_singleton] at new
        subst new
        exact kept orderId
          (known.delivered index _ found Delivery.noConfusion)
  | published => exact kept orderId (known.timedOut orderId member)
  | unchanged => exact kept orderId (known.timedOut orderId member)

private theorem delivered_step (known : Provenance messages deliveries world)
    (stepped : step env world action = some next)
    {index : Nat} {call : ExpireCall}
    (reached : next.expireCalls[index]? = some call)
    (notDirect : call.input.delivery ≠ .direct) :
    deliveries call.input.orderId := by
  cases step_expireCalls stepped reached with
  | kept _ _ found => exact known.delivered index call found notDirect
  | requested orderId _ new =>
      rw [new] at notDirect
      exact absurd rfl notDirect
  | delivered position orderId _ queued new =>
      rw [new]
      exact known.timedOut orderId queued
  | awaited outcome stage found _ =>
      have before := known.delivered index _ found notDirect
      exact before
  | answered _ found _ =>
      have before := known.delivered index _ found Delivery.noConfusion
      exact before

end Provenance

/-- Messages that are published and come due keep their provenance. -/
theorem provenance_step {env : Environment} {world next : World}
    {action : Action} {messages messagesNext : Message → Prop}
    {deliveries deliveriesNext : OrderId → Prop}
    (known : Provenance messages deliveries world)
    (stepped : step env world action = some next)
    (keptMessages : ∀ message, messages message → messagesNext message)
    (keptDeliveries : ∀ orderId,
      deliveries orderId → deliveriesNext orderId)
    (published : ∀ index outcome input row,
      action = .createAwait index outcome →
      outcome.Applies = true →
      world.createCalls[index]? =
        some ⟨input, .running (.publishExpiration row)⟩ →
      next.broker = world.broker.publishExpiration row.id world.now →
      messagesNext ⟨row.id, world.now⟩)
    (due : ∀ message, messages message →
      message.publishedAt + env.bookingWindowMs ≤ world.now →
      deliveriesNext message.orderId) :
    Provenance messagesNext deliveriesNext next where
  delayed := known.delayed_step stepped keptMessages published
  timedOut := known.timedOut_step stepped keptDeliveries due
  delivered := by
    intro index call reached notDirect
    exact keptDeliveries _ (known.delivered_step stepped reached notDirect)

/-- Messages come from committed orders, and deliveries from messages. -/
structure BrokerSound (world : World) : Prop where
  accepted : ∀ orderId ∈ world.broker.accepted,
    ∃ order ∈ world.orders, order.id = orderId
  publishing : ∀ (index : Nat) (call : CreateCall) (row : Order),
    world.createCalls[index]? = some call →
    call.progress.stage? = some (.publishExpiration row) →
    ∃ order ∈ world.orders, order.id = row.id
  delayed : ∀ message ∈ world.broker.delayQueue,
    message.orderId ∈ world.broker.accepted
  timedOut : ∀ orderId ∈ world.broker.timeoutQueue,
    orderId ∈ world.broker.accepted
  delivered : ∀ (index : Nat) (call : ExpireCall),
    world.expireCalls[index]? = some call →
    call.input.delivery ≠ .direct →
    call.input.orderId ∈ world.broker.accepted

private theorem brokerSound_init (origin : Instant) :
    BrokerSound (World.init origin) where
  accepted := by
    intro orderId member
    cases member
  publishing := by
    intro index call row found
    cases found
  delayed := by
    intro message member
    cases member
  timedOut := by
    intro orderId member
    cases member
  delivered := by
    intro index call found
    cases found

/-- A call that is about to publish was so before, or has just committed. -/
theorem publishing_of_await {env : Environment} {uncommitted : List Order}
    {call : CreateCall} {stores after : Stores} {stage : CreateStage}
    {outcome : Await} {row : Order}
    (awaited :
      (createOrder env uncommitted call.input).await stores stage outcome =
        some (after, call.progress))
    (reached : call.progress.stage? = some (.publishExpiration row)) :
    stage = .publishExpiration row ∨
      (stage = .commit row ∧
        after = { stores with orders := stores.orders ++ [row] }) := by
  rcases createOrder_await awaited with ⟨_, resolved⟩ | failed | stopped
  · generalize call.progress = progress at *
    cases resolved with
    | committed =>
        cases reached
        exact Or.inr ⟨rfl, rfl⟩
    | _ => cases reached
  · rw [failed] at reached
    exact Or.inl (Option.some.inj reached)
  · rw [stopped] at reached
    exact Or.inl (Option.some.inj reached)

namespace BrokerSound

variable {env : Environment} {world next : World} {action : Action}

private theorem accepted_step (sound : BrokerSound world)
    (stepped : step env world action = some next) :
    ∀ orderId ∈ next.broker.accepted,
      ∃ order ∈ next.orders, order.id = orderId := by
  have change := step_broker stepped
  generalize next.broker = broker at change
  intro orderId member
  have committed : ∃ order ∈ world.orders, order.id = orderId := by
    cases change with
    | published index outcome input row found applies =>
        rcases List.mem_cons.mp member with rfl | old
        · exact sound.publishing index _ row found rfl
        · exact sound.accepted orderId old
    | _ => exact sound.accepted orderId member
  obtain ⟨order, known, rfl⟩ := committed
  exact (step_orders stepped).id_kept known

theorem publishing_step (sound : BrokerSound world)
    (stepped : step env world action = some next)
    {index : Nat} {call : CreateCall} {row : Order}
    (reached : next.createCalls[index]? = some call)
    (publishing : call.progress.stage? = some (.publishExpiration row)) :
    ∃ order ∈ next.orders, order.id = row.id := by
  have kept : (∃ order ∈ world.orders, order.id = row.id) →
      ∃ order ∈ next.orders, order.id = row.id := by
    rintro ⟨order, member, same⟩
    have known := (step_orders stepped).id_kept member
    rw [same] at known
    exact known
  cases step_createCalls stepped reached with
  | kept _ _ found =>
      exact kept (sound.publishing index call row found publishing)
  | requested input new =>
      rw [new] at publishing
      cases publishing
  | awaited outcome stage found awaited =>
      rcases publishing_of_await awaited publishing with rfl | ⟨_, after⟩
      · exact kept (sound.publishing index _ row found rfl)
      · have grown : next.orders = world.orders ++ [row] :=
          congrArg Stores.orders after
        rw [grown]
        exact ⟨row, by simp, rfl⟩

/-- Every message and every delivery names an accepted order. -/
theorem provenance (sound : BrokerSound world) :
    Provenance (fun message => message.orderId ∈ world.broker.accepted)
      (fun orderId => orderId ∈ world.broker.accepted) world where
  delayed := sound.delayed
  timedOut := sound.timedOut
  delivered := sound.delivered

private theorem provenance_next (sound : BrokerSound world)
    (stepped : step env world action = some next) :
    Provenance (fun message => message.orderId ∈ next.broker.accepted)
      (fun orderId => orderId ∈ next.broker.accepted) next := by
  have change := step_broker stepped
  refine provenance_step sound.provenance stepped ?_ ?_ ?_ ?_
  · intro message accepted
    exact change.accepted_kept accepted
  · intro orderId accepted
    exact change.accepted_kept accepted
  · intro index outcome input row _ _ _ published
    rw [published]
    exact List.mem_cons_self
  · intro message accepted _
    exact change.accepted_kept accepted

end BrokerSound

private theorem brokerSound_step {env : Environment} {world next : World}
    {action : Action} (sound : BrokerSound world)
    (stepped : step env world action = some next) : BrokerSound next where
  accepted := sound.accepted_step stepped
  publishing := by
    intro index call row reached publishing
    exact sound.publishing_step stepped reached publishing
  delayed := (sound.provenance_next stepped).delayed
  timedOut := (sound.provenance_next stepped).timedOut
  delivered := (sound.provenance_next stepped).delivered

/-! ## Clean-ups -/

namespace ExpireStage

/-- The stages behind a compare-and-set that moved the order. -/
def Moved : ExpireStage → Prop
  | .markExpired => False
  | .findOrder changed => changed = true
  | .releaseHold _ _ => True
  | .expireSeatLockAudit _ => True

instance : DecidablePred Moved
  | .markExpired => isFalse id
  | .findOrder changed => inferInstanceAs (Decidable (changed = true))
  | .releaseHold _ _ => isTrue trivial
  | .expireSeatLockAudit _ => isTrue trivial

/-- What `markExpiredIfPending` has returned. -/
def result? : ExpireStage → Option ExpireResult
  | .releaseHold result _ => some result
  | .expireSeatLockAudit result => some result
  | _ => none

end ExpireStage

/-- What `markExpiredIfPending` returns when it moved the order. -/
def movedResult (order : Order) : ExpireResult :=
  ⟨true, order.userId, order.eventId, order.seatIds⟩

private theorem releaseFrom_stage {result : ExpireResult} {position : Nat}
    {stage : ExpireStage}
    (reached : (releaseFrom result position).stage? = some stage) :
    stage.result? = some result := by
  unfold releaseFrom at reached
  split at reached <;> cases reached <;> rfl

/-- The stages that one step of a clean-up leads to. -/
inductive ExpireStageChange (orderId : OrderId) (stores after : Stores) :
    ExpireStage → ExpireStage → Prop
  | same (stage : ExpireStage) :
      ExpireStageChange orderId stores after stage stage
  | marked
      (written :
        after =
          { stores with
            orders := stores.orders.map (expireIfPending orderId) }) :
      ExpireStageChange orderId stores after .markExpired
        (.findOrder (decide (pendingCount orderId stores.orders = 1)))
  | read (order : Order) (stage : ExpireStage)
      (found : findOrder orderId stores.orders = some order)
      (returned : stage.result? = some (movedResult order)) :
      ExpireStageChange orderId stores after (.findOrder true) stage
  | released (result : ExpireResult) (position : Nat) (stage : ExpireStage)
      (returned : stage.result? = some result) :
      ExpireStageChange orderId stores after (.releaseHold result position)
        stage

private theorem expireStage_of_await {orderId : OrderId} {stores after : Stores}
    {stage reached : ExpireStage} {outcome : Await}
    {progress : ExpireProgress}
    (awaited :
      (expireOrder orderId).await stores stage outcome =
        some (after, progress))
    (current : progress.stage? = some reached) :
    ExpireStageChange orderId stores after stage reached := by
  rcases expireOrder_await awaited with ⟨_, resolved⟩ | failed | stopped
  · cases resolved with
    | marked =>
        cases current
        exact .marked rfl
    | read changed =>
        unfold orderFound at current
        split at current
        · cases current
        · next order found =>
            cases changed with
            | false => cases current
            | true => exact .read order reached found (releaseFrom_stage current)
    | released result position seatId here =>
        exact .released result position reached (releaseFrom_stage current)
    | settled result => cases current
  · rw [failed] at current
    cases current
    exact .same _
  · rw [stopped] at current
    cases current
    exact .same _

theorem findOrder_some {orderId : OrderId} {orders : List Order}
    {order : Order} (found : findOrder orderId orders = some order) :
    order ∈ orders ∧ order.id = orderId := by
  have matched := List.find?_some found
  exact ⟨List.mem_of_find?_eq_some found, of_decide_eq_true matched⟩

/-- Calls that moved an order. -/
structure CleanupsSound (world : World) : Prop where
  moved : ∀ (index : Nat) (call : ExpireCall) (stage : ExpireStage),
    world.expireCalls[index]? = some call →
    call.progress.stage? = some stage →
    stage.Moved →
    ∃ order ∈ world.orders,
      order.id = call.input.orderId ∧ order.status ≠ .pending
  result : ∀ (index : Nat) (call : ExpireCall) (stage : ExpireStage)
      (result : ExpireResult),
    world.expireCalls[index]? = some call →
    call.progress.stage? = some stage →
    stage.result? = some result →
    ∃ order ∈ world.orders,
      order.id = call.input.orderId ∧ order.status ≠ .pending ∧
        result = movedResult order
  alone : ∀ (first second : Nat) (one other : ExpireCall)
      (stage twin : ExpireStage),
    world.expireCalls[first]? = some one →
    world.expireCalls[second]? = some other →
    one.progress.stage? = some stage →
    other.progress.stage? = some twin →
    stage.Moved →
    twin.Moved →
    one.input.orderId = other.input.orderId →
    first = second

private theorem cleanupsSound_init (origin : Instant) :
    CleanupsSound (World.init origin) where
  moved := by
    intro index call stage found
    cases found
  result := by
    intro index call stage result found
    cases found
  alone := by
    intro first second one other stage twin found
    cases found

/-- A call behind a successful compare-and-set was so before the step, or it
is the call whose compare-and-set has just found the order `PENDING`. -/
theorem step_moved {env : Environment} {world next : World}
    {action : Action} (fresh : IdsFresh world)
    (stepped : step env world action = some next)
    {index : Nat} {call : ExpireCall} {stage : ExpireStage}
    (reached : next.expireCalls[index]? = some call)
    (current : call.progress.stage? = some stage) (moved : stage.Moved) :
    (∃ earlier earlierStage,
      world.expireCalls[index]? = some earlier ∧
      earlier.input.orderId = call.input.orderId ∧
      earlier.progress.stage? = some earlierStage ∧ earlierStage.Moved) ∨
    ((∃ outcome, action = .expireAwait index outcome) ∧
      next.orders =
        world.orders.map (expireIfPending call.input.orderId) ∧
      ∃ order ∈ world.orders,
        order.id = call.input.orderId ∧ order.status = .pending) := by
  cases step_expireCalls stepped reached with
  | kept _ _ found => exact Or.inl ⟨call, stage, found, rfl, current, moved⟩
  | requested orderId _ new =>
      rw [new] at current
      cases current
      exact moved.elim
  | delivered position orderId _ queued new =>
      rw [new] at current
      cases current
      exact moved.elim
  | awaited outcome earlier found awaited =>
      cases expireStage_of_await awaited current with
      | same => exact Or.inl ⟨_, stage, found, rfl, rfl, moved⟩
      | marked written =>
          have counted :=
            (fresh.pendingCount_eq_one_iff _).mp (of_decide_eq_true moved)
          have rows := congrArg Stores.orders written
          exact Or.inr ⟨⟨outcome, rfl⟩, rows, counted⟩
      | read order _ found' returned =>
          exact Or.inl ⟨_, _, found, rfl, rfl, rfl⟩
      | released result position _ returned =>
          exact Or.inl ⟨_, _, found, rfl, rfl, trivial⟩
  | answered _ found settled =>
      exact Or.inl ⟨_, stage, found, rfl, current, moved⟩

namespace CleanupsSound

variable {env : Environment} {world next : World} {action : Action}

/-- An order that is still `PENDING` has not been moved. -/
theorem settled (sound : CleanupsSound world) (fresh : IdsFresh world)
    {index : Nat} {call : ExpireCall} {stage : ExpireStage} {order : Order}
    (found : world.expireCalls[index]? = some call)
    (current : call.progress.stage? = some stage) (moved : stage.Moved)
    (member : order ∈ world.orders)
    (identified : order.id = call.input.orderId) :
    order.status ≠ .pending := by
  obtain ⟨known, knownMember, knownId, knownSettled⟩ :=
    sound.moved index call stage found current moved
  have same : order = known :=
    fresh.unique member knownMember (identified.trans knownId.symm)
  rw [same]
  exact knownSettled

private theorem moved_step (sound : CleanupsSound world)
    (fresh : IdsFresh world) (stepped : step env world action = some next)
    {index : Nat} {call : ExpireCall} {stage : ExpireStage}
    (reached : next.expireCalls[index]? = some call)
    (current : call.progress.stage? = some stage) (moved : stage.Moved) :
    ∃ order ∈ next.orders,
      order.id = call.input.orderId ∧ order.status ≠ .pending := by
  rcases step_moved fresh stepped reached current moved with
    ⟨earlier, earlierStage, found, sameId, before, movedBefore⟩ |
      ⟨_, rows, order, member, sameId, pending⟩
  · obtain ⟨order, member, identified, settled⟩ :=
      sound.moved index earlier earlierStage found before movedBefore
    exact ⟨order, (step_orders stepped).order_kept member settled,
      identified.trans sameId, settled⟩
  · rw [rows]
    refine ⟨_, List.mem_map_of_mem member, ?_, ?_⟩
    · rw [expireIfPending_id, sameId]
    · intro stillPending
      exact ((expireIfPending_status _ _).mp stillPending).2 sameId

private theorem result_step (sound : CleanupsSound world)
    (fresh : IdsFresh world) (stepped : step env world action = some next)
    {index : Nat} {call : ExpireCall} {stage : ExpireStage}
    {result : ExpireResult}
    (reached : next.expireCalls[index]? = some call)
    (current : call.progress.stage? = some stage)
    (returned : stage.result? = some result) :
    ∃ order ∈ next.orders,
      order.id = call.input.orderId ∧ order.status ≠ .pending ∧
        result = movedResult order := by
  have keep : ∀ orderId,
      (∃ order ∈ world.orders,
        order.id = orderId ∧ order.status ≠ .pending ∧
          result = movedResult order) →
      ∃ order ∈ next.orders,
        order.id = orderId ∧ order.status ≠ .pending ∧
          result = movedResult order := by
    rintro orderId ⟨order, member, identified, settled, same⟩
    exact ⟨order, (step_orders stepped).order_kept member settled,
      identified, settled, same⟩
  cases step_expireCalls stepped reached with
  | kept _ _ found =>
      exact keep _
        (sound.result index call stage result found current returned)
  | requested orderId _ new =>
      rw [new] at current
      cases current
      cases returned
  | delivered position orderId _ queued new =>
      rw [new] at current
      cases current
      cases returned
  | awaited outcome earlier found awaited =>
      cases expireStage_of_await awaited current with
      | same =>
          have before := sound.result index _ stage result found rfl returned
          exact keep _ before
      | marked written => cases returned
      | read order _ foundOrder returnedOrder =>
          have facts := findOrder_some foundOrder
          have settled :=
            sound.settled fresh found rfl rfl facts.1 facts.2
          rw [returned] at returnedOrder
          cases returnedOrder
          exact keep _ ⟨order, facts.1, facts.2, settled, rfl⟩
      | released earlierResult position _ returnedAgain =>
          rw [returned] at returnedAgain
          cases returnedAgain
          have before := sound.result index _ _ result found rfl rfl
          exact keep _ before
  | answered _ found _ =>
      have before :=
        sound.result index _ stage result found current returned
      exact keep _ before

theorem alone_step (sound : CleanupsSound world) (fresh : IdsFresh world)
    (stepped : step env world action = some next)
    {first second : Nat} {one other : ExpireCall}
    {stage twin : ExpireStage}
    (reachedFirst : next.expireCalls[first]? = some one)
    (reachedSecond : next.expireCalls[second]? = some other)
    (currentFirst : one.progress.stage? = some stage)
    (currentSecond : other.progress.stage? = some twin)
    (movedFirst : stage.Moved) (movedSecond : twin.Moved)
    (sameId : one.input.orderId = other.input.orderId) :
    first = second := by
  rcases step_moved fresh stepped reachedFirst currentFirst movedFirst with
    ⟨earlier, earlierStage, found, earlierId, before, movedBefore⟩ |
      ⟨⟨outcome, ran⟩, _, order, member, identified, pending⟩
  · rcases step_moved fresh stepped reachedSecond currentSecond
        movedSecond with
      ⟨earlierTwin, earlierTwinStage, foundTwin, twinId, beforeTwin,
          movedTwin⟩ |
        ⟨_, _, order, member, identified, pending⟩
    · exact sound.alone first second earlier earlierTwin earlierStage
        earlierTwinStage found foundTwin before beforeTwin movedBefore
        movedTwin (earlierId.trans (sameId.trans twinId.symm))
    · have same : order.id = earlier.input.orderId :=
        identified.trans (sameId.symm.trans earlierId.symm)
      exact absurd pending
        (sound.settled fresh found before movedBefore member same)
  · rcases step_moved fresh stepped reachedSecond currentSecond
        movedSecond with
      ⟨earlierTwin, earlierTwinStage, foundTwin, twinId, beforeTwin,
          movedTwin⟩ |
        ⟨⟨again, ranAgain⟩, _, _⟩
    · have same : order.id = earlierTwin.input.orderId :=
        identified.trans (sameId.trans twinId.symm)
      exact absurd pending
        (sound.settled fresh foundTwin beforeTwin movedTwin member same)
    · rw [ran] at ranAgain
      injection ranAgain

end CleanupsSound

private theorem cleanupsSound_step {env : Environment} {world next : World}
    {action : Action} (sound : CleanupsSound world) (fresh : IdsFresh world)
    (stepped : step env world action = some next) :
    CleanupsSound next where
  moved := by
    intro index call stage reached current moved
    exact sound.moved_step fresh stepped reached current moved
  result := by
    intro index call stage result reached current returned
    exact sound.result_step fresh stepped reached current returned
  alone := by
    intro first second one other stage twin reachedFirst reachedSecond
      currentFirst currentSecond movedFirst movedSecond sameId
    exact sound.alone_step fresh stepped reachedFirst reachedSecond
      currentFirst currentSecond movedFirst movedSecond sameId

structure Sound (env : Environment) (world : World) : Prop where
  rows : RowsSound env world
  ids : IdsFresh world
  broker : BrokerSound world
  cleanups : CleanupsSound world

theorem sound_init (env : Environment) (origin : Instant) :
    Sound env (World.init origin) :=
  ⟨rowsSound_init env origin, idsFresh_init origin, brokerSound_init origin,
    cleanupsSound_init origin⟩

theorem sound_step {env : Environment} {world next : World}
    {action : Action} (sound : Sound env world)
    (stepped : step env world action = some next) : Sound env next :=
  ⟨rowsSound_step sound.rows stepped, idsFresh_step sound.ids stepped,
    brokerSound_step sound.broker stepped,
    cleanupsSound_step sound.cleanups sound.ids stepped⟩

theorem Trace.sound {env : Environment} {origin : Instant}
    {history : List (World × Action)} {world : World}
    (run : Trace (step env) (World.init origin) history world) :
    Sound env world :=
  Trace.invariant (Sound env) (sound_init env origin)
    (fun _ _ _ inductionHypothesis => sound_step inductionHypothesis) run

end ConcertTicketing.Booking
