import ConcertTicketing.Booking.Idempotency

/-!
# What a returned order contains

The seat map and the prices may change between any two steps.  The order that
a call creates has the event and the seats that the call asked for, at the
prices that the call read.  A replay returns the order that was created under
the same user and key, with whatever event and seats that call had asked for.
-/

namespace ConcertTicketing.Booking

open SeatLock

/-- A step under the configuration, seat map and prices of the moment. -/
def stepUnder (world : World) (event : Environment × Action) :
    Option World :=
  step event.1 world event.2

/-- The item is the seat, at the price of the seat's own ticket type. -/
def PricedItem (catalog : Catalog) (eventId : EventId) (seatId : SeatId)
    (item : OrderItem) : Prop :=
  item.seatId = some seatId ∧
    catalog.seat seatId = some ⟨eventId, some item.ticketTypeId⟩ ∧
      catalog.price item.ticketTypeId = some item.unitPrice

/-- The catalogue that the call met when it priced its seats. -/
def ReadPrices (index : Nat) (input : CreateOrderInput)
    (history : List (World × (Environment × Action))) (catalog : Catalog) :
    Prop :=
  ∃ entry ∈ history,
    entry.2.1.toCatalog = catalog ∧
    entry.2.2 = .createAwait index .resolves ∧
    entry.1.createCalls[index]? = some ⟨input, .running .loadSeatPricing⟩

/-- The order is what the call asked for: its event, and its seats one by
one, at the prices that the call read. -/
structure CreatedBy (history : List (World × (Environment × Action)))
    (index : Nat) (input : CreateOrderInput) (order : Order) : Prop where
  userId : order.userId = input.userId
  eventId : order.eventId = input.eventId
  idempotencyKey : order.idempotencyKey = input.idempotencyKey
  items : ∃ catalog, ReadPrices index input history catalog ∧
    List.Forall₂ (PricedItem catalog input.eventId) input.seatIds
      order.orderItems

/-- The entity of an order as it was while `PENDING`. -/
def pendingEntity (order : Order) : OrderEntity :=
  { toEntity order with status := .pending }

/-- The call has returned the order. -/
structure ReturnedOrder (history : List (World × (Environment × Action)))
    (index : Nat) (input : CreateOrderInput) (output : CreateOrderOutput)
    (order : Order) : Prop where
  entity : output.order = pendingEntity order
  userId : order.userId = input.userId
  idempotencyKey : order.idempotencyKey = input.idempotencyKey
  created : output.replayed = false → CreatedBy history index input order

private theorem pendingEntity_of_pending {order : Order}
    (pending : order.status = .pending) :
    pendingEntity order = toEntity order := by
  simp only [pendingEntity, toEntity, pending]

private theorem ExpiredOrSame.idempotencyKey_eq {earlier order : Order}
    (origin : ExpiredOrSame earlier order) :
    order.idempotencyKey = earlier.idempotencyKey := by
  rcases origin with rfl | ⟨_, rfl⟩
  · rfl
  · exact expireIfPending_idempotencyKey _ _

private theorem ExpiredOrSame.orderItems_eq {earlier order : Order}
    (origin : ExpiredOrSame earlier order) :
    order.orderItems = earlier.orderItems := by
  rcases origin with rfl | ⟨_, rfl⟩
  · rfl
  · unfold expireIfPending
    split <;> rfl

private theorem ExpiredOrSame.pendingEntity_eq {earlier order : Order}
    (origin : ExpiredOrSame earlier order) :
    pendingEntity order = pendingEntity earlier := by
  simp only [pendingEntity, toEntity, origin.id_eq, origin.userId_eq,
    origin.eventId_eq, origin.totalAmount_eq, origin.expiresAt_eq]

section Keeping

variable {history : List (World × (Environment × Action))} {index : Nat}
  {input : CreateOrderInput} {order later : Order}

theorem CreatedBy.cons (created : CreatedBy history index input order)
    (entry : World × (Environment × Action)) :
    CreatedBy (entry :: history) index input order where
  userId := created.userId
  eventId := created.eventId
  idempotencyKey := created.idempotencyKey
  items := by
    obtain ⟨catalog, ⟨read, member, facts⟩, priced⟩ := created.items
    exact ⟨catalog, ⟨read, List.mem_cons_of_mem _ member, facts⟩, priced⟩

theorem CreatedBy.expired (created : CreatedBy history index input order)
    (origin : ExpiredOrSame order later) :
    CreatedBy history index input later where
  userId := origin.userId_eq.trans created.userId
  eventId := origin.eventId_eq.trans created.eventId
  idempotencyKey := origin.idempotencyKey_eq.trans created.idempotencyKey
  items := by
    rw [origin.orderItems_eq]
    exact created.items

theorem ReturnedOrder.next {output : CreateOrderOutput}
    (returned : ReturnedOrder history index input output order)
    (entry : World × (Environment × Action))
    (origin : ExpiredOrSame order later) :
    ReturnedOrder (entry :: history) index input output later where
  entity := returned.entity.trans origin.pendingEntity_eq.symm
  userId := origin.userId_eq.trans returned.userId
  idempotencyKey := origin.idempotencyKey_eq.trans returned.idempotencyKey
  created := by
    intro new
    exact ((returned.created new).cons entry).expired origin

end Keeping

/-- Drafts, inserted rows, orders and answers are what their calls asked
for. -/
structure ContentSound (history : List (World × (Environment × Action)))
    (world : World) : Prop where
  drafts : ∀ (index : Nat) (call : CreateCall) (data : CreateOrderData),
    world.createCalls[index]? = some call →
    call.progress = .running (.insertOrder data) →
    ∀ id, CreatedBy history index call.input (data.toRow id)
  rows : ∀ (index : Nat) (call : CreateCall) (row : Order),
    world.createCalls[index]? = some call →
    insertedRow call = some row →
    CreatedBy history index call.input row ∧ row.status = .pending
  orders : ∀ order ∈ world.orders, ∃ index call,
    world.createCalls[index]? = some call ∧
      CreatedBy history index call.input order
  published : ∀ (index : Nat) (call : CreateCall) (row : Order),
    world.createCalls[index]? = some call →
    call.progress.stage? = some (.publishExpiration row) →
    ∃ order ∈ world.orders,
      CreatedBy history index call.input order ∧
        toEntity row = pendingEntity order
  answers : ∀ (index : Nat) (call : CreateCall)
      (output : CreateOrderOutput),
    world.createCalls[index]? = some call →
    call.progress = .finished (.ok output) →
    ∃ order ∈ world.orders,
      ReturnedOrder history index call.input output order

private theorem contentSound_init (origin : Instant) :
    ContentSound [] (World.init origin) where
  drafts := by
    intro index call data found
    cases found
  rows := by
    intro index call row found
    cases found
  orders := by
    intro order member
    cases member
  published := by
    intro index call row found
    cases found
  answers := by
    intro index call output found
    cases found

/-- `loadSeatPricing` re-associates each seat with its own ticket type. -/
theorem pricedItems_of_loadSeatPricing {env : Environment}
    {eventId : EventId} {seatIds : List SeatId} {pricing : List SeatPricing}
    (loaded : loadSeatPricing env eventId seatIds = .ok pricing) :
    List.Forall₂ (PricedItem env.toCatalog eventId) seatIds
      (pricing.map fun item =>
        ⟨some item.seatId, item.ticketTypeId, item.unitPrice⟩) := by
  rw [List.forall₂_map_right_iff]
  refine (loadSeatPricing_ok_iff.mp loaded).imp ?_
  intro seatId priced ok
  unfold priceSeat at ok
  split at ok
  · cases ok
  · next seat found =>
      split at ok
      · cases ok
      · next sameEvent =>
          split at ok
          · cases ok
          · next ticketTypeId ofType =>
              split at ok
              · cases ok
              · next unitPrice price =>
                  cases ok
                  have ofEvent : seat.eventId = eventId :=
                    not_not.mp sameEvent
                  refine ⟨rfl, ?_, price⟩
                  rw [found, ← ofEvent, ← ofType]

namespace ContentSound

variable {env : Environment} {world next : World} {action : Action}
  {history : List (World × (Environment × Action))}

theorem drafts_step (sound : ContentSound history world)
    (stepped : step env world action = some next)
    {index : Nat} {call : CreateCall} {data : CreateOrderData}
    (reached : next.createCalls[index]? = some call)
    (drafting : call.progress = .running (.insertOrder data))
    (id : OrderId) :
    CreatedBy ((world, (env, action)) :: history) index call.input
      (data.toRow id) := by
  cases step_createCalls stepped reached with
  | kept _ _ found =>
      exact (sound.drafts index call data found drafting id).cons _
  | requested input new =>
      rw [new] at drafting
      cases drafting
  | awaited outcome stage found awaited =>
      rw [drafting] at awaited
      rcases createOrder_await awaited with
        ⟨rfl, resolved⟩ | failed | stopped
      · generalize next.toStores = after at resolved
        cases resolved with
        | priced pricing loaded =>
            have read : ReadPrices index call.input
                ((world, (env, .createAwait index .resolves)) :: history)
                env.toCatalog :=
              ⟨_, List.mem_cons_self, rfl, rfl, found⟩
            exact ⟨rfl, rfl, rfl, _, read,
              pricedItems_of_loadSeatPricing loaded⟩
      · cases failed
      · cases stopped

theorem rows_step (sound : ContentSound history world)
    (stepped : step env world action = some next)
    {index : Nat} {call : CreateCall} {row : Order}
    (reached : next.createCalls[index]? = some call)
    (inserted : insertedRow call = some row) :
    CreatedBy ((world, (env, action)) :: history) index call.input row ∧
      row.status = .pending := by
  cases step_createCalls stepped reached with
  | kept _ _ found =>
      have before := sound.rows index call row found inserted
      exact ⟨before.1.cons _, before.2⟩
  | requested input new =>
      rw [new] at inserted
      cases inserted
  | awaited outcome stage found awaited =>
      rcases insertedRow_of_await awaited inserted with
        kept | ⟨data, rfl, rfl, _, _⟩
      · have before := sound.rows index _ row found kept
        exact ⟨before.1.cons _, before.2⟩
      · have draft := sound.drafts index _ data found rfl world.nextOrderId
        exact ⟨draft.cons _, rfl⟩

theorem orders_step (sound : ContentSound history world)
    (stepped : step env world action = some next) :
    ∀ order ∈ next.orders, ∃ index call,
      next.createCalls[index]? = some call ∧
        CreatedBy ((world, (env, action)) :: history) index call.input
          order := by
  intro order member
  rcases (step_orders stepped).order_origin member with
    ⟨earlier, old, origin⟩ | ⟨index, outcome, input, _, _, found⟩
  · obtain ⟨index, call, found, created⟩ := sound.orders earlier old
    obtain ⟨after, reached, sameInput, _⟩ := step_createCall stepped found
    refine ⟨index, after, reached, ?_⟩
    rw [sameInput]
    exact (created.cons _).expired origin
  · obtain ⟨after, reached, sameInput, _⟩ := step_createCall stepped found
    have created := (sound.rows index _ order found rfl).1
    refine ⟨index, after, reached, ?_⟩
    rw [sameInput]
    exact created.cons _

private theorem published_step (sound : ContentSound history world)
    (stepped : step env world action = some next)
    {index : Nat} {call : CreateCall} {row : Order}
    (reached : next.createCalls[index]? = some call)
    (publishing : call.progress.stage? = some (.publishExpiration row)) :
    ∃ order ∈ next.orders,
      CreatedBy ((world, (env, action)) :: history) index call.input order ∧
        toEntity row = pendingEntity order := by
  have kept :
      (∃ order ∈ world.orders,
        CreatedBy history index call.input order ∧
          toEntity row = pendingEntity order) →
      ∃ order ∈ next.orders,
        CreatedBy ((world, (env, action)) :: history) index call.input
            order ∧
          toEntity row = pendingEntity order := by
    rintro ⟨order, member, created, entity⟩
    obtain ⟨later, memberNext, origin⟩ :=
      (step_orders stepped).order_next member
    exact ⟨later, memberNext, (created.cons _).expired origin,
      entity.trans origin.pendingEntity_eq.symm⟩
  cases step_createCalls stepped reached with
  | kept _ _ found =>
      exact kept (sound.published index call row found publishing)
  | requested input new =>
      rw [new] at publishing
      cases publishing
  | awaited outcome stage found awaited =>
      rcases publishing_of_await awaited publishing with rfl | ⟨rfl, after⟩
      · have before := sound.published index _ row found rfl
        exact kept before
      · have before := sound.rows index _ row found rfl
        have grown : next.orders = world.orders ++ [row] :=
          congrArg Stores.orders after
        refine ⟨row, ?_, before.1.cons _,
          (pendingEntity_of_pending before.2).symm⟩
        rw [grown]
        simp

private theorem answers_step (sound : ContentSound history world)
    (stepped : step env world action = some next)
    {index : Nat} {call : CreateCall} {output : CreateOrderOutput}
    (reached : next.createCalls[index]? = some call)
    (answered : call.progress = .finished (.ok output)) :
    ∃ order ∈ next.orders,
      ReturnedOrder ((world, (env, action)) :: history) index call.input
        output order := by
  have kept :
      (∃ order ∈ world.orders,
        ReturnedOrder history index call.input output order) →
      ∃ order ∈ next.orders,
        ReturnedOrder ((world, (env, action)) :: history) index call.input
          output order := by
    rintro ⟨order, member, returned⟩
    obtain ⟨later, memberNext, origin⟩ :=
      (step_orders stepped).order_next member
    exact ⟨later, memberNext, returned.next _ origin⟩
  cases step_createCalls stepped reached with
  | kept _ _ found =>
      exact kept (sound.answers index call output found answered)
  | requested input new =>
      rw [new] at answered
      cases answered
  | awaited outcome stage found awaited =>
      apply kept
      rcases answer_of_await awaited answered with
        ⟨error, refused, _⟩ | ⟨row, rfl, created⟩ | ⟨rfl, replayed⟩
      · cases refused
      · cases created
        have before := sound.published index _ row found rfl
        obtain ⟨order, member, created, entity⟩ := before
        exact ⟨order, member, entity, created.userId,
          created.idempotencyKey, fun _ => created⟩
      · obtain ⟨order, foundOrder, pending, rfl⟩ :=
          resolveReplay_ok replayed.symm
        have facts := findByIdempotencyKey_some foundOrder
        exact ⟨order, facts.1, (pendingEntity_of_pending pending).symm,
          facts.2.1, facts.2.2, Bool.noConfusion⟩

end ContentSound

private theorem contentSound_step {env : Environment} {world next : World}
    {action : Action} {history : List (World × (Environment × Action))}
    (sound : ContentSound history world)
    (stepped : step env world action = some next) :
    ContentSound ((world, (env, action)) :: history) next where
  drafts := by
    intro index call data reached drafting id
    exact sound.drafts_step stepped reached drafting id
  rows := by
    intro index call row reached inserted
    exact sound.rows_step stepped reached inserted
  orders := sound.orders_step stepped
  published := by
    intro index call row reached publishing
    exact sound.published_step stepped reached publishing
  answers := by
    intro index call output reached answered
    exact sound.answers_step stepped reached answered

private theorem Trace.contentSound {origin : Instant}
    {history : List (World × (Environment × Action))} {world : World}
    (run : Trace stepUnder (World.init origin) history world) :
    ContentSound history world := by
  refine Trace.invariantHistory ContentSound (contentSound_init origin) ?_ run
  rintro earlier before ⟨env, action⟩ next _ inductionHypothesis stepped
  exact contentSound_step inductionHypothesis stepped

/-- The returned order was created by a call of the same user under the same
key, by the call itself unless it is a replay, and is what that call asked
for. -/
structure OrderAsCreated (history : List (World × (Environment × Action)))
    (world : World) (index : Nat) (input : CreateOrderInput)
    (output : CreateOrderOutput) (order : Order) (creator : Nat)
    (creating : CreateCall) : Prop where
  entity : output.order = pendingEntity order
  onlyRow : ∀ other ∈ world.orders, other.id = order.id → other = order
  called : world.createCalls[creator]? = some creating
  sameUser : creating.input.userId = input.userId
  sameKey : creating.input.idempotencyKey = input.idempotencyKey
  own : output.replayed = false → creator = index
  content : CreatedBy history creator creating.input order

/-- Under any changes of the seat map and the prices, a returned order is
what the call that created it asked for, and a replay only shares user and
key with that call. -/
theorem orderAsCreated_of_returned {origin : Instant}
    {history : List (World × (Environment × Action))} {world : World}
    {index : Nat} {call : CreateCall} {output : CreateOrderOutput}
    (run : Trace stepUnder (World.init origin) history world)
    (found : world.createCalls[index]? = some call)
    (returned : call.progress = .finished (.ok output)) :
    ∃ order ∈ world.orders, ∃ creator creating,
      OrderAsCreated history world index call.input output order creator
        creating := by
  have fresh : IdsFresh world :=
    Trace.invariant IdsFresh (idsFresh_init origin)
      (fun _ _ _ inductionHypothesis => idsFresh_step inductionHypothesis) run
  have sound := Trace.contentSound run
  obtain ⟨order, member, answer⟩ :=
    sound.answers index call output found returned
  have onlyRow : ∀ other ∈ world.orders, other.id = order.id →
      other = order := by
    intro other otherMember sameId
    exact fresh.unique otherMember member sameId
  cases replayed : output.replayed with
  | false =>
      exact ⟨order, member, index, call, answer.entity, onlyRow, found, rfl,
        rfl, fun _ => rfl, answer.created replayed⟩
  | true =>
      obtain ⟨creator, creating, called, created⟩ :=
        sound.orders order member
      refine ⟨order, member, creator, creating, answer.entity, onlyRow,
        called, ?_, ?_, ?_, created⟩
      · exact created.userId.symm.trans answer.userId
      · exact created.idempotencyKey.symm.trans answer.idempotencyKey
      · intro notReplayed
        rw [replayed] at notReplayed
        cases notReplayed

def dearVenue : Environment :=
  { smallVenue with
    price := fun ticketTypeId => if ticketTypeId = 3 then some 6000 else none }

/-- User 10 orders seat 7, the price rises, and the user orders seat 8 under
the same key. -/
def replayForOtherSeat : List (Environment × Action) :=
  (lockSeatRun 0 ⟨10, 1, 7⟩ ++ lockSeatRun 1 ⟨10, 1, 8⟩ ++
      createOrderRun 0 ⟨10, 1, [7], "first"⟩).map (smallVenue, ·) ++
    (.createOrder ⟨10, 1, [8], "first"⟩ ::
      List.replicate 4 (.createAwait 1 .resolves)).map (dearVenue, ·)

private theorem replayForOtherSeat_enabled :
    (replay stepUnder [] (World.init 0) replayForOtherSeat).isSome = true := by
  decide

def replayedWorld : World :=
  ((replay stepUnder [] (World.init 0) replayForOtherSeat).get
    replayForOtherSeat_enabled).2

/-- The call for seat 8 has returned the order. -/
theorem replayedWorld_returned :
    replayedWorld.createCalls[1]? =
      some ⟨⟨10, 1, [8], "first"⟩,
        .finished (.ok ⟨⟨0, 10, 1, .pending, 5000, 900000⟩, true⟩)⟩ := by
  decide

theorem orderAsCreated_replayForOtherSeat :
    ∃ order ∈ replayedWorld.orders, ∃ creator creating,
      OrderAsCreated
        ((replay stepUnder [] (World.init 0) replayForOtherSeat).get
          replayForOtherSeat_enabled).1
        replayedWorld 1 ⟨10, 1, [8], "first"⟩
        ⟨⟨0, 10, 1, .pending, 5000, 900000⟩, true⟩ order creator creating :=
  orderAsCreated_of_returned
    (Trace.of_replay_get replayForOtherSeat replayForOtherSeat_enabled)
    replayedWorld_returned rfl

/-- A replay can return an order for other seats than the requested ones. -/
theorem orderForOtherSeat_reachable :
    ¬ ∀ (origin : Instant)
        (history : List (World × (Environment × Action))) (world : World)
        (index : Nat) (input : CreateOrderInput)
        (output : CreateOrderOutput),
      Trace stepUnder (World.init origin) history world →
      world.createCalls[index]? = some ⟨input, .finished (.ok output)⟩ →
      input.seatIds ≠ [] →
      input.seatIds.Nodup →
      ∃ order ∈ world.orders,
        order.id = output.order.id ∧
        order.eventId = input.eventId ∧
        order.orderItems.map OrderItem.seatId =
          input.seatIds.map some := by
  intro always
  obtain ⟨order, member, _, _, sameSeats⟩ :=
    always 0 _ replayedWorld 1 _ _
      (Trace.of_replay_get replayForOtherSeat replayForOtherSeat_enabled)
      replayedWorld_returned (by decide) (by decide)
  have seatSeven : ∀ order ∈ replayedWorld.orders,
      order.orderItems.map OrderItem.seatId = [some 7] := by
    decide
  rw [seatSeven order member] at sameSeats
  exact absurd sameSeats (by decide)

end ConcertTicketing.Booking
