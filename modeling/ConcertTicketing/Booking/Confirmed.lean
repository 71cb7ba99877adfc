import ConcertTicketing.Booking.Expiry

/-!
# Confirmed orders

An order is confirmed from the moment its create call has extended the locks
of its seats: first as the row of a transaction that is about to commit, then
in the table.
-/

namespace ConcertTicketing.Booking

open SeatLock Redis

/-- The row of a transaction whose hold has been confirmed. -/
def committingRow (call : CreateCall) : Option Order :=
  match call.progress with
  | .running (.commit row) => some row
  | _ => none

/-- Orders in the table, and rows that are about to be committed. -/
def World.confirmed (world : World) : List Order :=
  world.orders ++ world.createCalls.filterMap committingRow

private theorem committingRow_eq_some {call : CreateCall} {row : Order} :
    committingRow call = some row ↔
      call.progress = .running (.commit row) := by
  unfold committingRow
  constructor
  · intro committing
    split at committing
    · next running => rw [running, Option.some.inj committing]
    · cases committing
  · intro running
    rw [running]

theorem mem_confirmed {world : World} {order : Order} :
    order ∈ world.confirmed ↔
      order ∈ world.orders ∨
        ∃ (index : Nat) (call : CreateCall),
          world.createCalls[index]? = some call ∧
            call.progress = .running (.commit order) := by
  simp only [World.confirmed, List.mem_append, List.mem_filterMap,
    committingRow_eq_some]
  constructor
  · rintro (inTable | ⟨call, member, running⟩)
    · exact Or.inl inTable
    · obtain ⟨index, found⟩ := List.mem_iff_getElem?.mp member
      exact Or.inr ⟨index, call, found, running⟩
  · rintro (inTable | ⟨index, call, found, running⟩)
    · exact Or.inl inTable
    · exact Or.inr ⟨call, List.mem_of_getElem? found, running⟩

/-- A call reaches its commit only from a successful `extendHold`. -/
theorem commit_of_await {env : Environment} {uncommitted : List Order}
    {call : CreateCall} {stores after : Stores} {stage : CreateStage}
    {outcome : Await} {row : Order}
    (awaited :
      (createOrder env uncommitted call.input).await stores stage outcome =
        some (after, call.progress))
    (committing : call.progress = .running (.commit row)) :
    outcome = .resolves ∧ stage = .extendHold row ∧
      AllHeld stores.redis call.input.eventId call.input.seatIds
        call.input.userId ∧
      after.redis =
        extended call.input.eventId call.input.seatIds
          env.bookingWindowSeconds stores.redis := by
  rw [committing] at awaited
  rcases createOrder_await awaited with ⟨resolves, resolved⟩ | failed | stopped
  · cases resolved with
    | extended row held => exact ⟨resolves, rfl, held, rfl⟩
  · cases failed
  · cases stopped

def ExpiredOrSame (earlier order : Order) : Prop :=
  order = earlier ∨
    (earlier.status = .pending ∧
      order = expireIfPending earlier.id earlier)

namespace ExpiredOrSame

variable {earlier order : Order}

theorem id_eq (origin : ExpiredOrSame earlier order) :
    order.id = earlier.id := by
  rcases origin with rfl | ⟨_, rfl⟩
  · rfl
  · exact expireIfPending_id _ _

theorem userId_eq (origin : ExpiredOrSame earlier order) :
    order.userId = earlier.userId := by
  rcases origin with rfl | ⟨_, rfl⟩
  · rfl
  · exact expireIfPending_userId _ _

theorem eventId_eq (origin : ExpiredOrSame earlier order) :
    order.eventId = earlier.eventId := by
  rcases origin with rfl | ⟨_, rfl⟩
  · rfl
  · exact expireIfPending_eventId _ _

theorem totalAmount_eq (origin : ExpiredOrSame earlier order) :
    order.totalAmount = earlier.totalAmount := by
  rcases origin with rfl | ⟨_, rfl⟩
  · rfl
  · exact expireIfPending_totalAmount _ _

theorem expiresAt_eq (origin : ExpiredOrSame earlier order) :
    order.expiresAt = earlier.expiresAt := by
  rcases origin with rfl | ⟨_, rfl⟩
  · rfl
  · exact expireIfPending_expiresAt _ _

theorem sameKey_iff (origin : ExpiredOrSame earlier order)
    {userId : UserId} {idempotencyKey : String} :
    SameKey userId idempotencyKey order ↔
      SameKey userId idempotencyKey earlier := by
  rcases origin with rfl | ⟨_, rfl⟩
  · exact Iff.rfl
  · simp only [SameKey, expireIfPending_userId,
      expireIfPending_idempotencyKey]

theorem seatIds_eq (origin : ExpiredOrSame earlier order) :
    order.seatIds = earlier.seatIds := by
  rcases origin with rfl | ⟨_, rfl⟩
  · rfl
  · exact expireIfPending_seatIds _ _

theorem eq_of_pending (origin : ExpiredOrSame earlier order)
    (pending : order.status = .pending) : order = earlier := by
  rcases origin with rfl | ⟨_, rfl⟩
  · rfl
  · exact eq_of_expireIfPending_pending pending

end ExpiredOrSame

private theorem expiredOrSame_expireIfPending (orderId : OrderId)
    (order : Order) :
    ExpiredOrSame order (expireIfPending orderId order) := by
  by_cases selected : order.id = orderId ∧ order.status = .pending
  · obtain ⟨rfl, pending⟩ := selected
    exact Or.inr ⟨pending, rfl⟩
  · left
    unfold expireIfPending
    rw [if_neg selected]

/-- An order was in the table before the step, or its transaction has just
committed. -/
theorem OrdersChange.order_origin {world : World} {action : Action}
    {orders : List Order} (change : OrdersChange world action orders)
    {order : Order} (member : order ∈ orders) :
    (∃ earlier ∈ world.orders, ExpiredOrSame earlier order) ∨
      ∃ index outcome input,
        action = .createAwait index outcome ∧ outcome.Applies = true ∧
        world.createCalls[index]? =
          some ⟨input, .running (.commit order)⟩ := by
  cases change with
  | unchanged => exact Or.inl ⟨order, member, Or.inl rfl⟩
  | committed index outcome input row found applies =>
      rcases List.mem_append.mp member with old | new
      · exact Or.inl ⟨order, old, Or.inl rfl⟩
      · rw [List.mem_singleton] at new
        subst new
        exact Or.inr ⟨index, outcome, input, rfl, applies, found⟩
  | marked index outcome request found applies =>
      obtain ⟨earlier, old, rfl⟩ := List.mem_map.mp member
      exact Or.inl ⟨earlier, old, expiredOrSame_expireIfPending _ _⟩

/-- Orders are never deleted; a step can only expire them. -/
theorem OrdersChange.order_next {world : World} {action : Action}
    {orders : List Order} (change : OrdersChange world action orders)
    {order : Order} (member : order ∈ world.orders) :
    ∃ later ∈ orders, ExpiredOrSame order later := by
  cases change with
  | unchanged => exact ⟨order, member, Or.inl rfl⟩
  | committed => exact ⟨order, List.mem_append_left _ member, Or.inl rfl⟩
  | marked index outcome request found applies =>
      exact ⟨_, List.mem_map_of_mem member, expiredOrSame_expireIfPending _ _⟩

/-- A confirmed order was confirmed before the step, or the step has extended
the hold of all its seats. -/
theorem step_confirmed {env : Environment} {world next : World}
    {action : Action} (sound : Sound env world)
    (stepped : step env world action = some next) {order : Order}
    (member : order ∈ next.confirmed) :
    (∃ earlier ∈ world.confirmed, ExpiredOrSame earlier order) ∨
    ∃ index input,
      action = .createAwait index .resolves ∧
      world.createCalls[index]? =
        some ⟨input, .running (.extendHold order)⟩ ∧
      AllHeld world.redis order.eventId order.seatIds order.userId ∧
      order.expiresAt ≤ world.now + env.bookingWindowMs ∧
      next.redis =
        extended order.eventId order.seatIds env.bookingWindowSeconds
          world.redis := by
  rcases mem_confirmed.mp member with
    inTable | ⟨index, call, reached, committing⟩
  · left
    rcases (step_orders stepped).order_origin inTable with
      ⟨earlier, old, origin⟩ | ⟨index, outcome, input, _, _, found⟩
    · exact ⟨earlier, mem_confirmed.mpr (Or.inl old), origin⟩
    · have committing := mem_confirmed.mpr (Or.inr ⟨index, _, found, rfl⟩)
      exact ⟨order, committing, Or.inl rfl⟩
  · cases step_createCalls stepped reached with
    | kept _ _ found =>
        exact Or.inl
          ⟨order, mem_confirmed.mpr (Or.inr ⟨index, call, found, committing⟩),
            Or.inl rfl⟩
    | requested input new =>
        rw [new] at committing
        cases committing
    | awaited outcome stage found awaited =>
        obtain ⟨rfl, rfl, held, renewed⟩ := commit_of_await awaited committing
        have drafted := (sound.rows.rows index _ order found rfl).1
        right
        refine ⟨index, call.input, rfl, found, ?_, drafted.expiresAt_le, ?_⟩
        · rw [drafted.eventId, drafted.seatIds, drafted.userId]
          exact held
        · rw [drafted.eventId, drafted.seatIds]
          exact renewed

/-- The deadline of a confirmed order is within the booking window. -/
theorem confirmed_expiresAt_le {env : Environment} {world : World}
    (sound : Sound env world) {order : Order}
    (member : order ∈ world.confirmed) :
    order.expiresAt ≤ world.now + env.bookingWindowMs := by
  rcases mem_confirmed.mp member with
    inTable | ⟨index, call, found, committing⟩
  · obtain ⟨input, drafted⟩ := sound.rows.orders order inTable
    exact drafted.expiresAt_le
  · have inserted : insertedRow call = some order := by
      rw [insertedRow_of_running committing]
      rfl
    exact (sound.rows.rows index call order found inserted).1.expiresAt_le

end ConcertTicketing.Booking
