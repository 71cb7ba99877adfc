import ConcertTicketing.SeatLock.Store
import Mathlib.Data.List.Forall2

/-!
# The shared stores of the booking code

Beside the Redis seat-lock store there are two tables of the database, as
`PrismaOrderAdapter` and `PrismaSeatLockAuditAdapter` read and write them, and
the broker's part of the order timeout: `delay.q`, `order.timeout.q` and a log
of what the broker has accepted.
-/

namespace ConcertTicketing.Booking

open SeatLock

inductive OrderStatus where
  | pending
  | paid
  | expired
  | cancelled
  deriving DecidableEq, Repr

structure OrderItem where
  seatId : Option SeatId
  ticketTypeId : TicketTypeId
  unitPrice : Cents
  deriving DecidableEq, Repr

structure Order where
  id : OrderId
  userId : UserId
  eventId : EventId
  idempotencyKey : String
  status : OrderStatus
  totalAmount : Cents
  expiresAt : Instant
  orderItems : List OrderItem
  deriving DecidableEq, Repr

namespace Order

def seatIds (order : Order) : List SeatId :=
  order.orderItems.filterMap OrderItem.seatId

/-- `PENDING` and not past `expiresAt`. -/
def Live (now : Instant) (order : Order) : Prop :=
  order.status = .pending ∧ now < order.expiresAt

instance (now : Instant) (order : Order) : Decidable (order.Live now) :=
  inferInstanceAs (Decidable (_ ∧ _))

end Order

/-- What the adapters hand to the use-cases. -/
structure OrderEntity where
  id : OrderId
  userId : UserId
  eventId : EventId
  status : OrderStatus
  totalAmount : Cents
  expiresAt : Instant
  deriving DecidableEq, Repr

namespace OrderEntity

def isPending (order : OrderEntity) : Bool := order.status = .pending

end OrderEntity

def toEntity (row : Order) : OrderEntity :=
  ⟨row.id, row.userId, row.eventId, row.status, row.totalAmount,
    row.expiresAt⟩

structure SeatPricing where
  seatId : SeatId
  ticketTypeId : TicketTypeId
  unitPrice : Cents
  deriving DecidableEq, Repr

/-- The body of the `map` in `loadSeatPricing`; an error names the seat of
`SeatNotPriceableError`. -/
def priceSeat (env : Environment) (eventId : EventId) (seatId : SeatId) :
    Except SeatId SeatPricing :=
  match env.seat seatId with
  | none => .error seatId
  | some seat =>
      if seat.eventId ≠ eventId then .error seatId
      else
        match seat.ticketTypeId with
        | none => .error seatId
        | some ticketTypeId =>
            match env.price ticketTypeId with
            | none => .error seatId
            | some unitPrice => .ok ⟨seatId, ticketTypeId, unitPrice⟩

def loadSeatPricing (env : Environment) (eventId : EventId) :
    List SeatId → Except SeatId (List SeatPricing)
  | [] => .ok []
  | seatId :: rest =>
      match priceSeat env eventId seatId with
      | .error failed => .error failed
      | .ok pricing =>
          match loadSeatPricing env eventId rest with
          | .error failed => .error failed
          | .ok others => .ok (pricing :: others)

structure CreateOrderData where
  userId : UserId
  eventId : EventId
  idempotencyKey : String
  expiresAt : Instant
  items : List SeatPricing
  deriving DecidableEq, Repr

namespace CreateOrderData

def totalAmount (data : CreateOrderData) : Cents :=
  data.items.foldl (fun acc item => acc + item.unitPrice) 0

/-- The row that `tx.order.create` inserts. -/
def toRow (data : CreateOrderData) (id : OrderId) : Order where
  id := id
  userId := data.userId
  eventId := data.eventId
  idempotencyKey := data.idempotencyKey
  status := .pending
  totalAmount := data.totalAmount
  expiresAt := data.expiresAt
  orderItems :=
    data.items.map fun item =>
      ⟨some item.seatId, item.ticketTypeId, item.unitPrice⟩

end CreateOrderData

/-- A `DECIMAL(10,2)` column rejects amounts of `10^8` and more. -/
def Storable (amount : Cents) : Prop :=
  -10000000000 < amount ∧ amount < 10000000000

instance (amount : Cents) : Decidable (Storable amount) :=
  inferInstanceAs (Decidable (_ ∧ _))

/-- `@@unique([userId, idempotencyKey])`. -/
def SameKey (userId : UserId) (idempotencyKey : String) (order : Order) :
    Prop :=
  order.userId = userId ∧ order.idempotencyKey = idempotencyKey

instance (userId : UserId) (idempotencyKey : String) :
    DecidablePred (SameKey userId idempotencyKey) :=
  fun _ => inferInstanceAs (Decidable (_ ∧ _))

def findByIdempotencyKey (userId : UserId) (idempotencyKey : String)
    (orders : List Order) : Option Order :=
  orders.find? fun order => decide (SameKey userId idempotencyKey order)

/-- The row effect of the `updateMany` in `markExpiredIfPending`. -/
def expireIfPending (orderId : OrderId) (order : Order) : Order :=
  if order.id = orderId ∧ order.status = .pending then
    { order with status := .expired }
  else order

/-- The `count` of that `updateMany`. -/
def pendingCount (orderId : OrderId) (orders : List Order) : Nat :=
  (orders.filter fun order =>
    decide (order.id = orderId ∧ order.status = .pending)).length

def findOrder (orderId : OrderId) (orders : List Order) : Option Order :=
  orders.find? fun order => decide (order.id = orderId)

/-! ## The seat-lock audit -/

inductive SeatLockStatus where
  | active
  | released
  | expired
  deriving DecidableEq, Repr

/-- A `seat_locks` row; its id is its position in the table. -/
structure SeatLockRow where
  seatId : SeatId
  userId : UserId
  lockedAt : Instant
  expiresAt : Instant
  releasedAt : Option Instant
  status : SeatLockStatus
  deriving DecidableEq, Repr

namespace SeatLockRow

/-- The row effect of an `updateMany` that settles active rows. -/
def settle (status : SeatLockStatus) (now : Instant)
    (selected : SeatLockRow → Bool) (row : SeatLockRow) : SeatLockRow :=
  if selected row = true ∧ row.status = .active then
    { row with status := status, releasedAt := some now }
  else row

end SeatLockRow

/-- `PrismaSeatLockAuditAdapter.recordReleased`. -/
def recordReleased (seatId : SeatId) (userId : UserId) (now : Instant)
    (rows : List SeatLockRow) : List SeatLockRow :=
  rows.map <|
    SeatLockRow.settle .released now fun row =>
      decide (row.seatId = seatId ∧ row.userId = userId)

/-- `PrismaOrderAdapter.expireSeatLockAudit`. -/
def expireSeatLockAudit (seatIds : List SeatId) (userId : UserId)
    (now : Instant) (rows : List SeatLockRow) : List SeatLockRow :=
  if seatIds = [] then rows
  else
    rows.map <|
      SeatLockRow.settle .expired now fun row =>
        decide (row.seatId ∈ seatIds ∧ row.userId = userId)

/-- `PrismaSeatLockAuditAdapter.findActive`: the active row with the latest
`lockedAt`, and its id. -/
def findActive (seatId : SeatId) (userId : UserId)
    (rows : List SeatLockRow) : Option (SeatLockRow × Nat) :=
  (rows.zipIdx.filter fun entry =>
    decide (entry.1.seatId = seatId ∧ entry.1.userId = userId ∧
      entry.1.status = .active)).foldl
    (fun latest entry =>
      match latest with
      | none => some entry
      | some best =>
          if best.1.lockedAt ≤ entry.1.lockedAt then some entry
          else some best)
    none

/-! ## The broker -/

/-- An `order.expire` message in `delay.q`. -/
structure Message where
  orderId : OrderId
  publishedAt : Instant
  deriving DecidableEq, Repr

/-- `accepted` logs the orders whose message the broker has taken over. -/
structure Broker where
  delayQueue : List Message
  timeoutQueue : List OrderId
  accepted : List OrderId
  deriving DecidableEq, Repr

namespace Broker

def empty : Broker := ⟨[], [], []⟩

/-- `publishExpiration`, through `delay.x`. -/
def publishExpiration (broker : Broker) (orderId : OrderId)
    (now : Instant) : Broker :=
  { broker with
    delayQueue := broker.delayQueue ++ [⟨orderId, now⟩]
    accepted := orderId :: broker.accepted }

end Broker

structure Stores where
  redis : SeatStore
  orders : List Order
  seatLocks : List SeatLockRow
  nextOrderId : OrderId
  broker : Broker

namespace Stores

def now (stores : Stores) : Instant := stores.redis.now

def empty (origin : Instant) : Stores :=
  ⟨Redis.Db.empty origin, [], [], 0, Broker.empty⟩

end Stores

@[simp]
theorem expireIfPending_id (orderId : OrderId) (order : Order) :
    (expireIfPending orderId order).id = order.id := by
  unfold expireIfPending
  split <;> rfl

@[simp]
theorem expireIfPending_userId (orderId : OrderId) (order : Order) :
    (expireIfPending orderId order).userId = order.userId := by
  unfold expireIfPending
  split <;> rfl

@[simp]
theorem expireIfPending_eventId (orderId : OrderId) (order : Order) :
    (expireIfPending orderId order).eventId = order.eventId := by
  unfold expireIfPending
  split <;> rfl

@[simp]
theorem expireIfPending_idempotencyKey (orderId : OrderId) (order : Order) :
    (expireIfPending orderId order).idempotencyKey = order.idempotencyKey := by
  unfold expireIfPending
  split <;> rfl

@[simp]
theorem expireIfPending_totalAmount (orderId : OrderId) (order : Order) :
    (expireIfPending orderId order).totalAmount = order.totalAmount := by
  unfold expireIfPending
  split <;> rfl

@[simp]
theorem expireIfPending_expiresAt (orderId : OrderId) (order : Order) :
    (expireIfPending orderId order).expiresAt = order.expiresAt := by
  unfold expireIfPending
  split <;> rfl

@[simp]
theorem expireIfPending_seatIds (orderId : OrderId) (order : Order) :
    (expireIfPending orderId order).seatIds = order.seatIds := by
  unfold expireIfPending
  split <;> rfl

theorem expireIfPending_status (orderId : OrderId) (order : Order) :
    (expireIfPending orderId order).status = .pending ↔
      order.status = .pending ∧ order.id ≠ orderId := by
  unfold expireIfPending
  by_cases sameId : order.id = orderId
  · by_cases pending : order.status = .pending <;> simp [sameId, pending]
  · simp [sameId]

theorem eq_of_expireIfPending_pending {orderId : OrderId} {order : Order}
    (pending : (expireIfPending orderId order).status = .pending) :
    expireIfPending orderId order = order := by
  have other := ((expireIfPending_status orderId order).mp pending).2
  unfold expireIfPending
  rw [if_neg (fun both => other both.1)]

theorem findByIdempotencyKey_some {userId : UserId} {idempotencyKey : String}
    {orders : List Order} {order : Order}
    (found : findByIdempotencyKey userId idempotencyKey orders = some order) :
    order ∈ orders ∧ SameKey userId idempotencyKey order := by
  have matched := List.find?_some found
  exact ⟨List.mem_of_find?_eq_some found, of_decide_eq_true matched⟩

theorem findByIdempotencyKey_eq_none_iff {userId : UserId}
    {idempotencyKey : String} {orders : List Order} :
    findByIdempotencyKey userId idempotencyKey orders = none ↔
      ∀ order ∈ orders, ¬ SameKey userId idempotencyKey order := by
  simp only [findByIdempotencyKey, List.find?_eq_none, decide_eq_true_iff]

theorem SameKey.congr {userId : UserId} {idempotencyKey : String}
    {order twin : Order}
    (first : SameKey userId idempotencyKey order)
    (second : SameKey userId idempotencyKey twin) :
    SameKey order.userId order.idempotencyKey twin :=
  ⟨second.1.trans first.1.symm, second.2.trans first.2.symm⟩

namespace SeatLockRow

variable {status : SeatLockStatus} {now : Instant}
  {selected : SeatLockRow → Bool} {row : SeatLockRow}

@[simp]
theorem settle_userId :
    (row.settle status now selected).userId = row.userId := by
  unfold settle
  split <;> rfl

@[simp]
theorem settle_seatId :
    (row.settle status now selected).seatId = row.seatId := by
  unfold settle
  split <;> rfl

/-- A row that is `ACTIVE` afterwards was so before and was not selected. -/
theorem active_of_settle (settles : status ≠ .active)
    (active : (row.settle status now selected).status = .active) :
    row.status = .active ∧ selected row = false := by
  unfold settle at active
  split at active
  · exact absurd active settles
  · next kept =>
      refine ⟨active, ?_⟩
      rw [Bool.eq_false_iff]
      intro chosen
      exact kept ⟨chosen, active⟩

end SeatLockRow

theorem toRow_seatIds (data : CreateOrderData) (id : OrderId) :
    (data.toRow id).seatIds = data.items.map SeatPricing.seatId := by
  simp only [Order.seatIds, CreateOrderData.toRow, List.filterMap_map]
  rw [← List.filterMap_eq_map]
  rfl

private theorem priceSeat_ok {env : Environment} {eventId : EventId}
    {seatId : SeatId} {pricing : SeatPricing}
    (priced : priceSeat env eventId seatId = .ok pricing) :
    pricing.seatId = seatId ∧ env.SeatOf eventId seatId := by
  unfold priceSeat at priced
  split at priced
  · cases priced
  · next seat found =>
      by_cases sameEvent : seat.eventId = eventId
      · rw [if_neg (not_not.mpr sameEvent)] at priced
        split at priced
        · cases priced
        · split at priced
          · cases priced
          · cases priced
            exact ⟨rfl, by simp [Catalog.SeatOf, found, sameEvent]⟩
      · rw [if_pos sameEvent] at priced
        cases priced

/-- Pricing prices each requested seat in turn. -/
theorem loadSeatPricing_ok_iff {env : Environment} {eventId : EventId}
    {seatIds : List SeatId} {pricing : List SeatPricing} :
    loadSeatPricing env eventId seatIds = .ok pricing ↔
      List.Forall₂
        (fun seatId priced => priceSeat env eventId seatId = .ok priced)
        seatIds pricing := by
  induction seatIds generalizing pricing with
  | nil =>
      simp [loadSeatPricing, eq_comm]
  | cons seatId rest inductionHypothesis =>
      simp only [List.forall₂_cons_left_iff, ← inductionHypothesis]
      cases first : priceSeat env eventId seatId with
      | error failed => simp [loadSeatPricing, first]
      | ok priced =>
          cases loaded : loadSeatPricing env eventId rest with
          | error failed => simp [loadSeatPricing, first, loaded]
          | ok others => simp [loadSeatPricing, first, loaded, eq_comm]

/-- Pricing keeps the requested seats and vouches for their event. -/
theorem loadSeatPricing_ok {env : Environment} {eventId : EventId}
    {seatIds : List SeatId} {pricing : List SeatPricing}
    (loaded : loadSeatPricing env eventId seatIds = .ok pricing) :
    pricing.map SeatPricing.seatId = seatIds ∧
      ∀ seatId ∈ seatIds, env.SeatOf eventId seatId := by
  have each := loadSeatPricing_ok_iff.mp loaded
  clear loaded
  induction each with
  | nil => exact ⟨rfl, by simp⟩
  | cons priced _ inductionHypothesis =>
      have headFacts := priceSeat_ok priced
      constructor
      · rw [List.map_cons, headFacts.1, inductionHypothesis.1]
      · exact List.forall_mem_cons.mpr ⟨headFacts.2, inductionHypothesis.2⟩

theorem CreateOrderData.totalAmount_perm {first second : CreateOrderData}
    (same : first.items.Perm second.items) :
    first.totalAmount = second.totalAmount := by
  unfold CreateOrderData.totalAmount
  apply same.foldl_eq'
  intro one _ other _ sum
  exact Int.add_right_comm sum one.unitPrice other.unitPrice

end ConcertTicketing.Booking
