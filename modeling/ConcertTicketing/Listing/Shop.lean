import ConcertTicketing.Events.Tenants
import ConcertTicketing.Listing.Reads

/-!
# The shop

The organizers' requests, one Prisma call at a time, and beside them what
happens to users and orders: seats are priced for an order, the order is
inserted later, and its status, tickets and payment change.  In every run the
items of an order refer to seats and ticket types of the order's own event,
and these rows stay.
-/

namespace ConcertTicketing.Listing

open Events

/-- What `loadSeatPricing` has read about a seat. -/
structure PricedSeat where
  eventId : EventId
  seatId : SeatId
  ticketTypeId : TicketTypeId
  deriving DecidableEq, Repr

/-- The columns of a new order, which is `PENDING`. -/
structure NewOrder where
  userId : UserId
  eventId : EventId
  totalAmount : Cents
  createdAt : Instant
  expiresAt : Instant
  orderItems : List OrderLine
  deriving DecidableEq, Repr

def NewOrder.toRow (order : NewOrder) : OrderRow where
  userId := order.userId
  eventId := order.eventId
  status := .pending
  totalAmount := order.totalAmount
  createdAt := order.createdAt
  expiresAt := order.expiresAt
  orderItems := order.orderItems
  tickets := []
  paymentTransaction := none

def OrderRow.settle (status : Booking.OrderStatus) (tickets : List Ticket)
    (payment : Option PaymentTransaction) (order : OrderRow) : OrderRow :=
  { order with
    status := status
    tickets := tickets
    paymentTransaction := payment }

structure ShopState where
  organizers : OrganizerState
  sales : Sales
  priced : List PricedSeat

inductive ShopAction where
  | organizers (action : OrganizerAction)
  | join (user : UserRow)
  | edit (userId : UserId) (user : UserRow)
  | price (eventId : EventId) (seatId : SeatId)
  | order (order : NewOrder)
  | settle (orderId : OrderId) (status : Booking.OrderStatus)
      (tickets : List Ticket) (payment : Option PaymentTransaction)

namespace ShopState

def init : ShopState := ⟨⟨Events.Db.empty, []⟩, ⟨.empty, .empty⟩, []⟩

def catalog (state : ShopState) : Events.Db := state.organizers.stores

def shop (state : ShopState) : Shop := ⟨state.catalog, state.sales⟩

/-- A seat of the event that has a ticket type. -/
def readPrice (state : ShopState) (eventId : EventId) (seatId : SeatId) :
    Option PricedSeat :=
  ((state.catalog.seats.find? seatId).filter fun seat =>
    decide (seat.eventId = eventId)).bind fun seat =>
      seat.ticketTypeId.map fun ticketTypeId => ⟨eventId, seatId, ticketTypeId⟩

/-- The foreign keys of a new order lead to rows, and its items are of seats
that have been priced for it. -/
def accepts (state : ShopState) (order : NewOrder) : Bool :=
  (state.sales.users.find? order.userId).isSome &&
    (state.catalog.events.find? order.eventId).isSome &&
    order.orderItems.all fun line =>
      (state.catalog.ticketTypes.find? line.ticketTypeId).isSome &&
        line.seatId.any fun seatId =>
          decide (⟨order.eventId, seatId, line.ticketTypeId⟩ ∈ state.priced)

/-- The items of an order keep their ticket types from being deleted. -/
def withItems (db : Events.Db) (lines : List OrderLine) : Events.Db :=
  lines.foldl (fun db line => (Outside.ordered line.ticketTypeId).apply db) db

def withOrder (state : ShopState) (order : NewOrder) : ShopState :=
  { state with
    organizers :=
      { state.organizers with
        stores := withItems state.catalog order.orderItems }
    sales :=
      { state.sales with orders := state.sales.orders.insert order.toRow } }

end ShopState

def shopStep (state : ShopState) : ShopAction → Option ShopState
  | .organizers action =>
      (organizerServer.step state.organizers action).map fun organizers =>
        { state with organizers := organizers }
  | .join user =>
      some { state with
        sales :=
          { state.sales with users := state.sales.users.insert user } }
  | .edit userId user =>
      some { state with
        sales :=
          { state.sales with
            users := state.sales.users.modify userId fun _ => user } }
  | .price eventId seatId =>
      (state.readPrice eventId seatId).map fun priced =>
        { state with priced := priced :: state.priced }
  | .order order =>
      if state.accepts order then some (state.withOrder order) else none
  | .settle orderId status tickets payment =>
      some { state with
        sales :=
          { state.sales with
            orders := state.sales.orders.modify orderId
              (OrderRow.settle status tickets payment) } }

abbrev ShopHistory := List (ShopState × ShopAction)

/-- Seats stay with their events, and so do the ticket types of items. -/
structure RowsStay (db later : Events.Db) : Prop where
  seats : ∀ seatId seat, db.seats.find? seatId = some seat →
    ∃ now, later.seats.find? seatId = some now ∧ now.eventId = seat.eventId
  orderItems : ∀ ticketTypeId ∈ db.orderItems,
    ticketTypeId ∈ later.orderItems
  ticketTypes : ∀ ticketTypeId ∈ db.orderItems, ∀ row,
    db.ticketTypes.find? ticketTypeId = some row →
    ∃ now, later.ticketTypes.find? ticketTypeId = some now ∧
      now.eventId = row.eventId

namespace RowsStay

variable {db after : Events.Db}

theorem same (seats : after.seats = db.seats)
    (ticketTypes : after.ticketTypes = db.ticketTypes)
    (orderItems : after.orderItems = db.orderItems) : RowsStay db after where
  seats := by
    intro seatId seat found
    rw [seats]
    exact ⟨seat, found, rfl⟩
  orderItems := by
    intro ticketTypeId member
    rw [orderItems]
    exact member
  ticketTypes := by
    intro ticketTypeId _ row found
    rw [ticketTypes]
    exact ⟨row, found, rfl⟩

theorem refl (db : Events.Db) : RowsStay db db := .same rfl rfl rfl

theorem trans {later : Events.Db} (early : RowsStay db after)
    (late : RowsStay after later) : RowsStay db later where
  seats := by
    intro seatId seat found
    obtain ⟨middle, foundMiddle, sameMiddle⟩ := early.seats seatId seat found
    obtain ⟨now, foundNow, sameNow⟩ := late.seats seatId middle foundMiddle
    exact ⟨now, foundNow, sameNow.trans sameMiddle⟩
  orderItems := fun ticketTypeId member =>
    late.orderItems ticketTypeId (early.orderItems ticketTypeId member)
  ticketTypes := by
    intro ticketTypeId member row found
    obtain ⟨middle, foundMiddle, sameMiddle⟩ :=
      early.ticketTypes ticketTypeId member row found
    obtain ⟨now, foundNow, sameNow⟩ := late.ticketTypes ticketTypeId
      (early.orderItems ticketTypeId member) middle foundMiddle
    exact ⟨now, foundNow, sameNow.trans sameMiddle⟩

/-- New seats come behind the others. -/
theorem insertSeats (seats : List SeatRow)
    (isInserted : after.seats = db.seats.insertMany seats)
    (ticketTypes : after.ticketTypes = db.ticketTypes)
    (orderItems : after.orderItems = db.orderItems) : RowsStay db after where
  seats := by
    intro seatId seat found
    refine ⟨seat, ?_, rfl⟩
    rw [isInserted]
    exact Table.find?_eq_some.mpr (Table.mem_insertMany_of_mem seats
      (Table.find?_eq_some.mp found))
  orderItems := (same rfl ticketTypes orderItems :
    RowsStay db { after with seats := db.seats }).orderItems
  ticketTypes := (same rfl ticketTypes orderItems :
    RowsStay db { after with seats := db.seats }).ticketTypes

/-- A ticket type without items goes. -/
theorem withoutTicketType {removed : TicketTypeId}
    (unordered : removed ∉ db.orderItems) :
    RowsStay db (db.withoutTicketType removed) where
  seats := by
    intro seatId seat found
    refine ⟨seat.forget removed, ?_, (seat_forget removed seat).1⟩
    exact Table.find?_eq_some.mpr
      (Table.mem_mapRows.mpr ⟨seat, Table.find?_eq_some.mp found, rfl⟩)
  orderItems := fun _ member => member
  ticketTypes := by
    intro ticketTypeId member row found
    have different : ticketTypeId ≠ removed := by
      intro same
      rw [same] at member
      exact unordered member
    exact ⟨row, Table.find?_eq_some.mpr
      (Table.mem_erase.mpr ⟨Table.find?_eq_some.mp found, different⟩), rfl⟩

/-- A ticket type is changed in other columns. -/
theorem modifyTicketType (ticketTypeId : TicketTypeId)
    {change : TicketType → TicketType}
    (keeps : ∀ row, (change row).eventId = row.eventId) :
    RowsStay db
      { db with ticketTypes := db.ticketTypes.modify ticketTypeId change } where
  seats := fun _ seat found => ⟨seat, found, rfl⟩
  orderItems := fun _ member => member
  ticketTypes := by
    intro other _ row found
    rw [Table.find?_modify, found]
    refine ⟨_, rfl, ?_⟩
    split
    · exact keeps row
    · rfl

end RowsStay

section Stay

variable {db after : Events.Db} {command : Command}

/-- A write, unless it deletes a ticket type with items. -/
theorem rowsStay_written (writes : Written db command after)
    (restricts : ∀ removed ∈ db.orderItems,
      command = .deleteTicketType removed → after = db) :
    RowsStay db after := by
  cases writes with
  | ticketTypeCreated data new _ =>
      refine ⟨fun _ seat found => ⟨seat, found, rfl⟩,
        fun _ member => member, ?_⟩
      intro ticketTypeId _ row found
      exact ⟨row, Table.find?_insert found new, rfl⟩
  | ticketTypeUpdated ticketTypeId data row _ =>
      exact .modifyTicketType ticketTypeId fun _ => rfl
  | ticketTypeDeleted removed row _ =>
      by_cases ordered : removed ∈ db.orderItems
      · rw [restricts removed ordered rfl]
        exact .refl db
      · exact .withoutTicketType ordered
  | seatsCreated seats _ => exact .insertSeats seats rfl rfl rfl
  | seatMapCreated eventId seats _ => exact .insertSeats seats rfl rfl rfl
  | _ => exact .same rfl rfl rfl

/-- `ON DELETE RESTRICT`. -/
theorem perform_deleteTicketType_of_ordered {removed : TicketTypeId}
    (ordered : removed ∈ db.orderItems) :
    (perform (.deleteTicketType removed) db).2 = db := by
  rw [perform, Events.Db.deleteTicketType]
  split <;> rfl

private theorem rowsStay_perform (command : Command) (db : Events.Db) :
    RowsStay db (perform command db).2 := by
  refine rowsStay_written (written db command) ?_
  rintro removed ordered rfl
  exact perform_deleteTicketType_of_ordered ordered

private theorem rowsStay_outside (event : Outside) (db : Events.Db) :
    RowsStay db (event.apply db) := by
  cases event with
  | registered userId =>
      rw [Outside.apply]
      split
      · exact .refl db
      · exact .same rfl rfl rfl
  | reviewed eventId status => exact .same rfl rfl rfl
  | sold ticketTypeId count =>
      exact .modifyTicketType ticketTypeId fun _ => rfl
  | ordered ticketTypeId =>
      rw [Outside.apply]
      split
      · refine ⟨fun _ seat found => ⟨seat, found, rfl⟩, ?_,
          fun _ _ row found => ⟨row, found, rfl⟩⟩
        intro other member
        exact List.mem_append_left _ member
      · exact .refl db

end Stay

/-- The seat of the event is there, and the ticket type is no other
event's. -/
structure PricedSeat.Sound (db : Events.Db) (priced : PricedSeat) :
    Prop where
  seat : ∃ seat, db.seats.find? priced.seatId = some seat ∧
    seat.eventId = priced.eventId
  ticketType : db.OnlyOf priced.eventId priced.ticketTypeId

/-- The item is of a ticket type and a seat of the event. -/
structure OrderLine.RefersTo (db : Events.Db) (eventId : EventId)
    (line : OrderLine) : Prop where
  isItem : line.ticketTypeId ∈ db.orderItems
  ticketType : ∃ row, db.ticketTypes.find? line.ticketTypeId = some row ∧
    row.eventId = eventId
  seat : ∀ seatId ∈ line.seatId, ∃ seat,
    db.seats.find? seatId = some seat ∧ seat.eventId = eventId

/-- Orders refer to rows of their own events. -/
def OrdersReferOwn (shop : Shop) : Prop :=
  ∀ orderId order, shop.sales.orders.find? orderId = some order →
    ∀ line ∈ order.orderItems, line.RefersTo shop.catalog order.eventId

/-- Orders are from users. -/
def OrdersHaveUsers (sales : Sales) : Prop :=
  ∀ orderId order, sales.orders.find? orderId = some order →
    ∃ user, sales.users.find? order.userId = some user

structure ShopSound (state : ShopState) : Prop where
  organizers : EachSafe perform OwnersStay
    (fun input => Allows input.organizerId) TablesSound state.organizers
  priced : ∀ priced ∈ state.priced, priced.Sound state.catalog
  orders : OrdersReferOwn state.shop
  users : OrdersHaveUsers state.sales

section Invariant

variable {db after : Events.Db}

theorem PricedSeat.Sound.later {priced : PricedSeat}
    (sound : priced.Sound db) (owners : OwnersStay db after)
    (rows : RowsStay db after) : priced.Sound after := by
  obtain ⟨seat, found, ofEvent⟩ := sound.seat
  obtain ⟨now, foundNow, same⟩ := rows.seats priced.seatId seat found
  exact ⟨⟨now, foundNow, same.trans ofEvent⟩,
    owners.onlyOf sound.ticketType⟩

theorem OrderLine.RefersTo.later {eventId : EventId} {line : OrderLine}
    (refers : line.RefersTo db eventId) (rows : RowsStay db after) :
    line.RefersTo after eventId where
  isItem := rows.orderItems _ refers.isItem
  ticketType := by
    obtain ⟨row, found, ofEvent⟩ := refers.ticketType
    obtain ⟨now, foundNow, same⟩ :=
      rows.ticketTypes _ refers.isItem row found
    exact ⟨now, foundNow, same.trans ofEvent⟩
  seat := by
    intro seatId isSeat
    obtain ⟨seat, found, ofEvent⟩ := refers.seat seatId isSeat
    obtain ⟨now, foundNow, same⟩ := rows.seats seatId seat found
    exact ⟨now, foundNow, same.trans ofEvent⟩

/-- The catalog changes, and no owner and no row in use goes. -/
theorem ShopSound.catalogStep {state : ShopState}
    {organizers : OrganizerState} (sound : ShopSound state)
    (safe : EachSafe perform OwnersStay
      (fun input => Allows input.organizerId) TablesSound organizers)
    (owners : OwnersStay state.catalog organizers.stores)
    (rows : RowsStay state.catalog organizers.stores) :
    ShopSound { state with organizers := organizers } where
  organizers := safe
  priced := fun priced member =>
    (sound.priced priced member).later owners rows
  orders := fun orderId order found line member =>
    (sound.orders orderId order found line member).later rows
  users := sound.users

/-- What a step of the organizers' requests does to the rows. -/
theorem rowsStay_step {before next : OrganizerState}
    {action : OrganizerAction}
    (stepped : organizerServer.step before action = some next) :
    RowsStay before.stores next.stores := by
  rcases stores_cases stepped with
    ⟨event, _, same⟩ | ⟨input, command, _, same⟩ | ⟨_, _, same⟩
  · rw [same]
    exact rowsStay_outside event before.stores
  · rw [same]
    exact rowsStay_perform command before.stores
  · rw [same]
    exact .refl _

/-- A seat of the event has a ticket type of the event. -/
theorem sound_of_readPrice {state : ShopState} {eventId : EventId}
    {seatId : SeatId} {priced : PricedSeat}
    (seatsOwn : SeatsReferOwn state.catalog)
    (read : state.readPrice eventId seatId = some priced) :
    priced.Sound state.catalog := by
  obtain ⟨seat, isOwn, typed⟩ := Option.bind_eq_some_iff.mp read
  obtain ⟨ticketTypeId, refers, rfl⟩ := Option.map_eq_some_iff.mp typed
  obtain ⟨found, ofEvent⟩ := Option.filter_eq_some_iff.mp isOwn
  have own := seatsOwn _ (Table.find?_eq_some.mp found) ticketTypeId refers
  rw [Events.Db.OfEvent] at own
  obtain ⟨row, foundRow, sameEvent⟩ := Option.map_eq_some_iff.mp own
  have only := onlyOf_of_find? foundRow
  rw [sameEvent, of_decide_eq_true ofEvent] at only
  exact ⟨⟨seat, found, of_decide_eq_true ofEvent⟩, only⟩

/-- Only the column of the items changes. -/
theorem withItems_eq (db : Events.Db) (lines : List OrderLine) :
    ShopState.withItems db lines =
      { db with
        orderItems := db.orderItems ++
          (lines.map fun line => line.ticketTypeId).filter fun named =>
            (db.ticketTypes.find? named).isSome } := by
  induction lines generalizing db with
  | nil => simp [ShopState.withItems]
  | cons line rest inductionHypothesis =>
      have first : ShopState.withItems db (line :: rest) =
          ShopState.withItems
            ((Outside.ordered line.ticketTypeId).apply db) rest := rfl
      rw [first, inductionHypothesis, Outside.apply]
      split
      · next known => simp [known]
      · next unknown => simp [unknown]

/-- The items come in one after the other. -/
theorem eachSafe_withItems {organizers : OrganizerState}
    (safe : EachSafe perform OwnersStay
      (fun input => Allows input.organizerId) TablesSound organizers)
    (lines : List OrderLine) :
    EachSafe perform OwnersStay (fun input => Allows input.organizerId)
      TablesSound
      { organizers with
        stores := ShopState.withItems organizers.stores lines } := by
  induction lines generalizing organizers with
  | nil => exact safe
  | cons line rest inductionHypothesis =>
      have stepped : organizerServer.step organizers
          (.external (.ordered line.ticketTypeId)) =
            some { organizers with
              stores :=
                (Outside.ordered line.ticketTypeId).apply
                  organizers.stores } := rfl
      exact inductionHypothesis (safe.step organizers_cooperate stepped)

/-- An item that is accepted refers to rows of the event. -/
theorem refersTo_of_accepts {state : ShopState} {order : NewOrder}
    (sound : ShopSound state) (accepted : state.accepts order = true)
    {line : OrderLine} (member : line ∈ order.orderItems) :
    line.RefersTo (ShopState.withItems state.catalog order.orderItems)
      order.eventId := by
  have lines := (Bool.and_eq_true_iff.mp accepted).2
  obtain ⟨known, isPriced⟩ :=
    Bool.and_eq_true_iff.mp (List.all_eq_true.mp lines line member)
  obtain ⟨seatId, isSeat, logged⟩ := (Option.any_eq_true _ _).mp isPriced
  have priced := sound.priced _ (of_decide_eq_true logged)
  obtain ⟨row, found⟩ := Option.isSome_iff_exists.mp known
  rw [withItems_eq]
  refine ⟨?_, ⟨row, found, priced.ticketType.2 row found⟩, ?_⟩
  · refine List.mem_append_right _ (List.mem_filter.mpr ⟨?_, known⟩)
    exact List.mem_map_of_mem (f := fun line : OrderLine =>
      line.ticketTypeId) member
  · intro other isOther
    rw [isSeat] at isOther
    cases isOther
    exact priced.seat

private theorem rowsStay_withItems (db : Events.Db) (lines : List OrderLine) :
    RowsStay db (ShopState.withItems db lines) := by
  rw [withItems_eq]
  refine ⟨fun _ seat found => ⟨seat, found, rfl⟩, ?_,
    fun _ _ row found => ⟨row, found, rfl⟩⟩
  intro ticketTypeId member
  exact List.mem_append_left _ member

theorem ShopSound.withOrder {state : ShopState} {order : NewOrder}
    (sound : ShopSound state) (accepted : state.accepts order = true) :
    ShopSound (state.withOrder order) where
  organizers := eachSafe_withItems sound.organizers order.orderItems
  priced := by
    intro priced member
    refine (sound.priced priced member).later ?_ (rowsStay_withItems _ _)
    rw [ShopState.catalog, ShopState.withOrder, withItems_eq]
    exact .same rfl rfl rfl
  orders := by
    intro orderId row found line member
    have inserted : (orderId, row) ∈
        (state.sales.orders.insert order.toRow).rows :=
      Table.find?_eq_some.mp found
    rcases Table.mem_insert.mp inserted with old | ⟨_, rfl⟩
    · have refers := sound.orders orderId row (Table.find?_eq_some.mpr old)
        line member
      exact refers.later (rowsStay_withItems _ _)
    · exact refersTo_of_accepts sound accepted member
  users := by
    intro orderId row found
    have inserted : (orderId, row) ∈
        (state.sales.orders.insert order.toRow).rows :=
      Table.find?_eq_some.mp found
    rcases Table.mem_insert.mp inserted with old | ⟨_, rfl⟩
    · exact sound.users orderId row (Table.find?_eq_some.mpr old)
    · have keys := (Bool.and_eq_true_iff.mp accepted).1
      exact Option.isSome_iff_exists.mp (Bool.and_eq_true_iff.mp keys).1

/-- The order is settled, and nothing that it refers to changes. -/
theorem exists_unsettled {orders : Table OrderRow} {orderId other : OrderId}
    {status : Booking.OrderStatus} {tickets : List Ticket}
    {payment : Option PaymentTransaction} {row : OrderRow}
    (found : (orders.modify orderId
      (OrderRow.settle status tickets payment)).find? other = some row) :
    ∃ before, orders.find? other = some before ∧
      row.userId = before.userId ∧ row.eventId = before.eventId ∧
      row.orderItems = before.orderItems := by
  rw [Table.find?_modify] at found
  obtain ⟨before, foundBefore, isRow⟩ := Option.map_eq_some_iff.mp found
  refine ⟨before, foundBefore, ?_⟩
  split at isRow
  · cases isRow
    exact ⟨rfl, rfl, rfl⟩
  · cases isRow
    exact ⟨rfl, rfl, rfl⟩

private theorem shopSound_init : ShopSound .init where
  organizers := ⟨tablesSound_empty, by
    intro call member
    cases member⟩
  priced := by
    intro priced member
    cases member
  orders := by
    intro orderId order found
    cases found
  users := by
    intro orderId order found
    cases found

theorem ShopSound.step {state next : ShopState} {action : ShopAction}
    (sound : ShopSound state) (stepped : shopStep state action = some next) :
    ShopSound next := by
  cases action with
  | organizers action =>
      obtain ⟨organizers, taken, rfl⟩ := Option.map_eq_some_iff.mp stepped
      exact sound.catalogStep
        (sound.organizers.step organizers_cooperate taken)
        (sound.organizers.stores_step organizers_cooperate taken).2
        (rowsStay_step taken)
  | join user =>
      cases stepped
      refine ⟨sound.organizers, sound.priced, sound.orders, ?_⟩
      intro orderId order found
      obtain ⟨customer, known⟩ := sound.users orderId order found
      exact ⟨customer, Table.find?_insert known user⟩
  | edit userId user =>
      cases stepped
      refine ⟨sound.organizers, sound.priced, sound.orders, ?_⟩
      intro orderId order found
      obtain ⟨customer, known⟩ := sound.users orderId order found
      rw [Table.find?_modify, known]
      exact ⟨_, rfl⟩
  | price eventId seatId =>
      obtain ⟨priced, read, rfl⟩ := Option.map_eq_some_iff.mp stepped
      refine ⟨sound.organizers, ?_, sound.orders, sound.users⟩
      intro other member
      rcases List.mem_cons.mp member with rfl | old
      · exact sound_of_readPrice sound.organizers.stores.seats read
      · exact sound.priced other old
  | order order =>
      rw [shopStep] at stepped
      split at stepped
      · next accepted =>
          cases stepped
          exact sound.withOrder accepted
      · cases stepped
  | settle orderId status tickets payment =>
      cases stepped
      refine ⟨sound.organizers, sound.priced, ?_, ?_⟩
      · intro other row found line member
        obtain ⟨before, foundBefore, _, sameEvent, sameItems⟩ :=
          exists_unsettled found
        rw [sameItems] at member
        rw [sameEvent]
        exact sound.orders other before foundBefore line member
      · intro other row found
        obtain ⟨before, foundBefore, sameUser, _⟩ := exists_unsettled found
        rw [sameUser]
        exact sound.users other before foundBefore

theorem shopSound_of_run {history : ShopHistory} {state : ShopState}
    (run : Trace shopStep .init history state) : ShopSound state :=
  run.invariant ShopSound shopSound_init
    fun _ _ _ sound stepped => sound.step stepped

end Invariant

end ConcertTicketing.Listing
