import ConcertTicketing.Events.SeatingOrder
import ConcertTicketing.Listing.Services

/-!
# The reads of visitors and organizers

`EventsService.listPublic` and `getPublicDetail`, `SeatsService.getLayout`,
and `OrganizerService.listOrders`, `getOrder` and `getStats`, each as the
sequence of its Prisma queries.  The queries of a read are answered one after
the other, and the tables can change in between.  How the database sorts what
the columns leave level, how it compares texts and which creation times it has
given to events are parameters, and so is the arithmetic of numbers.
-/

namespace ConcertTicketing.Listing

open Events Paging

abbrev OrderItemId := Nat
abbrev TicketId := Nat

structure UserRow extends UserRecord where
  phone : Option String
  deriving DecidableEq, Repr

structure OrderLine extends Booking.OrderItem where
  id : OrderItemId
  quantity : Int
  deriving DecidableEq, Repr

inductive TicketStatus where
  | issued
  | used
  | cancelled
  deriving DecidableEq, Repr

structure Ticket where
  id : TicketId
  qrCode : String
  status : TicketStatus
  issuedAt : Instant
  deriving DecidableEq, Repr

inductive PaymentStatus where
  | pending
  | success
  | failed
  | refunded
  deriving DecidableEq, Repr

structure PaymentTransaction where
  status : PaymentStatus
  gateway : String
  gatewayTxId : Option String
  processedAt : Option Instant
  deriving DecidableEq, Repr

/-- An `orders` row with the rows of the other tables that belong to it. -/
structure OrderRow where
  userId : UserId
  eventId : EventId
  status : Booking.OrderStatus
  totalAmount : Cents
  createdAt : Instant
  expiresAt : Instant
  orderItems : List OrderLine
  tickets : List Ticket
  paymentTransaction : Option PaymentTransaction
  deriving DecidableEq, Repr

def OrderRow.record (order : OrderRow) : OrderRecord where
  userId := order.userId
  eventId := order.eventId
  status := order.status
  totalAmount := order.totalAmount
  createdAt := order.createdAt
  orderItems := order.orderItems.map OrderLine.toOrderItem

structure Sales where
  users : Table UserRow
  orders : Table OrderRow

/-- The tables of the organizers' services, and those of the sales. -/
structure Shop where
  catalog : Events.Db
  sales : Sales

/-- What the answers take from the database beside the tables.  The last
three are for queries without `ORDER BY`, which may give equal rows in one
order and rows of which one has been rewritten in another. -/
structure Reader where
  collation : Collation
  createdAt : EventId → Instant
  byStartTime : Sorting byStartTime
  byCreatedAtDesc : Sorting byCreatedAtDesc
  bySeat : Sorting Events.Db.seatOrder
  ticketTypeRows : RowOrder (TicketTypeId × TicketType)
  zoneRows : RowOrder (ZoneId × Zone)
  orderRows : RowOrder (OrderId × OrderRecord)

/-- The numbers of JavaScript: `Number` of an amount, and their addition. -/
structure Numbers (ν : Type) where
  zero : ν
  add : ν → ν → ν
  ofAmount : Cents → ν

def Reader.eventRecord (reader : Reader) (eventId : EventId)
    (event : Event) : EventRecord :=
  { event with createdAt := reader.createdAt eventId }

def Reader.listing (reader : Reader) (shop : Shop) : Db where
  events := shop.catalog.events.view reader.eventRecord
  organizerProfiles := shop.catalog.organizerProfiles
  orders := shop.sales.orders.view fun _ => OrderRow.record
  users := shop.sales.users.view fun _ => UserRow.toUserRecord

structure PublicTicketType where
  id : TicketTypeId
  name : String
  price : Cents
  quantity : Int
  sold : Int
  saleStartTime : Instant
  saleEndTime : Instant
  description : Option String
  deriving DecidableEq, Repr

def publicTicketType (entry : TicketTypeId × TicketType) :
    PublicTicketType where
  id := entry.1
  name := entry.2.name
  price := entry.2.price
  quantity := entry.2.quantity
  sold := entry.2.sold
  saleStartTime := entry.2.saleStartTime
  saleEndTime := entry.2.saleEndTime
  description := entry.2.description

structure PublicZone where
  id : ZoneId
  name : String
  capacity : Int
  deriving DecidableEq, Repr

def publicZone (entry : ZoneId × Zone) : PublicZone :=
  ⟨entry.1, entry.2.name, entry.2.capacity⟩

structure PublicDetail extends PublicEvent where
  ticketTypes : List PublicTicketType
  zones : List PublicZone
  deriving DecidableEq, Repr

structure Customer where
  id : UserId
  fullName : String
  email : String
  phone : Option String
  deriving DecidableEq, Repr

structure NamedTicketType where
  id : TicketTypeId
  name : String
  deriving DecidableEq, Repr

structure LabelledSeat where
  id : SeatId
  label : Text
  deriving DecidableEq, Repr

structure ShownItem where
  id : OrderItemId
  quantity : Int
  unitPrice : Cents
  ticketType : Option NamedTicketType
  seat : Option LabelledSeat
  deriving DecidableEq, Repr

/-- The foreign keys of the order lead to a user and to ticket types. -/
structure ShownOrder where
  id : OrderId
  status : Booking.OrderStatus
  totalAmount : Cents
  createdAt : Instant
  expiresAt : Instant
  user : Option Customer
  orderItems : List ShownItem
  tickets : List Ticket
  paymentTransaction : Option PaymentTransaction
  deriving DecidableEq, Repr

structure PaidOrder where
  totalAmount : Cents
  createdAt : Instant
  deriving DecidableEq, Repr

structure SoldTicketType where
  id : TicketTypeId
  name : String
  quantity : Int
  sold : Int
  price : Cents
  deriving DecidableEq, Repr

/-- A group of `seat.groupBy`. -/
structure SeatGroup where
  status : SeatStatus
  count : Nat
  deriving DecidableEq, Repr

namespace Shop

/-- `orders` of an event. -/
def ordersOf (shop : Shop) (eventId : EventId) : List (OrderId × OrderRow) :=
  shop.sales.orders.select fun order => decide (order.eventId = eventId)

def customer (shop : Shop) (userId : UserId) : Option Customer :=
  (shop.sales.users.find? userId).map fun user =>
    ⟨userId, user.fullName, user.email, user.phone⟩

def namedTicketType (shop : Shop) (ticketTypeId : TicketTypeId) :
    Option NamedTicketType :=
  (shop.catalog.ticketTypes.find? ticketTypeId).map fun ticketType =>
    ⟨ticketTypeId, ticketType.name⟩

def labelledSeat (shop : Shop) (seatId : SeatId) : Option LabelledSeat :=
  (shop.catalog.seats.find? seatId).map fun seat => ⟨seatId, seat.label⟩

def shownItem (shop : Shop) (line : OrderLine) : ShownItem where
  id := line.id
  quantity := line.quantity
  unitPrice := line.unitPrice
  ticketType := shop.namedTicketType line.ticketTypeId
  seat := line.seatId.bind shop.labelledSeat

def shownOrder (shop : Shop) (orderId : OrderId) (order : OrderRow) :
    ShownOrder where
  id := orderId
  status := order.status
  totalAmount := order.totalAmount
  createdAt := order.createdAt
  expiresAt := order.expiresAt
  user := shop.customer order.userId
  orderItems := order.orderItems.map shop.shownItem
  tickets := order.tickets
  paymentTransaction := order.paymentTransaction

/-- `order.findFirst({ where: { id, event: { organizerId } } })`. -/
def findOrder (shop : Shop) (orderId : OrderId) (organizerId : OrganizerId) :
    Option ShownOrder :=
  ((shop.sales.orders.find? orderId).filter fun order =>
    (shop.catalog.findEvent order.eventId organizerId).isSome).map
      (shop.shownOrder orderId)

end Shop

def paidOrder (entry : OrderId × OrderRecord) : PaidOrder :=
  ⟨entry.2.totalAmount, entry.2.createdAt⟩

def soldTicketType (entry : TicketTypeId × TicketType) : SoldTicketType where
  id := entry.1
  name := entry.2.name
  quantity := entry.2.quantity
  sold := entry.2.sold
  price := entry.2.price

/-- `groupBy({ by: ['status'], _count: { status: true } })` has no group
without a seat. -/
def seatGroups (seats : List (SeatId × SeatRow)) : List SeatGroup :=
  [SeatStatus.available, SeatStatus.locked, SeatStatus.sold].filterMap
    fun status =>
      let count := seats.countP fun entry => decide (entry.2.status = status)
      if count = 0 then none else some ⟨status, count⟩

/-! ## Queries -/

/-- The queries of Prisma, each with what its `where` depends on. -/
inductive Query where
  | countEvents (filter : EventWhere)
  | findEvents (filter : EventWhere) (skip take : Nat)
  | findPublicDetail (eventId : EventId)
  | findTicketModel (eventId : EventId)
  | findSeats (eventId : EventId)
  | findZones (eventId : EventId)
  | findProfile (userId : UserId)
  | findEvent (eventId : EventId) (organizerId : OrganizerId)
  | countOrders (filter : OrderWhere)
  | findOrders (filter : OrderWhere) (skip take : Nat)
  | findOrder (orderId : OrderId) (organizerId : OrganizerId)
  | findAmounts (filter : OrderWhere)
  | findTicketTypes (eventId : EventId)
  | groupSeats (eventId : EventId)
  deriving DecidableEq, Repr

abbrev Answer : Query → Type
  | .countEvents _ => Nat
  | .findEvents _ _ _ => List PublicEvent
  | .findPublicDetail _ => Option PublicDetail
  | .findTicketModel _ => Option (Option TicketModelType)
  | .findSeats _ => List (SeatId × SeatRow)
  | .findZones _ => List (ZoneId × Zone)
  | .findProfile _ => Option OrganizerId
  | .findEvent _ _ => Option Event
  | .countOrders _ => Nat
  | .findOrders _ _ _ => List ListedOrder
  | .findOrder _ _ => Option ShownOrder
  | .findAmounts _ => List PaidOrder
  | .findTicketTypes _ => List SoldTicketType
  | .groupSeats _ => List SeatGroup

namespace Reader

variable (reader : Reader)

/-- `event.findFirst` of `getPublicDetail`. -/
def publicDetail (shop : Shop) (eventId : EventId) : Option PublicDetail :=
  (((reader.listing shop).events.find? eventId).filter fun event =>
    decide (event.status = .active)).map fun event =>
      { publicEventSelect (eventId, event) with
        ticketTypes := (reader.ticketTypeRows.sort
          ((shop.catalog.ticketTypesOf eventId).filter
            fun entry => !entry.2.isHidden)).map publicTicketType
        zones := (reader.zoneRows.sort (shop.catalog.zonesOf eventId)).map
          publicZone }

def ask : (query : Query) → Shop → Answer query
  | .countEvents filter, shop =>
      ((reader.listing shop).matchingEvents reader.collation filter).length
  | .findEvents filter skip take, shop =>
      (window skip take (reader.byStartTime.sort
        ((reader.listing shop).matchingEvents reader.collation
          filter))).map publicEventSelect
  | .findPublicDetail eventId, shop => reader.publicDetail shop eventId
  | .findTicketModel eventId, shop =>
      (shop.catalog.events.find? eventId).map Event.ticketModel
  | .findSeats eventId, shop =>
      reader.bySeat.sort (shop.catalog.seatRowsOf eventId)
  | .findZones eventId, shop =>
      reader.zoneRows.sort (shop.catalog.zonesOf eventId)
  | .findProfile userId, shop => shop.catalog.profileOf userId
  | .findEvent eventId organizerId, shop =>
      shop.catalog.findEvent eventId organizerId
  | .countOrders filter, shop =>
      ((reader.listing shop).matchingOrders filter).length
  | .findOrders filter skip take, shop =>
      (window skip take (reader.byCreatedAtDesc.sort
        ((reader.listing shop).matchingOrders filter))).map
          (reader.listing shop).orderSelect
  | .findOrder orderId organizerId, shop => shop.findOrder orderId organizerId
  | .findAmounts filter, shop =>
      (reader.orderRows.sort
        ((reader.listing shop).matchingOrders filter)).map paidOrder
  | .findTicketTypes eventId, shop =>
      (reader.ticketTypeRows.sort (shop.catalog.ticketTypesOf eventId)).map
        soldTicketType
  | .groupSeats eventId, shop => seatGroups (shop.catalog.seatRowsOf eventId)

end Reader

/-! ## The services -/

abbrev Read (α : Type) := Program Query Answer ServiceError α

def query (query : Query) : Read (Answer query) := Program.call query

namespace EventsService

def listPublic (query : EventListQueryDto) : Read (Page PublicEvent) := do
  let page := pageNumber query.page
  let limit := pageLimit query.limit
  let skip := (page - 1) * limit
  let filter ← Program.ofExcept query.toWhere
  let total ← Listing.query (.countEvents filter)
  let items ← Listing.query (.findEvents filter skip limit)
  return ⟨total, page, limit, items⟩

def getPublicDetail (eventId : EventId) : Read PublicDetail := do
  match ← query (.findPublicDetail eventId) with
  | none =>
      .throw (.notFound "Sự kiện không tồn tại hoặc chưa được công khai")
  | some event => return event

end EventsService

namespace SeatsService

def getLayout (eventId : EventId) : Read Layout := do
  match ← query (.findTicketModel eventId) with
  | none => .throw (.notFound "Sự kiện không tồn tại")
  | some (some .seatMap) => return .seatMap (← query (.findSeats eventId))
  | some (some .zone) => return .zones (← query (.findZones eventId))
  | some none => return .blank

end SeatsService

structure Stats (ν : Type) where
  totalOrders : Nat
  paidOrders : Nat
  revenue : ν
  ticketTypes : List SoldTicketType
  seatCounts : List SeatGroup
  deriving DecidableEq, Repr

namespace OrganizerService

def getOwnedProfile (userId : UserId) : Read OrganizerId := do
  match ← query (.findProfile userId) with
  | none => .throw (.forbidden "Bạn chưa có hồ sơ nhà tổ chức")
  | some profile => return profile

def assertEventOwner (profileId : OrganizerId) (eventId : EventId) :
    Read Event := do
  match ← query (.findEvent eventId profileId) with
  | none => .throw (.notFound "Sự kiện không tồn tại")
  | some event => return event

def listOrders (organizerId : UserId) (eventId : EventId)
    (query : OrderListQueryDto) : Read (Page ListedOrder) := do
  let profileId ← getOwnedProfile organizerId
  let _ ← assertEventOwner profileId eventId
  let page := pageNumber query.page
  let limit := pageLimit query.limit
  let skip := (page - 1) * limit
  let filter ← Program.ofExcept (query.toWhere eventId)
  let total ← Listing.query (.countOrders filter)
  let items ← Listing.query (.findOrders filter skip limit)
  return ⟨total, page, limit, items⟩

def getOrder (organizerId : UserId) (orderId : OrderId) :
    Read ShownOrder := do
  let profileId ← getOwnedProfile organizerId
  match ← query (.findOrder orderId profileId) with
  | none => .throw (.notFound "Đơn hàng không tồn tại")
  | some order => return order

/-- `where: { eventId }`. -/
def ofEvent (eventId : EventId) : OrderWhere :=
  ⟨eventId, none, ⟨none, none⟩, none⟩

/-- `where: { eventId, status: OrderStatus.PAID }`. -/
def paidOf (eventId : EventId) : OrderWhere :=
  ⟨eventId, some .paid, ⟨none, none⟩, none⟩

/-- `paidOrders.reduce`. -/
def revenue {ν : Type} (numbers : Numbers ν) (orders : List PaidOrder) : ν :=
  orders.foldl
    (fun sum order => numbers.add sum (numbers.ofAmount order.totalAmount))
    numbers.zero

def getStats {ν : Type} (numbers : Numbers ν) (organizerId : UserId)
    (eventId : EventId) : Read (Stats ν) := do
  let profileId ← getOwnedProfile organizerId
  let _ ← assertEventOwner profileId eventId
  let totalOrders ← query (.countOrders (ofEvent eventId))
  let paidOrders ← query (.findAmounts (paidOf eventId))
  let ticketTypes ← query (.findTicketTypes eventId)
  let seats ← query (.groupSeats eventId)
  return ⟨totalOrders, paidOrders.length, revenue numbers paidOrders,
    ticketTypes, seats⟩

end OrganizerService

end ConcertTicketing.Listing
