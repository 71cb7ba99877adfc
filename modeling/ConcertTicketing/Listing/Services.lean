import ConcertTicketing.Booking.Stores
import ConcertTicketing.Events.Services
import ConcertTicketing.Library.Paging
import Mathlib.Data.PNat.Basic

/-!
# The paged lists

`EventsService.listPublic` and `OrganizerService.listOrders` over fixed
tables: a filter from the query, `count` and `findMany` with the same `where`,
and `findMany` with `skip`, `take` and one column to sort by.  A query sorts in
some way that this column allows, which is a parameter here.
-/

namespace ConcertTicketing.Listing

open Events Paging

/-- The columns of an `events` row that the list shows. -/
structure EventRecord extends Event where
  createdAt : Instant
  deriving DecidableEq, Repr

/-- The columns of an `orders` row that the list reads, and its items. -/
structure OrderRecord where
  userId : UserId
  eventId : EventId
  status : Booking.OrderStatus
  totalAmount : Cents
  createdAt : Instant
  orderItems : List Booking.OrderItem
  deriving DecidableEq, Repr

structure UserRecord where
  fullName : String
  email : String
  deriving DecidableEq, Repr

structure Db where
  events : Table EventRecord
  organizerProfiles : Table OrganizerProfile
  orders : Table OrderRecord
  users : Table UserRecord

/-- How the database compares texts with `mode: 'insensitive'`. -/
structure Collation where
  contains : (text pattern : String) → Bool
  equals : (text pattern : String) → Bool

/-- `gte` and `lte`. -/
structure DateRange where
  gte : Option Instant
  lte : Option Instant
  deriving DecidableEq, Repr

def DateRange.contains (range : DateRange) (instant : Instant) : Bool :=
  range.gte.all (fun first => decide (first ≤ instant)) &&
    range.lte.all (fun last => decide (instant ≤ last))

/-- `new Date` of a date of the query, in a `where`; Prisma refuses an
`Invalid Date`. -/
def toInstant : Option DateString → Except ServiceError (Option Instant)
  | none => .ok none
  | some none => .error (.prisma .validation)
  | some (some instant) => .ok (some instant)

def toDateRange (dateFrom dateTo : Option DateString) :
    Except ServiceError DateRange := do
  let gte ← toInstant dateFrom
  let lte ← toInstant dateTo
  return ⟨gte, lte⟩

/-- `Math.min(query.limit ?? 20, 100)`. -/
def pageLimit (limit : Option ℕ+) : Nat :=
  min ((limit.map PNat.val).getD 20) 100

/-- `query.page ?? 1`. -/
def pageNumber (page : Option ℕ+) : Nat :=
  (page.map PNat.val).getD 1

theorem pageLimit_pos (limit : Option ℕ+) : 0 < pageLimit limit := by
  cases limit with
  | none => decide
  | some limit => exact lt_min limit.pos (by decide)

/-- `if (text)` on a text of the query. -/
def truthy (text : Option String) : Option String :=
  text.filter fun text => decide (text ≠ "")

/-! ## Events -/

/-- `@IsInt() @Min(1)` on `page` and `limit`. -/
structure EventListQueryDto where
  keyword : Option String
  category : Option String
  dateFrom : Option DateString
  dateTo : Option DateString
  location : Option String
  page : Option ℕ+
  limit : Option ℕ+
  deriving DecidableEq

/-- `where` of `listPublic`. -/
structure EventWhere where
  keyword : Option String
  category : Option String
  location : Option String
  startTime : DateRange
  deriving DecidableEq, Repr

def EventListQueryDto.toWhere (query : EventListQueryDto) :
    Except ServiceError EventWhere := do
  let startTime ← toDateRange query.dateFrom query.dateTo
  return ⟨truthy query.keyword, truthy query.category, truthy query.location,
    startTime⟩

namespace EventWhere

/-- A column that is `NULL` satisfies no condition. -/
def accepts (collation : Collation) (filter : EventWhere)
    (event : EventRecord) : Bool :=
  decide (event.status = .active) &&
    filter.keyword.all (fun keyword =>
      collation.contains event.title keyword ||
        event.description.any (collation.contains · keyword) ||
        event.venue.any (collation.contains · keyword)) &&
    filter.category.all (fun category =>
      event.category.any (collation.equals · category)) &&
    filter.location.all (fun location =>
      event.venue.any (collation.contains · location)) &&
    filter.startTime.contains event.startTime

end EventWhere

structure PublicEvent where
  id : EventId
  title : String
  description : Option String
  category : Option String
  startTime : Instant
  endTime : Instant
  venue : Option String
  bannerUrl : Option String
  status : EventStatus
  maxTicketsPerUser : Int
  createdAt : Instant
  deriving DecidableEq, Repr

def publicEventSelect (entry : EventId × EventRecord) : PublicEvent where
  id := entry.1
  title := entry.2.title
  description := entry.2.description
  category := entry.2.category
  startTime := entry.2.startTime
  endTime := entry.2.endTime
  venue := entry.2.venue
  bannerUrl := entry.2.bannerUrl
  status := entry.2.status
  maxTicketsPerUser := entry.2.maxTicketsPerUser
  createdAt := entry.2.createdAt

/-- `orderBy: { startTime: 'asc' }`. -/
def byStartTime (first second : EventId × EventRecord) : Prop :=
  first.2.startTime ≤ second.2.startTime

/-- The rows of `where`. -/
def Db.matchingEvents (db : Db) (collation : Collation) (filter : EventWhere) :
    List (EventId × EventRecord) :=
  db.events.select (filter.accepts collation)

/-- `EventsService.listPublic`. -/
def listPublic (collation : Collation) (db : Db)
    (sorting : Sorting byStartTime) (query : EventListQueryDto) :
    Except ServiceError (Page PublicEvent) := do
  let page := pageNumber query.page
  let limit := pageLimit query.limit
  let skip := (page - 1) * limit
  let filter ← query.toWhere
  let rows := db.matchingEvents collation filter
  let items := window skip limit (sorting.sort rows)
  return ⟨rows.length, page, limit, items.map publicEventSelect⟩

/-! ## Orders -/

structure OrderListQueryDto where
  status : Option Booking.OrderStatus
  dateFrom : Option DateString
  dateTo : Option DateString
  ticketTypeId : Option TicketTypeId
  page : Option ℕ+
  limit : Option ℕ+
  deriving DecidableEq

/-- `where` of `listOrders`. -/
structure OrderWhere where
  eventId : EventId
  status : Option Booking.OrderStatus
  createdAt : DateRange
  ticketTypeId : Option TicketTypeId
  deriving DecidableEq, Repr

def OrderListQueryDto.toWhere (query : OrderListQueryDto) (eventId : EventId) :
    Except ServiceError OrderWhere := do
  let createdAt ← toDateRange query.dateFrom query.dateTo
  return ⟨eventId, query.status, createdAt, query.ticketTypeId⟩

namespace OrderWhere

def accepts (filter : OrderWhere) (order : OrderRecord) : Bool :=
  decide (order.eventId = filter.eventId) &&
    filter.status.all (fun status => decide (order.status = status)) &&
    filter.createdAt.contains order.createdAt &&
    filter.ticketTypeId.all (fun ticketTypeId =>
      order.orderItems.any fun item =>
        decide (item.ticketTypeId = ticketTypeId))

end OrderWhere

structure Buyer where
  id : UserId
  fullName : String
  email : String
  deriving DecidableEq, Repr

structure ListedOrder where
  id : OrderId
  status : Booking.OrderStatus
  totalAmount : Cents
  createdAt : Instant
  user : Option Buyer
  deriving DecidableEq, Repr

def Db.orderSelect (db : Db) (entry : OrderId × OrderRecord) :
    ListedOrder where
  id := entry.1
  status := entry.2.status
  totalAmount := entry.2.totalAmount
  createdAt := entry.2.createdAt
  user := (db.users.find? entry.2.userId).map fun user =>
    ⟨entry.2.userId, user.fullName, user.email⟩

/-- `orderBy: { createdAt: 'desc' }`. -/
def byCreatedAtDesc (first second : OrderId × OrderRecord) : Prop :=
  second.2.createdAt ≤ first.2.createdAt

def Db.matchingOrders (db : Db) (filter : OrderWhere) :
    List (OrderId × OrderRecord) :=
  db.orders.select filter.accepts

/-- `OrganizerService.getOwnedProfile`. -/
def getOwnedProfile (db : Db) (userId : UserId) :
    Except ServiceError OrganizerId :=
  match db.organizerProfiles.rows.find? fun entry =>
      decide (entry.2.userId = userId) with
  | none => .error (.forbidden "Bạn chưa có hồ sơ nhà tổ chức")
  | some (profileId, _) => .ok profileId

/-- `OrganizerService.assertEventOwner`. -/
def assertEventOwner (db : Db) (profileId : OrganizerId) (eventId : EventId) :
    Except ServiceError EventRecord :=
  match (db.events.find? eventId).filter fun event =>
      decide (event.organizerId = profileId) with
  | none => .error (.notFound "Sự kiện không tồn tại")
  | some event => .ok event

/-- `OrganizerService.listOrders`. -/
def listOrders (db : Db) (sorting : Sorting byCreatedAtDesc)
    (organizerId : UserId) (eventId : EventId) (query : OrderListQueryDto) :
    Except ServiceError (Page ListedOrder) := do
  let profileId ← getOwnedProfile db organizerId
  let _ ← assertEventOwner db profileId eventId
  let page := pageNumber query.page
  let limit := pageLimit query.limit
  let skip := (page - 1) * limit
  let filter ← query.toWhere eventId
  let rows := db.matchingOrders filter
  let items := window skip limit (sorting.sort rows)
  return ⟨rows.length, page, limit, items.map db.orderSelect⟩

end ConcertTicketing.Listing
