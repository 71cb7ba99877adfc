import ConcertTicketing.Domain
import ConcertTicketing.Library.Program
import ConcertTicketing.Library.Table
import ConcertTicketing.Library.Text
import Mathlib.Algebra.Ring.Int.Defs
import Mathlib.Data.Char
import Mathlib.Data.List.Lex
import Mathlib.Data.List.Sort

/-!
# The tables of events, ticket types and layouts

The rows that the organizers' services read and write, the Prisma calls of
these services, and what each call does to the tables, the foreign keys of the
migrations included: `seats` and `zones` lose their `ticketTypeId` with the
ticket type (`SET NULL`), an `order_items` row keeps its ticket type alive
(`RESTRICT`).

A call of Prisma either goes through or leaves the tables as they are, and so
does a transaction.
-/

namespace ConcertTicketing.Events

abbrev OrganizerId := Nat
abbrev ZoneId := Nat

inductive EventStatus where
  | draft
  | pendingApproval
  | approved
  | rejected
  | active
  | locked
  | cancelled
  | ended
  deriving DecidableEq, Repr

def EventStatus.name : EventStatus → String
  | .draft => "DRAFT"
  | .pendingApproval => "PENDING_APPROVAL"
  | .approved => "APPROVED"
  | .rejected => "REJECTED"
  | .active => "ACTIVE"
  | .locked => "LOCKED"
  | .cancelled => "CANCELLED"
  | .ended => "ENDED"

inductive TicketModelType where
  | seatMap
  | zone
  deriving DecidableEq, Repr

inductive SeatStatus where
  | available
  | locked
  | sold
  deriving DecidableEq, Repr

structure OrganizerProfile where
  userId : UserId
  deriving DecidableEq, Repr

structure Event where
  organizerId : OrganizerId
  title : String
  description : Option String
  category : Option String
  startTime : Instant
  endTime : Instant
  venue : Option String
  bannerUrl : Option String
  status : EventStatus
  ticketModel : Option TicketModelType
  maxTicketsPerUser : Int
  deriving DecidableEq, Repr

structure TicketType where
  eventId : EventId
  name : String
  price : Cents
  quantity : Int
  sold : Int
  saleStartTime : Instant
  saleEndTime : Instant
  description : Option String
  isHidden : Bool
  deriving DecidableEq, Repr

structure SeatRow where
  eventId : EventId
  ticketTypeId : Option TicketTypeId
  row : Text
  number : Text
  label : Text
  status : SeatStatus
  deriving DecidableEq, Repr

structure Zone where
  eventId : EventId
  name : String
  capacity : Int
  ticketTypeId : Option TicketTypeId
  deriving DecidableEq, Repr

structure AuditLog where
  userId : UserId
  action : String
  resource : String
  resourceId : EventId
  deriving DecidableEq, Repr

/-- The tables; of `order_items` only the column `ticketTypeId`. -/
structure Db where
  organizerProfiles : Table OrganizerProfile
  events : Table Event
  ticketTypes : Table TicketType
  seats : Table SeatRow
  zones : Table Zone
  orderItems : List TicketTypeId
  auditLogs : List AuditLog

def Db.empty : Db :=
  ⟨.empty, .empty, .empty, .empty, .empty, [], []⟩

/-! ## The data of a write -/

/-- A member of an object: missing, `null` or a value. -/
inductive Member (α : Type) where
  | undefined
  | null
  | value (content : α)
  deriving DecidableEq, Repr

namespace Member

variable {α : Type}

/-- A column that takes no `NULL` accepts the member. -/
def accepts (check : α → Bool) : Member α → Bool
  | .undefined => true
  | .null => false
  | .value content => check content

/-- The column after the write, when it takes no `NULL`. -/
def writeOver (member : Member α) (column : α) : α :=
  match member with
  | .value content => content
  | _ => column

/-- The column after the write, when it takes `NULL`. -/
def overNullable (member : Member α) (column : Option α) : Option α :=
  match member with
  | .undefined => column
  | .null => none
  | .value content => some content

end Member

/-- What `new Date` makes of a string; `none` is an `Invalid Date`. -/
abbrev DateString := Option Instant

/-- `new Date` of a member that is not `undefined`; that of `null` is the
start of 1970. -/
def newDate : Member DateString → Member DateString
  | .undefined => .undefined
  | .null => .value (some 0)
  | .value date => .value date

def overDate (member : Member DateString) (column : Instant) : Instant :=
  match member with
  | .value (some date) => date
  | _ => column

/-- The integers of an `INTEGER` column. -/
def isInt32 (number : Int) : Bool :=
  decide (-2 ^ 31 ≤ number ∧ number < 2 ^ 31)

/-- The amounts of a `DECIMAL(10,2)` column. -/
def isDecimal (amount : Cents) : Bool :=
  decide (-10 ^ 10 < amount ∧ amount < 10 ^ 10)

structure EventCreateInput where
  organizerId : OrganizerId
  title : String
  description : Option String
  category : Option String
  startTime : DateString
  endTime : DateString
  venue : Option String
  bannerUrl : Option String
  maxTicketsPerUser : Int
  status : EventStatus
  deriving DecidableEq, Repr

structure EventUpdateInput where
  title : Member String := .undefined
  description : Member String := .undefined
  category : Member String := .undefined
  startTime : Member DateString := .undefined
  endTime : Member DateString := .undefined
  venue : Member String := .undefined
  bannerUrl : Member String := .undefined
  maxTicketsPerUser : Member Int := .undefined
  status : Member EventStatus := .undefined
  ticketModel : Member TicketModelType := .undefined
  deriving DecidableEq, Repr

namespace EventUpdateInput

def isAccepted (data : EventUpdateInput) : Bool :=
  data.title.accepts (fun _ => true) && data.startTime.accepts Option.isSome &&
    data.endTime.accepts Option.isSome &&
    data.maxTicketsPerUser.accepts isInt32 &&
    data.status.accepts fun _ => true

def writeOver (data : EventUpdateInput) (event : Event) : Event where
  organizerId := event.organizerId
  title := data.title.writeOver event.title
  description := data.description.overNullable event.description
  category := data.category.overNullable event.category
  startTime := overDate data.startTime event.startTime
  endTime := overDate data.endTime event.endTime
  venue := data.venue.overNullable event.venue
  bannerUrl := data.bannerUrl.overNullable event.bannerUrl
  status := data.status.writeOver event.status
  ticketModel := data.ticketModel.overNullable event.ticketModel
  maxTicketsPerUser := data.maxTicketsPerUser.writeOver event.maxTicketsPerUser

end EventUpdateInput

structure TicketTypeCreateInput where
  eventId : EventId
  name : String
  price : Cents
  quantity : Int
  saleStartTime : DateString
  saleEndTime : DateString
  description : Option String
  deriving DecidableEq, Repr

structure TicketTypeUpdateInput where
  name : Member String := .undefined
  price : Member Cents := .undefined
  quantity : Member Int := .undefined
  saleStartTime : Member DateString := .undefined
  saleEndTime : Member DateString := .undefined
  description : Member String := .undefined
  isHidden : Member Bool := .undefined
  deriving DecidableEq, Repr

namespace TicketTypeUpdateInput

def isAccepted (data : TicketTypeUpdateInput) : Bool :=
  data.name.accepts (fun _ => true) && data.price.accepts isDecimal &&
    data.quantity.accepts isInt32 &&
    data.saleStartTime.accepts Option.isSome &&
    data.saleEndTime.accepts Option.isSome &&
    data.isHidden.accepts fun _ => true

def writeOver (data : TicketTypeUpdateInput) (ticketType : TicketType) :
    TicketType where
  eventId := ticketType.eventId
  name := data.name.writeOver ticketType.name
  price := data.price.writeOver ticketType.price
  quantity := data.quantity.writeOver ticketType.quantity
  sold := ticketType.sold
  saleStartTime := overDate data.saleStartTime ticketType.saleStartTime
  saleEndTime := overDate data.saleEndTime ticketType.saleEndTime
  description := data.description.overNullable ticketType.description
  isHidden := data.isHidden.writeOver ticketType.isHidden

end TicketTypeUpdateInput

/-- `ON DELETE SET NULL` in a seat. -/
def SeatRow.forget (ticketTypeId : TicketTypeId) (seat : SeatRow) : SeatRow :=
  if seat.ticketTypeId = some ticketTypeId then
    { seat with ticketTypeId := none }
  else seat

/-- `ON DELETE SET NULL` in a zone. -/
def Zone.forget (ticketTypeId : TicketTypeId) (zone : Zone) : Zone :=
  if zone.ticketTypeId = some ticketTypeId then
    { zone with ticketTypeId := none }
  else zone

/-! ## Reads -/

namespace Db

/-- `organizerProfile.findUnique({ where: { userId } })`. -/
def profileOf (db : Db) (userId : UserId) : Option OrganizerId :=
  (db.organizerProfiles.rows.find? fun entry =>
    decide (entry.2.userId = userId)).map Prod.fst

/-- `event.findFirst({ where: { id, organizerId } })`. -/
def findEvent (db : Db) (eventId : EventId) (organizerId : OrganizerId) :
    Option Event :=
  (db.events.find? eventId).filter fun event =>
    decide (event.organizerId = organizerId)

/-- `ticketType.findFirst({ where: { id, event: { organizerId } } })`. -/
def findTicketType (db : Db) (ticketTypeId : TicketTypeId)
    (organizerId : OrganizerId) : Option TicketType :=
  (db.ticketTypes.find? ticketTypeId).filter fun ticketType =>
    (db.findEvent ticketType.eventId organizerId).isSome

/-- `ticketType.count({ where: { id: { in: ids }, eventId } })`. -/
def countTicketTypes (db : Db) (ids : List TicketTypeId)
    (eventId : EventId) : Nat :=
  (db.ticketTypes.rows.filter fun entry =>
    decide (entry.1 ∈ ids ∧ entry.2.eventId = eventId)).length

/-- `orderBy: [{ row: 'asc' }, { number: 'asc' }]`. -/
def seatOrder (first second : SeatId × SeatRow) : Prop :=
  first.2.row < second.2.row ∨
    (first.2.row = second.2.row ∧ first.2.number ≤ second.2.number)

instance : DecidableRel seatOrder :=
  fun _ _ => inferInstanceAs (Decidable (_ ∨ _))

def seatsOf (db : Db) (eventId : EventId) : List (SeatId × SeatRow) :=
  (db.seats.select fun seat => decide (seat.eventId = eventId)).insertionSort
    seatOrder

def zonesOf (db : Db) (eventId : EventId) : List (ZoneId × Zone) :=
  db.zones.select fun zone => decide (zone.eventId = eventId)

/-- The foreign keys of a seat or a zone refer to rows. -/
def references (db : Db) (eventId : EventId)
    (ticketTypeId : Option TicketTypeId) : Bool :=
  (db.events.find? eventId).isSome &&
    ticketTypeId.all fun id => (db.ticketTypes.find? id).isSome

end Db

/-! ## Writes -/

inductive PrismaError where
  | validation
  | valueOutOfRange
  | foreignKey
  | recordNotFound
  | unavailable
  deriving DecidableEq, Repr

namespace Db

def withNewEvent (db : Db) (event : Event) : Db :=
  { db with events := db.events.insert event }

def createEvent (db : Db) (data : EventCreateInput) :
    Except PrismaError ((EventId × Event) × Db) :=
  match data.startTime, data.endTime with
  | some startTime, some endTime =>
      if isInt32 data.maxTicketsPerUser then
        let event : Event :=
          { organizerId := data.organizerId
            title := data.title
            description := data.description
            category := data.category
            startTime := startTime
            endTime := endTime
            venue := data.venue
            bannerUrl := data.bannerUrl
            status := data.status
            ticketModel := none
            maxTicketsPerUser := data.maxTicketsPerUser }
        .ok ((db.events.nextKey, event), db.withNewEvent event)
      else .error .valueOutOfRange
  | _, _ => .error .validation

def withEvent (db : Db) (eventId : EventId) (data : EventUpdateInput) : Db :=
  { db with events := db.events.modify eventId data.writeOver }

def updateEvent (db : Db) (eventId : EventId) (data : EventUpdateInput) :
    Except PrismaError (Event × Db) :=
  match db.events.find? eventId with
  | none => .error .recordNotFound
  | some event =>
      if data.isAccepted then
        .ok (data.writeOver event, db.withEvent eventId data)
      else .error .validation

def withNewTicketType (db : Db) (ticketType : TicketType) : Db :=
  { db with ticketTypes := db.ticketTypes.insert ticketType }

def createTicketType (db : Db) (data : TicketTypeCreateInput) :
    Except PrismaError ((TicketTypeId × TicketType) × Db) :=
  match data.saleStartTime, data.saleEndTime with
  | some saleStartTime, some saleEndTime =>
      if isDecimal data.price && isInt32 data.quantity then
        if (db.events.find? data.eventId).isSome then
          let ticketType : TicketType :=
            { eventId := data.eventId
              name := data.name
              price := data.price
              quantity := data.quantity
              sold := 0
              saleStartTime := saleStartTime
              saleEndTime := saleEndTime
              description := data.description
              isHidden := false }
          .ok ((db.ticketTypes.nextKey, ticketType),
            db.withNewTicketType ticketType)
        else .error .foreignKey
      else .error .valueOutOfRange
  | _, _ => .error .validation

def withTicketType (db : Db) (ticketTypeId : TicketTypeId)
    (data : TicketTypeUpdateInput) : Db :=
  { db with ticketTypes := db.ticketTypes.modify ticketTypeId data.writeOver }

def updateTicketType (db : Db) (ticketTypeId : TicketTypeId)
    (data : TicketTypeUpdateInput) :
    Except PrismaError (TicketType × Db) :=
  match db.ticketTypes.find? ticketTypeId with
  | none => .error .recordNotFound
  | some ticketType =>
      if data.isAccepted then
        .ok (data.writeOver ticketType, db.withTicketType ticketTypeId data)
      else .error .validation

/-- The ticket type is gone, and so are the references of seats and zones. -/
def withoutTicketType (db : Db) (ticketTypeId : TicketTypeId) : Db :=
  { db with
    ticketTypes := db.ticketTypes.erase ticketTypeId
    seats := db.seats.mapRows fun _ => SeatRow.forget ticketTypeId
    zones := db.zones.mapRows fun _ => Zone.forget ticketTypeId }

def deleteTicketType (db : Db) (ticketTypeId : TicketTypeId) :
    Except PrismaError (Unit × Db) :=
  if (db.ticketTypes.find? ticketTypeId).isSome then
    if ticketTypeId ∈ db.orderItems then .error .foreignKey
    else .ok ((), db.withoutTicketType ticketTypeId)
  else .error .recordNotFound

def withSeats (db : Db) (seats : List SeatRow) : Db :=
  { db with seats := db.seats.insertMany seats }

def withZones (db : Db) (zones : List Zone) : Db :=
  { db with zones := db.zones.insertMany zones }

/-- `seat.createMany`. -/
def createSeats (db : Db) (seats : List SeatRow) :
    Except PrismaError (Unit × Db) :=
  if seats.all fun seat => db.references seat.eventId seat.ticketTypeId then
    .ok ((), db.withSeats seats)
  else .error .foreignKey

/-- `zone.createMany`. -/
def createZones (db : Db) (zones : List Zone) :
    Except PrismaError (Unit × Db) :=
  if zones.all fun zone => isInt32 zone.capacity then
    if zones.all fun zone => db.references zone.eventId zone.ticketTypeId then
      .ok ((), db.withZones zones)
    else .error .foreignKey
  else .error .valueOutOfRange

/-- The transaction of `createSeatMap`. -/
def seatMapTransaction (db : Db) (eventId : EventId)
    (seats : List SeatRow) :
    Except PrismaError (List (SeatId × SeatRow) × Db) := do
  let (_, updated) ←
    db.updateEvent eventId { ticketModel := .value .seatMap }
  let (_, filled) ← updated.createSeats seats
  return (filled.seatsOf eventId, filled)

/-- The transaction of `createZones`. -/
def zoneTransaction (db : Db) (eventId : EventId) (zones : List Zone) :
    Except PrismaError (List (ZoneId × Zone) × Db) := do
  let (_, updated) ← db.updateEvent eventId { ticketModel := .value .zone }
  let (_, filled) ← updated.createZones zones
  return (filled.zonesOf eventId, filled)

end Db

inductive Command where
  | findProfile (userId : UserId)
  | findEvent (eventId : EventId) (organizerId : OrganizerId)
  | findTicketType (ticketTypeId : TicketTypeId) (organizerId : OrganizerId)
  | countTicketTypes (ids : List TicketTypeId) (eventId : EventId)
  | createAuditLog (entry : AuditLog)
  | createEvent (data : EventCreateInput)
  | updateEvent (eventId : EventId) (data : EventUpdateInput)
  | createTicketType (data : TicketTypeCreateInput)
  | updateTicketType (ticketTypeId : TicketTypeId)
      (data : TicketTypeUpdateInput)
  | deleteTicketType (ticketTypeId : TicketTypeId)
  | createSeats (seats : List SeatRow)
  | createZones (zones : List Zone)
  | seatMapTransaction (eventId : EventId) (seats : List SeatRow)
  | zoneTransaction (eventId : EventId) (zones : List Zone)
  deriving DecidableEq, Repr

abbrev Reply : Command → Type
  | .findProfile _ => Option OrganizerId
  | .findEvent _ _ => Option Event
  | .findTicketType _ _ => Option TicketType
  | .countTicketTypes _ _ => Nat
  | .createAuditLog _ => Unit
  | .createEvent _ => Except PrismaError (EventId × Event)
  | .updateEvent _ _ => Except PrismaError Event
  | .createTicketType _ => Except PrismaError (TicketTypeId × TicketType)
  | .updateTicketType _ _ => Except PrismaError TicketType
  | .deleteTicketType _ => Except PrismaError Unit
  | .createSeats _ => Except PrismaError Unit
  | .createZones _ => Except PrismaError Unit
  | .seatMapTransaction _ _ => Except PrismaError (List (SeatId × SeatRow))
  | .zoneTransaction _ _ => Except PrismaError (List (ZoneId × Zone))

def Db.logged (db : Db) (entry : AuditLog) : Db :=
  { db with auditLogs := db.auditLogs ++ [entry] }

def commit {α : Type} (db : Db) :
    Except PrismaError (α × Db) → Except PrismaError α × Db
  | .ok (reply, after) => (.ok reply, after)
  | .error error => (.error error, db)

theorem commit_ok {α : Type} {db after : Db} {reply : α}
    {result : Except PrismaError (α × Db)}
    (written : result = .ok (reply, after)) :
    commit db result = (.ok reply, after) := by
  rw [written]
  rfl

theorem commit_error {α : Type} {db : Db} {error : PrismaError}
    {result : Except PrismaError (α × Db)}
    (failed : result = .error error) :
    commit db result = (.error error, db) := by
  rw [failed]
  rfl

def perform : (command : Command) → Db → Reply command × Db
  | .findProfile userId, db => (db.profileOf userId, db)
  | .findEvent eventId organizerId, db =>
      (db.findEvent eventId organizerId, db)
  | .findTicketType ticketTypeId organizerId, db =>
      (db.findTicketType ticketTypeId organizerId, db)
  | .countTicketTypes ids eventId, db => (db.countTicketTypes ids eventId, db)
  | .createAuditLog entry, db => ((), db.logged entry)
  | .createEvent data, db => commit db (db.createEvent data)
  | .updateEvent eventId data, db => commit db (db.updateEvent eventId data)
  | .createTicketType data, db => commit db (db.createTicketType data)
  | .updateTicketType ticketTypeId data, db =>
      commit db (db.updateTicketType ticketTypeId data)
  | .deleteTicketType ticketTypeId, db =>
      commit db (db.deleteTicketType ticketTypeId)
  | .createSeats seats, db => commit db (db.createSeats seats)
  | .createZones zones, db => commit db (db.createZones zones)
  | .seatMapTransaction eventId seats, db =>
      commit db (db.seatMapTransaction eventId seats)
  | .zoneTransaction eventId zones, db =>
      commit db (db.zoneTransaction eventId zones)

end ConcertTicketing.Events
