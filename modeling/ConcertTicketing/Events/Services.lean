import ConcertTicketing.Events.Stores
import ConcertTicketing.Library.Trace
import Mathlib.Data.List.Dedup

/-!
# The organizers' services

`EventsService`, `TicketTypesService` and `SeatsService`, each operation as
the sequence of its Prisma calls.  The texts of the errors are the source's.
A request is served on its own by `Request.serve`; beside the requests the
tables change through what the rest of the system does to events and tickets.
-/

namespace ConcertTicketing.Events

inductive ServiceError where
  | forbidden (message : String)
  | notFound (message : String)
  | badRequest (message : String)
  | prisma (error : PrismaError)
  deriving DecidableEq, Repr

/-- The status of a new event that the organizer asks for. -/
inductive SubmitAction where
  | draft
  | submit
  deriving DecidableEq, Repr

/-- `null` and a missing member are one in the optional members. -/
structure CreateEventDto where
  title : String
  description : Option String
  category : Option String
  startTime : DateString
  endTime : DateString
  venue : Option String
  bannerUrl : Option String
  maxTicketsPerUser : Option Int
  action : Option SubmitAction
  deriving DecidableEq, Repr

/-- `objectKeys` are the keys in the order of the body. -/
structure UpdateEventDto where
  objectKeys : List String := []
  title : Member String := .undefined
  description : Member String := .undefined
  category : Member String := .undefined
  startTime : Member DateString := .undefined
  endTime : Member DateString := .undefined
  venue : Member String := .undefined
  bannerUrl : Member String := .undefined
  maxTicketsPerUser : Member Int := .undefined
  deriving DecidableEq, Repr

structure CreateTicketTypeDto where
  name : String
  price : Cents
  quantity : Int
  saleStartTime : DateString
  saleEndTime : DateString
  description : Option String
  deriving DecidableEq, Repr

structure UpdateTicketTypeDto where
  name : Member String := .undefined
  saleStartTime : Member DateString := .undefined
  saleEndTime : Member DateString := .undefined
  description : Member String := .undefined
  price : Member Cents := .undefined
  quantity : Member Int := .undefined
  deriving DecidableEq, Repr

structure SeatMapConfigDto where
  rows : Nat
  seatsPerRow : Nat
  rowPrefix : Option Text
  ticketTypeId : TicketTypeId
  deriving DecidableEq, Repr

structure ZoneConfigDto where
  name : String
  capacity : Int
  ticketTypeId : Option TicketTypeId
  deriving DecidableEq, Repr

structure UpdateSeatMapDto where
  addSections : Option (List SeatMapConfigDto)
  addZones : Option (List ZoneConfigDto)
  deriving DecidableEq, Repr

inductive Response where
  | event (id : EventId) (event : Event)
  | ticketType (id : TicketTypeId) (ticketType : TicketType)
  | message (text : String)
  | seatMap (total : Nat) (seats : List (SeatId × SeatRow))
  | zones (zones : List (ZoneId × Zone))
  | layout (addedSeats addedZones : Option Nat)
  deriving DecidableEq, Repr

abbrev Operation (α : Type) := Program Command Reply ServiceError α

def prisma (command : Command) : Operation (Reply command) :=
  Program.call command

/-- A write whose error is the operation's. -/
def orThrow {α : Type} : Except PrismaError α → Operation α
  | .ok reply => .done reply
  | .error error => .throw (.prisma error)

def findProfile (organizerId : UserId) : Operation OrganizerId := do
  match ← prisma (.findProfile organizerId) with
  | none => .throw (.forbidden "Bạn chưa có hồ sơ nhà tổ chức")
  | some profile => return profile

/-- `EventsService.findOwnedEvent`, with which the other two services begin
as well. -/
def findOwnedEvent (organizerId : UserId) (eventId : EventId) :
    Operation Event := do
  let profile ← findProfile organizerId
  match ← prisma (.findEvent eventId profile) with
  | none => .throw (.notFound "Sự kiện không tồn tại")
  | some event => return event

/-- `EDITABLE_STATUSES` and both `MUTABLE_EVENT_STATUSES`. -/
def mutableStatuses : List EventStatus := [.draft, .pendingApproval, .rejected]

/-- The body of both `assertEventOwnerAndStatus`, each with its message. -/
def assertOwnerAndStatus (message : String) (organizerId : UserId)
    (eventId : EventId) (allowedStatuses : List EventStatus) :
    Operation Event := do
  let event ← findOwnedEvent organizerId eventId
  if event.status ∉ allowedStatuses then
    .throw (.badRequest (message ++ event.status.name))
  else return event

/-! ## Events -/

namespace EventsService

def create (organizerId : UserId) (dto : CreateEventDto) :
    Operation Response := do
  let profile ← findProfile organizerId
  let status : EventStatus :=
    if dto.action = some .submit then .pendingApproval else .draft
  let created ← prisma (.createEvent
    { organizerId := profile
      title := dto.title
      description := dto.description
      category := dto.category
      startTime := dto.startTime
      endTime := dto.endTime
      venue := dto.venue
      bannerUrl := dto.bannerUrl
      maxTicketsPerUser := dto.maxTicketsPerUser.getD 4
      status := status })
  let (id, event) ← orThrow created
  prisma (.createAuditLog ⟨organizerId, "CREATE_EVENT", "events", id⟩)
  return .event id event

/-- `APPROVED_EDITABLE_FIELDS`. -/
def approvedEditableFields : List String :=
  ["description", "bannerUrl", "contactEmail", "contactPhone"]

/-- The keys of the body that are not `undefined`. -/
def definedKeys (dto : UpdateEventDto) : List String :=
  (if dto.title = .undefined then [] else ["title"]) ++
    (if dto.description = .undefined then [] else ["description"]) ++
    (if dto.category = .undefined then [] else ["category"]) ++
    (if dto.startTime = .undefined then [] else ["startTime"]) ++
    (if dto.endTime = .undefined then [] else ["endTime"]) ++
    (if dto.venue = .undefined then [] else ["venue"]) ++
    (if dto.bannerUrl = .undefined then [] else ["bannerUrl"]) ++
    (if dto.maxTicketsPerUser = .undefined then []
      else ["maxTicketsPerUser"])

/-- The same keys as `Object.keys` lists them. -/
def keys (dto : UpdateEventDto) : List String :=
  (dto.objectKeys.filter fun key => decide (key ∈ definedKeys dto)) ++
    (definedKeys dto).filter fun key => decide (key ∉ dto.objectKeys)

private theorem mem_keys_iff {dto : UpdateEventDto} {key : String} :
    key ∈ keys dto ↔ key ∈ definedKeys dto := by
  rw [keys, List.mem_append, List.mem_filter, List.mem_filter,
    decide_eq_true_eq, decide_eq_true_eq]
  by_cases listed : key ∈ dto.objectKeys
  · simp [listed]
  · simp [listed]

def disallowedKeys (dto : UpdateEventDto) : List String :=
  (keys dto).filter fun key => decide (key ∉ approvedEditableFields)

/-- The order of the body does not matter for what is refused. -/
theorem disallowedKeys_eq_nil_iff {dto : UpdateEventDto} :
    disallowedKeys dto = [] ↔
      (definedKeys dto).filter
        (fun key => decide (key ∉ approvedEditableFields)) = [] := by
  simp only [disallowedKeys, List.filter_eq_nil_iff, mem_keys_iff]

/-- The `data` of `event.update`. -/
def updateData (dto : UpdateEventDto) : EventUpdateInput where
  title := dto.title
  description := dto.description
  category := dto.category
  startTime := newDate dto.startTime
  endTime := newDate dto.endTime
  venue := dto.venue
  bannerUrl := dto.bannerUrl
  maxTicketsPerUser := dto.maxTicketsPerUser

def update (organizerId : UserId) (eventId : EventId) (dto : UpdateEventDto) :
    Operation Response := do
  let event ← findOwnedEvent organizerId eventId
  if event.status = .approved ∧ disallowedKeys dto ≠ [] then
    .throw (.badRequest ("Sự kiện đang bán không được sửa: " ++
      String.intercalate ", " (disallowedKeys dto)))
  else if event.status ∉ mutableStatuses ∧ event.status ≠ .approved then
    .throw (.badRequest
      ("Không thể sửa sự kiện ở trạng thái " ++ event.status.name))
  else
    let written ← prisma (.updateEvent eventId (updateData dto))
    let updated ← orThrow written
    prisma
      (.createAuditLog ⟨organizerId, "UPDATE_EVENT", "events", eventId⟩)
    return .event eventId updated

def submittableStatuses : List EventStatus := [.draft, .rejected]

def submit (organizerId : UserId) (eventId : EventId) :
    Operation Response := do
  let event ← findOwnedEvent organizerId eventId
  if event.status ∉ submittableStatuses then
    .throw (.badRequest
      "Chỉ gửi duyệt sự kiện ở trạng thái DRAFT hoặc REJECTED")
  else
    let written ← prisma
      (.updateEvent eventId { status := .value .pendingApproval })
    let updated ← orThrow written
    prisma
      (.createAuditLog ⟨organizerId, "SUBMIT_EVENT", "events", eventId⟩)
    return .event eventId updated

end EventsService

/-! ## Ticket types -/

namespace TicketTypesService

def assertEventOwnerAndStatus (organizerId : UserId) (eventId : EventId)
    (allowedStatuses : List EventStatus) : Operation Event :=
  assertOwnerAndStatus
    "Không thể thực hiện thao tác này khi sự kiện ở trạng thái " organizerId
    eventId allowedStatuses

def findOwnedTicketType (organizerId : UserId)
    (ticketTypeId : TicketTypeId) : Operation TicketType := do
  let profile ← findProfile organizerId
  match ← prisma (.findTicketType ticketTypeId profile) with
  | none => .throw (.notFound "Loại vé không tồn tại")
  | some ticketType => return ticketType

def create (organizerId : UserId) (eventId : EventId)
    (dto : CreateTicketTypeDto) : Operation Response := do
  let _ ← assertEventOwnerAndStatus organizerId eventId mutableStatuses
  let created ← prisma (.createTicketType
    { eventId := eventId
      name := dto.name
      price := dto.price
      quantity := dto.quantity
      saleStartTime := dto.saleStartTime
      saleEndTime := dto.saleEndTime
      description := dto.description })
  let (id, ticketType) ← orThrow created
  return .ticketType id ticketType

/-- `dto.quantity < ticketType.sold` for a given quantity, where `null` is 0 in
the comparison. -/
def undercuts (quantity : Member Int) (sold : Int) : Bool :=
  match quantity with
  | .undefined => false
  | .null => decide (0 < sold)
  | .value number => decide (number < sold)

/-- The `data` of `ticketType.update`. -/
def updateData (dto : UpdateTicketTypeDto) : TicketTypeUpdateInput where
  name := dto.name
  price := dto.price
  quantity := dto.quantity
  saleStartTime := newDate dto.saleStartTime
  saleEndTime := newDate dto.saleEndTime
  description := dto.description

def update (organizerId : UserId) (ticketTypeId : TicketTypeId)
    (dto : UpdateTicketTypeDto) : Operation Response := do
  let ticketType ← findOwnedTicketType organizerId ticketTypeId
  if dto.price ≠ .undefined ∧ 0 < ticketType.sold then
    .throw (.badRequest "Không thể thay đổi giá vé khi đã có vé bán ra")
  else if undercuts dto.quantity ticketType.sold then
    .throw (.badRequest ("Số lượng không thể nhỏ hơn số đã bán (" ++
      toString ticketType.sold ++ ")"))
  else
    let written ← prisma
      (.updateTicketType ticketTypeId (updateData dto))
    let updated ← orThrow written
    return .ticketType ticketTypeId updated

def remove (organizerId : UserId) (ticketTypeId : TicketTypeId) :
    Operation Response := do
  let ticketType ← findOwnedTicketType organizerId ticketTypeId
  if 0 < ticketType.sold then
    .throw (.badRequest
      "Đã có vé bán ra. Dùng endpoint /hide để ẩn loại vé thay vì xóa.")
  else
    let deleted ← prisma (.deleteTicketType ticketTypeId)
    orThrow deleted
    return .message "Đã xóa loại vé"

def hide (organizerId : UserId) (ticketTypeId : TicketTypeId) :
    Operation Response := do
  let _ ← findOwnedTicketType organizerId ticketTypeId
  let written ← prisma
    (.updateTicketType ticketTypeId { isHidden := .value true })
  let updated ← orThrow written
  return .ticketType ticketTypeId updated

end TicketTypesService

/-! ## Layouts -/

namespace SeatsService

def assertEventOwnerAndStatus (organizerId : UserId) (eventId : EventId) :
    Operation Event :=
  assertOwnerAndStatus
    "Không thể chỉnh sửa sơ đồ khi sự kiện ở trạng thái " organizerId eventId
    mutableStatuses

def assertTicketTypesOwnership (eventId : EventId)
    (ticketTypeIds : List TicketTypeId) : Operation Unit := do
  let count ← prisma (.countTicketTypes ticketTypeIds eventId)
  if count ≠ ticketTypeIds.length then
    .throw (.badRequest
      "Một hoặc nhiều ticketTypeId không thuộc sự kiện này")
  else return ()

/-- `String.fromCharCode(code)`.  A text of a layout is the list of its UTF-16
code units; those from U+D800 on, which may be halves of surrogate pairs,
stand in their order as the characters from U+FD800 on. -/
def fromCharCode (code : Nat) : Text :=
  let unit := code % 65536
  [Char.ofNat (if unit < 0xD800 then unit else 0xF0000 + unit)]

/-- The label of a row; an empty prefix counts as none. -/
def rowLabel (rowPrefix : Option Text) (row : Nat) : Text :=
  match rowPrefix.getD [] with
  | [] => fromCharCode (64 + row)
  | start => start ++ Nat.toDigits 10 row

def rowSeats (eventId : EventId) (config : SeatMapConfigDto) (row : Nat) :
    List SeatRow :=
  (List.range' 1 config.seatsPerRow).map fun number =>
    { eventId := eventId
      ticketTypeId := some config.ticketTypeId
      row := rowLabel config.rowPrefix row
      number := Nat.toDigits 10 number
      label := rowLabel config.rowPrefix row ++ Nat.toDigits 10 number
      status := .available }

def sectionSeats (eventId : EventId) (sections : List SeatMapConfigDto) :
    List SeatRow :=
  sections.flatMap fun config =>
    (List.range' 1 config.rows).flatMap (rowSeats eventId config)

def zoneRows (eventId : EventId) (zones : List ZoneConfigDto) : List Zone :=
  zones.map fun zone =>
    { eventId := eventId
      name := zone.name
      capacity := zone.capacity
      ticketTypeId := zone.ticketTypeId }

/-- `[...new Set(sections.map((s) => s.ticketTypeId))]`. -/
def ticketTypeIds (sections : List SeatMapConfigDto) : List TicketTypeId :=
  (sections.map SeatMapConfigDto.ticketTypeId).dedup

def createSeatMap (organizerId : UserId) (eventId : EventId)
    (sections : List SeatMapConfigDto) : Operation Response := do
  let event ← assertEventOwnerAndStatus organizerId eventId
  if event.ticketModel.isSome then
    .throw (.badRequest "Sự kiện đã có mô hình vé. Dùng endpoint chỉnh sửa.")
  else
    assertTicketTypesOwnership eventId (ticketTypeIds sections)
    let created ← prisma
      (.seatMapTransaction eventId (sectionSeats eventId sections))
    let seats ← orThrow created
    return .seatMap seats.length seats

def createZones (organizerId : UserId) (eventId : EventId)
    (zones : List ZoneConfigDto) : Operation Response := do
  let event ← assertEventOwnerAndStatus organizerId eventId
  if event.ticketModel.isSome then
    .throw (.badRequest "Sự kiện đã có mô hình vé. Dùng endpoint chỉnh sửa.")
  else
    let created ← prisma
      (.zoneTransaction eventId (zoneRows eventId zones))
    let rows ← orThrow created
    return .zones rows

/-- The part of `updateLayout` for `addSections`. -/
def addSections (eventId : EventId) (event : Event)
    (sections : List SeatMapConfigDto) : Operation (Option Nat) := do
  if sections = [] then return none
  else if event.ticketModel ≠ some .seatMap then
    .throw (.badRequest "Sự kiện không dùng mô hình SEAT_MAP")
  else
    assertTicketTypesOwnership eventId (ticketTypeIds sections)
    let created ← prisma (.createSeats (sectionSeats eventId sections))
    orThrow created
    return some (sectionSeats eventId sections).length

/-- The part of `updateLayout` for `addZones`. -/
def addZones (eventId : EventId) (event : Event)
    (zones : List ZoneConfigDto) : Operation (Option Nat) := do
  if zones = [] then return none
  else if event.ticketModel ≠ some .zone then
    .throw (.badRequest "Sự kiện không dùng mô hình ZONE")
  else
    let created ← prisma (.createZones (zoneRows eventId zones))
    orThrow created
    return some zones.length

def updateLayout (organizerId : UserId) (eventId : EventId)
    (dto : UpdateSeatMapDto) : Operation Response := do
  let event ← assertEventOwnerAndStatus organizerId eventId
  if event.ticketModel.isNone then
    .throw (.badRequest "Sự kiện chưa có sơ đồ ghế / khu vực")
  else
    let addedSeats ← addSections eventId event (dto.addSections.getD [])
    let addedZones ← addZones eventId event (dto.addZones.getD [])
    return .layout addedSeats addedZones

end SeatsService

/-! ## Requests and runs -/

inductive Request where
  | createEvent (dto : CreateEventDto)
  | updateEvent (eventId : EventId) (dto : UpdateEventDto)
  | submitEvent (eventId : EventId)
  | createTicketType (eventId : EventId) (dto : CreateTicketTypeDto)
  | updateTicketType (ticketTypeId : TicketTypeId)
      (dto : UpdateTicketTypeDto)
  | removeTicketType (ticketTypeId : TicketTypeId)
  | hideTicketType (ticketTypeId : TicketTypeId)
  | createSeatMap (eventId : EventId) (sections : List SeatMapConfigDto)
  | createZones (eventId : EventId) (zones : List ZoneConfigDto)
  | updateLayout (eventId : EventId) (dto : UpdateSeatMapDto)
  deriving DecidableEq, Repr

namespace Request

def operation (organizerId : UserId) : Request → Operation Response
  | .createEvent dto => EventsService.create organizerId dto
  | .updateEvent eventId dto => EventsService.update organizerId eventId dto
  | .submitEvent eventId => EventsService.submit organizerId eventId
  | .createTicketType eventId dto =>
      TicketTypesService.create organizerId eventId dto
  | .updateTicketType ticketTypeId dto =>
      TicketTypesService.update organizerId ticketTypeId dto
  | .removeTicketType ticketTypeId =>
      TicketTypesService.remove organizerId ticketTypeId
  | .hideTicketType ticketTypeId =>
      TicketTypesService.hide organizerId ticketTypeId
  | .createSeatMap eventId sections =>
      SeatsService.createSeatMap organizerId eventId sections
  | .createZones eventId zones =>
      SeatsService.createZones organizerId eventId zones
  | .updateLayout eventId dto =>
      SeatsService.updateLayout organizerId eventId dto

def serve (organizerId : UserId) (request : Request) (db : Db) :
    Except ServiceError Response × Db :=
  (request.operation organizerId).run perform db

end Request

/-- What the rest of the system does to the rows: an organizer's profile
appears, an event is reviewed, opened, locked or closed, tickets are sold, and
an order takes up a ticket type. -/
inductive Outside where
  | registered (userId : UserId)
  | reviewed (eventId : EventId) (status : EventStatus)
  | sold (ticketTypeId : TicketTypeId) (count : Int)
  | ordered (ticketTypeId : TicketTypeId)
  deriving DecidableEq, Repr

def Outside.apply : Outside → Db → Db
  | .registered userId, db =>
      if (db.profileOf userId).isSome then db
      else
        { db with
          organizerProfiles := db.organizerProfiles.insert ⟨userId⟩ }
  | .reviewed eventId status, db =>
      { db with
        events := db.events.modify eventId fun event =>
          { event with status := status } }
  | .sold ticketTypeId count, db =>
      { db with
        ticketTypes := db.ticketTypes.modify ticketTypeId fun ticketType =>
          { ticketType with sold := count } }
  | .ordered ticketTypeId, db =>
      if (db.ticketTypes.find? ticketTypeId).isSome then
        { db with orderItems := db.orderItems ++ [ticketTypeId] }
      else db

inductive Action where
  | request (organizerId : UserId) (request : Request)
  | outside (event : Outside)
  deriving DecidableEq, Repr

def step (db : Db) : Action → Option Db
  | .request organizerId request => some (request.serve organizerId db).2
  | .outside event => some (event.apply db)

end ConcertTicketing.Events
