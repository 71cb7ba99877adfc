import ConcertTicketing.Events.Isolation
import ConcertTicketing.Events.Layouts
import ConcertTicketing.Library.Callers

/-!
# The requests of all organizers at the same time

Any number of requests of any organizers, served one Prisma call at a time,
with calls that fail and processes that stop.  A request checks what belongs
to its organizer and writes later, when other requests have come in between.
What it has found out about owners is still true then: an event keeps its
organizer, and a ticket type keeps its event until it is deleted.
-/

namespace ConcertTicketing.Events

structure OrganizerRequest where
  organizerId : UserId
  request : Request
  deriving DecidableEq, Repr

abbrev OrganizerCall :=
  ProgramCall OrganizerRequest Command Reply ServiceError Response

abbrev OrganizerState := ServerState Db OrganizerCall

abbrev OrganizerAction := ServerAction Outside OrganizerRequest

def OrganizerRequest.operation (input : OrganizerRequest) :
    Operation Response :=
  input.request.operation input.organizerId

/-- `EventsService`, `TicketTypesService` and `SeatsService` under the
requests of their controllers. -/
def organizerServer :
    Server Db Outside OrganizerRequest Command Reply OrganizerCall :=
  programServer Outside.apply OrganizerRequest.operation perform
    (.prisma .unavailable)

namespace Db

def Owns (db : Db) (organizerId : UserId) (eventId : EventId) : Prop :=
  ∃ event, db.ownEvent organizerId eventId = some event

/-- The ticket type has been there and belongs to no other event. -/
def OnlyOf (db : Db) (eventId : EventId) (ticketTypeId : TicketTypeId) :
    Prop :=
  ticketTypeId < db.ticketTypes.nextKey ∧
    ∀ row, db.ticketTypes.find? ticketTypeId = some row →
      row.eventId = eventId

def OwnsType (db : Db) (organizerId : UserId) (ticketTypeId : TicketTypeId) :
    Prop :=
  ∃ eventId, db.Owns organizerId eventId ∧ db.OnlyOf eventId ticketTypeId

end Db

/-- Nobody loses an event, and no ticket type moves to another event. -/
structure OwnersStay (db later : Db) : Prop where
  profiles : ∀ userId profile, db.profileOf userId = some profile →
    later.profileOf userId = some profile
  events : ∀ eventId event, db.events.find? eventId = some event →
    ∃ now, later.events.find? eventId = some now ∧
      now.organizerId = event.organizerId
  keys : db.ticketTypes.nextKey ≤ later.ticketTypes.nextKey
  ticketTypes : ∀ ticketTypeId now,
    later.ticketTypes.find? ticketTypeId = some now →
    ticketTypeId < db.ticketTypes.nextKey →
    ∃ was, db.ticketTypes.find? ticketTypeId = some was ∧
      was.eventId = now.eventId

def Allows (organizerId : UserId) : Command → Db → Prop
  | .findProfile _, _ => True
  | .findEvent _ _, _ => True
  | .findTicketType _ _, _ => True
  | .countTicketTypes _ _, _ => True
  | .createAuditLog entry, db =>
      entry.userId = organizerId ∧ db.Owns organizerId entry.resourceId
  | .createEvent data, db =>
      db.profileOf organizerId = some data.organizerId ∧
        data.status ∈ [EventStatus.draft, EventStatus.pendingApproval]
  | .updateEvent eventId data, db =>
      db.Owns organizerId eventId ∧
        data.status ∈ [Member.undefined, Member.value .pendingApproval]
  | .createTicketType data, db => db.Owns organizerId data.eventId
  | .updateTicketType ticketTypeId _, db =>
      db.OwnsType organizerId ticketTypeId
  | .deleteTicketType ticketTypeId, db => db.OwnsType organizerId ticketTypeId
  | .createSeats seats, db =>
      ∃ eventId sections, seats = SeatsService.sectionSeats eventId sections ∧
        db.Owns organizerId eventId ∧
        ∀ named ∈ SeatsService.ticketTypeIds sections, db.OnlyOf eventId named
  | .createZones zones, db =>
      ∃ eventId configs, zones = SeatsService.zoneRows eventId configs ∧
        db.Owns organizerId eventId
  | .seatMapTransaction eventId seats, db =>
      db.Owns organizerId eventId ∧
        ∃ sections, seats = SeatsService.sectionSeats eventId sections ∧
          ∀ named ∈ SeatsService.ticketTypeIds sections,
            db.OnlyOf eventId named
  | .zoneTransaction eventId zones, db =>
      db.Owns organizerId eventId ∧
        ∃ configs, zones = SeatsService.zoneRows eventId configs

section Owners

variable {db later : Db} {organizerId : UserId} {eventId : EventId}
  {ticketTypeId : TicketTypeId}

theorem owns_iff :
    db.Owns organizerId eventId ↔
      ∃ event, db.events.find? eventId = some event ∧
        db.profileOf organizerId = some event.organizerId := by
  constructor
  · rintro ⟨event, own⟩
    exact ⟨event, find?_of_ownEvent own, profileOf_of_ownEvent own⟩
  · rintro ⟨event, found, known⟩
    refine ⟨event, ?_⟩
    rw [Db.ownEvent, known, Option.bind_some, Db.findEvent, found]
    exact Option.filter_eq_some_iff.mpr ⟨rfl, decide_eq_true rfl⟩

/-- The ticket type that is still there is one of the organizer's. -/
theorem ownTicketType_of_ownsType {row : TicketType}
    (owns : db.OwnsType organizerId ticketTypeId)
    (found : db.ticketTypes.find? ticketTypeId = some row) :
    db.ownTicketType organizerId ticketTypeId = some row := by
  obtain ⟨eventId, ownsEvent, only⟩ := owns
  obtain ⟨event, row', known⟩ := owns_iff.mp ownsEvent
  rw [Db.ownTicketType, known, Option.bind_some, Db.findTicketType, found]
  refine Option.filter_eq_some_iff.mpr ⟨rfl, ?_⟩
  rw [only.2 row found, Db.findEvent, row']
  exact Option.isSome_iff_exists.mpr
    ⟨event, Option.filter_eq_some_iff.mpr ⟨rfl, decide_eq_true rfl⟩⟩

theorem onlyOf_of_find? {row : TicketType}
    (found : db.ticketTypes.find? ticketTypeId = some row) :
    db.OnlyOf row.eventId ticketTypeId := by
  refine ⟨db.ticketTypes.below _ (Table.find?_eq_some.mp found), ?_⟩
  intro other foundToo
  rw [found] at foundToo
  rw [Option.some.inj foundToo]

private theorem ownsType_of_findTicketType {profile : OrganizerId}
    {row : TicketType} (known : db.profileOf organizerId = some profile)
    (found : db.findTicketType ticketTypeId profile = some row) :
    db.OwnsType organizerId ticketTypeId := by
  obtain ⟨isRow, owner⟩ := Option.filter_eq_some_iff.mp found
  obtain ⟨event, ofProfile⟩ := Option.isSome_iff_exists.mp owner
  refine ⟨row.eventId, ⟨event, ?_⟩, onlyOf_of_find? isRow⟩
  rw [Db.ownEvent, known]
  exact ofProfile

namespace OwnersStay

theorem refl (db : Db) : OwnersStay db db where
  profiles := fun _ _ known => known
  events := fun _ event found => ⟨event, found, rfl⟩
  keys := le_rfl
  ticketTypes := fun _ now found _ => ⟨now, found, rfl⟩

theorem trans (first second third : Db) (early : OwnersStay first second)
    (late : OwnersStay second third) : OwnersStay first third where
  profiles := fun userId profile known =>
    late.profiles userId profile (early.profiles userId profile known)
  events := by
    intro eventId event found
    obtain ⟨middle, foundMiddle, sameMiddle⟩ :=
      early.events eventId event found
    obtain ⟨now, foundNow, sameNow⟩ := late.events eventId middle foundMiddle
    exact ⟨now, foundNow, sameNow.trans sameMiddle⟩
  keys := early.keys.trans late.keys
  ticketTypes := by
    intro ticketTypeId now found below
    obtain ⟨middle, foundMiddle, sameMiddle⟩ := late.ticketTypes ticketTypeId
      now found (lt_of_lt_of_le below early.keys)
    obtain ⟨was, foundWas, sameWas⟩ := early.ticketTypes ticketTypeId middle
      foundMiddle below
    exact ⟨was, foundWas, sameWas.trans sameMiddle⟩

theorem owns (stay : OwnersStay db later)
    (owns : db.Owns organizerId eventId) : later.Owns organizerId eventId := by
  obtain ⟨event, found, known⟩ := owns_iff.mp owns
  obtain ⟨now, foundNow, same⟩ := stay.events eventId event found
  refine owns_iff.mpr ⟨now, foundNow, ?_⟩
  rw [same]
  exact stay.profiles organizerId _ known

theorem onlyOf (stay : OwnersStay db later)
    (only : db.OnlyOf eventId ticketTypeId) :
    later.OnlyOf eventId ticketTypeId := by
  refine ⟨lt_of_lt_of_le only.1 stay.keys, ?_⟩
  intro now found
  obtain ⟨was, foundWas, same⟩ := stay.ticketTypes ticketTypeId now found
    only.1
  rw [← same]
  exact only.2 was foundWas

private theorem ownsType (stay : OwnersStay db later)
    (owns : db.OwnsType organizerId ticketTypeId) :
    later.OwnsType organizerId ticketTypeId := by
  obtain ⟨eventId, ownsEvent, only⟩ := owns
  exact ⟨eventId, stay.owns ownsEvent, stay.onlyOf only⟩

end OwnersStay

end Owners

/-! ## What the writes do -/

/-- What a command can do to the tables: nothing, or its write. -/
inductive Written (db : Db) : Command → Db → Prop
  | nothing (command : Command) : Written db command db
  | logged (entry : AuditLog) :
      Written db (.createAuditLog entry) (db.logged entry)
  | eventCreated (data : EventCreateInput) (event : Event)
      (owner : event.organizerId = data.organizerId)
      (status : event.status = data.status) :
      Written db (.createEvent data) (db.withNewEvent event)
  | eventUpdated (eventId : EventId) (data : EventUpdateInput) :
      Written db (.updateEvent eventId data) (db.withEvent eventId data)
  | ticketTypeCreated (data : TicketTypeCreateInput) (new : TicketType)
      (ofEvent : new.eventId = data.eventId) :
      Written db (.createTicketType data) (db.withNewTicketType new)
  | ticketTypeUpdated (ticketTypeId : TicketTypeId)
      (data : TicketTypeUpdateInput) (row : TicketType)
      (found : db.ticketTypes.find? ticketTypeId = some row) :
      Written db (.updateTicketType ticketTypeId data)
        (db.withTicketType ticketTypeId data)
  | ticketTypeDeleted (ticketTypeId : TicketTypeId) (row : TicketType)
      (found : db.ticketTypes.find? ticketTypeId = some row) :
      Written db (.deleteTicketType ticketTypeId)
        (db.withoutTicketType ticketTypeId)
  | seatsCreated (seats : List SeatRow)
      (refer : ∀ seat ∈ seats,
        db.references seat.eventId seat.ticketTypeId = true) :
      Written db (.createSeats seats) (db.withSeats seats)
  | zonesCreated (zones : List Zone) :
      Written db (.createZones zones) (db.withZones zones)
  | seatMapCreated (eventId : EventId) (seats : List SeatRow)
      (refer : ∀ seat ∈ seats,
        db.references seat.eventId seat.ticketTypeId = true) :
      Written db (.seatMapTransaction eventId seats)
        ((db.withEvent eventId { ticketModel := .value .seatMap }).withSeats
          seats)
  | zoneLayoutCreated (eventId : EventId) (zones : List Zone) :
      Written db (.zoneTransaction eventId zones)
        ((db.withEvent eventId { ticketModel := .value .zone }).withZones
          zones)

section Writes

variable {db : Db}

/-- A write that fails does nothing. -/
theorem Written.of_commit {α : Type} {command : Command}
    {result : Except PrismaError (α × Db)}
    (accepted : ∀ reply after, result = .ok (reply, after) →
      Written db command after) :
    Written db command (commit db result).2 := by
  cases result with
  | error error => exact .nothing command
  | ok both => exact accepted both.1 both.2 rfl

private theorem written_createEvent {data : EventCreateInput}
    {reply : EventId × Event} {after : Db}
    (created : db.createEvent data = .ok (reply, after)) :
    Written db (.createEvent data) after := by
  rw [Db.createEvent] at created
  split at created
  · split at created
    · cases created
      exact .eventCreated data _ rfl rfl
    · cases created
  · cases created

private theorem written_updateEvent {eventId : EventId}
    {data : EventUpdateInput} {reply : Event} {after : Db}
    (updated : db.updateEvent eventId data = .ok (reply, after)) :
    Written db (.updateEvent eventId data) after := by
  rw [Db.updateEvent] at updated
  split at updated
  · cases updated
  · split at updated
    · cases updated
      exact .eventUpdated eventId data
    · cases updated

private theorem written_createTicketType {data : TicketTypeCreateInput}
    {reply : TicketTypeId × TicketType} {after : Db}
    (created : db.createTicketType data = .ok (reply, after)) :
    Written db (.createTicketType data) after := by
  rcases createTicketType_cases db data with
    ⟨error, failed⟩ | ⟨new, ofEvent, written⟩
  · rw [failed] at created
    cases created
  · rw [written] at created
    cases created
    exact .ticketTypeCreated data new ofEvent

private theorem written_updateTicketType {ticketTypeId : TicketTypeId}
    {data : TicketTypeUpdateInput} {reply : TicketType} {after : Db}
    (updated : db.updateTicketType ticketTypeId data = .ok (reply, after)) :
    Written db (.updateTicketType ticketTypeId data) after := by
  rw [Db.updateTicketType] at updated
  split at updated
  · cases updated
  · next row found =>
      split at updated
      · cases updated
        exact .ticketTypeUpdated ticketTypeId data row found
      · cases updated

private theorem written_deleteTicketType {ticketTypeId : TicketTypeId}
    {after : Db}
    (deleted : db.deleteTicketType ticketTypeId = .ok ((), after)) :
    Written db (.deleteTicketType ticketTypeId) after := by
  rw [Db.deleteTicketType] at deleted
  split at deleted
  · next known =>
      obtain ⟨row, found⟩ := Option.isSome_iff_exists.mp known
      split at deleted
      · cases deleted
      · cases deleted
        exact .ticketTypeDeleted ticketTypeId row found
  · cases deleted

private theorem written_createSeats {seats : List SeatRow} {after : Db}
    (created : db.createSeats seats = .ok ((), after)) :
    Written db (.createSeats seats) after := by
  rw [Db.createSeats] at created
  split at created
  · next refer =>
      cases created
      exact .seatsCreated seats (List.all_eq_true.mp refer)
  · cases created

/-- Every command does one of these things. -/
theorem written (db : Db) (command : Command) :
    Written db command (perform command db).2 := by
  cases command with
  | findProfile userId => exact .nothing _
  | findEvent eventId organizerId => exact .nothing _
  | findTicketType ticketTypeId organizerId => exact .nothing _
  | countTicketTypes ids eventId => exact .nothing _
  | createAuditLog entry => exact .logged entry
  | createEvent data => exact .of_commit fun _ _ => written_createEvent
  | updateEvent eventId data =>
      exact .of_commit fun _ _ => written_updateEvent
  | createTicketType data =>
      exact .of_commit fun _ _ => written_createTicketType
  | updateTicketType ticketTypeId data =>
      exact .of_commit fun _ _ => written_updateTicketType
  | deleteTicketType ticketTypeId =>
      exact .of_commit fun _ _ => written_deleteTicketType
  | createSeats seats => exact .of_commit fun _ _ => written_createSeats
  | createZones zones =>
      rcases perform_createZones_cases db zones with same | created
      · rw [same]
        exact .nothing _
      · rw [created]
        exact .zonesCreated zones
  | seatMapTransaction eventId seats =>
      rcases perform_seatMapTransaction_cases db eventId seats with
        ⟨creates, filled⟩ | ⟨_, same⟩
      · rw [filled]
        exact .seatMapCreated eventId seats creates.2.2
      · rw [same]
        exact .nothing _
  | zoneTransaction eventId zones =>
      rcases perform_zoneTransaction_cases db eventId zones with
        ⟨_, filled⟩ | ⟨_, same⟩
      · rw [filled]
        exact .zoneLayoutCreated eventId zones
      · rw [same]
        exact .nothing _

/-- An event that has been created belongs to the profile. -/
theorem owns_createEvent {organizerId : UserId} {data : EventCreateInput}
    {eventId : EventId} {event : Event} {after : Db}
    (known : db.profileOf organizerId = some data.organizerId)
    (performed : perform (.createEvent data) db =
      (.ok (eventId, event), after)) :
    after.Owns organizerId eventId := by
  rcases createEvent_cases db data with
    ⟨error, failed⟩ | ⟨new, owner, created⟩
  · rw [perform, commit_error failed] at performed
    cases performed
  · rw [perform, commit_ok created] at performed
    cases performed
    refine owns_iff.mpr ⟨event, ?_, ?_⟩
    · exact Table.find?_eq_some.mpr
        (Table.mem_insert.mpr (Or.inr ⟨rfl, rfl⟩))
    · rw [owner]
      exact known

end Writes

section Stay

variable {db after : Db}

namespace OwnersStay

/-- Nothing happens to profiles, events and ticket types. -/
theorem same (profiles : after.organizerProfiles = db.organizerProfiles)
    (events : after.events = db.events)
    (ticketTypes : after.ticketTypes = db.ticketTypes) :
    OwnersStay db after where
  profiles := by
    intro userId profile known
    rw [Db.profileOf, profiles]
    exact known
  events := by
    intro eventId event found
    rw [events]
    exact ⟨event, found, rfl⟩
  keys := by rw [ticketTypes]
  ticketTypes := by
    intro ticketTypeId now found _
    rw [ticketTypes] at found
    exact ⟨now, found, rfl⟩

/-- An event is changed in other columns. -/
theorem modifyEvent (eventId : EventId) {change : Event → Event}
    (keeps : ∀ event, (change event).organizerId = event.organizerId) :
    OwnersStay db { db with events := db.events.modify eventId change } where
  profiles := fun _ _ known => known
  events := by
    intro other event found
    rw [Table.find?_modify, found]
    refine ⟨_, rfl, ?_⟩
    split
    · exact keeps event
    · rfl
  keys := le_rfl
  ticketTypes := fun _ now found _ => ⟨now, found, rfl⟩

/-- A ticket type is changed in other columns. -/
theorem modifyTicketType (ticketTypeId : TicketTypeId)
    {change : TicketType → TicketType}
    (keeps : ∀ row, (change row).eventId = row.eventId) :
    OwnersStay db
      { db with ticketTypes := db.ticketTypes.modify ticketTypeId change } where
  profiles := fun _ _ known => known
  events := fun _ event found => ⟨event, found, rfl⟩
  keys := le_rfl
  ticketTypes := by
    intro other now found _
    rw [Table.find?_modify] at found
    obtain ⟨was, foundWas, rfl⟩ := Option.map_eq_some_iff.mp found
    refine ⟨was, foundWas, ?_⟩
    split
    · exact (keeps was).symm
    · rfl

theorem withNewEvent (event : Event) :
    OwnersStay db (db.withNewEvent event) where
  profiles := fun _ _ known => known
  events := fun _ old found => ⟨old, Table.find?_insert found event, rfl⟩
  keys := le_rfl
  ticketTypes := fun _ now found _ => ⟨now, found, rfl⟩

/-- A new ticket type has a new key. -/
theorem withNewTicketType (new : TicketType) :
    OwnersStay db (db.withNewTicketType new) where
  profiles := fun _ _ known => known
  events := fun _ event found => ⟨event, found, rfl⟩
  keys := Nat.le_succ _
  ticketTypes := by
    intro ticketTypeId now found below
    have member := Table.mem_insert.mp (Table.find?_eq_some.mp found)
    rcases member with old | ⟨key, _⟩
    · exact ⟨now, Table.find?_eq_some.mpr old, rfl⟩
    · omega

theorem withoutTicketType (removed : TicketTypeId) :
    OwnersStay db (db.withoutTicketType removed) where
  profiles := fun _ _ known => known
  events := fun _ event found => ⟨event, found, rfl⟩
  keys := le_rfl
  ticketTypes := by
    intro ticketTypeId now found _
    have member := Table.mem_erase.mp (Table.find?_eq_some.mp found)
    exact ⟨now, Table.find?_eq_some.mpr member.1, rfl⟩

end OwnersStay

/-- No command takes an event from its organizer. -/
theorem Written.ownersStay {command : Command}
    (writes : Written db command after) : OwnersStay db after := by
  cases writes with
  | nothing _ => exact .refl db
  | logged entry => exact .same rfl rfl rfl
  | eventCreated data event _ _ => exact .withNewEvent event
  | eventUpdated eventId data => exact .modifyEvent eventId fun _ => rfl
  | ticketTypeCreated data new _ => exact .withNewTicketType new
  | ticketTypeUpdated ticketTypeId data row _ =>
      exact .modifyTicketType ticketTypeId fun _ => rfl
  | ticketTypeDeleted ticketTypeId row _ => exact .withoutTicketType _
  | seatsCreated seats _ => exact .same rfl rfl rfl
  | zonesCreated zones => exact .same rfl rfl rfl
  | seatMapCreated eventId seats _ =>
      have labelled : OwnersStay db (db.withEvent eventId
          { ticketModel := .value .seatMap }) :=
        .modifyEvent eventId fun _ => rfl
      exact labelled.trans _ _ _ (.same rfl rfl rfl)
  | zoneLayoutCreated eventId zones =>
      have labelled : OwnersStay db (db.withEvent eventId
          { ticketModel := .value .zone }) :=
        .modifyEvent eventId fun _ => rfl
      exact labelled.trans _ _ _ (.same rfl rfl rfl)

private theorem ownersStay_perform (command : Command) (db : Db) :
    OwnersStay db (perform command db).2 :=
  (written db command).ownersStay

theorem ownersStay_outside (event : Outside) (db : Db) :
    OwnersStay db (event.apply db) := by
  cases event with
  | registered userId =>
      rw [Outside.apply]
      split
      · exact .refl db
      · refine ⟨?_, fun _ event found => ⟨event, found, rfl⟩, le_rfl,
          fun _ now found _ => ⟨now, found, rfl⟩⟩
        intro other profile known
        obtain ⟨entry, first, same⟩ := Option.map_eq_some_iff.mp known
        rw [Db.profileOf, Table.insert, List.find?_append, first,
          Option.some_or, Option.map_some, same]
  | reviewed eventId status => exact .modifyEvent eventId fun _ => rfl
  | sold ticketTypeId count =>
      exact .modifyTicketType ticketTypeId fun _ => rfl
  | ordered ticketTypeId =>
      rw [Outside.apply]
      split
      · exact .same rfl rfl rfl
      · exact .refl db

end Stay

/-! ## The requests keep to their organizers -/

section Safety

variable {α : Type} {organizerId : UserId} {eventId : EventId} {db : Db}

abbrev SafeFor (organizerId : UserId) (operation : Operation α)
    (post : α → Db → Prop) (db : Db) : Prop :=
  operation.Safe perform OwnersStay (Allows organizerId) post db

theorem safeFor_orThrow {post : α → Db → Prop} {reply : Except PrismaError α}
    (holds : ∀ result, reply = .ok result → post result db) :
    SafeFor organizerId (orThrow reply) post db := by
  cases reply with
  | ok result => exact holds result rfl
  | error error => trivial

private theorem safeFor_findProfile :
    SafeFor organizerId (findProfile organizerId)
      (fun profile later => later.profileOf organizerId = some profile)
      db := by
  refine Program.Safe.bind (Program.Safe.call ?_)
  intro later _
  refine ⟨trivial, ?_⟩
  split
  · trivial
  · next profile known => exact known

private theorem safeFor_findOwnedEvent :
    SafeFor organizerId (findOwnedEvent organizerId eventId)
      (fun _ later => later.Owns organizerId eventId) db := by
  refine Program.Safe.bind (safeFor_findProfile.weaken ?_)
  intro profile early known
  refine Program.Safe.bind (Program.Safe.call ?_)
  intro later stay
  refine ⟨trivial, ?_⟩
  split
  · trivial
  · next event found =>
      have still := stay.profiles organizerId profile known
      refine ⟨event, ?_⟩
      change (later.profileOf organizerId).bind _ = _
      rw [still]
      exact found

private theorem safeFor_findOwnedTicketType {ticketTypeId : TicketTypeId} :
    SafeFor organizerId
      (TicketTypesService.findOwnedTicketType organizerId ticketTypeId)
      (fun _ later => later.OwnsType organizerId ticketTypeId) db := by
  refine Program.Safe.bind (safeFor_findProfile.weaken ?_)
  intro profile early known
  refine Program.Safe.bind (Program.Safe.call ?_)
  intro later stay
  refine ⟨trivial, ?_⟩
  split
  · trivial
  · next row found =>
      exact ownsType_of_findTicketType
        (stay.profiles organizerId profile known) found

private theorem safeFor_assertOwnerAndStatus {message : String}
    {allowedStatuses : List EventStatus} :
    SafeFor organizerId
      (assertOwnerAndStatus message organizerId eventId allowedStatuses)
      (fun _ later => later.Owns organizerId eventId) db := by
  refine Program.Safe.bind (safeFor_findOwnedEvent.weaken ?_)
  intro event later owns
  split
  · trivial
  · exact owns

/-- What has been counted belongs to the event from then on. -/
theorem safeFor_assertTicketTypesOwnership {ids : List TicketTypeId}
    (owns : db.Owns organizerId eventId) :
    SafeFor organizerId
      (SeatsService.assertTicketTypesOwnership eventId ids)
      (fun _ later => later.Owns organizerId eventId ∧
        ∀ named ∈ ids, later.OnlyOf eventId named) db := by
  refine Program.Safe.bind (Program.Safe.call ?_)
  intro later stay
  refine ⟨trivial, ?_⟩
  split
  · trivial
  · next counted =>
      refine ⟨stay.owns owns, ?_⟩
      intro named member
      have ofEvent := ofEvent_of_counted (not_not.mp counted) named member
      obtain ⟨row, found, same⟩ := Option.map_eq_some_iff.mp ofEvent
      rw [← same]
      exact onlyOf_of_find? found

private theorem safeFor_createEvent (dto : CreateEventDto) :
    SafeFor organizerId (EventsService.create organizerId dto)
      (fun _ _ => True) db := by
  refine Program.Safe.bind (safeFor_findProfile.weaken ?_)
  intro profile early known
  refine Program.Safe.bind (Program.Safe.call ?_)
  intro later stay
  have still := stay.profiles organizerId profile known
  refine ⟨⟨still, ?_⟩, ?_⟩
  · split <;> simp
  · refine Program.Safe.bind (safeFor_orThrow ?_)
    rintro ⟨id, event⟩ accepted
    have owns := owns_createEvent still (Prod.ext accepted rfl)
    refine Program.Safe.bind (Program.Safe.call ?_)
    intro last stayToo
    exact ⟨⟨rfl, stayToo.owns owns⟩, trivial⟩

/-- An update, and its entry in the log. -/
theorem safeFor_updateEvent {data : EventUpdateInput} {action resource : String}
    {respond : Event → Response} (owns : db.Owns organizerId eventId)
    (status : data.status ∈ [Member.undefined, Member.value .pendingApproval]) :
    SafeFor organizerId (do
      let written ← prisma (.updateEvent eventId data)
      let updated ← orThrow written
      prisma (.createAuditLog ⟨organizerId, action, resource, eventId⟩)
      return respond updated) (fun _ _ => True) db := by
  refine Program.Safe.bind (Program.Safe.call ?_)
  intro later stay
  refine ⟨⟨stay.owns owns, status⟩, ?_⟩
  refine Program.Safe.bind (safeFor_orThrow ?_)
  intro updated _
  refine Program.Safe.bind (Program.Safe.call ?_)
  intro last stayToo
  have stillOwns := (ownersStay_perform (.updateEvent eventId data)
    later).owns (stay.owns owns)
  exact ⟨⟨rfl, stayToo.owns stillOwns⟩, trivial⟩

private theorem safeFor_update (dto : UpdateEventDto) :
    SafeFor organizerId (EventsService.update organizerId eventId dto)
      (fun _ _ => True) db := by
  refine Program.Safe.bind (safeFor_findOwnedEvent.weaken ?_)
  intro event later owns
  split
  · trivial
  · split
    · trivial
    · exact safeFor_updateEvent owns (by simp [EventsService.updateData])

private theorem safeFor_submit :
    SafeFor organizerId (EventsService.submit organizerId eventId)
      (fun _ _ => True) db := by
  refine Program.Safe.bind (safeFor_findOwnedEvent.weaken ?_)
  intro event later owns
  split
  · trivial
  · exact safeFor_updateEvent owns (by simp)

private theorem safeFor_createTicketType (dto : CreateTicketTypeDto) :
    SafeFor organizerId (TicketTypesService.create organizerId eventId dto)
      (fun _ _ => True) db := by
  refine Program.Safe.bind (safeFor_assertOwnerAndStatus.weaken ?_)
  intro event later owns
  refine Program.Safe.bind (Program.Safe.call ?_)
  intro last stay
  refine ⟨stay.owns owns, Program.Safe.bind (safeFor_orThrow ?_)⟩
  intro _ _
  trivial

private theorem safeFor_updateTicketType {ticketTypeId : TicketTypeId}
    (dto : UpdateTicketTypeDto) :
    SafeFor organizerId
      (TicketTypesService.update organizerId ticketTypeId dto)
      (fun _ _ => True) db := by
  refine Program.Safe.bind (safeFor_findOwnedTicketType.weaken ?_)
  intro ticketType later owns
  split
  · trivial
  · split
    · trivial
    · refine Program.Safe.bind (Program.Safe.call ?_)
      intro last stay
      refine ⟨stay.ownsType owns, Program.Safe.bind (safeFor_orThrow ?_)⟩
      intro _ _
      trivial

private theorem safeFor_removeTicketType {ticketTypeId : TicketTypeId} :
    SafeFor organizerId (TicketTypesService.remove organizerId ticketTypeId)
      (fun _ _ => True) db := by
  refine Program.Safe.bind (safeFor_findOwnedTicketType.weaken ?_)
  intro ticketType later owns
  split
  · trivial
  · refine Program.Safe.bind (Program.Safe.call ?_)
    intro last stay
    refine ⟨stay.ownsType owns, Program.Safe.bind (safeFor_orThrow ?_)⟩
    intro _ _
    trivial

private theorem safeFor_hideTicketType {ticketTypeId : TicketTypeId} :
    SafeFor organizerId (TicketTypesService.hide organizerId ticketTypeId)
      (fun _ _ => True) db := by
  refine Program.Safe.bind (safeFor_findOwnedTicketType.weaken ?_)
  intro ticketType later owns
  refine Program.Safe.bind (Program.Safe.call ?_)
  intro last stay
  refine ⟨stay.ownsType owns, Program.Safe.bind (safeFor_orThrow ?_)⟩
  intro _ _
  trivial

private theorem safeFor_createSeatMap (sections : List SeatMapConfigDto) :
    SafeFor organizerId
      (SeatsService.createSeatMap organizerId eventId sections)
      (fun _ _ => True) db := by
  refine Program.Safe.bind (safeFor_assertOwnerAndStatus.weaken ?_)
  intro event early owns
  split
  · trivial
  · refine Program.Safe.bind
      ((safeFor_assertTicketTypesOwnership owns).weaken ?_)
    rintro _ counted ⟨stillOwns, only⟩
    refine Program.Safe.bind (Program.Safe.call ?_)
    intro later stay
    refine ⟨⟨stay.owns stillOwns, sections, rfl, ?_⟩, ?_⟩
    · intro named member
      exact stay.onlyOf (only named member)
    · refine Program.Safe.bind (safeFor_orThrow ?_)
      intro _ _
      trivial

private theorem safeFor_createZones (zones : List ZoneConfigDto) :
    SafeFor organizerId (SeatsService.createZones organizerId eventId zones)
      (fun _ _ => True) db := by
  refine Program.Safe.bind (safeFor_assertOwnerAndStatus.weaken ?_)
  intro event early owns
  split
  · trivial
  · refine Program.Safe.bind (Program.Safe.call ?_)
    intro later stay
    refine ⟨⟨stay.owns owns, zones, rfl⟩,
      Program.Safe.bind (safeFor_orThrow ?_)⟩
    intro _ _
    trivial

private theorem safeFor_addSections {event : Event}
    (sections : List SeatMapConfigDto) (owns : db.Owns organizerId eventId) :
    SafeFor organizerId (SeatsService.addSections eventId event sections)
      (fun _ later => later.Owns organizerId eventId) db := by
  rw [SeatsService.addSections]
  split
  · exact owns
  · split
    · trivial
    · refine Program.Safe.bind
        ((safeFor_assertTicketTypesOwnership owns).weaken ?_)
      rintro _ counted ⟨stillOwns, only⟩
      refine Program.Safe.bind (Program.Safe.call ?_)
      intro later stay
      refine ⟨⟨eventId, sections, rfl, stay.owns stillOwns, ?_⟩, ?_⟩
      · intro named member
        exact stay.onlyOf (only named member)
      · refine Program.Safe.bind (safeFor_orThrow ?_)
        intro _ _
        exact (ownersStay_perform (.createSeats _) later).owns
          (stay.owns stillOwns)

private theorem safeFor_addZones {event : Event} (zones : List ZoneConfigDto)
    (owns : db.Owns organizerId eventId) :
    SafeFor organizerId (SeatsService.addZones eventId event zones)
      (fun _ _ => True) db := by
  rw [SeatsService.addZones]
  split
  · trivial
  · split
    · trivial
    · refine Program.Safe.bind (Program.Safe.call ?_)
      intro later stay
      refine ⟨⟨eventId, zones, rfl, stay.owns owns⟩,
        Program.Safe.bind (safeFor_orThrow ?_)⟩
      intro _ _
      trivial

private theorem safeFor_updateLayout (dto : UpdateSeatMapDto) :
    SafeFor organizerId (SeatsService.updateLayout organizerId eventId dto)
      (fun _ _ => True) db := by
  refine Program.Safe.bind (safeFor_assertOwnerAndStatus.weaken ?_)
  intro event early owns
  split
  · trivial
  · refine Program.Safe.bind ((safeFor_addSections _ owns).weaken ?_)
    intro addedSeats later stillOwns
    refine Program.Safe.bind ((safeFor_addZones _ stillOwns).weaken ?_)
    intro addedZones last _
    trivial

/-- Whatever happens in between, a request does only what is its organizer's
to do. -/
theorem safeFor_operation (input : OrganizerRequest) :
    SafeFor input.organizerId input.operation (fun _ _ => True) db := by
  obtain ⟨organizerId, request⟩ := input
  cases request with
  | createEvent dto => exact safeFor_createEvent dto
  | updateEvent eventId dto => exact safeFor_update dto
  | submitEvent eventId => exact safeFor_submit
  | createTicketType eventId dto => exact safeFor_createTicketType dto
  | updateTicketType ticketTypeId dto => exact safeFor_updateTicketType dto
  | removeTicketType ticketTypeId => exact safeFor_removeTicketType
  | hideTicketType ticketTypeId => exact safeFor_hideTicketType
  | createSeatMap eventId sections => exact safeFor_createSeatMap sections
  | createZones eventId zones => exact safeFor_createZones zones
  | updateLayout eventId dto => exact safeFor_updateLayout dto

end Safety

end ConcertTicketing.Events
