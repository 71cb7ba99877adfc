import ConcertTicketing.Events.Services

/-!
# What the organizers' requests do

Every request either leaves the tables as they are or goes through, and then
its checks have held and its writes have been accepted.  The requests whose
success matters on its own, the changes of a ticket type and the creation of
zones, come with the exact condition.
-/

namespace ConcertTicketing.Events

def Db.ownEvent (db : Db) (organizerId : UserId) (eventId : EventId) :
    Option Event :=
  (db.profileOf organizerId).bind (db.findEvent eventId)

/-- The ticket type, when the user is the organizer of its event. -/
def Db.ownTicketType (db : Db) (organizerId : UserId)
    (ticketTypeId : TicketTypeId) : Option TicketType :=
  (db.profileOf organizerId).bind (db.findTicketType ticketTypeId)

section Checks

variable {α : Type} {db after : Db}

/-- The operation goes on with the reply. -/
theorem run_reply {command : Command} {reply : Reply command}
    (performed : perform command db = (reply, after))
    (next : Reply command → Operation α) :
    (prisma command >>= next).run perform db =
      (next reply).run perform after := by
  change (next (perform command db).1).run perform (perform command db).2 = _
  rw [performed]

theorem findProfile_cases (organizerId : UserId) (db : Db) :
    (∃ error, db.profileOf organizerId = none ∧
      (findProfile organizerId).run perform db = (.error error, db)) ∨
    ∃ profile, db.profileOf organizerId = some profile ∧
      (findProfile organizerId).run perform db = (.ok profile, db) := by
  cases known : db.profileOf organizerId with
  | none =>
      have performed : perform (.findProfile organizerId) db = (none, db) := by
        rw [perform, known]
      exact Or.inl ⟨_, rfl, run_reply performed _⟩
  | some profile =>
      have performed : perform (.findProfile organizerId) db =
          (some profile, db) := by
        rw [perform, known]
      exact Or.inr ⟨profile, rfl, run_reply performed _⟩

/-- Both `findOwned` look a row up under the profile of the caller. -/
theorem findOwned_cases {ρ : Type} {found : OrganizerId → Option ρ}
    {lookup : OrganizerId → Operation ρ} {db : Db} (absent : ServiceError)
    (looksUp : ∀ profile, (lookup profile).run perform db =
      ((found profile).elim (.error absent) .ok, db))
    (organizerId : UserId) :
    (∃ error, (db.profileOf organizerId).bind found = none ∧
      (findProfile organizerId >>= lookup).run perform db =
        (.error error, db)) ∨
    ∃ row, (db.profileOf organizerId).bind found = some row ∧
      (findProfile organizerId >>= lookup).run perform db = (.ok row, db) := by
  rcases findProfile_cases organizerId db with
    ⟨error, missing, ran⟩ | ⟨profile, known, ran⟩
  · left
    refine ⟨error, ?_, Program.run_bind_error ran _⟩
    rw [missing, Option.bind_none]
  · rw [known, Option.bind_some, Program.run_bind_ok ran, looksUp]
    cases found profile with
    | none => exact Or.inl ⟨absent, rfl, rfl⟩
    | some row => exact Or.inr ⟨row, rfl, rfl⟩

private theorem findOwnedEvent_cases (organizerId : UserId) (eventId : EventId)
    (db : Db) :
    (∃ error, db.ownEvent organizerId eventId = none ∧
      (findOwnedEvent organizerId eventId).run perform db =
        (.error error, db)) ∨
    ∃ event, db.ownEvent organizerId eventId = some event ∧
      (findOwnedEvent organizerId eventId).run perform db =
        (.ok event, db) := by
  refine findOwned_cases (.notFound "Sự kiện không tồn tại") ?_ organizerId
  intro profile
  rw [run_reply (rfl : perform (.findEvent eventId profile) db =
    (db.findEvent eventId profile, db))]
  cases db.findEvent eventId profile <;> rfl

private theorem findOwnedTicketType_cases (organizerId : UserId)
    (ticketTypeId : TicketTypeId) (db : Db) :
    (∃ error, db.ownTicketType organizerId ticketTypeId = none ∧
      (TicketTypesService.findOwnedTicketType organizerId ticketTypeId).run
        perform db = (.error error, db)) ∨
    ∃ ticketType, db.ownTicketType organizerId ticketTypeId =
        some ticketType ∧
      (TicketTypesService.findOwnedTicketType organizerId ticketTypeId).run
        perform db = (.ok ticketType, db) := by
  refine findOwned_cases (.notFound "Loại vé không tồn tại") ?_ organizerId
  intro profile
  rw [run_reply (rfl : perform (.findTicketType ticketTypeId profile) db =
    (db.findTicketType ticketTypeId profile, db))]
  cases db.findTicketType ticketTypeId profile <;> rfl

/-- The user is the organizer of the event, and the event is not yet
approved. -/
def Mutable (db : Db) (organizerId : UserId) (eventId : EventId)
    (event : Event) : Prop :=
  db.ownEvent organizerId eventId = some event ∧
    event.status ∈ mutableStatuses

theorem assertOwnerAndStatus_cases (message : String) (organizerId : UserId)
    (eventId : EventId) (db : Db) :
    (∃ error, (∀ event, ¬ Mutable db organizerId eventId event) ∧
      (assertOwnerAndStatus message organizerId eventId mutableStatuses).run
        perform db = (.error error, db)) ∨
    ∃ event, Mutable db organizerId eventId event ∧
      (assertOwnerAndStatus message organizerId eventId mutableStatuses).run
        perform db = (.ok event, db) := by
  rcases findOwnedEvent_cases organizerId eventId db with
    ⟨error, missing, ran⟩ | ⟨event, own, ran⟩
  · left
    refine ⟨error, ?_, Program.run_bind_error ran _⟩
    rintro event ⟨own, _⟩
    rw [missing] at own
    cases own
  · have goesOn := Program.run_bind_ok ran fun event : Event =>
      if event.status ∉ mutableStatuses then
        (.throw (.badRequest (message ++ event.status.name)) :
          Operation Event)
      else return event
    by_cases early : event.status ∈ mutableStatuses
    · right
      refine ⟨event, ⟨own, early⟩, goesOn.trans ?_⟩
      rw [if_neg (not_not_intro early)]
      rfl
    · left
      rw [if_pos early] at goesOn
      refine ⟨_, ?_, goesOn⟩
      rintro other ⟨ownToo, earlyToo⟩
      rw [own] at ownToo
      cases ownToo
      exact early earlyToo

/-- The ticket types are distinct ones of the event. -/
def Counted (db : Db) (eventId : EventId) (ids : List TicketTypeId) : Prop :=
  db.countTicketTypes ids eventId = ids.length

theorem assertTicketTypesOwnership_cases (eventId : EventId)
    (ids : List TicketTypeId) (db : Db) :
    (∃ error, ¬ Counted db eventId ids ∧
      (SeatsService.assertTicketTypesOwnership eventId ids).run perform db =
        (.error error, db)) ∨
    (Counted db eventId ids ∧
      (SeatsService.assertTicketTypesOwnership eventId ids).run perform db =
        (.ok (), db)) := by
  have performed : perform (.countTicketTypes ids eventId) db =
      (db.countTicketTypes ids eventId, db) := rfl
  have goesOn := run_reply performed fun count : Nat =>
    if count ≠ ids.length then
      (.throw (.badRequest
        "Một hoặc nhiều ticketTypeId không thuộc sự kiện này") :
        Operation Unit)
    else return ()
  by_cases counted : db.countTicketTypes ids eventId = ids.length
  · right
    refine ⟨counted, goesOn.trans ?_⟩
    rw [if_neg (not_not_intro counted)]
    rfl
  · left
    rw [if_pos counted] at goesOn
    exact ⟨_, counted, goesOn⟩

end Checks

/-! ## Operations -/

section Operations

variable {db : Db} {organizerId : UserId}

open TicketTypesService in
/-- The request to change a ticket type passes all checks. -/
structure Updates (db : Db) (organizerId : UserId)
    (ticketTypeId : TicketTypeId) (dto : UpdateTicketTypeDto)
    (ticketType : TicketType) : Prop where
  own : db.ownTicketType organizerId ticketTypeId = some ticketType
  unsold : dto.price = .undefined ∨ ticketType.sold ≤ 0
  enough : undercuts dto.quantity ticketType.sold = false
  accepted : (updateData dto).isAccepted = true

/-- The request to delete a ticket type passes all checks. -/
structure Removes (db : Db) (organizerId : UserId)
    (ticketTypeId : TicketTypeId) (ticketType : TicketType) : Prop where
  own : db.ownTicketType organizerId ticketTypeId = some ticketType
  unsold : ticketType.sold ≤ 0
  unordered : ticketTypeId ∉ db.orderItems

theorem find?_of_ownTicketType {ticketTypeId : TicketTypeId}
    {ticketType : TicketType}
    (own : db.ownTicketType organizerId ticketTypeId = some ticketType) :
    db.ticketTypes.find? ticketTypeId = some ticketType := by
  obtain ⟨profile, _, found⟩ := Option.bind_eq_some_iff.mp own
  exact (Option.filter_eq_some_iff.mp found).1

theorem find?_of_ownEvent {eventId : EventId} {event : Event}
    (own : db.ownEvent organizerId eventId = some event) :
    db.events.find? eventId = some event := by
  obtain ⟨profile, _, found⟩ := Option.bind_eq_some_iff.mp own
  exact (Option.filter_eq_some_iff.mp found).1

private theorem updateEvent_eq {eventId : EventId} {event : Event}
    (found : db.events.find? eventId = some event)
    {data : EventUpdateInput} (accepted : data.isAccepted = true) :
    db.updateEvent eventId data =
      .ok (data.writeOver event, db.withEvent eventId data) := by
  rw [Db.updateEvent, found]
  exact if_pos accepted

private theorem perform_updateEvent {eventId : EventId} {event : Event}
    (found : db.events.find? eventId = some event)
    {data : EventUpdateInput} (accepted : data.isAccepted = true) :
    perform (.updateEvent eventId data) db =
      (.ok (data.writeOver event), db.withEvent eventId data) :=
  commit_ok (updateEvent_eq found accepted)

private theorem perform_updateTicketType {ticketTypeId : TicketTypeId}
    {ticketType : TicketType}
    (found : db.ticketTypes.find? ticketTypeId = some ticketType)
    {data : TicketTypeUpdateInput} (accepted : data.isAccepted = true) :
    perform (.updateTicketType ticketTypeId data) db =
      (.ok (data.writeOver ticketType),
        db.withTicketType ticketTypeId data) := by
  have written : db.updateTicketType ticketTypeId data =
      .ok (data.writeOver ticketType, db.withTicketType ticketTypeId data) := by
    rw [Db.updateTicketType, found]
    exact if_pos accepted
  exact commit_ok written

private theorem remove_cases (organizerId : UserId)
    (ticketTypeId : TicketTypeId) (db : Db) :
    ((∀ ticketType, ¬ Removes db organizerId ticketTypeId ticketType) ∧
      ((TicketTypesService.remove organizerId ticketTypeId).run perform
        db).2 = db) ∨
    ∃ ticketType, Removes db organizerId ticketTypeId ticketType ∧
      ((TicketTypesService.remove organizerId ticketTypeId).run perform
        db).2 = db.withoutTicketType ticketTypeId := by
  rcases findOwnedTicketType_cases organizerId ticketTypeId db with
    ⟨error, missing, ran⟩ | ⟨ticketType, own, ran⟩
  · left
    constructor
    · intro ticketType removes
      have own := removes.own
      rw [missing] at own
      cases own
    · rw [TicketTypesService.remove, Program.run_bind_error ran]
  · have found := find?_of_ownTicketType own
    have same : ∀ other, Removes db organizerId ticketTypeId other →
        ticketType = other := by
      intro other removes
      exact Option.some.inj (own.symm.trans removes.own)
    rw [TicketTypesService.remove, Program.run_bind_ok ran]
    by_cases sold : 0 < ticketType.sold
    · left
      rw [if_pos sold]
      refine ⟨?_, rfl⟩
      intro other removes
      have unsold := removes.unsold
      rw [← same other removes] at unsold
      omega
    · rw [if_neg sold]
      by_cases ordered : ticketTypeId ∈ db.orderItems
      · left
        have performed : perform (.deleteTicketType ticketTypeId) db =
            (.error .foreignKey, db) := by
          rw [perform, Db.deleteTicketType, found, Option.isSome_some,
            if_pos rfl, if_pos ordered]
          rfl
        rw [run_reply performed]
        refine ⟨?_, rfl⟩
        intro other removes
        exact removes.unordered ordered
      · right
        have performed : perform (.deleteTicketType ticketTypeId) db =
            (.ok (), db.withoutTicketType ticketTypeId) := by
          rw [perform, Db.deleteTicketType, found, Option.isSome_some,
            if_pos rfl, if_neg ordered]
          rfl
        rw [run_reply performed]
        exact ⟨ticketType, ⟨own, Int.not_lt.mp sold, ordered⟩, rfl⟩

private theorem update_cases (organizerId : UserId)
    (ticketTypeId : TicketTypeId) (dto : UpdateTicketTypeDto) (db : Db) :
    ((∀ ticketType,
        ¬ Updates db organizerId ticketTypeId dto ticketType) ∧
      ((TicketTypesService.update organizerId ticketTypeId dto).run perform
        db).2 = db) ∨
    ∃ ticketType, Updates db organizerId ticketTypeId dto ticketType ∧
      ((TicketTypesService.update organizerId ticketTypeId dto).run perform
        db).2 = db.withTicketType ticketTypeId
          (TicketTypesService.updateData dto) := by
  rcases findOwnedTicketType_cases organizerId ticketTypeId db with
    ⟨error, missing, ran⟩ | ⟨ticketType, own, ran⟩
  · left
    constructor
    · intro ticketType updates
      have own := updates.own
      rw [missing] at own
      cases own
    · rw [TicketTypesService.update, Program.run_bind_error ran]
  · have found := find?_of_ownTicketType own
    have same : ∀ other, Updates db organizerId ticketTypeId dto other →
        ticketType = other := by
      intro other updates
      exact Option.some.inj (own.symm.trans updates.own)
    rw [TicketTypesService.update, Program.run_bind_ok ran]
    by_cases priced : dto.price ≠ .undefined ∧ 0 < ticketType.sold
    · left
      rw [if_pos priced]
      refine ⟨?_, rfl⟩
      intro other updates
      rw [same other updates] at priced
      rcases updates.unsold with absent | unsold
      · exact priced.1 absent
      · exact absurd priced.2 (Int.not_lt.mpr unsold)
    · rw [if_neg priced]
      by_cases fewer :
          TicketTypesService.undercuts dto.quantity ticketType.sold = true
      · left
        rw [if_pos fewer]
        refine ⟨?_, rfl⟩
        intro other updates
        rw [same other updates, updates.enough] at fewer
        cases fewer
      · rw [if_neg fewer]
        by_cases accepted :
            (TicketTypesService.updateData dto).isAccepted = true
        · right
          rw [run_reply (perform_updateTicketType found accepted)]
          refine ⟨ticketType, ⟨own, ?_, ?_, accepted⟩, rfl⟩
          · by_cases absent : dto.price = .undefined
            · exact Or.inl absent
            · exact Or.inr (Int.not_lt.mp fun sold => priced ⟨absent, sold⟩)
          · exact Bool.eq_false_iff.mpr fewer
        · left
          have performed : perform
              (.updateTicketType ticketTypeId
                (TicketTypesService.updateData dto)) db =
              (.error .validation, db) := by
            rw [perform, Db.updateTicketType, found]
            dsimp only
            rw [if_neg accepted]
            rfl
          rw [run_reply performed]
          refine ⟨?_, rfl⟩
          intro other updates
          exact accepted updates.accepted

theorem createTicketType_cases (db : Db) (data : TicketTypeCreateInput) :
    (∃ error, db.createTicketType data = .error error) ∨
    ∃ ticketType, ticketType.eventId = data.eventId ∧
      db.createTicketType data =
        .ok ((db.ticketTypes.nextKey, ticketType),
          db.withNewTicketType ticketType) := by
  rw [Db.createTicketType]
  split
  · split
    · split
      · exact Or.inr ⟨_, rfl, rfl⟩
      · exact Or.inl ⟨_, rfl⟩
    · exact Or.inl ⟨_, rfl⟩
  · exact Or.inl ⟨_, rfl⟩

private theorem createTicketType_request_cases (organizerId : UserId)
    (eventId : EventId) (dto : CreateTicketTypeDto) (db : Db) :
    ((TicketTypesService.create organizerId eventId dto).run perform db).2 =
      db ∨
    ∃ event ticketType, Mutable db organizerId eventId event ∧
      ticketType.eventId = eventId ∧
      ((TicketTypesService.create organizerId eventId dto).run perform
        db).2 = db.withNewTicketType ticketType := by
  rcases assertOwnerAndStatus_cases
      "Không thể thực hiện thao tác này khi sự kiện ở trạng thái "
      organizerId eventId db with
    ⟨error, _, ran⟩ | ⟨event, isMutable, ran⟩
  · left
    rw [TicketTypesService.create,
      TicketTypesService.assertEventOwnerAndStatus,
      Program.run_bind_error ran]
  · rw [TicketTypesService.create,
      TicketTypesService.assertEventOwnerAndStatus, Program.run_bind_ok ran]
    let data : TicketTypeCreateInput :=
      { eventId := eventId
        name := dto.name
        price := dto.price
        quantity := dto.quantity
        saleStartTime := dto.saleStartTime
        saleEndTime := dto.saleEndTime
        description := dto.description }
    rcases createTicketType_cases db data with
      ⟨error, failed⟩ | ⟨ticketType, ofEvent, created⟩
    · left
      have performed : perform (.createTicketType data) db =
          (.error error, db) :=
        commit_error failed
      rw [run_reply performed]
      rfl
    · right
      have performed : perform (.createTicketType data) db =
          (.ok (db.ticketTypes.nextKey, ticketType),
            db.withNewTicketType ticketType) :=
        commit_ok created
      rw [run_reply performed]
      exact ⟨event, ticketType, isMutable, ofEvent, rfl⟩

private theorem hide_cases (organizerId : UserId) (ticketTypeId : TicketTypeId)
    (db : Db) :
    ((TicketTypesService.hide organizerId ticketTypeId).run perform db).2 =
      db ∨
    ∃ ticketType, db.ownTicketType organizerId ticketTypeId =
        some ticketType ∧
      ((TicketTypesService.hide organizerId ticketTypeId).run perform db).2 =
        db.withTicketType ticketTypeId { isHidden := .value true } := by
  rcases findOwnedTicketType_cases organizerId ticketTypeId db with
    ⟨error, _, ran⟩ | ⟨ticketType, own, ran⟩
  · left
    rw [TicketTypesService.hide, Program.run_bind_error ran]
  · right
    have found := find?_of_ownTicketType own
    rw [TicketTypesService.hide, Program.run_bind_ok ran,
      run_reply (perform_updateTicketType found rfl)]
    exact ⟨ticketType, own, rfl⟩

theorem createEvent_cases (db : Db) (data : EventCreateInput) :
    (∃ error, db.createEvent data = .error error) ∨
    ∃ event, event.organizerId = data.organizerId ∧
      db.createEvent data =
        .ok ((db.events.nextKey, event), db.withNewEvent event) := by
  rw [Db.createEvent]
  split
  · split
    · exact Or.inr ⟨_, rfl, rfl⟩
    · exact Or.inl ⟨_, rfl⟩
  · exact Or.inl ⟨_, rfl⟩

private theorem createEvent_request_cases (organizerId : UserId)
    (dto : CreateEventDto) (db : Db) :
    ((EventsService.create organizerId dto).run perform db).2 = db ∨
    ∃ profile event entry, db.profileOf organizerId = some profile ∧
      event.organizerId = profile ∧
      ((EventsService.create organizerId dto).run perform db).2 =
        (db.withNewEvent event).logged entry := by
  rcases findProfile_cases organizerId db with
    ⟨error, _, ran⟩ | ⟨profile, known, ran⟩
  · left
    rw [EventsService.create, Program.run_bind_error ran]
  · rw [EventsService.create, Program.run_bind_ok ran]
    let data : EventCreateInput :=
      { organizerId := profile
        title := dto.title
        description := dto.description
        category := dto.category
        startTime := dto.startTime
        endTime := dto.endTime
        venue := dto.venue
        bannerUrl := dto.bannerUrl
        maxTicketsPerUser := dto.maxTicketsPerUser.getD 4
        status := if dto.action = some .submit then .pendingApproval
          else .draft }
    rcases createEvent_cases db data with
      ⟨error, failed⟩ | ⟨event, owner, created⟩
    · left
      have performed : perform (.createEvent data) db =
          (.error error, db) :=
        commit_error failed
      rw [run_reply performed]
      rfl
    · right
      have performed : perform (.createEvent data) db =
          (.ok (db.events.nextKey, event), db.withNewEvent event) :=
        commit_ok created
      rw [run_reply performed]
      exact ⟨profile, event, _, known, owner, rfl⟩

/-- The request to change an event passes all checks. -/
structure UpdatesEvent (db : Db) (organizerId : UserId) (eventId : EventId)
    (dto : UpdateEventDto) (event : Event) : Prop where
  own : db.ownEvent organizerId eventId = some event
  allowed : event.status = .approved → EventsService.disallowedKeys dto = []
  editable : event.status ∈ mutableStatuses ∨ event.status = .approved

private theorem updateEvent_request_cases (organizerId : UserId)
    (eventId : EventId) (dto : UpdateEventDto) (db : Db) :
    ((EventsService.update organizerId eventId dto).run perform db).2 = db ∨
    ∃ event entry, UpdatesEvent db organizerId eventId dto event ∧
      ((EventsService.update organizerId eventId dto).run perform db).2 =
        (db.withEvent eventId (EventsService.updateData dto)).logged entry := by
  rcases findOwnedEvent_cases organizerId eventId db with
    ⟨error, _, ran⟩ | ⟨event, own, ran⟩
  · left
    rw [EventsService.update, Program.run_bind_error ran]
  · have found := find?_of_ownEvent own
    rw [EventsService.update, Program.run_bind_ok ran]
    by_cases refused :
        event.status = .approved ∧ EventsService.disallowedKeys dto ≠ []
    · left
      rw [if_pos refused]
      rfl
    · rw [if_neg refused]
      by_cases closed :
          event.status ∉ mutableStatuses ∧ event.status ≠ .approved
      · left
        rw [if_pos closed]
        rfl
      · rw [if_neg closed]
        by_cases accepted :
            (EventsService.updateData dto).isAccepted = true
        · right
          rw [run_reply (perform_updateEvent found accepted)]
          refine ⟨event, _, ⟨own, ?_, ?_⟩, rfl⟩
          · intro approved
            by_contra disallowed
            exact refused ⟨approved, disallowed⟩
          · by_contra neither
            exact closed (not_or.mp neither)
        · left
          have performed : perform
              (.updateEvent eventId (EventsService.updateData dto)) db =
              (.error .validation, db) := by
            rw [perform, Db.updateEvent, found]
            dsimp only
            rw [if_neg accepted]
            rfl
          rw [run_reply performed]
          rfl

private theorem submit_cases (organizerId : UserId) (eventId : EventId)
    (db : Db) :
    ((EventsService.submit organizerId eventId).run perform db).2 = db ∨
    ∃ event entry, db.ownEvent organizerId eventId = some event ∧
      event.status ∈ EventsService.submittableStatuses ∧
      ((EventsService.submit organizerId eventId).run perform db).2 =
        (db.withEvent eventId { status := .value .pendingApproval }).logged
          entry := by
  rcases findOwnedEvent_cases organizerId eventId db with
    ⟨error, _, ran⟩ | ⟨event, own, ran⟩
  · left
    rw [EventsService.submit, Program.run_bind_error ran]
  · rw [EventsService.submit, Program.run_bind_ok ran]
    by_cases submittable : event.status ∈ EventsService.submittableStatuses
    · right
      have found := find?_of_ownEvent own
      rw [if_neg (not_not_intro submittable),
        run_reply (perform_updateEvent found rfl)]
      exact ⟨event, _, own, submittable, rfl⟩
    · left
      rw [if_pos submittable]
      rfl

/-- The database takes in the zones. -/
structure ZonesFit (db : Db) (eventId : EventId)
    (zones : List ZoneConfigDto) : Prop where
  sizes : ∀ zone ∈ zones, isInt32 zone.capacity = true
  references : ∀ zone ∈ zones,
    db.references eventId zone.ticketTypeId = true

/-- The checks of the database read the rows as they are inserted. -/
theorem zonesFit_iff {db : Db} {eventId : EventId}
    {zones : List ZoneConfigDto} :
    ZonesFit db eventId zones ↔
      (((SeatsService.zoneRows eventId zones).all fun zone =>
        isInt32 zone.capacity) = true ∧
      ((SeatsService.zoneRows eventId zones).all fun zone =>
        db.references zone.eventId zone.ticketTypeId) = true) := by
  simp only [SeatsService.zoneRows, List.all_map, List.all_eq_true,
    Function.comp]
  constructor
  · intro fit
    exact ⟨fit.sizes, fit.references⟩
  · rintro ⟨sizes, references⟩
    exact ⟨sizes, references⟩

theorem createZones_cases (db : Db) (eventId : EventId)
    (zones : List ZoneConfigDto) :
    ((∃ error, db.createZones (SeatsService.zoneRows eventId zones) =
        .error error) ∧ ¬ ZonesFit db eventId zones) ∨
    (db.createZones (SeatsService.zoneRows eventId zones) =
        .ok ((), db.withZones (SeatsService.zoneRows eventId zones)) ∧
      ZonesFit db eventId zones) := by
  rw [Db.createZones, zonesFit_iff]
  split
  · next sized =>
      split
      · next referenced => exact Or.inr ⟨rfl, sized, referenced⟩
      · next dangling =>
          exact Or.inl ⟨⟨_, rfl⟩, fun fit => dangling fit.2⟩
  · next oversized =>
      exact Or.inl ⟨⟨_, rfl⟩, fun fit => oversized fit.1⟩

theorem createSeats_cases (db : Db) (seats : List SeatRow) :
    (∃ error, db.createSeats seats = .error error) ∨
    db.createSeats seats = .ok ((), db.withSeats seats) := by
  rw [Db.createSeats]
  split
  · exact Or.inr rfl
  · exact Or.inl ⟨_, rfl⟩

/-- An update of an event keeps all references. -/
theorem references_withEvent (db : Db) (updated eventId : EventId)
    (data : EventUpdateInput) (ticketTypeId : Option TicketTypeId) :
    (db.withEvent updated data).references eventId ticketTypeId =
      db.references eventId ticketTypeId := by
  have known : ((db.withEvent updated data).events.find? eventId).isSome =
      (db.events.find? eventId).isSome := by
    rw [Db.withEvent, Table.find?_modify, Option.isSome_map]
  rw [Db.references, Db.references, known]
  rfl

theorem seatMapTransaction_of_event {event : Event}
    (row : db.events.find? eventId = some event) (seats : List SeatRow) :
    db.seatMapTransaction eventId seats =
      if seats.all fun seat =>
          db.references seat.eventId seat.ticketTypeId then
        let filled := (db.withEvent eventId
          { ticketModel := .value .seatMap }).withSeats seats
        .ok (filled.seatsOf eventId, filled)
      else .error .foreignKey := by
  rw [Db.seatMapTransaction, updateEvent_eq row rfl]
  change (Db.createSeats _ _ >>= fun filled =>
    pure (Db.seatsOf filled.2 eventId, filled.2)) = _
  simp only [Db.createSeats, references_withEvent]
  split <;> rfl

theorem zoneTransaction_of_event {event : Event}
    (row : db.events.find? eventId = some event) (zones : List Zone) :
    db.zoneTransaction eventId zones =
      if zones.all fun zone => isInt32 zone.capacity then
        if zones.all fun zone =>
            db.references zone.eventId zone.ticketTypeId then
          let filled := (db.withEvent eventId
            { ticketModel := .value .zone }).withZones zones
          .ok (filled.zonesOf eventId, filled)
        else .error .foreignKey
      else .error .valueOutOfRange := by
  rw [Db.zoneTransaction, updateEvent_eq row rfl]
  change (Db.createZones _ _ >>= fun filled =>
    pure (Db.zonesOf filled.2 eventId, filled.2)) = _
  simp only [Db.createZones, references_withEvent]
  split
  · split <;> rfl
  · rfl

def seatMapCreated (db : Db) (eventId : EventId)
    (sections : List SeatMapConfigDto) : Db :=
  (db.withEvent eventId { ticketModel := .value .seatMap }).withSeats
    (SeatsService.sectionSeats eventId sections)

def zonesCreated (db : Db) (eventId : EventId)
    (zones : List ZoneConfigDto) : Db :=
  (db.withEvent eventId { ticketModel := .value .zone }).withZones
    (SeatsService.zoneRows eventId zones)

private theorem seatMapTransaction_cases {eventId : EventId} {event : Event}
    (found : db.events.find? eventId = some event)
    (sections : List SeatMapConfigDto) :
    (∃ error, db.seatMapTransaction eventId
        (SeatsService.sectionSeats eventId sections) = .error error) ∨
    ∃ seats, db.seatMapTransaction eventId
        (SeatsService.sectionSeats eventId sections) =
      .ok (seats, seatMapCreated db eventId sections) := by
  rw [seatMapTransaction_of_event found]
  split
  · exact Or.inr ⟨_, rfl⟩
  · exact Or.inl ⟨_, rfl⟩

private theorem zoneTransaction_cases {eventId : EventId} {event : Event}
    (found : db.events.find? eventId = some event)
    (zones : List ZoneConfigDto) :
    ((∃ error, db.zoneTransaction eventId
        (SeatsService.zoneRows eventId zones) = .error error) ∧
      ¬ ZonesFit db eventId zones) ∨
    ((∃ rows, db.zoneTransaction eventId
        (SeatsService.zoneRows eventId zones) =
      .ok (rows, zonesCreated db eventId zones)) ∧
      ZonesFit db eventId zones) := by
  rw [zoneTransaction_of_event found, zonesFit_iff]
  split
  · next sized =>
      split
      · next referenced => exact Or.inr ⟨⟨_, rfl⟩, sized, referenced⟩
      · next dangling =>
          exact Or.inl ⟨⟨_, rfl⟩, fun fit => dangling fit.2⟩
  · next oversized =>
      exact Or.inl ⟨⟨_, rfl⟩, fun fit => oversized fit.1⟩

/-- The request to create zones passes all checks. -/
structure CreatesZones (db : Db) (organizerId : UserId) (eventId : EventId)
    (zones : List ZoneConfigDto) (event : Event) : Prop where
  isMutable : Mutable db organizerId eventId event
  blank : event.ticketModel = none
  fit : ZonesFit db eventId zones

private theorem createZones_request_cases (organizerId : UserId)
    (eventId : EventId) (zones : List ZoneConfigDto) (db : Db) :
    ((∀ event, ¬ CreatesZones db organizerId eventId zones event) ∧
      ((SeatsService.createZones organizerId eventId zones).run perform
        db).2 = db) ∨
    ∃ event, CreatesZones db organizerId eventId zones event ∧
      ((SeatsService.createZones organizerId eventId zones).run perform
        db).2 = zonesCreated db eventId zones := by
  rcases assertOwnerAndStatus_cases
      "Không thể chỉnh sửa sơ đồ khi sự kiện ở trạng thái " organizerId
      eventId db with
    ⟨error, refused, ran⟩ | ⟨event, isMutable, ran⟩
  · left
    constructor
    · intro event creates
      exact refused event creates.isMutable
    · rw [SeatsService.createZones, SeatsService.assertEventOwnerAndStatus,
        Program.run_bind_error ran]
  · have found := find?_of_ownEvent isMutable.1
    have same : ∀ other,
        CreatesZones db organizerId eventId zones other → event = other := by
      intro other creates
      exact Option.some.inj (isMutable.1.symm.trans creates.isMutable.1)
    rw [SeatsService.createZones, SeatsService.assertEventOwnerAndStatus,
      Program.run_bind_ok ran]
    by_cases laidOut : event.ticketModel.isSome = true
    · left
      rw [if_pos laidOut]
      refine ⟨?_, rfl⟩
      intro other creates
      rw [same other creates, creates.blank] at laidOut
      cases laidOut
    · rw [if_neg laidOut]
      have blank : event.ticketModel = none :=
        Option.not_isSome_iff_eq_none.mp laidOut
      rcases zoneTransaction_cases found zones with
        ⟨⟨error, failed⟩, unfit⟩ | ⟨⟨rows, created⟩, fit⟩
      · left
        have performed : perform
            (.zoneTransaction eventId (SeatsService.zoneRows eventId zones))
            db = (.error error, db) :=
          commit_error failed
        rw [run_reply performed]
        refine ⟨?_, rfl⟩
        intro other creates
        exact unfit creates.fit
      · right
        have performed : perform
            (.zoneTransaction eventId (SeatsService.zoneRows eventId zones))
            db = (.ok rows, zonesCreated db eventId zones) :=
          commit_ok created
        rw [run_reply performed]
        exact ⟨event, ⟨isMutable, blank, fit⟩, rfl⟩

/-- The request to create a seat map passes the checks that it makes. -/
structure CreatesSeatMap (db : Db) (organizerId : UserId) (eventId : EventId)
    (sections : List SeatMapConfigDto) (event : Event) : Prop where
  isMutable : Mutable db organizerId eventId event
  blank : event.ticketModel = none
  counted : Counted db eventId (SeatsService.ticketTypeIds sections)

theorem createSeatMap_request_cases (organizerId : UserId)
    (eventId : EventId) (sections : List SeatMapConfigDto) (db : Db) :
    ((SeatsService.createSeatMap organizerId eventId sections).run perform
        db).2 = db ∨
    ∃ event, CreatesSeatMap db organizerId eventId sections event ∧
      ((SeatsService.createSeatMap organizerId eventId sections).run perform
        db).2 = seatMapCreated db eventId sections := by
  rcases assertOwnerAndStatus_cases
      "Không thể chỉnh sửa sơ đồ khi sự kiện ở trạng thái " organizerId
      eventId db with
    ⟨error, _, ran⟩ | ⟨event, isMutable, ran⟩
  · left
    rw [SeatsService.createSeatMap, SeatsService.assertEventOwnerAndStatus,
      Program.run_bind_error ran]
  · have found := find?_of_ownEvent isMutable.1
    rw [SeatsService.createSeatMap, SeatsService.assertEventOwnerAndStatus,
      Program.run_bind_ok ran]
    by_cases laidOut : event.ticketModel.isSome = true
    · left
      rw [if_pos laidOut]
      rfl
    · rw [if_neg laidOut]
      have blank : event.ticketModel = none :=
        Option.not_isSome_iff_eq_none.mp laidOut
      rcases assertTicketTypesOwnership_cases eventId
          (SeatsService.ticketTypeIds sections) db with
        ⟨error, _, checked⟩ | ⟨counted, checked⟩
      · left
        rw [Program.run_bind_error checked]
      · rw [Program.run_bind_ok checked]
        rcases seatMapTransaction_cases found sections with
          ⟨error, failed⟩ | ⟨seats, created⟩
        · left
          have performed : perform
              (.seatMapTransaction eventId
                (SeatsService.sectionSeats eventId sections)) db =
              (.error error, db) :=
            commit_error failed
          rw [run_reply performed]
          rfl
        · right
          have performed : perform
              (.seatMapTransaction eventId
                (SeatsService.sectionSeats eventId sections)) db =
              (.ok seats, seatMapCreated db eventId sections) :=
            commit_ok created
          rw [run_reply performed]
          exact ⟨event, ⟨isMutable, blank, counted⟩, rfl⟩

/-- The part for the sections of `updateLayout` passes the checks that it
makes. -/
structure AddsSeats (db : Db) (organizerId : UserId) (eventId : EventId)
    (dto : UpdateSeatMapDto) (event : Event) : Prop where
  isMutable : Mutable db organizerId eventId event
  model : event.ticketModel = some .seatMap
  counted : Counted db eventId
    (SeatsService.ticketTypeIds (dto.addSections.getD []))

/-- The part for the zones of `updateLayout` is reached and passes all
checks. -/
structure AddsZones (db : Db) (organizerId : UserId) (eventId : EventId)
    (dto : UpdateSeatMapDto) (event : Event) : Prop where
  isMutable : Mutable db organizerId eventId event
  model : event.ticketModel = some .zone
  alone : dto.addSections.getD [] = []
  fit : ZonesFit db eventId (dto.addZones.getD [])

theorem addSections_cases (eventId : EventId) (event : Event)
    {sections : List SeatMapConfigDto} (nonempty : sections ≠ []) (db : Db) :
    (∃ error, (SeatsService.addSections eventId event sections).run perform
      db = (.error error, db)) ∨
    (event.ticketModel = some .seatMap ∧
      Counted db eventId (SeatsService.ticketTypeIds sections) ∧
      ∃ added, (SeatsService.addSections eventId event sections).run perform
        db = (.ok added,
          db.withSeats (SeatsService.sectionSeats eventId sections))) := by
  rw [SeatsService.addSections, if_neg nonempty]
  by_cases model : event.ticketModel = some .seatMap
  · rw [if_neg (not_not_intro model)]
    rcases assertTicketTypesOwnership_cases eventId
        (SeatsService.ticketTypeIds sections) db with
      ⟨error, _, checked⟩ | ⟨counted, checked⟩
    · left
      exact ⟨error, Program.run_bind_error checked _⟩
    · rw [Program.run_bind_ok checked]
      rcases createSeats_cases db
          (SeatsService.sectionSeats eventId sections) with
        ⟨error, failed⟩ | created
      · left
        have performed : perform
            (.createSeats (SeatsService.sectionSeats eventId sections)) db =
            (.error error, db) :=
          commit_error failed
        exact ⟨_, run_reply performed _⟩
      · right
        have performed : perform
            (.createSeats (SeatsService.sectionSeats eventId sections)) db =
            (.ok (), db.withSeats
              (SeatsService.sectionSeats eventId sections)) :=
          commit_ok created
        exact ⟨model, counted, _, run_reply performed _⟩
  · left
    rw [if_pos model]
    exact ⟨_, rfl⟩

/-- Without the model `ZONE` no zones are added. -/
theorem addZones_of_ne {event : Event}
    (other : event.ticketModel ≠ some .zone) (eventId : EventId)
    (zones : List ZoneConfigDto) (db : Db) :
    ((SeatsService.addZones eventId event zones).run perform db).2 = db := by
  rw [SeatsService.addZones]
  by_cases empty : zones = []
  · rw [if_pos empty]
    rfl
  · rw [if_neg empty, if_pos other]
    rfl

private theorem addZones_cases {event : Event}
    (model : event.ticketModel = some .zone) (eventId : EventId)
    (zones : List ZoneConfigDto) (db : Db) :
    (((SeatsService.addZones eventId event zones).run perform db).2 = db ∧
      ¬ ZonesFit db eventId zones) ∨
    (((SeatsService.addZones eventId event zones).run perform db).2 =
        db.withZones (SeatsService.zoneRows eventId zones) ∧
      ZonesFit db eventId zones) := by
  rw [SeatsService.addZones]
  by_cases empty : zones = []
  · right
    subst zones
    refine ⟨rfl, ?_, ?_⟩
    · intro zone member
      cases member
    · intro zone member
      cases member
  · rw [if_neg empty, if_neg (not_not_intro model)]
    rcases createZones_cases db eventId zones with
      ⟨⟨error, failed⟩, unfit⟩ | ⟨created, fit⟩
    · left
      have performed : perform
          (.createZones (SeatsService.zoneRows eventId zones)) db =
          (.error error, db) :=
        commit_error failed
      rw [run_reply performed]
      exact ⟨rfl, unfit⟩
    · right
      have performed : perform
          (.createZones (SeatsService.zoneRows eventId zones)) db =
          (.ok (), db.withZones (SeatsService.zoneRows eventId zones)) :=
        commit_ok created
      rw [run_reply performed]
      exact ⟨rfl, fit⟩

/-- The stores behind `program >>= next` when `next` only returns. -/
theorem snd_run_bind_return {β : Type} (program : Operation α)
    (result : α → β) (db : Db) :
    ((program >>= fun reply => pure (result reply)).run perform db).2 =
      (program.run perform db).2 := by
  rw [Program.run_bind]
  rcases program.run perform db with ⟨outcome, after⟩
  cases outcome with
  | ok reply => rfl
  | error error => rfl

theorem updateLayout_cases (organizerId : UserId) (eventId : EventId)
    (dto : UpdateSeatMapDto) (db : Db) :
    ((∀ event, ¬ AddsZones db organizerId eventId dto event) ∧
      (((SeatsService.updateLayout organizerId eventId dto).run perform
          db).2 = db ∨
        ∃ event, AddsSeats db organizerId eventId dto event ∧
          ((SeatsService.updateLayout organizerId eventId dto).run perform
            db).2 = db.withSeats
              (SeatsService.sectionSeats eventId
                (dto.addSections.getD [])))) ∨
    ∃ event, AddsZones db organizerId eventId dto event ∧
      ((SeatsService.updateLayout organizerId eventId dto).run perform
        db).2 = db.withZones
          (SeatsService.zoneRows eventId (dto.addZones.getD [])) := by
  rcases assertOwnerAndStatus_cases
      "Không thể chỉnh sửa sơ đồ khi sự kiện ở trạng thái " organizerId
      eventId db with
    ⟨error, refused, ran⟩ | ⟨event, isMutable, ran⟩
  · left
    constructor
    · intro event adds
      exact refused event adds.isMutable
    · left
      rw [SeatsService.updateLayout, SeatsService.assertEventOwnerAndStatus,
        Program.run_bind_error ran]
  · have same : ∀ other,
        AddsZones db organizerId eventId dto other → event = other := by
      intro other adds
      exact Option.some.inj (isMutable.1.symm.trans adds.isMutable.1)
    rw [SeatsService.updateLayout, SeatsService.assertEventOwnerAndStatus,
      Program.run_bind_ok ran]
    by_cases blank : event.ticketModel.isNone = true
    · left
      rw [if_pos blank]
      refine ⟨?_, Or.inl rfl⟩
      intro other adds
      rw [same other adds, adds.model] at blank
      cases blank
    · rw [if_neg blank]
      by_cases empty : dto.addSections.getD [] = []
      · rw [empty]
        have returned : (SeatsService.addSections eventId event []).run
            perform db = (.ok none, db) := rfl
        rw [Program.run_bind_ok returned, snd_run_bind_return]
        by_cases model : event.ticketModel = some .zone
        · rcases addZones_cases model eventId (dto.addZones.getD []) db with
            ⟨unchanged, unfit⟩ | ⟨added, fit⟩
          · left
            refine ⟨?_, Or.inl unchanged⟩
            intro other adds
            exact unfit adds.fit
          · right
            exact ⟨event, ⟨isMutable, model, empty, fit⟩, added⟩
        · left
          refine ⟨?_, Or.inl (addZones_of_ne model _ _ _)⟩
          intro other adds
          rw [same other adds] at model
          exact model adds.model
      · left
        refine ⟨fun other adds => empty adds.alone, ?_⟩
        rcases addSections_cases eventId event empty db with
          ⟨error, failed⟩ | ⟨model, counted, added, ranSections⟩
        · left
          rw [Program.run_bind_error failed]
        · right
          refine ⟨event, ⟨isMutable, model, counted⟩, ?_⟩
          rw [Program.run_bind_ok ranSections, snd_run_bind_return]
          apply addZones_of_ne
          rw [model]
          decide

/-! ## Requests -/

/-- A request whose success has an exact condition fails it. -/
def Refuses (db : Db) (organizerId : UserId) : Request → Prop
  | .updateTicketType ticketTypeId dto =>
      ∀ ticketType, ¬ Updates db organizerId ticketTypeId dto ticketType
  | .removeTicketType ticketTypeId =>
      ∀ ticketType, ¬ Removes db organizerId ticketTypeId ticketType
  | .createZones eventId zones =>
      ∀ event, ¬ CreatesZones db organizerId eventId zones event
  | .updateLayout eventId dto =>
      ∀ event, ¬ AddsZones db organizerId eventId dto event
  | _ => True

instance (db : Db) (organizerId : UserId) (eventId : EventId)
    (event : Event) : Decidable (Mutable db organizerId eventId event) :=
  inferInstanceAs (Decidable (_ ∧ _))

instance (db : Db) (organizerId : UserId) (ticketTypeId : TicketTypeId)
    (dto : UpdateTicketTypeDto) (ticketType : TicketType) :
    Decidable (Updates db organizerId ticketTypeId dto ticketType) :=
  decidable_of_iff (_ ∧ _ ∧ _ ∧ _)
    ⟨fun parts => ⟨parts.1, parts.2.1, parts.2.2.1, parts.2.2.2⟩,
      fun updates =>
        ⟨updates.own, updates.unsold, updates.enough, updates.accepted⟩⟩

instance (db : Db) (organizerId : UserId) (ticketTypeId : TicketTypeId)
    (ticketType : TicketType) :
    Decidable (Removes db organizerId ticketTypeId ticketType) :=
  decidable_of_iff (_ ∧ _ ∧ _)
    ⟨fun parts => ⟨parts.1, parts.2.1, parts.2.2⟩,
      fun removes => ⟨removes.own, removes.unsold, removes.unordered⟩⟩

instance (db : Db) (eventId : EventId) (zones : List ZoneConfigDto) :
    Decidable (ZonesFit db eventId zones) :=
  decidable_of_iff (_ ∧ _)
    ⟨fun parts => ⟨parts.1, parts.2⟩,
      fun fit => ⟨fit.sizes, fit.references⟩⟩

instance (db : Db) (organizerId : UserId) (eventId : EventId)
    (zones : List ZoneConfigDto) (event : Event) :
    Decidable (CreatesZones db organizerId eventId zones event) :=
  decidable_of_iff (_ ∧ _ ∧ _)
    ⟨fun parts => ⟨parts.1, parts.2.1, parts.2.2⟩,
      fun creates => ⟨creates.isMutable, creates.blank, creates.fit⟩⟩

instance (db : Db) (organizerId : UserId) (eventId : EventId)
    (dto : UpdateSeatMapDto) (event : Event) :
    Decidable (AddsZones db organizerId eventId dto event) :=
  decidable_of_iff (_ ∧ _ ∧ _ ∧ _)
    ⟨fun parts => ⟨parts.1, parts.2.1, parts.2.2.1, parts.2.2.2⟩,
      fun adds => ⟨adds.isMutable, adds.model, adds.alone, adds.fit⟩⟩

inductive Effect (db : Db) (organizerId : UserId) : Request → Db → Prop
  | refused (request : Request)
      (refuses : Refuses db organizerId request) :
      Effect db organizerId request db
  | eventCreated (dto : CreateEventDto) (profile : OrganizerId)
      (event : Event) (entry : AuditLog)
      (known : db.profileOf organizerId = some profile)
      (owner : event.organizerId = profile) :
      Effect db organizerId (.createEvent dto)
        ((db.withNewEvent event).logged entry)
  | eventUpdated (eventId : EventId) (dto : UpdateEventDto) (event : Event)
      (entry : AuditLog)
      (updates : UpdatesEvent db organizerId eventId dto event) :
      Effect db organizerId (.updateEvent eventId dto)
        ((db.withEvent eventId (EventsService.updateData dto)).logged entry)
  | eventSubmitted (eventId : EventId) (event : Event) (entry : AuditLog)
      (own : db.ownEvent organizerId eventId = some event)
      (submittable : event.status ∈ EventsService.submittableStatuses) :
      Effect db organizerId (.submitEvent eventId)
        ((db.withEvent eventId { status := .value .pendingApproval }).logged
          entry)
  | ticketTypeCreated (eventId : EventId) (dto : CreateTicketTypeDto)
      (event : Event) (ticketType : TicketType)
      (isMutable : Mutable db organizerId eventId event)
      (ofEvent : ticketType.eventId = eventId) :
      Effect db organizerId (.createTicketType eventId dto)
        (db.withNewTicketType ticketType)
  | ticketTypeUpdated (ticketTypeId : TicketTypeId)
      (dto : UpdateTicketTypeDto) (ticketType : TicketType)
      (updates : Updates db organizerId ticketTypeId dto ticketType) :
      Effect db organizerId (.updateTicketType ticketTypeId dto)
        (db.withTicketType ticketTypeId (TicketTypesService.updateData dto))
  | ticketTypeRemoved (ticketTypeId : TicketTypeId) (ticketType : TicketType)
      (removes : Removes db organizerId ticketTypeId ticketType) :
      Effect db organizerId (.removeTicketType ticketTypeId)
        (db.withoutTicketType ticketTypeId)
  | ticketTypeHidden (ticketTypeId : TicketTypeId) (ticketType : TicketType)
      (own : db.ownTicketType organizerId ticketTypeId = some ticketType) :
      Effect db organizerId (.hideTicketType ticketTypeId)
        (db.withTicketType ticketTypeId { isHidden := .value true })
  | seatMapCreated (eventId : EventId) (sections : List SeatMapConfigDto)
      (event : Event)
      (creates : CreatesSeatMap db organizerId eventId sections event) :
      Effect db organizerId (.createSeatMap eventId sections)
        (seatMapCreated db eventId sections)
  | zonesCreated (eventId : EventId) (zones : List ZoneConfigDto)
      (event : Event)
      (creates : CreatesZones db organizerId eventId zones event) :
      Effect db organizerId (.createZones eventId zones)
        (zonesCreated db eventId zones)
  | seatsAdded (eventId : EventId) (dto : UpdateSeatMapDto) (event : Event)
      (adds : AddsSeats db organizerId eventId dto event)
      (noZones : ∀ other, ¬ AddsZones db organizerId eventId dto other) :
      Effect db organizerId (.updateLayout eventId dto)
        (db.withSeats
          (SeatsService.sectionSeats eventId (dto.addSections.getD [])))
  | zonesAdded (eventId : EventId) (dto : UpdateSeatMapDto) (event : Event)
      (adds : AddsZones db organizerId eventId dto event) :
      Effect db organizerId (.updateLayout eventId dto)
        (db.withZones
          (SeatsService.zoneRows eventId (dto.addZones.getD [])))

theorem effect_serve (db : Db) (organizerId : UserId) (request : Request) :
    Effect db organizerId request (request.serve organizerId db).2 := by
  cases request with
  | createEvent dto =>
      rcases createEvent_request_cases organizerId dto db with
        unchanged | ⟨profile, event, entry, known, owner, changed⟩
      · rw [Request.serve, Request.operation, unchanged]
        exact .refused _ trivial
      · rw [Request.serve, Request.operation, changed]
        exact .eventCreated dto profile event entry known owner
  | updateEvent eventId dto =>
      rcases updateEvent_request_cases organizerId eventId dto db with
        unchanged | ⟨event, entry, updates, changed⟩
      · rw [Request.serve, Request.operation, unchanged]
        exact .refused _ trivial
      · rw [Request.serve, Request.operation, changed]
        exact .eventUpdated eventId dto event entry updates
  | submitEvent eventId =>
      rcases submit_cases organizerId eventId db with
        unchanged | ⟨event, entry, own, submittable, changed⟩
      · rw [Request.serve, Request.operation, unchanged]
        exact .refused _ trivial
      · rw [Request.serve, Request.operation, changed]
        exact .eventSubmitted eventId event entry own submittable
  | createTicketType eventId dto =>
      rcases createTicketType_request_cases organizerId eventId dto db with
        unchanged | ⟨event, ticketType, isMutable, ofEvent, changed⟩
      · rw [Request.serve, Request.operation, unchanged]
        exact .refused _ trivial
      · rw [Request.serve, Request.operation, changed]
        exact .ticketTypeCreated eventId dto event ticketType isMutable ofEvent
  | updateTicketType ticketTypeId dto =>
      rcases update_cases organizerId ticketTypeId dto db with
        ⟨refuses, unchanged⟩ | ⟨ticketType, updates, changed⟩
      · rw [Request.serve, Request.operation, unchanged]
        exact .refused _ refuses
      · rw [Request.serve, Request.operation, changed]
        exact .ticketTypeUpdated ticketTypeId dto ticketType updates
  | removeTicketType ticketTypeId =>
      rcases remove_cases organizerId ticketTypeId db with
        ⟨refuses, unchanged⟩ | ⟨ticketType, removes, changed⟩
      · rw [Request.serve, Request.operation, unchanged]
        exact .refused _ refuses
      · rw [Request.serve, Request.operation, changed]
        exact .ticketTypeRemoved ticketTypeId ticketType removes
  | hideTicketType ticketTypeId =>
      rcases hide_cases organizerId ticketTypeId db with
        unchanged | ⟨ticketType, own, changed⟩
      · rw [Request.serve, Request.operation, unchanged]
        exact .refused _ trivial
      · rw [Request.serve, Request.operation, changed]
        exact .ticketTypeHidden ticketTypeId ticketType own
  | createSeatMap eventId sections =>
      rcases createSeatMap_request_cases organizerId eventId sections db with
        unchanged | ⟨event, creates, changed⟩
      · rw [Request.serve, Request.operation, unchanged]
        exact .refused _ trivial
      · rw [Request.serve, Request.operation, changed]
        exact .seatMapCreated eventId sections event creates
  | createZones eventId zones =>
      rcases createZones_request_cases organizerId eventId zones db with
        ⟨refuses, unchanged⟩ | ⟨event, creates, changed⟩
      · rw [Request.serve, Request.operation, unchanged]
        exact .refused _ refuses
      · rw [Request.serve, Request.operation, changed]
        exact .zonesCreated eventId zones event creates
  | updateLayout eventId dto =>
      rcases updateLayout_cases organizerId eventId dto db with
        ⟨refuses, unchanged | ⟨event, adds, changed⟩⟩ |
          ⟨event, adds, changed⟩
      · rw [Request.serve, Request.operation, unchanged]
        exact .refused _ refuses
      · rw [Request.serve, Request.operation, changed]
        exact .seatsAdded eventId dto event adds refuses
      · rw [Request.serve, Request.operation, changed]
        exact .zonesAdded eventId dto event adds

inductive Step (db : Db) : Action → Db → Prop
  | outside (event : Outside) : Step db (.outside event) (event.apply db)
  | served (organizerId : UserId) (request : Request) (next : Db)
      (effect : Effect db organizerId request next) :
      Step db (.request organizerId request) next

theorem step_cases {next : Db} {action : Action}
    (stepped : step db action = some next) : Step db action next := by
  cases action with
  | outside event =>
      cases stepped
      exact .outside event
  | request organizerId request =>
      cases stepped
      exact .served organizerId request _ (effect_serve db organizerId request)

end Operations

end ConcertTicketing.Events
