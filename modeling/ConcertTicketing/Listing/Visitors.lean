import ConcertTicketing.Listing.Isolation

/-!
# What visitors read

The list of events and the details of an event show the `ACTIVE` events with
their ticket types that are not hidden, and their zones, and depend on nothing
else.  Drafts are not seen, nor what organizers do about them, and neither are
seats, users and orders.  A deleted ticket type is seen in the zones that name
it: `SET NULL` rewrites their rows, and the order of these can change.
-/

namespace ConcertTicketing.Listing

open Events

def published (db : Events.Db) : List (EventId × Event) :=
  db.events.select fun event => decide (event.status = .active)

def IsActive (db : Events.Db) (eventId : EventId) : Prop :=
  ∃ event ∈ db.events.find? eventId, event.status = .active

instance (db : Events.Db) (eventId : EventId) :
    Decidable (IsActive db eventId) :=
  inferInstanceAs (Decidable (∃ event ∈ db.events.find? eventId, _))

/-- What is published is the same. -/
structure SamePublic (before after : Events.Db) : Prop where
  events : published after = published before
  ticketTypes : ∀ eventId, IsActive before eventId →
    after.ticketTypesOf eventId = before.ticketTypesOf eventId
  zones : ∀ eventId, IsActive before eventId →
    after.zonesOf eventId = before.zonesOf eventId

def Reader.eventDetail (reader : Reader) (catalog : Events.Db)
    (eventId : EventId) (event : Event) : PublicDetail where
  toPublicEvent := publicEventSelect (eventId, reader.eventRecord eventId event)
  ticketTypes := (reader.ticketTypeRows.sort
    ((catalog.ticketTypesOf eventId).filter
      fun entry => !entry.2.isHidden)).map publicTicketType
  zones := (reader.zoneRows.sort (catalog.zonesOf eventId)).map publicZone

section Published

variable {before middle after : Events.Db}

private theorem isActive_iff {db : Events.Db} {eventId : EventId} :
    IsActive db eventId ↔ ∃ event, (eventId, event) ∈ published db := by
  simp only [IsActive, published, Table.mem_select, Option.mem_def,
    Table.find?_eq_some, decide_eq_true_eq]

private theorem isActive_same (same : published after = published before)
    {eventId : EventId} (active : IsActive before eventId) :
    IsActive after eventId := by
  rw [isActive_iff, same]
  exact isActive_iff.mp active

theorem SamePublic.refl (db : Events.Db) : SamePublic db db :=
  ⟨rfl, fun _ _ => rfl, fun _ _ => rfl⟩

theorem SamePublic.trans (early : SamePublic before middle)
    (late : SamePublic middle after) : SamePublic before after where
  events := late.events.trans early.events
  ticketTypes := fun eventId active =>
    (late.ticketTypes eventId (isActive_same early.events active)).trans
      (early.ticketTypes eventId active)
  zones := fun eventId active =>
    (late.zones eventId (isActive_same early.events active)).trans
      (early.zones eventId active)

def IsPublic : Query → Prop
  | .countEvents _ => True
  | .findEvents _ _ _ => True
  | .findPublicDetail _ => True
  | _ => False

/-- The list is cut out of the published events. -/
theorem matchingEvents_eq (reader : Reader) (shop : Shop)
    (filter : EventWhere) :
    (reader.listing shop).matchingEvents reader.collation filter =
      ((published shop.catalog).map fun entry =>
        (entry.1, reader.eventRecord entry.1 entry.2)).filter
          fun entry => filter.accepts reader.collation entry.2 := by
  have active : ∀ entry : EventId × Event,
      (filter.accepts reader.collation
          (reader.eventRecord entry.1 entry.2) &&
        decide (entry.2.status = .active)) =
          filter.accepts reader.collation
            (reader.eventRecord entry.1 entry.2) := by
    intro entry
    by_cases isActive : entry.2.status = .active
    · rw [decide_eq_true isActive, Bool.and_true]
    · have rejected : filter.accepts reader.collation
          (reader.eventRecord entry.1 entry.2) = false := by
        simp [EventWhere.accepts, Reader.eventRecord, isActive]
      rw [rejected, Bool.false_and]
  rw [Db.matchingEvents, Reader.listing, Table.select_view, published,
    Table.select, List.filter_map, List.filter_filter]
  simp only [Function.comp_def, active]

theorem publicDetail_eq (reader : Reader) (shop : Shop) (eventId : EventId) :
    reader.publicDetail shop eventId =
      ((shop.catalog.events.find? eventId).filter fun event =>
        decide (event.status = .active)).map
          (reader.eventDetail shop.catalog eventId) := by
  rw [Reader.publicDetail, Reader.listing, Table.find?_view,
    Option.filter_map, Option.map_map]
  rfl

private theorem publicDetail_same (same : SamePublic before after)
    (reader : Reader) (sales others : Sales) (eventId : EventId) :
    reader.publicDetail ⟨after, others⟩ eventId =
      reader.publicDetail ⟨before, sales⟩ eventId := by
  have event : ((after.events.find? eventId).filter fun event =>
        decide (event.status = .active)) =
      (before.events.find? eventId).filter fun event =>
        decide (event.status = .active) := by
    have listed : ∀ (db : Events.Db) (event : Event),
        (db.events.find? eventId).filter (fun event =>
          decide (event.status = .active)) = some event ↔
            (eventId, event) ∈ published db := by
      intro db event
      rw [Option.filter_eq_some_iff, Table.find?_eq_some, published,
        Table.mem_select]
    apply Option.ext
    intro event
    rw [listed, listed, same.events]
  rw [publicDetail_eq, publicDetail_eq, event]
  cases found : (before.events.find? eventId).filter fun event =>
      decide (event.status = .active) with
  | none => rfl
  | some shown =>
      obtain ⟨isEvent, active⟩ := Option.filter_eq_some_iff.mp found
      have isActive : IsActive before eventId :=
        ⟨shown, isEvent, of_decide_eq_true active⟩
      rw [Option.map_some, Option.map_some, Reader.eventDetail,
        Reader.eventDetail, same.ticketTypes eventId isActive,
        same.zones eventId isActive]

private theorem ask_public (same : SamePublic before after) (reader : Reader)
    (sales others : Sales) {query : Query} (isPublic : IsPublic query) :
    reader.ask query ⟨after, others⟩ = reader.ask query ⟨before, sales⟩ := by
  cases query with
  | countEvents filter =>
      rw [Reader.ask, Reader.ask, matchingEvents_eq, matchingEvents_eq,
        same.events]
  | findEvents filter skip take =>
      rw [Reader.ask, Reader.ask, matchingEvents_eq, matchingEvents_eq,
        same.events]
  | findPublicDetail eventId =>
      exact publicDetail_same same reader sales others eventId
  | _ => exact isPublic.elim

end Published

/-! ## What publishes something -/

/-- A zone of a published event has the ticket type. -/
def NamedByActive (db : Events.Db) (ticketTypeId : TicketTypeId) : Prop :=
  ∃ entry ∈ db.zones.rows, entry.2.ticketTypeId = some ticketTypeId ∧
    IsActive db entry.2.eventId

instance (db : Events.Db) (ticketTypeId : TicketTypeId) :
    Decidable (NamedByActive db ticketTypeId) :=
  inferInstanceAs (Decidable (∃ entry ∈ db.zones.rows, _))

/-- The command is to write to a published event, or to a ticket type or a
zone of one, be it by `SET NULL`.  The database may still refuse it. -/
def WritesActive (db : Events.Db) : Command → Prop
  | .updateEvent eventId _ => IsActive db eventId
  | .createTicketType data => IsActive db data.eventId
  | .updateTicketType ticketTypeId _ =>
      ∃ row ∈ db.ticketTypes.find? ticketTypeId, IsActive db row.eventId
  | .deleteTicketType ticketTypeId =>
      (∃ row ∈ db.ticketTypes.find? ticketTypeId, IsActive db row.eventId) ∨
        NamedByActive db ticketTypeId
  | .createZones zones => ∃ zone ∈ zones, IsActive db zone.eventId
  | .seatMapTransaction eventId _ => IsActive db eventId
  | .zoneTransaction eventId _ => IsActive db eventId
  | _ => False

instance (db : Events.Db) : DecidablePred (WritesActive db)
  | .updateEvent _ _ => inferInstanceAs (Decidable (IsActive _ _))
  | .createTicketType _ => inferInstanceAs (Decidable (IsActive _ _))
  | .updateTicketType ticketTypeId _ =>
      inferInstanceAs
        (Decidable (∃ row ∈ db.ticketTypes.find? ticketTypeId, _))
  | .deleteTicketType ticketTypeId =>
      inferInstanceAs
        (Decidable ((∃ row ∈ db.ticketTypes.find? ticketTypeId, _) ∨ _))
  | .createZones zones => inferInstanceAs (Decidable (∃ zone ∈ zones, _))
  | .seatMapTransaction _ _ => inferInstanceAs (Decidable (IsActive _ _))
  | .zoneTransaction _ _ => inferInstanceAs (Decidable (IsActive _ _))
  | .findProfile _ => isFalse id
  | .findEvent _ _ => isFalse id
  | .findTicketType _ _ => isFalse id
  | .countTicketTypes _ _ => isFalse id
  | .createAuditLog _ => isFalse id
  | .createEvent _ => isFalse id
  | .createSeats _ => isFalse id

/-- A review that publishes or concerns a published event, a sale of one, or a
command that is to write to one. -/
def Publishes (state : ShopState) : ShopAction → Prop
  | .organizers (.external (.reviewed eventId status)) =>
      IsActive state.catalog eventId ∨ status = .active
  | .organizers (.external (.sold ticketTypeId _)) =>
      ∃ row ∈ state.catalog.ticketTypes.find? ticketTypeId,
        IsActive state.catalog row.eventId
  | .organizers (.external _) => False
  | .organizers action =>
      ∃ applied ∈ appliedFor state.organizers action,
        WritesActive state.catalog applied.2
  | _ => False

instance (state : ShopState) : DecidablePred (Publishes state)
  | .organizers (.external (.reviewed _ _)) =>
      inferInstanceAs (Decidable (_ ∨ _))
  | .organizers (.external (.sold ticketTypeId _)) =>
      inferInstanceAs
        (Decidable (∃ row ∈ state.catalog.ticketTypes.find? ticketTypeId, _))
  | .organizers (.external (.registered _)) => isFalse id
  | .organizers (.external (.ordered _)) => isFalse id
  | .organizers (.request input) =>
      inferInstanceAs (Decidable
        (∃ applied ∈ appliedFor state.organizers (.request input), _))
  | .organizers (.await index outcome) =>
      inferInstanceAs (Decidable
        (∃ applied ∈ appliedFor state.organizers (.await index outcome), _))
  | .join _ => isFalse id
  | .edit _ _ => isFalse id
  | .price _ _ => isFalse id
  | .order _ => isFalse id
  | .settle _ _ _ _ => isFalse id

section Steps

variable {db after : Events.Db} {organizerId : UserId} {command : Command}

theorem SamePublic.same (events : after.events = db.events)
    (ticketTypes : after.ticketTypes = db.ticketTypes)
    (zones : after.zones = db.zones) : SamePublic db after where
  events := by
    rw [published, events]
    rfl
  ticketTypes := by
    intro eventId _
    rw [Events.Db.ticketTypesOf, ticketTypes]
    rfl
  zones := by
    intro eventId _
    rw [Events.Db.zonesOf, zones]
    rfl

/-- An event that is not published is changed and stays so. -/
theorem published_modify {eventId : EventId} {change : Event → Event}
    (hidden : ¬ IsActive db eventId)
    (stays : ∀ event, event.status ≠ .active →
      (change event).status ≠ .active) :
    (db.events.modify eventId change).select
        (fun event => decide (event.status = .active)) = published db := by
  have inactive : ∀ event, (eventId, event) ∈ db.events.rows →
      event.status ≠ .active := by
    intro event member active
    exact hidden ⟨event, Table.find?_eq_some.mpr member, active⟩
  apply Table.select_mapRows_eq
  · rintro ⟨key, event⟩ member
    dsimp only
    split
    · next same =>
        subst same
        have was := inactive event member
        rw [decide_eq_false was, decide_eq_false (stays event was)]
    · rfl
  · rintro ⟨key, event⟩ member active
    dsimp only
    split
    · next same =>
        subst same
        exact (inactive event member (of_decide_eq_true active)).elim
    · rfl

namespace SamePublic

theorem withNewEvent {event : Event} (draft : event.status ≠ .active) :
    SamePublic db (db.withNewEvent event) :=
  ⟨Table.select_insert _ _ _ (decide_eq_false draft), fun _ _ => rfl,
    fun _ _ => rfl⟩

theorem withEvent {eventId : EventId} {data : EventUpdateInput}
    (hidden : ¬ IsActive db eventId)
    (allowed : data.status ∈ [Member.undefined, .value .pendingApproval]) :
    SamePublic db (db.withEvent eventId data) := by
  refine ⟨published_modify hidden ?_, fun _ _ => rfl, fun _ _ => rfl⟩
  intro event inactive
  rw [EventUpdateInput.writeOver]
  rcases List.mem_cons.mp allowed with undefined | pending
  · rw [undefined]
    exact inactive
  · rw [List.mem_singleton.mp pending]
    intro active
    cases active

/-- Ticket types of an event that is not published change. -/
theorem ofTicketTypes (events : after.events = db.events)
    (zones : after.zones = db.zones) {changed : EventId}
    (hidden : ¬ IsActive db changed)
    (others : ∀ eventId, changed ≠ eventId →
      after.ticketTypesOf eventId = db.ticketTypesOf eventId) :
    SamePublic db after where
  events := by
    rw [published, events]
    rfl
  ticketTypes := by
    intro eventId active
    have different : changed ≠ eventId := by
      intro same
      rw [same] at hidden
      exact hidden active
    exact others eventId different
  zones := by
    intro eventId _
    rw [Events.Db.zonesOf, zones]
    rfl

theorem withNewTicketType {new : TicketType}
    (hidden : ¬ IsActive db new.eventId) :
    SamePublic db (db.withNewTicketType new) :=
  .ofTicketTypes rfl rfl hidden fun _ different =>
    Events.Db.ticketTypesOf_withNewTicketType different

theorem withTicketType {ticketTypeId : TicketTypeId} {row : TicketType}
    (found : db.ticketTypes.find? ticketTypeId = some row)
    (hidden : ¬ IsActive db row.eventId) (data : TicketTypeUpdateInput) :
    SamePublic db (db.withTicketType ticketTypeId data) :=
  .ofTicketTypes rfl rfl hidden fun _ different =>
    Events.Db.ticketTypesOf_withTicketType found different data

/-- `SET NULL` rewrites no zone of a published event. -/
theorem withoutTicketType {removed : TicketTypeId} {row : TicketType}
    (found : db.ticketTypes.find? removed = some row)
    (hidden : ¬ IsActive db row.eventId)
    (unnamed : ¬ NamedByActive db removed) :
    SamePublic db (db.withoutTicketType removed) := by
  have types : SamePublic db
      { db with ticketTypes := db.ticketTypes.erase removed } :=
    .ofTicketTypes rfl rfl hidden fun _ different =>
      Events.Db.ticketTypesOf_withoutTicketType found different
  refine ⟨rfl, types.ticketTypes, ?_⟩
  intro eventId active
  apply Events.Db.zonesOf_withoutTicketType_iff.mpr
  rintro ⟨zoneId, zone⟩ member ofEvent names
  subst ofEvent
  exact unnamed ⟨(zoneId, zone), member, names, active⟩

theorem withSeats (seats : List SeatRow) :
    SamePublic db (db.withSeats seats) := .same rfl rfl rfl

theorem withZones {zones : List Zone}
    (hidden : ∀ zone ∈ zones, ¬ IsActive db zone.eventId) :
    SamePublic db (db.withZones zones) := by
  refine ⟨rfl, fun _ _ => rfl, ?_⟩
  intro eventId active
  have others : ∀ zone ∈ zones, decide (zone.eventId = eventId) = false := by
    intro zone member
    refine decide_eq_false ?_
    intro same
    rw [← same] at active
    exact hidden zone member active
  exact Table.select_insertMany others db.zones

/-- The model of the event, and zones of it. -/
theorem withZoneLayout {eventId : EventId} (hidden : ¬ IsActive db eventId)
    (configs : List ZoneConfigDto) :
    SamePublic db ((db.withEvent eventId
      { ticketModel := .value .zone }).withZones
        (SeatsService.zoneRows eventId configs)) := by
  have labelled : SamePublic db (db.withEvent eventId
      { ticketModel := .value .zone }) := .withEvent hidden (by decide)
  refine labelled.trans (.withZones ?_)
  intro zone member active
  obtain ⟨config, _, rfl⟩ := List.mem_map.mp member
  rw [isActive_iff, labelled.events] at active
  exact hidden (isActive_iff.mpr active)

end SamePublic

/-- A command of a request that writes to no published event. -/
theorem samePublic_written (allowed : Allows organizerId command db)
    (writes : Written db command after)
    (hidden : ¬ WritesActive db command) : SamePublic db after := by
  cases writes with
  | eventCreated data event _ status =>
      apply SamePublic.withNewEvent
      rw [status]
      intro active
      have cases := allowed.2
      rw [active] at cases
      exact absurd cases (by decide)
  | eventUpdated eventId data => exact .withEvent hidden allowed.2
  | ticketTypeCreated data new ofEvent =>
      apply SamePublic.withNewTicketType
      rw [ofEvent]
      exact hidden
  | ticketTypeUpdated ticketTypeId data row found =>
      exact .withTicketType found (fun active => hidden ⟨row, found, active⟩)
        data
  | ticketTypeDeleted removed row found =>
      obtain ⟨otherEvent, unnamed⟩ := not_or.mp hidden
      exact .withoutTicketType found
        (fun active => otherEvent ⟨row, found, active⟩) unnamed
  | zonesCreated zones =>
      exact .withZones fun zone member active => hidden ⟨zone, member, active⟩
  | seatMapCreated eventId seats _ =>
      have labelled : SamePublic db (db.withEvent eventId
          { ticketModel := .value .seatMap }) := .withEvent hidden (by decide)
      exact labelled.trans (.withSeats seats)
  | zoneLayoutCreated eventId zones =>
      obtain ⟨_, configs, rfl⟩ := allowed
      exact .withZoneLayout hidden configs
  | _ => exact .same rfl rfl rfl

private theorem samePublic_outside {state : ShopState} {event : Outside}
    (hidden : ¬ Publishes state (.organizers (.external event))) :
    SamePublic state.catalog (event.apply state.catalog) := by
  cases event with
  | registered userId =>
      rw [Outside.apply]
      split
      · exact .refl _
      · exact .same rfl rfl rfl
  | reviewed eventId status =>
      have parts := not_or.mp hidden
      exact ⟨published_modify parts.1 fun _ _ => parts.2, fun _ _ => rfl,
        fun _ _ => rfl⟩
  | sold ticketTypeId count =>
      refine ⟨rfl, ?_, fun _ _ => rfl⟩
      intro eventId active
      have others : (state.catalog.ticketTypes.modify ticketTypeId
          fun ticketType => { ticketType with sold := count }).select
            (fun ticketType => decide (ticketType.eventId = eventId)) =
          state.catalog.ticketTypesOf eventId := by
        apply Table.select_modify
        · intro row
          rfl
        · intro row member
          refine decide_eq_false ?_
          intro same
          rw [← same] at active
          exact hidden ⟨row, Table.find?_eq_some.mpr member, active⟩
      exact others
  | ordered ticketTypeId =>
      rw [Outside.apply]
      split
      · exact .same rfl rfl rfl
      · exact .refl _

/-- A step that publishes nothing is not seen. -/
theorem samePublic_step {state next : ShopState} {action : ShopAction}
    (sound : ShopSound state) (stepped : shopStep state action = some next)
    (hidden : ¬ Publishes state action) :
    SamePublic state.catalog next.catalog := by
  cases action with
  | organizers action =>
      obtain ⟨organizers, taken, rfl⟩ := Option.map_eq_some_iff.mp stepped
      change SamePublic state.organizers.stores organizers.stores
      rcases stores_cases taken with
        ⟨event, rfl, same⟩ | ⟨input, command, applies, same⟩ | ⟨_, _, same⟩
      · rw [same]
        exact samePublic_outside hidden
      · have allowed := sound.organizers.allowed OwnersStay.refl applies
        have unpublished : ¬ WritesActive state.catalog command := by
          intro published
          apply hidden
          obtain ⟨_, _, _, _, rfl, _⟩ := appliedFor_eq_some.mp applies
          exact ⟨(input, command), applies, published⟩
        rw [same]
        exact samePublic_written allowed (written state.catalog command)
          unpublished
      · rw [same]
        exact .refl _
  | price eventId seatId =>
      obtain ⟨priced, _, rfl⟩ := Option.map_eq_some_iff.mp stepped
      exact .refl _
  | order order =>
      rw [shopStep] at stepped
      split at stepped
      · cases stepped
        rw [ShopState.catalog, ShopState.withOrder, withItems_eq]
        exact .same rfl rfl rfl
      · cases stepped
  | _ =>
      cases stepped
      exact .refl _

end Steps

/-! ## Requests served one at a time -/

/-- A request, and none about a ticket type of a published event, nor one that
removes a ticket type which a zone of a published event has. -/
def SparesActive (db : Events.Db) : Events.Action → Prop
  | .request _ (.updateTicketType ticketTypeId _) =>
      ∀ row ∈ db.ticketTypes.find? ticketTypeId, ¬ IsActive db row.eventId
  | .request _ (.removeTicketType ticketTypeId) =>
      (∀ row ∈ db.ticketTypes.find? ticketTypeId,
        ¬ IsActive db row.eventId) ∧ ¬ NamedByActive db ticketTypeId
  | .request _ (.hideTicketType ticketTypeId) =>
      ∀ row ∈ db.ticketTypes.find? ticketTypeId, ¬ IsActive db row.eventId
  | .request _ _ => True
  | .outside _ => False

instance (db : Events.Db) : DecidablePred (SparesActive db)
  | .outside _ => isFalse id
  | .request _ request =>
      match request with
      | .updateTicketType ticketTypeId _ =>
          inferInstanceAs
            (Decidable (∀ row ∈ db.ticketTypes.find? ticketTypeId, _))
      | .removeTicketType ticketTypeId =>
          inferInstanceAs
            (Decidable ((∀ row ∈ db.ticketTypes.find? ticketTypeId, _) ∧ _))
      | .hideTicketType ticketTypeId =>
          inferInstanceAs
            (Decidable (∀ row ∈ db.ticketTypes.find? ticketTypeId, _))
      | .createEvent _ => isTrue trivial
      | .updateEvent _ _ => isTrue trivial
      | .submitEvent _ => isTrue trivial
      | .createTicketType _ _ => isTrue trivial
      | .createSeatMap _ _ => isTrue trivial
      | .createZones _ _ => isTrue trivial
      | .updateLayout _ _ => isTrue trivial

section Requests

variable {db : Events.Db} {organizerId : UserId}

private theorem not_isActive_of_ownEvent {eventId : EventId} {event : Event}
    (own : db.ownEvent organizerId eventId = some event)
    (inactive : event.status ≠ .active) : ¬ IsActive db eventId := by
  rintro ⟨other, found, active⟩
  rw [Option.mem_def, find?_of_ownEvent own] at found
  cases found
  exact inactive active

/-- The checks of the status let no published event through. -/
theorem not_isActive_of_mutable {eventId : EventId} {event : Event}
    (isMutable : Mutable db organizerId eventId event) :
    ¬ IsActive db eventId := by
  refine not_isActive_of_ownEvent isMutable.1 ?_
  intro active
  have status := isMutable.2
  rw [active] at status
  exact absurd status (by decide)

private theorem status_of_createEvent {data : EventCreateInput}
    {created : (EventId × Event) × Events.Db}
    (wrote : db.createEvent data = .ok created) :
    created.1.2.status = data.status := by
  rw [Events.Db.createEvent] at wrote
  split at wrote
  · split at wrote
    · cases wrote
      rfl
    · cases wrote
  · cases wrote

/-- A new event is a draft or waits for its review. -/
theorem samePublic_createEvent (dto : CreateEventDto) :
    SamePublic db
      ((Request.createEvent dto).serve organizerId db).2 := by
  rw [Request.serve, Request.operation, Events.EventsService.create]
  rcases findProfile_cases organizerId db with
    ⟨error, _, ran⟩ | ⟨profile, _, ran⟩
  · rw [Program.run_bind_error ran]
    exact .refl db
  · rw [Program.run_bind_ok ran]
    let data : EventCreateInput :=
      { organizerId := profile
        title := dto.title
        description := dto.description
        category := dto.category
        startTime := dto.startTime
        endTime := dto.endTime
        venue := dto.venue
        bannerUrl := dto.bannerUrl
        maxTicketsPerUser := dto.maxTicketsPerUser.getD 4
        status := if dto.action = some .submit then .pendingApproval
          else .draft }
    rcases createEvent_cases db data with
      ⟨error, failed⟩ | ⟨event, _, created⟩
    · have performed : perform (.createEvent data) db = (.error error, db) :=
        commit_error failed
      rw [run_reply performed]
      exact .refl db
    · have performed : perform (.createEvent data) db =
          (.ok (db.events.nextKey, event), db.withNewEvent event) :=
        commit_ok created
      rw [run_reply performed]
      have draft : event.status ≠ .active := by
        rw [status_of_createEvent created]
        dsimp only [data]
        split <;> decide
      exact (SamePublic.withNewEvent draft).trans (.same rfl rfl rfl)

private theorem samePublic_serve {request : Request}
    (spares : SparesActive db (.request organizerId request)) :
    SamePublic db (request.serve organizerId db).2 := by
  have effect := effect_serve db organizerId request
  generalize served : (request.serve organizerId db).2 = next at effect ⊢
  cases effect with
  | refused request _ => exact .refl db
  | eventCreated dto profile event entry known owner =>
      rw [← served]
      exact samePublic_createEvent dto
  | eventUpdated eventId dto event entry updates =>
      have inactive : event.status ≠ .active := by
        intro active
        have editable := updates.editable
        rw [active] at editable
        exact absurd editable (by decide)
      have hidden := not_isActive_of_ownEvent updates.own inactive
      have written : SamePublic db (db.withEvent eventId
          (Events.EventsService.updateData dto)) :=
        .withEvent hidden List.mem_cons_self
      exact written.trans (.same rfl rfl rfl)
  | eventSubmitted eventId event entry own submittable =>
      have inactive : event.status ≠ .active := by
        intro active
        rw [active] at submittable
        exact absurd submittable (by decide)
      have hidden := not_isActive_of_ownEvent own inactive
      have written : SamePublic db (db.withEvent eventId
          { status := .value .pendingApproval }) :=
        .withEvent hidden (by decide)
      exact written.trans (.same rfl rfl rfl)
  | ticketTypeCreated eventId dto event ticketType isMutable ofEvent =>
      apply SamePublic.withNewTicketType
      rw [ofEvent]
      exact not_isActive_of_mutable isMutable
  | ticketTypeUpdated ticketTypeId dto ticketType updates =>
      have found := find?_of_ownTicketType updates.own
      exact .withTicketType found (spares ticketType found) _
  | ticketTypeRemoved ticketTypeId ticketType removes =>
      have found := find?_of_ownTicketType removes.own
      exact .withoutTicketType found (spares.1 ticketType found) spares.2
  | ticketTypeHidden ticketTypeId ticketType own =>
      have found := find?_of_ownTicketType own
      exact .withTicketType found (spares ticketType found) _
  | seatMapCreated eventId sections event creates =>
      have hidden := not_isActive_of_mutable creates.isMutable
      have labelled : SamePublic db (db.withEvent eventId
          { ticketModel := .value .seatMap }) := .withEvent hidden (by decide)
      exact labelled.trans (.withSeats _)
  | zonesCreated eventId zones event creates =>
      exact .withZoneLayout (not_isActive_of_mutable creates.isMutable) zones
  | seatsAdded eventId dto event adds _ => exact .withSeats _
  | zonesAdded eventId dto event adds =>
      apply SamePublic.withZones
      intro zone member
      obtain ⟨config, _, rfl⟩ := List.mem_map.mp member
      exact not_isActive_of_mutable adds.isMutable

end Requests

inductive VisitorRead where
  | listPublic (query : EventListQueryDto)
  | getPublicDetail (eventId : EventId)
  deriving DecidableEq

inductive VisitorAnswer where
  | events (page : Page PublicEvent)
  | event (detail : PublicDetail)
  deriving DecidableEq, Repr

def VisitorRead.program : VisitorRead → Read VisitorAnswer
  | .listPublic query => do
      return .events (← EventsService.listPublic query)
  | .getPublicDetail eventId => do
      return .event (← EventsService.getPublicDetail eventId)

private theorem onlyAsks_public (reader : Reader) (shop : Shop)
    (read : VisitorRead) :
    read.program.OnlyAsks reader.ask IsPublic shop := by
  cases read with
  | listPublic query =>
      have asks : (EventsService.listPublic query).OnlyAsks reader.ask
          IsPublic shop := by
        refine (Program.onlyAsks_ofExcept query.toWhere).bind ?_
        intro filter _
        exact ⟨trivial, trivial, trivial⟩
      exact asks.bind fun _ _ => trivial
  | getPublicDetail eventId =>
      have asks : (EventsService.getPublicDetail eventId).OnlyAsks reader.ask
          IsPublic shop := by
        refine Program.OnlyAsks.bind (Program.onlyAsks_call trivial) ?_
        intro reply _
        cases reply with
        | none => trivial
        | some detail => trivial
      exact asks.bind fun _ _ => trivial

section Runs

variable {state last : ShopState} {history later : ShopHistory}

private theorem samePublic_run (sound : ShopSound state)
    (continuation : Trace shopStep state later last)
    (hidden : StepsMeet (fun before action => ¬ Publishes before action)
      later) :
    ∀ reached ∈ visited later last,
      SamePublic state.catalog reached.catalog := by
  intro reached isVisited
  have both : ShopSound reached ∧
      SamePublic state.catalog reached.catalog := by
    refine continuation.invariantVisited _ (fun current => ShopSound current ∧
      SamePublic state.catalog current.catalog)
      ⟨sound, .refl state.catalog⟩ ?_ hidden reached isVisited
    intro before action after holds unpublished stepped
    exact ⟨holds.1.step stepped,
      holds.2.trans (samePublic_step holds.1 stepped unpublished)⟩
  exact both.2

/-- Requests that are served one at a time show in no list and in no details
of an event, unless they are about a ticket type of a published event or
remove one that a zone of a published event has. -/
theorem requests_unseen {first final : Events.Db}
    {requests : List (Events.Db × Events.Action)}
    (run : Trace Events.step first requests final)
    (spares : StepsMeet SparesActive requests)
    (reader : Reader) (sales : Sales) (read : VisitorRead)
    {answer : Except ServiceError VisitorAnswer}
    (answered : read.program.Answered reader.ask
      (fun shop => ∃ reached ∈ visited requests final,
        shop = ⟨reached, sales⟩) answer) :
    answer = read.program.answerAt reader.ask ⟨first, sales⟩ := by
  refine answered.eq_answerAt ?_ (onlyAsks_public reader _ read)
  rintro _ ⟨reached, isVisited, rfl⟩ query isPublic
  refine ask_public ?_ reader sales sales isPublic
  refine run.invariantVisited _ (SamePublic first) (.refl first) ?_ spares
    reached isVisited
  intro before action after same spared stepped
  cases action with
  | outside event => exact spared.elim
  | request organizerId request =>
      cases stepped
      exact same.trans (samePublic_serve spared)

/-- However the queries of a read are spread over steps that publish nothing,
the visitor gets the answer of the moment before. -/
theorem drafts_unseen (run : Trace shopStep .init history state)
    (continuation : Trace shopStep state later last)
    (hidden : StepsMeet (fun before action => ¬ Publishes before action)
      later)
    (reader : Reader) (read : VisitorRead)
    {answer : Except ServiceError VisitorAnswer}
    (answered : read.program.Answered reader.ask
      (fun shop => ∃ reached ∈ visited later last, reached.shop = shop)
      answer) :
    answer = read.program.answerAt reader.ask state.shop := by
  have sound := shopSound_of_run run
  refine answered.eq_answerAt ?_ (onlyAsks_public reader state.shop read)
  rintro _ ⟨reached, isVisited, rfl⟩ query isPublic
  exact ask_public (samePublic_run sound continuation hidden reached isVisited)
    reader state.sales reached.sales isPublic

end Runs

def opening : List ShopAction :=
  selling ++ [.organizers (.external (.reviewed 0 .active))]

private theorem opening_enabled :
    (replay shopStep [] .init opening).isSome = true := by
  decide +kernel

def afterOpening : ShopHistory × ShopState :=
  (replay shopStep [] .init opening).get opening_enabled

def renamed : UpdateEventDto := { title := .value "Encore" }

/-- The second event gets another title, and seats of both are sold. -/
def drafting : List ShopAction :=
  [.organizers (.request ⟨20, .updateEvent 1 renamed⟩)] ++ served 6 4 ++
    [.price 0 1, .order (purchaseOf 0 1), .price 1 2,
      .order (purchaseOf 1 2)]

private theorem drafting_enabled :
    (replay shopStep [] afterOpening.2 drafting).isSome = true := by
  decide +kernel

def afterDrafting : ShopHistory × ShopState :=
  (replay shopStep [] afterOpening.2 drafting).get drafting_enabled

private theorem drafting_hidden :
    StepsMeet (fun before action => ¬ Publishes before action)
      afterDrafting.1 := by
  decide +kernel

theorem drafts_unseen_drafting :
    (VisitorRead.listPublic (eventsPerPage 5)).program.answerAt
        plainReader.ask afterDrafting.2.shop =
      (VisitorRead.listPublic (eventsPerPage 5)).program.answerAt
        plainReader.ask afterOpening.2.shop :=
  drafts_unseen (Trace.of_replay_get opening opening_enabled)
    (Trace.of_replay_get drafting drafting_enabled) drafting_hidden
    plainReader (.listPublic (eventsPerPage 5))
    (Program.answered_answerAt ⟨afterDrafting.2, List.mem_cons_self, rfl⟩ _)

/-- The second organizer writes to the own draft, and to the published event
of the first one without success. -/
def requesting : List Events.Action :=
  [.request 20 (.updateEvent 1 renamed), .request 20 (.updateEvent 0 renamed),
    .request 10 (.updateEvent 0 renamed), .request 20 (.removeTicketType 1),
    .request 20 (.createEvent Events.concert)]

private theorem requesting_enabled :
    (replay Events.step [] afterOpening.2.catalog requesting).isSome =
      true := by
  decide +kernel

def afterRequesting : List (Events.Db × Events.Action) × Events.Db :=
  (replay Events.step [] afterOpening.2.catalog requesting).get
    requesting_enabled

private theorem requesting_spares :
    StepsMeet SparesActive afterRequesting.1 := by
  decide +kernel

theorem requests_unseen_requesting :
    (VisitorRead.getPublicDetail 0).program.answerAt plainReader.ask
        ⟨afterRequesting.2, afterOpening.2.sales⟩ =
      (VisitorRead.getPublicDetail 0).program.answerAt plainReader.ask
        ⟨afterOpening.2.catalog, afterOpening.2.sales⟩ :=
  requests_unseen (Trace.of_replay_get requesting requesting_enabled)
    requesting_spares plainReader afterOpening.2.sales (.getPublicDetail 0)
    (Program.answered_answerAt
      ⟨afterRequesting.2, List.mem_cons_self, rfl⟩ _)

end ConcertTicketing.Listing
