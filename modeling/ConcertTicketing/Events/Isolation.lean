import ConcertTicketing.Events.Frame

/-!
# Rows of other organizers

Every operation checks that its direct target belongs to the caller.  A zone
can refer to a ticket type of another organizer's event, though, and when that
ticket type is deleted, `SET NULL` rewrites the zone.  The rows of the other
organizers' events stay as they are exactly as long as no deletion meets such
a zone.
-/

namespace ConcertTicketing.Events

/-- The event exists, and its organizer is somebody else. -/
def Foreign (db : Db) (organizerId : UserId) (eventId : EventId) : Prop :=
  ∃ event ∈ db.events.find? eventId,
    db.profileOf organizerId ≠ some event.organizerId

instance (db : Db) (organizerId : UserId) (eventId : EventId) :
    Decidable (Foreign db organizerId eventId) :=
  inferInstanceAs (Decidable (∃ event ∈ db.events.find? eventId, _))

/-- No row of another organizer's event is created, changed or deleted. -/
structure Isolates (db next : Db) (organizerId : UserId) : Prop where
  events : ∀ eventId event, db.profileOf organizerId ≠
      some event.organizerId →
    (next.events.find? eventId = some event ↔
      db.events.find? eventId = some event)
  ticketTypes : ∀ eventId, Foreign db organizerId eventId →
    next.ticketTypesOf eventId = db.ticketTypesOf eventId
  seats : ∀ eventId, Foreign db organizerId eventId →
    next.seatRowsOf eventId = db.seatRowsOf eventId
  zones : ∀ eventId, Foreign db organizerId eventId →
    next.zonesOf eventId = db.zonesOf eventId

/-- The step of an organizer isolates the other ones. -/
def IsolatesTenants (db : Db) : Action → Prop
  | .request organizerId request =>
      ∀ next, step db (.request organizerId request) = some next →
        Isolates db next organizerId
  | .outside _ => True

/-- A ticket type that goes is not named by a zone of another organizer's
event. -/
def SparesForeignZones (db : Db) : Action → Prop
  | .request organizerId (.removeTicketType ticketTypeId) =>
      ∀ ticketType ∈ db.ownTicketType organizerId ticketTypeId,
        Removes db organizerId ticketTypeId ticketType →
        ∀ entry ∈ db.zones.rows,
          entry.2.ticketTypeId = some ticketTypeId →
          ¬ Foreign db organizerId entry.2.eventId
  | _ => True

instance (db : Db) : DecidablePred (SparesForeignZones db)
  | .outside _ => isTrue trivial
  | .request organizerId request =>
      match request with
      | .removeTicketType ticketTypeId =>
          inferInstanceAs
            (Decidable (∀ ticketType ∈
              db.ownTicketType organizerId ticketTypeId, _ → _))
      | .createEvent _ => isTrue trivial
      | .updateEvent _ _ => isTrue trivial
      | .submitEvent _ => isTrue trivial
      | .createTicketType _ _ => isTrue trivial
      | .updateTicketType _ _ => isTrue trivial
      | .hideTicketType _ => isTrue trivial
      | .createSeatMap _ _ => isTrue trivial
      | .createZones _ _ => isTrue trivial
      | .updateLayout _ _ => isTrue trivial

section Steps

variable {db next : Db} {organizerId : UserId}

theorem profileOf_of_ownEvent {eventId : EventId} {event : Event}
    (own : db.ownEvent organizerId eventId = some event) :
    db.profileOf organizerId = some event.organizerId := by
  obtain ⟨profile, known, found⟩ := Option.bind_eq_some_iff.mp own
  have owner := of_decide_eq_true (Option.filter_eq_some_iff.mp found).2
  rw [known, owner]

private theorem not_foreign_of_ownEvent {eventId : EventId} {event : Event}
    (own : db.ownEvent organizerId eventId = some event) :
    ¬ Foreign db organizerId eventId := by
  rintro ⟨other, found, foreign⟩
  have same : event = other :=
    Option.some.inj ((find?_of_ownEvent own).symm.trans found)
  apply foreign
  rw [← same]
  exact profileOf_of_ownEvent own

theorem not_foreign_of_ownTicketType {ticketTypeId : TicketTypeId}
    {ticketType : TicketType}
    (own : db.ownTicketType organizerId ticketTypeId = some ticketType) :
    ¬ Foreign db organizerId ticketType.eventId := by
  obtain ⟨profile, known, found⟩ := Option.bind_eq_some_iff.mp own
  have owner := (Option.filter_eq_some_iff.mp found).2
  obtain ⟨event, foundEvent⟩ := Option.isSome_iff_exists.mp owner
  have ownEvent : db.ownEvent organizerId ticketType.eventId =
      some event := by
    rw [Db.ownEvent, known]
    exact foundEvent
  exact not_foreign_of_ownEvent ownEvent

/-- An own event is none of the foreign ones. -/
theorem ne_of_foreign {own other : EventId}
    (mine : ¬ Foreign db organizerId own)
    (foreign : Foreign db organizerId other) : own ≠ other := by
  intro same
  rw [same] at mine
  exact mine foreign

namespace Isolates

/-- Nothing happens to the four tables. -/
theorem same (events : next.events = db.events)
    (ticketTypes : next.ticketTypes = db.ticketTypes)
    (seats : next.seats = db.seats) (zones : next.zones = db.zones) :
    Isolates db next organizerId := by
  constructor
  · intro eventId event _
    rw [events]
  · intro eventId _
    rw [Db.ticketTypesOf, ticketTypes]
    rfl
  · intro eventId _
    rw [Db.seatRowsOf, seats]
    rfl
  · intro eventId _
    rw [Db.zonesOf, zones]
    rfl

/-- An own event is changed. -/
theorem events_withEvent {eventId : EventId} {event : Event}
    (own : db.ownEvent organizerId eventId = some event)
    (data : EventUpdateInput) (other : EventId) (row : Event)
    (foreign : db.profileOf organizerId ≠ some row.organizerId) :
    (db.withEvent eventId data).events.find? other = some row ↔
      db.events.find? other = some row := by
  by_cases same : other = eventId
  · subst other
    have found := find?_of_ownEvent own
    have mine := profileOf_of_ownEvent own
    rw [Db.withEvent, Table.find?_modify, found, Option.map_some, if_pos rfl]
    constructor
    · intro equal
      rw [← Option.some.inj equal] at foreign
      exact absurd mine foreign
    · intro equal
      rw [← Option.some.inj equal] at foreign
      exact absurd mine foreign
  · rw [Db.find?_withEvent same]

theorem withEvent {eventId : EventId} {event : Event}
    (own : db.ownEvent organizerId eventId = some event)
    (data : EventUpdateInput) :
    Isolates db (db.withEvent eventId data) organizerId where
  events := events_withEvent own data
  ticketTypes := fun _ _ => rfl
  seats := fun _ _ => rfl
  zones := fun _ _ => rfl

theorem withNewEvent {event : Event} {profile : OrganizerId}
    (known : db.profileOf organizerId = some profile)
    (owner : event.organizerId = profile) :
    Isolates db (db.withNewEvent event) organizerId where
  events := by
    intro eventId row foreign
    simp only [Table.find?_eq_some]
    rw [Db.withNewEvent, Table.mem_insert]
    constructor
    · rintro (old | ⟨_, new⟩)
      · exact old
      · rw [new, owner] at foreign
        exact absurd known foreign
    · exact Or.inl
  ticketTypes := fun _ _ => rfl
  seats := fun _ _ => rfl
  zones := fun _ _ => rfl

theorem withNewTicketType {eventId : EventId} {event : Event}
    (own : db.ownEvent organizerId eventId = some event)
    {ticketType : TicketType} (ofEvent : ticketType.eventId = eventId) :
    Isolates db (db.withNewTicketType ticketType) organizerId where
  events := fun _ _ _ => Iff.rfl
  ticketTypes := by
    intro other foreign
    apply Db.ticketTypesOf_withNewTicketType
    rw [ofEvent]
    exact ne_of_foreign (not_foreign_of_ownEvent own) foreign
  seats := fun _ _ => rfl
  zones := fun _ _ => rfl

theorem withTicketType {ticketTypeId : TicketTypeId}
    {ticketType : TicketType}
    (own : db.ownTicketType organizerId ticketTypeId = some ticketType)
    (data : TicketTypeUpdateInput) :
    Isolates db (db.withTicketType ticketTypeId data) organizerId where
  events := fun _ _ _ => Iff.rfl
  ticketTypes := by
    intro eventId foreign
    have different :=
      ne_of_foreign (not_foreign_of_ownTicketType own) foreign
    exact Db.ticketTypesOf_withTicketType (find?_of_ownTicketType own)
      different data
  seats := fun _ _ => rfl
  zones := fun _ _ => rfl

/-- Seats come in for an own event, which may get its model as well. -/
theorem withSeats {eventId : EventId} {event : Event}
    (own : db.ownEvent organizerId eventId = some event)
    (sections : List SeatMapConfigDto) {labelled : Db}
    (isolates : Isolates db labelled organizerId) :
    Isolates db
      (labelled.withSeats (SeatsService.sectionSeats eventId sections))
      organizerId where
  events := isolates.events
  ticketTypes := isolates.ticketTypes
  seats := by
    intro other foreign
    rw [Db.seatRowsOf_withSeats, isolates.seats other foreign]
    exact ne_of_foreign (not_foreign_of_ownEvent own) foreign
  zones := isolates.zones

/-- The same for zones. -/
theorem withZones {eventId : EventId} {event : Event}
    (own : db.ownEvent organizerId eventId = some event)
    (zones : List ZoneConfigDto) {labelled : Db}
    (isolates : Isolates db labelled organizerId) :
    Isolates db
      (labelled.withZones (SeatsService.zoneRows eventId zones))
      organizerId where
  events := isolates.events
  ticketTypes := isolates.ticketTypes
  seats := isolates.seats
  zones := by
    intro other foreign
    rw [Db.zonesOf_withZones, isolates.zones other foreign]
    exact ne_of_foreign (not_foreign_of_ownEvent own) foreign

/-- A deletion isolates the others exactly when no zone of theirs names the
ticket type; their seats do not. -/
theorem withoutTicketType_iff (seatsOwn : SeatsReferOwn db)
    {ticketTypeId : TicketTypeId} {ticketType : TicketType}
    (own : db.ownTicketType organizerId ticketTypeId = some ticketType) :
    Isolates db (db.withoutTicketType ticketTypeId) organizerId ↔
      ∀ entry ∈ db.zones.rows, entry.2.ticketTypeId = some ticketTypeId →
        ¬ Foreign db organizerId entry.2.eventId := by
  have found := find?_of_ownTicketType own
  constructor
  · intro isolates entry member names foreign
    have same := isolates.zones entry.2.eventId foreign
    exact Db.zonesOf_withoutTicketType_iff.mp same entry member rfl names
  · intro spares
    constructor
    · intro eventId event _
      exact Iff.rfl
    · intro eventId foreign
      apply Db.ticketTypesOf_withoutTicketType found
      exact ne_of_foreign (not_foreign_of_ownTicketType own) foreign
    · intro eventId foreign
      apply Db.seatRowsOf_withoutTicketType
      apply Db.seat_unnamed seatsOwn found
      exact ne_of_foreign (not_foreign_of_ownTicketType own) foreign
    · intro eventId foreign
      apply Db.zonesOf_withoutTicketType_iff.mpr
      intro entry member ofEvent names
      apply spares entry member names
      rw [ofEvent]
      exact foreign

private theorem served_iff (seatsOwn : SeatsReferOwn db) {request : Request}
    (effect : Effect db organizerId request next) :
    Isolates db next organizerId ↔
      SparesForeignZones db (.request organizerId request) := by
  cases effect with
  | refused request refuses =>
      refine iff_of_true (same rfl rfl rfl rfl) ?_
      cases request with
      | removeTicketType ticketTypeId =>
          intro ticketType _ removes
          exact absurd removes (refuses ticketType)
      | _ => trivial
  | eventCreated dto profile event entry known owner =>
      have isolates := withNewEvent known owner
      exact iff_of_true
        ⟨isolates.events, isolates.ticketTypes, isolates.seats,
          isolates.zones⟩ trivial
  | eventUpdated eventId dto event entry updates =>
      have isolates := withEvent updates.own (EventsService.updateData dto)
      exact iff_of_true
        ⟨isolates.events, isolates.ticketTypes, isolates.seats,
          isolates.zones⟩ trivial
  | eventSubmitted eventId event entry own _ =>
      have isolates := withEvent own { status := .value .pendingApproval }
      exact iff_of_true
        ⟨isolates.events, isolates.ticketTypes, isolates.seats,
          isolates.zones⟩ trivial
  | ticketTypeCreated eventId dto event ticketType isMutable ofEvent =>
      exact iff_of_true (withNewTicketType isMutable.1 ofEvent) trivial
  | ticketTypeUpdated ticketTypeId dto ticketType updates =>
      exact iff_of_true (withTicketType updates.own _) trivial
  | ticketTypeRemoved ticketTypeId ticketType removes =>
      rw [withoutTicketType_iff seatsOwn removes.own]
      constructor
      · intro spares _ _ _
        exact spares
      · intro guarded
        exact guarded ticketType removes.own removes
  | ticketTypeHidden ticketTypeId ticketType own =>
      exact iff_of_true (withTicketType own _) trivial
  | seatMapCreated eventId sections event creates =>
      have own := creates.isMutable.1
      exact iff_of_true
        (withSeats own sections (withEvent own _)) trivial
  | zonesCreated eventId zones event creates =>
      have own := creates.isMutable.1
      exact iff_of_true
        (withZones own zones (withEvent own _)) trivial
  | seatsAdded eventId dto event adds _ =>
      exact iff_of_true
        (withSeats adds.isMutable.1 _ (same rfl rfl rfl rfl)) trivial
  | zonesAdded eventId dto event adds =>
      exact iff_of_true
        (withZones adds.isMutable.1 _ (same rfl rfl rfl rfl)) trivial

end Isolates

private theorem isolatesTenants_iff (seatsOwn : SeatsReferOwn db)
    (action : Action) :
    IsolatesTenants db action ↔ SparesForeignZones db action := by
  cases action with
  | outside event => exact Iff.rfl
  | request organizerId request =>
      have effect := effect_serve db organizerId request
      rw [← Isolates.served_iff seatsOwn effect]
      constructor
      · intro isolates
        exact isolates _ rfl
      · intro isolates next stepped
        rw [← Option.some.inj stepped]
        exact isolates

end Steps

/-- In a run every step of an organizer leaves the rows of the other
organizers' events alone exactly when no step deletes a ticket type that a
zone of theirs names. -/
theorem isolatesTenants_iff_sparesForeignZones
    {history : List (Db × Action)} {db : Db}
    (run : Trace step Db.empty history db) :
    (∀ entry ∈ history, IsolatesTenants entry.1 entry.2) ↔
      StepsMeet SparesForeignZones history := by
  induction run with
  | nil =>
      simp [StepsMeet]
  | @snoc earlier before after action runBefore _ inductionHypothesis =>
      have seatsOwn := Trace.seatsReferOwn runBefore
      rw [stepsMeet_cons, ← inductionHypothesis, List.forall_mem_cons,
        isolatesTenants_iff seatsOwn]

theorem isolatesTenants_ownZones :
    (∀ entry ∈ ((replay step [] Db.empty ownZones).get ownZones_enabled).1,
      IsolatesTenants entry.1 entry.2) ↔
    StepsMeet SparesForeignZones
      ((replay step [] Db.empty ownZones).get ownZones_enabled).1 :=
  isolatesTenants_iff_sparesForeignZones
    (Trace.of_replay_get ownZones ownZones_enabled)

/-- The first organizer deletes the ticket type that the second one's zone
names. -/
def foreignDeletion : List Action :=
  foreignZone ++ [.request 10 (.removeTicketType 0)]

/-- An organizer can change a zone of another one. -/
theorem foreignZone_changes :
    ¬ ∀ (history : List (Db × Action)) (db : Db),
      Trace step Db.empty history db →
      ∀ entry ∈ history, IsolatesTenants entry.1 entry.2 := by
  intro always
  obtain ⟨history, db, run, checked⟩ :=
    Trace.exists_of_replay step Db.empty foreignDeletion
      (fun result =>
        result.1.any fun entry =>
          decide (entry.2 = .request 10 (.removeTicketType 0) ∧
            Foreign entry.1 10 1 ∧
            ((Request.removeTicketType 0).serve 10 entry.1).2.zonesOf 1 ≠
              entry.1.zonesOf 1))
      (by decide)
  obtain ⟨entry, member, wrong⟩ := List.any_eq_true.mp checked
  obtain ⟨action, foreign, changed⟩ := of_decide_eq_true wrong
  have isolates := always history db run entry member
  rw [action] at isolates
  exact changed ((isolates _ rfl).zones 1 foreign)

end ConcertTicketing.Events
