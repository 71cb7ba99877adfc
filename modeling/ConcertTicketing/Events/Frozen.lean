import ConcertTicketing.Events.Frame

/-!
# Events after their approval

An event that is no longer a draft, pending or rejected is frozen: its ticket
types, its layout and all its fields but the description and the banner are
final.  `EventsService` and `SeatsService` check the status, and so does
`TicketTypesService.create`; `update` and `remove` of `TicketTypesService` do
not.  Frozen events stay as they are exactly as long as these two are not used
on their ticket types, nor `remove` on one that a zone of theirs names.
-/

namespace ConcertTicketing.Events

/-- The event exists, and its status is none in which it may be changed. -/
def Frozen (db : Db) (eventId : EventId) : Prop :=
  ∃ event ∈ db.events.find? eventId, event.status ∉ mutableStatuses

instance (db : Db) (eventId : EventId) : Decidable (Frozen db eventId) :=
  inferInstanceAs (Decidable (∃ event ∈ db.events.find? eventId, _))

def Event.fixed (event : Event) : Event :=
  { event with description := none, bannerUrl := none }

structure FixedTicketType where
  name : String
  price : Cents
  quantity : Int
  saleStartTime : Instant
  saleEndTime : Instant
  deriving DecidableEq, Repr

def TicketType.fixed (ticketType : TicketType) : FixedTicketType :=
  ⟨ticketType.name, ticketType.price, ticketType.quantity,
    ticketType.saleStartTime, ticketType.saleEndTime⟩

/-- The ticket types of the event with the columns that approval fixes. -/
def Db.fixedTicketTypesOf (db : Db) (eventId : EventId) :
    List (TicketTypeId × FixedTicketType) :=
  (db.ticketTypesOf eventId).map fun entry => (entry.1, entry.2.fixed)

structure Keeps (db next : Db) (eventId : EventId) : Prop where
  event : (next.events.find? eventId).map Event.fixed =
    (db.events.find? eventId).map Event.fixed
  ticketTypes : next.fixedTicketTypesOf eventId =
    db.fixedTicketTypesOf eventId
  seats : next.seatRowsOf eventId = db.seatRowsOf eventId
  zones : next.zonesOf eventId = db.zonesOf eventId

/-- The request keeps what is fixed about every frozen event. -/
def KeepsFrozen (db : Db) : Action → Prop
  | .request organizerId request =>
      ∀ next, step db (.request organizerId request) = some next →
        ∀ eventId, Frozen db eventId → Keeps db next eventId
  | .outside _ => True

/-- A ticket type of a frozen event is neither deleted nor changed in what is
fixed, and none that a zone of a frozen event names is deleted. -/
def SparesFrozen (db : Db) : Action → Prop
  | .request organizerId (.updateTicketType ticketTypeId dto) =>
      ∀ ticketType ∈ db.ownTicketType organizerId ticketTypeId,
        Updates db organizerId ticketTypeId dto ticketType →
        Frozen db ticketType.eventId →
        ((TicketTypesService.updateData dto).writeOver ticketType).fixed =
          ticketType.fixed
  | .request organizerId (.removeTicketType ticketTypeId) =>
      ∀ ticketType ∈ db.ownTicketType organizerId ticketTypeId,
        Removes db organizerId ticketTypeId ticketType →
        ¬ Frozen db ticketType.eventId ∧
          ∀ entry ∈ db.zones.rows,
            entry.2.ticketTypeId = some ticketTypeId →
            ¬ Frozen db entry.2.eventId
  | _ => True

instance (db : Db) : DecidablePred (SparesFrozen db)
  | .outside _ => isTrue trivial
  | .request organizerId request =>
      match request with
      | .updateTicketType ticketTypeId _ =>
          inferInstanceAs
            (Decidable (∀ ticketType ∈
              db.ownTicketType organizerId ticketTypeId, _ → _ → _ = _))
      | .removeTicketType ticketTypeId =>
          inferInstanceAs
            (Decidable (∀ ticketType ∈
              db.ownTicketType organizerId ticketTypeId, _ → _ ∧ _))
      | .createEvent _ => isTrue trivial
      | .updateEvent _ _ => isTrue trivial
      | .submitEvent _ => isTrue trivial
      | .createTicketType _ _ => isTrue trivial
      | .hideTicketType _ => isTrue trivial
      | .createSeatMap _ _ => isTrue trivial
      | .createZones _ _ => isTrue trivial
      | .updateLayout _ _ => isTrue trivial

/-- A member whose key is not among the disallowed ones is missing. -/
theorem undefined_of_filtered {α : Type} [DecidableEq α]
    {member : Member α} {key : String}
    (disallowed : key ∉ EventsService.approvedEditableFields)
    (filtered : (if member = .undefined then [] else [key]).filter
      (fun key => decide (key ∉ EventsService.approvedEditableFields)) =
        []) :
    member = .undefined := by
  by_contra given
  rw [if_neg given, List.filter_cons, if_pos (decide_eq_true disallowed)]
    at filtered
  cases filtered

/-- An update without disallowed keys changes the description and the banner
at most. -/
theorem fixed_over_of_allowed {dto : UpdateEventDto}
    (allowed : EventsService.disallowedKeys dto = []) (event : Event) :
    ((EventsService.updateData dto).writeOver event).fixed = event.fixed := by
  simp only [EventsService.disallowedKeys_eq_nil_iff,
    EventsService.definedKeys, List.filter_append, List.append_eq_nil_iff]
    at allowed
  obtain ⟨⟨⟨⟨⟨⟨⟨title, _⟩, category⟩, startTime⟩, endTime⟩, venue⟩, _⟩,
    maxTickets⟩ := allowed
  have noTitle := undefined_of_filtered (by decide) title
  have noCategory := undefined_of_filtered (by decide) category
  have noStartTime := undefined_of_filtered (by decide) startTime
  have noEndTime := undefined_of_filtered (by decide) endTime
  have noVenue := undefined_of_filtered (by decide) venue
  have noMaxTickets := undefined_of_filtered (by decide) maxTickets
  simp only [Event.fixed, EventUpdateInput.writeOver, EventsService.updateData,
    noTitle, noCategory, noStartTime, noEndTime, noVenue, noMaxTickets,
    Member.writeOver, Member.overNullable, newDate, overDate]

section Steps

variable {db next : Db} {organizerId : UserId} {eventId other : EventId}

/-- An own event that may be changed is not frozen. -/
theorem not_frozen_of_mutable {event : Event}
    (isMutable : Mutable db organizerId eventId event) :
    ¬ Frozen db eventId := by
  rintro ⟨found, known, closed⟩
  have same : event = found :=
    Option.some.inj ((find?_of_ownEvent isMutable.1).symm.trans known)
  rw [← same] at closed
  exact closed isMutable.2

private theorem ne_of_frozen (unfrozen : ¬ Frozen db eventId)
    (frozen : Frozen db other) : eventId ≠ other := by
  intro same
  rw [same] at unfrozen
  exact unfrozen frozen

namespace Keeps

theorem same (events : next.events = db.events)
    (ticketTypes : next.ticketTypes = db.ticketTypes)
    (seats : next.seats = db.seats) (zones : next.zones = db.zones) :
    Keeps db next eventId := by
  constructor
  · rw [events]
  · rw [Db.fixedTicketTypesOf, Db.ticketTypesOf, ticketTypes]
    rfl
  · rw [Db.seatRowsOf, seats]
    rfl
  · rw [Db.zonesOf, zones]
    rfl

theorem withNewEvent (event : Event) (frozen : Frozen db eventId) :
    Keeps db (db.withNewEvent event) eventId where
  event := by
    obtain ⟨found, known, _⟩ := frozen
    rw [Db.withNewEvent, Table.find?_insert known, known]
  ticketTypes := rfl
  seats := rfl
  zones := rfl

private theorem withEvent_of_ne (different : other ≠ eventId)
    (data : EventUpdateInput) :
    Keeps db (db.withEvent eventId data) other where
  event := by rw [Db.find?_withEvent different]
  ticketTypes := rfl
  seats := rfl
  zones := rfl

/-- An update of a frozen event is one of an approved event. -/
theorem updateEvent {dto : UpdateEventDto} {event : Event}
    (updates : UpdatesEvent db organizerId eventId dto event)
    (frozen : Frozen db other) :
    Keeps db (db.withEvent eventId (EventsService.updateData dto)) other := by
  by_cases same : other = eventId
  · subst other
    have found := find?_of_ownEvent updates.own
    have closed : event.status ∉ mutableStatuses := by
      obtain ⟨reached, known, closed⟩ := frozen
      rw [Option.some.inj (found.symm.trans known)]
      exact closed
    have approved : event.status = .approved :=
      updates.editable.resolve_left closed
    have fixed := fixed_over_of_allowed (updates.allowed approved) event
    refine ⟨?_, rfl, rfl, rfl⟩
    rw [Db.withEvent, Table.find?_modify, found, Option.map_some, if_pos rfl]
    exact congrArg some fixed
  · exact withEvent_of_ne same _

theorem submitEvent {event : Event}
    (own : db.ownEvent organizerId eventId = some event)
    (submittable : event.status ∈ EventsService.submittableStatuses)
    (frozen : Frozen db other) (data : EventUpdateInput) :
    Keeps db (db.withEvent eventId data) other := by
  have early : event.status ∈ mutableStatuses := by
    simp only [EventsService.submittableStatuses, List.mem_pair]
      at submittable
    rcases submittable with draft | rejected
    · rw [draft]
      decide
    · rw [rejected]
      decide
  have unfrozen := not_frozen_of_mutable ⟨own, early⟩
  exact withEvent_of_ne (Ne.symm (ne_of_frozen unfrozen frozen)) data

theorem withNewTicketType {ticketType : TicketType}
    (different : ticketType.eventId ≠ other) :
    Keeps db (db.withNewTicketType ticketType) other where
  event := rfl
  ticketTypes := by
    rw [Db.fixedTicketTypesOf,
      Db.ticketTypesOf_withNewTicketType different]
    rfl
  seats := rfl
  zones := rfl

/-- A change of a ticket type keeps an event exactly when the ticket type is
one of another event or keeps what is fixed. -/
theorem withTicketType_iff {ticketTypeId : TicketTypeId}
    {ticketType : TicketType}
    (found : db.ticketTypes.find? ticketTypeId = some ticketType)
    (data : TicketTypeUpdateInput) :
    Keeps db (db.withTicketType ticketTypeId data) other ↔
      (ticketType.eventId = other →
        (data.writeOver ticketType).fixed = ticketType.fixed) := by
  have member := Table.find?_eq_some.mp found
  constructor
  · intro keeps ofEvent
    have listed : (ticketTypeId, ticketType.fixed) ∈
        db.fixedTicketTypesOf other :=
      List.mem_map.mpr ⟨(ticketTypeId, ticketType),
        Table.mem_select.mpr ⟨member, decide_eq_true ofEvent⟩, rfl⟩
    rw [← keeps.ticketTypes] at listed
    obtain ⟨⟨key, row⟩, selected, same⟩ := List.mem_map.mp listed
    obtain ⟨rfl, fixed⟩ := Prod.mk.inj same
    obtain ⟨before, stored, changed⟩ :=
      Table.mem_modify.mp (Table.mem_select.mp selected).1
    have sameRow : before = ticketType := Table.unique stored member
    rw [if_pos rfl, sameRow] at changed
    rw [changed]
    exact fixed
  · intro fixed
    refine ⟨rfl, ?_, rfl, rfl⟩
    simp only [Db.fixedTicketTypesOf, Db.ticketTypesOf, Db.withTicketType,
      Table.modify]
    refine Table.select_mapRows TicketType.fixed ?_ ?_
    · intro entry _
      split <;> rfl
    · rintro ⟨key, row⟩ stored selected
      dsimp only
      split
      · next equal =>
          subst equal
          have sameRow : row = ticketType := Table.unique stored member
          subst row
          exact fixed (of_decide_eq_true selected)
      · rfl

theorem withSeats {labelled : Db} (keeps : Keeps db labelled other)
    (different : eventId ≠ other) (sections : List SeatMapConfigDto) :
    Keeps db (labelled.withSeats (SeatsService.sectionSeats eventId sections))
      other where
  event := keeps.event
  ticketTypes := keeps.ticketTypes
  seats := by rw [Db.seatRowsOf_withSeats different, keeps.seats]
  zones := keeps.zones

theorem withZones {labelled : Db} (keeps : Keeps db labelled other)
    (different : eventId ≠ other) (zones : List ZoneConfigDto) :
    Keeps db (labelled.withZones (SeatsService.zoneRows eventId zones))
      other where
  event := keeps.event
  ticketTypes := keeps.ticketTypes
  seats := keeps.seats
  zones := by rw [Db.zonesOf_withZones different, keeps.zones]

/-- A deletion keeps an event exactly when the ticket type is neither one of
the event nor named by a zone of the event. -/
theorem withoutTicketType_iff (seatsOwn : SeatsReferOwn db)
    {ticketTypeId : TicketTypeId} {ticketType : TicketType}
    (found : db.ticketTypes.find? ticketTypeId = some ticketType) :
    Keeps db (db.withoutTicketType ticketTypeId) other ↔
      ticketType.eventId ≠ other ∧
        ∀ entry ∈ db.zones.rows, entry.2.eventId = other →
          entry.2.ticketTypeId ≠ some ticketTypeId := by
  have member := Table.find?_eq_some.mp found
  constructor
  · intro keeps
    refine ⟨?_, Db.zonesOf_withoutTicketType_iff.mp keeps.zones⟩
    intro ofEvent
    have listed : (ticketTypeId, ticketType.fixed) ∈
        db.fixedTicketTypesOf other :=
      List.mem_map.mpr ⟨(ticketTypeId, ticketType),
        Table.mem_select.mpr ⟨member, decide_eq_true ofEvent⟩, rfl⟩
    rw [← keeps.ticketTypes] at listed
    obtain ⟨⟨key, row⟩, selected, same⟩ := List.mem_map.mp listed
    have kept := Table.mem_erase.mp (Table.mem_select.mp selected).1
    exact kept.2 (Prod.mk.inj same).1
  · rintro ⟨different, unnamed⟩
    have seats := Db.seat_unnamed seatsOwn found different
    refine ⟨rfl, ?_, Db.seatRowsOf_withoutTicketType seats,
      Db.zonesOf_withoutTicketType_iff.mpr unnamed⟩
    rw [Db.fixedTicketTypesOf,
      Db.ticketTypesOf_withoutTicketType found different]
    rfl

end Keeps

/-- An update that goes through keeps the frozen events exactly when it spares
them. -/
theorem update_keepsFrozen_iff {ticketTypeId : TicketTypeId}
    {dto : UpdateTicketTypeDto} {ticketType : TicketType}
    (updates : Updates db organizerId ticketTypeId dto ticketType) :
    (∀ eventId, Frozen db eventId →
      Keeps db (db.withTicketType ticketTypeId
        (TicketTypesService.updateData dto)) eventId) ↔
      SparesFrozen db
        (.request organizerId (.updateTicketType ticketTypeId dto)) := by
  have found := find?_of_ownTicketType updates.own
  constructor
  · intro keeps other own _ frozen
    rw [Option.some.inj (own.symm.trans updates.own)] at frozen ⊢
    exact (Keeps.withTicketType_iff found _).mp (keeps _ frozen) rfl
  · intro guarded eventId frozen
    apply (Keeps.withTicketType_iff found _).mpr
    intro ofEvent
    rw [← ofEvent] at frozen
    exact guarded ticketType updates.own updates frozen

/-- The same for a deletion. -/
theorem remove_keepsFrozen_iff (seatsOwn : SeatsReferOwn db)
    {ticketTypeId : TicketTypeId} {ticketType : TicketType}
    (removes : Removes db organizerId ticketTypeId ticketType) :
    (∀ eventId, Frozen db eventId →
      Keeps db (db.withoutTicketType ticketTypeId) eventId) ↔
      SparesFrozen db
        (.request organizerId (.removeTicketType ticketTypeId)) := by
  have found := find?_of_ownTicketType removes.own
  constructor
  · intro keeps other own _
    rw [Option.some.inj (own.symm.trans removes.own)]
    constructor
    · intro frozen
      have kept := (Keeps.withoutTicketType_iff seatsOwn found).mp
        (keeps _ frozen)
      exact kept.1 rfl
    · intro entry member names frozen
      have kept := (Keeps.withoutTicketType_iff seatsOwn found).mp
        (keeps _ frozen)
      exact kept.2 entry member rfl names
  · intro guarded eventId frozen
    obtain ⟨unfrozen, spared⟩ := guarded ticketType removes.own removes
    apply (Keeps.withoutTicketType_iff seatsOwn found).mpr
    refine ⟨ne_of_frozen unfrozen frozen, ?_⟩
    intro entry member ofEvent names
    rw [← ofEvent] at frozen
    exact spared entry member names frozen

/-- All frozen events are kept exactly when the request spares them. -/
theorem served_keepsFrozen_iff (seatsOwn : SeatsReferOwn db)
    {request : Request} (effect : Effect db organizerId request next) :
    (∀ eventId, Frozen db eventId → Keeps db next eventId) ↔
      SparesFrozen db (.request organizerId request) := by
  cases effect with
  | refused request refuses =>
      refine iff_of_true (fun _ _ => Keeps.same rfl rfl rfl rfl) ?_
      cases request with
      | updateTicketType ticketTypeId dto =>
          intro ticketType _ updates
          exact absurd updates (refuses ticketType)
      | removeTicketType ticketTypeId =>
          intro ticketType _ removes
          exact absurd removes (refuses ticketType)
      | _ => trivial
  | eventCreated dto profile event entry known owner =>
      refine iff_of_true ?_ trivial
      intro eventId frozen
      have keeps := Keeps.withNewEvent event frozen
      exact ⟨keeps.event, keeps.ticketTypes, keeps.seats, keeps.zones⟩
  | eventUpdated updated dto event entry updates =>
      refine iff_of_true ?_ trivial
      intro eventId frozen
      have keeps := Keeps.updateEvent updates frozen
      exact ⟨keeps.event, keeps.ticketTypes, keeps.seats, keeps.zones⟩
  | eventSubmitted submitted event entry own submittable =>
      refine iff_of_true ?_ trivial
      intro eventId frozen
      have keeps := Keeps.submitEvent own submittable frozen
        { status := .value .pendingApproval }
      exact ⟨keeps.event, keeps.ticketTypes, keeps.seats, keeps.zones⟩
  | ticketTypeCreated created dto event ticketType isMutable ofEvent =>
      refine iff_of_true ?_ trivial
      intro eventId frozen
      apply Keeps.withNewTicketType
      rw [ofEvent]
      exact ne_of_frozen (not_frozen_of_mutable isMutable) frozen
  | ticketTypeUpdated ticketTypeId dto ticketType updates =>
      exact update_keepsFrozen_iff updates
  | ticketTypeRemoved ticketTypeId ticketType removes =>
      exact remove_keepsFrozen_iff seatsOwn removes
  | ticketTypeHidden ticketTypeId ticketType own =>
      refine iff_of_true ?_ trivial
      intro eventId _
      apply (Keeps.withTicketType_iff (find?_of_ownTicketType own) _).mpr
      intro _
      rfl
  | seatMapCreated created sections event creates =>
      refine iff_of_true ?_ trivial
      intro eventId frozen
      have different :=
        ne_of_frozen (not_frozen_of_mutable creates.isMutable) frozen
      exact (Keeps.withEvent_of_ne (Ne.symm different) _).withSeats different
        sections
  | zonesCreated created zones event creates =>
      refine iff_of_true ?_ trivial
      intro eventId frozen
      have different :=
        ne_of_frozen (not_frozen_of_mutable creates.isMutable) frozen
      exact (Keeps.withEvent_of_ne (Ne.symm different) _).withZones different
        zones
  | seatsAdded changed dto event adds _ =>
      refine iff_of_true ?_ trivial
      intro eventId frozen
      have different :=
        ne_of_frozen (not_frozen_of_mutable adds.isMutable) frozen
      exact (Keeps.same rfl rfl rfl rfl).withSeats different _
  | zonesAdded changed dto event adds =>
      refine iff_of_true ?_ trivial
      intro eventId frozen
      have different :=
        ne_of_frozen (not_frozen_of_mutable adds.isMutable) frozen
      exact (Keeps.same rfl rfl rfl rfl).withZones different _

private theorem keepsFrozen_iff (seatsOwn : SeatsReferOwn db)
    (action : Action) :
    KeepsFrozen db action ↔ SparesFrozen db action := by
  cases action with
  | outside event => exact Iff.rfl
  | request organizerId request =>
      have effect := effect_serve db organizerId request
      rw [← served_keepsFrozen_iff seatsOwn effect]
      constructor
      · intro keeps
        exact keeps _ rfl
      · intro keeps next stepped
        rw [← Option.some.inj stepped]
        exact keeps

end Steps

/-- In a run every request keeps the frozen events as they are exactly when no
request changes what is fixed about a ticket type of a frozen event, deletes
one, or deletes one that a zone of a frozen event names. -/
theorem keepsFrozen_iff_sparesFrozen {history : List (Db × Action)} {db : Db}
    (run : Trace step Db.empty history db) :
    (∀ entry ∈ history, KeepsFrozen entry.1 entry.2) ↔
      StepsMeet SparesFrozen history := by
  induction run with
  | nil =>
      simp [StepsMeet]
  | @snoc earlier before after action runBefore _ inductionHypothesis =>
      have seatsOwn := Trace.seatsReferOwn runBefore
      rw [stepsMeet_cons, ← inductionHypothesis, List.forall_mem_cons,
        keepsFrozen_iff seatsOwn]

/-- The event is approved, and then its description and that of its ticket
type are changed and its layout is not. -/
def approvedEvent : List Action :=
  twoOrganizers ++
    [.request 10 (.createZones 0 [⟨"A", 60, some 0⟩]),
      .outside (.reviewed 0 .approved),
      .request 10 (.updateEvent 0 { description := .value "Live" }),
      .request 10 (.updateEvent 0
        { objectKeys := ["venue", "title"], title := .value "Festival",
          venue := .value "Hall" }),
      .request 10 (.updateLayout 0 ⟨none, some [⟨"B", 40, none⟩]⟩),
      .request 10 (.updateTicketType 0 { description := .value "No chairs" }),
      .request 11 (.removeTicketType 0), .request 10 (.hideTicketType 0)]

private theorem approvedEvent_enabled :
    (replay step [] Db.empty approvedEvent).isSome = true := by
  decide

def withdrawn : List Action :=
  approvedEvent ++ [.request 10 (.removeTicketType 0)]

private theorem withdrawn_enabled :
    (replay step [] Db.empty withdrawn).isSome = true := by
  decide

theorem keepsFrozen_approvedEvent :
    (∀ entry ∈ ((replay step [] Db.empty approvedEvent).get
        approvedEvent_enabled).1, KeepsFrozen entry.1 entry.2) ∧
    ¬ ∀ entry ∈ ((replay step [] Db.empty withdrawn).get
        withdrawn_enabled).1, KeepsFrozen entry.1 entry.2 := by
  have kept := keepsFrozen_iff_sparesFrozen
    (Trace.of_replay_get approvedEvent approvedEvent_enabled)
  have changed := keepsFrozen_iff_sparesFrozen
    (Trace.of_replay_get withdrawn withdrawn_enabled)
  exact ⟨kept.mpr (by decide +kernel),
    fun keeps => absurd (changed.mp keeps) (by decide +kernel)⟩

/-- The price of a ticket type is changed while its event is on sale. -/
def repriced : List Action :=
  twoOrganizers ++
    [.outside (.reviewed 0 .active),
      .request 10 (.updateTicketType 0 { price := .value 90000 })]

/-- A frozen event can change. -/
theorem frozenEvent_changes :
    ¬ ∀ (history : List (Db × Action)) (db : Db),
      Trace step Db.empty history db →
      ∀ entry ∈ history, KeepsFrozen entry.1 entry.2 := by
  intro always
  obtain ⟨history, db, run, checked⟩ :=
    Trace.exists_of_replay step Db.empty repriced
      (fun result =>
        result.1.any fun entry =>
          decide (entry.2 =
              .request 10 (.updateTicketType 0 { price := .value 90000 }) ∧
            Frozen entry.1 0 ∧
            ((Request.updateTicketType 0 { price := .value 90000 }).serve 10
                entry.1).2.fixedTicketTypesOf 0 ≠
              entry.1.fixedTicketTypesOf 0))
      (by decide)
  obtain ⟨entry, member, wrong⟩ := List.any_eq_true.mp checked
  obtain ⟨action, frozen, changed⟩ := of_decide_eq_true wrong
  have keeps := always history db run entry member
  rw [action] at keeps
  exact changed (keeps _ rfl 0 frozen).ticketTypes

end ConcertTicketing.Events
