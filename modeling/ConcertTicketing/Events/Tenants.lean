import ConcertTicketing.Events.Organizers

/-!
# Organizers side by side

What holds in every run of the organizers' requests, however they overlap:
seats refer to ticket types of their own events, a request touches no event,
ticket type or seat of another organizer, nobody but the review opens an
event, and the audit log has an entry of their own for each request that is
answered.
-/

namespace ConcertTicketing.Events

def AuditsOwn (db : Db) : Prop :=
  ∀ entry ∈ db.auditLogs, db.Owns entry.userId entry.resourceId

structure TablesSound (db : Db) : Prop where
  seats : SeatsReferOwn db
  audits : AuditsOwn db

section Steps

variable {db after : Db} {organizerId : UserId} {command : Command}

theorem AuditsOwn.later (audits : AuditsOwn db) (stay : OwnersStay db after)
    (same : after.auditLogs = db.auditLogs) : AuditsOwn after := by
  intro entry member
  rw [same] at member
  exact stay.owns (audits entry member)

/-- A ticket type of no other event that is there is one of the event. -/
theorem ofEvent_of_onlyOf {eventId : EventId} {named : TicketTypeId}
    (only : db.OnlyOf eventId named)
    (refer : db.references eventId (some named) = true) :
    db.OfEvent eventId named := by
  have known := (Bool.and_eq_true_iff.mp refer).2
  obtain ⟨row, found⟩ := Option.isSome_iff_exists.mp known
  rw [Db.OfEvent, found]
  exact congrArg some (only.2 row found)

/-- Seats that the database takes in, when their ticket types have been
counted. -/
theorem ofEvent_of_sectionSeats {eventId : EventId}
    {sections : List SeatMapConfigDto}
    (only : ∀ named ∈ SeatsService.ticketTypeIds sections,
      db.OnlyOf eventId named)
    (refer : ∀ seat ∈ SeatsService.sectionSeats eventId sections,
      db.references seat.eventId seat.ticketTypeId = true) :
    ∀ seat ∈ SeatsService.sectionSeats eventId sections,
      ∀ named ∈ seat.ticketTypeId, db.OfEvent seat.eventId named := by
  intro seat member named refers
  have isReferred := refer seat member
  obtain ⟨ofEvent, counted, inIds, same⟩ := mem_sectionSeats member
  rw [same] at refers isReferred
  cases Option.some.inj refers
  rw [ofEvent] at isReferred ⊢
  exact ofEvent_of_onlyOf (only named inIds) isReferred

theorem SeatsReferOwn.written (own : SeatsReferOwn db)
    (allowed : Allows organizerId command db)
    (writes : Written db command after) : SeatsReferOwn after := by
  cases writes with
  | ticketTypeCreated data new _ =>
      exact ReferOwn.kept own fun _ _ => ofEvent_withNewTicketType new
  | ticketTypeUpdated ticketTypeId data row _ =>
      exact ReferOwn.kept own fun _ _ => ofEvent_withTicketType ticketTypeId _
  | ticketTypeDeleted removed row _ =>
      exact ReferOwn.forget own (fun seat => (seat_forget removed seat).1)
        fun seat => (seat_forget removed seat).2
  | seatsCreated seats refer =>
      obtain ⟨eventId, sections, rfl, _, only⟩ := allowed
      exact ReferOwn.insertMany own (ofEvent_of_sectionSeats only refer)
  | seatMapCreated eventId seats refer =>
      obtain ⟨_, sections, rfl, only⟩ := allowed
      exact ReferOwn.insertMany own (ofEvent_of_sectionSeats only refer)
  | _ => exact own

theorem AuditsOwn.written (audits : AuditsOwn db)
    (allowed : Allows organizerId command db)
    (writes : Written db command after) : AuditsOwn after := by
  have stay := writes.ownersStay
  cases writes with
  | logged entry =>
      intro other member
      rcases List.mem_append.mp member with old | new
      · exact audits other old
      · rw [List.mem_singleton.mp new, allowed.1]
        exact allowed.2
  | _ => exact audits.later stay rfl

private theorem tablesSound_outside (event : Outside) (sound : TablesSound db) :
    TablesSound (event.apply db) := by
  have same : (event.apply db).seats = db.seats ∧
      (event.apply db).auditLogs = db.auditLogs := by
    cases event with
    | registered userId =>
        rw [Outside.apply]
        split <;> exact ⟨rfl, rfl⟩
    | reviewed eventId status => exact ⟨rfl, rfl⟩
    | sold ticketTypeId count => exact ⟨rfl, rfl⟩
    | ordered ticketTypeId =>
        rw [Outside.apply]
        split <;> exact ⟨rfl, rfl⟩
  refine ⟨?_, sound.audits.later (ownersStay_outside event db) same.2⟩
  rw [SeatsReferOwn, same.1]
  exact ReferOwn.kept sound.seats fun _ _ => ofEvent_outside event

end Steps

theorem tablesSound_empty : TablesSound Db.empty where
  seats := by
    intro entry member
    cases member
  audits := by
    intro entry member
    cases member

/-- The requests of all organizers, the review and the sales work together. -/
theorem organizers_cooperate :
    Cooperates Outside.apply OrganizerRequest.operation perform OwnersStay
      (fun input => Allows input.organizerId) TablesSound where
  reflexive := .refl
  transitive := OwnersStay.trans
  accepts := fun input _ _ => safeFor_operation input
  outside := fun event db sound =>
    ⟨tablesSound_outside event sound, ownersStay_outside event db⟩
  guarantees := by
    intro input command db sound allowed
    have writes := written db command
    exact ⟨⟨sound.seats.written allowed writes,
      sound.audits.written allowed writes⟩, writes.ownersStay⟩

/-- Of the rows of the other organizers' events at most a zone loses its
reference, to a ticket type that was the organizer's own and is gone now. -/
structure SparesOthers (db next : Db) (organizerId : UserId) : Prop where
  events : ∀ eventId event, db.profileOf organizerId ≠
      some event.organizerId →
    (next.events.find? eventId = some event ↔
      db.events.find? eventId = some event)
  ticketTypes : ∀ eventId, Foreign db organizerId eventId →
    next.ticketTypesOf eventId = db.ticketTypesOf eventId
  seats : ∀ eventId, Foreign db organizerId eventId →
    next.seatRowsOf eventId = db.seatRowsOf eventId
  zones : ∀ eventId, Foreign db organizerId eventId →
    next.zonesOf eventId = db.zonesOf eventId ∨
    ∃ removed row, db.ownTicketType organizerId removed = some row ∧
      next.ticketTypes.find? removed = none ∧
      next.zonesOf eventId = (db.zonesOf eventId).map fun entry =>
        (entry.1, entry.2.forget removed)

section Spares

variable {db next : Db} {organizerId : UserId} {command : Command}

private theorem Isolates.sparesOthers
    (isolates : Isolates db next organizerId) :
    SparesOthers db next organizerId where
  events := isolates.events
  ticketTypes := isolates.ticketTypes
  seats := isolates.seats
  zones := fun eventId foreign => Or.inl (isolates.zones eventId foreign)

private theorem zonesOf_withoutTicketType (removed : TicketTypeId)
    (eventId : EventId) :
    (db.withoutTicketType removed).zonesOf eventId =
      (db.zonesOf eventId).map fun entry =>
        (entry.1, entry.2.forget removed) := by
  have stays : ∀ entry ∈ db.zones.rows,
      decide ((entry.2.forget removed).eventId = eventId) =
        decide (entry.2.eventId = eventId) := by
    intro entry _
    rw [(zone_forget removed entry.2).1]
  simp only [Db.zonesOf, Db.withoutTicketType, Table.select, Table.mapRows,
    List.filter_map]
  exact congrArg _ (List.filter_congr stays)

/-- A deletion of an own ticket type, as long as seats refer to ticket types
of their own events. -/
theorem sparesOthers_withoutTicketType (seatsOwn : SeatsReferOwn db)
    {removed : TicketTypeId} {row : TicketType}
    (owns : db.OwnsType organizerId removed)
    (found : db.ticketTypes.find? removed = some row) :
    SparesOthers db (db.withoutTicketType removed) organizerId := by
  have own := ownTicketType_of_ownsType owns found
  have different : ∀ eventId, Foreign db organizerId eventId →
      row.eventId ≠ eventId :=
    fun eventId foreign =>
      ne_of_foreign (not_foreign_of_ownTicketType own) foreign
  constructor
  · intro eventId event _
    exact Iff.rfl
  · intro eventId foreign
    exact Db.ticketTypesOf_withoutTicketType found (different eventId foreign)
  · intro eventId foreign
    apply Db.seatRowsOf_withoutTicketType
    exact Db.seat_unnamed seatsOwn found (different eventId foreign)
  · intro eventId _
    exact Or.inr ⟨removed, row, own, db.ticketTypes.find?_erase_self removed,
      zonesOf_withoutTicketType removed eventId⟩

/-- A write that is the organizer's to do spares the others. -/
theorem sparesOthers_written (seatsOwn : SeatsReferOwn db)
    (allowed : Allows organizerId command db)
    (writes : Written db command next) :
    SparesOthers db next organizerId := by
  cases writes with
  | nothing _ => exact (Isolates.same rfl rfl rfl rfl).sparesOthers
  | logged entry =>
      have same : Isolates db (db.logged entry) organizerId :=
        .same rfl rfl rfl rfl
      exact same.sparesOthers
  | eventCreated data event owner _ =>
      exact (Isolates.withNewEvent allowed.1 owner).sparesOthers
  | eventUpdated eventId data =>
      obtain ⟨⟨event, own⟩, _⟩ := allowed
      exact (Isolates.withEvent own data).sparesOthers
  | ticketTypeCreated data new ofEvent =>
      obtain ⟨event, own⟩ := allowed
      exact (Isolates.withNewTicketType own ofEvent).sparesOthers
  | ticketTypeUpdated ticketTypeId data row found =>
      have own := ownTicketType_of_ownsType allowed found
      exact (Isolates.withTicketType own data).sparesOthers
  | ticketTypeDeleted removed row found =>
      exact sparesOthers_withoutTicketType seatsOwn allowed found
  | seatsCreated seats _ =>
      obtain ⟨eventId, sections, rfl, ⟨event, own⟩, _⟩ := allowed
      have same : Isolates db db organizerId := .same rfl rfl rfl rfl
      exact (same.withSeats own sections).sparesOthers
  | zonesCreated zones =>
      obtain ⟨eventId, configs, rfl, ⟨event, own⟩⟩ := allowed
      have same : Isolates db db organizerId := .same rfl rfl rfl rfl
      exact (same.withZones own configs).sparesOthers
  | seatMapCreated eventId seats _ =>
      obtain ⟨⟨event, own⟩, sections, rfl, _⟩ := allowed
      exact ((Isolates.withEvent own _).withSeats own sections).sparesOthers
  | zoneLayoutCreated eventId zones =>
      obtain ⟨⟨event, own⟩, configs, rfl⟩ := allowed
      exact ((Isolates.withEvent own _).withZones own configs).sparesOthers

end Spares

/-! ## Runs -/

abbrev OrganizerHistory := List (OrganizerState × OrganizerAction)

theorem organizers_of_run {history : OrganizerHistory}
    {state : OrganizerState}
    (run : Trace organizerServer.step ⟨Db.empty, []⟩ history state) :
    EachSafe perform OwnersStay (fun input => Allows input.organizerId)
      TablesSound state :=
  EachSafe.of_run tablesSound_empty organizers_cooperate run

/-- However the requests overlap, every seat with a ticket type has one of its
own event. -/
theorem seatsReferOwn_overlapping {history : OrganizerHistory}
    {state : OrganizerState}
    (run : Trace organizerServer.step ⟨Db.empty, []⟩ history state) :
    SeatsReferOwn state.stores :=
  (organizers_of_run run).stores.seats

def answered (index commands : Nat) : List OrganizerAction :=
  List.replicate commands (.await index .resolves)

/-- Two organizers create events, the second one's is approved.  The first one
adds seats and deletes their ticket type at the same time; both requests have
checked the ticket type. -/
def atOnce : List OrganizerAction :=
  [.external (.registered 10), .external (.registered 20),
    .request ⟨10, .createEvent concert⟩, .request ⟨20, .createEvent concert⟩,
    .await 0 .resolves, .await 1 .resolves, .await 0 .resolves,
    .await 0 .resolves, .request ⟨10, .createTicketType 0 standing⟩] ++
    answered 2 3 ++
    [.await 1 .resolves, .request ⟨10, .createSeatMap 0 [⟨1, 2, none, 0⟩]⟩,
      .external (.reviewed 1 .approved), .await 1 .resolves] ++
    answered 3 4 ++
    [.request ⟨10, .updateLayout 0 ⟨some [⟨1, 2, none, 0⟩], none⟩⟩,
      .request ⟨10, .removeTicketType 0⟩] ++
    answered 4 3 ++ answered 5 2

private theorem atOnce_enabled :
    (replay organizerServer.step [] ⟨Db.empty, []⟩ atOnce).isSome = true := by
  decide +kernel

def afterAtOnce : OrganizerHistory × OrganizerState :=
  (replay organizerServer.step [] ⟨Db.empty, []⟩ atOnce).get atOnce_enabled

theorem atOnce_run :
    Trace organizerServer.step ⟨Db.empty, []⟩ afterAtOnce.1 afterAtOnce.2 :=
  Trace.of_replay_get atOnce atOnce_enabled

theorem seatsReferOwn_overlapping_atOnce :
    SeatsReferOwn afterAtOnce.2.stores :=
  seatsReferOwn_overlapping atOnce_run

/-- However the requests overlap, no step of a request touches an event, a
ticket type or a seat of another organizer. -/
theorem others_spared {history : OrganizerHistory}
    {state next : OrganizerState}
    (run : Trace organizerServer.step ⟨Db.empty, []⟩ history state)
    {index : Nat} {outcome : Await} {call : OrganizerCall}
    (stepped : organizerServer.step state (.await index outcome) = some next)
    (found : state.calls[index]? = some call) :
    SparesOthers state.stores next.stores call.input.organizerId := by
  have sound := organizers_of_run run
  rcases stores_cases stepped with
    ⟨event, external, _⟩ | ⟨input, command, applies, same⟩ | ⟨_, _, same⟩
  · cases external
  · have allowed := sound.allowed OwnersStay.refl applies
    obtain ⟨position, _, other, _, awaits, _, reached, _, rfl, _⟩ :=
      appliedFor_eq_some.mp applies
    cases awaits
    rw [found] at reached
    cases Option.some.inj reached
    rw [same]
    exact sparesOthers_written sound.stores.seats allowed
      (written state.stores command)
  · rw [same]
    exact (Isolates.same rfl rfl rfl rfl).sparesOthers

private theorem deletion_enabled :
    (organizerServer.step afterAtOnce.2 (.await 5 .resolves)).isSome =
      true := by
  decide +kernel

private theorem deletion_isCall : (afterAtOnce.2.calls[5]?).isSome = true := by
  decide +kernel

theorem others_spared_deletion :
    SparesOthers afterAtOnce.2.stores
      ((organizerServer.step afterAtOnce.2 (.await 5 .resolves)).get
        deletion_enabled).stores 10 := by
  have byTen : ((afterAtOnce.2.calls[5]?).get
      deletion_isCall).input.organizerId = 10 := by
    decide +kernel
  rw [← byTen]
  exact others_spared atOnce_run (Option.some_get deletion_enabled).symm
    (Option.some_get deletion_isCall).symm

/-- The last status that the review has given the event. -/
def lastReview (eventId : EventId) (history : OrganizerHistory) :
    Option EventStatus :=
  history.findSome? fun entry =>
    match entry.2 with
    | .external (.reviewed reviewed status) =>
        if reviewed = eventId then some status else none
    | _ => none

def organizerStatuses : List EventStatus := [.draft, .pendingApproval]

/-- An event with another status has it from the last review. -/
def StatusesReviewed (history : OrganizerHistory) (db : Db) : Prop :=
  ∀ eventId event, db.events.find? eventId = some event →
    event.status ∈ organizerStatuses ∨
      lastReview eventId history = some event.status

section Statuses

variable {db after : Db} {organizerId : UserId} {command : Command}
  {eventId : EventId} {event : Event}

private theorem status_withEvent {updated : EventId} {data : EventUpdateInput}
    (status : data.status ∈ [Member.undefined, Member.value .pendingApproval])
    (found : (db.withEvent updated data).events.find? eventId = some event) :
    event.status ∈ organizerStatuses ∨
      ∃ was, db.events.find? eventId = some was ∧
        was.status = event.status := by
  rw [Db.withEvent, Table.find?_modify] at found
  obtain ⟨was, foundWas, rfl⟩ := Option.map_eq_some_iff.mp found
  by_cases same : eventId = updated
  · rw [if_pos same]
    rcases List.mem_pair.mp status with kept | submitted
    · right
      refine ⟨was, foundWas, ?_⟩
      simp only [EventUpdateInput.writeOver, kept, Member.writeOver]
    · left
      simp only [EventUpdateInput.writeOver, submitted, Member.writeOver]
      decide
  · rw [if_neg same]
    exact Or.inr ⟨was, foundWas, rfl⟩

/-- The write of an organizer leaves the status or makes it one of theirs. -/
theorem status_written (allowed : Allows organizerId command db)
    (writes : Written db command after)
    (found : after.events.find? eventId = some event) :
    event.status ∈ organizerStatuses ∨
      ∃ was, db.events.find? eventId = some was ∧
        was.status = event.status := by
  have labelled : ∀ model : TicketModelType,
      ({ ticketModel := .value model } : EventUpdateInput).status ∈
        [Member.undefined, Member.value .pendingApproval] :=
    fun _ => List.mem_cons_self
  cases writes with
  | eventCreated data new _ status =>
      have member := Table.mem_insert.mp (Table.find?_eq_some.mp found)
      rcases member with old | ⟨_, rfl⟩
      · exact Or.inr ⟨event, Table.find?_eq_some.mpr old, rfl⟩
      · left
        rw [status]
        exact allowed.2
  | eventUpdated updated data => exact status_withEvent allowed.2 found
  | seatMapCreated created seats _ =>
      exact status_withEvent (labelled .seatMap) found
  | zoneLayoutCreated created zones =>
      exact status_withEvent (labelled .zone) found
  | _ => exact Or.inr ⟨event, found, rfl⟩

/-- What happens outside changes the status of an event by a review only. -/
theorem StatusesReviewed.outside {history : OrganizerHistory}
    {state : OrganizerState} (reviewed : StatusesReviewed history db)
    (happens : Outside) :
    StatusesReviewed ((state, .external happens) :: history)
      (happens.apply db) := by
  intro eventId event found
  cases happens with
  | registered userId =>
      have same : ((Outside.registered userId).apply db).events =
          db.events := by
        rw [Outside.apply]
        split <;> rfl
      rw [same] at found
      exact reviewed eventId event found
  | reviewed changed status =>
      rw [Outside.apply, Table.find?_modify] at found
      obtain ⟨was, foundWas, rfl⟩ := Option.map_eq_some_iff.mp found
      by_cases same : eventId = changed
      · right
        simp [lastReview, same]
      · rw [if_neg same]
        have elsewhere : changed ≠ eventId := Ne.symm same
        simpa [lastReview, elsewhere] using reviewed eventId was foundWas
  | sold ticketTypeId count => exact reviewed eventId event found
  | ordered ticketTypeId =>
      have same : ((Outside.ordered ticketTypeId).apply db).events =
          db.events := by
        rw [Outside.apply]
        split <;> rfl
      rw [same] at found
      exact reviewed eventId event found

theorem StatusesReviewed.step {history : OrganizerHistory}
    {state next : OrganizerState} {action : OrganizerAction}
    (reviewed : StatusesReviewed history state.stores)
    (sound : EachSafe perform OwnersStay
      (fun input => Allows input.organizerId) TablesSound state)
    (stepped : organizerServer.step state action = some next) :
    StatusesReviewed ((state, action) :: history) next.stores := by
  have older : (∀ happens, action ≠ .external happens) → ∀ eventId,
      lastReview eventId ((state, action) :: history) =
        lastReview eventId history := by
    intro inside eventId
    cases action with
    | external happens => exact absurd rfl (inside happens)
    | request input => rfl
    | await index outcome => rfl
  rcases stores_cases stepped with
    ⟨happens, rfl, same⟩ | ⟨input, command, applies, same⟩ | ⟨inside, _, same⟩
  · rw [same]
    exact reviewed.outside happens
  · have allowed := sound.allowed OwnersStay.refl applies
    have inside : ∀ happens, action ≠ .external happens := by
      obtain ⟨index, outcome, _, _, rfl, _⟩ := appliedFor_eq_some.mp applies
      exact nofun
    rw [same]
    intro eventId event found
    rw [older inside]
    rcases status_written allowed (written state.stores command) found with
      theirs | ⟨was, foundWas, kept⟩
    · exact Or.inl theirs
    · rw [← kept]
      exact reviewed eventId was foundWas
  · rw [same]
    intro eventId event found
    rw [older inside]
    exact reviewed eventId event found

end Statuses

/-- However the requests overlap, an event is a draft or waits for approval,
or its status is the one that the last review has given it. -/
theorem opened_by_review {history : OrganizerHistory} {state : OrganizerState}
    (run : Trace organizerServer.step ⟨Db.empty, []⟩ history state)
    {eventId : EventId} {event : Event}
    (found : state.stores.events.find? eventId = some event)
    (opened : event.status ∉ organizerStatuses) :
    lastReview eventId history = some event.status := by
  have reviewed : StatusesReviewed history state.stores := by
    refine Trace.invariantHistory
      (fun history (state : OrganizerState) =>
        StatusesReviewed history state.stores) ?_ ?_ run
    · intro eventId event found
      cases found
    · intro earlier before action after runBefore holds stepped
      exact holds.step (organizers_of_run runBefore) stepped
  exact (reviewed eventId event found).resolve_left opened

private theorem opened_isEvent :
    (afterAtOnce.2.stores.events.find? 1).isSome = true := by
  decide +kernel

theorem opened_by_review_atOnce :
    lastReview 1 afterAtOnce.1 =
      some ((afterAtOnce.2.stores.events.find? 1).get opened_isEvent).status :=
  opened_by_review atOnce_run (Option.some_get opened_isEvent).symm
    (by decide +kernel)

end ConcertTicketing.Events
