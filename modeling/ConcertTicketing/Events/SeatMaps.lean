import ConcertTicketing.Events.Frame

/-!
# The sections behind the seats of an event

`createSeatMap` and the sections of `updateLayout` are the only writers of
seats.  In every run the seats of an event are, in the order in which they have
been inserted, those of the sections that the database has taken in for it, and
nothing later touches their texts.
-/

namespace ConcertTicketing.Events

section Sections

variable {db : Db} {organizerId : UserId} {eventId : EventId}
  {sections : List SeatMapConfigDto}

instance (db : Db) (organizerId : UserId) (eventId : EventId)
    (sections : List SeatMapConfigDto) (event : Event) :
    Decidable (CreatesSeatMap db organizerId eventId sections event) :=
  decidable_of_iff
    (Mutable db organizerId eventId event ∧ event.ticketModel = none ∧
      db.countTicketTypes (SeatsService.ticketTypeIds sections) eventId =
        (SeatsService.ticketTypeIds sections).length)
    ⟨fun parts => ⟨parts.1, parts.2.1, parts.2.2⟩,
      fun creates => ⟨creates.isMutable, creates.blank, creates.counted⟩⟩

instance (db : Db) (organizerId : UserId) (eventId : EventId)
    (dto : UpdateSeatMapDto) (event : Event) :
    Decidable (AddsSeats db organizerId eventId dto event) :=
  decidable_of_iff
    (Mutable db organizerId eventId event ∧
      event.ticketModel = some .seatMap ∧
      db.countTicketTypes
          (SeatsService.ticketTypeIds (dto.addSections.getD [])) eventId =
        (SeatsService.ticketTypeIds (dto.addSections.getD [])).length)
    ⟨fun parts => ⟨parts.1, parts.2.1, parts.2.2⟩,
      fun adds => ⟨adds.isMutable, adds.model, adds.counted⟩⟩

/-- The foreign keys of sections that have been counted hold. -/
theorem references_of_counted {event : Event}
    (own : db.ownEvent organizerId eventId = some event)
    (counted : Counted db eventId (SeatsService.ticketTypeIds sections)) :
    ((SeatsService.sectionSeats eventId sections).all fun seat =>
      db.references seat.eventId seat.ticketTypeId) = true := by
  rw [List.all_eq_true]
  intro seat member
  obtain ⟨ofEvent, ticketTypeId, _, names⟩ := mem_sectionSeats member
  have refers := ofEvent_of_mem_sectionSeats counted seat member ticketTypeId
    names
  obtain ⟨ticketType, found, _⟩ := Option.map_eq_some_iff.mp refers
  rw [Db.references, ofEvent, find?_of_ownEvent own, names, Option.all_some,
    found]
  rfl

theorem addSections_of_counted {event : Event}
    (own : db.ownEvent organizerId eventId = some event)
    (model : event.ticketModel = some .seatMap)
    (counted : Counted db eventId (SeatsService.ticketTypeIds sections)) :
    ∃ added, (SeatsService.addSections eventId event sections).run perform
      db = (.ok added,
        db.withSeats (SeatsService.sectionSeats eventId sections)) := by
  rw [SeatsService.addSections]
  by_cases empty : sections = []
  · subst sections
    exact ⟨none, rfl⟩
  · rw [if_neg empty, if_neg (not_not_intro model)]
    rcases assertTicketTypesOwnership_cases eventId
        (SeatsService.ticketTypeIds sections) db with
      ⟨error, uncounted, _⟩ | ⟨_, checked⟩
    · exact absurd counted uncounted
    · have created : db.createSeats
          (SeatsService.sectionSeats eventId sections) = .ok ((),
            db.withSeats (SeatsService.sectionSeats eventId sections)) :=
        if_pos (references_of_counted own counted)
      have performed : perform
          (.createSeats (SeatsService.sectionSeats eventId sections)) db =
          (.ok (), db.withSeats
            (SeatsService.sectionSeats eventId sections)) :=
        commit_ok created
      rw [Program.run_bind_ok checked]
      exact ⟨_, run_reply performed _⟩

/-- A seat map that passes its checks is created. -/
theorem createSeatMap_of_creates {event : Event}
    (creates : CreatesSeatMap db organizerId eventId sections event) :
    ((SeatsService.createSeatMap organizerId eventId sections).run perform
      db) = (.ok (.seatMap
        ((seatMapCreated db eventId sections).seatsOf eventId).length
        ((seatMapCreated db eventId sections).seatsOf eventId)),
      seatMapCreated db eventId sections) := by
  have own := creates.isMutable.1
  rcases assertOwnerAndStatus_cases
      "Không thể chỉnh sửa sơ đồ khi sự kiện ở trạng thái " organizerId
      eventId db with
    ⟨error, refused, _⟩ | ⟨other, isMutable, ran⟩
  · exact absurd creates.isMutable (refused event)
  · have same : other = event := Option.some.inj (isMutable.1.symm.trans own)
    subst other
    have blank : ¬ event.ticketModel.isSome = true := by
      rw [creates.blank]
      decide
    rw [SeatsService.createSeatMap, SeatsService.assertEventOwnerAndStatus,
      Program.run_bind_ok ran, if_neg blank]
    rcases assertTicketTypesOwnership_cases eventId
        (SeatsService.ticketTypeIds sections) db with
      ⟨error, uncounted, _⟩ | ⟨_, checked⟩
    · exact absurd creates.counted uncounted
    · have filled : db.seatMapTransaction eventId
          (SeatsService.sectionSeats eventId sections) =
          .ok ((seatMapCreated db eventId sections).seatsOf eventId,
            seatMapCreated db eventId sections) := by
        rw [seatMapTransaction_of_event (find?_of_ownEvent own)]
        exact if_pos (references_of_counted own creates.counted)
      have performed : perform
          (.seatMapTransaction eventId
            (SeatsService.sectionSeats eventId sections)) db =
          (.ok ((seatMapCreated db eventId sections).seatsOf eventId),
            seatMapCreated db eventId sections) :=
        commit_ok filled
      rw [Program.run_bind_ok checked, run_reply performed]
      rfl

/-- Sections that pass their checks are added, whatever becomes of the
zones. -/
theorem updateLayout_of_adds {dto : UpdateSeatMapDto} {event : Event}
    (adds : AddsSeats db organizerId eventId dto event) :
    ((SeatsService.updateLayout organizerId eventId dto).run perform db).2 =
      db.withSeats
        (SeatsService.sectionSeats eventId (dto.addSections.getD [])) := by
  rcases assertOwnerAndStatus_cases
      "Không thể chỉnh sửa sơ đồ khi sự kiện ở trạng thái " organizerId
      eventId db with
    ⟨error, refused, _⟩ | ⟨other, isMutable, ran⟩
  · exact absurd adds.isMutable (refused event)
  · have same : other = event :=
      Option.some.inj (isMutable.1.symm.trans adds.isMutable.1)
    subst other
    have present : ¬ event.ticketModel.isNone = true := by
      rw [adds.model]
      decide
    have noZones : event.ticketModel ≠ some .zone := by
      rw [adds.model]
      decide
    obtain ⟨added, ranSections⟩ := addSections_of_counted
      adds.isMutable.1 adds.model adds.counted
    rw [SeatsService.updateLayout, SeatsService.assertEventOwnerAndStatus,
      Program.run_bind_ok ran, if_neg present,
      Program.run_bind_ok ranSections, snd_run_bind_return]
    exact addZones_of_ne noZones eventId _ _

end Sections

def SeatRow.texts (seat : SeatRow) : Text × Text × Text :=
  (seat.row, seat.number, seat.label)

/-- The texts of the event's seats, in the order of their insertion. -/
def Db.seatTexts (db : Db) (eventId : EventId) : List (Text × Text × Text) :=
  (db.seatRowsOf eventId).map fun entry => entry.2.texts

def rowTexts (config : SeatMapConfigDto) (row : Nat) :
    List (Text × Text × Text) :=
  (List.range' 1 config.seatsPerRow).map fun number =>
    (SeatsService.rowLabel config.rowPrefix row, Nat.toDigits 10 number,
      SeatsService.rowLabel config.rowPrefix row ++ Nat.toDigits 10 number)

def sectionTexts (sections : List SeatMapConfigDto) :
    List (Text × Text × Text) :=
  sections.flatMap fun config =>
    (List.range' 1 config.rows).flatMap (rowTexts config)

theorem map_texts_sectionSeats (eventId : EventId)
    (sections : List SeatMapConfigDto) :
    (SeatsService.sectionSeats eventId sections).map SeatRow.texts =
      sectionTexts sections := by
  simp only [SeatsService.sectionSeats, SeatsService.rowSeats, sectionTexts,
    List.map_flatMap, List.map_map]
  rfl

/-- The sections that the step writes as seats of the event: those of a
request that passes its checks. -/
def sectionsTaken (eventId : EventId) (db : Db) :
    Action → List SeatMapConfigDto
  | .request organizerId (.createSeatMap target sections) =>
      if target = eventId ∧ ∃ event ∈ db.ownEvent organizerId eventId,
          CreatesSeatMap db organizerId eventId sections event then
        sections
      else []
  | .request organizerId (.updateLayout target dto) =>
      if target = eventId ∧ ∃ event ∈ db.ownEvent organizerId eventId,
          AddsSeats db organizerId eventId dto event then
        dto.addSections.getD []
      else []
  | _ => []

/-- The sections of the event in the order in which they have come in. -/
def sectionsOf (eventId : EventId) :
    List (Db × Action) → List SeatMapConfigDto
  | [] => []
  | (db, action) :: earlier =>
      sectionsOf eventId earlier ++ sectionsTaken eventId db action

/-- `@Min(1)` in the sections of the bodies. -/
def Validated (_ : Db) : Action → Prop
  | .request _ (.createSeatMap _ sections) =>
      ∀ config ∈ sections, 1 ≤ config.rows ∧ 1 ≤ config.seatsPerRow
  | .request _ (.updateLayout _ dto) =>
      ∀ config ∈ dto.addSections.getD [],
        1 ≤ config.rows ∧ 1 ≤ config.seatsPerRow
  | _ => True

instance (db : Db) : DecidablePred (Validated db)
  | .outside _ => isTrue trivial
  | .request _ request =>
      match request with
      | .createSeatMap _ sections =>
          inferInstanceAs (Decidable (∀ config ∈ sections, _))
      | .updateLayout _ dto =>
          inferInstanceAs
            (Decidable (∀ config ∈ dto.addSections.getD [], _))
      | .createEvent _ => isTrue trivial
      | .updateEvent _ _ => isTrue trivial
      | .submitEvent _ => isTrue trivial
      | .createTicketType _ _ => isTrue trivial
      | .updateTicketType _ _ => isTrue trivial
      | .removeTicketType _ => isTrue trivial
      | .hideTicketType _ => isTrue trivial
      | .createZones _ _ => isTrue trivial

private theorem mem_sectionsTaken {eventId : EventId} {db : Db}
    {action : Action} (validated : Validated db action)
    {config : SeatMapConfigDto}
    (member : config ∈ sectionsTaken eventId db action) :
    1 ≤ config.rows ∧ 1 ≤ config.seatsPerRow := by
  rw [sectionsTaken.eq_def] at member
  split at member
  · split at member
    · exact validated config member
    · cases member
  · split at member
    · exact validated config member
    · cases member
  · cases member

theorem mem_sectionsOf {eventId : EventId} {history : List (Db × Action)}
    (validated : StepsMeet Validated history) {config : SeatMapConfigDto}
    (member : config ∈ sectionsOf eventId history) :
    1 ≤ config.rows ∧ 1 ≤ config.seatsPerRow := by
  induction history with
  | nil => cases member
  | cons entry earlier inductionHypothesis =>
      have parts := stepsMeet_cons.mp validated
      rcases List.mem_append.mp member with before | now
      · exact inductionHypothesis parts.2 before
      · exact mem_sectionsTaken parts.1 now

section Steps

variable {db next : Db} {organizerId : UserId} {eventId : EventId}

private theorem seatTexts_of_seats (same : next.seats = db.seats) :
    next.seatTexts eventId = db.seatTexts eventId := by
  rw [Db.seatTexts, Db.seatRowsOf, same]
  rfl

theorem seatTexts_withSeats (target : EventId)
    (sections : List SeatMapConfigDto) :
    (db.withSeats (SeatsService.sectionSeats target sections)).seatTexts
        eventId =
      db.seatTexts eventId ++
        if target = eventId then sectionTexts sections else [] := by
  by_cases same : target = eventId
  · subst target
    have own : (SeatsService.sectionSeats eventId sections).filter
        (fun seat => decide (seat.eventId = eventId)) =
          SeatsService.sectionSeats eventId sections := by
      apply List.filter_eq_self.mpr
      intro seat member
      exact decide_eq_true (mem_sectionSeats member).1
    have added := Table.map_snd_select_insertMany
      (SeatsService.sectionSeats eventId sections) db.seats
      fun seat => decide (seat.eventId = eventId)
    rw [own] at added
    have shown := congrArg (List.map SeatRow.texts) added
    rw [List.map_append, List.map_map, List.map_map,
      map_texts_sectionSeats] at shown
    rw [if_pos rfl]
    exact shown
  · rw [if_neg same, List.append_nil, Db.seatTexts,
      Db.seatRowsOf_withSeats same]
    rfl

private theorem seatTexts_forget (ticketTypeId : TicketTypeId) :
    (db.withoutTicketType ticketTypeId).seatTexts eventId =
      db.seatTexts eventId := by
  have stays : ∀ seat : SeatRow, (seat.forget ticketTypeId).texts =
      seat.texts := by
    intro seat
    rw [SeatRow.forget]
    split
    · rfl
    · rfl
  have viewed :
      ((db.withoutTicketType ticketTypeId).seatRowsOf eventId).map
          (fun entry => (entry.1, entry.2.texts)) =
        (db.seatRowsOf eventId).map
          (fun entry => (entry.1, entry.2.texts)) := by
    change ((db.seats.mapRows fun _ => SeatRow.forget ticketTypeId).select
      fun seat => decide (seat.eventId = eventId)).map _ = _
    apply Table.select_mapRows SeatRow.texts
    · intro entry _
      rw [(seat_forget ticketTypeId entry.2).1]
    · intro entry _ _
      exact stays entry.2
  have shown := congrArg (List.map Prod.snd) viewed
  rw [List.map_map, List.map_map] at shown
  exact shown

def Request.seats : Request → Bool
  | .createSeatMap _ _ => true
  | .updateLayout _ _ => true
  | _ => false

private theorem seatTexts_of_effect {request : Request}
    (noSeats : request.seats = false)
    (effect : Effect db organizerId request next) :
    next.seatTexts eventId = db.seatTexts eventId := by
  cases effect with
  | ticketTypeRemoved ticketTypeId ticketType removes =>
      exact seatTexts_forget ticketTypeId
  | seatMapCreated target sections event creates => cases noSeats
  | seatsAdded target dto event adds noZones => cases noSeats
  | zonesAdded target dto event adds => cases noSeats
  | _ => exact seatTexts_of_seats rfl

private theorem seatTexts_createSeatMap (target : EventId)
    (sections : List SeatMapConfigDto) :
    ((Request.createSeatMap target sections).serve organizerId
        db).2.seatTexts eventId =
      db.seatTexts eventId ++ sectionTexts (sectionsTaken eventId db
        (.request organizerId (.createSeatMap target sections))) := by
  by_cases taken : target = eventId ∧
      ∃ event ∈ db.ownEvent organizerId eventId,
        CreatesSeatMap db organizerId eventId sections event
  · rw [sectionsTaken, if_pos taken]
    obtain ⟨rfl, event, _, creates⟩ := taken
    rw [Request.serve, Request.operation, createSeatMap_of_creates creates]
    exact (seatTexts_withSeats target sections).trans (by rw [if_pos rfl]; rfl)
  · rw [sectionsTaken, if_neg taken]
    rcases createSeatMap_request_cases organizerId target sections db with
      unchanged | ⟨event, creates, changed⟩
    · rw [Request.serve, Request.operation, unchanged]
      exact (List.append_nil _).symm
    · have other : target ≠ eventId := by
        intro same
        subst target
        exact taken ⟨rfl, event, creates.isMutable.1, creates⟩
      rw [Request.serve, Request.operation, changed]
      exact (seatTexts_withSeats target sections).trans
        (by rw [if_neg other]; rfl)

private theorem seatTexts_updateLayout (target : EventId)
    (dto : UpdateSeatMapDto) :
    ((Request.updateLayout target dto).serve organizerId db).2.seatTexts
        eventId =
      db.seatTexts eventId ++ sectionTexts (sectionsTaken eventId db
        (.request organizerId (.updateLayout target dto))) := by
  by_cases taken : target = eventId ∧
      ∃ event ∈ db.ownEvent organizerId eventId,
        AddsSeats db organizerId eventId dto event
  · rw [sectionsTaken, if_pos taken]
    obtain ⟨rfl, event, _, adds⟩ := taken
    rw [Request.serve, Request.operation, updateLayout_of_adds adds,
      seatTexts_withSeats, if_pos rfl]
  · rw [sectionsTaken, if_neg taken]
    rcases updateLayout_cases organizerId target dto db with
      ⟨_, unchanged | ⟨event, adds, changed⟩⟩ | ⟨event, adds, changed⟩
    · rw [Request.serve, Request.operation, unchanged]
      exact (List.append_nil _).symm
    · have other : target ≠ eventId := by
        intro same
        subst target
        exact taken ⟨rfl, event, adds.isMutable.1, adds⟩
      rw [Request.serve, Request.operation, changed, seatTexts_withSeats,
        if_neg other]
      rfl
    · rw [Request.serve, Request.operation, changed]
      exact (List.append_nil _).symm

/-- One step adds the seats of the sections that it takes in. -/
theorem seatTexts_step {action : Action}
    (stepped : step db action = some next) :
    next.seatTexts eventId = db.seatTexts eventId ++
      sectionTexts (sectionsTaken eventId db action) := by
  cases action with
  | outside event =>
      rw [← Option.some.inj stepped]
      refine Eq.trans ?_ (List.append_nil _).symm
      apply seatTexts_of_seats
      cases event with
      | registered userId =>
          rw [Outside.apply]
          split
          · rfl
          · rfl
      | reviewed reviewed status => rfl
      | sold ticketTypeId count => rfl
      | ordered ticketTypeId =>
          rw [Outside.apply]
          split
          · rfl
          · rfl
  | request organizerId request =>
      rw [← Option.some.inj stepped]
      have effect := effect_serve db organizerId request
      cases request with
      | createSeatMap target sections =>
          exact seatTexts_createSeatMap target sections
      | updateLayout target dto => exact seatTexts_updateLayout target dto
      | _ =>
          exact (seatTexts_of_effect rfl effect).trans
            (List.append_nil _).symm

end Steps

/-- In every run the seats of the event show the texts of its sections. -/
theorem seatTexts_of_run {history : List (Db × Action)} {db : Db}
    (run : Trace step Db.empty history db) (eventId : EventId) :
    db.seatTexts eventId = sectionTexts (sectionsOf eventId history) := by
  induction run with
  | nil => rfl
  | @snoc earlier before after action _ stepped inductionHypothesis =>
      rw [seatTexts_step stepped, inductionHypothesis, sectionsOf,
        sectionTexts, sectionTexts, sectionTexts, List.flatMap_append]

end ConcertTicketing.Events
