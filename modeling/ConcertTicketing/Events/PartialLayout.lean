import ConcertTicketing.Events.SeatMaps

/-!
# Layout updates that throw

`updateLayout` writes the sections before it looks at the zones, and outside a
transaction.  An event has one model, so the zones of a body with sections that
have come through are refused: such a request throws and has added seats.  Every
other request that throws leaves the rows of the event as they were.
-/

namespace ConcertTicketing.Events

/-- When the request throws, the event has its seats and zones as before. -/
def AllOrNothing (db : Db) (organizerId : UserId) (eventId : EventId)
    (dto : UpdateSeatMapDto) : Prop :=
  ∀ error,
    ((Request.updateLayout eventId dto).serve organizerId db).1 =
      .error error →
    ((Request.updateLayout eventId dto).serve organizerId db).2.seatRowsOf
        eventId = db.seatRowsOf eventId ∧
      ((Request.updateLayout eventId dto).serve organizerId db).2.zonesOf
        eventId = db.zonesOf eventId

/-- The sections come through, they have a seat, and there are zones as
well. -/
structure SeatsBeforeZones (db : Db) (organizerId : UserId)
    (eventId : EventId) (dto : UpdateSeatMapDto) : Prop where
  adds : ∃ event, AddsSeats db organizerId eventId dto event
  seats : ∃ config ∈ dto.addSections.getD [],
    0 < config.rows ∧ 0 < config.seatsPerRow
  zones : dto.addZones.getD [] ≠ []

section Sections

variable {db : Db} {organizerId : UserId} {eventId : EventId}
  {sections : List SeatMapConfigDto}

private theorem sectionSeats_eq_nil_iff :
    SeatsService.sectionSeats eventId sections = [] ↔
      ¬ ∃ config ∈ sections, 0 < config.rows ∧ 0 < config.seatsPerRow := by
  simp only [SeatsService.sectionSeats, SeatsService.rowSeats,
    List.flatMap_eq_nil_iff, List.map_eq_nil_iff, List.range'_eq_nil_iff,
    List.mem_range'_1, not_exists, not_and, Nat.not_lt, Nat.le_zero]
  constructor
  · intro empty config member rows
    exact empty config member 1 ⟨Nat.le_refl 1, by omega⟩
  · intro empty config member row inRange
    exact empty config member (by omega)

/-- Seats that have been added show among the rows of the event. -/
theorem seatRowsOf_withSeats_ne
    (seats : SeatsService.sectionSeats eventId sections ≠ []) :
    (db.withSeats (SeatsService.sectionSeats eventId sections)).seatRowsOf
      eventId ≠ db.seatRowsOf eventId := by
  intro same
  have added : (db.withSeats (SeatsService.sectionSeats eventId
      sections)).seatTexts eventId =
        db.seatTexts eventId ++ sectionTexts sections := by
    rw [seatTexts_withSeats, if_pos rfl]
  have unchanged : db.seatTexts eventId =
      db.seatTexts eventId ++ sectionTexts sections := by
    rw [← added, Db.seatTexts, Db.seatTexts, same]
  have empty := List.self_eq_append_right.mp unchanged
  rw [← map_texts_sectionSeats eventId] at empty
  exact seats (List.map_eq_nil_iff.mp empty)

end Sections

section Zones

variable {event : Event} {eventId : EventId} {zones : List ZoneConfigDto}

/-- The part for the zones has written nothing when it throws. -/
theorem addZones_of_error {db : Db} {error : ServiceError}
    (threw : ((SeatsService.addZones eventId event zones).run perform db).1 =
      .error error) :
    ((SeatsService.addZones eventId event zones).run perform db).2 = db := by
  by_cases model : event.ticketModel = some .zone
  · rw [SeatsService.addZones] at threw ⊢
    by_cases empty : zones = []
    · rw [if_pos empty]
      rfl
    · rw [if_neg empty, if_neg (not_not_intro model)] at threw ⊢
      rcases createZones_cases db eventId zones with
        ⟨⟨failure, failed⟩, _⟩ | ⟨created, _⟩
      · have performed : perform
            (.createZones (SeatsService.zoneRows eventId zones)) db =
            (.error failure, db) :=
          commit_error failed
        rw [run_reply performed]
        rfl
      · have performed : perform
            (.createZones (SeatsService.zoneRows eventId zones)) db =
            (.ok (), db.withZones (SeatsService.zoneRows eventId zones)) :=
          commit_ok created
        rw [run_reply performed] at threw
        cases threw
  · exact addZones_of_ne model eventId zones db

/-- An event with a seat map takes no zones. -/
theorem addZones_of_seatMap (model : event.ticketModel = some .seatMap)
    (nonempty : zones ≠ []) (eventId : EventId) (db : Db) :
    ∃ error, (SeatsService.addZones eventId event zones).run perform db =
      (.error error, db) := by
  have other : event.ticketModel ≠ some .zone := by
    rw [model]
    decide
  rw [SeatsService.addZones, if_neg nonempty, if_pos other]
  exact ⟨_, rfl⟩

end Zones

section Requests

variable {db : Db} {organizerId : UserId} {eventId : EventId}
  {dto : UpdateSeatMapDto}

/-- The outcome behind `program >>= next` when `next` only returns. -/
theorem fst_run_bind_return {α β : Type} {program : Operation α}
    {result : α → β} {db : Db} {error : ServiceError} :
    ((program >>= fun reply => pure (result reply)).run perform db).1 =
        .error error ↔
      (program.run perform db).1 = .error error := by
  rw [Program.run_bind]
  rcases program.run perform db with ⟨outcome, after⟩
  cases outcome with
  | ok reply =>
      constructor
      · intro same
        cases same
      · intro same
        cases same
  | error thrown =>
      constructor
      · intro same
        exact congrArg _ (Except.error.inj same)
      · intro same
        exact congrArg _ (Except.error.inj same)

/-- A request with sections that come through throws at its zones. -/
theorem serve_of_seatsBeforeZones
    (partway : SeatsBeforeZones db organizerId eventId dto) :
    ∃ error, (Request.updateLayout eventId dto).serve organizerId db =
      (.error error, db.withSeats
        (SeatsService.sectionSeats eventId (dto.addSections.getD []))) := by
  obtain ⟨event, adds⟩ := partway.adds
  obtain ⟨added, ranSections⟩ := addSections_of_counted adds.isMutable.1
    adds.model adds.counted
  rw [Request.serve, Request.operation, SeatsService.updateLayout,
    SeatsService.assertEventOwnerAndStatus]
  rcases assertOwnerAndStatus_cases
      "Không thể chỉnh sửa sơ đồ khi sự kiện ở trạng thái " organizerId
      eventId db with
    ⟨error, refused, _⟩ | ⟨other, isMutable, ran⟩
  · exact absurd adds.isMutable (refused event)
  · have same : other = event :=
      Option.some.inj (isMutable.1.symm.trans adds.isMutable.1)
    subst other
    have present : ¬ event.ticketModel.isNone = true := by
      rw [adds.model]
      decide
    obtain ⟨error, threw⟩ := addZones_of_seatMap adds.model partway.zones
      eventId (db.withSeats
        (SeatsService.sectionSeats eventId (dto.addSections.getD [])))
    rw [Program.run_bind_ok ran, if_neg present,
      Program.run_bind_ok ranSections, Program.run_bind_error threw]
    exact ⟨error, rfl⟩

/-- What a request that throws has written: nothing, or the sections. -/
theorem serve_of_error {error : ServiceError}
    (threw : ((Request.updateLayout eventId dto).serve organizerId db).1 =
      .error error) :
    ((Request.updateLayout eventId dto).serve organizerId db).2 = db ∨
    ((∃ event, AddsSeats db organizerId eventId dto event) ∧
      dto.addZones.getD [] ≠ [] ∧
      ((Request.updateLayout eventId dto).serve organizerId db).2 =
        db.withSeats (SeatsService.sectionSeats eventId
          (dto.addSections.getD []))) := by
  rw [Request.serve, Request.operation, SeatsService.updateLayout,
    SeatsService.assertEventOwnerAndStatus] at threw ⊢
  rcases assertOwnerAndStatus_cases
      "Không thể chỉnh sửa sơ đồ khi sự kiện ở trạng thái " organizerId
      eventId db with
    ⟨failure, _, ran⟩ | ⟨event, isMutable, ran⟩
  · left
    rw [Program.run_bind_error ran]
  · rw [Program.run_bind_ok ran] at threw ⊢
    by_cases blank : event.ticketModel.isNone = true
    · left
      rw [if_pos blank]
      rfl
    · rw [if_neg blank] at threw ⊢
      by_cases empty : dto.addSections.getD [] = []
      · left
        have returned : (SeatsService.addSections eventId event
            (dto.addSections.getD [])).run perform db = (.ok none, db) := by
          rw [SeatsService.addSections, if_pos empty]
          rfl
        rw [Program.run_bind_ok returned] at threw ⊢
        rw [snd_run_bind_return]
        exact addZones_of_error (fst_run_bind_return.mp threw)
      · rcases addSections_cases eventId event empty db with
          ⟨failure, failed⟩ | ⟨model, counted, added, ranSections⟩
        · left
          rw [Program.run_bind_error failed]
        · right
          rw [Program.run_bind_ok ranSections] at threw ⊢
          rw [snd_run_bind_return]
          have failed := fst_run_bind_return.mp threw
          refine ⟨⟨event, isMutable, model, counted⟩, ?_,
            addZones_of_error failed⟩
          intro noZones
          rw [noZones] at failed
          cases failed

end Requests

/-- A layout update that throws has changed nothing, unless its sections come
through before its zones are refused. -/
theorem allOrNothing_iff (db : Db) (organizerId : UserId) (eventId : EventId)
    (dto : UpdateSeatMapDto) :
    AllOrNothing db organizerId eventId dto ↔
      ¬ SeatsBeforeZones db organizerId eventId dto := by
  constructor
  · intro allOrNothing partway
    obtain ⟨error, served⟩ := serve_of_seatsBeforeZones partway
    have unchanged := (allOrNothing error (congrArg Prod.fst served)).1
    rw [served] at unchanged
    apply seatRowsOf_withSeats_ne _ unchanged
    intro empty
    exact sectionSeats_eq_nil_iff.mp empty partway.seats
  · intro whole error threw
    rcases serve_of_error threw with unchanged | ⟨adds, zones, added⟩
    · rw [unchanged]
      exact ⟨rfl, rfl⟩
    · have empty : SeatsService.sectionSeats eventId
          (dto.addSections.getD []) = [] := by
        apply sectionSeats_eq_nil_iff.mpr
        intro seats
        exact whole ⟨adds, seats, zones⟩
      rw [added, empty]
      exact ⟨rfl, rfl⟩

/-- The event has a seat map, and a body asks for more seats and for zones. -/
def seatedConcert : List Action :=
  [.outside (.registered 10), .request 10 (.createEvent concert),
    .request 10 (.createTicketType 0 standing),
    .request 10 (.createSeatMap 0 [⟨1, 2, none, 0⟩])]

def sectionsAndZones : UpdateSeatMapDto where
  addSections := some [⟨1, 2, some "B".toList, 0⟩]
  addZones := some [⟨"A", 60, some 0⟩]

/-- A layout update can throw and leave new seats behind. -/
theorem sectionsAndZones_throws :
    ¬ ∀ (history : List (Db × Action)) (db : Db),
      Trace step Db.empty history db →
      ∀ organizerId eventId dto,
        AllOrNothing db organizerId eventId dto := by
  intro always
  obtain ⟨history, db, run, checked⟩ :=
    Trace.exists_of_replay step Db.empty seatedConcert
      (fun result =>
        decide (((Request.updateLayout 0 sectionsAndZones).serve 10
            result.2).1 =
          .error (.badRequest "Sự kiện không dùng mô hình ZONE") ∧
          ((Request.updateLayout 0 sectionsAndZones).serve 10
            result.2).2.seatRowsOf 0 ≠ result.2.seatRowsOf 0))
      (by decide)
  obtain ⟨threw, changed⟩ := of_decide_eq_true checked
  exact changed (always history db run 10 0 sectionsAndZones _ threw).1

end ConcertTicketing.Events
