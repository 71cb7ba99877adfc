import ConcertTicketing.Events.Frame
import ConcertTicketing.Library.RelyGuarantee

/-!
# Layout requests at the same time

Any number of `createSeatMap`, `createZones` and `updateLayout` requests for
one event, served command by command.  Each first reads the event and later
writes what fits the model that it has read.  A transaction is one command:
both transactions begin with an update of the event's row, whose lock keeps
them apart.
-/

namespace ConcertTicketing.Events

inductive SeatRequest where
  | createSeatMap (sections : List SeatMapConfigDto)
  | createZones (zones : List ZoneConfigDto)
  | updateLayout (dto : UpdateSeatMapDto)
  deriving DecidableEq, Repr

namespace SeatRequest

def request (eventId : EventId) : SeatRequest → Request
  | .createSeatMap sections => .createSeatMap eventId sections
  | .createZones zones => .createZones eventId zones
  | .updateLayout dto => .updateLayout eventId dto

def creates : SeatRequest → Bool
  | .updateLayout _ => false
  | _ => true

end SeatRequest

abbrev LayoutCall :=
  ProgramCall SeatRequest Command Reply ServiceError Response

abbrev LayoutState := ServerState Db LayoutCall

/-- `SeatsService` with the requests of one organizer for one event. -/
def layoutServer (organizerId : UserId) (eventId : EventId) :
    Server Db Outside SeatRequest Command Reply LayoutCall :=
  programServer Outside.apply
    (fun input => (input.request eventId).operation organizerId) perform
    (.prisma .unavailable)

/-- A request that meets no other one does what `serve` says. -/
theorem serve_reachable (organizerId : UserId) (eventId : EventId)
    (input : SeatRequest) (db : Db) :
    ∃ history, Trace (layoutServer organizerId eventId).step ⟨db, []⟩ history
      ⟨((input.request eventId).serve organizerId db).2,
        [⟨input,
          .ofExcept ((input.request eventId).serve organizerId db).1⟩]⟩ := by
  let operation := (input.request eventId).operation organizerId
  have arrives : (layoutServer organizerId eventId).step ⟨db, []⟩
      (.request input) = some ⟨db, [⟨input, operation⟩]⟩ := rfl
  have ends : (layoutServer organizerId eventId).Ends (fun _ => .resolves) db
      ⟨input, operation⟩ (operation.run perform db).2
      ⟨input, .ofExcept (operation.run perform db).1⟩ :=
    ends_run input operation db
  obtain ⟨history, run⟩ := ends.trace
  exact ⟨_, Server.trace_cons arrives run⟩

namespace Db

def modelOf (db : Db) (eventId : EventId) : Option TicketModelType :=
  (db.events.find? eventId).bind Event.ticketModel

/-- The event has neither a model nor seats nor zones. -/
structure NoLayout (db : Db) (eventId : EventId) : Prop where
  model : db.modelOf eventId = none
  seats : db.seatRowsOf eventId = []
  zones : db.zonesOf eventId = []

structure ConsistentLayout (db : Db) (eventId : EventId) : Prop where
  seatMap : db.modelOf eventId = some .seatMap → db.zonesOf eventId = []
  zone : db.modelOf eventId = some .zone → db.seatRowsOf eventId = []
  blank : db.modelOf eventId = none →
    db.seatRowsOf eventId = [] ∧ db.zonesOf eventId = []

/-- The command is a transaction that gives the event a layout, and the
database takes its rows in. -/
def CreatesLayout (db : Db) (eventId : EventId) : Command → Prop
  | .seatMapTransaction created seats =>
      created = eventId ∧ (db.events.find? eventId).isSome = true ∧
        ∀ seat ∈ seats, db.references seat.eventId seat.ticketTypeId = true
  | .zoneTransaction created zones =>
      created = eventId ∧ (db.events.find? eventId).isSome = true ∧
        (∀ zone ∈ zones, isInt32 zone.capacity = true) ∧
        ∀ zone ∈ zones, db.references zone.eventId zone.ticketTypeId = true
  | _ => False

instance (db : Db) (eventId : EventId) :
    (command : Command) → Decidable (db.CreatesLayout eventId command)
  | .seatMapTransaction _ _ => inferInstanceAs (Decidable (_ ∧ _))
  | .zoneTransaction _ _ => inferInstanceAs (Decidable (_ ∧ _))
  | .findProfile _ => inferInstanceAs (Decidable False)
  | .findEvent _ _ => inferInstanceAs (Decidable False)
  | .findTicketType _ _ => inferInstanceAs (Decidable False)
  | .countTicketTypes _ _ => inferInstanceAs (Decidable False)
  | .createAuditLog _ => inferInstanceAs (Decidable False)
  | .createEvent _ => inferInstanceAs (Decidable False)
  | .updateEvent _ _ => inferInstanceAs (Decidable False)
  | .createTicketType _ => inferInstanceAs (Decidable False)
  | .updateTicketType _ _ => inferInstanceAs (Decidable False)
  | .deleteTicketType _ => inferInstanceAs (Decidable False)
  | .createSeats _ => inferInstanceAs (Decidable False)
  | .createZones _ => inferInstanceAs (Decidable False)

end Db

/-- At most one request has created the layout, and the layout is consistent
whenever no request is in flight. -/
structure LayoutConsistent (eventId : EventId) (state : LayoutState) :
    Prop where
  once : returned SeatRequest.creates state.calls ≤ 1
  layout : (∀ call ∈ state.calls, call.pending = none) →
    state.stores.ConsistentLayout eventId

/-- A transaction that creates the layout finds the event without a model. -/
def FindsNoModel (organizerId : UserId) (eventId : EventId)
    (state : LayoutState) (action : ServerAction Outside SeatRequest) : Prop :=
  ∀ command ∈ (layoutServer organizerId eventId).applied state action,
    state.stores.CreatesLayout eventId command →
      state.stores.modelOf eventId = none

instance (organizerId : UserId) (eventId : EventId) (state : LayoutState)
    (action : ServerAction Outside SeatRequest) :
    Decidable (FindsNoModel organizerId eventId state action) :=
  inferInstanceAs (Decidable (∀ command ∈ _, _ → _))

/-- Once the event has a model, it keeps it. -/
def ModelStays (eventId : EventId) (db later : Db) : Prop :=
  ∀ model, db.modelOf eventId = some model →
    later.modelOf eventId = some model

/-- What the requests do: reads, additions that fit the model of the event,
and transactions for the event. -/
def LayoutCommand (eventId : EventId) : Command → Db → Prop
  | .findProfile _, _ => True
  | .findEvent _ _, _ => True
  | .findTicketType _ _, _ => True
  | .countTicketTypes _ _, _ => True
  | .createSeats _, db => db.modelOf eventId = some .seatMap
  | .createZones _, db => db.modelOf eventId = some .zone
  | .seatMapTransaction created _, _ => created = eventId
  | .zoneTransaction created _, _ => created = eventId
  | _, _ => False

/-- The event as it has been read is behind the tables at most. -/
def StillOf (eventId : EventId) (event : Event) (db : Db) : Prop :=
  ∀ model, event.ticketModel = some model → db.modelOf eventId = some model

section Writes

variable {db : Db} {eventId : EventId}

private theorem perform_createSeats_cases (db : Db) (seats : List SeatRow) :
    (perform (.createSeats seats) db).2 = db ∨
    (perform (.createSeats seats) db).2 = db.withSeats seats := by
  rcases createSeats_cases db seats with ⟨error, failed⟩ | created
  · exact Or.inl (congrArg Prod.snd (commit_error failed))
  · exact Or.inr (congrArg Prod.snd (commit_ok created))

theorem perform_createZones_cases (db : Db) (zones : List Zone) :
    (perform (.createZones zones) db).2 = db ∨
    (perform (.createZones zones) db).2 = db.withZones zones := by
  rw [perform, Db.createZones]
  split
  · split
    · exact Or.inr rfl
    · exact Or.inl rfl
  · exact Or.inl rfl

private theorem modelOf_withEvent
    (found : (db.events.find? eventId).isSome = true)
    (model : TicketModelType) :
    (db.withEvent eventId { ticketModel := .value model }).modelOf eventId =
      some model := by
  obtain ⟨event, row⟩ := Option.isSome_iff_exists.mp found
  rw [Db.modelOf, Db.withEvent, Table.find?_modify, row, Option.map_some,
    if_pos rfl]
  rfl

private theorem not_createsLayout_of_missing
    (row : db.events.find? eventId = none) (command : Command) :
    ¬ db.CreatesLayout eventId command := by
  intro creates
  cases command with
  | seatMapTransaction created seats =>
      have known := creates.2.1
      rw [row] at known
      cases known
  | zoneTransaction created zones =>
      have known := creates.2.1
      rw [row] at known
      cases known
  | _ => exact creates

/-- A transaction either creates the layout or fails and changes nothing. -/
theorem seatMapTransaction_eq (db : Db) (eventId : EventId)
    (seats : List SeatRow) :
    (db.CreatesLayout eventId (.seatMapTransaction eventId seats) ∧
      ∃ rows, db.seatMapTransaction eventId seats = .ok (rows,
        (db.withEvent eventId { ticketModel := .value .seatMap }).withSeats
          seats)) ∨
    (¬ db.CreatesLayout eventId (.seatMapTransaction eventId seats) ∧
      ∃ error, db.seatMapTransaction eventId seats = .error error) := by
  cases row : db.events.find? eventId with
  | none =>
      right
      refine ⟨not_createsLayout_of_missing row _, .recordNotFound, ?_⟩
      rw [Db.seatMapTransaction, Db.updateEvent, row]
      rfl
  | some event =>
      have known : (db.events.find? eventId).isSome = true := by
        rw [row]
        rfl
      rw [seatMapTransaction_of_event row]
      by_cases fits : (seats.all fun seat =>
          db.references seat.eventId seat.ticketTypeId) = true
      · left
        rw [if_pos fits]
        exact ⟨⟨rfl, known, List.all_eq_true.mp fits⟩, _, rfl⟩
      · right
        rw [if_neg fits]
        refine ⟨?_, _, rfl⟩
        rintro ⟨_, _, references⟩
        exact fits (List.all_eq_true.mpr references)

private theorem zoneTransaction_eq (db : Db) (eventId : EventId)
    (zones : List Zone) :
    (db.CreatesLayout eventId (.zoneTransaction eventId zones) ∧
      ∃ rows, db.zoneTransaction eventId zones = .ok (rows,
        (db.withEvent eventId { ticketModel := .value .zone }).withZones
          zones)) ∨
    (¬ db.CreatesLayout eventId (.zoneTransaction eventId zones) ∧
      ∃ error, db.zoneTransaction eventId zones = .error error) := by
  cases row : db.events.find? eventId with
  | none =>
      right
      refine ⟨not_createsLayout_of_missing row _, .recordNotFound, ?_⟩
      rw [Db.zoneTransaction, Db.updateEvent, row]
      rfl
  | some event =>
      have known : (db.events.find? eventId).isSome = true := by
        rw [row]
        rfl
      rw [zoneTransaction_of_event row]
      by_cases sized : (zones.all fun zone => isInt32 zone.capacity) = true
      · rw [if_pos sized]
        by_cases fits : (zones.all fun zone =>
            db.references zone.eventId zone.ticketTypeId) = true
        · left
          rw [if_pos fits]
          exact ⟨⟨rfl, known, List.all_eq_true.mp sized,
            List.all_eq_true.mp fits⟩, _, rfl⟩
        · right
          rw [if_neg fits]
          refine ⟨?_, _, rfl⟩
          rintro ⟨_, _, _, references⟩
          exact fits (List.all_eq_true.mpr references)
      · right
        rw [if_neg sized]
        refine ⟨?_, _, rfl⟩
        rintro ⟨_, _, sizes, _⟩
        exact sized (List.all_eq_true.mpr sizes)

/-- The tables behind a transaction for the event. -/
theorem perform_seatMapTransaction_cases (db : Db) (eventId : EventId)
    (seats : List SeatRow) :
    (db.CreatesLayout eventId (.seatMapTransaction eventId seats) ∧
      (perform (.seatMapTransaction eventId seats) db).2 =
        (db.withEvent eventId { ticketModel := .value .seatMap }).withSeats
          seats) ∨
    (¬ db.CreatesLayout eventId (.seatMapTransaction eventId seats) ∧
      (perform (.seatMapTransaction eventId seats) db).2 = db) := by
  rw [perform]
  rcases seatMapTransaction_eq db eventId seats with
    ⟨creates, rows, filled⟩ | ⟨creates, error, failed⟩
  · left
    rw [filled]
    exact ⟨creates, rfl⟩
  · right
    rw [failed]
    exact ⟨creates, rfl⟩

theorem perform_zoneTransaction_cases (db : Db) (eventId : EventId)
    (zones : List Zone) :
    (db.CreatesLayout eventId (.zoneTransaction eventId zones) ∧
      (perform (.zoneTransaction eventId zones) db).2 =
        (db.withEvent eventId { ticketModel := .value .zone }).withZones
          zones) ∨
    (¬ db.CreatesLayout eventId (.zoneTransaction eventId zones) ∧
      (perform (.zoneTransaction eventId zones) db).2 = db) := by
  rw [perform]
  rcases zoneTransaction_eq db eventId zones with
    ⟨creates, rows, filled⟩ | ⟨creates, error, failed⟩
  · left
    rw [filled]
    exact ⟨creates, rfl⟩
  · right
    rw [failed]
    exact ⟨creates, rfl⟩

end Writes

theorem ModelStays.refl (eventId : EventId) (db : Db) :
    ModelStays eventId db db :=
  fun _ has => has

theorem ModelStays.trans {eventId : EventId} (first second third : Db)
    (early : ModelStays eventId first second)
    (late : ModelStays eventId second third) :
    ModelStays eventId first third :=
  fun model has => late model (early model has)

private theorem ModelStays.of_eq {eventId : EventId} {db later : Db}
    (same : later.modelOf eventId = db.modelOf eventId) :
    ModelStays eventId db later := by
  intro model has
  rw [same]
  exact has

theorem StillOf.later {eventId : EventId} {event : Event} {db later : Db}
    (still : StillOf eventId event db) (stays : ModelStays eventId db later) :
    StillOf eventId event later :=
  fun model reads => stays model (still model reads)

/-! ## The requests are safe -/

section Safety

variable {α : Type} {eventId : EventId} {db : Db}

abbrev SafeLayout (eventId : EventId) (operation : Operation α)
    (post : α → Db → Prop) (db : Db) : Prop :=
  operation.Safe perform (ModelStays eventId) (LayoutCommand eventId) post db

private theorem safe_orThrow {post : α → Db → Prop}
    {reply : Except PrismaError α}
    (holds : ∀ result, reply = .ok result → post result db) :
    SafeLayout eventId (orThrow reply) post db := by
  cases reply with
  | ok result => exact holds result rfl
  | error error => trivial

private theorem safe_findProfile (organizerId : UserId) :
    SafeLayout eventId (findProfile organizerId) (fun _ _ => True) db := by
  refine Program.Safe.bind (Program.Safe.call ?_)
  intro later _
  refine ⟨trivial, ?_⟩
  split <;> trivial

/-- The event that has been found has the model of the row. -/
theorem stillOf_findEvent {organizerId : OrganizerId} {event : Event}
    (found : db.findEvent eventId organizerId = some event) :
    StillOf eventId event db := by
  intro model reads
  have row := (Option.filter_eq_some_iff.mp found).1
  rw [Db.modelOf, row, Option.bind_some, reads]

private theorem safe_findOwnedEvent (organizerId : UserId) :
    SafeLayout eventId (findOwnedEvent organizerId eventId)
      (StillOf eventId) db := by
  refine Program.Safe.bind ((safe_findProfile organizerId).weaken ?_)
  intro profile early _
  refine Program.Safe.bind (Program.Safe.call ?_)
  intro later _
  refine ⟨trivial, ?_⟩
  split
  · trivial
  · next event found => exact stillOf_findEvent found

private theorem safe_assertEventOwnerAndStatus (organizerId : UserId) :
    SafeLayout eventId
      (SeatsService.assertEventOwnerAndStatus organizerId eventId)
      (StillOf eventId) db := by
  refine Program.Safe.bind ((safe_findOwnedEvent organizerId).weaken ?_)
  intro event later still
  split
  · trivial
  · exact still

/-- The count of ticket types keeps what is known of the event. -/
theorem safe_assertTicketTypesOwnership {event : Event}
    (still : StillOf eventId event db) (ids : List TicketTypeId) :
    SafeLayout eventId (SeatsService.assertTicketTypesOwnership eventId ids)
      (fun _ => StillOf eventId event) db := by
  refine Program.Safe.bind (Program.Safe.call ?_)
  intro later stays
  refine ⟨trivial, ?_⟩
  split
  · trivial
  · exact still.later stays

private theorem safe_createSeatMap (organizerId : UserId)
    (sections : List SeatMapConfigDto) :
    SafeLayout eventId
      (SeatsService.createSeatMap organizerId eventId sections)
      (fun _ _ => True) db := by
  refine Program.Safe.bind
    ((safe_assertEventOwnerAndStatus organizerId).weaken ?_)
  intro event early still
  split
  · trivial
  · refine Program.Safe.bind
      ((safe_assertTicketTypesOwnership still _).weaken ?_)
    intro _ counted _
    refine Program.Safe.bind (Program.Safe.call ?_)
    intro later _
    refine ⟨rfl, ?_⟩
    refine Program.Safe.bind (safe_orThrow ?_)
    intro seats _
    trivial

private theorem safe_createZones (organizerId : UserId)
    (zones : List ZoneConfigDto) :
    SafeLayout eventId (SeatsService.createZones organizerId eventId zones)
      (fun _ _ => True) db := by
  refine Program.Safe.bind
    ((safe_assertEventOwnerAndStatus organizerId).weaken ?_)
  intro event early _
  split
  · trivial
  · refine Program.Safe.bind (Program.Safe.call ?_)
    intro later _
    refine ⟨rfl, ?_⟩
    refine Program.Safe.bind (safe_orThrow ?_)
    intro rows _
    trivial

private theorem modelStays_createSeats (seats : List SeatRow) :
    ModelStays eventId db (perform (.createSeats seats) db).2 := by
  apply ModelStays.of_eq
  rcases perform_createSeats_cases db seats with same | added
  · rw [same]
  · rw [added]
    rfl

private theorem modelStays_createZones (zones : List Zone) :
    ModelStays eventId db (perform (.createZones zones) db).2 := by
  apply ModelStays.of_eq
  rcases perform_createZones_cases db zones with same | added
  · rw [same]
  · rw [added]
    rfl

/-- Seats are added to an event that has been read as one with seats. -/
theorem safe_addSections {event : Event} (still : StillOf eventId event db)
    (sections : List SeatMapConfigDto) :
    SafeLayout eventId (SeatsService.addSections eventId event sections)
      (fun _ => StillOf eventId event) db := by
  rw [SeatsService.addSections]
  split
  · exact still
  · split
    · trivial
    · next model =>
        refine Program.Safe.bind
          ((safe_assertTicketTypesOwnership still _).weaken ?_)
        intro _ counted stillThere
        refine Program.Safe.bind (Program.Safe.call ?_)
        intro later stays
        have stillLater := stillThere.later stays
        refine ⟨stillLater .seatMap (not_not.mp model), ?_⟩
        refine Program.Safe.bind (safe_orThrow ?_)
        intro _ _
        exact stillLater.later (modelStays_createSeats _)

/-- Zones are added to an event that has been read as one with zones. -/
theorem safe_addZones {event : Event} (still : StillOf eventId event db)
    (zones : List ZoneConfigDto) :
    SafeLayout eventId (SeatsService.addZones eventId event zones)
      (fun _ _ => True) db := by
  rw [SeatsService.addZones]
  split
  · trivial
  · split
    · trivial
    · next model =>
        refine Program.Safe.bind (Program.Safe.call ?_)
        intro later stays
        have stillLater := still.later stays
        refine ⟨stillLater .zone (not_not.mp model), ?_⟩
        refine Program.Safe.bind (safe_orThrow ?_)
        intro _ _
        trivial

private theorem safe_updateLayout (organizerId : UserId)
    (dto : UpdateSeatMapDto) :
    SafeLayout eventId (SeatsService.updateLayout organizerId eventId dto)
      (fun _ _ => True) db := by
  refine Program.Safe.bind
    ((safe_assertEventOwnerAndStatus organizerId).weaken ?_)
  intro event early still
  split
  · trivial
  · refine Program.Safe.bind ((safe_addSections still _).weaken ?_)
    intro addedSeats later stillLater
    refine Program.Safe.bind ((safe_addZones stillLater _).weaken ?_)
    intro addedZones last _
    trivial

private theorem safe_request (organizerId : UserId) (input : SeatRequest) :
    SafeLayout eventId ((input.request eventId).operation organizerId)
      (fun _ _ => True) db := by
  cases input with
  | createSeatMap sections => exact safe_createSeatMap organizerId sections
  | createZones zones => exact safe_createZones organizerId zones
  | updateLayout dto => exact safe_updateLayout organizerId dto

end Safety

section Guarantee

variable {db : Db} {eventId : EventId}

theorem Db.ConsistentLayout.withSeats (sound : db.ConsistentLayout eventId)
    (model : db.modelOf eventId = some .seatMap) (seats : List SeatRow) :
    (db.withSeats seats).ConsistentLayout eventId where
  seatMap := fun _ => sound.seatMap model
  zone := by
    intro other
    cases model.symm.trans other
  blank := by
    intro other
    cases model.symm.trans other

theorem Db.ConsistentLayout.withZones (sound : db.ConsistentLayout eventId)
    (model : db.modelOf eventId = some .zone) (zones : List Zone) :
    (db.withZones zones).ConsistentLayout eventId where
  seatMap := by
    intro other
    cases model.symm.trans other
  zone := fun _ => sound.zone model
  blank := by
    intro other
    cases model.symm.trans other

/-- An event without a layout gets a model. -/
theorem Db.ConsistentLayout.withModel (sound : db.ConsistentLayout eventId)
    (blank : db.modelOf eventId = none) (data : EventUpdateInput) :
    (db.withEvent eventId data).ConsistentLayout eventId where
  seatMap := fun _ => (sound.blank blank).2
  zone := fun _ => (sound.blank blank).1
  blank := fun _ => sound.blank blank

private theorem ModelStays.of_none (blank : db.modelOf eventId = none)
    (later : Db) :
    ModelStays eventId db later := by
  intro model has
  rw [blank] at has
  cases has

/-- A command that fits the model keeps the layout consistent and the model
as it is, when a transaction finds no model. -/
theorem layoutCommand_guarantees {command : Command}
    (findsNone : db.CreatesLayout eventId command →
      db.modelOf eventId = none)
    (sound : db.ConsistentLayout eventId)
    (fits : LayoutCommand eventId command db) :
    (perform command db).2.ConsistentLayout eventId ∧
      ModelStays eventId db (perform command db).2 := by
  cases command with
  | createSeats seats =>
      refine ⟨?_, modelStays_createSeats seats⟩
      rcases perform_createSeats_cases db seats with same | added
      · rw [same]
        exact sound
      · rw [added]
        exact sound.withSeats fits seats
  | createZones zones =>
      refine ⟨?_, modelStays_createZones zones⟩
      rcases perform_createZones_cases db zones with same | added
      · rw [same]
        exact sound
      · rw [added]
        exact sound.withZones fits zones
  | seatMapTransaction created seats =>
      have same : created = eventId := fits
      subst created
      rcases perform_seatMapTransaction_cases db eventId seats with
        ⟨creates, filled⟩ | ⟨_, same⟩
      · have blank := findsNone creates
        rw [filled]
        refine ⟨?_, ModelStays.of_none blank _⟩
        exact (sound.withModel blank _).withSeats
          (modelOf_withEvent creates.2.1 .seatMap) seats
      · rw [same]
        exact ⟨sound, ModelStays.refl eventId db⟩
  | zoneTransaction created zones =>
      have same : created = eventId := fits
      subst created
      rcases perform_zoneTransaction_cases db eventId zones with
        ⟨creates, filled⟩ | ⟨_, same⟩
      · have blank := findsNone creates
        rw [filled]
        refine ⟨?_, ModelStays.of_none blank _⟩
        exact (sound.withModel blank _).withZones
          (modelOf_withEvent creates.2.1 .zone) zones
      · rw [same]
        exact ⟨sound, ModelStays.refl eventId db⟩
  | findProfile userId => exact ⟨sound, ModelStays.refl eventId db⟩
  | findEvent found organizerId => exact ⟨sound, ModelStays.refl eventId db⟩
  | findTicketType ticketTypeId organizerId =>
      exact ⟨sound, ModelStays.refl eventId db⟩
  | countTicketTypes ids counted => exact ⟨sound, ModelStays.refl eventId db⟩
  | _ => exact fits.elim

/-- What the rest of the system does touches no layout. -/
theorem outside_keeps_layout (event : Outside)
    (sound : db.ConsistentLayout eventId) :
    (event.apply db).ConsistentLayout eventId ∧
      ModelStays eventId db (event.apply db) := by
  have keeps : (event.apply db).modelOf eventId = db.modelOf eventId ∧
      (event.apply db).seatRowsOf eventId = db.seatRowsOf eventId ∧
      (event.apply db).zonesOf eventId = db.zonesOf eventId := by
    cases event with
    | registered userId =>
        rw [Outside.apply]
        split <;> exact ⟨rfl, rfl, rfl⟩
    | reviewed reviewed status =>
        refine ⟨?_, rfl, rfl⟩
        rw [Outside.apply, Db.modelOf, Table.find?_modify, Db.modelOf]
        cases db.events.find? eventId with
        | none => rfl
        | some event =>
            rw [Option.map_some, Option.bind_some, Option.bind_some]
            split <;> rfl
    | sold ticketTypeId count => exact ⟨rfl, rfl, rfl⟩
    | ordered ticketTypeId =>
        rw [Outside.apply]
        split <;> exact ⟨rfl, rfl, rfl⟩
  obtain ⟨model, seats, zones⟩ := keeps
  refine ⟨⟨?_, ?_, ?_⟩, ModelStays.of_eq model⟩
  · rw [model, zones]
    exact sound.seatMap
  · rw [model, seats]
    exact sound.zone
  · rw [model, seats, zones]
    exact sound.blank

end Guarantee

section Creating

variable {eventId : EventId}

/-- The transaction of a create that returns has created the layout. -/
theorem returnsWith_createSeatMap (organizerId : UserId)
    (sections : List SeatMapConfigDto) :
    (SeatsService.createSeatMap organizerId eventId sections).ReturnsWith
      perform (fun command db => db.CreatesLayout eventId command) := by
  refine Program.returnsWith_bind _ ?_
  intro event
  split
  · trivial
  · refine Program.returnsWith_bind _ ?_
    intro _ db
    rcases seatMapTransaction_eq db eventId
        (SeatsService.sectionSeats eventId sections) with
      ⟨creates, rows, filled⟩ | ⟨_, error, failed⟩
    · left
      refine ⟨?_, creates⟩
      rw [perform, filled]
      rfl
    · right
      rw [perform, failed]
      trivial

private theorem returnsWith_createZones (organizerId : UserId)
    (zones : List ZoneConfigDto) :
    (SeatsService.createZones organizerId eventId zones).ReturnsWith
      perform (fun command db => db.CreatesLayout eventId command) := by
  refine Program.returnsWith_bind _ ?_
  intro event
  split
  · trivial
  · intro db
    rcases zoneTransaction_eq db eventId
        (SeatsService.zoneRows eventId zones) with
      ⟨creates, rows, filled⟩ | ⟨_, error, failed⟩
    · left
      refine ⟨?_, creates⟩
      rw [perform, filled]
      rfl
    · right
      rw [perform, failed]
      trivial

private theorem returnsWith_creates (organizerId : UserId) (input : SeatRequest)
    (creates : input.creates = true) :
    ((input.request eventId).operation organizerId).ReturnsWith perform
      (fun command db => db.CreatesLayout eventId command) := by
  cases input with
  | createSeatMap sections =>
      exact returnsWith_createSeatMap organizerId sections
  | createZones zones => exact returnsWith_createZones organizerId zones
  | updateLayout dto => cases creates

/-- Behind a transaction that creates the layout the event has a model. -/
theorem modelOf_of_createsLayout {db : Db} {command : Command}
    (creates : db.CreatesLayout eventId command) :
    ((perform command db).2.modelOf eventId).isSome = true := by
  cases command with
  | seatMapTransaction created seats =>
      have same : created = eventId := creates.1
      subst created
      rcases perform_seatMapTransaction_cases db eventId seats with
        ⟨_, filled⟩ | ⟨refused, _⟩
      · have model := modelOf_withEvent creates.2.1 .seatMap
        rw [filled]
        exact Option.isSome_of_mem model
      · exact absurd creates refused
  | zoneTransaction created zones =>
      have same : created = eventId := creates.1
      subst created
      rcases perform_zoneTransaction_cases db eventId zones with
        ⟨_, filled⟩ | ⟨refused, _⟩
      · have model := modelOf_withEvent creates.2.1 .zone
        rw [filled]
        exact Option.isSome_of_mem model
      · exact absurd creates refused
  | _ => exact creates.elim

end Creating

/-! ## Runs -/

section Runs

variable {organizerId : UserId} {eventId : EventId}

/-- What holds between the steps when transactions find no model. -/
structure LayoutSound (eventId : EventId) (state : LayoutState) : Prop where
  safe : AllSafe perform (ModelStays eventId) (LayoutCommand eventId)
    (fun db => db.ConsistentLayout eventId) state
  once : ReturnsOnce perform
    (fun command db => db.CreatesLayout eventId command)
    (fun db => (db.modelOf eventId).isSome) SeatRequest.creates state

theorem LayoutSound.step {before after : LayoutState}
    {action : ServerAction Outside SeatRequest}
    (sound : LayoutSound eventId before)
    (findsNone : FindsNoModel organizerId eventId before action)
    (stepped : (layoutServer organizerId eventId).step before action =
      some after) :
    LayoutSound eventId after := by
  obtain ⟨safe, stays⟩ := sound.safe.step (ModelStays.refl eventId)
    ModelStays.trans (fun input _ _ => safe_request organizerId input)
    (fun event _ consistent => outside_keeps_layout event consistent)
    (fun command applied consistent fits =>
      layoutCommand_guarantees (findsNone command applied) consistent fits)
    stepped
  refine ⟨safe, sound.once.step (returnsWith_creates organizerId) stepped ?_ ?_⟩
  · intro marked
    obtain ⟨model, has⟩ := Option.isSome_iff_exists.mp marked
    rw [stays model has]
    rfl
  · intro command applied creates
    refine ⟨?_, modelOf_of_createsLayout creates⟩
    rw [findsNone command applied creates]
    rfl

theorem LayoutSound.consistent {state : LayoutState}
    (sound : LayoutSound eventId state) : LayoutConsistent eventId state where
  once := sound.once.bound.trans (Bool.toNat_le _)
  layout := fun _ => sound.safe.stores

theorem LayoutSound.start {db : Db} (blank : db.NoLayout eventId) :
    LayoutSound eventId ⟨db, []⟩ := by
  refine ⟨⟨⟨?_, ?_, ?_⟩, by simp⟩, ⟨by simp, Nat.zero_le _⟩⟩
  · intro _
    exact blank.zones
  · intro _
    exact blank.seats
  · intro _
    exact ⟨blank.seats, blank.zones⟩

end Runs

/-- When every transaction that creates the layout finds the event without a
model, at most one request creates it, and the rows fit the model. -/
theorem layoutConsistent_of_findsNoModel {organizerId : UserId}
    {eventId : EventId} {start : Db} (blank : start.NoLayout eventId)
    {history : List (LayoutState × ServerAction Outside SeatRequest)}
    {state : LayoutState}
    (run : Trace (layoutServer organizerId eventId).step ⟨start, []⟩ history
      state)
    (guarded : StepsMeet (FindsNoModel organizerId eventId) history) :
    ∀ reached ∈ visited history state, LayoutConsistent eventId reached := by
  refine Trace.forall_visited (FindsNoModel organizerId eventId) _ ?_ run
    guarded
  intro earlier reached runHere guardedHere
  have sound : LayoutSound eventId reached :=
    Trace.invariantUnder _ _ (LayoutSound.start blank)
      (fun _ _ _ soundBefore findsNone stepped =>
        soundBefore.step findsNone stepped)
      runHere guardedHere
  exact sound.consistent

def plannedConcert : Db :=
  let registered := (Outside.registered 10).apply Db.empty
  let created := ((Request.createEvent concert).serve 10 registered).2
  ((Request.createTicketType 0 standing).serve 10 created).2

private theorem plannedConcert_noLayout : plannedConcert.NoLayout 0 :=
  ⟨by decide, by decide, by decide⟩

/-- One request creates the zones; those that overlap with it come too early
or too late. -/
def oneLayout : List (ServerAction Outside SeatRequest) :=
  [.request (.createZones [⟨"A", 60, some 0⟩]),
    .request (.updateLayout ⟨none, some [⟨"B", 40, none⟩]⟩),
    .await 0 .resolves, .await 0 .resolves, .await 1 .resolves,
    .await 1 .resolves, .await 0 .resolves,
    .request (.createSeatMap [⟨1, 2, none, 0⟩]),
    .request (.updateLayout ⟨none, some [⟨"B", 40, none⟩]⟩),
    .await 2 .resolves, .await 3 .resolves, .await 2 .resolves,
    .await 3 .resolves, .await 3 .resolves]

private theorem oneLayout_enabled :
    (replay (layoutServer 10 0).step [] ⟨plannedConcert, []⟩
      oneLayout).isSome = true := by
  decide

theorem layoutConsistent_oneLayout :
    LayoutConsistent 0
      ((replay (layoutServer 10 0).step [] ⟨plannedConcert, []⟩
        oneLayout).get oneLayout_enabled).2 :=
  layoutConsistent_of_findsNoModel plannedConcert_noLayout
    (Trace.of_replay_get oneLayout oneLayout_enabled) (by decide) _
    List.mem_cons_self

def twoLayouts : List (ServerAction Outside SeatRequest) :=
  [.request (.createSeatMap [⟨1, 2, none, 0⟩]),
    .request (.createZones [⟨"A", 60, some 0⟩]),
    .await 0 .resolves, .await 0 .resolves, .await 0 .resolves,
    .await 1 .resolves, .await 1 .resolves, .await 0 .resolves,
    .await 1 .resolves]

/-- Two requests can both create a layout, and an event with zones has
seats. -/
theorem twoLayouts_reachable :
    ¬ ∀ (organizerId : UserId) (eventId : EventId) (start : Db)
        (history : List (LayoutState × ServerAction Outside SeatRequest))
        (state : LayoutState),
      start.NoLayout eventId →
      Trace (layoutServer organizerId eventId).step ⟨start, []⟩ history
        state →
      LayoutConsistent eventId state := by
  intro always
  obtain ⟨history, state, run, checked⟩ :=
    Trace.exists_of_replay (layoutServer 10 0).step ⟨plannedConcert, []⟩
      twoLayouts
      (fun result =>
        decide (returned SeatRequest.creates result.2.calls = 2 ∧
          result.2.stores.modelOf 0 = some .zone ∧
          result.2.stores.seatRowsOf 0 ≠ []))
      (by decide)
  have two : returned SeatRequest.creates state.calls = 2 :=
    (of_decide_eq_true checked).1
  have one := (always 10 0 plannedConcert history state
    plannedConcert_noLayout run).once
  omega

end ConcertTicketing.Events
