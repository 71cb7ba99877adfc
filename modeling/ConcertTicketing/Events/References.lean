import ConcertTicketing.Events.Effects

/-!
# The ticket types of layout rows

`createSeatMap` and the sections of `updateLayout` count the named ticket types
among those of the event; the zones of `createZones` and `updateLayout` are
stored as they come, and the foreign key is content with a ticket type of any
event.  All seats and zones refer to ticket types of their own events exactly
as long as no zone comes in that names a ticket type of another one.
-/

namespace ConcertTicketing.Events

/-- The ticket type belongs to the event. -/
def Db.OfEvent (db : Db) (eventId : EventId) (ticketTypeId : TicketTypeId) :
    Prop :=
  (db.ticketTypes.find? ticketTypeId).map TicketType.eventId = some eventId

instance (db : Db) (eventId : EventId) (ticketTypeId : TicketTypeId) :
    Decidable (db.OfEvent eventId ticketTypeId) :=
  inferInstanceAs (Decidable (_ = _))

/-- The rows of a table with a ticket type have one of their own event. -/
def ReferOwn {ρ : Type} (db : Db) (table : Table ρ) (eventId : ρ → EventId)
    (ticketTypeId : ρ → Option TicketTypeId) : Prop :=
  ∀ entry ∈ table.rows, ∀ named ∈ ticketTypeId entry.2,
    db.OfEvent (eventId entry.2) named

def SeatsReferOwn (db : Db) : Prop :=
  ReferOwn db db.seats SeatRow.eventId SeatRow.ticketTypeId

def ZonesReferOwn (db : Db) : Prop :=
  ReferOwn db db.zones Zone.eventId Zone.ticketTypeId

/-- Every seat and every zone with a ticket type has one of its own event. -/
structure OwnTicketTypes (db : Db) : Prop where
  seats : SeatsReferOwn db
  zones : ZonesReferOwn db

/-- The zones name ticket types of the event only. -/
def NameOwn (db : Db) (eventId : EventId) (zones : List ZoneConfigDto) :
    Prop :=
  ∀ zone ∈ zones, ∀ ticketTypeId ∈ zone.ticketTypeId,
    db.OfEvent eventId ticketTypeId

instance (db : Db) (eventId : EventId) (zones : List ZoneConfigDto) :
    Decidable (NameOwn db eventId zones) :=
  inferInstanceAs (Decidable (∀ zone ∈ zones, ∀ _ ∈ zone.ticketTypeId, _))

/-- Zones that the database takes in name ticket types of their event. -/
def NamesOwnTicketTypes (db : Db) : Action → Prop
  | .request organizerId (.createZones eventId zones) =>
      ∀ event ∈ db.ownEvent organizerId eventId,
        CreatesZones db organizerId eventId zones event →
        NameOwn db eventId zones
  | .request organizerId (.updateLayout eventId dto) =>
      ∀ event ∈ db.ownEvent organizerId eventId,
        AddsZones db organizerId eventId dto event →
        NameOwn db eventId (dto.addZones.getD [])
  | _ => True

instance (db : Db) : DecidablePred (NamesOwnTicketTypes db)
  | .outside _ => isTrue trivial
  | .request organizerId request =>
      match request with
      | .createZones eventId _ =>
          inferInstanceAs
            (Decidable (∀ event ∈ db.ownEvent organizerId eventId, _ → _))
      | .updateLayout eventId _ =>
          inferInstanceAs
            (Decidable (∀ event ∈ db.ownEvent organizerId eventId, _ → _))
      | .createEvent _ => isTrue trivial
      | .updateEvent _ _ => isTrue trivial
      | .submitEvent _ => isTrue trivial
      | .createTicketType _ _ => isTrue trivial
      | .updateTicketType _ _ => isTrue trivial
      | .removeTicketType _ => isTrue trivial
      | .hideTicketType _ => isTrue trivial
      | .createSeatMap _ _ => isTrue trivial

/-- When the count is the number of ids, each of them is a ticket type of the
event. -/
theorem ofEvent_of_counted {db : Db} {eventId : EventId}
    {ids : List TicketTypeId} (counted : Counted db eventId ids) :
    ∀ ticketTypeId ∈ ids, db.OfEvent eventId ticketTypeId := by
  let named := db.ticketTypes.rows.filter fun entry =>
    decide (entry.1 ∈ ids ∧ entry.2.eventId = eventId)
  have keysDistinct : (named.map Prod.fst).Nodup :=
    db.ticketTypes.distinct.sublist (List.filter_sublist.map Prod.fst)
  have keysNamed : named.map Prod.fst ⊆ ids := by
    intro key member
    obtain ⟨entry, filtered, same⟩ := List.mem_map.mp member
    rw [← same]
    exact (of_decide_eq_true (List.mem_filter.mp filtered).2).1
  have enough : ids.length ≤ (named.map Prod.fst).length := by
    rw [List.length_map]
    exact Nat.le_of_eq counted.symm
  have all : (named.map Prod.fst).Perm ids :=
    (List.subperm_of_subset keysDistinct keysNamed).perm_of_length_le enough
  intro ticketTypeId member
  obtain ⟨entry, filtered, same⟩ := List.mem_map.mp (all.mem_iff.mpr member)
  obtain ⟨stored, selected⟩ := List.mem_filter.mp filtered
  have ofEvent := (of_decide_eq_true selected).2
  subst ticketTypeId
  rw [Db.OfEvent, Table.find?_eq_some.mpr stored]
  exact congrArg some ofEvent

theorem mem_sectionSeats {eventId : EventId}
    {sections : List SeatMapConfigDto} {seat : SeatRow}
    (member : seat ∈ SeatsService.sectionSeats eventId sections) :
    seat.eventId = eventId ∧ ∃ ticketTypeId ∈
      SeatsService.ticketTypeIds sections,
      seat.ticketTypeId = some ticketTypeId := by
  obtain ⟨config, inSections, inRows⟩ := List.mem_flatMap.mp member
  obtain ⟨row, _, inRow⟩ := List.mem_flatMap.mp inRows
  obtain ⟨number, _, same⟩ := List.mem_map.mp inRow
  subst seat
  refine ⟨rfl, config.ticketTypeId, ?_, rfl⟩
  exact List.mem_dedup.mpr (List.mem_map_of_mem inSections)

/-- Seats that have passed the count refer to ticket types of their event. -/
theorem ofEvent_of_mem_sectionSeats {db : Db} {eventId : EventId}
    {sections : List SeatMapConfigDto}
    (counted : Counted db eventId (SeatsService.ticketTypeIds sections)) :
    ∀ seat ∈ SeatsService.sectionSeats eventId sections,
      ∀ ticketTypeId ∈ seat.ticketTypeId,
        db.OfEvent seat.eventId ticketTypeId := by
  intro seat member ticketTypeId refers
  obtain ⟨ofEvent, named, inIds, same⟩ := mem_sectionSeats member
  rw [same] at refers
  rw [ofEvent, ← Option.some.inj refers]
  exact ofEvent_of_counted counted named inIds

section Steps

variable {ρ : Type} {db next : Db} {table : Table ρ} {eventId : ρ → EventId}
  {ticketTypeId : ρ → Option TicketTypeId}

theorem ofEvent_withNewTicketType (new : TicketType) {event : EventId}
    {named : TicketTypeId} (ofEvent : db.OfEvent event named) :
    (db.withNewTicketType new).OfEvent event named := by
  obtain ⟨found, known, same⟩ := Option.map_eq_some_iff.mp ofEvent
  rw [Db.OfEvent, Db.withNewTicketType, Table.find?_insert known]
  exact congrArg some same

/-- No change of a ticket type moves it to another event. -/
theorem ofEvent_modify (db : Db) (changed : TicketTypeId)
    {change : TicketType → TicketType}
    (stays : ∀ ticketType, (change ticketType).eventId = ticketType.eventId)
    (event : EventId) (named : TicketTypeId) :
    Db.OfEvent
      { db with ticketTypes := db.ticketTypes.modify changed change }
      event named ↔ db.OfEvent event named := by
  simp only [Db.OfEvent, Table.find?_modify, Option.map_map]
  have same : (TicketType.eventId ∘ fun row =>
      if named = changed then change row else row) = TicketType.eventId := by
    funext row
    simp only [Function.comp]
    split
    · exact stays row
    · rfl
  rw [same]

theorem ofEvent_withTicketType (changed : TicketTypeId)
    (data : TicketTypeUpdateInput) {event : EventId} {named : TicketTypeId}
    (ofEvent : db.OfEvent event named) :
    (db.withTicketType changed data).OfEvent event named := by
  have stays : ∀ ticketType, (data.writeOver ticketType).eventId =
      ticketType.eventId := fun _ => rfl
  exact (ofEvent_modify db changed stays event named).mpr ofEvent

private theorem ofEvent_withoutTicketType {removed : TicketTypeId}
    {event : EventId} {named : TicketTypeId} (different : named ≠ removed)
    (ofEvent : db.OfEvent event named) :
    (db.withoutTicketType removed).OfEvent event named := by
  obtain ⟨found, known, same⟩ := Option.map_eq_some_iff.mp ofEvent
  have still : (db.withoutTicketType removed).ticketTypes.find? named =
      some found :=
    Table.find?_eq_some.mpr
      (Table.mem_erase.mpr ⟨Table.find?_eq_some.mp known, different⟩)
  rw [Db.OfEvent, still]
  exact congrArg some same

/-- What happens outside moves no ticket type to another event. -/
theorem ofEvent_outside (event : Outside) {ofEventId : EventId}
    {named : TicketTypeId} (ofEvent : db.OfEvent ofEventId named) :
    (event.apply db).OfEvent ofEventId named := by
  cases event with
  | registered userId =>
      rw [Outside.apply]
      split <;> exact ofEvent
  | reviewed reviewed status => exact ofEvent
  | sold ticketType count =>
      let change : TicketType → TicketType := fun ticketType =>
        { ticketType with sold := count }
      have stays : ∀ ticketType, (change ticketType).eventId =
          ticketType.eventId := fun _ => rfl
      exact (ofEvent_modify db ticketType stays ofEventId named).mpr ofEvent
  | ordered ticketType =>
      rw [Outside.apply]
      split <;> exact ofEvent

namespace ReferOwn

/-- A step that keeps the table and the events of ticket types. -/
theorem kept (own : ReferOwn db table eventId ticketTypeId)
    (ofEvent : ∀ event named, db.OfEvent event named →
      next.OfEvent event named) :
    ReferOwn next table eventId ticketTypeId := by
  intro entry member named refers
  exact ofEvent _ _ (own entry member named refers)

/-- `SET NULL` takes away exactly the references to the deleted row. -/
theorem forget (own : ReferOwn db table eventId ticketTypeId)
    {removed : TicketTypeId} {change : ρ → ρ}
    (stays : ∀ row, eventId (change row) = eventId row)
    (cleared : ∀ row, ticketTypeId (change row) =
      if ticketTypeId row = some removed then none else ticketTypeId row) :
    ReferOwn (db.withoutTicketType removed)
      (table.mapRows fun _ => change) eventId ticketTypeId := by
  rintro ⟨key, row⟩ member named refers
  obtain ⟨before, stored, same⟩ := Table.mem_mapRows.mp member
  subst row
  rw [cleared] at refers
  rw [stays]
  split at refers
  · cases refers
  · next other =>
      apply ofEvent_withoutTicketType
      · intro equal
        subst equal
        exact other refers
      · exact own (key, before) stored named refers

theorem insertMany (own : ReferOwn db table eventId ticketTypeId)
    {rows : List ρ}
    (name : ∀ row ∈ rows, ∀ named ∈ ticketTypeId row,
      db.OfEvent (eventId row) named) :
    ReferOwn db (table.insertMany rows) eventId ticketTypeId := by
  rintro ⟨key, row⟩ member
  rcases Table.mem_insertMany member with old | new
  · exact own (key, row) old
  · exact name row new

end ReferOwn

theorem seat_forget (removed : TicketTypeId) (seat : SeatRow) :
    (seat.forget removed).eventId = seat.eventId ∧
      (seat.forget removed).ticketTypeId =
        if seat.ticketTypeId = some removed then none
        else seat.ticketTypeId := by
  rw [SeatRow.forget]
  split
  · exact ⟨rfl, rfl⟩
  · exact ⟨rfl, rfl⟩

theorem zone_forget (removed : TicketTypeId) (zone : Zone) :
    (zone.forget removed).eventId = zone.eventId ∧
      (zone.forget removed).ticketTypeId =
        if zone.ticketTypeId = some removed then none
        else zone.ticketTypeId := by
  rw [Zone.forget]
  split
  · exact ⟨rfl, rfl⟩
  · exact ⟨rfl, rfl⟩

/-- No step makes a seat refer to a ticket type of another event. -/
theorem SeatsReferOwn.step (own : SeatsReferOwn db) {action : Action}
    (stepped : Events.step db action = some next) : SeatsReferOwn next := by
  cases step_cases stepped with
  | outside event =>
      have same : (event.apply db).seats = db.seats := by
        cases event <;> simp only [Outside.apply] <;> split <;> rfl
      rw [SeatsReferOwn, same]
      exact ReferOwn.kept own fun _ _ => ofEvent_outside event
  | served organizerId request _ effect =>
      cases effect with
      | ticketTypeCreated _ dto event new _ _ =>
          exact ReferOwn.kept own fun _ _ => ofEvent_withNewTicketType new
      | ticketTypeUpdated changed dto _ _ =>
          exact ReferOwn.kept own fun _ _ => ofEvent_withTicketType changed _
      | ticketTypeHidden changed _ _ =>
          exact ReferOwn.kept own fun _ _ => ofEvent_withTicketType changed _
      | ticketTypeRemoved removed _ _ =>
          exact ReferOwn.forget own (fun seat => (seat_forget removed seat).1)
            fun seat => (seat_forget removed seat).2
      | seatMapCreated _ sections _ creates =>
          exact ReferOwn.insertMany own
            (ofEvent_of_mem_sectionSeats creates.counted)
      | seatsAdded _ dto _ adds _ =>
          exact ReferOwn.insertMany own
            (ofEvent_of_mem_sectionSeats adds.counted)
      | _ => exact own

theorem Trace.seatsReferOwn {history : List (Db × Action)}
    (run : Trace Events.step Db.empty history db) : SeatsReferOwn db := by
  refine Trace.invariant SeatsReferOwn ?_
    (fun _ _ _ own stepped => own.step stepped) run
  intro entry member
  cases member

/-- Zones that come in keep the invariant exactly when they name ticket types
of their event. -/
theorem zonesReferOwn_iff (own : ZonesReferOwn db) {event : EventId}
    {zones : List ZoneConfigDto} :
    ZonesReferOwn (db.withZones (SeatsService.zoneRows event zones)) ↔
      NameOwn db event zones := by
  constructor
  · intro after zone member named refers
    have row : (⟨event, zone.name, zone.capacity, zone.ticketTypeId⟩ :
        Zone) ∈ SeatsService.zoneRows event zones :=
      List.mem_map.mpr ⟨zone, member, rfl⟩
    obtain ⟨key, stored⟩ := Table.exists_mem_insertMany db.zones row
    exact after _ stored named refers
  · intro name
    refine ReferOwn.insertMany own ?_
    intro row member
    obtain ⟨zone, inDto, same⟩ := List.mem_map.mp member
    subst row
    exact name zone inDto

private theorem namesOwn_of_refuses {organizerId : UserId} {request : Request}
    (refuses : Refuses db organizerId request) :
    NamesOwnTicketTypes db (.request organizerId request) := by
  cases request with
  | createZones eventId zones =>
      intro event _ creates
      exact absurd creates (refuses event)
  | updateLayout eventId dto =>
      intro event _ adds
      exact absurd adds (refuses event)
  | _ => trivial

/-- The zones of the next state refer to ticket types of their events exactly
when the step names own ticket types. -/
theorem ZonesReferOwn.step_iff (own : ZonesReferOwn db) {action : Action}
    (stepped : Events.step db action = some next) :
    ZonesReferOwn next ↔ NamesOwnTicketTypes db action := by
  cases step_cases stepped with
  | outside event =>
      have same : (event.apply db).zones = db.zones := by
        cases event <;> simp only [Outside.apply] <;> split <;> rfl
      refine iff_of_true ?_ trivial
      rw [ZonesReferOwn, same]
      exact ReferOwn.kept own fun _ _ => ofEvent_outside event
  | served organizerId request _ effect =>
      cases effect with
      | refused request refuses =>
          exact iff_of_true own (namesOwn_of_refuses refuses)
      | ticketTypeCreated _ dto event new _ _ =>
          refine iff_of_true ?_ trivial
          exact ReferOwn.kept own fun _ _ => ofEvent_withNewTicketType new
      | ticketTypeUpdated changed dto _ _ =>
          refine iff_of_true ?_ trivial
          exact ReferOwn.kept own fun _ _ => ofEvent_withTicketType changed _
      | ticketTypeHidden changed _ _ =>
          refine iff_of_true ?_ trivial
          exact ReferOwn.kept own fun _ _ => ofEvent_withTicketType changed _
      | ticketTypeRemoved removed _ _ =>
          refine iff_of_true ?_ trivial
          exact ReferOwn.forget own (fun zone => (zone_forget removed zone).1)
            fun zone => (zone_forget removed zone).2
      | zonesCreated eventId zones event creates =>
          have labelled : ZonesReferOwn
              (db.withEvent eventId { ticketModel := .value .zone }) := own
          constructor
          · intro after _ _ _
            exact (zonesReferOwn_iff labelled).mp after
          · intro guarded
            apply (zonesReferOwn_iff labelled).mpr
            exact guarded event creates.isMutable.1 creates
      | seatsAdded eventId dto event adds noZones =>
          refine iff_of_true own ?_
          intro other _ addsZones
          exact absurd addsZones (noZones other)
      | zonesAdded eventId dto event adds =>
          constructor
          · intro after _ _ _
            exact (zonesReferOwn_iff own).mp after
          · intro guarded
            apply (zonesReferOwn_iff own).mpr
            exact guarded event adds.isMutable.1 adds
      | _ => exact iff_of_true own trivial

end Steps

/-- In every state of a run all seats and zones refer to ticket types of their
own events exactly when every step names own ticket types. -/
theorem ownTicketTypes_iff_namesOwn {history : List (Db × Action)} {db : Db}
    (run : Trace step Db.empty history db) :
    (∀ reached ∈ visited history db, OwnTicketTypes reached) ↔
      StepsMeet NamesOwnTicketTypes history := by
  have base : OwnTicketTypes Db.empty := by
    constructor
    · intro entry member
      cases member
    · intro entry member
      cases member
  refine Trace.forall_visited_iff base ?_ run
  intro _ before action after _ own stepped
  rw [← own.zones.step_iff stepped]
  constructor
  · intro next
    exact next.zones
  · intro zones
    exact ⟨own.seats.step stepped, zones⟩

def concert : CreateEventDto where
  title := "Concert"
  description := none
  category := none
  startTime := some 2000
  endTime := some 3000
  venue := none
  bannerUrl := none
  maxTicketsPerUser := none
  action := some .submit

def standing : CreateTicketTypeDto where
  name := "Standing"
  price := 50000
  quantity := 100
  saleStartTime := some 0
  saleEndTime := some 1000
  description := none

/-- Two organizers, an event of each, and a ticket type of the first event. -/
def twoOrganizers : List Action :=
  [.outside (.registered 10), .outside (.registered 11),
    .request 10 (.createEvent concert), .request 11 (.createEvent concert),
    .request 10 (.createTicketType 0 standing)]

/-- The first organizer lays out zones and takes the ticket type back. -/
def ownZones : List Action :=
  twoOrganizers ++
    [.request 10 (.createZones 0 [⟨"A", 60, some 0⟩, ⟨"B", 40, none⟩]),
      .request 10 (.updateLayout 0 ⟨none, some [⟨"C", 20, some 0⟩]⟩),
      .request 10 (.removeTicketType 0)]

theorem ownZones_enabled :
    (replay step [] Db.empty ownZones).isSome = true := by
  decide

theorem ownTicketTypes_ownZones :
    (∀ reached ∈ visited
        ((replay step [] Db.empty ownZones).get ownZones_enabled).1
        ((replay step [] Db.empty ownZones).get ownZones_enabled).2,
      OwnTicketTypes reached) ↔
    StepsMeet NamesOwnTicketTypes
      ((replay step [] Db.empty ownZones).get ownZones_enabled).1 :=
  ownTicketTypes_iff_namesOwn (Trace.of_replay_get ownZones ownZones_enabled)

/-- The second organizer's zone names the first one's ticket type. -/
def foreignZone : List Action :=
  twoOrganizers ++ [.request 11 (.createZones 1 [⟨"A", 60, some 0⟩])]

/-- A zone can refer to a ticket type of another event. -/
theorem foreignTicketType_reachable :
    ¬ ∀ (history : List (Db × Action)) (db : Db),
      Trace step Db.empty history db → OwnTicketTypes db := by
  intro always
  obtain ⟨history, db, run, checked⟩ :=
    Trace.exists_of_replay step Db.empty foreignZone
      (fun result =>
        result.2.zones.rows.any fun entry =>
          decide (∃ ticketTypeId ∈ entry.2.ticketTypeId,
            ¬ result.2.OfEvent entry.2.eventId ticketTypeId))
      (by decide)
  obtain ⟨entry, member, wrong⟩ := List.any_eq_true.mp checked
  obtain ⟨ticketTypeId, refers, foreign⟩ := of_decide_eq_true wrong
  exact foreign
    ((always history db run).zones entry member ticketTypeId refers)

end ConcertTicketing.Events
