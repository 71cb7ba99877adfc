import ConcertTicketing.Events.References

/-!
# The rows of the other events

What a write that is meant for one event leaves alone: the ticket types, seats
and zones of every other event.  Only a deletion of a ticket type reaches rows
of other events, through the seats and zones that name it.
-/

namespace ConcertTicketing.Events

namespace Db

def ticketTypesOf (db : Db) (eventId : EventId) :
    List (TicketTypeId × TicketType) :=
  db.ticketTypes.select fun ticketType =>
    decide (ticketType.eventId = eventId)

def seatRowsOf (db : Db) (eventId : EventId) : List (SeatId × SeatRow) :=
  db.seats.select fun seat => decide (seat.eventId = eventId)

variable {db : Db} {eventId other : EventId}

theorem find?_withEvent (different : other ≠ eventId)
    (data : EventUpdateInput) :
    (db.withEvent eventId data).events.find? other =
      db.events.find? other := by
  rw [Db.withEvent, Table.find?_modify]
  simp only [if_neg different]
  exact Option.map_id' ..

theorem ticketTypesOf_withNewTicketType {ticketType : TicketType}
    (different : ticketType.eventId ≠ other) :
    (db.withNewTicketType ticketType).ticketTypesOf other =
      db.ticketTypesOf other :=
  db.ticketTypes.select_insert ticketType _ (decide_eq_false different)

/-- The row with the key is not one of the event. -/
theorem ticketType_not_of {ticketTypeId : TicketTypeId}
    {ticketType : TicketType}
    (found : db.ticketTypes.find? ticketTypeId = some ticketType)
    (different : ticketType.eventId ≠ other) :
    ∀ row, (ticketTypeId, row) ∈ db.ticketTypes.rows →
      decide (row.eventId = other) = false := by
  intro row member
  have same : ticketType = row :=
    Table.unique (Table.find?_eq_some.mp found) member
  rw [← same]
  exact decide_eq_false different

theorem ticketTypesOf_withTicketType {ticketTypeId : TicketTypeId}
    {ticketType : TicketType}
    (found : db.ticketTypes.find? ticketTypeId = some ticketType)
    (different : ticketType.eventId ≠ other) (data : TicketTypeUpdateInput) :
    (db.withTicketType ticketTypeId data).ticketTypesOf other =
      db.ticketTypesOf other := by
  apply Table.select_modify
  · intro row
    rfl
  · exact ticketType_not_of found different

theorem ticketTypesOf_withoutTicketType {ticketTypeId : TicketTypeId}
    {ticketType : TicketType}
    (found : db.ticketTypes.find? ticketTypeId = some ticketType)
    (different : ticketType.eventId ≠ other) :
    (db.withoutTicketType ticketTypeId).ticketTypesOf other =
      db.ticketTypesOf other :=
  Table.select_erase (ticketType_not_of found different)

theorem seatRowsOf_withSeats (different : eventId ≠ other)
    (sections : List SeatMapConfigDto) :
    (db.withSeats (SeatsService.sectionSeats eventId sections)).seatRowsOf
      other = db.seatRowsOf other := by
  apply Table.select_insertMany
  intro seat member
  rw [(mem_sectionSeats member).1]
  exact decide_eq_false different

theorem zonesOf_withZones (different : eventId ≠ other)
    (zones : List ZoneConfigDto) :
    (db.withZones (SeatsService.zoneRows eventId zones)).zonesOf other =
      db.zonesOf other := by
  apply Table.select_insertMany
  intro row member
  obtain ⟨zone, _, same⟩ := List.mem_map.mp member
  subst row
  exact decide_eq_false different

/-- `SET NULL` leaves an event alone when none of its seats names the ticket
type. -/
theorem seatRowsOf_withoutTicketType {ticketTypeId : TicketTypeId}
    (unnamed : ∀ entry ∈ db.seats.rows, entry.2.eventId = other →
      entry.2.ticketTypeId ≠ some ticketTypeId) :
    (db.withoutTicketType ticketTypeId).seatRowsOf other =
      db.seatRowsOf other := by
  change (db.seats.mapRows fun _ => SeatRow.forget ticketTypeId).select _ = _
  apply Table.select_mapRows_eq
  · intro entry _
    rw [(seat_forget ticketTypeId entry.2).1]
  · intro entry member ofEvent
    exact if_neg (unnamed entry member (of_decide_eq_true ofEvent))

/-- The same for zones, where the converse holds as well. -/
theorem zonesOf_withoutTicketType_iff {ticketTypeId : TicketTypeId} :
    (db.withoutTicketType ticketTypeId).zonesOf other = db.zonesOf other ↔
      ∀ entry ∈ db.zones.rows, entry.2.eventId = other →
        entry.2.ticketTypeId ≠ some ticketTypeId := by
  constructor
  · rintro same ⟨key, zone⟩ member ofEvent names
    have listed : (key, zone) ∈ db.zonesOf other :=
      Table.mem_select.mpr ⟨member, decide_eq_true ofEvent⟩
    rw [← same] at listed
    obtain ⟨before, _, changed⟩ :=
      Table.mem_mapRows.mp (Table.mem_select.mp listed).1
    have cleared := (zone_forget ticketTypeId before).2
    rw [changed, names] at cleared
    split at cleared
    · cases cleared
    · next kept => exact kept cleared.symm
  · intro unnamed
    change (db.zones.mapRows fun _ => Zone.forget ticketTypeId).select _ = _
    apply Table.select_mapRows_eq
    · intro entry _
      rw [(zone_forget ticketTypeId entry.2).1]
    · intro entry member ofEvent
      exact if_neg (unnamed entry member (of_decide_eq_true ofEvent))

/-- A seat that names the ticket type is one of the ticket type's event. -/
theorem seat_unnamed (seatsOwn : SeatsReferOwn db)
    {ticketTypeId : TicketTypeId} {ticketType : TicketType}
    (found : db.ticketTypes.find? ticketTypeId = some ticketType)
    (different : ticketType.eventId ≠ other) :
    ∀ entry ∈ db.seats.rows, entry.2.eventId = other →
      entry.2.ticketTypeId ≠ some ticketTypeId := by
  intro entry member ofEvent names
  have own := seatsOwn entry member ticketTypeId names
  rw [Db.OfEvent, found, Option.map_some, ofEvent] at own
  exact different (Option.some.inj own)

end Db

end ConcertTicketing.Events
