import Mathlib.Data.Int.Basic

/-!
# Identifiers, configuration and the seat catalogue

The identifiers of the source are UUID strings that the booking code only
compares for equality, so numbers stand for them.  Instants are milliseconds,
as in a JavaScript `Date`; durations keep the source's seconds.
-/

namespace ConcertTicketing

abbrev UserId := Nat
abbrev EventId := Nat
abbrev SeatId := Nat
abbrev TicketTypeId := Nat
abbrev OrderId := Nat

/-- Milliseconds on the clock that Redis, the broker and the application
share. -/
abbrev Instant := Int

/-- A `DECIMAL(10,2)` amount in hundredths. -/
abbrev Cents := Int

/-- `BOOKING_WINDOW_SECONDS` and `MAX_SEATS_PER_USER`. -/
structure Config where
  bookingWindowSeconds : Int
  maxSeatsPerUser : Int
  deriving Repr

namespace Config

/-- `DEFAULT_BOOKING_WINDOW_SECONDS` and `DEFAULT_MAX_PER_USER`. -/
def default : Config := ⟨900, 4⟩

/-- `bookingWindowMs`, which is also the time-to-live of `delay.q`. -/
def bookingWindowMs (config : Config) : Int :=
  config.bookingWindowSeconds * 1000

end Config

/-- The columns of a `seats` row that pricing reads. -/
structure Seat where
  eventId : EventId
  ticketTypeId : Option TicketTypeId
  deriving DecidableEq, Repr

/-- The seat map and the prices, which no booking operation writes. -/
structure Catalog where
  seat : SeatId → Option Seat
  price : TicketTypeId → Option Cents

namespace Catalog

/-- The seat exists and is a seat of the event. -/
def SeatOf (catalog : Catalog) (eventId : EventId) (seatId : SeatId) : Prop :=
  (catalog.seat seatId).map Seat.eventId = some eventId

instance (catalog : Catalog) (eventId : EventId) (seatId : SeatId) :
    Decidable (catalog.SeatOf eventId seatId) :=
  inferInstanceAs (Decidable (_ = _))

theorem SeatOf.unique {catalog : Catalog} {first second : EventId}
    {seatId : SeatId}
    (ofFirst : catalog.SeatOf first seatId)
    (ofSecond : catalog.SeatOf second seatId) : first = second :=
  Option.some.inj (ofFirst.symm.trans ofSecond)

end Catalog

/-- Everything a booking request reads and never writes. -/
structure Environment extends Config, Catalog

end ConcertTicketing
