import ConcertTicketing.Booking.DoubleBooking

/-!
# The seat limit and orders

`MAX_SEATS_PER_USER` bounds the held set of a user when a seat is locked; no
later step looks at it.  It bounds the seats in the live orders of the user as
long as these orders keep their locks.
-/

namespace ConcertTicketing.Booking

open SeatLock Redis

/-- The seats in the live orders of a user for an event. -/
def liveOrderSeats (world : World) (eventId : EventId) (userId : UserId) :
    Finset SeatId :=
  ((world.orders.filter fun order =>
    decide (order.Live world.now ∧ order.userId = userId ∧
      order.eventId = eventId)).flatMap Order.seatIds).toFinset

private theorem mem_liveOrderSeats {world : World} {eventId : EventId}
    {userId : UserId} {seatId : SeatId} :
    seatId ∈ liveOrderSeats world eventId userId ↔
      ∃ order ∈ world.orders,
        (order.Live world.now ∧ order.userId = userId ∧
          order.eventId = eventId) ∧
        seatId ∈ order.seatIds := by
  simp only [liveOrderSeats, List.mem_toFinset, List.mem_flatMap,
    List.mem_filter, decide_eq_true_iff, and_assoc]

/-- Nobody has more seats of an event in live orders than the limit. -/
def WithinOrderLimit (env : Environment) (world : World) : Prop :=
  ∀ eventId userId,
    (liveOrderSeats world eventId userId).card ≤ env.maxSeatsPerUser.toNat

/-- Seats whose locks are held count against the limit of the locks. -/
theorem LiveOrdersHeld.withinOrderLimit {env : Environment}
    {origin : Instant} {history : List (World × Action)} {world : World}
    (held : LiveOrdersHeld world)
    (run : Trace (step env) (World.init origin) history world) :
    WithinOrderLimit env world := by
  intro eventId userId
  have owned : ∀ seatId ∈ liveOrderSeats world eventId userId,
      holder world.redis eventId seatId = some userId := by
    intro seatId member
    obtain ⟨order, inTable, ⟨live, sameUser, sameEvent⟩, seat⟩ :=
      mem_liveOrderSeats.mp member
    have lasting :=
      held order (mem_confirmed.mpr (Or.inl inTable)) live seatId seat
    rw [← sameUser, ← sameEvent]
    exact lasting.holder_eq
  exact liveLocks_le_maxSeatsPerUser run owned

/-- In every run in which no release script takes a lock from a live order of
its owner, the seat limit carries over to orders. -/
theorem withinOrderLimit_of_sparesLiveOrders {env : Environment}
    {origin : Instant} {history : List (World × Action)} {world : World}
    (run : Trace (step env) (World.init origin) history world)
    (spared : StepsMeet (SparesLiveOrders env) history) :
    ∀ reached ∈ visited history world, WithinOrderLimit env reached := by
  refine Trace.forall_visited (SparesLiveOrders env) (WithinOrderLimit env)
    ?_ run spared
  intro past current runHere sparedHere
  have held : LiveOrdersHeld current :=
    Trace.liveOrdersHeld runHere sparedHere
  exact held.withinOrderLimit runHere

/-- `smallVenue` with `MAX_SEATS_PER_USER=1`. -/
def oneSeatEach : Environment :=
  { smallVenue with maxSeatsPerUser := 1 }

/-- The order of user 10 on seat 7 is expired before the user orders seat 8. -/
def orderAfterExpiry : List Action :=
  lockSeatRun 0 ⟨10, 1, 7⟩ ++ createOrderRun 0 ⟨10, 1, [7], "first"⟩ ++
    [.tick 900] ++ [.expireOrder 0] ++
      List.replicate 4 (.expireAwait 0 .resolves) ++
        lockSeatRun 1 ⟨10, 1, 8⟩ ++ createOrderRun 1 ⟨10, 1, [8], "second"⟩

private theorem orderAfterExpiry_enabled :
    (replay (step oneSeatEach) [] (World.init 0) orderAfterExpiry).isSome =
      true := by
  decide

theorem withinOrderLimit_orderAfterExpiry :
    WithinOrderLimit oneSeatEach
      ((replay (step oneSeatEach) [] (World.init 0) orderAfterExpiry).get
        orderAfterExpiry_enabled).2 :=
  withinOrderLimit_of_sparesLiveOrders
    (Trace.of_replay_get orderAfterExpiry orderAfterExpiry_enabled)
    (by decide) _ List.mem_cons_self

def orderAfterRelease : List Action :=
  lockSeatRun 0 ⟨10, 1, 7⟩ ++ createOrderRun 0 ⟨10, 1, [7], "first"⟩ ++
    releaseSeatRun 0 ⟨1, 7, 10⟩ ++
      lockSeatRun 1 ⟨10, 1, 8⟩ ++ createOrderRun 1 ⟨10, 1, [8], "second"⟩

/-- A user can have more seats in live orders than the limit allows. -/
theorem orderLimit_exceeded_reachable :
    ¬ ∀ (env : Environment) (origin : Instant)
        (history : List (World × Action)) (world : World),
      Trace (step env) (World.init origin) history world →
      WithinOrderLimit env world := by
  intro always
  obtain ⟨history, world, run, checked⟩ :=
    Trace.exists_of_replay (step oneSeatEach) (World.init 0)
      orderAfterRelease
      (fun result => decide (1 < (liveOrderSeats result.2 1 10).card))
      (by decide)
  have two : 1 < (liveOrderSeats world 1 10).card :=
    of_decide_eq_true checked
  have atMostOne := always oneSeatEach 0 history world run 1 10
  exact absurd atMostOne (Nat.not_le.mpr two)

end ConcertTicketing.Booking
