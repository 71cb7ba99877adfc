import ConcertTicketing.Booking.Confirmed

/-!
# Double booking

A live order is meant to own its seats: its create call extended their locks
to at least `expiresAt`, and nobody else can book a seat that is locked.  That
holds as long as no release script gives a seat of a live order away.
-/

namespace ConcertTicketing.Booking

open SeatLock Redis

/-- No release script takes a lock from a live order of its owner. -/
def SparesLiveOrders (env : Environment) (world : World) (action : Action) :
    Prop :=
  ∀ op ∈ script env world action, ∀ lock ∈ op.released,
    holder world.redis lock.eventId lock.seatId = some lock.userId →
    ∀ order ∈ world.confirmed,
      order.Live world.now →
      order.userId = lock.userId →
      order.eventId = lock.eventId →
      lock.seatId ∉ order.seatIds

instance (env : Environment) (world : World) (action : Action) :
    Decidable (SparesLiveOrders env world action) :=
  inferInstanceAs
    (Decidable
      (∀ op ∈ script env world action, ∀ lock ∈ op.released,
        _ → ∀ order ∈ world.confirmed, _ → _ → _ → _))

/-- The locks of every live order last until it expires. -/
def LiveOrdersHeld (world : World) : Prop :=
  ∀ order ∈ world.confirmed,
    order.Live world.now →
    ∀ seatId ∈ order.seatIds,
      HeldUntil world.redis order.eventId seatId order.userId
        order.expiresAt

/-- Every `extendHold` of the system uses the booking window. -/
theorem script_extendHold {env : Environment} {world : World}
    {action : Action} {eventId : EventId} {seatIds : List SeatId}
    {userId : UserId} {ttlSeconds : Int}
    (runs :
      script env world action =
        some (.extendHold eventId seatIds userId ttlSeconds)) :
    ttlSeconds = env.bookingWindowSeconds := by
  cases script_cases runs
  rfl

private theorem liveOrdersHeld_step {env : Environment} {world next : World}
    {action : Action} (sound : Sound env world)
    (held : LiveOrdersHeld world)
    (spared : SparesLiveOrders env world action)
    (stepped : step env world action = some next) :
    LiveOrdersHeld next := by
  intro order member live seatId seat
  have later : world.now ≤ next.now := step_now_le stepped
  rcases step_confirmed sound stepped member with
    ⟨earlier, before, origin⟩ |
      ⟨index, input, _, _, allHeld, bound, renewed⟩
  · have same := origin.eq_of_pending live.1
    subst same
    have liveBefore : order.Live world.now :=
      ⟨live.1, lt_of_le_of_lt later live.2⟩
    have heldBefore := held order before liveBefore seatId seat
    rcases step_redis_effect stepped with ⟨_, same⟩ | ⟨op, runs, effect⟩
    · rw [same]
      exact heldBefore
    · refine heldBefore.of_effect effect live.2 ?_ ?_
      · intro releases
        have lock := SeatOp.releases_iff.mp releases
        exact spared op runs _ lock heldBefore.holder_eq order before
          liveBefore rfl rfl seat
      · rintro otherEvent seatIds otherUser ttlSeconds rfl
        rw [script_extendHold runs]
        exact confirmed_expiresAt_le sound before
  · have sameNow : next.now = world.now := by
      have clock := congrArg Db.now renewed
      rw [extended_now] at clock
      exact clock
    have positive : 0 < env.bookingWindowSeconds :=
      Db.seconds_pos_of_lt (lt_of_lt_of_le (sameNow ▸ live.2) bound)
    rw [renewed]
    have renewedUntil := heldUntil_extended positive allHeld seat
    exact renewedUntil.mono bound

theorem Trace.liveOrdersHeld {env : Environment} {origin : Instant}
    {history : List (World × Action)} {world : World}
    (run : Trace (step env) (World.init origin) history world)
    (spared : StepsMeet (SparesLiveOrders env) history) :
    LiveOrdersHeld world := by
  refine Trace.invariantWith (SparesLiveOrders env)
    (fun _ reached => LiveOrdersHeld reached) ?_ ?_ run spared
  · intro order member
    cases member
  · intro earlier before action after runBefore inductionHypothesis sparing
      stepped
    exact liveOrdersHeld_step (Trace.sound runBefore) inductionHypothesis
      sparing stepped

/-- No seat belongs to live orders of two users. -/
def NoDoubleBooking (world : World) : Prop :=
  ∀ first ∈ world.orders, ∀ second ∈ world.orders,
    first.Live world.now →
    second.Live world.now →
    ∀ seatId, seatId ∈ first.seatIds → seatId ∈ second.seatIds →
      first.userId = second.userId

private theorem LiveOrdersHeld.noDoubleBooking {env : Environment}
    {world : World} (held : LiveOrdersHeld world) (sound : Sound env world) :
    NoDoubleBooking world := by
  intro first memberFirst second memberSecond liveFirst liveSecond seatId
    seatFirst seatSecond
  have ownedFirst :=
    (held first (mem_confirmed.mpr (Or.inl memberFirst)) liveFirst seatId
      seatFirst).holder_eq
  have ownedSecond :=
    (held second (mem_confirmed.mpr (Or.inl memberSecond)) liveSecond seatId
      seatSecond).holder_eq
  have sameEvent : first.eventId = second.eventId :=
    sound.rows.eventId_eq_of_mem memberFirst memberSecond seatFirst seatSecond
  rw [sameEvent, ownedSecond] at ownedFirst
  exact (Option.some.inj ownedFirst).symm

/-- In every run in which no release script takes a lock from a live order of
its owner, no state double-books a seat. -/
theorem noDoubleBooking_of_sparesLiveOrders {env : Environment}
    {origin : Instant} {history : List (World × Action)} {world : World}
    (run : Trace (step env) (World.init origin) history world)
    (spared : StepsMeet (SparesLiveOrders env) history) :
    ∀ reached ∈ visited history world, NoDoubleBooking reached := by
  refine Trace.forall_visited (SparesLiveOrders env) NoDoubleBooking ?_ run
    spared
  intro past current runHere sparedHere
  have held : LiveOrdersHeld current :=
    Trace.liveOrdersHeld runHere sparedHere
  exact held.noDoubleBooking (Trace.sound runHere)

/-- User 10 books seat 7 and lets the order expire; then user 11 books it. -/
def bookAfterExpiry : List Action :=
  lockSeatRun 0 ⟨10, 1, 7⟩ ++ createOrderRun 0 ⟨10, 1, [7], "first"⟩ ++
    [.tick 900000] ++ expiryRun 0 1 ++
      lockSeatRun 1 ⟨11, 1, 7⟩ ++ createOrderRun 1 ⟨11, 1, [7], "second"⟩

private theorem bookAfterExpiry_enabled :
    (replay (step smallVenue) [] (World.init 0) bookAfterExpiry).isSome =
      true := by
  decide

theorem noDoubleBooking_bookAfterExpiry :
    NoDoubleBooking
      ((replay (step smallVenue) [] (World.init 0) bookAfterExpiry).get
        bookAfterExpiry_enabled).2 :=
  noDoubleBooking_of_sparesLiveOrders
    (Trace.of_replay_get bookAfterExpiry bookAfterExpiry_enabled)
    (by decide) _ List.mem_cons_self

/-- User 10 orders seat 7 and releases it; user 11 locks and orders it. -/
def bookAfterRelease : List Action :=
  lockSeatRun 0 ⟨10, 1, 7⟩ ++ createOrderRun 0 ⟨10, 1, [7], "first"⟩ ++
    releaseSeatRun 0 ⟨1, 7, 10⟩ ++
      lockSeatRun 1 ⟨11, 1, 7⟩ ++ createOrderRun 1 ⟨11, 1, [7], "second"⟩

/-- Not every run avoids double bookings. -/
theorem doubleBooking_reachable :
    ¬ ∀ (env : Environment) (origin : Instant)
        (history : List (World × Action)) (world : World),
      Trace (step env) (World.init origin) history world →
      NoDoubleBooking world := by
  intro always
  obtain ⟨history, world, run, checked⟩ :=
    Trace.exists_of_replay (step smallVenue) (World.init 0) bookAfterRelease
      (fun result =>
        decide (∃ first ∈ result.2.orders, ∃ second ∈ result.2.orders,
          first.Live result.2.now ∧ second.Live result.2.now ∧
            7 ∈ first.seatIds ∧ 7 ∈ second.seatIds ∧
              first.userId ≠ second.userId))
      (by decide)
  obtain ⟨first, memberFirst, second, memberSecond, liveFirst, liveSecond,
    seatFirst, seatSecond, different⟩ := of_decide_eq_true checked
  exact different
    (always smallVenue 0 history world run first memberFirst second
      memberSecond liveFirst liveSecond 7 seatFirst seatSecond)

end ConcertTicketing.Booking
