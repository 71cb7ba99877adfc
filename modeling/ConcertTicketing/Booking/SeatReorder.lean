import ConcertTicketing.Booking.StaleExpiry

/-!
# Ordering a seat twice

A lock that a user owns passes both hold checks whatever the user has already
ordered on it, and the unique constraint looks at the idempotency key only.
One user's live orders share no seat as long as no hold is confirmed on a seat
of a live order of the same user.
-/

namespace ConcertTicketing.Booking

open SeatLock Redis

/-- No hold is confirmed on a seat of a live order of its user. -/
def ConfirmsFreshSeats (world : World) (action : Action) : Prop :=
  ∀ row ∈ confirming world action,
    ∀ order ∈ world.confirmed,
      order.Live world.now →
      order.userId = row.userId →
      ∀ seatId ∈ row.seatIds, seatId ∉ order.seatIds

instance (world : World) (action : Action) :
    Decidable (ConfirmsFreshSeats world action) :=
  inferInstanceAs
    (Decidable
      (∀ row ∈ confirming world action, ∀ order ∈ world.confirmed,
        _ → _ → ∀ seatId ∈ row.seatIds, _))

/-- A live order of a user is the only one of the user on its seats. -/
def SeatsConfirmedOnce (world : World) : Prop :=
  ∀ first ∈ world.confirmed, ∀ second ∈ world.confirmed,
    first.Live world.now →
    second.Live world.now →
    first.userId = second.userId →
    ∀ seatId, seatId ∈ first.seatIds → seatId ∈ second.seatIds →
      first.id = second.id

/-- A live confirmed order was one before the step, or the step has confirmed
it. -/
theorem live_step {env : Environment} {world next : World}
    {action : Action} (sound : Sound env world)
    (stepped : step env world action = some next) {order : Order}
    (member : order ∈ next.confirmed) (live : order.Live next.now) :
    (order ∈ world.confirmed ∧ order.Live world.now) ∨
      confirming world action = some order := by
  have later : world.now ≤ next.now := step_now_le stepped
  rcases step_confirmed sound stepped member with
    ⟨earlier, before, origin⟩ | ⟨index, input, ran, found, held, _, _⟩
  · have same := origin.eq_of_pending live.1
    subst same
    exact Or.inl ⟨before, live.1, lt_of_le_of_lt later live.2⟩
  · exact Or.inr (confirming_of_held ran found held)

private theorem seatsConfirmedOnce_step {env : Environment} {world next : World}
    {action : Action} (sound : Sound env world)
    (once : SeatsConfirmedOnce world)
    (freshSeats : ConfirmsFreshSeats world action)
    (stepped : step env world action = some next) :
    SeatsConfirmedOnce next := by
  intro first memberFirst second memberSecond liveFirst liveSecond sameUser
    seatId seatFirst seatSecond
  rcases live_step sound stepped memberFirst liveFirst with
    ⟨beforeFirst, wasLiveFirst⟩ | confirmsFirst
  · rcases live_step sound stepped memberSecond liveSecond with
      ⟨beforeSecond, wasLiveSecond⟩ | confirmsSecond
    · exact once first beforeFirst second beforeSecond wasLiveFirst
        wasLiveSecond sameUser seatId seatFirst seatSecond
    · have apart :=
        freshSeats second confirmsSecond first beforeFirst wasLiveFirst
          sameUser seatId seatSecond
      exact absurd seatFirst apart
  · rcases live_step sound stepped memberSecond liveSecond with
      ⟨beforeSecond, wasLiveSecond⟩ | confirmsSecond
    · have apart :=
        freshSeats first confirmsFirst second beforeSecond wasLiveSecond
          sameUser.symm seatId seatFirst
      exact absurd seatSecond apart
    · rw [confirmsFirst] at confirmsSecond
      cases confirmsSecond
      rfl

/-- No seat is in two live orders of one user. -/
def NoSeatTwice (world : World) : Prop :=
  ∀ first ∈ world.orders, ∀ second ∈ world.orders,
    first.Live world.now →
    second.Live world.now →
    first.userId = second.userId →
    ∀ seatId, seatId ∈ first.seatIds → seatId ∈ second.seatIds →
      first = second

private theorem SeatsConfirmedOnce.noSeatTwice {env : Environment}
    {world : World} (once : SeatsConfirmedOnce world)
    (sound : Sound env world) :
    NoSeatTwice world := by
  intro first memberFirst second memberSecond liveFirst liveSecond sameUser
    seatId seatFirst seatSecond
  have sameId : first.id = second.id :=
    once first (mem_confirmed.mpr (Or.inl memberFirst)) second
      (mem_confirmed.mpr (Or.inl memberSecond)) liveFirst liveSecond sameUser
      seatId seatFirst seatSecond
  exact sound.ids.unique memberFirst memberSecond sameId

/-- In every run in which no hold is confirmed on a seat of a live order of
its user, no state has a seat in two live orders of one user. -/
theorem noSeatTwice_of_confirmsFreshSeats {env : Environment}
    {origin : Instant} {history : List (World × Action)} {world : World}
    (run : Trace (step env) (World.init origin) history world)
    (guarded : StepsMeet ConfirmsFreshSeats history) :
    ∀ reached ∈ visited history world, NoSeatTwice reached := by
  refine Trace.forall_visited ConfirmsFreshSeats NoSeatTwice ?_ run guarded
  intro past current runHere guardedHere
  have once : SeatsConfirmedOnce current := by
    refine Trace.invariantWith ConfirmsFreshSeats
      (fun _ reached => SeatsConfirmedOnce reached) ?_ ?_ runHere guardedHere
    · intro first member
      cases member
    · intro earlier before action after runBefore inductionHypothesis
        freshSeats stepped
      exact seatsConfirmedOnce_step (Trace.sound runBefore)
        inductionHypothesis freshSeats stepped
  exact once.noSeatTwice (Trace.sound runHere)

/-- User 10 books seat 7, lets the order expire and books the seat again. -/
def reorderAfterExpiry : List Action :=
  lockSeatRun 0 ⟨10, 1, 7⟩ ++ createOrderRun 0 ⟨10, 1, [7], "first"⟩ ++
    [.tick 900000] ++ expiryRun 0 1 ++
      lockSeatRun 1 ⟨10, 1, 7⟩ ++ createOrderRun 1 ⟨10, 1, [7], "second"⟩

private theorem reorderAfterExpiry_enabled :
    (replay (step smallVenue) [] (World.init 0) reorderAfterExpiry).isSome =
      true := by
  decide

theorem noSeatTwice_reorderAfterExpiry :
    NoSeatTwice
      ((replay (step smallVenue) [] (World.init 0) reorderAfterExpiry).get
        reorderAfterExpiry_enabled).2 :=
  noSeatTwice_of_confirmsFreshSeats
    (Trace.of_replay_get reorderAfterExpiry reorderAfterExpiry_enabled)
    (by decide) _ List.mem_cons_self

def reorderAtOnce : List Action :=
  lockSeatRun 0 ⟨10, 1, 7⟩ ++ createOrderRun 0 ⟨10, 1, [7], "first"⟩ ++
    createOrderRun 1 ⟨10, 1, [7], "second"⟩

/-- A user can get one seat into two live orders. -/
theorem seatTwice_reachable :
    ¬ ∀ (env : Environment) (origin : Instant)
        (history : List (World × Action)) (world : World),
      Trace (step env) (World.init origin) history world →
      NoSeatTwice world := by
  intro always
  obtain ⟨history, world, run, checked⟩ :=
    Trace.exists_of_replay (step smallVenue) (World.init 0) reorderAtOnce
      (fun result =>
        decide (∃ first ∈ result.2.orders, ∃ second ∈ result.2.orders,
          first.Live result.2.now ∧ second.Live result.2.now ∧
            first.userId = second.userId ∧ 7 ∈ first.seatIds ∧
              7 ∈ second.seatIds ∧ first ≠ second))
      (by decide)
  obtain ⟨first, memberFirst, second, memberSecond, liveFirst, liveSecond,
    sameUser, seatFirst, seatSecond, different⟩ := of_decide_eq_true checked
  have same :=
    always smallVenue 0 history world run first memberFirst second
      memberSecond liveFirst liveSecond sameUser 7 seatFirst seatSecond
  exact different same

end ConcertTicketing.Booking
