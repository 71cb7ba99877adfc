import ConcertTicketing.Booking.Effects
import ConcertTicketing.SeatLock.Lapse

/-!
# Seats come free, users may not

What a pause does to the whole system, whatever its requests were doing
before: all seats are free after it, but a user who has let the full number
of seats lapse is refused every seat of the event from then on.
-/

namespace ConcertTicketing.Booking

open SeatLock Redis

/-- The longest TTL that a lock gets, in seconds. -/
def longestTtl (env : Environment) : Int :=
  max lockTtlSeconds env.bookingWindowSeconds

section Runs

variable {env : Environment} {origin : Instant}
  {history : List (World × Action)} {world : World}

private theorem script_ttlAtMost {action : Action} {op : SeatOp}
    (runs : script env world action = some op) :
    op.TtlAtMost (longestTtl env) := by
  cases script_cases runs with
  | acquire => exact le_max_left _ _
  | extendHold => exact le_max_right _ _
  | _ => exact trivial

private theorem lapseWithin_of_run
    (run : Trace (step env) (World.init origin) history world) :
    LapseWithin (longestTtl env) world.redis := by
  refine Trace.invariant
    (fun world : World => LapseWithin (longestTtl env) world.redis)
    (lapseWithin_empty _ origin) ?_ run
  intro before action after lapse stepped
  rcases step_redis_effect stepped with ⟨_, same⟩ | ⟨op, runs, effect⟩
  · rw [same]
    exact lapse
  · exact lapse.of_effect effect (script_ttlAtMost runs)

def World.paused (world : World) (elapsed : Nat) : World :=
  { world with redis := world.redis.tick elapsed }

/-- After the pause every seat is free, and whoever has not filled the own set
gets any seat. -/
theorem seats_free_after_pause
    (run : Trace (step env) (World.init origin) history world)
    {elapsed : Nat} (long : longestTtl env * 1000 ≤ elapsed) :
    (∀ eventId seatId,
      holder (world.paused elapsed).redis eventId seatId = none) ∧
    ∀ input : LockSeatInput,
      (acquire (input.acquireInput env) (world.paused elapsed).redis).1 =
          .ok .ok ↔
        ((heldByUser world.redis input.eventId input.userId).card : Int) <
          env.maxSeatsPerUser := by
  have free := (lapseWithin_of_run run).free long
  have positive : 0 < lockTtlSeconds := by decide
  refine ⟨free, ?_⟩
  intro input
  rw [acquire_ok_iff]
  constructor
  · rintro ⟨_, below, _⟩
    exact below
  · intro below
    exact ⟨free _ _, below, positive⟩

private theorem lockedOut_step {next : World} {action : Action}
    {eventId : EventId} {userId : UserId}
    (out : LockedOut env.maxSeatsPerUser eventId userId world.redis)
    (stepped : step env world action = some next) :
    LockedOut env.maxSeatsPerUser eventId userId next.redis := by
  rcases step_redis_effect stepped with ⟨_, same⟩ | ⟨op, runs, effect⟩
  · rw [same]
    exact out
  · exact out.of_effect effect (script_limitIs runs)

/-- Nobody who is locked out is let in again. -/
theorem lockedOut_of_run {eventId : EventId} {userId : UserId}
    (out : LockedOut env.maxSeatsPerUser eventId userId world.redis)
    {newer : List (World × Action)} {later : World}
    (goesOn : Trace (step env) world newer later) :
    LockedOut env.maxSeatsPerUser eventId userId later.redis :=
  Trace.invariant
    (fun world : World =>
      LockedOut env.maxSeatsPerUser eventId userId world.redis)
    out (fun _ _ _ before stepped => lockedOut_step before stepped) goesOn

/-- Whoever holds the full number of seats is locked out by the pause. -/
theorem lockedOut_paused
    (run : Trace (step env) (World.init origin) history world)
    {eventId : EventId} {userId : UserId} {seats : Finset SeatId}
    (owned : ∀ seatId ∈ seats,
      holder world.redis eventId seatId = some userId)
    (full : env.maxSeatsPerUser ≤ (seats.card : Int)) {elapsed : Nat}
    (long : longestTtl env * 1000 ≤ elapsed) :
    LockedOut env.maxSeatsPerUser eventId userId
      (world.paused elapsed).redis := by
  obtain ⟨scripts, storeRun, limited⟩ := Trace.seatStore run
  have within := holdsWithin_of_run storeRun limited
  have recorded : seats ⊆ heldByUser world.redis eventId userId := by
    intro seatId member
    exact within.recorded eventId seatId userId (owned seatId member)
  have free := (lapseWithin_of_run run).free long
  constructor
  · have counted := Finset.card_le_card recorded
    change env.maxSeatsPerUser ≤
      ((heldByUser world.redis eventId userId).card : Int)
    omega
  · intro seatId held
    have none := free eventId seatId
    exact absurd (held.symm.trans none) (by simp)

/-- The answer to an acquire is a refusal. -/
theorem refused_of_lockedOut (input : LockSeatInput)
    (out : LockedOut env.maxSeatsPerUser input.eventId input.userId
      world.redis) :
    ∃ error, lockAnswered env input world.now
        (acquire (input.acquireInput env) world.redis).1 =
      .finished (.error error) := by
  have refused : (acquire (input.acquireInput env) world.redis).1 =
        .ok .limit ∨
      (acquire (input.acquireInput env) world.redis).1 = .ok .seatTaken :=
    LockedOut.refused out
  rcases refused with limit | taken
  · exact ⟨_, by rw [limit]; rfl⟩
  · exact ⟨_, by rw [taken]; rfl⟩

/-- A user who holds the full number of seats of an event and lets them lapse
is never given a seat of this event again, whatever anybody does. -/
theorem locked_out_after_lapse
    (run : Trace (step env) (World.init origin) history world)
    {eventId : EventId} {userId : UserId} {seats : Finset SeatId}
    (owned : ∀ seatId ∈ seats,
      holder world.redis eventId seatId = some userId)
    (full : env.maxSeatsPerUser ≤ (seats.card : Int)) {elapsed : Nat}
    (long : longestTtl env * 1000 ≤ elapsed)
    {newer : List (World × Action)} {later : World}
    (goesOn : Trace (step env) (world.paused elapsed) newer later) :
    (∀ seatId, holder later.redis eventId seatId ≠ some userId) ∧
    ∀ seatId, ∃ error,
      lockAnswered env ⟨userId, eventId, seatId⟩ later.now
          (acquire (LockSeatInput.acquireInput ⟨userId, eventId, seatId⟩ env)
            later.redis).1 =
        .finished (.error error) := by
  have out := lockedOut_of_run (lockedOut_paused run owned full long) goesOn
  refine ⟨out.holds, ?_⟩
  intro seatId
  exact refused_of_lockedOut ⟨userId, eventId, seatId⟩ out

end Runs

def twoEach : Environment := { smallVenue with maxSeatsPerUser := 2 }

def bothLocked : List Action :=
  lockSeatRun 0 ⟨10, 1, 7⟩ ++ lockSeatRun 1 ⟨10, 1, 8⟩

private theorem bothLocked_enabled :
    (replay (step twoEach) [] (World.init 0) bothLocked).isSome = true := by
  decide +kernel

def afterBothLocked : List (World × Action) × World :=
  (replay (step twoEach) [] (World.init 0) bothLocked).get bothLocked_enabled

private theorem bothLocked_run :
    Trace (step twoEach) (World.init 0) afterBothLocked.1 afterBothLocked.2 :=
  Trace.of_replay_get bothLocked bothLocked_enabled

theorem seats_free_after_pause_bothLocked :
    holder (afterBothLocked.2.paused 900000).redis 1 7 = none ∧
      (acquire (LockSeatInput.acquireInput ⟨11, 1, 7⟩ twoEach)
        (afterBothLocked.2.paused 900000).redis).1 = .ok .ok := by
  have pause := seats_free_after_pause bothLocked_run
    (by decide : longestTtl twoEach * 1000 ≤ (900000 : Nat))
  have below : ((heldByUser afterBothLocked.2.redis 1 11).card : Int) < 2 := by
    decide +kernel
  exact ⟨pause.1 1 7, (pause.2 ⟨11, 1, 7⟩).mpr below⟩

/-- After the pause user 10 tries again and user 11 locks a seat. -/
def triesAgain : List Action :=
  [.lockSeat ⟨10, 1, 7⟩, .lockAwait 2 .resolves] ++ lockSeatRun 3 ⟨11, 1, 7⟩

private theorem triesAgain_enabled :
    (replay (step twoEach) [] (afterBothLocked.2.paused 900000)
      triesAgain).isSome = true := by
  decide +kernel

def afterTriesAgain : List (World × Action) × World :=
  (replay (step twoEach) [] (afterBothLocked.2.paused 900000)
    triesAgain).get triesAgain_enabled

theorem locked_out_after_lapse_triesAgain :
    holder afterTriesAgain.2.redis 1 8 = none ∧
      (∃ error,
        lockAnswered twoEach ⟨10, 1, 8⟩ afterTriesAgain.2.now
            (acquire (LockSeatInput.acquireInput ⟨10, 1, 8⟩ twoEach)
              afterTriesAgain.2.redis).1 =
          .finished (.error error)) := by
  have owned : ∀ seatId ∈ ({7, 8} : Finset SeatId),
      holder afterBothLocked.2.redis 1 seatId = some 10 := by
    decide +kernel
  have out := locked_out_after_lapse bothLocked_run owned (by decide)
    (by decide : longestTtl twoEach * 1000 ≤ (900000 : Nat))
    (Trace.of_replay_get triesAgain triesAgain_enabled)
  exact ⟨by decide +kernel, out.2 8⟩

end ConcertTicketing.Booking
