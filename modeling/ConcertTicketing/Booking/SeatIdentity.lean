import ConcertTicketing.Booking.Effects

/-!
# One seat under several event ids

A lock key is composed of the event id and the seat id of the request, and
only pricing ever asks the database whether the two belong together.  As long
as every acquire that finds a free lock and room below the limit names a seat
of its event, a success of `LockSeat` vouches for the seat and a physical seat
has one owner.
-/

namespace ConcertTicketing.Booking

open SeatLock Redis

/-- Successes name seats of their events, and a physical seat has at most one
owner over all events. -/
structure OneHolderPerSeat (env : Environment) (world : World) : Prop where
  succeeded : ∀ call ∈ world.lockCalls, ∀ output,
    call.progress = .finished (.ok output) →
    env.SeatOf call.input.eventId call.input.seatId
  exclusive : ∀ seatId firstEvent secondEvent firstUser secondUser,
    holder world.redis firstEvent seatId = some firstUser →
    holder world.redis secondEvent seatId = some secondUser →
    firstUser = secondUser

/-- An acquire that finds the lock free and its user below the limit names a
seat of its event. -/
def GrantsSeatsOfEvent (env : Environment) (world : World)
    (action : Action) : Prop :=
  ∀ op ∈ script env world action, ∀ input ∈ op.acquired,
    holder world.redis input.eventId input.seatId = none →
    ((heldByUser world.redis input.eventId input.userId).card : Int) <
      input.maxPerUser →
    env.SeatOf input.eventId input.seatId

instance (env : Environment) (world : World) (action : Action) :
    Decidable (GrantsSeatsOfEvent env world action) :=
  inferInstanceAs
    (Decidable
      (∀ op ∈ script env world action, ∀ input ∈ op.acquired,
        _ → _ → _))

/-- The acquire of the call has been answered in its favour. -/
def PastAcquire : LockProgress → Prop
  | .running .acquire => False
  | .running .findActive => True
  | .running (.recordAcquired _) => True
  | .finished (.ok _) => True
  | .finished (.error _) => False
  | .failed _ _ => False
  | .stopped _ => False

private theorem pastAcquire_of_await {env : Environment} {input : LockSeatInput}
    {stores after : Stores} {stage : LockStage} {outcome : Await}
    {progress : LockProgress}
    (awaited :
      (lockSeat env input).await stores stage outcome =
        some (after, progress))
    (past : PastAcquire progress) :
    PastAcquire (.running stage) ∨
      (stage = .acquire ∧ outcome.Applies = true ∧
        ((acquire (input.acquireInput env) stores.redis).1 = .ok .ok ∨
          (acquire (input.acquireInput env) stores.redis).1 =
            .ok .okRehold)) := by
  cases stage with
  | findActive => exact Or.inl trivial
  | recordAcquired expiresAt => exact Or.inl trivial
  | acquire =>
      right
      rcases AsyncFunction.await_cases awaited with
        ⟨resolved, performed, applies, ⟨_, rfl⟩ | ⟨_, rejected⟩⟩ |
          ⟨_, _, ⟨_, rejected⟩ | ⟨_, stopped⟩⟩
      · cases lockSeat_resolved performed with
        | answered answer redis acquired =>
            refine ⟨rfl, applies, ?_⟩
            rw [acquired]
            cases answer with
            | error error => exact past.elim
            | ok result =>
                cases result with
                | ok => exact Or.inl rfl
                | okRehold => exact Or.inr rfl
                | seatTaken => exact past.elim
                | limit => exact past.elim
      · rw [rejected] at past
        exact past.elim
      · rw [rejected] at past
        exact past.elim
      · rw [stopped] at past
        exact past.elim

/-- Live locks and favourable answers are about seats of their event. -/
structure LocksNameSeats (env : Environment) (world : World) : Prop where
  locks : ∀ eventId seatId userId,
    holder world.redis eventId seatId = some userId →
    env.SeatOf eventId seatId
  calls : ∀ (index : Nat) (call : LockCall),
    world.lockCalls[index]? = some call →
    PastAcquire call.progress →
    env.SeatOf call.input.eventId call.input.seatId

private theorem locksNameSeats_init (env : Environment) (origin : Instant) :
    LocksNameSeats env (World.init origin) where
  locks := by
    intro eventId seatId userId held
    cases held
  calls := by
    intro index call found
    cases found

private theorem locksNameSeats_step {env : Environment} {world next : World}
    {action : Action} (named : LocksNameSeats env world)
    (guarded : GrantsSeatsOfEvent env world action)
    (stepped : step env world action = some next) :
    LocksNameSeats env next where
  locks := by
    intro eventId seatId userId held
    rcases step_redis_effect stepped with ⟨_, same⟩ | ⟨op, runs, effect⟩
    · rw [same] at held
      exact named.locks eventId seatId userId held
    · rcases holder_of_effect effect held with
        before | ⟨input, rfl, rfl, rfl, rfl, granted⟩
      · exact named.locks eventId seatId userId before
      · have answered := acquire_ok_iff.mp granted
        exact guarded _ runs input rfl answered.1 answered.2.1
  calls := by
    intro index call reached past
    cases step_lockCalls stepped reached with
    | kept _ found => exact named.calls index call found past
    | requested input new =>
        rw [new] at past
        exact past.elim
    | awaited outcome stage found awaited =>
        rcases pastAcquire_of_await awaited past with
          before | ⟨rfl, applies, granted | reheld⟩
        · have seatOf := named.calls index _ found before
          exact seatOf
        · have runs :
              script env world (.lockAwait index outcome) =
                some (.acquire (call.input.acquireInput env)) := by
            simp only [script, Call.applied_of_found found, if_pos applies,
              Option.bind_some, lockScript]
          have answered := acquire_ok_iff.mp granted
          exact guarded _ runs _ rfl answered.1 answered.2.1
        · exact named.locks _ _ _ (holder_of_okRehold reheld)

private theorem LocksNameSeats.oneHolderPerSeat {env : Environment}
    {world : World} (named : LocksNameSeats env world) :
    OneHolderPerSeat env world where
  succeeded := by
    intro call member output finished
    obtain ⟨index, found⟩ := List.mem_iff_getElem?.mp member
    have past : PastAcquire call.progress := by
      rw [finished]
      exact trivial
    exact named.calls index call found past
  exclusive := by
    intro seatId firstEvent secondEvent firstUser secondUser first second
    have sameEvent : firstEvent = secondEvent :=
      (named.locks _ _ _ first).unique (named.locks _ _ _ second)
    rw [sameEvent, second] at first
    exact (Option.some.inj first).symm

/-- In every run whose acquires of free locks name seats of their events,
`LockSeat` succeeds for such seats only and every physical seat has one
owner. -/
theorem oneHolderPerSeat_of_grantsSeatsOfEvent {env : Environment}
    {origin : Instant} {history : List (World × Action)} {world : World}
    (run : Trace (step env) (World.init origin) history world)
    (guarded : StepsMeet (GrantsSeatsOfEvent env) history) :
    ∀ reached ∈ visited history world, OneHolderPerSeat env reached := by
  refine Trace.forall_visited (GrantsSeatsOfEvent env)
    (OneHolderPerSeat env) ?_ run guarded
  intro past current runHere guardedHere
  have named : LocksNameSeats env current :=
    Trace.invariantUnder (GrantsSeatsOfEvent env) (LocksNameSeats env)
      (locksNameSeats_init env origin)
      (fun _ _ _ inductionHypothesis granting stepped =>
        locksNameSeats_step inductionHypothesis granting stepped)
      runHere guardedHere
  exact named.oneHolderPerSeat

/-- User 10 holds seat 7, user 11 is refused it and takes it afterwards. -/
def lockInTurn : List Action :=
  lockSeatRun 0 ⟨10, 1, 7⟩ ++
    [.lockSeat ⟨11, 1, 7⟩, .lockAwait 1 .resolves] ++
      releaseSeatRun 0 ⟨1, 7, 10⟩ ++ lockSeatRun 2 ⟨11, 1, 7⟩

private theorem lockInTurn_enabled :
    (replay (step smallVenue) [] (World.init 0) lockInTurn).isSome =
      true := by
  decide

theorem oneHolderPerSeat_lockInTurn :
    OneHolderPerSeat smallVenue
      ((replay (step smallVenue) [] (World.init 0) lockInTurn).get
        lockInTurn_enabled).2 :=
  oneHolderPerSeat_of_grantsSeatsOfEvent
    (Trace.of_replay_get lockInTurn lockInTurn_enabled)
    (by decide) _ List.mem_cons_self

/-- Seat 7 of event 1 is locked once under its event and once under event
2. -/
def lockUnderTwoEvents : List Action :=
  lockSeatRun 0 ⟨10, 1, 7⟩ ++ lockSeatRun 1 ⟨11, 2, 7⟩

/-- Not every run keeps one owner for each seat. -/
theorem twoHolders_reachable :
    ¬ ∀ (env : Environment) (origin : Instant)
        (history : List (World × Action)) (world : World),
      Trace (step env) (World.init origin) history world →
      OneHolderPerSeat env world := by
  intro always
  obtain ⟨history, world, run, checked⟩ :=
    Trace.exists_of_replay (step smallVenue) (World.init 0)
      lockUnderTwoEvents
      (fun result =>
        decide (holder result.2.redis 1 7 = some 10 ∧
          holder result.2.redis 2 7 = some 11))
      (by decide)
  obtain ⟨first, second⟩ := of_decide_eq_true checked
  have same :=
    (always smallVenue 0 history world run).exclusive 7 1 2 10 11 first second
  exact absurd same (by decide)

end ConcertTicketing.Booking
