import ConcertTicketing.Booking.ActiveRows
import ConcertTicketing.Booking.ExpiryConfluence

/-!
# Requests one at a time

Requests run one at a time, each from its first call to its end, and time
passes only between them.  Any call of a request may fail.  For each use-case
one statement says what a whole request leaves.
-/

namespace ConcertTicketing.Booking

open SeatLock Redis

/-- Time passes, or a request runs with the given outcomes of its calls. -/
inductive Request where
  | tick (elapsed : Nat)
  | lockSeat (input : LockSeatInput) (outcomes : List Await)
  | releaseSeat (input : ReleaseInput) (outcomes : List Await)
  | createOrder (input : CreateOrderInput) (outcomes : List Await)
  | expireOrder (orderId : OrderId) (outcomes : List Await)
  deriving DecidableEq, Repr

def serve (env : Environment) (stores : Stores) : Request → Option Stores
  | .tick elapsed => some { stores with redis := stores.redis.tick elapsed }
  | .lockSeat input outcomes =>
      ((lockSeat env input).execute outcomes stores .acquire).map Prod.fst
  | .releaseSeat input outcomes =>
      ((releaseSeat input).execute outcomes stores .release).map Prod.fst
  | .createOrder input outcomes =>
      ((createOrder env [] input).execute outcomes stores .verifyHeld).map
        Prod.fst
  | .expireOrder orderId outcomes =>
      ((expireOrder orderId).execute outcomes stores .markExpired).map
        Prod.fst

variable {env : Environment} {stores after : Stores} {outcomes : List Await}

/-! ## LockSeat -/

/-- The lock of the seat is free and the user is below the limit. -/
def TakesSeat (env : Environment) (stores : Stores) (input : LockSeatInput) :
    Prop :=
  holder stores.redis input.eventId input.seatId = none ∧
    ((heldByUser stores.redis input.eventId input.userId).card : Int) <
      env.maxSeatsPerUser

def withRow (input : LockSeatInput) (stores : Stores) : Stores :=
  { stores with
    seatLocks :=
      stores.seatLocks ++
        [⟨input.seatId, input.userId, stores.now, newActive stores.now, none,
          .active⟩] }

private theorem lockSeat_ends (env : Environment) (input : LockSeatInput)
    (stage : LockStage) (applied : Bool) :
    ((lockSeat env input).reject stage applied).isRunning = false := by
  cases stage <;> rfl

/-- What a whole `LockSeat` can do. -/
inductive LockServed (env : Environment) (input : LockSeatInput)
    (stores : Stores) (outcomes : List Await) :
    Stores → LockProgress → Prop
  | refused (progress : LockProgress)
      (silent : ∀ output, progress ≠ .finished (.ok output))
      (idle : TakesSeat env stores input →
        Await.appliesAt outcomes 0 = false) :
      LockServed env input stores outcomes stores progress
  | shown (row : SeatLockRow) (lockId : Nat)
      (held :
        holder stores.redis input.eventId input.seatId = some input.userId)
      (active :
        findActive input.seatId input.userId stores.seatLocks =
          some (row, lockId)) :
      LockServed env input stores outcomes stores
        (.finished (.ok ⟨some lockId, row.seatId, row.expiresAt⟩))
  | reheld (progress : LockProgress) (recorded : Bool)
      (held :
        holder stores.redis input.eventId input.seatId = some input.userId)
      (missing :
        findActive input.seatId input.userId stores.seatLocks = none)
      (fresh : ∀ output, progress = .finished (.ok output) →
        output.expiresAt = newActive stores.now) :
      LockServed env input stores outcomes
        (if recorded then withRow input stores else stores) progress
  | taken (progress : LockProgress)
      (takes : TakesSeat env stores input)
      (applies : Await.appliesAt outcomes 0 = true)
      (fresh : ∀ output, progress = .finished (.ok output) →
        output.expiresAt = newActive stores.now) :
      LockServed env input stores outcomes
        (if Await.appliesAt outcomes 1 = true ∧
            (env.seat input.seatId).isSome then
          withRow input
            { stores with
              redis := granted (input.acquireInput env) stores.redis }
        else
          { stores with
            redis := granted (input.acquireInput env) stores.redis })
        progress

/-- The audit insert and what follows it. -/
theorem lockSeat_recorded {input : LockSeatInput} {progress : LockProgress}
    (executed :
      (lockSeat env input).execute outcomes stores
          (.recordAcquired (newActive stores.now)) =
        some (after, progress)) :
    after =
        (if Await.appliesAt outcomes 0 = true ∧
            (env.seat input.seatId).isSome then withRow input stores
          else stores) ∧
      ∀ output, progress = .finished (.ok output) →
        output.expiresAt = newActive stores.now := by
  cases outcomes with
  | nil => cases executed
  | cons outcome rest =>
      rcases AsyncFunction.execute_cases (lockSeat_ends env input) executed
        with ⟨_, _, awaited⟩ | ⟨middle, later, _, performed, _⟩
      · rcases AsyncFunction.await_cases awaited with
          ⟨resolved, performed, applies, answer⟩ | ⟨idle, applies, answer⟩
        · rw [Await.appliesAt_cons_zero, applies]
          cases lockSeat_resolved performed with
          | recorded _ known =>
              rw [if_pos ⟨rfl, known⟩]
              refine ⟨rfl, ?_⟩
              rintro output rfl
              rcases answer with ⟨_, same⟩ | ⟨_, same⟩ <;> cases same <;> rfl
          | unrecorded _ unknown =>
              rw [if_neg (fun both => unknown both.2)]
              refine ⟨rfl, ?_⟩
              rintro output rfl
              rcases answer with ⟨_, same⟩ | ⟨_, same⟩ <;> cases same <;> rfl
        · rw [Await.appliesAt_cons_zero, applies,
            if_neg (fun both => Bool.noConfusion both.1)]
          refine ⟨idle, ?_⟩
          rintro output rfl
          rcases answer with ⟨_, same⟩ | ⟨_, same⟩
          · cases same
            rfl
          · cases same
      · cases lockSeat_resolved performed

/-- How `acquire` answers, with the lock that it leaves. -/
theorem acquire_of_takes {input : LockSeatInput}
    (takes : TakesSeat env stores input) :
    acquire (input.acquireInput env) stores.redis =
      (.ok .ok, granted (input.acquireInput env) stores.redis) := by
  have free : holder stores.redis (input.acquireInput env).eventId
      (input.acquireInput env).seatId = none := takes.1
  have below : ¬ (input.acquireInput env).maxPerUser ≤
      ((heldByUser stores.redis (input.acquireInput env).eventId
        (input.acquireInput env).userId).card : Int) :=
    not_le.mpr takes.2
  have positive : 0 < (input.acquireInput env).ttlSeconds := by
    change (0 : Int) < 900
    decide
  rw [acquire_eq, free]
  simp only [if_neg below, if_pos positive]

theorem acquire_of_held {input : LockSeatInput}
    (held :
      holder stores.redis input.eventId input.seatId = some input.userId) :
    acquire (input.acquireInput env) stores.redis =
      (.ok .okRehold, stores.redis) := by
  have owned : holder stores.redis (input.acquireInput env).eventId
      (input.acquireInput env).seatId =
        some (input.acquireInput env).userId := held
  rw [acquire_eq, owned]
  simp only [if_true]

/-- Any other acquire is refused. -/
theorem acquire_of_refused {input : LockSeatInput}
    (full : ¬ TakesSeat env stores input)
    (notHeld :
      holder stores.redis input.eventId input.seatId ≠ some input.userId) :
    (acquire (input.acquireInput env) stores.redis).2 = stores.redis ∧
      ((acquire (input.acquireInput env) stores.redis).1 = .ok .seatTaken ∨
        (acquire (input.acquireInput env) stores.redis).1 = .ok .limit) := by
  rw [acquire_eq]
  cases owned : holder stores.redis (input.acquireInput env).eventId
      (input.acquireInput env).seatId with
  | some owner =>
      have other : owner ≠ (input.acquireInput env).userId := by
        rintro rfl
        exact notHeld owned
      simp [if_neg other]
  | none =>
      have atLimit : (input.acquireInput env).maxPerUser ≤
          ((heldByUser stores.redis (input.acquireInput env).eventId
            (input.acquireInput env).userId).card : Int) := by
        by_contra below
        exact full ⟨owned, not_le.mp below⟩
      simp [if_pos atLimit]

/-- A call before the audit insert that does not resolve ends the request
without an answer. -/
theorem lockSeat_unanswered {input : LockSeatInput} {stage : LockStage}
    {outcome : Await} {progress : LockProgress}
    (early : ∀ expiresAt, stage ≠ .recordAcquired expiresAt)
    (awaited :
      (lockSeat env input).await stores stage outcome =
        some (after, progress)) :
    (lockSeat env input).resolve stores stage = some (after, progress) ∨
      ((∀ output, progress ≠ .finished (.ok output)) ∧
        (after = stores ∧ outcome.Applies = false ∨
          outcome.Applies = true ∧ ∃ resolved,
            (lockSeat env input).resolve stores stage =
              some (after, resolved))) := by
  have throws : ∀ applied,
      (lockSeat env input).reject stage applied = .failed stage applied := by
    intro applied
    cases stage with
    | acquire => rfl
    | findActive => rfl
    | recordAcquired expiresAt => exact absurd rfl (early expiresAt)
  rcases AsyncFunction.await_cases awaited with
    ⟨resolved, performed, applies, ⟨_, same⟩ | ⟨_, same⟩⟩ |
      ⟨idle, applies, ⟨_, same⟩ | ⟨_, same⟩⟩
  · rw [same]
    exact Or.inl performed
  · rw [same, throws]
    exact Or.inr ⟨by simp, Or.inr ⟨applies, resolved, performed⟩⟩
  · rw [same, throws]
    exact Or.inr ⟨by simp, Or.inl ⟨idle, applies⟩⟩
  · rw [same]
    exact Or.inr ⟨by simp, Or.inl ⟨idle, applies⟩⟩

/-- A call that leaves the stores alone and lets the request go on. -/
theorem lockSeat_goesOn {input : LockSeatInput} {stage later : LockStage}
    {outcome : Await} {rest : List Await} {progress : LockProgress}
    (early : ∀ expiresAt, stage ≠ .recordAcquired expiresAt)
    (resolves : (lockSeat env input).resolve stores stage =
      some (stores, .running later))
    (executed :
      (lockSeat env input).execute (outcome :: rest) stores stage =
        some (after, progress)) :
    (after = stores ∧ ∀ output, progress ≠ .finished (.ok output)) ∨
      (lockSeat env input).execute rest stores later =
        some (after, progress) := by
  rcases AsyncFunction.execute_cases (lockSeat_ends env input) executed with
    ⟨_, done, awaited⟩ | ⟨middle, next, _, performed, goesOn⟩
  · rcases lockSeat_unanswered early awaited with
      performed | ⟨silent, ⟨same, _⟩ | ⟨_, _, performed⟩⟩
    · rw [resolves] at performed
      cases performed
      cases done
    · exact Or.inl ⟨same, silent⟩
    · rw [resolves] at performed
      cases performed
      exact Or.inl ⟨rfl, silent⟩
  · rw [resolves] at performed
    cases performed
    exact Or.inr goesOn

/-- A call that leaves the stores alone and answers the request. -/
theorem lockSeat_answers {input : LockSeatInput} {stage : LockStage}
    {outcome : Await} {rest : List Await} {progress : LockProgress}
    {answer : Except SeatLockError LockSeatOutput}
    (early : ∀ expiresAt, stage ≠ .recordAcquired expiresAt)
    (resolves : (lockSeat env input).resolve stores stage =
      some (stores, .finished answer))
    (executed :
      (lockSeat env input).execute (outcome :: rest) stores stage =
        some (after, progress)) :
    after = stores ∧
      (progress = .finished answer ∨
        ∀ output, progress ≠ .finished (.ok output)) := by
  rcases AsyncFunction.execute_cases (lockSeat_ends env input) executed with
    ⟨_, _, awaited⟩ | ⟨middle, next, _, performed, _⟩
  · rcases lockSeat_unanswered early awaited with
      performed | ⟨silent, ⟨same, _⟩ | ⟨_, _, performed⟩⟩
    · rw [resolves] at performed
      cases performed
      exact ⟨rfl, Or.inl rfl⟩
    · exact ⟨same, Or.inr silent⟩
    · rw [resolves] at performed
      cases performed
      exact ⟨rfl, Or.inr silent⟩
  · rw [resolves] at performed
    cases performed

private theorem acquire_early (expiresAt : Instant) :
    LockStage.acquire ≠ .recordAcquired expiresAt :=
  LockStage.noConfusion

private theorem findActive_early (expiresAt : Instant) :
    LockStage.findActive ≠ .recordAcquired expiresAt :=
  LockStage.noConfusion

/-- A re-hold from its look at the audit rows on. -/
theorem lockSeat_reheld {input : LockSeatInput} {progress : LockProgress}
    {given : List Await}
    (held : holder stores.redis input.eventId input.seatId =
      some input.userId)
    (executed :
      (lockSeat env input).execute outcomes stores .findActive =
        some (after, progress)) :
    LockServed env input stores given after progress := by
  have idle : TakesSeat env stores input →
      Await.appliesAt given 0 = false := by
    rintro ⟨free, _⟩
    rw [held] at free
    cases free
  cases outcomes with
  | nil => cases executed
  | cons outcome rest =>
      cases active : findActive input.seatId input.userId
          stores.seatLocks with
      | some entry =>
          have resolves : (lockSeat env input).resolve stores .findActive =
              some (stores, .finished
                (.ok ⟨some entry.2, entry.1.seatId,
                  entry.1.expiresAt⟩)) := by
            simp only [lockSeat, active]
          obtain ⟨rfl, rfl | silent⟩ :=
            lockSeat_answers findActive_early resolves executed
          · exact .shown entry.1 entry.2 held active
          · exact .refused progress silent idle
      | none =>
          have resolves : (lockSeat env input).resolve stores .findActive =
              some (stores,
                .running (.recordAcquired (newActive stores.now))) := by
            simp only [lockSeat, active]
          rcases lockSeat_goesOn findActive_early resolves executed with
            ⟨rfl, silent⟩ | goesOn
          · exact .refused progress silent idle
          · obtain ⟨left, fresh⟩ := lockSeat_recorded goesOn
            rw [left]
            have reheld : LockServed env input stores given _ progress :=
              .reheld progress
                (decide (Await.appliesAt rest 0 = true ∧
                  (env.seat input.seatId).isSome))
                held active fresh
            simpa only [decide_eq_true_eq] using reheld

/-- A first hold. -/
theorem lockSeat_taken {input : LockSeatInput} {progress : LockProgress}
    (takes : TakesSeat env stores input)
    (executed :
      (lockSeat env input).execute outcomes stores .acquire =
        some (after, progress)) :
    LockServed env input stores outcomes after progress := by
  have resolves : (lockSeat env input).resolve stores .acquire =
      some
        ({ stores with
            redis := granted (input.acquireInput env) stores.redis },
          .running (.recordAcquired (newActive stores.now))) := by
    simp only [lockSeat, acquire_of_takes takes, lockAnswered]
  cases outcomes with
  | nil => cases executed
  | cons outcome rest =>
      rcases AsyncFunction.execute_cases (lockSeat_ends env input) executed
        with ⟨rfl, done, awaited⟩ | ⟨middle, later, rfl, performed, goesOn⟩
      · rcases lockSeat_unanswered acquire_early awaited with
          performed | ⟨silent, ⟨idle, applies⟩ | ⟨applies, _, performed⟩⟩
        · rw [resolves] at performed
          cases performed
          cases done
        · rw [idle]
          exact .refused progress silent fun _ => applies
        · rw [resolves] at performed
          cases performed
          have fresh : ∀ output, progress = .finished (.ok output) →
              output.expiresAt = newActive stores.now :=
            fun output answered => absurd answered (silent output)
          exact .taken progress takes applies fresh
      · rw [resolves] at performed
        cases performed
        obtain ⟨left, fresh⟩ := lockSeat_recorded goesOn
        rw [left]
        exact .taken progress takes rfl fresh

theorem lockSeat_served {input : LockSeatInput} {progress : LockProgress}
    (executed :
      (lockSeat env input).execute outcomes stores .acquire =
        some (after, progress)) :
    LockServed env input stores outcomes after progress := by
  by_cases takes : TakesSeat env stores input
  · exact lockSeat_taken takes executed
  cases outcomes with
  | nil => cases executed
  | cons outcome rest =>
      have idle : TakesSeat env stores input →
          Await.appliesAt (outcome :: rest) 0 = false :=
        fun possible => absurd possible takes
      by_cases held : holder stores.redis input.eventId input.seatId =
          some input.userId
      · have resolves : (lockSeat env input).resolve stores .acquire =
            some (stores, .running .findActive) := by
          simp only [lockSeat, acquire_of_held held, lockAnswered]
        rcases lockSeat_goesOn acquire_early resolves executed with
          ⟨rfl, silent⟩ | goesOn
        · exact .refused progress silent idle
        · exact lockSeat_reheld held goesOn
      · have refusal : ∃ error,
            (lockSeat env input).resolve stores .acquire =
              some (stores, .finished (.error error)) := by
          obtain ⟨sameStore, taken | limit⟩ := acquire_of_refused takes held
          · refine ⟨.seatTaken input.seatId, ?_⟩
            simp only [lockSeat, sameStore, taken, lockAnswered]
          · refine ⟨.ticketLimitReached input.userId env.maxSeatsPerUser, ?_⟩
            simp only [lockSeat, sameStore, limit, lockAnswered]
        obtain ⟨error, resolves⟩ := refusal
        obtain ⟨rfl, rfl | silent⟩ :=
          lockSeat_answers acquire_early resolves executed
        · exact .refused _ (by simp) idle
        · exact .refused progress silent idle

/-- The locks after the seat is taken. -/
theorem lockEntry_taken (env : Environment) (input : LockSeatInput)
    (db : SeatStore) (eventId : EventId) (seatId : SeatId) :
    lockEntry (granted (input.acquireInput env) db) eventId seatId =
      if eventId = input.eventId ∧ seatId = input.seatId then
        some ⟨input.userId, some (newActive db.now)⟩
      else lockEntry db eventId seatId := by
  have positive : 0 < (input.acquireInput env).ttlSeconds := by
    change (0 : Int) < 900
    decide
  exact lockEntry_granted positive db eventId seatId

/-! ## ReleaseSeat -/

private theorem releaseSeat_ends (input : ReleaseInput) (stage : ReleaseStage)
    (applied : Bool) :
    ((releaseSeat input).reject stage applied).isRunning = false := by
  cases stage <;> rfl

/-- What a whole `ReleaseSeat` can do. -/
inductive ReleaseServed (input : ReleaseInput) (stores : Stores)
    (outcomes : List Await) : Stores → Prop
  | unchanged
      (unrecorded :
        holder stores.redis input.eventId input.seatId =
            some input.userId →
          Await.appliesAt outcomes 1 = false) :
      ReleaseServed input stores outcomes stores
  | unrecorded (unapplied : Await.appliesAt outcomes 1 = false) :
      ReleaseServed input stores outcomes
        { stores with
          redis :=
            dropped input.eventId input.seatId input.userId stores.redis }
  | recorded
      (held :
        holder stores.redis input.eventId input.seatId = some input.userId)
      (applied : Await.appliesAt outcomes 1 = true) :
      ReleaseServed input stores outcomes
        { stores with
          redis :=
            dropped input.eventId input.seatId input.userId stores.redis
          seatLocks :=
            recordReleased input.seatId input.userId stores.now
              stores.seatLocks }

theorem releaseSeat_served {input : ReleaseInput}
    {progress : Progress ReleaseStage (Except ReleaseSeatError Unit)}
    (executed :
      (releaseSeat input).execute outcomes stores .release =
        some (after, progress)) :
    ReleaseServed input stores outcomes after := by
  cases outcomes with
  | nil => cases executed
  | cons outcome rest =>
      rcases AsyncFunction.execute_cases (releaseSeat_ends input) executed
        with ⟨rfl, _, awaited⟩ | ⟨middle, later, rfl, performed, goesOn⟩
      · rcases AsyncFunction.await_cases awaited with
          ⟨resolved, performed, _⟩ | ⟨idle, _⟩
        · cases releaseSeat_resolved performed with
          | released _ => exact .unrecorded rfl
          | refused _ => exact .unchanged fun _ => rfl
        · rw [idle]
          exact .unchanged fun _ => rfl
      · cases releaseSeat_resolved performed with
        | released held =>
            cases rest with
            | nil => cases goesOn
            | cons recording others =>
                rcases AsyncFunction.execute_cases (releaseSeat_ends input)
                    goesOn with
                  ⟨_, _, awaited⟩ | ⟨_, _, _, again, _⟩
                · rcases AsyncFunction.await_cases awaited with
                    ⟨resolved, recorded, applies, _⟩ | ⟨idle, applies, _⟩
                  · cases releaseSeat_resolved recorded with
                    | recorded => exact .recorded held applies
                  · rw [idle]
                    exact .unrecorded applies
                · cases releaseSeat_resolved again

theorem lockEntry_of_dropped {eventId : EventId} {seatId : SeatId}
    {userId : UserId} {db : SeatStore} {other : EventId} {otherSeat : SeatId}
    {entry : Entry UserId}
    (found : lockEntry (dropped eventId seatId userId db) other otherSeat =
      some entry) :
    ¬ (other = eventId ∧ otherSeat = seatId) ∧
      lockEntry db other otherSeat = some entry := by
  rw [lockEntry_dropped] at found
  split at found
  · cases found
  · next different => exact ⟨different, found⟩

/-! ## CreateOrder -/

/-- The order gets as far as its `extendHold`, and that takes effect. -/
def ReachesExtension (env : Environment) (stores : Stores)
    (input : CreateOrderInput) (outcomes : List Await) : Prop :=
  AllHeld stores.redis input.eventId input.seatIds input.userId ∧
    (∃ pricing,
      loadSeatPricing env input.eventId input.seatIds = .ok pricing ∧
      Storable
        (input.data (stores.now + env.bookingWindowSeconds * 1000)
          pricing).totalAmount) ∧
    findByIdempotencyKey input.userId input.idempotencyKey stores.orders =
      none ∧
    Await.appliesAt outcomes 3 = true

private theorem createOrder_ends (env : Environment) (input : CreateOrderInput)
    (stage : CreateStage) (applied : Bool) :
    ((createOrder env [] input).reject stage applied).isRunning = false := rfl

/-- `CreateOrder` leaves the audit rows as they are, and the locks behind an
extension that takes effect. -/
structure CreateServed (env : Environment) (input : CreateOrderInput)
    (stores after : Stores) (reaches : Prop) : Prop where
  rows : after.seatLocks = stores.seatLocks
  extended : reaches →
    after.redis =
      SeatLock.extended input.eventId input.seatIds
        env.bookingWindowSeconds stores.redis
  untouched : ¬ reaches → after.redis = stores.redis

section CreateServed

variable {input : CreateOrderInput} {progress : CreateProgress}
  {stage : CreateStage} {outcome : Await}

/-- Only `extendHold` touches the locks. -/
theorem createOrder_keeps
    (awaited :
      (createOrder env [] input).await stores stage outcome =
        some (after, progress)) :
    after.seatLocks = stores.seatLocks ∧
      ((∀ row, stage ≠ .extendHold row) → after.redis = stores.redis) := by
  rcases AsyncFunction.await_cases awaited with
    ⟨resolved, performed, _⟩ | ⟨idle, _⟩
  · cases createOrder_resolved performed with
    | extended row _ => exact ⟨rfl, fun other => absurd rfl (other row)⟩
    | _ => exact ⟨rfl, fun _ => rfl⟩
  · rw [idle]
    exact ⟨rfl, fun _ => rfl⟩

/-- A call that does not get to the extension. -/
theorem CreateServed.of_keeps {reaches : Prop} (never : ¬ reaches)
    (rows : after.seatLocks = stores.seatLocks)
    (redis : after.redis = stores.redis) :
    CreateServed env input stores after reaches :=
  ⟨rows, fun extended => absurd extended never, fun _ => redis⟩

/-- A call that ends in a stage before the extension. -/
theorem CreateServed.of_ended {reaches : Prop}
    (awaited :
      (createOrder env [] input).await stores stage outcome =
        some (after, progress))
    (early : ∀ row, stage ≠ .extendHold row) (never : ¬ reaches) :
    CreateServed env input stores after reaches := by
  obtain ⟨rows, redis⟩ := createOrder_keeps awaited
  exact .of_keeps never rows (redis early)

theorem CreateServed.sameNow {reaches : Prop}
    (served : CreateServed env input stores after reaches) :
    after.now = stores.now := by
  rw [Stores.now]
  by_cases extended : reaches
  · rw [served.extended extended, extended_now]
    rfl
  · rw [served.untouched extended]
    rfl

/-- Behind the extension and in a replay. -/
def BehindExtension : CreateStage → Prop
  | .commit _ => True
  | .publishExpiration _ => True
  | .findByIdempotencyKey => True
  | _ => False

private theorem createOrder_behindExtension
    (executed :
      (createOrder env [] input).execute outcomes stores stage =
        some (after, progress))
    (behind : BehindExtension stage) :
    after.seatLocks = stores.seatLocks ∧ after.redis = stores.redis := by
  refine AsyncFunction.execute_invariant BehindExtension
    (fun reached => reached.seatLocks = stores.seatLocks ∧
      reached.redis = stores.redis)
    (createOrder_ends env input) ?_ executed behind ⟨rfl, rfl⟩
  rintro reached at_ next goesOn behindHere ⟨rows, redis⟩ performed
  cases createOrder_resolved performed with
  | committed row =>
      refine ⟨⟨rows, redis⟩, ?_⟩
      intro later same
      cases same
      trivial
  | published row =>
      refine ⟨⟨rows, redis⟩, ?_⟩
      intro later same
      cases same
  | replayed =>
      refine ⟨⟨rows, redis⟩, ?_⟩
      intro later same
      cases same
  | _ => exact behindHere.elim

private theorem createOrder_extending {row : Order}
    (executed :
      (createOrder env [] input).execute outcomes stores (.extendHold row) =
        some (after, progress)) :
    CreateServed env input stores after
      (AllHeld stores.redis input.eventId input.seatIds input.userId ∧
        Await.appliesAt outcomes 0 = true) := by
  cases outcomes with
  | nil => cases executed
  | cons outcome rest =>
      rcases AsyncFunction.execute_cases (createOrder_ends env input) executed
        with ⟨_, _, awaited⟩ | ⟨middle, later, rfl, performed, goesOn⟩
      · have rows := (createOrder_keeps awaited).1
        rcases AsyncFunction.await_cases awaited with
          ⟨resolved, performed, applies, _⟩ | ⟨idle, applies, _⟩
        · cases createOrder_resolved performed with
          | extended _ held =>
              exact ⟨rows, fun _ => rfl,
                fun never => absurd ⟨held, applies⟩ never⟩
          | rolledBack _ lost =>
              exact .of_keeps (fun both => lost both.1) rows rfl
        · rw [idle]
          refine .of_keeps ?_ rfl rfl
          rintro ⟨_, applied⟩
          rw [Await.appliesAt_cons_zero, applies] at applied
          cases applied
      · cases createOrder_resolved performed with
        | extended _ held =>
            obtain ⟨rows, redis⟩ := createOrder_behindExtension goesOn trivial
            exact ⟨rows, fun _ => redis, fun never => absurd ⟨held, rfl⟩ never⟩

private theorem createOrder_inserting {data : CreateOrderData}
    (executed :
      (createOrder env [] input).execute outcomes stores
          (.insertOrder data) =
        some (after, progress)) :
    CreateServed env input stores after
      (Storable data.totalAmount ∧
        findByIdempotencyKey data.userId data.idempotencyKey
          stores.orders = none ∧
        AllHeld stores.redis input.eventId input.seatIds input.userId ∧
        Await.appliesAt outcomes 1 = true) := by
  cases outcomes with
  | nil => cases executed
  | cons outcome rest =>
      rcases AsyncFunction.execute_cases (createOrder_ends env input) executed
        with ⟨rfl, _, awaited⟩ | ⟨middle, later, rfl, performed, goesOn⟩
      · refine .of_ended awaited (fun _ => CreateStage.noConfusion) ?_
        rintro ⟨_, _, _, applied⟩
        cases applied
      · cases createOrder_resolved performed with
        | duplicate _ taken =>
            obtain ⟨rows, redis⟩ := createOrder_behindExtension goesOn trivial
            refine .of_keeps ?_ rows redis
            rintro ⟨_, fresh, _⟩
            rw [fresh] at taken
            cases taken
        | inserted _ storable _ fresh =>
            have served := createOrder_extending goesOn
            refine ⟨served.rows, ?_, ?_⟩
            · rintro ⟨_, _, held, applied⟩
              exact served.extended ⟨held, applied⟩
            · intro never
              apply served.untouched
              rintro ⟨held, applied⟩
              exact never ⟨storable, fresh, held, applied⟩

private theorem createOrder_pricing
    (executed :
      (createOrder env [] input).execute outcomes stores .loadSeatPricing =
        some (after, progress)) :
    CreateServed env input stores after
      ((∃ pricing,
          loadSeatPricing env input.eventId input.seatIds = .ok pricing ∧
          Storable
            (input.data (stores.now + env.bookingWindowSeconds * 1000)
              pricing).totalAmount) ∧
        findByIdempotencyKey input.userId input.idempotencyKey
          stores.orders = none ∧
        AllHeld stores.redis input.eventId input.seatIds input.userId ∧
        Await.appliesAt outcomes 2 = true) := by
  cases outcomes with
  | nil => cases executed
  | cons outcome rest =>
      rcases AsyncFunction.execute_cases (createOrder_ends env input) executed
        with ⟨rfl, _, awaited⟩ | ⟨middle, later, rfl, performed, goesOn⟩
      · refine .of_ended awaited (fun _ => CreateStage.noConfusion) ?_
        rintro ⟨_, _, _, applied⟩
        cases applied
      · cases createOrder_resolved performed with
        | priced pricing loaded =>
            have served := createOrder_inserting goesOn
            refine ⟨served.rows, ?_, ?_⟩
            · rintro ⟨⟨other, loadedAlso, storable⟩, fresh, held, applied⟩
              rw [loaded] at loadedAlso
              cases loadedAlso
              exact served.extended ⟨storable, fresh, held, applied⟩
            · intro never
              apply served.untouched
              rintro ⟨storable, fresh, held, applied⟩
              exact never ⟨⟨pricing, loaded, storable⟩, fresh, held, applied⟩

theorem createOrder_served
    (executed :
      (createOrder env [] input).execute outcomes stores .verifyHeld =
        some (after, progress)) :
    CreateServed env input stores after
      (ReachesExtension env stores input outcomes) := by
  cases outcomes with
  | nil => cases executed
  | cons outcome rest =>
      rcases AsyncFunction.execute_cases (createOrder_ends env input) executed
        with ⟨rfl, _, awaited⟩ | ⟨middle, later, rfl, performed, goesOn⟩
      · refine .of_ended awaited (fun _ => CreateStage.noConfusion) ?_
        rintro ⟨_, _, _, applied⟩
        cases applied
      · cases createOrder_resolved performed with
        | verified held =>
            have served := createOrder_pricing goesOn
            refine ⟨served.rows, ?_, ?_⟩
            · rintro ⟨_, priced, fresh, applied⟩
              exact served.extended ⟨priced, fresh, held, applied⟩
            · intro never
              apply served.untouched
              rintro ⟨priced, fresh, _, applied⟩
              exact never ⟨held, priced, fresh, applied⟩

end CreateServed

/-! ## ExpireOrder -/

private theorem expireOrder_ends (orderId : OrderId) (stage : ExpireStage)
    (applied : Bool) :
    ((expireOrder orderId).reject stage applied).isRunning = false := rfl

private theorem lockEntry_of_releaseHold {eventId : EventId} {seatId : SeatId}
    {userId : UserId} {db : SeatStore} {other : EventId} {otherSeat : SeatId}
    {entry : Entry UserId}
    (found : lockEntry (releaseHold eventId seatId userId db) other
      otherSeat = some entry) :
    lockEntry db other otherSeat = some entry := by
  rw [releaseHold_eq] at found
  split at found
  · exact (lockEntry_of_dropped found).2
  · exact found

private theorem lockEntry_releaseHold_elsewhere {eventId other : EventId}
    (different : other ≠ eventId) (userId : UserId) (seatId : SeatId)
    (db : SeatStore) (otherSeat : SeatId) :
    lockEntry (releaseHold eventId seatId userId db) other otherSeat =
      lockEntry db other otherSeat := by
  rw [releaseHold_eq]
  split
  · rw [lockEntry_dropped, if_neg (fun same => different same.1)]
  · rfl

/-- The loop only takes locks away. -/
theorem lockEntry_of_releaseHolds {eventId : EventId} {userId : UserId}
    {seatIds : List SeatId} {db : SeatStore} {other : EventId}
    {otherSeat : SeatId} {entry : Entry UserId}
    (found : lockEntry (releaseHolds eventId userId seatIds db) other
      otherSeat = some entry) :
    lockEntry db other otherSeat = some entry := by
  induction seatIds generalizing db with
  | nil => exact found
  | cons seatId rest inductionHypothesis =>
      exact lockEntry_of_releaseHold (inductionHypothesis found)

theorem lockEntry_releaseHolds_elsewhere {eventId other : EventId}
    (different : other ≠ eventId) (userId : UserId) (seatIds : List SeatId)
    (db : SeatStore) (otherSeat : SeatId) :
    lockEntry (releaseHolds eventId userId seatIds db) other otherSeat =
      lockEntry db other otherSeat := by
  induction seatIds generalizing db with
  | nil => rfl
  | cons seatId rest inductionHypothesis =>
      exact (inductionHypothesis _).trans
        (lockEntry_releaseHold_elsewhere different userId seatId db otherSeat)

/-- After the loop the user holds none of its seats under its event. -/
theorem holder_releaseHolds {eventId : EventId} {userId : UserId}
    {seatIds : List SeatId} {db : SeatStore} {seatId : SeatId}
    (member : seatId ∈ seatIds) :
    holder (releaseHolds eventId userId seatIds db) eventId seatId ≠
      some userId := by
  induction seatIds generalizing db with
  | nil => cases member
  | cons first rest inductionHypothesis =>
      rcases List.mem_cons.mp member with rfl | later
      · intro holds
        obtain ⟨entry, found, owned⟩ := holder_eq_some_iff.mp holds
        have still : lockEntry (releaseHold eventId seatId userId db) eventId
            seatId = some entry := lockEntry_of_releaseHolds found
        rw [releaseHold_eq] at still
        split at still
        · exact (lockEntry_of_dropped still).1 ⟨rfl, rfl⟩
        · next lost =>
            exact lost (holder_eq_some_iff.mpr ⟨entry, still, owned⟩)
      · exact inductionHypothesis later

/-- What the loop over the given seats and the audit update leave. -/
inductive LoopServed (result : ExpireResult) (rest : List SeatId)
    (outcomes : List Await) (stores after : Stores) : Prop
  | unsettled (released : List SeatId)
      (unapplied : Await.appliesAt outcomes rest.length = false)
      (rows : after.seatLocks = stores.seatLocks)
      (redis : after.redis =
        releaseHolds result.eventId result.userId released stores.redis)
  | settled (applied : Await.appliesAt outcomes rest.length = true)
      (rows : after.seatLocks =
        expireSeatLockAudit result.seatIds result.userId stores.now
          stores.seatLocks)
      (redis : after.redis =
        releaseHolds result.eventId result.userId rest stores.redis)

private theorem expireOrder_auditing {orderId : OrderId} {result : ExpireResult}
    {progress : ExpireProgress}
    (executed :
      (expireOrder orderId).execute outcomes stores
          (.expireSeatLockAudit result) =
        some (after, progress)) :
    LoopServed result [] outcomes stores after := by
  cases outcomes with
  | nil => cases executed
  | cons outcome rest =>
      rcases AsyncFunction.execute_cases (expireOrder_ends orderId) executed
        with ⟨_, _, awaited⟩ | ⟨_, _, _, performed, _⟩
      · rcases AsyncFunction.await_cases awaited with
          ⟨resolved, performed, applies, _⟩ | ⟨idle, applies, _⟩
        · cases performed
          exact .settled applies rfl rfl
        · rw [idle]
          exact .unsettled [] applies rfl rfl
      · cases performed

/-- The loop that goes on behind the release of a seat. -/
theorem LoopServed.cons {result : ExpireResult} {seatId : SeatId}
    {rest : List SeatId}
    (served : LoopServed result rest outcomes
      { stores with
        redis :=
          releaseHold result.eventId seatId result.userId stores.redis }
      after) :
    LoopServed result (seatId :: rest) (.resolves :: outcomes) stores
      after := by
  cases served with
  | unsettled released unapplied rows redis =>
      exact .unsettled (seatId :: released) unapplied rows redis
  | settled applied rows redis =>
      have sameNow :
          Stores.now
              { stores with
                redis :=
                  releaseHold result.eventId seatId result.userId
                    stores.redis } =
            stores.now :=
        releaseHolds_now result.eventId result.userId [seatId] stores.redis
      rw [sameNow] at rows
      exact .settled applied rows redis

/-- The loop over the seats and the audit update, from any position. -/
theorem expireOrder_releasing {orderId : OrderId} {result : ExpireResult}
    {progress : ExpireProgress} (rest : List SeatId) :
    ∀ (position : Nat) (stores : Stores) (outcomes : List Await)
      (stage : ExpireStage),
      result.seatIds.drop position = rest →
      releaseFrom result position = .running stage →
      (expireOrder orderId).execute outcomes stores stage =
        some (after, progress) →
      LoopServed result rest outcomes stores after := by
  induction rest with
  | nil =>
      intro position stores outcomes stage dropped reached executed
      have beyond : ¬ position < result.seatIds.length :=
        not_lt.mpr (List.drop_eq_nil_iff.mp dropped)
      rw [releaseFrom, if_neg beyond] at reached
      cases reached
      exact expireOrder_auditing executed
  | cons seatId others inductionHypothesis =>
      intro position stores outcomes stage dropped reached executed
      obtain ⟨here, inside, remaining⟩ := drop_eq_cons dropped
      rw [releaseFrom, if_pos inside] at reached
      cases reached
      have resolves :
          (expireOrder orderId).resolve stores
              (.releaseHold result position) =
            some
              ({ stores with
                  redis :=
                    releaseHold result.eventId seatId result.userId
                      stores.redis },
                releaseFrom result (position + 1)) := by
        simp only [expireOrder, here]
      cases outcomes with
      | nil => cases executed
      | cons outcome later =>
          rcases AsyncFunction.execute_cases (expireOrder_ends orderId)
              executed with
            ⟨rfl, _, awaited⟩ | ⟨middle, next, rfl, performed, goesOn⟩
          · rcases AsyncFunction.await_cases awaited with
              ⟨resolved, performed, _⟩ | ⟨idle, _⟩
            · rw [resolves] at performed
              cases performed
              exact .unsettled [seatId] rfl rfl rfl
            · rw [idle]
              exact .unsettled [] rfl rfl rfl
          · rw [resolves, Option.some.injEq, Prod.mk.injEq] at performed
            obtain ⟨left, running⟩ := performed
            subst left
            exact (inductionHypothesis _ _ _ _ remaining running goesOn).cons

/-- What a whole `ExpireOrder` can do. -/
inductive ExpireServed (orderId : OrderId) (stores : Stores)
    (outcomes : List Await) (after : Stores) : Prop
  | unsettled (eventId : EventId) (userId : UserId) (released : List SeatId)
      (rows : after.seatLocks = stores.seatLocks)
      (redis : after.redis =
        releaseHolds eventId userId released stores.redis)
      (unapplied : ∀ order ∈ movedOrder orderId stores.orders,
        Await.appliesAt outcomes (order.seatIds.length + 2) = false)
  | settled (order : Order)
      (moved : movedOrder orderId stores.orders = some order)
      (applied :
        Await.appliesAt outcomes (order.seatIds.length + 2) = true)
      (rows : after.seatLocks =
        expireSeatLockAudit order.seatIds order.userId stores.now
          stores.seatLocks)
      (redis : after.redis =
        releaseHolds order.eventId order.userId order.seatIds stores.redis)

theorem expireOrder_served {orderId : OrderId} {progress : ExpireProgress}
    (executed :
      (expireOrder orderId).execute outcomes stores .markExpired =
        some (after, progress)) :
    ExpireServed orderId stores outcomes after := by
  cases outcomes with
  | nil => cases executed
  | cons marking rest =>
      rcases AsyncFunction.execute_cases (expireOrder_ends orderId) executed
        with ⟨rfl, _, awaited⟩ | ⟨marked, later, rfl, performed, goesOn⟩
      · rcases AsyncFunction.await_cases awaited with
          ⟨resolved, performed, _⟩ | ⟨idle, _⟩
        · cases performed
          exact .unsettled 0 0 [] rfl rfl fun _ _ => rfl
        · rw [idle]
          exact .unsettled 0 0 [] rfl rfl fun _ _ => rfl
      · cases performed
        cases rest with
        | nil => cases goesOn
        | cons finding others =>
            rcases AsyncFunction.execute_cases (expireOrder_ends orderId)
                goesOn with
              ⟨rfl, _, awaited⟩ | ⟨found, next, rfl, performed, releasing⟩
            · rcases AsyncFunction.await_cases awaited with
                ⟨resolved, performed, _⟩ | ⟨idle, _⟩
              · cases performed
                exact .unsettled 0 0 [] rfl rfl fun _ _ => rfl
              · rw [idle]
                exact .unsettled 0 0 [] rfl rfl fun _ _ => rfl
            · have way := orderFound_moved orderId stores.orders
              simp only [expireOrder, way, Option.some.injEq,
                Prod.mk.injEq] at performed
              obtain ⟨left, running⟩ := performed
              subst left
              cases moved : movedOrder orderId stores.orders with
              | none =>
                  rw [moved] at running
                  cases running
              | some order =>
                  rw [moved] at running
                  cases expireOrder_releasing order.seatIds 0 _ _ _ rfl
                    running releasing with
                  | unsettled released unapplied rows redis =>
                      refine .unsettled order.eventId order.userId released
                        rows redis ?_
                      intro other same
                      rw [moved] at same
                      cases same
                      exact unapplied
                  | settled applied rows redis =>
                      exact .settled order moved applied rows redis

theorem ExpireServed.sameNow {orderId : OrderId}
    (served : ExpireServed orderId stores outcomes after) :
    after.now = stores.now := by
  rw [Stores.now]
  cases served with
  | unsettled eventId userId released _ redis _ =>
      rw [redis, releaseHolds_now]
      rfl
  | settled order _ _ _ redis =>
      rw [redis, releaseHolds_now]
      rfl

/-! ## Runs of the system -/

namespace World

variable (world : World) (stores : Stores)

def withLock (input : LockSeatInput) (progress : LockProgress) : World :=
  { world with
    toStores := stores
    lockCalls := world.lockCalls ++ [⟨input, progress⟩] }

def withRelease (input : ReleaseInput)
    (progress : Progress ReleaseStage (Except ReleaseSeatError Unit)) :
    World :=
  { world with
    toStores := stores
    releaseCalls := world.releaseCalls ++ [⟨input, progress⟩] }

def withCreate (input : CreateOrderInput) (progress : CreateProgress) :
    World :=
  { world with
    toStores := stores
    createCalls := world.createCalls ++ [⟨input, progress⟩] }

def withExpire (request : ExpireRequest) (progress : ExpireProgress) :
    World :=
  { world with
    toStores := stores
    expireCalls := world.expireCalls ++ [⟨request, progress⟩] }

end World

section System

variable {world : World}

private theorem step_lockAwait_last (env : Environment) (world : World)
    (input : LockSeatInput) (stores : Stores) (stage : LockStage)
    (outcome : Await) :
    step env (world.withLock stores input (.running stage))
        (.lockAwait world.lockCalls.length outcome) =
      ((lockSeat env input).await stores stage outcome).map
        fun stepped => world.withLock stepped.1 input stepped.2 := by
  simp only [step, World.withLock, Call.advance_last, Option.map_map]
  rfl

private theorem step_releaseAwait_last (env : Environment) (world : World)
    (input : ReleaseInput) (stores : Stores) (stage : ReleaseStage)
    (outcome : Await) :
    step env (world.withRelease stores input (.running stage))
        (.releaseAwait world.releaseCalls.length outcome) =
      ((releaseSeat input).await stores stage outcome).map
        fun stepped => world.withRelease stepped.1 input stepped.2 := by
  simp only [step, World.withRelease, Call.advance_last, Option.map_map]
  rfl

private theorem step_expireAwait_last (env : Environment) (world : World)
    (request : ExpireRequest) (stores : Stores) (stage : ExpireStage)
    (outcome : Await) :
    step env (world.withExpire stores request (.running stage))
        (.expireAwait world.expireCalls.length outcome) =
      ((expireOrder request.orderId).await stores stage outcome).map
        fun stepped => world.withExpire stepped.1 request stepped.2 := by
  simp only [step, World.withExpire, Call.advance_last, Option.map_map]
  rfl

/-- The transactions of others matter to an insert alone. -/
theorem createOrder_await_congr (env : Environment) (input : CreateOrderInput)
    {uncommitted : List Order} {stage : CreateStage}
    (alone : ∀ data, stage = .insertOrder data → uncommitted = [])
    (stores : Stores) (outcome : Await) :
    (createOrder env uncommitted input).await stores stage outcome =
      (createOrder env [] input).await stores stage outcome := by
  cases stage with
  | insertOrder data => rw [alone data rfl]
  | _ => rfl

theorem AtRest.uncommitted (rest : AtRest world) : world.uncommitted = [] := by
  unfold World.uncommitted
  rw [List.filterMap_eq_nil_iff]
  intro call member
  have ended := rest.2.2.1 call member
  obtain ⟨input, progress⟩ := call
  cases progress with
  | running stage => cases ended
  | failed _ _ => rfl
  | stopped _ => rfl
  | finished _ => rfl

private theorem step_createAwait_last (env : Environment) (rest : AtRest world)
    (input : CreateOrderInput) (stores : Stores) (stage : CreateStage)
    (outcome : Await) :
    step env (world.withCreate stores input (.running stage))
        (.createAwait world.createCalls.length outcome) =
      ((createOrder env [] input).await stores stage outcome).map
        fun stepped => world.withCreate stepped.1 input stepped.2 := by
  have alone : ∀ data, stage = .insertOrder data →
      (world.withCreate stores input (.running stage)).uncommitted = [] := by
    rintro data rfl
    have others : world.createCalls.filterMap uncommittedRow = [] :=
      rest.uncommitted
    simp [World.uncommitted, World.withCreate, others, uncommittedRow]
  rw [← createOrder_await_congr env input alone]
  simp only [step, World.withCreate, Call.advance_last, Option.map_map]
  rfl

private theorem ended_append {ι σ ρ : Type} {calls : List (Call ι σ ρ)}
    (ended : ∀ call ∈ calls, call.progress.isRunning = false) (input : ι)
    {progress : Progress σ ρ} (done : progress.isRunning = false) :
    ∀ call ∈ calls ++ [⟨input, progress⟩],
      call.progress.isRunning = false := by
  intro call member
  rcases List.mem_append.mp member with old | new
  · exact ended call old
  · rw [List.mem_singleton.mp new]
    exact done

/-- A call arrives and runs to its end. -/
theorem run_of_call {σ ρ : Type} {function : AsyncFunction Stores σ ρ}
    {embed : Stores → Progress σ ρ → World} {act : Await → Action}
    {arrival : Action} {stage : σ} {progress : Progress σ ρ}
    (ends : ∀ stage applied,
      (function.reject stage applied).isRunning = false)
    (steps : ∀ stores stage outcome,
      step env (embed stores (.running stage)) (act outcome) =
        (function.await stores stage outcome).map
          fun stepped => embed stepped.1 stepped.2)
    (arrives : step env world arrival =
      some (embed world.toStores (.running stage)))
    (executed :
      function.execute outcomes world.toStores stage =
        some (after, progress)) :
    (∃ history, Trace (step env) world history (embed after progress)) ∧
      progress.isRunning = false := by
  obtain ⟨history, run⟩ :=
    AsyncFunction.run_of_execute ends steps executed
  exact ⟨⟨_, (Trace.nil.snoc arrives).append run⟩,
    AsyncFunction.execute_ended ends executed⟩

/-- A request that runs alone in a system at rest is a run of the system. -/
theorem run_of_serve (rest : AtRest world) {request : Request}
    (served : serve env world.toStores request = some after) :
    ∃ history next,
      Trace (step env) world history next ∧
      next.toStores = after ∧
      AtRest next := by
  have creating := step_createAwait_last env rest
  obtain ⟨locks, releases, creates, expires⟩ := rest
  cases request with
  | tick elapsed =>
      cases served
      have ticked : step env world (.tick elapsed) =
          some { world with redis := world.redis.tick elapsed } := rfl
      exact ⟨_, _, Trace.nil.snoc ticked, rfl, locks, releases, creates,
        expires⟩
  | lockSeat input outcomes =>
      obtain ⟨⟨reached, progress⟩, executed, rfl⟩ :=
        Option.map_eq_some_iff.mp served
      have arrives : step env world (.lockSeat input) =
          some (world.withLock world.toStores input (.running .acquire)) :=
        rfl
      obtain ⟨⟨history, run⟩, done⟩ := run_of_call (lockSeat_ends env input)
        (step_lockAwait_last env world input) arrives executed
      exact ⟨history, _, run, rfl, ended_append locks input done, releases,
        creates, expires⟩
  | releaseSeat input outcomes =>
      obtain ⟨⟨reached, progress⟩, executed, rfl⟩ :=
        Option.map_eq_some_iff.mp served
      have arrives : step env world (.releaseSeat input) =
          some (world.withRelease world.toStores input (.running .release)) :=
        rfl
      obtain ⟨⟨history, run⟩, done⟩ := run_of_call (releaseSeat_ends input)
        (step_releaseAwait_last env world input) arrives executed
      exact ⟨history, _, run, rfl, locks, ended_append releases input done,
        creates, expires⟩
  | createOrder input outcomes =>
      obtain ⟨⟨reached, progress⟩, executed, rfl⟩ :=
        Option.map_eq_some_iff.mp served
      have arrives : step env world (.createOrder input) =
          some
            (world.withCreate world.toStores input (.running .verifyHeld)) :=
        rfl
      obtain ⟨⟨history, run⟩, done⟩ := run_of_call
        (createOrder_ends env input) (creating input) arrives executed
      exact ⟨history, _, run, rfl, locks, releases,
        ended_append creates input done, expires⟩
  | expireOrder orderId outcomes =>
      obtain ⟨⟨reached, progress⟩, executed, rfl⟩ :=
        Option.map_eq_some_iff.mp served
      let request : ExpireRequest := ⟨orderId, .direct⟩
      have arrives : step env world (.expireOrder orderId) =
          some
            (world.withExpire world.toStores request
              (.running .markExpired)) := rfl
      obtain ⟨⟨history, run⟩, done⟩ := run_of_call
        (expireOrder_ends orderId) (step_expireAwait_last env world request)
        arrives executed
      exact ⟨history, _, run, rfl, locks, releases, creates,
        ended_append expires request done⟩

private theorem atRest_init (origin : Instant) : AtRest
    (World.init origin) := by
  refine ⟨?_, ?_, ?_, ?_⟩ <;> exact List.forall_mem_nil _

/-- A run of whole requests is a run of the system from rest to rest. -/
theorem run_of_requests {origin : Instant}
    {history : List (Stores × Request)} {stores : Stores}
    (run : Trace (serve env) (Stores.empty origin) history stores) :
    ∃ steps world,
      Trace (step env) (World.init origin) steps world ∧
      world.toStores = stores ∧
      AtRest world := by
  induction run with
  | nil =>
      exact ⟨[], World.init origin, .nil, rfl, atRest_init origin⟩
  | @snoc earlier before after request _ served inductionHypothesis =>
      obtain ⟨steps, world, systemRun, rfl, rest⟩ := inductionHypothesis
      obtain ⟨added, next, goesOn, left, restAfter⟩ :=
        run_of_serve rest served
      exact ⟨added ++ steps, next, systemRun.append goesOn, left, restAfter⟩

end System

end ConcertTicketing.Booking
