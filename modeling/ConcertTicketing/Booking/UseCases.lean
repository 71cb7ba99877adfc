import ConcertTicketing.Booking.Stores
import ConcertTicketing.Library.Await

/-!
# The booking use-cases

`LockSeatUseCase`, `ReleaseSeatUseCase`, `CreateOrderUseCase` and
`ExpireOrderUseCase`, stage by stage.  A stage carries the local variables
that are live across its `await`.  Reading the clock and the configuration is
part of the step that reaches the next `await`.

For each use-case an inductive relation says once what a resolved call can do.
-/

namespace ConcertTicketing.Booking

open SeatLock

/-! ## LockSeat -/

structure LockSeatInput where
  userId : UserId
  eventId : EventId
  seatId : SeatId
  deriving DecidableEq, Repr

structure LockSeatOutput where
  lockId : Option Nat
  seatId : SeatId
  expiresAt : Instant
  deriving DecidableEq, Repr

inductive SeatLockError where
  | seatTaken (seatId : SeatId)
  | ticketLimitReached (userId : UserId) (max : Int)
  deriving DecidableEq, Repr

/-- `recordAcquired` carries the `expiresAt` of the new entity. -/
inductive LockStage where
  | acquire
  | findActive
  | recordAcquired (expiresAt : Instant)
  deriving DecidableEq, Repr

abbrev LockProgress :=
  Progress LockStage (Except SeatLockError LockSeatOutput)

/-- `DEFAULT_TTL_SECONDS`, which no setting overrides. -/
def lockTtlSeconds : Int := 900

namespace LockSeatInput

def acquireInput (input : LockSeatInput) (env : Environment) :
    AcquireInput :=
  ⟨input.eventId, input.seatId, input.userId, lockTtlSeconds,
    env.maxSeatsPerUser⟩

end LockSeatInput

/-- `SeatLockEntity.newActive` at the given instant, up to `expiresAt`. -/
def newActive (now : Instant) : Instant := now + lockTtlSeconds * 1000

/-- How `execute` goes on with the answer of `acquire`. -/
def lockAnswered (env : Environment) (input : LockSeatInput)
    (now : Instant) : Except AcquireError AcquireResult → LockProgress
  | .error _ => .failed .acquire false
  | .ok .seatTaken => .finished (.error (.seatTaken input.seatId))
  | .ok .limit =>
      .finished (.error (.ticketLimitReached input.userId env.maxSeatsPerUser))
  | .ok .okRehold => .running .findActive
  | .ok .ok => .running (.recordAcquired (newActive now))

/-- `LockSeatUseCase.execute`.  The foreign key of `seat_locks` makes the
audit insert fail for a seat that does not exist, and a failed insert is only
logged. -/
def lockSeat (env : Environment) (input : LockSeatInput) :
    AsyncFunction Stores LockStage (Except SeatLockError LockSeatOutput) where
  resolve stores
    | .acquire =>
        let (answer, redis) :=
          acquire (input.acquireInput env) stores.redis
        some ({ stores with redis := redis },
          lockAnswered env input stores.now answer)
    | .findActive =>
        match findActive input.seatId input.userId stores.seatLocks with
        | some (row, lockId) =>
            some (stores,
              .finished (.ok ⟨some lockId, row.seatId, row.expiresAt⟩))
        | none =>
            some (stores, .running (.recordAcquired (newActive stores.now)))
    | .recordAcquired expiresAt =>
        if (env.seat input.seatId).isSome then
          some
            ({ stores with
                seatLocks :=
                  stores.seatLocks ++
                    [⟨input.seatId, input.userId, stores.now, expiresAt,
                      none, .active⟩] },
              .finished
                (.ok ⟨some stores.seatLocks.length, input.seatId, expiresAt⟩))
        else
          some (stores, .finished (.ok ⟨none, input.seatId, expiresAt⟩))
  reject
    | .recordAcquired expiresAt, _ =>
        .finished (.ok ⟨none, input.seatId, expiresAt⟩)
    | stage, applied => .failed stage applied

/-! ## ReleaseSeat -/

/-- The `ForbiddenException` of a release that the store refuses. -/
inductive ReleaseSeatError where
  | forbidden
  deriving DecidableEq, Repr

inductive ReleaseStage where
  | release
  | recordReleased
  deriving DecidableEq, Repr

/-- `ReleaseSeatUseCase.execute`. -/
def releaseSeat (input : ReleaseInput) :
    AsyncFunction Stores ReleaseStage (Except ReleaseSeatError Unit) where
  resolve stores
    | .release =>
        let (released, redis) := release input stores.redis
        some ({ stores with redis := redis },
          if released then .running .recordReleased
          else .finished (.error .forbidden))
    | .recordReleased =>
        some
          ({ stores with
              seatLocks :=
                recordReleased input.seatId input.userId stores.now
                  stores.seatLocks },
            .finished (.ok ()))
  reject
    | .recordReleased, _ => .finished (.ok ())
    | stage, applied => .failed stage applied

/-! ## CreateOrder -/

structure CreateOrderInput where
  userId : UserId
  eventId : EventId
  seatIds : List SeatId
  idempotencyKey : String
  deriving DecidableEq, Repr

structure CreateOrderOutput where
  order : OrderEntity
  replayed : Bool
  deriving DecidableEq, Repr

/-- `SeatHoldExpiredError` names the seats in its message; an
`OrderKeyConsumedError` without an order is the `('unknown', 'GONE')` one. -/
inductive OrderError where
  | seatHoldExpired (seatIds : List SeatId)
  | seatNotPriceable (seatId : SeatId)
  | orderKeyConsumed (existing : Option (OrderId × OrderStatus))
  deriving DecidableEq, Repr

/-- From `insertOrder` to `commit` the call is inside its transaction, and
the row it inserted is not visible to others. -/
inductive CreateStage where
  | verifyHeld
  | loadSeatPricing
  | insertOrder (data : CreateOrderData)
  | extendHold (row : Order)
  | commit (row : Order)
  | publishExpiration (row : Order)
  | findByIdempotencyKey
  deriving DecidableEq, Repr

abbrev CreateProgress :=
  Progress CreateStage (Except OrderError CreateOrderOutput)

namespace CreateOrderInput

def data (input : CreateOrderInput) (expiresAt : Instant)
    (items : List SeatPricing) : CreateOrderData :=
  ⟨input.userId, input.eventId, input.idempotencyKey, expiresAt, items⟩

/-- The argument of `SeatHoldExpiredError` after the first check. -/
def failedSeat (input : CreateOrderInput) (verify : VerifyHeldResult) :
    List SeatId :=
  (verify.failedSeatId.or input.seatIds.head?).toList

end CreateOrderInput

/-- `resolveReplay` after the query. -/
def resolveReplay : Option Order → Except OrderError CreateOrderOutput
  | none => .error (.orderKeyConsumed none)
  | some existing =>
      let order := toEntity existing
      if order.isPending then .ok ⟨order, true⟩
      else .error (.orderKeyConsumed (some (order.id, order.status)))

/-- `CreateOrderUseCase.execute` with `PrismaOrderAdapter.create`.
`uncommitted` are the rows of the transactions in flight: an insert that
collides with one of them waits for its outcome. -/
def createOrder (env : Environment) (uncommitted : List Order)
    (input : CreateOrderInput) :
    AsyncFunction Stores CreateStage
      (Except OrderError CreateOrderOutput) where
  resolve stores
    | .verifyHeld =>
        let verify :=
          verifyHeld input.eventId input.seatIds input.userId stores.redis
        some (stores,
          if verify.ok then .running .loadSeatPricing
          else .finished (.error (.seatHoldExpired (input.failedSeat verify))))
    | .loadSeatPricing =>
        match loadSeatPricing env input.eventId input.seatIds with
        | .error seatId =>
            some (stores, .finished (.error (.seatNotPriceable seatId)))
        | .ok pricing =>
            let expiresAt := stores.now + env.bookingWindowSeconds * 1000
            some (stores,
              .running (.insertOrder (input.data expiresAt pricing)))
    | .insertOrder data =>
        if ¬ Storable data.totalAmount then
          some (stores, .failed (.insertOrder data) false)
        else if
            uncommitted.any fun row =>
              SameKey data.userId data.idempotencyKey row then
          none
        else if
            (findByIdempotencyKey data.userId data.idempotencyKey
              stores.orders).isSome then
          -- `P2002`, turned into a `DuplicateOrderError`
          some (stores, .running .findByIdempotencyKey)
        else
          some ({ stores with nextOrderId := stores.nextOrderId + 1 },
            .running (.extendHold (data.toRow stores.nextOrderId)))
    | .extendHold row =>
        let (held, redis) :=
          extendHold input.eventId input.seatIds input.userId
            env.bookingWindowSeconds stores.redis
        some ({ stores with redis := redis },
          if held then .running (.commit row)
          else .finished (.error (.seatHoldExpired input.seatIds)))
    | .commit row =>
        some ({ stores with orders := stores.orders ++ [row] },
          .running (.publishExpiration row))
    | .publishExpiration row =>
        some
          ({ stores with
              broker := stores.broker.publishExpiration row.id stores.now },
            .finished (.ok ⟨toEntity row, false⟩))
    | .findByIdempotencyKey =>
        some (stores,
          .finished
            (resolveReplay
              (findByIdempotencyKey input.userId input.idempotencyKey
                stores.orders)))
  reject stage applied := .failed stage applied

/-! ## ExpireOrder -/

/-- What `markExpiredIfPending` returns for an order that exists. -/
structure ExpireResult where
  changed : Bool
  userId : UserId
  eventId : EventId
  seatIds : List SeatId
  deriving DecidableEq, Repr

/-- `releaseHold` carries the loop's position in `seatIds`. -/
inductive ExpireStage where
  | markExpired
  | findOrder (changed : Bool)
  | releaseHold (result : ExpireResult) (position : Nat)
  | expireSeatLockAudit (result : ExpireResult)
  deriving DecidableEq, Repr

abbrev ExpireProgress := Progress ExpireStage Unit

/-- The loop over the seats at the given position. -/
def releaseFrom (result : ExpireResult) (position : Nat) : ExpireProgress :=
  if position < result.seatIds.length then
    .running (.releaseHold result position)
  else .running (.expireSeatLockAudit result)

/-- How `execute` goes on with the row that `findUnique` returned. -/
def orderFound (changed : Bool) : Option Order → ExpireProgress
  | none => .finished ()
  | some order =>
      if changed then
        releaseFrom ⟨true, order.userId, order.eventId, order.seatIds⟩ 0
      else .finished ()

/-- `ExpireOrderUseCase.execute` with
`PrismaOrderAdapter.markExpiredIfPending`. -/
def expireOrder (orderId : OrderId) :
    AsyncFunction Stores ExpireStage Unit where
  resolve stores
    | .markExpired =>
        some
          ({ stores with
              orders := stores.orders.map (expireIfPending orderId) },
            .running
              (.findOrder (decide (pendingCount orderId stores.orders = 1))))
    | .findOrder changed =>
        some (stores, orderFound changed (findOrder orderId stores.orders))
    | .releaseHold result position =>
        match result.seatIds[position]? with
        | none => none
        | some seatId =>
            some
              ({ stores with
                  redis :=
                    releaseHold result.eventId seatId result.userId
                      stores.redis },
                releaseFrom result (position + 1))
    | .expireSeatLockAudit result =>
        some
          ({ stores with
              seatLocks :=
                expireSeatLockAudit result.seatIds result.userId stores.now
                  stores.seatLocks },
            .finished ())
  reject stage applied := .failed stage applied

/-! ## What a resolved call can do -/

inductive LockResolved (env : Environment) (input : LockSeatInput)
    (stores : Stores) : LockStage → Stores → LockProgress → Prop
  | answered (answer : Except AcquireError AcquireResult)
      (redis : SeatStore)
      (acquired :
        acquire (input.acquireInput env) stores.redis = (answer, redis)) :
      LockResolved env input stores .acquire
        { stores with redis := redis }
        (lockAnswered env input stores.now answer)
  | found (row : SeatLockRow) (lockId : Nat)
      (active :
        findActive input.seatId input.userId stores.seatLocks =
          some (row, lockId)) :
      LockResolved env input stores .findActive stores
        (.finished (.ok ⟨some lockId, row.seatId, row.expiresAt⟩))
  | notFound
      (missing :
        findActive input.seatId input.userId stores.seatLocks = none) :
      LockResolved env input stores .findActive stores
        (.running (.recordAcquired (newActive stores.now)))
  | recorded (expiresAt : Instant)
      (known : (env.seat input.seatId).isSome) :
      LockResolved env input stores (.recordAcquired expiresAt)
        { stores with
          seatLocks :=
            stores.seatLocks ++
              [⟨input.seatId, input.userId, stores.now, expiresAt, none,
                .active⟩] }
        (.finished
          (.ok ⟨some stores.seatLocks.length, input.seatId, expiresAt⟩))
  | unrecorded (expiresAt : Instant)
      (unknown : ¬ (env.seat input.seatId).isSome) :
      LockResolved env input stores (.recordAcquired expiresAt) stores
        (.finished (.ok ⟨none, input.seatId, expiresAt⟩))

theorem lockSeat_resolved {env : Environment} {input : LockSeatInput}
    {stores after : Stores} {stage : LockStage} {progress : LockProgress}
    (resolved :
      (lockSeat env input).resolve stores stage = some (after, progress)) :
    LockResolved env input stores stage after progress := by
  cases stage with
  | acquire =>
      cases resolved
      exact .answered _ _ rfl
  | findActive =>
      simp only [lockSeat] at resolved
      split at resolved
      · next row lockId active =>
          cases resolved
          exact .found row lockId active
      · next missing =>
          cases resolved
          exact .notFound missing
  | recordAcquired expiresAt =>
      simp only [lockSeat] at resolved
      split at resolved
      · next known =>
          cases resolved
          exact .recorded expiresAt known
      · next unknown =>
          cases resolved
          exact .unrecorded expiresAt unknown

inductive ReleaseResolved (input : ReleaseInput) (stores : Stores) :
    ReleaseStage → Stores →
      Progress ReleaseStage (Except ReleaseSeatError Unit) → Prop
  | released (held :
      holder stores.redis input.eventId input.seatId = some input.userId) :
      ReleaseResolved input stores .release
        { stores with
          redis :=
            dropped input.eventId input.seatId input.userId stores.redis }
        (.running .recordReleased)
  | refused (notHeld :
      holder stores.redis input.eventId input.seatId ≠ some input.userId) :
      ReleaseResolved input stores .release stores
        (.finished (.error .forbidden))
  | recorded :
      ReleaseResolved input stores .recordReleased
        { stores with
          seatLocks :=
            recordReleased input.seatId input.userId stores.now
              stores.seatLocks }
        (.finished (.ok ()))

theorem releaseSeat_resolved {input : ReleaseInput} {stores after : Stores}
    {stage : ReleaseStage}
    {progress : Progress ReleaseStage (Except ReleaseSeatError Unit)}
    (resolved :
      (releaseSeat input).resolve stores stage = some (after, progress)) :
    ReleaseResolved input stores stage after progress := by
  cases stage with
  | release =>
      simp only [releaseSeat, release_eq] at resolved
      by_cases held :
          holder stores.redis input.eventId input.seatId = some input.userId
      · rw [if_pos held] at resolved
        cases resolved
        exact .released held
      · rw [if_neg held] at resolved
        cases resolved
        exact .refused held
  | recordReleased =>
      cases resolved
      exact .recorded

inductive CreateResolved (env : Environment) (uncommitted : List Order)
    (input : CreateOrderInput) (stores : Stores) :
    CreateStage → Stores → CreateProgress → Prop
  | verified
      (held :
        AllHeld stores.redis input.eventId input.seatIds input.userId) :
      CreateResolved env uncommitted input stores .verifyHeld stores
        (.running .loadSeatPricing)
  | notHeld (seatIds : List SeatId)
      (lost :
        ¬ AllHeld stores.redis input.eventId input.seatIds input.userId) :
      CreateResolved env uncommitted input stores .verifyHeld stores
        (.finished (.error (.seatHoldExpired seatIds)))
  | priced (pricing : List SeatPricing)
      (loaded :
        loadSeatPricing env input.eventId input.seatIds = .ok pricing) :
      CreateResolved env uncommitted input stores .loadSeatPricing stores
        (.running
          (.insertOrder
            (input.data (stores.now + env.bookingWindowSeconds * 1000)
              pricing)))
  | notPriceable (seatId : SeatId)
      (refused :
        loadSeatPricing env input.eventId input.seatIds = .error seatId) :
      CreateResolved env uncommitted input stores .loadSeatPricing stores
        (.finished (.error (.seatNotPriceable seatId)))
  | notStorable (data : CreateOrderData)
      (overflow : ¬ Storable data.totalAmount) :
      CreateResolved env uncommitted input stores (.insertOrder data) stores
        (.failed (.insertOrder data) false)
  | duplicate (data : CreateOrderData)
      (taken :
        (findByIdempotencyKey data.userId data.idempotencyKey
          stores.orders).isSome) :
      CreateResolved env uncommitted input stores (.insertOrder data) stores
        (.running .findByIdempotencyKey)
  | inserted (data : CreateOrderData)
      (storable : Storable data.totalAmount)
      (alone : ∀ row ∈ uncommitted,
        ¬ SameKey data.userId data.idempotencyKey row)
      (fresh :
        findByIdempotencyKey data.userId data.idempotencyKey
          stores.orders = none) :
      CreateResolved env uncommitted input stores (.insertOrder data)
        { stores with nextOrderId := stores.nextOrderId + 1 }
        (.running (.extendHold (data.toRow stores.nextOrderId)))
  | extended (row : Order)
      (held :
        AllHeld stores.redis input.eventId input.seatIds input.userId) :
      CreateResolved env uncommitted input stores (.extendHold row)
        { stores with
          redis :=
            SeatLock.extended input.eventId input.seatIds
              env.bookingWindowSeconds stores.redis }
        (.running (.commit row))
  | rolledBack (row : Order)
      (lost :
        ¬ AllHeld stores.redis input.eventId input.seatIds input.userId) :
      CreateResolved env uncommitted input stores (.extendHold row) stores
        (.finished (.error (.seatHoldExpired input.seatIds)))
  | committed (row : Order) :
      CreateResolved env uncommitted input stores (.commit row)
        { stores with orders := stores.orders ++ [row] }
        (.running (.publishExpiration row))
  | published (row : Order) :
      CreateResolved env uncommitted input stores (.publishExpiration row)
        { stores with
          broker := stores.broker.publishExpiration row.id stores.now }
        (.finished (.ok ⟨toEntity row, false⟩))
  | replayed :
      CreateResolved env uncommitted input stores .findByIdempotencyKey
        stores
        (.finished
          (resolveReplay
            (findByIdempotencyKey input.userId input.idempotencyKey
              stores.orders)))

theorem createOrder_resolved {env : Environment} {uncommitted : List Order}
    {input : CreateOrderInput} {stores after : Stores} {stage : CreateStage}
    {progress : CreateProgress}
    (resolved :
      (createOrder env uncommitted input).resolve stores stage =
        some (after, progress)) :
    CreateResolved env uncommitted input stores stage after progress := by
  cases stage with
  | verifyHeld =>
      have verified :=
        verifyHeld_ok_iff stores.redis input.eventId input.seatIds
          input.userId
      cases resolved
      by_cases held :
          AllHeld stores.redis input.eventId input.seatIds input.userId
      · rw [if_pos (verified.mpr held)]
        exact .verified held
      · rw [if_neg (mt verified.mp held)]
        exact .notHeld _ held
  | loadSeatPricing =>
      simp only [createOrder] at resolved
      split at resolved
      · next seatId refused =>
          cases resolved
          exact .notPriceable seatId refused
      · next pricing loaded =>
          cases resolved
          exact .priced pricing loaded
  | insertOrder data =>
      simp only [createOrder] at resolved
      by_cases storable : Storable data.totalAmount
      · rw [if_neg (not_not.mpr storable)] at resolved
        split at resolved
        · cases resolved
        · next alone =>
            split at resolved
            · next taken =>
                cases resolved
                exact .duplicate data taken
            · next fresh =>
                cases resolved
                refine .inserted data storable ?_ (by simpa using fresh)
                intro row member sameKey
                exact alone
                  (List.any_eq_true.mpr
                    ⟨row, member, decide_eq_true sameKey⟩)
      · rw [if_pos storable] at resolved
        cases resolved
        exact .notStorable data storable
  | extendHold row =>
      simp only [createOrder, extendHold_eq] at resolved
      by_cases held :
          AllHeld stores.redis input.eventId input.seatIds input.userId
      · rw [if_pos held] at resolved
        cases resolved
        exact .extended row held
      · rw [if_neg held] at resolved
        cases resolved
        exact .rolledBack row held
  | commit row =>
      cases resolved
      exact .committed row
  | publishExpiration row =>
      cases resolved
      exact .published row
  | findByIdempotencyKey =>
      cases resolved
      exact .replayed

/-- A step of `createOrder` resolves or ends it in its stage. -/
theorem createOrder_await {env : Environment} {uncommitted : List Order}
    {input : CreateOrderInput} {stores after : Stores} {stage : CreateStage}
    {outcome : Await} {progress : CreateProgress}
    (awaited :
      (createOrder env uncommitted input).await stores stage outcome =
        some (after, progress)) :
    (outcome = .resolves ∧
      CreateResolved env uncommitted input stores stage after progress) ∨
    progress = .failed stage outcome.Applies ∨
    progress = .stopped stage := by
  rcases AsyncFunction.resolves_or_ends (fun _ => rfl) awaited with
    ⟨resolves, performed⟩ | ended
  · exact Or.inl ⟨resolves, createOrder_resolved performed⟩
  · exact Or.inr ended

theorem resolveReplay_ok {found : Option Order} {output : CreateOrderOutput}
    (replayed : resolveReplay found = .ok output) :
    ∃ order, found = some order ∧ order.status = .pending ∧
      output = ⟨toEntity order, true⟩ := by
  cases found with
  | none => cases replayed
  | some order =>
      by_cases pending : (toEntity order).isPending = true
      · simp only [resolveReplay, if_pos pending] at replayed
        cases replayed
        exact ⟨order, rfl, of_decide_eq_true pending, rfl⟩
      · simp only [resolveReplay, if_neg pending] at replayed
        cases replayed

theorem resolveReplay_some_ne_gone (existing : Order) :
    resolveReplay (some existing) ≠ .error (.orderKeyConsumed none) := by
  by_cases pending : (toEntity existing).isPending = true <;>
    simp [resolveReplay, pending]

inductive ExpireResolved (orderId : OrderId) (stores : Stores) :
    ExpireStage → Stores → ExpireProgress → Prop
  | marked :
      ExpireResolved orderId stores .markExpired
        { stores with orders := stores.orders.map (expireIfPending orderId) }
        (.running
          (.findOrder (decide (pendingCount orderId stores.orders = 1))))
  | read (changed : Bool) :
      ExpireResolved orderId stores (.findOrder changed) stores
        (orderFound changed (findOrder orderId stores.orders))
  | released (result : ExpireResult) (position : Nat) (seatId : SeatId)
      (here : result.seatIds[position]? = some seatId) :
      ExpireResolved orderId stores (.releaseHold result position)
        { stores with
          redis :=
            releaseHold result.eventId seatId result.userId stores.redis }
        (releaseFrom result (position + 1))
  | settled (result : ExpireResult) :
      ExpireResolved orderId stores (.expireSeatLockAudit result)
        { stores with
          seatLocks :=
            expireSeatLockAudit result.seatIds result.userId stores.now
              stores.seatLocks }
        (.finished ())

theorem expireOrder_resolved {orderId : OrderId} {stores after : Stores}
    {stage : ExpireStage} {progress : ExpireProgress}
    (resolved :
      (expireOrder orderId).resolve stores stage = some (after, progress)) :
    ExpireResolved orderId stores stage after progress := by
  cases stage with
  | markExpired =>
      cases resolved
      exact .marked
  | findOrder changed =>
      cases resolved
      exact .read changed
  | releaseHold result position =>
      simp only [expireOrder] at resolved
      split at resolved
      · cases resolved
      · next seatId here =>
          cases resolved
          exact .released result position seatId here
  | expireSeatLockAudit result =>
      cases resolved
      exact .settled result

/-- A step of `expireOrder` resolves or ends it in its stage. -/
theorem expireOrder_await {orderId : OrderId} {stores after : Stores}
    {stage : ExpireStage} {outcome : Await} {progress : ExpireProgress}
    (awaited :
      (expireOrder orderId).await stores stage outcome =
        some (after, progress)) :
    (outcome = .resolves ∧
      ExpireResolved orderId stores stage after progress) ∨
    progress = .failed stage outcome.Applies ∨
    progress = .stopped stage := by
  rcases AsyncFunction.resolves_or_ends (fun _ => rfl) awaited with
    ⟨resolves, performed⟩ | ended
  · exact Or.inl ⟨resolves, expireOrder_resolved performed⟩
  · exact Or.inr ended

end ConcertTicketing.Booking
