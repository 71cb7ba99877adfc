import ConcertTicketing.Booking.LatestRow
import ConcertTicketing.Booking.Requests

/-!
# The expiry that a hold shows

`LockSeat` takes the `expiresAt` that it returns from the clock or from the
latest `ACTIVE` row of the seat and the user.  The lock itself lapses at the
deadline of its key, which `CreateOrder` moves.  When requests run one at a
time, a returned `expiresAt` is that deadline in every state of a run exactly
if no step sets the two apart.
-/

namespace ConcertTicketing.Booking

open SeatLock Redis

/-- When the lock of the seat lapses if nothing else happens. -/
def lapsesAt (stores : Stores) (eventId : EventId) (seatId : SeatId) :
    Option Instant :=
  (lockEntry stores.redis eventId seatId).bind Entry.expireAt

/-- Every `LockSeat` that returns from here returns the instant at which the
lock of its seat lapses. -/
def ShowsRealExpiry (env : Environment) (stores : Stores) : Prop :=
  ∀ input outcomes after output,
    (lockSeat env input).execute outcomes stores .acquire =
      some (after, .finished (.ok output)) →
    lapsesAt after input.eventId input.seatId = some output.expiresAt

/-- The locks of the seat that the user has under other events were taken in
this instant. -/
def OthersTakenNow (stores : Stores) (eventId : EventId) (seatId : SeatId)
    (userId : UserId) : Prop :=
  ∀ other entry,
    other ≠ eventId →
    lockEntry stores.redis other seatId = some entry →
    entry.value = userId →
    entry.expireAt = some (newActive stores.now)

/-- Time passes only over locks that have an `ACTIVE` row. -/
def PassesOverAudited (stores : Stores) (elapsed : Nat) : Prop :=
  0 < elapsed →
    ∀ eventId seatId userId,
      holder (stores.redis.tick elapsed) eventId seatId = some userId →
      (findActive seatId userId stores.seatLocks).isSome

/-- The row of a first hold is inserted and stands for that hold alone, or it
is not inserted and no row of an earlier hold is taken for it. -/
def TakesWithRow (env : Environment) (stores : Stores)
    (input : LockSeatInput) (outcomes : List Await) : Prop :=
  TakesSeat env stores input → Await.appliesAt outcomes 0 = true →
    if Await.appliesAt outcomes 1 = true ∧ (env.seat input.seatId).isSome then
      OthersTakenNow stores input.eventId input.seatId input.userId
    else
      ∀ active ∈ findActive input.seatId input.userId stores.seatLocks,
        active.1.expiresAt = newActive stores.now

/-- A release that is recorded closes no row of a lock that goes on. -/
def ReleasesWithRow (stores : Stores) (input : ReleaseInput)
    (outcomes : List Await) : Prop :=
  holder stores.redis input.eventId input.seatId = some input.userId →
  Await.appliesAt outcomes 1 = true →
    OthersTakenNow stores input.eventId input.seatId input.userId

/-- An extension leaves the locks with the deadlines that they have. -/
def ExtendsToDeadline (env : Environment) (stores : Stores)
    (input : CreateOrderInput) (outcomes : List Await) : Prop :=
  0 < env.bookingWindowSeconds →
  ReachesExtension env stores input outcomes →
    ∀ seatId ∈ input.seatIds,
      lapsesAt stores input.eventId seatId =
        some (stores.now + env.bookingWindowSeconds * 1000)

/-- An expiry that settles its rows closes none of a lock that goes on. -/
def ExpiresWithRow (stores : Stores) (orderId : OrderId)
    (outcomes : List Await) : Prop :=
  ∀ order ∈ movedOrder orderId stores.orders,
    Await.appliesAt outcomes (order.seatIds.length + 2) = true →
    ∀ seatId ∈ order.seatIds,
      OthersTakenNow stores order.eventId seatId order.userId

/-- The step sets no lock apart from the row that shows its expiry. -/
def KeepsRowsInLine (env : Environment) (stores : Stores) : Request → Prop
  | .tick elapsed => PassesOverAudited stores elapsed
  | .lockSeat input outcomes => TakesWithRow env stores input outcomes
  | .releaseSeat input outcomes => ReleasesWithRow stores input outcomes
  | .createOrder input outcomes =>
      ExtendsToDeadline env stores input outcomes
  | .expireOrder orderId outcomes => ExpiresWithRow stores orderId outcomes

/-- The `expiresAt` that the user would be told of a seat they hold. -/
def shownExpiry (stores : Stores) (seatId : SeatId) (userId : UserId) :
    Instant :=
  match findActive seatId userId stores.seatLocks with
  | some active => active.1.expiresAt
  | none => newActive stores.now

/-- Every live lock lapses when its user would be told. -/
def RowsInLine (stores : Stores) : Prop :=
  ∀ eventId seatId entry,
    lockEntry stores.redis eventId seatId = some entry →
    entry.expireAt = some (shownExpiry stores seatId entry.value)

/-- No row was locked in the future. -/
def LockedInPast (stores : Stores) : Prop :=
  ∀ row ∈ stores.seatLocks, row.lockedAt ≤ stores.now

private theorem shownExpiry_of_found {stores : Stores} {seatId : SeatId}
    {userId : UserId} {active : SeatLockRow × Nat}
    (found : findActive seatId userId stores.seatLocks = some active) :
    shownExpiry stores seatId userId = active.1.expiresAt := by
  rw [shownExpiry, found]

private theorem shownExpiry_of_missing {stores : Stores} {seatId : SeatId}
    {userId : UserId}
    (missing : findActive seatId userId stores.seatLocks = none) :
    shownExpiry stores seatId userId = newActive stores.now := by
  rw [shownExpiry, missing]

private theorem shownExpiry_congr {stores after : Stores} {seatId : SeatId}
    {userId : UserId} (sameNow : after.now = stores.now)
    (sameRow : findActive seatId userId after.seatLocks =
      findActive seatId userId stores.seatLocks) :
    shownExpiry after seatId userId = shownExpiry stores seatId userId := by
  rw [shownExpiry, shownExpiry, sameNow, sameRow]

section Steps

variable {env : Environment} {stores after : Stores} {outcomes : List Await}

/-- Locks may go as long as the rows stay. -/
theorem RowsInLine.of_subset (inLine : RowsInLine stores)
    (sameNow : after.now = stores.now)
    (sameRows : after.seatLocks = stores.seatLocks)
    (kept : ∀ eventId seatId entry,
      lockEntry after.redis eventId seatId = some entry →
      lockEntry stores.redis eventId seatId = some entry) :
    RowsInLine after := by
  intro eventId seatId entry found
  rw [shownExpiry_congr sameNow (by rw [sameRows])]
  exact inLine eventId seatId entry (kept eventId seatId entry found)

/-- Rows of seats that the user has given up under one event are settled. -/
theorem RowsInLine.settled_iff (inLine : RowsInLine stores)
    {eventId : EventId} {seatIds : List SeatId} {userId : UserId}
    (sameNow : after.now = stores.now)
    (rows : ∀ seatId other,
      findActive seatId other after.seatLocks =
        if seatId ∈ seatIds ∧ other = userId then none
        else findActive seatId other stores.seatLocks)
    (gone : ∀ seatId ∈ seatIds,
      holder after.redis eventId seatId ≠ some userId)
    (kept : ∀ other seatId entry,
      lockEntry after.redis other seatId = some entry →
      lockEntry stores.redis other seatId = some entry)
    (elsewhere : ∀ other seatId, other ≠ eventId →
      lockEntry after.redis other seatId =
        lockEntry stores.redis other seatId) :
    RowsInLine after ↔
      ∀ seatId ∈ seatIds, OthersTakenNow stores eventId seatId userId := by
  have shownSettled : ∀ seatId ∈ seatIds,
      shownExpiry after seatId userId = newActive stores.now := by
    intro seatId member
    have missing : findActive seatId userId after.seatLocks = none := by
      rw [rows, if_pos ⟨member, rfl⟩]
    rw [shownExpiry_of_missing missing, sameNow]
  constructor
  · intro inLineAfter seatId member other entry different found owned
    rw [← elsewhere other seatId different] at found
    have shown := inLineAfter other seatId entry found
    rw [owned, shownSettled seatId member] at shown
    exact shown
  · intro taken other seatId entry found
    by_cases settled : seatId ∈ seatIds ∧ entry.value = userId
    · obtain ⟨member, owned⟩ := settled
      have different : other ≠ eventId := by
        rintro rfl
        apply gone seatId member
        rw [holder_eq, found, Option.map_some, owned]
      rw [owned, shownSettled seatId member]
      exact taken seatId member other entry different
        (kept other seatId entry found) owned
    · have sameRow : findActive seatId entry.value after.seatLocks =
          findActive seatId entry.value stores.seatLocks := by
        rw [rows, if_neg settled]
      rw [shownExpiry_congr sameNow sameRow]
      exact inLine other seatId entry (kept other seatId entry found)

private theorem newActive_ne_later {now : Int} {elapsed : Nat}
    (passes : 0 < elapsed) : newActive now ≠ newActive (now + elapsed) := by
  intro same
  have sums : now + 900 * 1000 = now + elapsed + 900 * 1000 := same
  omega

private theorem RowsInLine.tick_iff (inLine : RowsInLine stores)
    (elapsed : Nat) :
    RowsInLine { stores with redis := stores.redis.tick elapsed } ↔
      PassesOverAudited stores elapsed := by
  let next : Stores := { stores with redis := stores.redis.tick elapsed }
  have clock : next.now = stores.now + elapsed := rfl
  have kept : ∀ eventId seatId entry,
      lockEntry next.redis eventId seatId = some entry →
      entry.expireAt = some (shownExpiry stores seatId entry.value) := by
    intro eventId seatId entry found
    have ticked := lockEntry_tick stores.redis elapsed eventId seatId
    rw [found] at ticked
    exact inLine eventId seatId entry
      (Option.filter_eq_some_iff.mp ticked.symm).1
  constructor
  · intro inLineAfter passes eventId seatId userId held
    obtain ⟨entry, found, owned⟩ := holder_eq_some_iff.mp held
    by_contra unaudited
    have missing : findActive seatId userId stores.seatLocks = none :=
      Option.not_isSome_iff_eq_none.mp unaudited
    have missingAfter : findActive seatId userId next.seatLocks = none :=
      missing
    have before := kept eventId seatId entry found
    have later := inLineAfter eventId seatId entry found
    rw [owned, shownExpiry_of_missing missing] at before
    rw [owned, shownExpiry_of_missing missingAfter, before] at later
    exact newActive_ne_later passes (Option.some.inj later)
  · intro audited eventId seatId entry found
    rw [kept eventId seatId entry found]
    by_cases passes : 0 < elapsed
    · have held : holder next.redis eventId seatId = some entry.value := by
        rw [holder_eq, found, Option.map_some]
      obtain ⟨active, row⟩ := Option.isSome_iff_exists.mp
        (audited passes eventId seatId entry.value held)
      have rowAfter : findActive seatId entry.value next.seatLocks =
          some active := row
      rw [shownExpiry_of_found row, shownExpiry_of_found rowAfter]
    · have still : elapsed = 0 := Nat.eq_zero_of_not_pos passes
      have sameNow : next.now = stores.now := by
        rw [clock, still]
        exact Int.add_zero stores.now
      rw [← shownExpiry_congr sameNow rfl]

/-- A new row shows its expiry for its seat and user and nothing else. -/
theorem shownExpiry_withRow (past : LockedInPast stores)
    (input : LockSeatInput) (seatId : SeatId) (userId : UserId) :
    shownExpiry (withRow input stores) seatId userId =
      if seatId = input.seatId ∧ userId = input.userId then
        newActive stores.now
      else shownExpiry stores seatId userId := by
  by_cases same : seatId = input.seatId ∧ userId = input.userId
  · obtain ⟨rfl, rfl⟩ := same
    rw [if_pos ⟨rfl, rfl⟩]
    let row : SeatLockRow :=
      ⟨input.seatId, input.userId, stores.now, newActive stores.now, none,
        .active⟩
    have latest : findActive row.seatId row.userId
        (stores.seatLocks ++ [row]) = some (row, stores.seatLocks.length) :=
      findActive_append_latest rfl past
    have found : findActive input.seatId input.userId
        (withRow input stores).seatLocks =
          some (row, stores.seatLocks.length) := latest
    rw [shownExpiry_of_found found]
  · rw [if_neg same]
    have sameNow : (withRow input stores).now = stores.now := rfl
    apply shownExpiry_congr sameNow
    apply findActive_append_other
    rintro ⟨sameSeat, sameUser⟩
    exact same ⟨sameSeat.symm, sameUser.symm⟩

/-- The row that a re-hold adds shows what the re-hold would have shown
without it. -/
theorem RowsInLine.reheld (inLine : RowsInLine stores)
    (past : LockedInPast stores) {input : LockSeatInput}
    (missing :
      findActive input.seatId input.userId stores.seatLocks = none) :
    RowsInLine (withRow input stores) := by
  intro eventId seatId entry found
  have before := inLine eventId seatId entry found
  rw [shownExpiry_withRow past]
  split
  · next same =>
      obtain ⟨sameSeat, sameUser⟩ := same
      rw [sameSeat, sameUser, shownExpiry_of_missing missing] at before
      exact before
  · exact before

/-- A seat is taken and its row is inserted. -/
theorem RowsInLine.recorded_iff (inLine : RowsInLine stores)
    (past : LockedInPast stores) (input : LockSeatInput) :
    RowsInLine
        (withRow input
          { stores with
            redis := granted (input.acquireInput env) stores.redis }) ↔
      OthersTakenNow stores input.eventId input.seatId input.userId := by
  let locked : Stores :=
    { stores with redis := granted (input.acquireInput env) stores.redis }
  have locks := lockEntry_taken env input stores.redis
  have pastLocked : LockedInPast locked := past
  have shown := shownExpiry_withRow pastLocked input
  constructor
  · intro inLineAfter other entry different found owned
    have elsewhere : ¬ (other = input.eventId ∧
        input.seatId = input.seatId) := fun same => different same.1
    have foundAfter := locks other input.seatId
    rw [if_neg elsewhere, found] at foundAfter
    have later := inLineAfter other input.seatId entry foundAfter
    rw [shown, if_pos ⟨rfl, owned⟩] at later
    exact later
  · intro taken eventId seatId entry found
    have before := (locks eventId seatId).symm.trans found
    rw [shown]
    by_cases here : eventId = input.eventId ∧ seatId = input.seatId
    · rw [if_pos here] at before
      cases before
      rw [if_pos ⟨here.2, rfl⟩]
      rfl
    · rw [if_neg here] at before
      by_cases own : seatId = input.seatId ∧ entry.value = input.userId
      · obtain ⟨rfl, owned⟩ := own
        have different : eventId ≠ input.eventId :=
          fun same => here ⟨same, rfl⟩
        rw [if_pos ⟨rfl, owned⟩]
        exact taken eventId entry different before owned
      · rw [if_neg own]
        exact inLine eventId seatId entry before

/-- A seat is taken without a row. -/
theorem RowsInLine.unrecorded_iff (inLine : RowsInLine stores)
    (input : LockSeatInput) :
    RowsInLine
        { stores with
          redis := granted (input.acquireInput env) stores.redis } ↔
      ∀ active ∈ findActive input.seatId input.userId stores.seatLocks,
        active.1.expiresAt = newActive stores.now := by
  let locked : Stores :=
    { stores with redis := granted (input.acquireInput env) stores.redis }
  have locks := lockEntry_taken env input stores.redis
  have shown : ∀ seatId userId,
      shownExpiry locked seatId userId = shownExpiry stores seatId userId :=
    fun _ _ => shownExpiry_congr rfl rfl
  constructor
  · intro inLineAfter active row
    have here := locks input.eventId input.seatId
    rw [if_pos ⟨rfl, rfl⟩] at here
    have told := inLineAfter input.eventId input.seatId _ here
    rw [shown, shownExpiry_of_found row] at told
    exact (Option.some.inj told).symm
  · intro stale eventId seatId entry found
    have before := (locks eventId seatId).symm.trans found
    rw [shown]
    by_cases here : eventId = input.eventId ∧ seatId = input.seatId
    · rw [if_pos here] at before
      cases before
      rw [here.2]
      cases row : findActive input.seatId input.userId
          stores.seatLocks with
      | none => rw [shownExpiry_of_missing row]; rfl
      | some active =>
          rw [shownExpiry_of_found row, stale active row]
          rfl
    · rw [if_neg here] at before
      exact inLine eventId seatId entry before

private theorem RowsInLine.lockSeat_iff (inLine : RowsInLine stores)
    (past : LockedInPast stores) {input : LockSeatInput}
    {progress : LockProgress}
    (served : LockServed env input stores outcomes after progress) :
    RowsInLine after ↔ TakesWithRow env stores input outcomes := by
  cases served with
  | refused _ _ idle =>
      refine iff_of_true inLine ?_
      intro takes applies
      rw [idle takes] at applies
      cases applies
  | shown row lockId held _ =>
      refine iff_of_true inLine ?_
      rintro ⟨free, _⟩
      rw [held] at free
      cases free
  | reheld _ recorded held missing _ =>
      have kept : RowsInLine
          (if recorded then withRow input stores else stores) := by
        split
        · exact inLine.reheld past missing
        · exact inLine
      refine iff_of_true kept ?_
      rintro ⟨free, _⟩
      rw [held] at free
      cases free
  | taken _ takes applies _ =>
      unfold TakesWithRow
      simp only [takes, applies, true_implies]
      split
      · exact inLine.recorded_iff past input
      · exact inLine.unrecorded_iff input

/-- A re-hold that no call disturbs returns what the rows show. -/
theorem lockSeat_tells_shown (env : Environment) {input : LockSeatInput}
    (held : holder stores.redis input.eventId input.seatId =
      some input.userId) :
    ∃ outcomes output,
      (lockSeat env input).execute outcomes stores .acquire =
        some (stores, .finished (.ok output)) ∧
      output.expiresAt = shownExpiry stores input.seatId input.userId := by
  have reholds : (lockSeat env input).resolve stores .acquire =
      some (stores, .running .findActive) := by
    simp only [lockSeat, acquire_of_held held, lockAnswered]
  cases row : findActive input.seatId input.userId stores.seatLocks with
  | some active =>
      have answers : (lockSeat env input).resolve stores .findActive =
          some (stores, .finished
            (.ok ⟨some active.2, active.1.seatId,
              active.1.expiresAt⟩)) := by
        simp only [lockSeat, row]
      refine ⟨[.resolves, .resolves],
        ⟨some active.2, active.1.seatId, active.1.expiresAt⟩, ?_,
        (shownExpiry_of_found row).symm⟩
      rw [AsyncFunction.execute_resolves reholds]
      simp only [AsyncFunction.execute, AsyncFunction.await, answers, if_true]
  | none =>
      have misses : (lockSeat env input).resolve stores .findActive =
          some (stores,
            .running (.recordAcquired (newActive stores.now))) := by
        simp only [lockSeat, row]
      refine ⟨[.resolves, .resolves, .rejects false],
        ⟨none, input.seatId, newActive stores.now⟩, ?_,
        (shownExpiry_of_missing row).symm⟩
      rw [AsyncFunction.execute_resolves reholds,
        AsyncFunction.execute_resolves misses]
      rfl

/-- What a state lets `LockSeat` return is right exactly if the rows are in
line with the locks. -/
theorem showsRealExpiry_iff_rowsInLine :
    ShowsRealExpiry env stores ↔ RowsInLine stores := by
  constructor
  · intro shows eventId seatId entry found
    have held : holder stores.redis eventId seatId = some entry.value := by
      rw [holder_eq, found, Option.map_some]
    let input : LockSeatInput := ⟨entry.value, eventId, seatId⟩
    have heldInput : holder stores.redis input.eventId input.seatId =
        some input.userId := held
    obtain ⟨outcomes, output, executed, told⟩ :=
      lockSeat_tells_shown env heldInput
    have real := shows input outcomes stores output executed
    rw [told, lapsesAt, found, Option.bind_some] at real
    exact real
  · intro inLine input outcomes after output executed
    have lapses : ∀ {eventId seatId userId},
        holder stores.redis eventId seatId = some userId →
        lapsesAt stores eventId seatId =
          some (shownExpiry stores seatId userId) := by
      intro eventId seatId userId held
      obtain ⟨entry, found, owned⟩ := holder_eq_some_iff.mp held
      rw [lapsesAt, found, Option.bind_some, ← owned]
      exact inLine eventId seatId entry found
    cases lockSeat_served executed with
    | refused _ silent _ => exact absurd rfl (silent output)
    | shown row lockId held active =>
        rw [lapses held, shownExpiry_of_found active]
    | reheld _ recorded held missing fresh =>
        have kept : lapsesAt
            (if recorded then withRow input stores else stores)
            input.eventId input.seatId =
              lapsesAt stores input.eventId input.seatId := by
          split <;> rfl
        rw [kept, lapses held, shownExpiry_of_missing missing,
          fresh output rfl]
    | taken _ takes _ fresh =>
        have locks := lockEntry_taken env input stores.redis input.eventId
          input.seatId
        rw [if_pos ⟨rfl, rfl⟩] at locks
        rw [fresh output rfl]
        split
        · rw [lapsesAt, withRow, locks]
          rfl
        · rw [lapsesAt, locks]
          rfl

private theorem RowsInLine.releaseSeat_iff (inLine : RowsInLine stores)
    {input : ReleaseInput}
    (served : ReleaseServed input stores outcomes after) :
    RowsInLine after ↔ ReleasesWithRow stores input outcomes := by
  cases served with
  | unchanged unrecorded =>
      refine iff_of_true inLine ?_
      intro held applied
      rw [unrecorded held] at applied
      cases applied
  | unrecorded unapplied =>
      refine iff_of_true (inLine.of_subset rfl rfl ?_) ?_
      · intro eventId seatId entry found
        exact (lockEntry_of_dropped found).2
      · intro _ applied
        rw [unapplied] at applied
        cases applied
  | recorded held applied =>
      unfold ReleasesWithRow
      simp only [held, applied, true_implies]
      have single :
          (∀ seatId ∈ [input.seatId],
            OthersTakenNow stores input.eventId seatId input.userId) ↔
          OthersTakenNow stores input.eventId input.seatId input.userId :=
        List.forall_mem_singleton
      rw [← single]
      refine inLine.settled_iff ?_ ?_ ?_ ?_ ?_
      · rfl
      · intro seatId other
        simp only [findActive_recordReleased, List.mem_singleton]
      · intro seatId member holds
        obtain ⟨entry, found, _⟩ := holder_eq_some_iff.mp holds
        exact (lockEntry_of_dropped found).1
          ⟨rfl, List.mem_singleton.mp member⟩
      · intro other seatId entry found
        exact (lockEntry_of_dropped found).2
      · intro other seatId different
        rw [lockEntry_dropped, if_neg (fun same => different same.1)]

/-- The extension sets every listed lock to the window from now. -/
theorem RowsInLine.extended_iff (inLine : RowsInLine stores)
    {input : CreateOrderInput}
    (positive : 0 < env.bookingWindowSeconds)
    (reaches : ReachesExtension env stores input outcomes)
    (served : CreateServed env input stores after
      (ReachesExtension env stores input outcomes)) :
    RowsInLine after ↔
      ∀ seatId ∈ input.seatIds,
        lapsesAt stores input.eventId seatId =
          some (stores.now + env.bookingWindowSeconds * 1000) := by
  have held := reaches.1
  have locks := lockEntry_extended input.eventId input.seatIds
    env.bookingWindowSeconds stores.redis
  rw [← served.extended reaches] at locks
  have shown : ∀ seatId userId,
      shownExpiry after seatId userId = shownExpiry stores seatId userId :=
    fun _ _ => shownExpiry_congr served.sameNow (by rw [served.rows])
  have renewed : ∀ entry : Entry UserId,
      stores.redis.renewed env.bookingWindowSeconds entry =
        some ⟨entry.value,
          some (stores.now + env.bookingWindowSeconds * 1000)⟩ := by
    intro entry
    rw [Db.renewed, if_pos positive]
    rfl
  constructor
  · intro inLineAfter seatId member
    obtain ⟨entry, found, owned⟩ := holder_eq_some_iff.mp (held seatId member)
    have foundAfter := locks input.eventId seatId
    rw [if_pos ⟨rfl, member⟩, found, Option.bind_some, renewed]
      at foundAfter
    have later := inLineAfter input.eventId seatId _ foundAfter
    rw [shown, ← inLine input.eventId seatId entry found] at later
    rw [lapsesAt, found, Option.bind_some]
    exact later.symm
  · intro lapses eventId seatId entry found
    have before := (locks eventId seatId).symm.trans found
    rw [shown]
    by_cases listed : eventId = input.eventId ∧ seatId ∈ input.seatIds
    · obtain ⟨rfl, member⟩ := listed
      obtain ⟨old, foundOld, _⟩ := holder_eq_some_iff.mp (held seatId member)
      rw [if_pos ⟨rfl, member⟩, foundOld, Option.bind_some, renewed] at before
      cases before
      have kept := lapses seatId member
      rw [lapsesAt, foundOld, Option.bind_some] at kept
      rw [← kept]
      exact inLine input.eventId seatId old foundOld
    · rw [if_neg listed] at before
      exact inLine eventId seatId entry before

private theorem RowsInLine.createOrder_iff (inLine : RowsInLine stores)
    {input : CreateOrderInput}
    (served : CreateServed env input stores after
      (ReachesExtension env stores input outcomes)) :
    RowsInLine after ↔ ExtendsToDeadline env stores input outcomes := by
  by_cases reaches : ReachesExtension env stores input outcomes
  · by_cases positive : 0 < env.bookingWindowSeconds
    · unfold ExtendsToDeadline
      simp only [positive, reaches, true_implies]
      exact inLine.extended_iff positive reaches served
    · have redis := served.extended reaches
      refine iff_of_true ?_ fun possible => absurd possible positive
      refine inLine.of_subset served.sameNow served.rows ?_
      intro eventId seatId entry found
      rw [redis, lockEntry_extended] at found
      split at found
      · obtain ⟨old, _, renewed⟩ := Option.bind_eq_some_iff.mp found
        rw [Db.renewed, if_neg positive] at renewed
        cases renewed
      · exact found
  · have redis := served.untouched reaches
    refine iff_of_true ?_ fun _ possible => absurd possible reaches
    refine inLine.of_subset served.sameNow served.rows ?_
    intro eventId seatId entry found
    rw [← redis]
    exact found

private theorem RowsInLine.expireOrder_iff (inLine : RowsInLine stores)
    {orderId : OrderId} (served : ExpireServed orderId stores outcomes after) :
    RowsInLine after ↔ ExpiresWithRow stores orderId outcomes := by
  have sameNow := served.sameNow
  cases served with
  | unsettled eventId userId released rows redis unapplied =>
      refine iff_of_true (inLine.of_subset sameNow rows ?_) ?_
      · intro other seatId entry found
        rw [redis] at found
        exact lockEntry_of_releaseHolds found
      · intro order moved applied
        rw [unapplied order moved] at applied
        cases applied
  | settled order moved applied rows redis =>
      have settled : RowsInLine after ↔
          ∀ seatId ∈ order.seatIds,
            OthersTakenNow stores order.eventId seatId order.userId := by
        refine inLine.settled_iff sameNow ?_ ?_ ?_ ?_
        · intro seatId other
          rw [rows, findActive_expireSeatLockAudit]
        · intro seatId member
          rw [redis]
          exact holder_releaseHolds member
        · intro other seatId entry found
          rw [redis] at found
          exact lockEntry_of_releaseHolds found
        · intro other seatId different
          rw [redis]
          exact lockEntry_releaseHolds_elsewhere different order.userId
            order.seatIds stores.redis seatId
      rw [settled]
      constructor
      · intro taken other same _
        rw [moved] at same
        cases same
        exact taken
      · intro expires
        exact expires order moved applied

end Steps

/-! ## Runs -/

section Runs

variable {env : Environment} {stores after : Stores} {request : Request}

private theorem LockedInPast.of_sameRows (past : LockedInPast stores)
    (notBefore : stores.now ≤ after.now)
    (same : after.seatLocks = stores.seatLocks) : LockedInPast after := by
  intro row member
  rw [same] at member
  exact (past row member).trans notBefore

theorem LockedInPast.settled (past : LockedInPast stores)
    {status : SeatLockStatus} {selected : SeatLockRow → Bool}
    (sameNow : after.now = stores.now)
    (rows : after.seatLocks =
      stores.seatLocks.map (.settle status stores.now selected)) :
    LockedInPast after := by
  intro row member
  rw [rows] at member
  obtain ⟨old, oldMember, rfl⟩ := List.mem_map.mp member
  rw [SeatLockRow.settle_lockedAt, sameNow]
  exact past old oldMember

theorem LockedInPast.withRow (past : LockedInPast stores)
    (input : LockSeatInput) : LockedInPast (withRow input stores) := by
  intro row member
  rcases List.mem_append.mp member with old | new
  · exact past row old
  · rw [List.mem_singleton.mp new]
    exact le_refl stores.now

private theorem lockedInPast_lockServed (past : LockedInPast stores)
    {input : LockSeatInput} {outcomes : List Await} {progress : LockProgress}
    (served : LockServed env input stores outcomes after progress) :
    LockedInPast after := by
  cases served with
  | refused _ _ _ => exact past
  | shown _ _ _ _ => exact past
  | reheld _ recorded _ _ _ =>
      split
      · exact past.withRow input
      · exact past
  | taken _ _ _ _ =>
      have locked : LockedInPast
          { stores with
            redis := granted (input.acquireInput env) stores.redis } :=
        past
      split
      · exact locked.withRow input
      · exact locked

private theorem lockedInPast_expireServed (past : LockedInPast stores)
    {orderId : OrderId} {outcomes : List Await}
    (served : ExpireServed orderId stores outcomes after) :
    LockedInPast after := by
  have sameNow := served.sameNow
  cases served with
  | unsettled _ _ _ rows _ _ => exact past.of_sameRows sameNow.ge rows
  | settled order _ _ rows _ =>
      unfold expireSeatLockAudit at rows
      split at rows
      · exact past.of_sameRows sameNow.ge rows
      · exact past.settled sameNow rows

private theorem lockedInPast_serve (past : LockedInPast stores)
    (served : serve env stores request = some after) :
    LockedInPast after := by
  cases request with
  | tick elapsed =>
      cases served
      refine past.of_sameRows ?_ rfl
      exact Int.le_add_of_nonneg_right (Int.natCast_nonneg elapsed)
  | lockSeat input outcomes =>
      obtain ⟨⟨reached, progress⟩, executed, rfl⟩ :=
        Option.map_eq_some_iff.mp served
      exact lockedInPast_lockServed past (lockSeat_served executed)
  | releaseSeat input outcomes =>
      obtain ⟨⟨reached, progress⟩, executed, rfl⟩ :=
        Option.map_eq_some_iff.mp served
      cases releaseSeat_served executed with
      | unchanged _ => exact past
      | unrecorded _ => exact past
      | recorded _ _ => exact past.settled rfl rfl
  | createOrder input outcomes =>
      obtain ⟨⟨reached, progress⟩, executed, rfl⟩ :=
        Option.map_eq_some_iff.mp served
      have created := createOrder_served executed
      exact past.of_sameRows created.sameNow.ge created.rows
  | expireOrder orderId outcomes =>
      obtain ⟨⟨reached, progress⟩, executed, rfl⟩ :=
        Option.map_eq_some_iff.mp served
      exact lockedInPast_expireServed past (expireOrder_served executed)

/-- A request leaves the rows in line exactly if it meets the condition. -/
theorem rowsInLine_serve_iff (inLine : RowsInLine stores)
    (past : LockedInPast stores)
    (served : serve env stores request = some after) :
    RowsInLine after ↔ KeepsRowsInLine env stores request := by
  cases request with
  | tick elapsed =>
      cases served
      exact inLine.tick_iff elapsed
  | lockSeat input outcomes =>
      obtain ⟨⟨reached, progress⟩, executed, rfl⟩ :=
        Option.map_eq_some_iff.mp served
      exact inLine.lockSeat_iff past (lockSeat_served executed)
  | releaseSeat input outcomes =>
      obtain ⟨⟨reached, progress⟩, executed, rfl⟩ :=
        Option.map_eq_some_iff.mp served
      exact inLine.releaseSeat_iff (releaseSeat_served executed)
  | createOrder input outcomes =>
      obtain ⟨⟨reached, progress⟩, executed, rfl⟩ :=
        Option.map_eq_some_iff.mp served
      exact inLine.createOrder_iff (createOrder_served executed)
  | expireOrder orderId outcomes =>
      obtain ⟨⟨reached, progress⟩, executed, rfl⟩ :=
        Option.map_eq_some_iff.mp served
      exact inLine.expireOrder_iff (expireOrder_served executed)

end Runs

private theorem rowsInLine_empty (origin : Instant) :
    RowsInLine (Stores.empty origin) := by
  intro eventId seatId entry found
  cases found

private theorem lockedInPast_empty (origin : Instant) :
    LockedInPast (Stores.empty origin) := by
  intro row member
  cases member

/-- In every state of a run whatever `LockSeat` returns is the instant at
which the lock lapses, exactly if every step of the run keeps the rows in
line. -/
theorem showsRealExpiry_iff_keepsRowsInLine {env : Environment}
    {origin : Instant} {history : List (Stores × Request)} {stores : Stores}
    (run : Trace (serve env) (Stores.empty origin) history stores) :
    (∀ reached ∈ visited history stores, ShowsRealExpiry env reached) ↔
      StepsMeet (KeepsRowsInLine env) history := by
  simp only [showsRealExpiry_iff_rowsInLine]
  refine run.forall_visited_iff (rowsInLine_empty origin) ?_
  intro earlier reached request next runBefore inLine served
  have past : LockedInPast reached :=
    runBefore.invariant LockedInPast (lockedInPast_empty origin)
      fun _ _ _ => lockedInPast_serve
  exact rowsInLine_serve_iff inLine past served

def heldSeven : Stores :=
  withRow ⟨10, 1, 7⟩
    { Stores.empty 0 with
      redis :=
        granted (LockSeatInput.acquireInput ⟨10, 1, 7⟩ smallVenue)
          (Stores.empty 0).redis }

def heldLater : Stores :=
  { heldSeven with redis := heldSeven.redis.tick 60000 }

/-- User 10 takes seat 7, a minute passes, and they take it again. -/
def heldTwice : List (Stores × Request) :=
  [(heldLater, .lockSeat ⟨10, 1, 7⟩ [.resolves, .resolves]),
    (heldSeven, .tick 60000),
    (Stores.empty 0, .lockSeat ⟨10, 1, 7⟩ [.resolves, .resolves])]

private theorem heldTwice_run :
    Trace (serve smallVenue) (Stores.empty 0) heldTwice heldLater :=
  .snoc (.snoc (.snoc .nil rfl) rfl) rfl

private theorem heldTwice_keepsRowsInLine :
    StepsMeet (KeepsRowsInLine smallVenue) heldTwice := by
  unfold heldTwice
  rw [stepsMeet_cons, stepsMeet_cons, stepsMeet_cons]
  refine ⟨?_, ?_, ?_, List.forall_mem_nil _⟩
  · rintro ⟨free, _⟩
    cases free
  · intro _ eventId seatId userId held
    have before : holder heldSeven.redis eventId seatId = some userId :=
      holder_of_holder_tick held
    obtain ⟨entry, found, owned⟩ := holder_eq_some_iff.mp before
    have locks := lockEntry_taken smallVenue ⟨10, 1, 7⟩
      (Stores.empty 0).redis eventId seatId
    have same := locks.symm.trans found
    split at same
    · next here =>
        cases same
        rw [here.2, ← owned]
        rfl
    · cases same
  · intro _ _
    rw [if_pos ⟨rfl, rfl⟩]
    intro other entry _ found
    cases found

theorem showsRealExpiry_heldTwice :
    ShowsRealExpiry smallVenue heldLater :=
  (showsRealExpiry_iff_keepsRowsInLine heldTwice_run).mpr
    heldTwice_keepsRowsInLine heldLater List.mem_cons_self

/-- A minute after the seat is taken its order resets the TTL of the lock. -/
def orderBeforeRehold : List Request :=
  [.lockSeat ⟨10, 1, 7⟩ [.resolves, .resolves], .tick 60000,
    .createOrder ⟨10, 1, [7], "key"⟩ (List.replicate 6 .resolves)]

/-- A re-hold returns an `expiresAt` a minute before the lock lapses. -/
theorem rehold_shows_stale_expiry :
    ∃ history stores,
      Trace (serve smallVenue) (Stores.empty 0) history stores ∧
      ((lockSeat smallVenue ⟨10, 1, 7⟩).execute [.resolves, .resolves] stores
          .acquire).map
          (fun served => (served.2, lapsesAt served.1 1 7)) =
        some (.finished (.ok ⟨some 0, 7, 900000⟩), some 960000) := by
  obtain ⟨history, stores, run, returned⟩ :=
    Trace.exists_of_replay (serve smallVenue) (Stores.empty 0)
      orderBeforeRehold
      (fun reached =>
        decide
          (((lockSeat smallVenue ⟨10, 1, 7⟩).execute [.resolves, .resolves]
              reached.2 .acquire).map
              (fun served => (served.2, lapsesAt served.1 1 7)) =
            some (.finished (.ok ⟨some 0, 7, 900000⟩), some 960000)))
      (by decide +kernel)
  exact ⟨history, stores, run, of_decide_eq_true returned⟩

end ConcertTicketing.Booking
