import ConcertTicketing.Domain
import ConcertTicketing.Library.Redis

/-!
# The Redis seat-lock store

The keys of `RedisSeatLockAdapter`, the Lua scripts of `RedisSeatLockAdapter`
and `RedisSeatHoldAdapter` and the adapter methods around them.  A script is
one atomic step on the store.  The two `RELEASE_LUA` texts are the same, so
they are one definition here.
-/

namespace ConcertTicketing.SeatLock

open Redis

/-- The key builders `lockKey`, `userSetKey` and `eventSetKey`. -/
inductive SeatKey where
  | lockKey (eventId : EventId) (seatId : SeatId)
  | userSetKey (eventId : EventId) (userId : UserId)
  | eventSetKey (eventId : EventId)
  deriving DecidableEq, Repr

/-- Lock values are user ids, set members are seat ids. -/
abbrev SeatStore := Db SeatKey SeatId UserId

/-! ## Scripts -/

inductive RedisError where
  | invalidExpireTime
  deriving DecidableEq, Repr

/-- `ACQUIRE_LUA` with `KEYS = [lock, userSet, eventSet]` and
`ARGV = [userId, ttlSeconds, maxPerUser, seatId]`. -/
def acquireLua (lock userSet eventSet : SeatKey) (userId : UserId)
    (ttlSeconds maxPerUser : Int) (seatId : SeatId) (db : SeatStore) :
    Except RedisError Int × SeatStore :=
  match db.get lock with
  | some owner =>
      if owner = userId then (.ok 2, db) else (.ok (-1), db)
  | none =>
      if maxPerUser ≤ (db.scard userSet : Int) then
        (.ok (-2), db)
      else
        -- `SET` is the first write, so its error leaves nothing behind
        match db.setEx lock userId ttlSeconds with
        | none => (.error .invalidExpireTime, db)
        | some locked =>
            (.ok 1, (locked.sadd userSet seatId).sadd eventSet seatId)

/-- `RELEASE_LUA` with `KEYS = [lock, userSet, eventSet]` and
`ARGV = [userId, seatId]`. -/
def releaseLua (lock userSet eventSet : SeatKey) (userId : UserId)
    (seatId : SeatId) (db : SeatStore) : Int × SeatStore :=
  match db.get lock with
  | none => (0, db)
  | some owner =>
      if owner ≠ userId then (0, db)
      else (1, ((db.del lock).srem userSet seatId).srem eventSet seatId)

/-- The loop of `VERIFY_LUA` from index `i` on. -/
def verifyFrom (db : SeatStore) (userId : UserId) :
    Nat → List SeatKey → Nat
  | _, [] => 0
  | i, key :: rest =>
      if db.get key = some userId then verifyFrom db userId (i + 1) rest
      else i

/-- `VERIFY_LUA`: the 1-based index of the first lock that is missing or
owned by someone else, or `0`. -/
def verifyLua (keys : List SeatKey) (userId : UserId) (db : SeatStore) : Nat :=
  verifyFrom db userId 1 keys

/-- `EXTEND_LUA`: check every lock, then reset every TTL. -/
def extendLua (keys : List SeatKey) (userId : UserId) (ttlSeconds : Int)
    (db : SeatStore) : Int × SeatStore :=
  if ∀ key ∈ keys, db.get key = some userId then
    (1, keys.foldl (fun current key => current.expire key ttlSeconds) db)
  else
    (0, db)

/-! ## Adapter methods -/

structure AcquireInput where
  eventId : EventId
  seatId : SeatId
  userId : UserId
  ttlSeconds : Int
  maxPerUser : Int
  deriving DecidableEq, Repr

inductive AcquireResult where
  | ok
  | okRehold
  | seatTaken
  | limit
  deriving DecidableEq, Repr

/-- What a caller of `acquire` can see fail. -/
inductive AcquireError where
  | redis (error : RedisError)
  | unexpectedResult (code : Int)
  deriving DecidableEq, Repr

/-- `RedisSeatLockAdapter.acquire`. -/
def acquire (input : AcquireInput) (db : SeatStore) :
    Except AcquireError AcquireResult × SeatStore :=
  let (raw, after) :=
    acquireLua (.lockKey input.eventId input.seatId)
      (.userSetKey input.eventId input.userId) (.eventSetKey input.eventId)
      input.userId input.ttlSeconds input.maxPerUser input.seatId db
  match raw with
  | .error error => (.error (.redis error), after)
  | .ok code =>
      if code = 1 then (.ok .ok, after)
      else if code = 2 then (.ok .okRehold, after)
      else if code = -1 then (.ok .seatTaken, after)
      else if code = -2 then (.ok .limit, after)
      else (.error (.unexpectedResult code), after)

structure ReleaseInput where
  eventId : EventId
  seatId : SeatId
  userId : UserId
  deriving DecidableEq, Repr

/-- `RedisSeatLockAdapter.release`. -/
def release (input : ReleaseInput) (db : SeatStore) : Bool × SeatStore :=
  let (raw, after) :=
    releaseLua (.lockKey input.eventId input.seatId)
      (.userSetKey input.eventId input.userId) (.eventSetKey input.eventId)
      input.userId input.seatId db
  (decide (raw = 1), after)

/-- `RedisSeatHoldAdapter.releaseHold`. -/
def releaseHold (eventId : EventId) (seatId : SeatId) (userId : UserId)
    (db : SeatStore) : SeatStore :=
  (releaseLua (.lockKey eventId seatId) (.userSetKey eventId userId)
    (.eventSetKey eventId) userId seatId db).2

/-- `lockKeys`. -/
def lockKeys (eventId : EventId) (seatIds : List SeatId) : List SeatKey :=
  seatIds.map fun seatId => .lockKey eventId seatId

structure VerifyHeldResult where
  ok : Bool
  failedSeatId : Option SeatId
  deriving DecidableEq, Repr

/-- `RedisSeatHoldAdapter.verifyHeld`. -/
def verifyHeld (eventId : EventId) (seatIds : List SeatId) (userId : UserId)
    (db : SeatStore) : VerifyHeldResult :=
  let code := verifyLua (lockKeys eventId seatIds) userId db
  if code = 0 then ⟨true, none⟩ else ⟨false, seatIds[code - 1]?⟩

/-- `RedisSeatHoldAdapter.extendHold`. -/
def extendHold (eventId : EventId) (seatIds : List SeatId) (userId : UserId)
    (ttlSeconds : Int) (db : SeatStore) : Bool × SeatStore :=
  let (raw, after) :=
    extendLua (lockKeys eventId seatIds) userId ttlSeconds db
  (decide (raw = 1), after)

def lockEntry (db : SeatStore) (eventId : EventId) (seatId : SeatId) :
    Option (Entry UserId) :=
  db.find (.lockKey eventId seatId)

def holder (db : SeatStore) (eventId : EventId) (seatId : SeatId) :
    Option UserId :=
  db.get (.lockKey eventId seatId)

/-- `held:event:{eventId}:user:{userId}`. -/
def heldByUser (db : SeatStore) (eventId : EventId) (userId : UserId) :
    Finset SeatId :=
  db.sets (.userSetKey eventId userId)

/-- `held:event:{eventId}`. -/
def heldInEvent (db : SeatStore) (eventId : EventId) : Finset SeatId :=
  db.sets (.eventSetKey eventId)

theorem holder_eq (db : SeatStore) (eventId : EventId) (seatId : SeatId) :
    holder db eventId seatId =
      (lockEntry db eventId seatId).map Entry.value := rfl

/-- What `ACQUIRE_LUA` leaves behind when it answers `1`. -/
def granted (input : AcquireInput) (db : SeatStore) : SeatStore :=
  ((db.put (.lockKey input.eventId input.seatId) input.userId
      input.ttlSeconds).sadd
    (.userSetKey input.eventId input.userId) input.seatId).sadd
    (.eventSetKey input.eventId) input.seatId

/-- What `RELEASE_LUA` leaves behind when it answers `1`. -/
def dropped (eventId : EventId) (seatId : SeatId) (userId : UserId)
    (db : SeatStore) : SeatStore :=
  ((db.del (.lockKey eventId seatId)).srem
    (.userSetKey eventId userId) seatId).srem (.eventSetKey eventId) seatId

/-- What `EXTEND_LUA` leaves behind when it answers `1`. -/
def extended (eventId : EventId) (seatIds : List SeatId) (ttlSeconds : Int)
    (db : SeatStore) : SeatStore :=
  (lockKeys eventId seatIds).foldl
    (fun current key => current.expire key ttlSeconds) db

def AllHeld (db : SeatStore) (eventId : EventId) (seatIds : List SeatId)
    (userId : UserId) : Prop :=
  ∀ seatId ∈ seatIds, holder db eventId seatId = some userId

instance (db : SeatStore) (eventId : EventId) (seatIds : List SeatId)
    (userId : UserId) : Decidable (AllHeld db eventId seatIds userId) :=
  inferInstanceAs (Decidable (∀ seatId ∈ seatIds, _ = _))

/-! ## One specification for each method -/

theorem acquire_eq (input : AcquireInput) (db : SeatStore) :
    acquire input db =
      match holder db input.eventId input.seatId with
      | some owner =>
          if owner = input.userId then (.ok .okRehold, db)
          else (.ok .seatTaken, db)
      | none =>
          if input.maxPerUser ≤
              ((heldByUser db input.eventId input.userId).card : Int) then
            (.ok .limit, db)
          else if 0 < input.ttlSeconds then (.ok .ok, granted input db)
          else (.error (.redis .invalidExpireTime), db) := by
  unfold acquire acquireLua holder heldByUser Db.scard Db.setEx granted
  cases db.get (.lockKey input.eventId input.seatId) with
  | some owner =>
      by_cases same : owner = input.userId <;> simp [same]
  | none =>
      by_cases full :
          input.maxPerUser ≤
            ((db.sets (.userSetKey input.eventId input.userId)).card : Int)
      · simp [full]
      · by_cases positive : 0 < input.ttlSeconds <;> simp [full, positive]

/-- `OK` is answered for a free lock and a user below the limit. -/
theorem acquire_ok_iff {input : AcquireInput} {db : SeatStore} :
    (acquire input db).1 = .ok .ok ↔
      holder db input.eventId input.seatId = none ∧
        ((heldByUser db input.eventId input.userId).card : Int) <
          input.maxPerUser ∧
        0 < input.ttlSeconds := by
  rw [acquire_eq]
  cases holder db input.eventId input.seatId with
  | some owner =>
      by_cases same : owner = input.userId <;> simp [same]
  | none =>
      by_cases full :
          input.maxPerUser ≤
            ((heldByUser db input.eventId input.userId).card : Int)
      · simp [full, not_lt_of_ge full]
      · by_cases positive : 0 < input.ttlSeconds <;>
          simp [full, positive, lt_of_not_ge full]

/-- Only the owner is answered `OK_REHOLD`. -/
theorem holder_of_okRehold {input : AcquireInput} {db : SeatStore}
    (answered : (acquire input db).1 = .ok .okRehold) :
    holder db input.eventId input.seatId = some input.userId := by
  rw [acquire_eq] at answered
  cases owned : holder db input.eventId input.seatId with
  | some owner =>
      by_cases same : owner = input.userId
      · rw [same]
      · simp [owned, same] at answered
  | none =>
      rw [owned] at answered
      by_cases full :
          input.maxPerUser ≤
            ((heldByUser db input.eventId input.userId).card : Int)
      · simp [full] at answered
      · by_cases positive : 0 < input.ttlSeconds <;>
          simp [full, positive] at answered

theorem release_eq (input : ReleaseInput) (db : SeatStore) :
    release input db =
      if holder db input.eventId input.seatId = some input.userId then
        (true, dropped input.eventId input.seatId input.userId db)
      else (false, db) := by
  unfold release releaseLua holder dropped
  cases db.get (.lockKey input.eventId input.seatId) with
  | none => simp
  | some owner =>
      by_cases same : owner = input.userId <;> simp [same]

theorem releaseHold_eq (eventId : EventId) (seatId : SeatId)
    (userId : UserId) (db : SeatStore) :
    releaseHold eventId seatId userId db =
      if holder db eventId seatId = some userId then
        dropped eventId seatId userId db
      else db := by
  unfold releaseHold releaseLua holder dropped
  cases db.get (.lockKey eventId seatId) with
  | none => simp
  | some owner =>
      by_cases same : owner = userId <;> simp [same]

theorem extendHold_eq (eventId : EventId) (seatIds : List SeatId)
    (userId : UserId) (ttlSeconds : Int) (db : SeatStore) :
    extendHold eventId seatIds userId ttlSeconds db =
      if AllHeld db eventId seatIds userId then
        (true, extended eventId seatIds ttlSeconds db)
      else (false, db) := by
  have heldKeys :
      (∀ key ∈ lockKeys eventId seatIds, db.get key = some userId) ↔
        AllHeld db eventId seatIds userId := by
    simp [lockKeys, AllHeld, holder]
  unfold extendHold extendLua extended
  by_cases held : AllHeld db eventId seatIds userId
  · simp [if_pos held, if_pos (heldKeys.mpr held)]
  · simp [if_neg held, if_neg (mt heldKeys.mp held)]

private theorem verifyFrom_eq_zero_iff (db : SeatStore) (userId : UserId)
    (keys : List SeatKey) :
    ∀ i, verifyFrom db userId (i + 1) keys = 0 ↔
      ∀ key ∈ keys, db.get key = some userId := by
  induction keys with
  | nil =>
      simp [verifyFrom]
  | cons key rest inductionHypothesis =>
      intro i
      by_cases held : db.get key = some userId
      · simp [verifyFrom, held, inductionHypothesis (i + 1)]
      · simp [verifyFrom, held]

/-- `verifyHeld` succeeds exactly when every seat is locked by the user. -/
theorem verifyHeld_ok_iff (db : SeatStore) (eventId : EventId)
    (seatIds : List SeatId) (userId : UserId) :
    (verifyHeld eventId seatIds userId db).ok = true ↔
      AllHeld db eventId seatIds userId := by
  have zero :=
    verifyFrom_eq_zero_iff db userId (lockKeys eventId seatIds) 0
  have heldKeys :
      (∀ key ∈ lockKeys eventId seatIds, db.get key = some userId) ↔
        AllHeld db eventId seatIds userId := by
    simp [lockKeys, AllHeld, holder]
  unfold verifyHeld verifyLua
  rw [← heldKeys, ← zero]
  by_cases found : verifyFrom db userId 1 (lockKeys eventId seatIds) = 0 <;>
    simp [found]

theorem lockEntry_granted {input : AcquireInput}
    (positive : 0 < input.ttlSeconds) (db : SeatStore) (eventId : EventId)
    (seatId : SeatId) :
    lockEntry (granted input db) eventId seatId =
      if eventId = input.eventId ∧ seatId = input.seatId then
        some ⟨input.userId, some (db.deadlineIn input.ttlSeconds)⟩
      else lockEntry db eventId seatId := by
  simp only [lockEntry, granted, Db.find_sadd, Db.find_put positive,
    SeatKey.lockKey.injEq]

theorem heldByUser_granted (input : AcquireInput) (db : SeatStore)
    (eventId : EventId) (userId : UserId) :
    heldByUser (granted input db) eventId userId =
      if eventId = input.eventId ∧ userId = input.userId then
        insert input.seatId (heldByUser db eventId userId)
      else heldByUser db eventId userId := by
  simp only [heldByUser, granted, Db.sets_sadd, reduceCtorEq, if_false,
    SeatKey.userSetKey.injEq, Db.put_sets]
  split
  · next same => rw [same.1, same.2]
  · rfl

theorem heldInEvent_granted (input : AcquireInput) (db : SeatStore)
    (eventId : EventId) :
    heldInEvent (granted input db) eventId =
      if eventId = input.eventId then
        insert input.seatId (heldInEvent db eventId)
      else heldInEvent db eventId := by
  simp only [heldInEvent, granted, Db.sets_sadd, reduceCtorEq, if_false,
    SeatKey.eventSetKey.injEq, Db.put_sets]
  split
  · next same => rw [same]
  · rfl

theorem lockEntry_dropped (eventId : EventId) (seatId : SeatId)
    (userId : UserId) (db : SeatStore) (otherEvent : EventId)
    (otherSeat : SeatId) :
    lockEntry (dropped eventId seatId userId db) otherEvent otherSeat =
      if otherEvent = eventId ∧ otherSeat = seatId then none
      else lockEntry db otherEvent otherSeat := by
  simp only [lockEntry, dropped, Db.find_srem, Db.find_del,
    SeatKey.lockKey.injEq]

theorem heldByUser_dropped (eventId : EventId) (seatId : SeatId)
    (userId : UserId) (db : SeatStore) (otherEvent : EventId)
    (otherUser : UserId) :
    heldByUser (dropped eventId seatId userId db) otherEvent otherUser =
      if otherEvent = eventId ∧ otherUser = userId then
        (heldByUser db otherEvent otherUser).erase seatId
      else heldByUser db otherEvent otherUser := by
  simp only [heldByUser, dropped, Db.sets_srem, reduceCtorEq, if_false,
    SeatKey.userSetKey.injEq, Db.del_sets]
  split
  · next same => rw [same.1, same.2]
  · rfl

theorem heldInEvent_dropped (eventId : EventId) (seatId : SeatId)
    (userId : UserId) (db : SeatStore) (otherEvent : EventId) :
    heldInEvent (dropped eventId seatId userId db) otherEvent =
      if otherEvent = eventId then
        (heldInEvent db otherEvent).erase seatId
      else heldInEvent db otherEvent := by
  simp only [heldInEvent, dropped, Db.sets_srem, reduceCtorEq, if_false,
    SeatKey.eventSetKey.injEq, Db.del_sets]
  split
  · next same => rw [same]
  · rfl

@[simp]
theorem extended_now (eventId : EventId) (seatIds : List SeatId)
    (ttlSeconds : Int) (db : SeatStore) :
    (extended eventId seatIds ttlSeconds db).now = db.now := by
  unfold extended lockKeys
  induction seatIds generalizing db with
  | nil => rfl
  | cons seatId rest inductionHypothesis =>
      simp only [List.map_cons, List.foldl_cons]
      rw [inductionHypothesis, Db.expire_now]

@[simp]
theorem extended_sets (eventId : EventId) (seatIds : List SeatId)
    (ttlSeconds : Int) (db : SeatStore) :
    (extended eventId seatIds ttlSeconds db).sets = db.sets := by
  unfold extended lockKeys
  induction seatIds generalizing db with
  | nil => rfl
  | cons seatId rest inductionHypothesis =>
      simp only [List.map_cons, List.foldl_cons]
      rw [inductionHypothesis, Db.expire_sets]

@[simp]
theorem heldByUser_extended (eventId : EventId) (seatIds : List SeatId)
    (ttlSeconds : Int) (db : SeatStore) (otherEvent : EventId)
    (userId : UserId) :
    heldByUser (extended eventId seatIds ttlSeconds db) otherEvent userId =
      heldByUser db otherEvent userId := by
  simp only [heldByUser, extended_sets]

/-- Resetting the TTL of a renewed lock at the same instant changes nothing
more. -/
theorem renewed_bind_renewed (db : SeatStore) (seconds : Int)
    (found : Option (Entry UserId)) :
    (found.bind (db.renewed seconds)).bind (db.renewed seconds) =
      found.bind (db.renewed seconds) := by
  cases found with
  | none => rfl
  | some entry =>
      by_cases positive : 0 < seconds <;> simp [Db.renewed, positive]

theorem lockEntry_extended (eventId : EventId) (seatIds : List SeatId)
    (ttlSeconds : Int) (db : SeatStore) (otherEvent : EventId)
    (otherSeat : SeatId) :
    lockEntry (extended eventId seatIds ttlSeconds db) otherEvent otherSeat =
      if otherEvent = eventId ∧ otherSeat ∈ seatIds then
        (lockEntry db otherEvent otherSeat).bind (db.renewed ttlSeconds)
      else lockEntry db otherEvent otherSeat := by
  induction seatIds generalizing db with
  | nil =>
      simp [extended, lockKeys]
  | cons seatId rest inductionHypothesis =>
      have unfolded :
          extended eventId (seatId :: rest) ttlSeconds db =
            extended eventId rest ttlSeconds
              (db.expire (.lockKey eventId seatId) ttlSeconds) := rfl
      have sameClock :
          (db.expire (.lockKey eventId seatId) ttlSeconds).renewed
              ttlSeconds =
            db.renewed ttlSeconds := by
        funext entry
        simp only [Db.renewed, Db.deadlineIn, Db.expire_now]
      rw [unfolded, inductionHypothesis, sameClock]
      simp only [lockEntry, Db.find_expire, SeatKey.lockKey.injEq,
        List.mem_cons]
      by_cases sameEvent : otherEvent = eventId
      · subst otherEvent
        by_cases sameSeat : otherSeat = seatId
        · subst otherSeat
          by_cases again : seatId ∈ rest
          · simp [again, renewed_bind_renewed]
          · simp [again]
        · simp [sameSeat]
      · simp [sameEvent]

end ConcertTicketing.SeatLock
