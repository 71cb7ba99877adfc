import ConcertTicketing.Library.Text
import ConcertTicketing.Queue.FailureIsolation
import ConcertTicketing.SeatLock.Ownership
import Mathlib.Data.Set.Image
import Mathlib.Data.Set.Disjoint
import Mathlib.Logic.Embedding.Basic
import Mathlib.Order.CompletePartialOrder

/-!
# The names of the Redis keys

`RedisSeatLockAdapter` and `RedisQueueStoreAdapter` share one keyspace, and
name their keys by templates over ids.  The stores of this development have
two types of keys instead; that is the same thing because different keys have
different names.  A name is a list of parts between colons, an id has no
colon, and so the parts, and with them the builder and its ids, are read back
from the name.
-/

namespace ConcertTicketing.Keys

open Redis SeatLock Queue

def isHexDigit (char : Char) : Bool :=
  char.isDigit || decide (char ∈ "abcdefABCDEF".toList)

/-- Hexadecimal digits in groups of 8, 4, 4, 4 and 12, joined by hyphens. -/
def UuidShaped (text : Text) : Prop :=
  (text.splitOn '-').map List.length = [8, 4, 4, 4, 12] ∧
    ∀ char ∈ text, char = '-' ∨ isHexDigit char = true

instance (text : Text) : Decidable (UuidShaped text) :=
  -- Through the letters of the text, not through all characters.
  @instDecidableAnd _ _ _ (List.decidableBAll _ text)

structure Uuid where
  text : Text
  shaped : UuidShaped text
  deriving DecidableEq

private theorem Uuid.text_injective : Function.Injective Uuid.text := by
  rintro ⟨first, firstShaped⟩ ⟨second, secondShaped⟩ same
  cases same
  rfl

private theorem Uuid.colon_notMem (id : Uuid) : ':' ∉ id.text := by
  intro member
  rcases id.shaped.2 ':' member with hyphen | digit
  · cases hyphen
  · cases digit

/-- `RedisSeatLockAdapter.lockKey`. -/
def lockKey (eventId seatId : Uuid) : Text :=
  "lock:event:".toList ++ eventId.text ++ ":seat:".toList ++ seatId.text

/-- `RedisSeatLockAdapter.userSetKey`. -/
def userSetKey (eventId userId : Uuid) : Text :=
  "held:event:".toList ++ eventId.text ++ ":user:".toList ++ userId.text

/-- `RedisSeatLockAdapter.eventSetKey`. -/
def eventSetKey (eventId : Uuid) : Text :=
  "held:event:".toList ++ eventId.text

/-- `RedisQueueStoreAdapter.queueKey`. -/
def queueKey (eventId : Uuid) : Text :=
  "queue:event:".toList ++ eventId.text

/-- `RedisQueueStoreAdapter.seqKey`. -/
def seqKey (eventId : Uuid) : Text :=
  "queue:event:".toList ++ eventId.text ++ ":seq".toList

/-- `RedisQueueStoreAdapter.activeKey`. -/
def activeKey (eventId : Uuid) : Text :=
  "active:event:".toList ++ eventId.text

/-- `RedisQueueStoreAdapter.tokenKey`. -/
def tokenKey (eventId userId : Uuid) : Text :=
  "token:event:".toList ++ eventId.text ++ ":user:".toList ++ userId.text

/-- `RedisQueueStoreAdapter.tokenPrefix`. -/
def tokenPrefix (eventId : Uuid) : Text :=
  "token:event:".toList ++ eventId.text ++ ":user:".toList

/-- `prefix .. u` of `ADMIT_LUA`. -/
def admitTokenKey (tokenPrefix : Text) (userId : Uuid) : Text :=
  tokenPrefix ++ userId.text

private theorem admitTokenKey_tokenPrefix (eventId userId : Uuid) :
    admitTokenKey (tokenPrefix eventId) userId = tokenKey eventId userId := by
  unfold admitTokenKey tokenPrefix tokenKey
  rfl

inductive StoreKey where
  | lockKey (eventId seatId : Uuid)
  | userSetKey (eventId userId : Uuid)
  | eventSetKey (eventId : Uuid)
  | queueKey (eventId : Uuid)
  | seqKey (eventId : Uuid)
  | activeKey (eventId : Uuid)
  | tokenKey (eventId userId : Uuid)
  deriving DecidableEq

namespace StoreKey

def text : StoreKey → Text
  | .lockKey eventId seatId => Keys.lockKey eventId seatId
  | .userSetKey eventId userId => Keys.userSetKey eventId userId
  | .eventSetKey eventId => Keys.eventSetKey eventId
  | .queueKey eventId => Keys.queueKey eventId
  | .seqKey eventId => Keys.seqKey eventId
  | .activeKey eventId => Keys.activeKey eventId
  | .tokenKey eventId userId => Keys.tokenKey eventId userId

/-- The parts of the name between its colons. -/
def parts : StoreKey → List Text
  | .lockKey eventId seatId =>
      ["lock".toList, "event".toList, eventId.text, "seat".toList, seatId.text]
  | .userSetKey eventId userId =>
      ["held".toList, "event".toList, eventId.text, "user".toList, userId.text]
  | .eventSetKey eventId =>
      ["held".toList, "event".toList, eventId.text]
  | .queueKey eventId =>
      ["queue".toList, "event".toList, eventId.text]
  | .seqKey eventId =>
      ["queue".toList, "event".toList, eventId.text, "seq".toList]
  | .activeKey eventId =>
      ["active".toList, "event".toList, eventId.text]
  | .tokenKey eventId userId =>
      ["token".toList, "event".toList, eventId.text, "user".toList,
        userId.text]

private theorem text_eq_intercalate (key : StoreKey) :
    key.text = [':'].intercalate key.parts := by
  cases key with
  | lockKey eventId seatId =>
      unfold text Keys.lockKey
      simp [parts, List.intercalate]
  | userSetKey eventId userId =>
      unfold text Keys.userSetKey
      simp [parts, List.intercalate]
  | eventSetKey eventId =>
      unfold text Keys.eventSetKey
      simp [parts, List.intercalate]
  | queueKey eventId =>
      unfold text Keys.queueKey
      simp [parts, List.intercalate]
  | seqKey eventId =>
      unfold text Keys.seqKey
      simp [parts, List.intercalate]
  | activeKey eventId =>
      unfold text Keys.activeKey
      simp [parts, List.intercalate]
  | tokenKey eventId userId =>
      unfold text Keys.tokenKey
      simp [parts, List.intercalate]

private theorem parts_ne_nil (key : StoreKey) : key.parts ≠ [] := by
  cases key <;> exact List.cons_ne_nil _ _

private theorem colon_notMem_parts (key : StoreKey) :
    ∀ part ∈ key.parts, ':' ∉ part := by
  cases key <;>
    simp [parts, Uuid.colon_notMem]

private theorem splitOn_text (key : StoreKey) :
    key.text.splitOn ':' = key.parts := by
  rw [text_eq_intercalate]
  exact List.splitOn_intercalate ':' key.colon_notMem_parts key.parts_ne_nil

private theorem parts_injective : Function.Injective parts := by
  intro first second same
  cases first <;> cases second <;>
    simp [parts, Uuid.text_injective.eq_iff] at same ⊢ <;> exact same

/-- Different keys have different names. -/
theorem text_injective : Function.Injective text := by
  intro first second same
  apply parts_injective
  rw [← splitOn_text, ← splitOn_text, same]

end StoreKey

/-! ## The families -/

inductive Family where
  | lockKey
  | userSetKey
  | eventSetKey
  | queueKey
  | seqKey
  | activeKey
  | tokenKey
  deriving DecidableEq, Repr

def Family.names : Family → Set Text
  | .lockKey => Set.range (Function.uncurry Keys.lockKey)
  | .userSetKey => Set.range (Function.uncurry Keys.userSetKey)
  | .eventSetKey => Set.range Keys.eventSetKey
  | .queueKey => Set.range Keys.queueKey
  | .seqKey => Set.range Keys.seqKey
  | .activeKey => Set.range Keys.activeKey
  | .tokenKey => Set.range (Function.uncurry Keys.tokenKey)

def StoreKey.family : StoreKey → Family
  | .lockKey _ _ => .lockKey
  | .userSetKey _ _ => .userSetKey
  | .eventSetKey _ => .eventSetKey
  | .queueKey _ => .queueKey
  | .seqKey _ => .seqKey
  | .activeKey _ => .activeKey
  | .tokenKey _ _ => .tokenKey

private theorem Family.exists_key {family : Family} {name : Text}
    (member : name ∈ family.names) :
    ∃ key : StoreKey, key.family = family ∧ key.text = name := by
  cases family with
  | lockKey =>
      obtain ⟨⟨eventId, seatId⟩, rfl⟩ := member
      exact ⟨.lockKey eventId seatId, rfl, rfl⟩
  | userSetKey =>
      obtain ⟨⟨eventId, userId⟩, rfl⟩ := member
      exact ⟨.userSetKey eventId userId, rfl, rfl⟩
  | eventSetKey =>
      obtain ⟨eventId, rfl⟩ := member
      exact ⟨.eventSetKey eventId, rfl, rfl⟩
  | queueKey =>
      obtain ⟨eventId, rfl⟩ := member
      exact ⟨.queueKey eventId, rfl, rfl⟩
  | seqKey =>
      obtain ⟨eventId, rfl⟩ := member
      exact ⟨.seqKey eventId, rfl, rfl⟩
  | activeKey =>
      obtain ⟨eventId, rfl⟩ := member
      exact ⟨.activeKey eventId, rfl, rfl⟩
  | tokenKey =>
      obtain ⟨⟨eventId, userId⟩, rfl⟩ := member
      exact ⟨.tokenKey eventId userId, rfl, rfl⟩

private theorem Family.disjoint_names {first second : Family}
    (different : first ≠ second) : Disjoint first.names second.names := by
  rw [Set.disjoint_left]
  intro name inFirst inSecond
  obtain ⟨key, isFirst, named⟩ := Family.exists_key inFirst
  obtain ⟨other, isSecond, namedToo⟩ := Family.exists_key inSecond
  have same : key = other :=
    StoreKey.text_injective (named.trans namedToo.symm)
  rw [← isFirst, ← isSecond, same] at different
  exact different rfl

/-! ## What the scripts are given -/

inductive Adapter where
  | seatLock
  | queueStore
  deriving DecidableEq, Repr

namespace StoreKey

def adapter : StoreKey → Adapter
  | .lockKey _ _ => .seatLock
  | .userSetKey _ _ => .seatLock
  | .eventSetKey _ => .seatLock
  | .queueKey _ => .queueStore
  | .seqKey _ => .queueStore
  | .activeKey _ => .queueStore
  | .tokenKey _ _ => .queueStore

def eventId : StoreKey → Uuid
  | .lockKey eventId _ => eventId
  | .userSetKey eventId _ => eventId
  | .eventSetKey eventId => eventId
  | .queueKey eventId => eventId
  | .seqKey eventId => eventId
  | .activeKey eventId => eventId
  | .tokenKey eventId _ => eventId

def seatId : StoreKey → Option Uuid
  | .lockKey _ seatId => some seatId
  | _ => none

def userId : StoreKey → Option Uuid
  | .userSetKey _ userId => some userId
  | .tokenKey _ userId => some userId
  | _ => none

end StoreKey

inductive ScriptCall where
  | acquire (eventId seatId userId : Uuid) (ttlSeconds maxPerUser : Int)
  | release (eventId seatId userId : Uuid)
  | verifyHeld (eventId : Uuid) (seatIds : List Uuid) (userId : Uuid)
  | extendHold (eventId : Uuid) (seatIds : List Uuid) (userId : Uuid)
      (ttlSeconds : Int)
  | releaseHold (eventId seatId userId : Uuid)
  | join (eventId userId : Uuid)
  | getStatus (eventId userId : Uuid)
  | admitUsers (eventId : Uuid) (cap ttlSeconds : Int)
  deriving DecidableEq

namespace ScriptCall

def adapter : ScriptCall → Adapter
  | .join _ _ => .queueStore
  | .getStatus _ _ => .queueStore
  | .admitUsers _ _ _ => .queueStore
  | _ => .seatLock

def eventId : ScriptCall → Uuid
  | .acquire eventId _ _ _ _ => eventId
  | .release eventId _ _ => eventId
  | .verifyHeld eventId _ _ => eventId
  | .extendHold eventId _ _ _ => eventId
  | .releaseHold eventId _ _ => eventId
  | .join eventId _ => eventId
  | .getStatus eventId _ => eventId
  | .admitUsers eventId _ _ => eventId

def seatIds : ScriptCall → List Uuid
  | .acquire _ seatId _ _ _ => [seatId]
  | .release _ seatId _ => [seatId]
  | .verifyHeld _ seatIds _ => seatIds
  | .extendHold _ seatIds _ _ => seatIds
  | .releaseHold _ seatId _ => [seatId]
  | _ => []

/-- The users that the call is about; an admit is about all of them. -/
def Concerns : ScriptCall → Uuid → Prop
  | .acquire _ _ userId _ _, user => user = userId
  | .release _ _ userId, user => user = userId
  | .verifyHeld _ _ userId, user => user = userId
  | .extendHold _ _ userId _, user => user = userId
  | .releaseHold _ _ userId, user => user = userId
  | .join _ userId, user => user = userId
  | .getStatus _ userId, user => user = userId
  | .admitUsers _ _ _, _ => True

/-- `KEYS` of `ACQUIRE_LUA` and `RELEASE_LUA`. -/
def holdKeys (eventId seatId userId : Uuid) : List StoreKey :=
  [.lockKey eventId seatId, .userSetKey eventId userId, .eventSetKey eventId]

/-- The builders and the ids of `KEYS`. -/
def keys : ScriptCall → List StoreKey
  | .acquire eventId seatId userId _ _ => holdKeys eventId seatId userId
  | .release eventId seatId userId => holdKeys eventId seatId userId
  | .verifyHeld eventId seatIds _ => seatIds.map (.lockKey eventId)
  | .extendHold eventId seatIds _ _ => seatIds.map (.lockKey eventId)
  | .releaseHold eventId seatId userId => holdKeys eventId seatId userId
  | .join eventId _ => [.seqKey eventId, .queueKey eventId]
  | .getStatus eventId userId => [.queueKey eventId, .tokenKey eventId userId]
  | .admitUsers eventId _ _ => [.queueKey eventId, .activeKey eventId]

/-- The names that a script builds itself, from `ARGV` and the members of a
set or a queue. -/
def Builds : ScriptCall → Text → Prop
  | .admitUsers eventId _ _, name =>
      ∃ userId, name = admitTokenKey (tokenPrefix eventId) userId
  | _, _ => False

/-- The script reads or writes under the name. -/
def Touches (call : ScriptCall) (name : Text) : Prop :=
  name ∈ call.keys.map StoreKey.text ∨ call.Builds name

/-- The key belongs to the adapter, the event, the seats and the users of the
call, as far as they are in its name. -/
structure Owns (call : ScriptCall) (key : StoreKey) : Prop where
  adapter : key.adapter = call.adapter
  eventId : key.eventId = call.eventId
  seatId : ∀ seatId ∈ key.seatId, seatId ∈ call.seatIds
  userId : ∀ userId ∈ key.userId, call.Concerns userId

private theorem owns_of_mem_keys {call : ScriptCall} {key : StoreKey}
    (member : key ∈ call.keys) : call.Owns key := by
  cases call <;>
    simp only [keys, holdKeys, List.mem_cons, List.not_mem_nil, or_false,
      List.mem_map] at member
  case verifyHeld =>
    obtain ⟨seatId, listed, rfl⟩ := member
    exact ⟨rfl, rfl, by simpa [StoreKey.seatId, seatIds] using listed, nofun⟩
  case extendHold =>
    obtain ⟨seatId, listed, rfl⟩ := member
    exact ⟨rfl, rfl, by simpa [StoreKey.seatId, seatIds] using listed, nofun⟩
  all_goals
    rcases member with rfl | rfl | rfl <;>
    constructor <;>
    simp [StoreKey.adapter, StoreKey.eventId, StoreKey.seatId,
      StoreKey.userId, adapter, eventId, seatIds, Concerns]

private theorem owns_of_builds {call : ScriptCall} {key : StoreKey}
    (builds : call.Builds key.text) : call.Owns key := by
  cases call with
  | admitUsers eventId cap ttlSeconds =>
      obtain ⟨userId, named⟩ := builds
      rw [admitTokenKey_tokenPrefix] at named
      have isToken : key = .tokenKey eventId userId :=
        StoreKey.text_injective named
      subst isToken
      exact ⟨rfl, rfl, nofun, fun _ _ => trivial⟩
  | _ => exact builds.elim

/-- A script touches no key of another adapter, event, seat or user. -/
theorem owns_of_touches {call : ScriptCall} {key : StoreKey}
    (touches : call.Touches key.text) : call.Owns key := by
  rcases touches with given | builds
  · obtain ⟨other, member, same⟩ := List.mem_map.mp given
    rw [← StoreKey.text_injective same]
    exact owns_of_mem_keys member
  · exact owns_of_builds builds

end ScriptCall

structure Stores where
  seatLocks : SeatStore
  queues : QueueStore

inductive Content where
  | lock (entry : Option (Entry UserId))
  | seats (seatIds : Finset SeatId)
  | queue (users : SortedSet Nat UserId)
  | count (entry : Option (Entry Nat))
  | users (userIds : Finset UserId)

/-- The numbers that stand for the ids in the stores. -/
abbrev Numbering := Uuid ↪ Nat

namespace Stores

variable (number : Numbering)

def content (stores : Stores) : StoreKey → Content
  | .lockKey eventId seatId =>
      .lock (lockEntry stores.seatLocks (number eventId) (number seatId))
  | .userSetKey eventId userId =>
      .seats (heldByUser stores.seatLocks (number eventId) (number userId))
  | .eventSetKey eventId =>
      .seats (heldInEvent stores.seatLocks (number eventId))
  | .queueKey eventId => .queue (queue stores.queues (number eventId))
  | .seqKey eventId => .count (seqEntry stores.queues (number eventId))
  | .activeKey eventId => .users (activeUsers stores.queues (number eventId))
  | .tokenKey eventId userId =>
      .count (tokenEntry stores.queues (number eventId) (number userId))

def acquireInput (eventId seatId userId : Uuid)
    (ttlSeconds maxPerUser : Int) : AcquireInput :=
  ⟨number eventId, number seatId, number userId, ttlSeconds, maxPerUser⟩

def onSeatLocks (stores : Stores) (op : SeatOp) : Stores :=
  { stores with seatLocks := op.apply stores.seatLocks }

def onQueues (stores : Stores) (op : QueueOp) : Stores :=
  { stores with queues := op.apply stores.queues }

def perform (stores : Stores) : ScriptCall → Stores
  | .acquire eventId seatId userId ttlSeconds maxPerUser =>
      stores.onSeatLocks (.acquire
        (acquireInput number eventId seatId userId ttlSeconds maxPerUser))
  | .release eventId seatId userId =>
      stores.onSeatLocks (.release
        ⟨number eventId, number seatId, number userId⟩)
  | .verifyHeld eventId seatIds userId =>
      stores.onSeatLocks (.verifyHeld (number eventId) (seatIds.map number)
        (number userId))
  | .extendHold eventId seatIds userId ttlSeconds =>
      stores.onSeatLocks (.extendHold (number eventId) (seatIds.map number)
        (number userId) ttlSeconds)
  | .releaseHold eventId seatId userId =>
      stores.onSeatLocks (.releaseHold (number eventId) (number seatId)
        (number userId))
  | .join eventId userId =>
      stores.onQueues (.join (number eventId) (number userId))
  | .getStatus eventId userId =>
      stores.onQueues (.getStatus (number eventId) (number userId))
  | .admitUsers eventId cap ttlSeconds =>
      stores.onQueues (.admitUsers ⟨number eventId, cap, ttlSeconds⟩)

variable {number} {locks : SeatStore} {queues after : QueueStore}
  {key : StoreKey} {eventId seatId userId : Uuid}

/-- A script that changes only the keys of one hold. -/
theorem content_of_hold {changed : SeatStore}
    (sameLocks : ∀ otherEvent otherSeat,
      ¬ (otherEvent = number eventId ∧ otherSeat = number seatId) →
        lockEntry changed otherEvent otherSeat =
          lockEntry locks otherEvent otherSeat)
    (sameUserSets : ∀ otherEvent otherUser,
      ¬ (otherEvent = number eventId ∧ otherUser = number userId) →
        heldByUser changed otherEvent otherUser =
          heldByUser locks otherEvent otherUser)
    (sameEventSets : ∀ otherEvent, otherEvent ≠ number eventId →
      heldInEvent changed otherEvent = heldInEvent locks otherEvent)
    (other : key ∉ ScriptCall.holdKeys eventId seatId userId) :
    content number ⟨changed, queues⟩ key =
      content number ⟨locks, queues⟩ key := by
  simp only [ScriptCall.holdKeys, List.mem_cons, List.not_mem_nil, or_false,
    not_or] at other
  obtain ⟨notLock, notUserSet, notEventSet⟩ := other
  cases key with
  | lockKey otherEvent otherSeat =>
      rw [content, content, sameLocks]
      rintro ⟨sameEvent, sameSeat⟩
      exact notLock (congrArg₂ StoreKey.lockKey
        (number.injective sameEvent) (number.injective sameSeat))
  | userSetKey otherEvent otherUser =>
      rw [content, content, sameUserSets]
      rintro ⟨sameEvent, sameUser⟩
      exact notUserSet (congrArg₂ StoreKey.userSetKey
        (number.injective sameEvent) (number.injective sameUser))
  | eventSetKey otherEvent =>
      rw [content, content, sameEventSets]
      intro sameEvent
      exact notEventSet
        (congrArg StoreKey.eventSetKey (number.injective sameEvent))
  | _ => rfl

private theorem content_granted {ttlSeconds maxPerUser : Int}
    (positive : 0 < ttlSeconds)
    (other : key ∉ ScriptCall.holdKeys eventId seatId userId) :
    content number
        ⟨granted
          (acquireInput number eventId seatId userId ttlSeconds maxPerUser)
          locks, queues⟩ key =
      content number ⟨locks, queues⟩ key := by
  have positiveInput : 0 < (acquireInput number eventId seatId userId
      ttlSeconds maxPerUser).ttlSeconds := positive
  refine content_of_hold ?_ ?_ ?_ other
  · intro otherEvent otherSeat different
    rw [lockEntry_granted positiveInput, if_neg]
    exact different
  · intro otherEvent otherUser different
    rw [heldByUser_granted, if_neg]
    exact different
  · intro otherEvent different
    rw [heldInEvent_granted, if_neg]
    exact different

private theorem content_dropped
    (other : key ∉ ScriptCall.holdKeys eventId seatId userId) :
    content number
        ⟨dropped (number eventId) (number seatId) (number userId) locks,
          queues⟩ key =
      content number ⟨locks, queues⟩ key := by
  refine content_of_hold ?_ ?_ ?_ other
  · intro otherEvent otherSeat different
    rw [lockEntry_dropped, if_neg different]
  · intro otherEvent otherUser different
    rw [heldByUser_dropped, if_neg different]
  · intro otherEvent different
    rw [heldInEvent_dropped, if_neg different]

private theorem content_extended {seatIds : List Uuid} {ttlSeconds : Int}
    (other : key ∉ seatIds.map (StoreKey.lockKey eventId)) :
    content number
        ⟨extended (number eventId) (seatIds.map number) ttlSeconds locks,
          queues⟩ key =
      content number ⟨locks, queues⟩ key := by
  cases key with
  | lockKey otherEvent otherSeat =>
      simp only [content, lockEntry_extended, number.injective.eq_iff,
        List.mem_map_of_injective number.injective]
      rw [if_neg]
      rintro ⟨rfl, listed⟩
      exact other (List.mem_map_of_mem listed)
  | userSetKey otherEvent otherUser =>
      simp only [content, heldByUser_extended]
  | eventSetKey otherEvent =>
      simp only [content, heldInEvent, extended_sets]
  | _ => rfl

private theorem content_joined (joined : Joined (number eventId) (number userId)
      queues after)
    (notSeq : key ≠ .seqKey eventId) (notQueue : key ≠ .queueKey eventId) :
    content number ⟨locks, after⟩ key = content number ⟨locks, queues⟩ key := by
  cases key with
  | queueKey otherEvent =>
      rw [content, content, joined.queue, if_neg]
      intro sameEvent
      exact notQueue (congrArg StoreKey.queueKey (number.injective sameEvent))
  | seqKey otherEvent =>
      rw [content, content, joined.seq, if_neg]
      intro sameEvent
      exact notSeq (congrArg StoreKey.seqKey (number.injective sameEvent))
  | activeKey otherEvent => rw [content, content, joined.active]
  | tokenKey otherEvent otherUser => rw [content, content, joined.token]
  | _ => rfl

private theorem seqEntry_rounds {input : AdmitInput} {start : QueueStore}
    {admitted : List UserId} (rounds : Rounds input start admitted queues)
    (other : EventId) : seqEntry queues other = seqEntry start other := by
  induction rounds with
  | none => rfl
  | next _ issued inductionHypothesis =>
      rw [issued.seq, inductionHypothesis]

/-- An admit draws no number. -/
theorem seqEntry_admitUsers (input : AdmitInput) (queues : QueueStore)
    (other : EventId) :
    seqEntry (admitUsers input queues).2 other = seqEntry queues other := by
  obtain ⟨swept, sweeps, ends⟩ := admitUsers_ends input queues
  have sameSwept : seqEntry swept other = seqEntry queues other :=
    sweeps.find _
  generalize admitUsers input queues = result at ends
  cases ends with
  | ended admitted last rounds =>
      rw [seqEntry_rounds rounds, sameSwept]
  | failed admitted last after userId rounds lost =>
      rw [lost.seq, seqEntry_rounds rounds, sameSwept]

private theorem content_admitUsers {cap ttlSeconds : Int}
    (notQueue : key ≠ .queueKey eventId)
    (notActive : key ≠ .activeKey eventId)
    (notToken : ∀ userId, key ≠ .tokenKey eventId userId) :
    content number
        ⟨locks, (admitUsers ⟨number eventId, cap, ttlSeconds⟩ queues).2⟩ key =
      content number ⟨locks, queues⟩ key := by
  have frame : ∀ otherEvent, otherEvent ≠ eventId →
      viewOf (admitUsers ⟨number eventId, cap, ttlSeconds⟩ queues).2
          (number otherEvent) =
        viewOf queues (number otherEvent) := by
    intro otherEvent different
    apply admitUsers_frame
    intro same
    exact different (number.injective same)
  cases key with
  | queueKey otherEvent =>
      have view := frame otherEvent fun same => notQueue (by rw [same])
      exact congrArg Content.queue (congrArg EventView.queue view)
  | seqKey otherEvent => rw [content, content, seqEntry_admitUsers]
  | activeKey otherEvent =>
      have view := frame otherEvent fun same => notActive (by rw [same])
      exact congrArg Content.users (congrArg EventView.active view)
  | tokenKey otherEvent otherUser =>
      have view := frame otherEvent fun same =>
        notToken otherUser (by rw [same])
      exact congrArg Content.count
        (congrFun (congrArg EventView.token view) (number otherUser))
  | _ => rfl

/-- A script leaves alone what is under a name that it does not touch. -/
theorem content_perform {stores : Stores} {call : ScriptCall}
    (untouched : ¬ call.Touches key.text) :
    content number (stores.perform number call) key =
      content number stores key := by
  have notGiven : key ∉ call.keys := by
    intro member
    exact untouched (Or.inl (List.mem_map_of_mem member))
  have notBuilt : ¬ call.Builds key.text := fun builds =>
    untouched (Or.inr builds)
  obtain ⟨locks, queues⟩ := stores
  cases call with
  | acquire eventId seatId userId ttlSeconds maxPerUser =>
      have changes := SeatOp.effect locks (.acquire
        (acquireInput number eventId seatId userId ttlSeconds maxPerUser))
      rw [perform, onSeatLocks]
      generalize SeatOp.apply locks _ = changed at changes
      cases changes with
      | unchanged => rfl
      | granted _ _ _ positive => exact content_granted positive notGiven
      | dropped _ _ _ _ releases =>
          rcases releases with same | same <;> cases same
  | release eventId seatId userId =>
      simp only [perform, onSeatLocks, SeatOp.apply, release_eq]
      split
      · exact content_dropped notGiven
      · rfl
  | verifyHeld eventId seatIds userId => rfl
  | extendHold eventId seatIds userId ttlSeconds =>
      simp only [perform, onSeatLocks, SeatOp.apply, extendHold_eq]
      split
      · exact content_extended notGiven
      · rfl
  | releaseHold eventId seatId userId =>
      simp only [perform, onSeatLocks, SeatOp.apply, releaseHold_eq]
      split
      · exact content_dropped notGiven
      · rfl
  | join eventId userId =>
      simp only [ScriptCall.keys, List.mem_cons, List.not_mem_nil, or_false,
        not_or] at notGiven
      rcases join_cases (number eventId) (number userId) queues with
        ⟨_, same⟩ | ⟨_, ⟨_, _, joined⟩ | ⟨_, same⟩⟩
      · simp only [perform, onQueues, QueueOp.apply, same]
      · exact content_joined joined notGiven.1 notGiven.2
      · simp only [perform, onQueues, QueueOp.apply, same]
  | getStatus eventId userId => rfl
  | admitUsers eventId cap ttlSeconds =>
      simp only [ScriptCall.keys, List.mem_cons, List.not_mem_nil, or_false,
        not_or] at notGiven
      refine content_admitUsers notGiven.1 notGiven.2 ?_
      rintro userId rfl
      exact notBuilt ⟨userId, (admitTokenKey_tokenPrefix eventId userId).symm⟩

end Stores

/-- The builders make a name for each choice of ids, no two of them the same
one, and `ADMIT_LUA` makes the names of `tokenKey`.  So a script touches only
keys of its own adapter, event, seats and users, and changes no other. -/
theorem keyFamilies_apart :
    (Function.Injective2 lockKey ∧ Function.Injective2 userSetKey ∧
      Function.Injective eventSetKey ∧ Function.Injective queueKey ∧
      Function.Injective seqKey ∧ Function.Injective activeKey ∧
      Function.Injective2 tokenKey) ∧
    (∀ first second : Family,
      first ≠ second → Disjoint first.names second.names) ∧
    (∀ eventId userId : Uuid,
      admitTokenKey (tokenPrefix eventId) userId = tokenKey eventId userId) ∧
    (∀ (call : ScriptCall) (key : StoreKey),
      call.Touches key.text → call.Owns key) ∧
    ∀ (number : Numbering) (stores : Stores) (call : ScriptCall)
      (key : StoreKey), ¬ call.Owns key →
        (stores.perform number call).content number key =
          stores.content number key := by
  refine ⟨⟨?_, ?_, ?_, ?_, ?_, ?_, ?_⟩, ?_, admitTokenKey_tokenPrefix, ?_, ?_⟩
  · intro _ _ _ _ same
    exact StoreKey.lockKey.inj (StoreKey.text_injective same)
  · intro _ _ _ _ same
    exact StoreKey.userSetKey.inj (StoreKey.text_injective same)
  · intro _ _ same
    exact StoreKey.eventSetKey.inj (StoreKey.text_injective same)
  · intro _ _ same
    exact StoreKey.queueKey.inj (StoreKey.text_injective same)
  · intro _ _ same
    exact StoreKey.seqKey.inj (StoreKey.text_injective same)
  · intro _ _ same
    exact StoreKey.activeKey.inj (StoreKey.text_injective same)
  · intro _ _ _ _ same
    exact StoreKey.tokenKey.inj (StoreKey.text_injective same)
  · intro first second different
    exact Family.disjoint_names different
  · intro call key touches
    exact ScriptCall.owns_of_touches touches
  · intro number stores call key foreign
    apply Stores.content_perform
    intro touches
    exact foreign (ScriptCall.owns_of_touches touches)

def sampleEvent : Uuid :=
  ⟨"3f2c9a10-7b4e-4d1c-9e55-0a1b2c3d4e5f".toList, by decide⟩

def sampleUser : Uuid :=
  ⟨"9b1deb4d-3b7d-4bad-9bdd-2b0d7b3dcb6d".toList, by decide⟩

/-- A join of one event against the names of another builder and against the
queue of another event. -/
theorem keyFamilies_apart_join :
    Disjoint Family.queueKey.names Family.seqKey.names ∧
      (ScriptCall.join sampleEvent sampleUser).Owns (.seqKey sampleEvent) ∧
      ¬ (ScriptCall.join sampleEvent sampleUser).Touches
        (queueKey sampleUser) := by
  obtain ⟨_, disjoint, _, owned, _⟩ := keyFamilies_apart
  refine ⟨disjoint .queueKey .seqKey (by decide), owned _ _ ?_, ?_⟩
  · exact Or.inl (List.mem_map_of_mem (List.mem_cons_self))
  · intro touches
    have owns := owned _ (.queueKey sampleUser) touches
    exact absurd owns.eventId (by decide)

end ConcertTicketing.Keys
