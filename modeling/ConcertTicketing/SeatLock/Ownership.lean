import ConcertTicketing.Library.Trace
import ConcertTicketing.SeatLock.Store

/-!
# Who owns a lock, and who can change that

The store as a transition system: its steps are the scripts of the two
adapters, by any user and with any arguments, and the passing of time.
`SeatOp.effect` says once what a step can do; every result about runs of the
store is derived from it.
-/

namespace ConcertTicketing.SeatLock

open Redis

inductive SeatOp where
  | acquire (input : AcquireInput)
  | release (input : ReleaseInput)
  | verifyHeld (eventId : EventId) (seatIds : List SeatId) (userId : UserId)
  | extendHold (eventId : EventId) (seatIds : List SeatId) (userId : UserId)
      (ttlSeconds : Int)
  | releaseHold (eventId : EventId) (seatId : SeatId) (userId : UserId)
  | tick (elapsed : Nat)
  deriving DecidableEq, Repr

namespace SeatOp

def apply (db : SeatStore) : SeatOp → SeatStore
  | .acquire input => (SeatLock.acquire input db).2
  | .release input => (SeatLock.release input db).2
  | .verifyHeld _ _ _ => db
  | .extendHold eventId seatIds userId ttlSeconds =>
      (SeatLock.extendHold eventId seatIds userId ttlSeconds db).2
  | .releaseHold eventId seatId userId =>
      SeatLock.releaseHold eventId seatId userId db
  | .tick elapsed => db.tick elapsed

def actor : SeatOp → Option UserId
  | .acquire input => some input.userId
  | .release input => some input.userId
  | .verifyHeld _ _ userId => some userId
  | .extendHold _ _ userId _ => some userId
  | .releaseHold _ _ userId => some userId
  | .tick _ => none

/-- The TTL arguments are positive. -/
def PositiveTtl : SeatOp → Prop
  | .acquire input => 0 < input.ttlSeconds
  | .extendHold _ _ _ ttlSeconds => 0 < ttlSeconds
  | _ => True

instance : DecidablePred PositiveTtl
  | .acquire input => inferInstanceAs (Decidable (0 < input.ttlSeconds))
  | .extendHold _ _ _ ttlSeconds =>
      inferInstanceAs (Decidable (0 < ttlSeconds))
  | .release _ => isTrue trivial
  | .verifyHeld _ _ _ => isTrue trivial
  | .releaseHold _ _ _ => isTrue trivial
  | .tick _ => isTrue trivial

/-- The step runs `RELEASE_LUA` on the seat for the user. -/
def Releases (op : SeatOp) (eventId : EventId) (seatId : SeatId)
    (userId : UserId) : Prop :=
  op = .release ⟨eventId, seatId, userId⟩ ∨
    op = .releaseHold eventId seatId userId

instance (op : SeatOp) (eventId : EventId) (seatId : SeatId)
    (userId : UserId) : Decidable (op.Releases eventId seatId userId) :=
  inferInstanceAs (Decidable (_ ∨ _))

/-- The lock that a release script is run on. -/
def released : SeatOp → Option ReleaseInput
  | .release input => some input
  | .releaseHold eventId seatId userId => some ⟨eventId, seatId, userId⟩
  | _ => none

def acquired : SeatOp → Option AcquireInput
  | .acquire input => some input
  | _ => none

theorem releases_iff {op : SeatOp} {eventId : EventId} {seatId : SeatId}
    {userId : UserId} :
    op.Releases eventId seatId userId ↔
      op.released = some ⟨eventId, seatId, userId⟩ := by
  cases op <;> simp [Releases, released]

/-- The step is an acquire of the seat that answers `OK`. -/
def Grants (db : SeatStore) (eventId : EventId) (seatId : SeatId) :
    SeatOp → Prop
  | .acquire input =>
      input.eventId = eventId ∧ input.seatId = seatId ∧
        (SeatLock.acquire input db).1 = .ok .ok
  | _ => False

instance (db : SeatStore) (eventId : EventId) (seatId : SeatId) :
    DecidablePred (Grants db eventId seatId)
  | .acquire _ => inferInstanceAs (Decidable (_ ∧ _ ∧ _))
  | .release _ => isFalse id
  | .verifyHeld _ _ _ => isFalse id
  | .extendHold _ _ _ _ => isFalse id
  | .releaseHold _ _ _ => isFalse id
  | .tick _ => isFalse id

/-- Every way in which a step can change the store, with its guards. -/
inductive Effect (db : SeatStore) : SeatOp → SeatStore → Prop
  | unchanged (op : SeatOp) : Effect db op db
  | granted (input : AcquireInput)
      (free : holder db input.eventId input.seatId = none)
      (below :
        ((heldByUser db input.eventId input.userId).card : Int) <
          input.maxPerUser)
      (positive : 0 < input.ttlSeconds) :
      Effect db (.acquire input) (SeatLock.granted input db)
  | dropped (op : SeatOp) (eventId : EventId) (seatId : SeatId)
      (userId : UserId)
      (releases : op.Releases eventId seatId userId)
      (held : holder db eventId seatId = some userId) :
      Effect db op (SeatLock.dropped eventId seatId userId db)
  | extended (eventId : EventId) (seatIds : List SeatId) (userId : UserId)
      (ttlSeconds : Int)
      (held : AllHeld db eventId seatIds userId) :
      Effect db (.extendHold eventId seatIds userId ttlSeconds)
        (SeatLock.extended eventId seatIds ttlSeconds db)
  | ticked (elapsed : Nat) : Effect db (.tick elapsed) (db.tick elapsed)

theorem effect (db : SeatStore) (op : SeatOp) :
    Effect db op (op.apply db) := by
  cases op with
  | acquire input =>
      simp only [apply, acquire_eq]
      cases free : holder db input.eventId input.seatId with
      | some owner =>
          by_cases same : owner = input.userId <;>
            simp only [same, if_true, if_false] <;> exact .unchanged _
      | none =>
          by_cases full :
              input.maxPerUser ≤
                ((heldByUser db input.eventId input.userId).card : Int)
          · simp only [if_pos full]
            exact .unchanged _
          · by_cases positive : 0 < input.ttlSeconds
            · simp only [if_neg full, if_pos positive]
              exact .granted input free (lt_of_not_ge full) positive
            · simp only [if_neg full, if_neg positive]
              exact .unchanged _
  | release input =>
      simp only [apply, release_eq]
      by_cases held :
          holder db input.eventId input.seatId = some input.userId
      · rw [if_pos held]
        exact .dropped _ _ _ _ (Or.inl rfl) held
      · rw [if_neg held]
        exact .unchanged _
  | verifyHeld eventId seatIds userId =>
      exact .unchanged _
  | extendHold eventId seatIds userId ttlSeconds =>
      simp only [apply, extendHold_eq]
      by_cases held : AllHeld db eventId seatIds userId
      · rw [if_pos held]
        exact .extended _ _ _ _ held
      · rw [if_neg held]
        exact .unchanged _
  | releaseHold eventId seatId userId =>
      simp only [apply, releaseHold_eq]
      by_cases held : holder db eventId seatId = some userId
      · rw [if_pos held]
        exact .dropped _ _ _ _ (Or.inr rfl) held
      · rw [if_neg held]
        exact .unchanged _
  | tick elapsed =>
      exact .ticked elapsed

end SeatOp

theorem holder_eq_some_iff {db : SeatStore} {eventId : EventId}
    {seatId : SeatId} {userId : UserId} :
    holder db eventId seatId = some userId ↔
      ∃ entry, lockEntry db eventId seatId = some entry ∧
        entry.value = userId :=
  Db.get_eq_some_iff

theorem holder_eq_none_iff {db : SeatStore} {eventId : EventId}
    {seatId : SeatId} :
    holder db eventId seatId = none ↔
      lockEntry db eventId seatId = none :=
  Db.get_eq_none_iff

theorem holder_granted {input : AcquireInput}
    (positive : 0 < input.ttlSeconds) (db : SeatStore) (eventId : EventId)
    (seatId : SeatId) :
    holder (granted input db) eventId seatId =
      if eventId = input.eventId ∧ seatId = input.seatId then
        some input.userId
      else holder db eventId seatId := by
  rw [holder_eq, lockEntry_granted positive]
  split <;> rfl

theorem holder_dropped (eventId : EventId) (seatId : SeatId)
    (userId : UserId) (db : SeatStore) (otherEvent : EventId)
    (otherSeat : SeatId) :
    holder (dropped eventId seatId userId db) otherEvent otherSeat =
      if otherEvent = eventId ∧ otherSeat = seatId then none
      else holder db otherEvent otherSeat := by
  rw [holder_eq, lockEntry_dropped]
  split <;> rfl

/-- A positive TTL renews locks and moves none. -/
theorem holder_extended {ttlSeconds : Int} (positive : 0 < ttlSeconds)
    (eventId : EventId) (seatIds : List SeatId) (db : SeatStore)
    (otherEvent : EventId) (otherSeat : SeatId) :
    holder (extended eventId seatIds ttlSeconds db) otherEvent otherSeat =
      holder db otherEvent otherSeat := by
  rw [holder_eq, holder_eq, lockEntry_extended]
  split
  · cases lockEntry db otherEvent otherSeat <;>
      simp [Db.renewed, positive]
  · rfl

/-- A non-positive TTL deletes the locks it names. -/
theorem holder_extended_nonpositive {ttlSeconds : Int}
    (nonpositive : ¬ 0 < ttlSeconds) (eventId : EventId)
    (seatIds : List SeatId) (db : SeatStore) (otherEvent : EventId)
    (otherSeat : SeatId) :
    holder (extended eventId seatIds ttlSeconds db) otherEvent otherSeat =
      if otherEvent = eventId ∧ otherSeat ∈ seatIds then none
      else holder db otherEvent otherSeat := by
  rw [holder_eq, holder_eq, lockEntry_extended]
  split
  · cases lockEntry db otherEvent otherSeat <;>
      simp [Db.renewed, nonpositive]
  · rfl

theorem lockEntry_tick (db : SeatStore) (elapsed : Nat) (eventId : EventId)
    (seatId : SeatId) :
    lockEntry (db.tick elapsed) eventId seatId =
      (lockEntry db eventId seatId).filter
        fun entry => decide (entry.Live (db.now + elapsed)) :=
  Db.find_tick db elapsed _

/-- An owner after a tick was the owner before it. -/
theorem holder_of_holder_tick {db : SeatStore} {elapsed : Nat}
    {eventId : EventId} {seatId : SeatId} {userId : UserId}
    (held : holder (db.tick elapsed) eventId seatId = some userId) :
    holder db eventId seatId = some userId := by
  obtain ⟨entry, found, owned⟩ := holder_eq_some_iff.mp held
  rw [lockEntry_tick, Option.filter_eq_some_iff] at found
  exact holder_eq_some_iff.mpr ⟨entry, found.1, owned⟩

/-- A live lock after `extendHold` was live, with the same owner, before. -/
theorem holder_of_holder_extended {eventId : EventId}
    {seatIds : List SeatId} {ttlSeconds : Int} {db : SeatStore}
    {otherEvent : EventId} {otherSeat : SeatId} {userId : UserId}
    (held :
      holder (extended eventId seatIds ttlSeconds db) otherEvent otherSeat =
        some userId) :
    holder db otherEvent otherSeat = some userId := by
  by_cases positive : 0 < ttlSeconds
  · rwa [holder_extended positive] at held
  · rw [holder_extended_nonpositive positive] at held
    split at held
    · cases held
    · exact held

/-- A live lock after a step was live before it, or the step granted it. -/
theorem holder_of_effect {db after : SeatStore} {op : SeatOp}
    (effect : op.Effect db after) {eventId : EventId} {seatId : SeatId}
    {userId : UserId} (held : holder after eventId seatId = some userId) :
    holder db eventId seatId = some userId ∨
      ∃ input, op = .acquire input ∧ input.eventId = eventId ∧
        input.seatId = seatId ∧ input.userId = userId ∧
        (acquire input db).1 = .ok .ok := by
  cases effect with
  | unchanged => exact Or.inl held
  | granted input free below positive =>
      rw [holder_granted positive] at held
      split at held
      · next same =>
          exact Or.inr
            ⟨input, rfl, same.1.symm, same.2.symm, Option.some.inj held,
              acquire_ok_iff.mpr ⟨free, below, positive⟩⟩
      · exact Or.inl held
  | dropped =>
      rw [holder_dropped] at held
      split at held
      · cases held
      · exact Or.inl held
  | extended event seats user ttlSeconds allHeld =>
      exact Or.inl (holder_of_holder_extended held)
  | ticked elapsed =>
      exact Or.inl (holder_of_holder_tick held)

/-- The user owns the live lock of the seat and it does not lapse before the
deadline. -/
def HeldUntil (db : SeatStore) (eventId : EventId) (seatId : SeatId)
    (userId : UserId) (deadline : Instant) : Prop :=
  ∃ entry, lockEntry db eventId seatId = some entry ∧
    entry.value = userId ∧ ∀ lapse ∈ entry.expireAt, deadline ≤ lapse

theorem HeldUntil.holder_eq {db : SeatStore} {eventId : EventId}
    {seatId : SeatId} {userId : UserId} {deadline : Instant}
    (held : HeldUntil db eventId seatId userId deadline) :
    holder db eventId seatId = some userId := by
  obtain ⟨entry, found, owned, _⟩ := held
  exact holder_eq_some_iff.mpr ⟨entry, found, owned⟩

theorem HeldUntil.mono {db : SeatStore} {eventId : EventId}
    {seatId : SeatId} {userId : UserId} {earlier later : Instant}
    (held : HeldUntil db eventId seatId userId later)
    (order : earlier ≤ later) :
    HeldUntil db eventId seatId userId earlier := by
  obtain ⟨entry, found, owned, lasts⟩ := held
  refine ⟨entry, found, owned, ?_⟩
  intro lapse same
  exact order.trans (lasts lapse same)

/-- `extendHold` gives every seat of the list the same deadline. -/
theorem heldUntil_extended {db : SeatStore} {eventId : EventId}
    {seatIds : List SeatId} {userId : UserId} {ttlSeconds : Int}
    (positive : 0 < ttlSeconds) (held : AllHeld db eventId seatIds userId)
    {seatId : SeatId} (member : seatId ∈ seatIds) :
    HeldUntil (extended eventId seatIds ttlSeconds db) eventId seatId userId
      (db.deadlineIn ttlSeconds) := by
  obtain ⟨entry, found, owned⟩ := holder_eq_some_iff.mp (held seatId member)
  refine ⟨⟨entry.value, some (db.deadlineIn ttlSeconds)⟩, ?_, owned, ?_⟩
  · rw [lockEntry_extended, if_pos ⟨rfl, member⟩, found, Option.bind_some,
      Db.renewed, if_pos positive]
  · intro lapse same
    cases same
    exact le_refl _

/-- Until its deadline such a lock survives every step but a release of its
owner, if no script can set the deadline earlier. -/
theorem HeldUntil.of_effect {db after : SeatStore} {op : SeatOp}
    {eventId : EventId} {seatId : SeatId} {userId : UserId}
    {deadline : Instant}
    (held : HeldUntil db eventId seatId userId deadline)
    (effect : op.Effect db after)
    (early : after.now < deadline)
    (kept : ¬ op.Releases eventId seatId userId)
    (renewal : ∀ otherEvent seatIds otherUser ttlSeconds,
      op = .extendHold otherEvent seatIds otherUser ttlSeconds →
      deadline ≤ db.deadlineIn ttlSeconds) :
    HeldUntil after eventId seatId userId deadline := by
  have owned := held.holder_eq
  obtain ⟨entry, found, value, lasts⟩ := held
  cases effect with
  | unchanged => exact ⟨entry, found, value, lasts⟩
  | granted input free _ positive =>
      refine ⟨entry, ?_, value, lasts⟩
      rw [lockEntry_granted positive, if_neg]
      · exact found
      · rintro ⟨rfl, rfl⟩
        rw [free] at owned
        cases owned
  | dropped _ event seat user releases holds =>
      refine ⟨entry, ?_, value, lasts⟩
      rw [lockEntry_dropped, if_neg]
      · exact found
      · rintro ⟨rfl, rfl⟩
        rw [holds] at owned
        cases owned
        exact kept releases
  | extended event seats user ttlSeconds allHeld =>
      have reaches := renewal event seats user ttlSeconds rfl
      rw [extended_now] at early
      have positive : 0 < ttlSeconds :=
        Db.seconds_pos_of_lt (lt_of_lt_of_le early reaches)
      by_cases covered : eventId = event ∧ seatId ∈ seats
      · obtain ⟨rfl, member⟩ := covered
        have owner := allHeld seatId member
        rw [owned] at owner
        cases owner
        have renewed := heldUntil_extended positive allHeld member
        exact renewed.mono reaches
      · refine ⟨entry, ?_, value, lasts⟩
        rw [lockEntry_extended, if_neg covered]
        exact found
  | ticked elapsed =>
      refine ⟨entry, ?_, value, lasts⟩
      have live : entry.Live (db.now + elapsed) :=
        fun lapse same => lt_of_lt_of_le early (lasts lapse same)
      rw [lockEntry_tick, found]
      simp [Option.filter, live]

/-- What one step may do to owners, TTLs and held-sets. -/
structure OwnershipDiscipline (db : SeatStore) (op : SeatOp) : Prop where
  /-- absent to owned: only by an acquire of the new owner -/
  gained : ∀ eventId seatId userId,
    holder db eventId seatId = none →
    holder (op.apply db) eventId seatId = some userId →
    ∃ input, op = .acquire input ∧ input.eventId = eventId ∧
      input.seatId = seatId ∧ input.userId = userId
  /-- owned to absent: a release or an order expiry of the owner, or time -/
  lost : ∀ eventId seatId userId,
    holder db eventId seatId = some userId →
    holder (op.apply db) eventId seatId = none →
    op.Releases eventId seatId userId ∨
      ∃ elapsed entry deadline,
        op = .tick elapsed ∧ lockEntry db eventId seatId = some entry ∧
          entry.expireAt = some deadline ∧ deadline ≤ db.now + elapsed
  /-- an owner is never replaced in one step -/
  kept : ∀ eventId seatId userId other,
    holder db eventId seatId = some userId →
    holder (op.apply db) eventId seatId = some other →
    other = userId
  /-- an acquire of a seat that another user owns is refused -/
  refused : ∀ input userId,
    op = .acquire input →
    holder db input.eventId input.seatId = some userId →
    input.userId ≠ userId →
    acquire input db = (.ok .seatTaken, db)
  /-- scripts of other users leave the owner, the TTL and the held-set -/
  undisturbed : ∀ userId other,
    op.actor = some other →
    other ≠ userId →
    (∀ eventId seatId,
      holder db eventId seatId = some userId →
      lockEntry (op.apply db) eventId seatId =
        lockEntry db eventId seatId) ∧
    ∀ eventId,
      heldByUser (op.apply db) eventId userId = heldByUser db eventId userId

private theorem SeatOp.Releases.actor_eq {op : SeatOp} {eventId : EventId}
    {seatId : SeatId} {userId : UserId}
    (releases : op.Releases eventId seatId userId) :
    op.actor = some userId := by
  rcases releases with rfl | rfl <;> rfl

private theorem gained_of_effect {db after : SeatStore} {op : SeatOp}
    (effect : op.Effect db after) {eventId : EventId} {seatId : SeatId}
    {userId : UserId}
    (free : holder db eventId seatId = none)
    (held : holder after eventId seatId = some userId) :
    ∃ input, op = .acquire input ∧ input.eventId = eventId ∧
      input.seatId = seatId ∧ input.userId = userId := by
  rcases holder_of_effect effect held with
    before | ⟨input, asked, sameEvent, sameSeat, sameUser, _⟩
  · rw [free] at before
    cases before
  · exact ⟨input, asked, sameEvent, sameSeat, sameUser⟩

private theorem lost_of_effect {db after : SeatStore} {op : SeatOp}
    (effect : op.Effect db after) (positiveTtl : op.PositiveTtl)
    {eventId : EventId} {seatId : SeatId} {userId : UserId}
    (held : holder db eventId seatId = some userId)
    (free : holder after eventId seatId = none) :
    op.Releases eventId seatId userId ∨
      ∃ elapsed entry deadline,
        op = .tick elapsed ∧ lockEntry db eventId seatId = some entry ∧
          entry.expireAt = some deadline ∧
            deadline ≤ db.now + (elapsed : Int) := by
  cases effect with
  | unchanged =>
      rw [held] at free
      cases free
  | granted input _ _ positive =>
      rw [holder_granted positive, held] at free
      split at free <;> cases free
  | dropped _ event seat user releases owned =>
      rw [holder_dropped] at free
      split at free
      · next same =>
          obtain ⟨rfl, rfl⟩ := same
          rw [held] at owned
          cases owned
          exact Or.inl releases
      · rw [held] at free
        cases free
  | extended event seats user ttlSeconds _ =>
      rw [holder_extended positiveTtl, held] at free
      cases free
  | ticked elapsed =>
      obtain ⟨entry, found, _⟩ := holder_eq_some_iff.mp held
      rw [holder_eq_none_iff, lockEntry_tick, found] at free
      have lapsed : ¬ entry.Live (db.now + elapsed) := by
        simpa [Option.filter] using free
      simp only [Entry.Live, not_forall, not_lt] at lapsed
      obtain ⟨deadline, member, passed⟩ := lapsed
      exact Or.inr ⟨elapsed, entry, deadline, rfl, found, member, passed⟩

private theorem kept_of_effect {db after : SeatStore} {op : SeatOp}
    (effect : op.Effect db after) {eventId : EventId} {seatId : SeatId}
    {userId other : UserId}
    (held : holder db eventId seatId = some userId)
    (heldAfter : holder after eventId seatId = some other) :
    other = userId := by
  cases effect with
  | unchanged =>
      exact Option.some.inj (heldAfter.symm.trans held)
  | granted input free _ positive =>
      rw [holder_granted positive] at heldAfter
      split at heldAfter
      · next same =>
          rw [same.1, same.2, free] at held
          cases held
      · exact Option.some.inj (heldAfter.symm.trans held)
  | dropped =>
      rw [holder_dropped] at heldAfter
      split at heldAfter
      · cases heldAfter
      · exact Option.some.inj (heldAfter.symm.trans held)
  | extended event seats user ttlSeconds _ =>
      by_cases positive : 0 < ttlSeconds
      · rw [holder_extended positive] at heldAfter
        exact Option.some.inj (heldAfter.symm.trans held)
      · rw [holder_extended_nonpositive positive] at heldAfter
        split at heldAfter
        · cases heldAfter
        · exact Option.some.inj (heldAfter.symm.trans held)
  | ticked elapsed =>
      have before := holder_of_holder_tick heldAfter
      exact Option.some.inj (before.symm.trans held)

private theorem entry_undisturbed {db after : SeatStore} {op : SeatOp}
    (effect : op.Effect db after) {userId other : UserId}
    (acts : op.actor = some other) (different : other ≠ userId)
    {eventId : EventId} {seatId : SeatId}
    (held : holder db eventId seatId = some userId) :
    lockEntry after eventId seatId = lockEntry db eventId seatId := by
  cases effect with
  | unchanged => rfl
  | granted input free _ positive =>
      rw [lockEntry_granted positive]
      split
      · next same =>
          rw [same.1, same.2, free] at held
          cases held
      · rfl
  | dropped _ event seat user releases owned =>
      rw [lockEntry_dropped]
      split
      · next same =>
          have actorIsUser : user = other :=
            Option.some.inj (releases.actor_eq.symm.trans acts)
          rw [same.1, same.2, owned] at held
          exact absurd (actorIsUser.symm.trans (Option.some.inj held))
            different
      · rfl
  | extended event seats user ttlSeconds allHeld =>
      rw [lockEntry_extended]
      split
      · next same =>
          have owned := allHeld seatId same.2
          rw [← same.1, held] at owned
          have actorIsUser : user = other := Option.some.inj acts
          exact absurd
            (actorIsUser.symm.trans (Option.some.inj owned).symm) different
      · rfl
  | ticked => cases acts

private theorem heldByUser_undisturbed {db after : SeatStore} {op : SeatOp}
    (effect : op.Effect db after) {userId other : UserId}
    (acts : op.actor = some other) (different : other ≠ userId)
    (eventId : EventId) :
    heldByUser after eventId userId = heldByUser db eventId userId := by
  cases effect with
  | unchanged => rfl
  | granted input _ _ _ =>
      have actorIsUser : input.userId = other := Option.some.inj acts
      rw [heldByUser_granted, if_neg]
      rintro ⟨_, same⟩
      exact different (actorIsUser.symm.trans same.symm)
  | dropped _ event seat user releases _ =>
      have actorIsUser : user = other :=
        Option.some.inj (releases.actor_eq.symm.trans acts)
      rw [heldByUser_dropped, if_neg]
      rintro ⟨_, same⟩
      exact different (actorIsUser.symm.trans same.symm)
  | extended =>
      exact heldByUser_extended _ _ _ _ _ _
  | ticked => cases acts

private theorem ownershipDiscipline (db : SeatStore) (op : SeatOp)
    (positiveTtl : op.PositiveTtl) : OwnershipDiscipline db op where
  gained := fun _ _ _ free held => gained_of_effect (op.effect db) free held
  lost := fun _ _ _ held free =>
    lost_of_effect (op.effect db) positiveTtl held free
  kept := fun _ _ _ _ held after => kept_of_effect (op.effect db) held after
  refused := by
    intro input userId _ held different
    rw [acquire_eq, held]
    exact if_neg (Ne.symm different)
  undisturbed := fun userId other acts different =>
    ⟨fun _ _ held => entry_undisturbed (op.effect db) acts different held,
      heldByUser_undisturbed (op.effect db) acts different⟩

/-! ## Runs of the store -/

def storeStep (db : SeatStore) (op : SeatOp) : Option SeatStore :=
  some (op.apply db)

/-- The step is an acquire of the seat. -/
def SeatOp.Contends (eventId : EventId) (seatId : SeatId) : SeatOp → Prop
  | .acquire input => input.eventId = eventId ∧ input.seatId = seatId
  | _ => False

/-- Whoever acquires the seat in this step holds less than their limit. -/
def SeatOp.BelowLimit (eventId : EventId) (seatId : SeatId)
    (db : SeatStore) : SeatOp → Prop
  | .acquire input =>
      input.eventId = eventId ∧ input.seatId = seatId →
        ((heldByUser db input.eventId input.userId).card : Int) <
          input.maxPerUser
  | _ => True

instance (eventId : EventId) (seatId : SeatId) (db : SeatStore) :
    DecidablePred (SeatOp.BelowLimit eventId seatId db)
  | .acquire _ => inferInstanceAs (Decidable (_ ∧ _ → _ < _))
  | .release _ => isTrue trivial
  | .verifyHeld _ _ _ => isTrue trivial
  | .extendHold _ _ _ _ => isTrue trivial
  | .releaseHold _ _ _ => isTrue trivial
  | .tick _ => isTrue trivial

/-- The step does not give the lock of the seat up. -/
def KeepsLocked (eventId : EventId) (seatId : SeatId) (db : SeatStore)
    (op : SeatOp) : Prop :=
  holder db eventId seatId ≠ none →
    holder (op.apply db) eventId seatId ≠ none

instance (eventId : EventId) (seatId : SeatId) (db : SeatStore)
    (op : SeatOp) : Decidable (KeepsLocked eventId seatId db op) :=
  inferInstanceAs (Decidable (_ → _))

/-- The acquires of the seat that answered `OK`. -/
def grantsIn (eventId : EventId) (seatId : SeatId)
    (history : List (SeatStore × SeatOp)) : List (SeatStore × SeatOp) :=
  history.filter fun entry => decide (entry.2.Grants entry.1 eventId seatId)

private theorem grantsIn_cons (eventId : EventId) (seatId : SeatId)
    (entry : SeatStore × SeatOp) (history : List (SeatStore × SeatOp)) :
    (grantsIn eventId seatId (entry :: history)).length =
      (if entry.2.Grants entry.1 eventId seatId then 1 else 0) +
        (grantsIn eventId seatId history).length := by
  by_cases grants : entry.2.Grants entry.1 eventId seatId
  · rw [if_pos grants, grantsIn, List.filter_cons_of_pos (by simpa using grants),
      List.length_cons, Nat.add_comm]
    rfl
  · rw [if_neg grants, grantsIn, List.filter_cons_of_neg (by simpa using grants),
      Nat.zero_add]
    rfl

/-- An acquire is granted only when the seat is free. -/
theorem SeatOp.Grants.free {db : SeatStore} {eventId : EventId}
    {seatId : SeatId} {op : SeatOp}
    (grants : op.Grants db eventId seatId) :
    holder db eventId seatId = none := by
  cases op with
  | acquire input =>
      obtain ⟨rfl, rfl, answered⟩ := grants
      exact (acquire_ok_iff.mp answered).1
  | _ => exact grants.elim

/-- An acquire of a free seat by a user below their limit is granted. -/
theorem SeatOp.Contends.grants {db : SeatStore} {eventId : EventId}
    {seatId : SeatId} {op : SeatOp}
    (contends : op.Contends eventId seatId)
    (free : holder db eventId seatId = none)
    (below : op.BelowLimit eventId seatId db) (positive : op.PositiveTtl) :
    op.Grants db eventId seatId ∧
      holder (op.apply db) eventId seatId ≠ none := by
  cases op with
  | acquire input =>
      obtain ⟨rfl, rfl⟩ := contends
      have answer :
          SeatLock.acquire input db = (.ok .ok, granted input db) := by
        rw [acquire_eq, free]
        simp only [if_neg (not_le_of_gt (below ⟨rfl, rfl⟩))]
        exact if_pos positive
      refine ⟨⟨rfl, rfl, by rw [answer]⟩, ?_⟩
      simp only [SeatOp.apply, answer, holder_granted positive, true_and,
        if_true]
      exact Option.some_ne_none _
  | _ => exact contends.elim

private theorem SeatOp.Grants.contends {db : SeatStore} {eventId : EventId}
    {seatId : SeatId} {op : SeatOp}
    (grants : op.Grants db eventId seatId) :
    op.Contends eventId seatId := by
  cases op with
  | acquire input => exact ⟨grants.1, grants.2.1⟩
  | _ => exact grants

/-- Nobody has tried for the seat yet, or it is locked and has been granted
once. -/
inductive FreeOrGranted (eventId : EventId) (seatId : SeatId)
    (history : List (SeatStore × SeatOp)) (db : SeatStore) : Prop
  | untried (free : holder db eventId seatId = none)
      (quiet : ∀ entry ∈ history, ¬ entry.2.Contends eventId seatId)
  | taken (locked : holder db eventId seatId ≠ none)
      (once : (grantsIn eventId seatId history).length = 1)

private theorem grantsIn_of_quiet {eventId : EventId} {seatId : SeatId}
    {history : List (SeatStore × SeatOp)}
    (quiet : ∀ entry ∈ history, ¬ entry.2.Contends eventId seatId) :
    (grantsIn eventId seatId history).length = 0 := by
  rw [List.length_eq_zero_iff]
  apply List.filter_eq_nil_iff.mpr
  intro entry member granted
  exact quiet entry member (of_decide_eq_true granted).contends

theorem FreeOrGranted.step {eventId : EventId} {seatId : SeatId}
    {history : List (SeatStore × SeatOp)} {db : SeatStore} {op : SeatOp}
    (current : FreeOrGranted eventId seatId history db)
    (positive : op.PositiveTtl) (below : op.BelowLimit eventId seatId db)
    (keeps : KeepsLocked eventId seatId db op) :
    FreeOrGranted eventId seatId ((db, op) :: history) (op.apply db) := by
  cases current with
  | untried free quiet =>
      by_cases contends : op.Contends eventId seatId
      · have granted := contends.grants free below positive
        refine .taken granted.2 ?_
        rw [grantsIn_cons, if_pos granted.1, grantsIn_of_quiet quiet]
      · refine .untried ?_ (List.forall_mem_cons.mpr ⟨contends, quiet⟩)
        by_contra owned
        obtain ⟨userId, held⟩ := Option.ne_none_iff_exists'.mp owned
        obtain ⟨input, rfl, sameEvent, sameSeat, _⟩ :=
          (ownershipDiscipline db op positive).gained eventId seatId userId
            free held
        exact contends ⟨sameEvent, sameSeat⟩
  | taken locked once =>
      have refused : ¬ op.Grants db eventId seatId :=
        fun granted => locked granted.free
      refine .taken (keeps locked) ?_
      rw [grantsIn_cons, if_neg refused, once]

/-- Of the acquires that reach a free seat while nobody gives it up, exactly
one is granted. -/
theorem exactlyOneGrant {eventId : EventId} {seatId : SeatId}
    {start db : SeatStore} {history : List (SeatStore × SeatOp)}
    (run : Trace storeStep start history db)
    (free : holder start eventId seatId = none)
    (guarded :
      StepsMeet
        (fun before op => op.PositiveTtl ∧
          op.BelowLimit eventId seatId before ∧
          KeepsLocked eventId seatId before op) history)
    (contended : ∃ entry ∈ history, entry.2.Contends eventId seatId) :
    (grantsIn eventId seatId history).length = 1 := by
  have settled : FreeOrGranted eventId seatId history db := by
    refine Trace.invariantWith _ (FreeOrGranted eventId seatId)
      (.untried free (by simp)) ?_ run guarded
    intro past before op after _ inductionHypothesis guard stepped
    obtain ⟨positive, below, keeps⟩ := guard
    cases stepped
    exact inductionHypothesis.step positive below keeps
  cases settled with
  | untried _ quiet =>
      obtain ⟨entry, member, contends⟩ := contended
      exact absurd contends (quiet entry member)
  | taken _ once => exact once

/-- Every step of a run with positive TTLs keeps the ownership discipline,
and a seat that is free where the run starts is granted exactly once, however
many users contend for it, for as long as nobody gives it up. -/
theorem lockOwnership {start db : SeatStore}
    {history : List (SeatStore × SeatOp)}
    (run : Trace storeStep start history db)
    (positiveTtl : StepsMeet (fun _ op => op.PositiveTtl) history) :
    StepsMeet OwnershipDiscipline history ∧
    ∀ eventId seatId,
      holder start eventId seatId = none →
      StepsMeet
        (fun before op =>
          op.BelowLimit eventId seatId before ∧
            KeepsLocked eventId seatId before op)
        history →
      (∃ entry ∈ history, entry.2.Contends eventId seatId) →
      (grantsIn eventId seatId history).length = 1 := by
  constructor
  · intro entry member
    exact ownershipDiscipline entry.1 entry.2 (positiveTtl entry member)
  · intro eventId seatId free guarded contended
    refine exactlyOneGrant run free ?_ contended
    intro entry member
    exact ⟨positiveTtl entry member, guarded entry member⟩

/-- Three users race for seat 7 of event 1 while time passes, and one of them
has no seat left for seat 8. -/
def raceForSeat : List SeatOp :=
  [.acquire ⟨1, 7, 10, 900, 1⟩, .tick 5000, .acquire ⟨1, 7, 11, 900, 4⟩,
    .acquire ⟨1, 8, 10, 900, 1⟩, .verifyHeld 1 [7] 11,
    .acquire ⟨1, 7, 12, 900, 4⟩]

private theorem raceForSeat_enabled :
    (replay storeStep [] (Db.empty 0) raceForSeat).isSome = true := rfl

theorem lockOwnership_raceForSeat :
    (grantsIn 1 7
      ((replay storeStep [] (Db.empty 0) raceForSeat).get
        raceForSeat_enabled).1).length = 1 :=
  (lockOwnership (Trace.of_replay_get raceForSeat raceForSeat_enabled)
    (by decide)).2 1 7 rfl (by decide)
    ⟨_, List.mem_cons_self, ⟨rfl, rfl⟩⟩

end ConcertTicketing.SeatLock
