import ConcertTicketing.SeatLock.HeldSets

/-!
# Locks that lapse, and users who are locked out

A lock has a deadline that is never further away than the longest TTL that the
scripts pass, so after a pause of that length every seat is free.  The sets of
held seats do not lapse with the locks.  A user whose set is full, and who
holds none of the seats in it, is refused every seat of the event, and nothing
takes a seat out of the set any more.
-/

namespace ConcertTicketing.SeatLock

open Redis

/-- Every live lock lapses in the given number of seconds at the latest. -/
def LapseWithin (seconds : Int) (db : SeatStore) : Prop :=
  ∀ eventId seatId entry, lockEntry db eventId seatId = some entry →
    ∃ deadline, entry.expireAt = some deadline ∧
      deadline ≤ db.deadlineIn seconds

def SeatOp.TtlAtMost (seconds : Int) : SeatOp → Prop
  | .acquire input => input.ttlSeconds ≤ seconds
  | .extendHold _ _ _ ttlSeconds => ttlSeconds ≤ seconds
  | _ => True

theorem lapseWithin_empty (seconds : Int) (origin : Instant) :
    LapseWithin seconds (Db.empty origin) := by
  intro eventId seatId entry found
  cases found

section Steps

variable {seconds : Int} {db after : SeatStore} {op : SeatOp}

private theorem deadlineIn_mono {few many : Int} (fewer : few ≤ many)
    (db : SeatStore) : db.deadlineIn few ≤ db.deadlineIn many := by
  unfold Db.deadlineIn
  omega

theorem LapseWithin.of_effect (lapse : LapseWithin seconds db)
    (effect : op.Effect db after) (bounded : op.TtlAtMost seconds) :
    LapseWithin seconds after := by
  intro eventId seatId entry found
  cases effect with
  | unchanged => exact lapse eventId seatId entry found
  | granted input free below positive =>
      rw [lockEntry_granted positive] at found
      split at found
      · cases found
        exact ⟨_, rfl, deadlineIn_mono bounded db⟩
      · exact lapse eventId seatId entry found
  | dropped =>
      rw [lockEntry_dropped] at found
      split at found
      · cases found
      · exact lapse eventId seatId entry found
  | extended event seats user ttlSeconds held =>
      have sameNow : (extended event seats ttlSeconds db).deadlineIn seconds =
          db.deadlineIn seconds := by
        simp only [Db.deadlineIn, extended_now]
      rw [sameNow]
      rw [lockEntry_extended] at found
      split at found
      · obtain ⟨old, wasFound, renewed⟩ := Option.bind_eq_some_iff.mp found
        by_cases positive : 0 < ttlSeconds
        · rw [Db.renewed, if_pos positive] at renewed
          cases renewed
          exact ⟨_, rfl, deadlineIn_mono bounded db⟩
        · rw [Db.renewed, if_neg positive] at renewed
          cases renewed
      · exact lapse eventId seatId entry found
  | ticked elapsed =>
      rw [lockEntry_tick, Option.filter_eq_some_iff] at found
      obtain ⟨deadline, expires, near⟩ := lapse eventId seatId entry found.1
      refine ⟨deadline, expires, near.trans ?_⟩
      simp only [Db.deadlineIn, Db.tick]
      omega

/-- After a pause that is long enough no seat has a lock. -/
theorem LapseWithin.free (lapse : LapseWithin seconds db) {elapsed : Nat}
    (long : seconds * 1000 ≤ elapsed) (eventId : EventId) (seatId : SeatId) :
    holder (db.tick elapsed) eventId seatId = none := by
  rw [holder_eq_none_iff, lockEntry_tick, Option.filter_eq_none_iff]
  intro entry found
  obtain ⟨deadline, expires, near⟩ := lapse eventId seatId entry found
  simp only [decide_eq_true_eq]
  intro live
  have before := live deadline expires
  unfold Db.deadlineIn at near
  omega

/-- The user's set is full, and the user holds no seat of the event. -/
structure LockedOut (limit : Int) (eventId : EventId) (userId : UserId)
    (db : SeatStore) : Prop where
  full : limit ≤ ((heldByUser db eventId userId).card : Int)
  holds : ∀ seatId, holder db eventId seatId ≠ some userId

variable {limit : Int} {eventId : EventId} {userId : UserId}

/-- Whoever is locked out stays locked out, whatever step is taken. -/
theorem LockedOut.of_effect (out : LockedOut limit eventId userId db)
    (effect : op.Effect db after) (fixed : op.LimitIs limit) :
    LockedOut limit eventId userId after := by
  cases effect with
  | unchanged => exact out
  | granted input free below positive =>
      have room : input.maxPerUser = limit := fixed
      have another : ¬ (eventId = input.eventId ∧ userId = input.userId) := by
        rintro ⟨rfl, rfl⟩
        have full := out.full
        omega
      constructor
      · rw [heldByUser_granted, if_neg another]
        exact out.full
      · intro seatId held
        rw [holder_granted positive] at held
        split at held
        · next same =>
            exact another ⟨same.1, (Option.some.inj held).symm⟩
        · exact out.holds seatId held
  | dropped _ event seat user releases held =>
      have another : ¬ (eventId = event ∧ userId = user) := by
        rintro ⟨rfl, rfl⟩
        exact out.holds seat held
      constructor
      · rw [heldByUser_dropped, if_neg another]
        exact out.full
      · intro seatId stillHeld
        rw [holder_dropped] at stillHeld
        split at stillHeld
        · cases stillHeld
        · exact out.holds seatId stillHeld
  | extended event seats user ttlSeconds held =>
      constructor
      · rw [heldByUser_extended]
        exact out.full
      · intro seatId stillHeld
        exact out.holds seatId (holder_of_holder_extended stillHeld)
  | ticked elapsed =>
      constructor
      · exact out.full
      · intro seatId stillHeld
        exact out.holds seatId (holder_of_holder_tick stillHeld)

/-- Every seat is refused. -/
theorem LockedOut.refused {input : AcquireInput}
    (out : LockedOut input.maxPerUser input.eventId input.userId db) :
    (acquire input db).1 = .ok .limit ∨
      (acquire input db).1 = .ok .seatTaken := by
  rw [acquire_eq]
  cases held : holder db input.eventId input.seatId with
  | some owner =>
      have another : owner ≠ input.userId := by
        rintro rfl
        exact out.holds input.seatId held
      exact Or.inr (by simp [another])
  | none => exact Or.inl (by simp [out.full])

end Steps

end ConcertTicketing.SeatLock
