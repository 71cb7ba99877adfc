import ConcertTicketing.SeatLock.Ownership

/-!
# Held-sets and the per-user limit

`held:event:{e}:user:{u}` is meant to list the seats that `u` holds, but the
sets have no time-to-live of their own.  They always contain the live locks,
which is what the limit needs; they list nothing else exactly in the runs in
which no live lock lapses.
-/

namespace ConcertTicketing.SeatLock

open Redis

/-- Live locks are recorded in their owner's set, and no set outgrows the
limit.  A seat may stay in a set after its lock has lapsed or moved on. -/
structure HoldsWithin (limit : Int) (db : SeatStore) : Prop where
  recorded : ∀ eventId seatId userId,
    holder db eventId seatId = some userId →
    seatId ∈ heldByUser db eventId userId
  bounded : ∀ eventId userId,
    (heldByUser db eventId userId).card ≤ limit.toNat

/-- The acquires of a run all pass the same `maxPerUser`. -/
def SeatOp.LimitIs (limit : Int) : SeatOp → Prop
  | .acquire input => input.maxPerUser = limit
  | _ => True

instance (limit : Int) : DecidablePred (SeatOp.LimitIs limit)
  | .acquire _ => inferInstanceAs (Decidable (_ = _))
  | .release _ => isTrue trivial
  | .verifyHeld _ _ _ => isTrue trivial
  | .extendHold _ _ _ _ => isTrue trivial
  | .releaseHold _ _ _ => isTrue trivial
  | .tick _ => isTrue trivial

private theorem holdsWithin_empty (limit : Int) (origin : Instant) :
    HoldsWithin limit (Db.empty origin) where
  recorded := by
    intro eventId seatId userId held
    cases held
  bounded := fun _ _ => Nat.zero_le _

theorem HoldsWithin.granted {limit : Int} {db : SeatStore}
    {input : AcquireInput} (within : HoldsWithin limit db)
    (below :
      ((heldByUser db input.eventId input.userId).card : Int) < limit)
    (positive : 0 < input.ttlSeconds) :
    HoldsWithin limit (granted input db) where
  recorded := by
    intro eventId seatId userId held
    rw [holder_granted positive] at held
    rw [heldByUser_granted]
    split at held
    · next same =>
        obtain ⟨rfl, rfl⟩ := same
        cases held
        simp
    · have before := within.recorded eventId seatId userId held
      split
      · exact Finset.mem_insert_of_mem before
      · exact before
  bounded := by
    intro eventId userId
    have before := within.bounded eventId userId
    rw [heldByUser_granted]
    split
    · next same =>
        obtain ⟨rfl, rfl⟩ := same
        have grown :=
          Finset.card_insert_le input.seatId
            (heldByUser db input.eventId input.userId)
        omega
    · exact before

theorem HoldsWithin.dropped {limit : Int} {db : SeatStore}
    (within : HoldsWithin limit db) (event : EventId) (seat : SeatId)
    (user : UserId) :
    HoldsWithin limit (dropped event seat user db) where
  recorded := by
    intro eventId seatId userId held
    rw [holder_dropped] at held
    rw [heldByUser_dropped]
    split at held
    · cases held
    · next other =>
        have before := within.recorded eventId seatId userId held
        split
        · next same =>
            refine Finset.mem_erase.mpr ⟨?_, before⟩
            intro sameSeat
            exact other ⟨same.1, sameSeat⟩
        · exact before
  bounded := by
    intro eventId userId
    have before := within.bounded eventId userId
    rw [heldByUser_dropped]
    split
    · exact (Finset.card_erase_le).trans before
    · exact before

theorem HoldsWithin.of_effect {limit : Int} {db after : SeatStore}
    {op : SeatOp} (within : HoldsWithin limit db)
    (effect : op.Effect db after) (fixed : op.LimitIs limit) :
    HoldsWithin limit after := by
  cases effect with
  | unchanged => exact within
  | granted input free below positive =>
      have room : input.maxPerUser = limit := fixed
      rw [room] at below
      exact within.granted below positive
  | dropped _ event seat user _ _ => exact within.dropped event seat user
  | extended event seats user ttlSeconds _ =>
      constructor
      · intro eventId seatId userId held
        rw [heldByUser_extended]
        exact within.recorded eventId seatId userId
          (holder_of_holder_extended held)
      · intro eventId userId
        rw [heldByUser_extended]
        exact within.bounded eventId userId
  | ticked elapsed =>
      constructor
      · intro eventId seatId userId held
        exact within.recorded eventId seatId userId
          (holder_of_holder_tick held)
      · exact within.bounded

theorem holdsWithin_of_run {limit : Int} {origin : Instant}
    {db : SeatStore} {history : List (SeatStore × SeatOp)}
    (run : Trace storeStep (Db.empty origin) history db)
    (fixed : StepsMeet (fun _ op => op.LimitIs limit) history) :
    HoldsWithin limit db := by
  refine Trace.invariantUnder (fun _ op => op.LimitIs limit)
    (HoldsWithin limit) (holdsWithin_empty limit origin) ?_ run fixed
  intro before op after inductionHypothesis fixedHere stepped
  cases stepped
  exact inductionHypothesis.of_effect (op.effect before) fixedHere

theorem HoldsWithin.card_le {limit : Int} {db : SeatStore}
    (within : HoldsWithin limit db) {eventId : EventId} {userId : UserId}
    {seats : Finset SeatId}
    (owned : ∀ seatId ∈ seats, holder db eventId seatId = some userId) :
    seats.card ≤ limit.toNat := by
  have recorded : seats ⊆ heldByUser db eventId userId := by
    intro seatId member
    exact within.recorded eventId seatId userId (owned seatId member)
  exact (Finset.card_le_card recorded).trans (within.bounded eventId userId)

/-- In every run with a fixed `maxPerUser`, however locks lapse, change hands
or are released, no user owns more live locks in an event than the limit. -/
theorem liveLocks_le_maxPerUser {limit : Int} {origin : Instant}
    {db : SeatStore} {history : List (SeatStore × SeatOp)}
    (run : Trace storeStep (Db.empty origin) history db)
    (fixed : StepsMeet (fun _ op => op.LimitIs limit) history)
    (eventId : EventId) (userId : UserId) (seats : Finset SeatId)
    (owned : ∀ seatId ∈ seats, holder db eventId seatId = some userId) :
    seats.card ≤ limit.toNat :=
  (holdsWithin_of_run run fixed).card_le owned

/-- A seat lapses for user 10, user 11 takes it, and user 10 goes on. -/
def takeover : List SeatOp :=
  [.acquire ⟨1, 7, 10, 900, 2⟩, .tick 900000, .acquire ⟨1, 7, 11, 900, 2⟩,
    .acquire ⟨1, 8, 10, 900, 2⟩, .acquire ⟨1, 9, 10, 900, 2⟩]

private theorem takeover_enabled :
    (replay storeStep [] (Db.empty 0) takeover).isSome = true := rfl

theorem liveLocks_le_maxPerUser_takeover :
    ({8} : Finset SeatId).card ≤ (2 : Int).toNat :=
  liveLocks_le_maxPerUser (Trace.of_replay_get takeover takeover_enabled)
    (by decide) 1 10 {8} (by decide)

/-! ## Exactness -/

/-- Both kinds of set list exactly the seats with a live lock. -/
structure HeldSetsExact (db : SeatStore) : Prop where
  user : ∀ eventId userId seatId,
    seatId ∈ heldByUser db eventId userId ↔
      holder db eventId seatId = some userId
  event : ∀ eventId seatId,
    seatId ∈ heldInEvent db eventId ↔
      ∃ userId, holder db eventId seatId = some userId

/-- Only users who own `maxPerUser` live locks are told that they reached
the limit. -/
def LimitHonest (db : SeatStore) : Prop :=
  ∀ input : AcquireInput,
    (acquire input db).1 = .ok .limit →
    ∃ seats : Finset SeatId,
      input.maxPerUser ≤ (seats.card : Int) ∧
        ∀ seatId ∈ seats,
          holder db input.eventId seatId = some input.userId

/-- The step takes a live lock away without a release script: the clock
reaches its deadline, or `EXPIRE` is given a non-positive TTL. -/
def SeatOp.LetsLapse (db : SeatStore) : SeatOp → Prop
  | .tick elapsed =>
      ∃ eventId seatId entry,
        lockEntry db eventId seatId = some entry ∧
          ¬ entry.Live (db.now + elapsed)
  | .extendHold eventId seatIds userId ttlSeconds =>
      ¬ 0 < ttlSeconds ∧ seatIds ≠ [] ∧ AllHeld db eventId seatIds userId
  | _ => False

private theorem heldSetsExact_empty (origin : Instant) :
    HeldSetsExact (Db.empty origin) := by
  constructor
  · intro eventId userId seatId
    constructor
    · intro member
      exact absurd member (Finset.notMem_empty seatId)
    · intro held
      cases held
  · intro eventId seatId
    constructor
    · intro member
      exact absurd member (Finset.notMem_empty seatId)
    · rintro ⟨userId, held⟩
      cases held

/-- When the sets are exact, the answer `LIMIT` is honest: the script counts
the user's set. -/
theorem HeldSetsExact.limitHonest {db : SeatStore}
    (exactSets : HeldSetsExact db) : LimitHonest db := by
  intro input answered
  refine ⟨heldByUser db input.eventId input.userId, ?_, ?_⟩
  · by_contra below
    rw [acquire_eq] at answered
    cases free : holder db input.eventId input.seatId with
    | some owner =>
        by_cases same : owner = input.userId <;>
          simp [free, same] at answered
    | none =>
        by_cases positive : 0 < input.ttlSeconds <;>
          simp [free, below, positive] at answered
  · intro seatId member
    exact (exactSets.user _ _ _).mp member

/-- Exactness depends on owners and sets only. -/
theorem HeldSetsExact.congr {db after : SeatStore}
    (exactSets : HeldSetsExact db)
    (sameHolder : ∀ eventId seatId,
      holder after eventId seatId = holder db eventId seatId)
    (sameSets : after.sets = db.sets) : HeldSetsExact after where
  user := by
    intro eventId userId seatId
    rw [sameHolder, heldByUser, sameSets]
    exact exactSets.user eventId userId seatId
  event := by
    intro eventId seatId
    simp only [sameHolder, heldInEvent, sameSets]
    exact exactSets.event eventId seatId

theorem HeldSetsExact.granted {db : SeatStore} {input : AcquireInput}
    (exactSets : HeldSetsExact db)
    (free : holder db input.eventId input.seatId = none)
    (positive : 0 < input.ttlSeconds) :
    HeldSetsExact (granted input db) := by
  constructor
  · intro eventId userId seatId
    rw [holder_granted positive, heldByUser_granted]
    have before := exactSets.user eventId userId seatId
    by_cases sameEvent : eventId = input.eventId
    · subst sameEvent
      by_cases sameSeat : seatId = input.seatId
      · subst sameSeat
        rw [free] at before
        by_cases sameUser : userId = input.userId
        · simp [sameUser]
        · have notHeld : input.seatId ∉ heldByUser db input.eventId userId :=
            fun member => by cases before.mp member
          simp [sameUser, notHeld, Ne.symm sameUser]
      · by_cases sameUser : userId = input.userId
        · subst sameUser
          simp [sameSeat, before]
        · simp [sameUser, sameSeat, before]
    · simp [sameEvent, before]
  · intro eventId seatId
    rw [holder_granted positive, heldInEvent_granted]
    have before := exactSets.event eventId seatId
    by_cases sameEvent : eventId = input.eventId
    · subst sameEvent
      by_cases sameSeat : seatId = input.seatId
      · simp [sameSeat]
      · simp [sameSeat, before]
    · simp [sameEvent, before]

theorem HeldSetsExact.dropped {db : SeatStore} {eventId : EventId}
    {seatId : SeatId} {userId : UserId} (exactSets : HeldSetsExact db)
    (held : holder db eventId seatId = some userId) :
    HeldSetsExact (dropped eventId seatId userId db) := by
  constructor
  · intro otherEvent otherUser otherSeat
    rw [holder_dropped, heldByUser_dropped]
    have before := exactSets.user otherEvent otherUser otherSeat
    by_cases sameEvent : otherEvent = eventId
    · subst sameEvent
      by_cases sameSeat : otherSeat = seatId
      · subst sameSeat
        by_cases sameUser : otherUser = userId
        · simp [sameUser]
        · have notHeld : otherSeat ∉ heldByUser db otherEvent otherUser := by
            intro member
            have owned := before.mp member
            rw [held] at owned
            exact sameUser (Option.some.inj owned).symm
          simp [sameUser, notHeld]
      · by_cases sameUser : otherUser = userId
        · subst sameUser
          simp [sameSeat, before]
        · simp [sameUser, sameSeat, before]
    · simp [sameEvent, before]
  · intro otherEvent otherSeat
    rw [holder_dropped, heldInEvent_dropped]
    have before := exactSets.event otherEvent otherSeat
    by_cases sameEvent : otherEvent = eventId
    · subst sameEvent
      by_cases sameSeat : otherSeat = seatId
      · simp [sameSeat]
      · simp [sameSeat, before]
    · simp [sameEvent, before]

/-- While no live lock lapses, time changes no live lock. -/
theorem lockEntry_tick_of_noLapse {db : SeatStore} {elapsed : Nat}
    (noLapse : ¬ SeatOp.LetsLapse db (.tick elapsed)) (eventId : EventId)
    (seatId : SeatId) :
    lockEntry (db.tick elapsed) eventId seatId =
      lockEntry db eventId seatId := by
  rw [lockEntry_tick]
  cases found : lockEntry db eventId seatId with
  | none => rfl
  | some entry =>
      have live : entry.Live (db.now + elapsed) := by
        by_contra lapsed
        exact noLapse ⟨eventId, seatId, entry, found, lapsed⟩
      simp [Option.filter, live]

/-- Without a lapse, a step restores exactness. -/
theorem HeldSetsExact.of_effect {db after : SeatStore} {op : SeatOp}
    (exactSets : HeldSetsExact db) (effect : op.Effect db after)
    (noLapse : ¬ op.LetsLapse db) : HeldSetsExact after := by
  cases effect with
  | unchanged => exact exactSets
  | granted input free _ positive => exact exactSets.granted free positive
  | dropped _ event seat user _ held => exact exactSets.dropped held
  | extended event seats user ttlSeconds held =>
      by_cases positive : 0 < ttlSeconds
      · exact exactSets.congr
          (fun _ _ => holder_extended positive _ _ _ _ _)
          (extended_sets _ _ _ _)
      · have noSeats : seats = [] := by
          by_contra someSeats
          exact noLapse ⟨positive, someSeats, held⟩
        subst noSeats
        exact exactSets
  | ticked elapsed =>
      refine exactSets.congr ?_ rfl
      intro eventId seatId
      rw [holder_eq, holder_eq, lockEntry_tick_of_noLapse noLapse]

private theorem SeatOp.not_letsLapse_of_script {db : SeatStore} {op : SeatOp}
    (positive : op.PositiveTtl) (script : op.actor ≠ none) :
    ¬ op.LetsLapse db := by
  intro lapse
  cases op with
  | tick => exact script rfl
  | extendHold => exact lapse.1 positive
  | _ => exact lapse

/-- A lapse leaves the seat in its former owner's set. -/
theorem HeldSetsExact.not_apply_of_letsLapse {db : SeatStore} {op : SeatOp}
    (exactSets : HeldSetsExact db) (lapse : op.LetsLapse db) :
    ¬ HeldSetsExact (op.apply db) := by
  intro exactAfter
  cases op with
  | tick elapsed =>
      obtain ⟨eventId, seatId, entry, found, lapsed⟩ := lapse
      have held : holder db eventId seatId = some entry.value :=
        holder_eq_some_iff.mpr ⟨entry, found, rfl⟩
      have listed : seatId ∈ heldByUser db eventId entry.value :=
        (exactSets.user _ _ _).mpr held
      have stillHeld :
          holder (db.tick elapsed) eventId seatId = some entry.value :=
        (exactAfter.user eventId entry.value seatId).mp listed
      rw [holder_eq, lockEntry_tick, found] at stillHeld
      simp [Option.filter, lapsed] at stillHeld
  | extendHold eventId seatIds userId ttlSeconds =>
      obtain ⟨nonpositive, someSeats, held⟩ := lapse
      obtain ⟨seatId, member⟩ := List.exists_mem_of_ne_nil seatIds someSeats
      have listed : seatId ∈ heldByUser db eventId userId :=
        (exactSets.user _ _ _).mpr (held seatId member)
      have applied :
          SeatOp.apply db (.extendHold eventId seatIds userId ttlSeconds) =
            extended eventId seatIds ttlSeconds db := by
        simp only [SeatOp.apply, extendHold_eq, if_pos held]
      rw [applied] at exactAfter
      have stillHeld :
          holder (extended eventId seatIds ttlSeconds db) eventId seatId =
            some userId := by
        apply (exactAfter.user eventId userId seatId).mp
        rwa [heldByUser_extended]
      rw [holder_extended_nonpositive nonpositive,
        if_pos ⟨rfl, member⟩] at stillHeld
      cases stillHeld
  | _ => exact lapse

/-- The sets are exact, and the limit honest, in every state of a run
exactly when no step of the run lets a live lock lapse. -/
theorem heldSets_exact_iff_noLapse {origin : Instant} {db : SeatStore}
    {history : List (SeatStore × SeatOp)}
    (run : Trace storeStep (Db.empty origin) history db) :
    (∀ reached ∈ visited history db,
      HeldSetsExact reached ∧ LimitHonest reached) ↔
    StepsMeet (fun before op => ¬ op.LetsLapse before) history := by
  refine Trace.forall_visited_iff
    ⟨heldSetsExact_empty origin, (heldSetsExact_empty origin).limitHonest⟩
    ?_ run
  rintro past before op after _ ⟨exactSets, _⟩ stepped
  cases stepped
  constructor
  · rintro ⟨exactAfter, _⟩ lapse
    exact exactSets.not_apply_of_letsLapse lapse exactAfter
  · intro noLapse
    have exactAfter := exactSets.of_effect (op.effect before) noLapse
    exact ⟨exactAfter, exactAfter.limitHonest⟩

def handover : List SeatOp :=
  [.acquire ⟨1, 7, 10, 900, 4⟩, .extendHold 1 [7] 10 900,
    .release ⟨1, 7, 10⟩, .acquire ⟨1, 7, 11, 900, 4⟩]

private theorem handover_enabled :
    (replay storeStep [] (Db.empty 0) handover).isSome = true := rfl

theorem heldSets_exact_handover :
    HeldSetsExact
      ((replay storeStep [] (Db.empty 0) handover).get handover_enabled).2 :=
  ((heldSets_exact_iff_noLapse
    (Trace.of_replay_get handover handover_enabled)).mpr
      (by
        have scripts :
            StepsMeet (fun _ op => op.PositiveTtl ∧ op.actor ≠ none)
              ((replay storeStep [] (Db.empty 0) handover).get
                handover_enabled).1 := by decide
        intro entry member
        exact SeatOp.not_letsLapse_of_script (scripts entry member).1
          (scripts entry member).2)
      _ List.mem_cons_self).1

/-- User 10 lets a seat lapse and is then refused another one for a limit
that counts the lapsed seat. -/
def lapseAtLimit : List SeatOp :=
  [.acquire ⟨1, 7, 10, 900, 1⟩, .tick 900000]

/-- Not every run keeps the sets exact and the limit honest. -/
theorem heldSets_not_always_exact :
    ¬ ∀ (origin : Instant) (history : List (SeatStore × SeatOp))
        (db : SeatStore),
      Trace storeStep (Db.empty origin) history db →
      HeldSetsExact db ∧ LimitHonest db := by
  intro always
  obtain ⟨history, db, run, checked⟩ :=
    Trace.exists_of_replay storeStep (Db.empty 0) lapseAtLimit
      (fun result =>
        decide ((acquire ⟨1, 8, 10, 900, 1⟩ result.2).1 = .ok .limit ∧
          7 ∈ heldByUser result.2 1 10 ∧
          holder result.2 1 7 = none))
      (by decide)
  obtain ⟨_, listed, free⟩ := of_decide_eq_true checked
  have held := ((always 0 history db run).1.user 1 10 7).mp listed
  rw [free] at held
  cases held

end ConcertTicketing.SeatLock
