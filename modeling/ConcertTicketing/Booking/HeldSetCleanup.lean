import ConcertTicketing.Booking.Expiry

/-!
# Held-sets after the expiry of an order

A release script takes a seat out of the held-set only together with a lock
that it finds, and the lock of an order lapses no later than its message comes
due.  A completed clean-up leaves no lapsed seat in the set as long as each of
its releases finds the lock, or finds the seat out of the set already.
-/

namespace ConcertTicketing.Booking

open SeatLock Redis

/-- The seat is in the user's held-set only with a live lock of the user. -/
def MemberHeld (db : SeatStore) (lock : ReleaseInput) : Prop :=
  lock.seatId ∈ heldByUser db lock.eventId lock.userId →
    holder db lock.eventId lock.seatId = some lock.userId

instance (db : SeatStore) (lock : ReleaseInput) :
    Decidable (MemberHeld db lock) :=
  inferInstanceAs (Decidable (_ → _))

/-- The step does not let the lock of the seat lapse: neither does the clock
reach its deadline nor is `EXPIRE` given a non-positive TTL. -/
def KeepsTtl (db : SeatStore) (eventId : EventId) (seatId : SeatId) :
    SeatOp → Prop
  | .tick elapsed =>
      ∀ entry ∈ lockEntry db eventId seatId, entry.Live (db.now + elapsed)
  | .extendHold otherEvent seatIds _ ttlSeconds =>
      0 < ttlSeconds ∨ ¬ (eventId = otherEvent ∧ seatId ∈ seatIds)
  | _ => True

instance (db : SeatStore) (eventId : EventId) (seatId : SeatId) :
    DecidablePred (KeepsTtl db eventId seatId)
  | .tick elapsed =>
      inferInstanceAs
        (Decidable
          (∀ entry ∈ lockEntry db eventId seatId,
            entry.Live (db.now + elapsed)))
  | .extendHold _ _ _ _ => inferInstanceAs (Decidable (_ ∨ _))
  | .acquire _ => isTrue trivial
  | .release _ => isTrue trivial
  | .verifyHeld _ _ _ => isTrue trivial
  | .releaseHold _ _ _ => isTrue trivial

theorem MemberHeld.granted {db : SeatStore} {lock : ReleaseInput}
    {input : AcquireInput} (member : MemberHeld db lock)
    (free : holder db input.eventId input.seatId = none)
    (positive : 0 < input.ttlSeconds) :
    MemberHeld (granted input db) lock := by
  intro listed
  rw [heldByUser_granted] at listed
  rw [holder_granted positive]
  by_cases sameSeat :
      lock.eventId = input.eventId ∧ lock.seatId = input.seatId
  · rw [if_pos sameSeat]
    by_cases sameUser : lock.userId = input.userId
    · rw [sameUser]
    · rw [if_neg (fun both => sameUser both.2)] at listed
      have held := member listed
      rw [sameSeat.1, sameSeat.2, free] at held
      cases held
  · rw [if_neg sameSeat]
    apply member
    split at listed
    · next sameSet =>
        rcases Finset.mem_insert.mp listed with same | old
        · exact absurd ⟨sameSet.1, same⟩ sameSeat
        · exact old
    · exact listed

theorem MemberHeld.dropped {db : SeatStore} {lock : ReleaseInput}
    {eventId : EventId} {seatId : SeatId} {userId : UserId}
    (member : MemberHeld db lock)
    (held : holder db eventId seatId = some userId) :
    MemberHeld (dropped eventId seatId userId db) lock := by
  intro listed
  rw [heldByUser_dropped] at listed
  have old : lock.seatId ∈ heldByUser db lock.eventId lock.userId := by
    split at listed
    · exact Finset.mem_of_mem_erase listed
    · exact listed
  have owned := member old
  rw [holder_dropped, if_neg]
  · exact owned
  · rintro ⟨sameEvent, sameSeat⟩
    rw [sameEvent, sameSeat, held] at owned
    have sameUser : userId = lock.userId := Option.some.inj owned
    rw [if_pos ⟨sameEvent, sameUser.symm⟩] at listed
    exact (Finset.mem_erase.mp listed).1 sameSeat

theorem MemberHeld.of_effect {db after : SeatStore} {op : SeatOp}
    {lock : ReleaseInput} (member : MemberHeld db lock)
    (effect : op.Effect db after)
    (keeps : holder db lock.eventId lock.seatId = some lock.userId →
      KeepsTtl db lock.eventId lock.seatId op) :
    MemberHeld after lock := by
  cases effect with
  | unchanged => exact member
  | granted input free _ positive => exact member.granted free positive
  | dropped _ event seat user _ held => exact member.dropped held
  | extended event seats user ttlSeconds _ =>
      intro listed
      rw [heldByUser_extended] at listed
      have owned := member listed
      by_cases positive : 0 < ttlSeconds
      · rw [holder_extended positive]
        exact owned
      · rcases keeps owned with renewed | uncovered
        · exact absurd renewed positive
        · rw [holder_extended_nonpositive positive, if_neg uncovered]
          exact owned
  | ticked elapsed =>
      intro listed
      have owned := member listed
      obtain ⟨entry, found, value⟩ := holder_eq_some_iff.mp owned
      refine holder_eq_some_iff.mpr ⟨entry, ?_, value⟩
      have live : entry.Live (db.now + elapsed) := keeps owned entry found
      rw [lockEntry_tick, found]
      simp [Option.filter, live]

/-- A release that finds the lock, or the seat out of the set, leaves no
lapsed seat behind. -/
theorem memberHeld_releaseHold {db : SeatStore} {eventId : EventId}
    {seatId : SeatId} {userId : UserId}
    (finds : MemberHeld db ⟨eventId, seatId, userId⟩) :
    MemberHeld (releaseHold eventId seatId userId db)
      ⟨eventId, seatId, userId⟩ := by
  rw [releaseHold_eq]
  by_cases held : holder db eventId seatId = some userId
  · rw [if_pos held]
    exact MemberHeld.dropped finds held
  · rw [if_neg held]
    exact finds

/-- The locks of the seats that a running clean-up has been through. -/
def cleanedLocks : ExpireProgress → List ReleaseInput
  | .running (.releaseHold result position) =>
      (result.seatIds.take position).map fun seatId =>
        ⟨result.eventId, seatId, result.userId⟩
  | .running (.expireSeatLockAudit result) =>
      result.seatIds.map fun seatId =>
        ⟨result.eventId, seatId, result.userId⟩
  | _ => []

private theorem cleanedLocks_releaseFrom (result : ExpireResult)
    (position : Nat) :
    cleanedLocks (releaseFrom result position) =
      (result.seatIds.take position).map fun seatId =>
        ⟨result.eventId, seatId, result.userId⟩ := by
  unfold releaseFrom
  by_cases inside : position < result.seatIds.length
  · rw [if_pos inside]
    rfl
  · rw [if_neg inside, List.take_of_length_le (Nat.le_of_not_lt inside)]
    rfl

/-- One step of a clean-up goes through at most one more seat, by running the
release script on it. -/
theorem cleanedLocks_of_await {orderId : OrderId} {stores after : Stores}
    {stage : ExpireStage} {outcome : Await} {progress : ExpireProgress}
    {lock : ReleaseInput}
    (awaited :
      (expireOrder orderId).await stores stage outcome =
        some (after, progress))
    (cleaned : lock ∈ cleanedLocks progress) :
    lock ∈ cleanedLocks (.running stage) ∨
      (outcome.Applies = true ∧
        expireScript stage =
          some (.releaseHold lock.eventId lock.seatId lock.userId) ∧
        after.redis =
          releaseHold lock.eventId lock.seatId lock.userId
            stores.redis) := by
  rcases expireOrder_await awaited with ⟨rfl, resolved⟩ | failed | stopped
  · cases resolved with
    | marked => cases cleaned
    | read changed =>
        unfold orderFound at cleaned
        split at cleaned
        · cases cleaned
        · split at cleaned
          · rw [cleanedLocks_releaseFrom] at cleaned
            cases cleaned
          · cases cleaned
    | released result position seatId here =>
        rw [cleanedLocks_releaseFrom, List.take_add_one, here,
          Option.toList_some, List.map_append, List.map_singleton] at cleaned
        rcases List.mem_append.mp cleaned with old | new
        · exact Or.inl old
        · rw [List.mem_singleton] at new
          subst new
          refine Or.inr ⟨rfl, ?_, rfl⟩
          simp only [expireScript, here, Option.map_some]
    | settled result => cases cleaned
  · rw [failed] at cleaned
    cases cleaned
  · rw [stopped] at cleaned
    cases cleaned

/-- No running clean-up has left a lapsed seat in the set. -/
def CleanedSeatsHeld (world : World) : Prop :=
  ∀ (index : Nat) (call : ExpireCall),
    world.expireCalls[index]? = some call →
    ∀ lock ∈ cleanedLocks call.progress, MemberHeld world.redis lock

/-- A release of a clean-up finds the lock, or finds the seat out of the set. -/
def FindsLock (db : SeatStore) : SeatOp → Prop
  | .releaseHold eventId seatId userId =>
      MemberHeld db ⟨eventId, seatId, userId⟩
  | _ => True

instance (db : SeatStore) : DecidablePred (FindsLock db)
  | .releaseHold _ _ _ => inferInstanceAs (Decidable (MemberHeld _ _))
  | .acquire _ => isTrue trivial
  | .release _ => isTrue trivial
  | .verifyHeld _ _ _ => isTrue trivial
  | .extendHold _ _ _ _ => isTrue trivial
  | .tick _ => isTrue trivial

/-- The release of a clean-up finds its lock, and a lock that the user has
taken again behind a running clean-up does not lapse. -/
def CleansHeldLocks (env : Environment) (world : World) (action : Action) :
    Prop :=
  ∀ op ∈ script env world action,
    FindsLock world.redis op ∧
    ∀ call ∈ world.expireCalls, ∀ lock ∈ cleanedLocks call.progress,
      holder world.redis lock.eventId lock.seatId = some lock.userId →
      KeepsTtl world.redis lock.eventId lock.seatId op

instance (env : Environment) (world : World) (action : Action) :
    Decidable (CleansHeldLocks env world action) :=
  inferInstanceAs
    (Decidable
      (∀ op ∈ script env world action,
        FindsLock world.redis op ∧
        ∀ call ∈ world.expireCalls, ∀ lock ∈ cleanedLocks call.progress,
          _ → KeepsTtl world.redis lock.eventId lock.seatId op))

private theorem cleanedSeatsHeld_step {env : Environment} {world next : World}
    {action : Action} (cleaned : CleanedSeatsHeld world)
    (guarded : CleansHeldLocks env world action)
    (stepped : step env world action = some next) :
    CleanedSeatsHeld next := by
  have carried : ∀ (index : Nat) (call : ExpireCall) (lock : ReleaseInput),
      world.expireCalls[index]? = some call →
      lock ∈ cleanedLocks call.progress →
      MemberHeld next.redis lock := by
    intro index call lock found member
    have before := cleaned index call found lock member
    rcases step_redis_effect stepped with ⟨_, same⟩ | ⟨op, runs, effect⟩
    · rw [same]
      exact before
    · exact before.of_effect effect
        ((guarded op runs).2 call (List.mem_of_getElem? found) lock member)
  intro index call reached lock member
  cases step_expireCalls stepped reached with
  | kept _ _ found => exact carried index call lock found member
  | requested orderId _ new =>
      rw [new] at member
      cases member
  | delivered position orderId _ queued new =>
      rw [new] at member
      cases member
  | awaited outcome stage found awaited =>
      rcases cleanedLocks_of_await awaited member with
        old | ⟨applies, asked, released⟩
      · exact carried index _ lock found old
      · have runs :
            script env world (.expireAwait index outcome) =
              some (.releaseHold lock.eventId lock.seatId lock.userId) := by
          simp only [script, Call.applied_of_found found, if_pos applies,
            Option.bind_some, asked]
        have finds : MemberHeld world.redis lock := (guarded _ runs).1
        have after :
            next.redis =
              releaseHold lock.eventId lock.seatId lock.userId
                world.redis := released
        rw [after]
        exact memberHeld_releaseHold finds
  | answered _ found _ => exact carried index _ lock found member

private theorem Trace.cleanedSeatsHeld {env : Environment} {origin : Instant}
    {history : List (World × Action)} {world : World}
    (run : Trace (step env) (World.init origin) history world)
    (guarded : StepsMeet (CleansHeldLocks env) history) :
    CleanedSeatsHeld world := by
  refine Trace.invariantUnder (CleansHeldLocks env) CleanedSeatsHeld
    ?_ ?_ run guarded
  · intro position call found
    cases found
  · intro before action after inductionHypothesis cleaning stepped
    exact cleanedSeatsHeld_step inductionHypothesis cleaning stepped

/-- No seat of the order is left in its user's held-set, where the limit
counts it, without a live lock of the user. -/
def HeldSetClean (world : World) (orderId : OrderId) : Prop :=
  ∀ order ∈ world.orders,
    order.id = orderId →
    ∀ seatId ∈ order.seatIds,
      seatId ∈ heldByUser world.redis order.eventId order.userId →
      holder world.redis order.eventId seatId = some order.userId

/-- In every run in which each release of a clean-up finds its lock, and no
lock that is taken again behind a running clean-up lapses, an `ExpireOrder`
that moved its order completes with a clean held-set. -/
theorem heldSetClean_of_cleansHeldLocks {env : Environment}
    {origin : Instant} {history : List (World × Action)}
    {world next : World} {index : Nat} {request : ExpireRequest}
    {result : ExpireResult}
    (run : Trace (step env) (World.init origin) history world)
    (guarded : StepsMeet (CleansHeldLocks env) history)
    (completing :
      world.expireCalls[index]? =
        some ⟨request, .running (.expireSeatLockAudit result)⟩)
    (stepped :
      step env world (.expireAwait index .resolves) = some next) :
    HeldSetClean next request.orderId := by
  have sound := Trace.sound run
  have cleaned := Trace.cleanedSeatsHeld run guarded
  obtain ⟨moved, movedMember, movedId, settled, sameResult⟩ :=
    sound.cleanups.result index _ _ result completing rfl rfl
  have kept : moved ∈ next.orders :=
    (step_orders stepped).order_kept movedMember settled
  have sameRedis : next.redis = world.redis := by
    rw [step_redis stepped]
    simp only [script, Call.applied_of_found completing]
    rfl
  intro order member sameId seatId seat listed
  have sameOrder : order = moved :=
    (sound_step sound stepped).ids.unique member kept
      (sameId.trans movedId.symm)
  subst sameOrder
  rw [sameRedis] at listed ⊢
  have lockCleaned :
      (⟨order.eventId, seatId, order.userId⟩ : ReleaseInput) ∈
        cleanedLocks (.running (.expireSeatLockAudit result)) := by
    rw [sameResult]
    exact List.mem_map.mpr ⟨seatId, seat, rfl⟩
  exact cleaned index _ completing _ lockCleaned listed

/-- The lock of an order lapses, and its user takes the seat again before the
message of the order is delivered. -/
def relockBeforeDelivery : List Action :=
  lockSeatRun 0 ⟨10, 1, 7⟩ ++ createOrderRun 0 ⟨10, 1, [7], "first"⟩ ++
    [.tick 900000] ++ lockSeatRun 1 ⟨10, 1, 7⟩ ++
      [.deadLetter 0, .deliver 0] ++
        List.replicate 3 (.expireAwait 0 .resolves)

private theorem relockBeforeDelivery_enabled :
    (replay (step smallVenue) [] (World.init 0) relockBeforeDelivery).isSome =
      true := by
  decide

def relockedWorld : World :=
  ((replay (step smallVenue) [] (World.init 0) relockBeforeDelivery).get
    relockBeforeDelivery_enabled).2

private theorem relockedWorld_completing :
    relockedWorld.expireCalls[0]? =
      some ⟨⟨0, .unsettled⟩,
        .running (.expireSeatLockAudit ⟨true, 10, 1, [7]⟩)⟩ := by
  decide

private theorem relockedWorld_completes :
    (step smallVenue relockedWorld (.expireAwait 0 .resolves)).isSome =
      true := by
  decide

theorem heldSetClean_relockBeforeDelivery :
    HeldSetClean
      ((step smallVenue relockedWorld (.expireAwait 0 .resolves)).get
        relockedWorld_completes) 0 :=
  heldSetClean_of_cleansHeldLocks
    (Trace.of_replay_get relockBeforeDelivery relockBeforeDelivery_enabled)
    (by decide) relockedWorld_completing (Option.some_get _).symm

/-- The message of an order is processed as soon as it comes due, when the
locks of the order have just lapsed. -/
def expireWhenDue : List Action :=
  lockSeatRun 0 ⟨10, 1, 7⟩ ++ createOrderRun 0 ⟨10, 1, [7], "first"⟩ ++
    [.tick 900000, .deadLetter 0, .deliver 0] ++
      List.replicate 3 (.expireAwait 0 .resolves)

private theorem expireWhenDue_enabled :
    (replay (step smallVenue) [] (World.init 0) expireWhenDue).isSome =
      true := by
  decide

def lapsedWorld : World :=
  ((replay (step smallVenue) [] (World.init 0) expireWhenDue).get
    expireWhenDue_enabled).2

private theorem lapsedWorld_completing :
    lapsedWorld.expireCalls[0]? =
      some ⟨⟨0, .unsettled⟩,
        .running (.expireSeatLockAudit ⟨true, 10, 1, [7]⟩)⟩ := by
  decide

private theorem lapsedWorld_completes :
    (step smallVenue lapsedWorld (.expireAwait 0 .resolves)).isSome =
      true := by
  decide

/-- A clean-up that the broker has started can complete and leave the seat in
the held-set without a lock. -/
theorem heldSet_drift_reachable :
    ¬ ∀ (env : Environment) (origin : Instant)
        (history : List (World × Action)) (world next : World)
        (index : Nat) (request : ExpireRequest) (result : ExpireResult),
      Trace (step env) (World.init origin) history world →
      request.delivery = .unsettled →
      world.expireCalls[index]? =
        some ⟨request, .running (.expireSeatLockAudit result)⟩ →
      step env world (.expireAwait index .resolves) = some next →
      HeldSetClean next request.orderId := by
  intro always
  have clean :=
    always smallVenue 0 _ lapsedWorld _ 0 _ _
      (Trace.of_replay_get expireWhenDue expireWhenDue_enabled) rfl
      lapsedWorld_completing (Option.some_get lapsedWorld_completes).symm
  generalize reached :
    (step smallVenue lapsedWorld (.expireAwait 0 .resolves)).get
      lapsedWorld_completes = next at clean
  have drifted :
      (∃ order ∈ next.orders,
        order.id = 0 ∧ order.eventId = 1 ∧ order.userId = 10 ∧
          7 ∈ order.seatIds) ∧
      7 ∈ heldByUser next.redis 1 10 ∧ holder next.redis 1 7 = none := by
    rw [← reached]
    decide
  obtain ⟨⟨order, member, sameId, event, user, seat⟩, listed, free⟩ := drifted
  have held := clean order member sameId 7 seat (by rwa [event, user])
  rw [event, free] at held
  cases held

end ConcertTicketing.Booking
