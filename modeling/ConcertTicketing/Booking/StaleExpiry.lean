import ConcertTicketing.Booking.Confirmed

/-!
# Expiring an order and newer holds

A lock stores its owner only, so the clean-up of an expired order cannot tell
the hold that the order was created on from a newer one of the same user.  It
takes only the former as long as users neither lock nor order a seat again
while one of their orders on it is still open.
-/

namespace ConcertTicketing.Booking

open SeatLock Redis

/-- The clean-up has still to release the seat. -/
def ToRelease (seatId : SeatId) : ExpireProgress → Prop
  | .running (.findOrder changed) => changed = true
  | .running (.releaseHold result position) =>
      seatId ∈ result.seatIds.drop position
  | _ => False

instance (seatId : SeatId) : DecidablePred (ToRelease seatId)
  | .running (.findOrder _) => inferInstanceAs (Decidable (_ = _))
  | .running (.releaseHold result position) =>
      inferInstanceAs (Decidable (seatId ∈ result.seatIds.drop position))
  | .running .markExpired => isFalse id
  | .running (.expireSeatLockAudit _) => isFalse id
  | .failed _ _ => isFalse id
  | .stopped _ => isFalse id
  | .finished _ => isFalse id

/-- The order is `PENDING`, or its clean-up has still to release the seat. -/
def OpenOn (world : World) (order : Order) (seatId : SeatId) : Prop :=
  seatId ∈ order.seatIds ∧
    (order.status = .pending ∨
      ∃ call ∈ world.expireCalls,
        call.input.orderId = order.id ∧ ToRelease seatId call.progress)

instance (world : World) (order : Order) (seatId : SeatId) :
    Decidable (OpenOn world order seatId) :=
  inferInstanceAs
    (Decidable
      (_ ∧ (_ ∨ ∃ call ∈ world.expireCalls, _ ∧ ToRelease _ _)))

/-- No order of the user in the event is open on the seat. -/
def NoneOpen (world : World) (eventId : EventId) (userId : UserId)
    (seatId : SeatId) : Prop :=
  ∀ order ∈ world.confirmed,
    order.userId = userId →
    order.eventId = eventId →
    ¬ OpenOn world order seatId

instance (world : World) (eventId : EventId) (userId : UserId)
    (seatId : SeatId) : Decidable (NoneOpen world eventId userId seatId) :=
  inferInstanceAs
    (Decidable
      (∀ order ∈ world.confirmed, _ → _ → ¬ OpenOn world order seatId))

/-- The step is an acquire of the seat that is answered `OK`. -/
def Acquires (env : Environment) (eventId : EventId) (seatId : SeatId)
    (world : World) (action : Action) : Prop :=
  ∃ op ∈ script env world action, op.Grants world.redis eventId seatId

/-- The row whose hold the step confirms. -/
def confirming (world : World) : Action → Option Order
  | .createAwait index .resolves =>
      match Call.runningAt world.createCalls index with
      | some (_, .extendHold row) =>
          if AllHeld world.redis row.eventId row.seatIds row.userId then
            some row
          else none
      | _ => none
  | _ => none

theorem confirming_of_held {world : World} {action : Action} {index : Nat}
    {input : CreateOrderInput} {row : Order}
    (ran : action = .createAwait index .resolves)
    (found :
      world.createCalls[index]? = some ⟨input, .running (.extendHold row)⟩)
    (held : AllHeld world.redis row.eventId row.seatIds row.userId) :
    confirming world action = some row := by
  subst ran
  simp only [confirming, Call.runningAt_eq_some.mpr found, if_pos held]

/-- The order's hold was confirmed in the history, and nobody has acquired
the seat since. -/
def HeldSinceConfirmed (env : Environment) (orderId : OrderId)
    (eventId : EventId) (seatId : SeatId)
    (history : List (World × Action)) : Prop :=
  ∃ newer older world action row,
    history = newer ++ (world, action) :: older ∧
    confirming world action = some row ∧
    row.id = orderId ∧
    ∀ entry ∈ newer, ¬ Acquires env eventId seatId entry.1 entry.2

theorem HeldSinceConfirmed.cons {env : Environment} {orderId : OrderId}
    {eventId : EventId} {seatId : SeatId}
    {history : List (World × Action)}
    (held : HeldSinceConfirmed env orderId eventId seatId history)
    {entry : World × Action}
    (quiet : ¬ Acquires env eventId seatId entry.1 entry.2) :
    HeldSinceConfirmed env orderId eventId seatId (entry :: history) := by
  obtain ⟨newer, older, world, action, row, rfl, confirms, sameId, silent⟩ :=
    held
  exact ⟨entry :: newer, older, world, action, row, rfl, confirms, sameId,
    List.forall_mem_cons.mpr ⟨quiet, silent⟩⟩

theorem HeldSinceConfirmed.start {env : Environment} {world : World}
    {action : Action} {row : Order}
    (confirms : confirming world action = some row) (eventId : EventId)
    (seatId : SeatId) (history : List (World × Action)) :
    HeldSinceConfirmed env row.id eventId seatId
      ((world, action) :: history) :=
  ⟨[], history, world, action, row, rfl, confirms, rfl, by simp⟩

private theorem mem_drop_of_toRelease {result : ExpireResult} {position : Nat}
    {seatId : SeatId}
    (remaining : ToRelease seatId (releaseFrom result position)) :
    seatId ∈ result.seatIds.drop position := by
  unfold releaseFrom at remaining
  split at remaining
  · exact remaining
  · exact remaining.elim

private theorem toRelease_of_await {orderId : OrderId} {stores after : Stores}
    {stage : ExpireStage} {outcome : Await} {progress : ExpireProgress}
    {seatId : SeatId}
    (awaited :
      (expireOrder orderId).await stores stage outcome =
        some (after, progress))
    (pending : ToRelease seatId progress) :
    ToRelease seatId (.running stage) ∨
      (stage = .markExpired ∧ pendingCount orderId stores.orders = 1) := by
  rcases expireOrder_await awaited with ⟨_, resolved⟩ | failed | stopped
  · cases resolved with
    | marked => exact Or.inr ⟨rfl, of_decide_eq_true pending⟩
    | read changed =>
        left
        unfold orderFound at pending
        split at pending
        · exact pending.elim
        · split at pending
          · next moved => exact moved
          · exact pending.elim
    | released result position released here =>
        left
        have remaining := mem_drop_of_toRelease pending
        rw [← List.drop_drop] at remaining
        exact List.mem_of_mem_drop remaining
    | settled result => exact pending.elim
  · rw [failed] at pending
    exact pending.elim
  · rw [stopped] at pending
    exact pending.elim

/-- The order that a compare-and-set finds is `PENDING`. -/
theorem pending_of_counted {env : Environment} {world : World}
    (sound : Sound env world) {order : Order}
    (member : order ∈ world.confirmed) {orderId : OrderId}
    (counted : pendingCount orderId world.orders = 1)
    (sameId : orderId = order.id) : order.status = .pending := by
  rcases mem_confirmed.mp member with
    inTable | ⟨index, call, found, committing⟩
  · obtain ⟨row, rowMember, rowId, pending⟩ :=
      (sound.ids.pendingCount_eq_one_iff orderId).mp counted
    rw [sound.ids.unique inTable rowMember (sameId.symm.trans rowId.symm)]
    exact pending
  · have inserted : insertedRow call = some order := by
      rw [insertedRow_of_running committing]
      rfl
    exact (sound.rows.rows index call order found inserted).2

/-- A confirmed order that is open after a step was confirmed and open before
it, or the step has confirmed it. -/
theorem open_step {env : Environment} {world next : World}
    {action : Action} (sound : Sound env world)
    (stepped : step env world action = some next)
    {order : Order} {seatId : SeatId}
    (member : order ∈ next.confirmed) (stillOpen : OpenOn next order seatId) :
    (∃ earlier ∈ world.confirmed,
      ExpiredOrSame earlier order ∧ OpenOn world earlier seatId) ∨
    confirming world action = some order := by
  rcases step_confirmed sound stepped member with
    ⟨earlier, before, origin⟩ |
      ⟨index, input, ran, found, held, _, _⟩
  · left
    refine ⟨earlier, before, origin, ?_, ?_⟩
    · rw [← origin.seatIds_eq]
      exact stillOpen.1
    · rcases origin with rfl | ⟨pending, _⟩
      · rcases stillOpen.2 with pending | ⟨call, inNext, sameId, remaining⟩
        · exact Or.inl pending
        · obtain ⟨index, reached⟩ := List.mem_iff_getElem?.mp inNext
          have carried : ∀ old : ExpireCall,
              world.expireCalls[index]? = some old →
              old.input.orderId = call.input.orderId →
              ToRelease seatId old.progress →
              ∃ call ∈ world.expireCalls,
                call.input.orderId = order.id ∧
                  ToRelease seatId call.progress :=
            fun old found same progress =>
              ⟨old, List.mem_of_getElem? found, same.trans sameId, progress⟩
          cases step_expireCalls stepped reached with
          | kept _ _ found => exact Or.inr (carried call found rfl remaining)
          | requested orderId _ new =>
              rw [new] at remaining
              exact remaining.elim
          | delivered position orderId _ queued new =>
              rw [new] at remaining
              exact remaining.elim
          | awaited outcome stage found awaited =>
              rcases toRelease_of_await awaited remaining with
                old | ⟨rfl, counted⟩
              · exact Or.inr (carried _ found rfl old)
              · left
                exact pending_of_counted sound before counted sameId
          | answered _ found _ =>
              exact Or.inr (carried _ found rfl remaining)
      · exact Or.inl pending
  · exact Or.inr (confirming_of_held ran found held)

/-- No acquire that finds the lock free and its user below the limit, and no
confirmed hold, is on a seat with an open order of the same user. -/
def WaitsForOpenOrders (env : Environment) (world : World)
    (action : Action) : Prop :=
  (∀ op ∈ script env world action, ∀ input ∈ op.acquired,
    holder world.redis input.eventId input.seatId = none →
    ((heldByUser world.redis input.eventId input.userId).card : Int) <
      input.maxPerUser →
    NoneOpen world input.eventId input.userId input.seatId) ∧
  ∀ row ∈ confirming world action, ∀ seatId ∈ row.seatIds,
    NoneOpen world row.eventId row.userId seatId

instance (env : Environment) (world : World) (action : Action) :
    Decidable (WaitsForOpenOrders env world action) :=
  inferInstanceAs
    (Decidable
      ((∀ op ∈ script env world action, ∀ input ∈ op.acquired,
        _ → _ → NoneOpen world input.eventId input.userId input.seatId) ∧
      ∀ row ∈ confirming world action, ∀ seatId ∈ row.seatIds,
        NoneOpen world row.eventId row.userId seatId))

/-- A lock that an open order's user owns is the one the order was confirmed
on, and a user's open orders share no seat. -/
structure HoldsTracked (env : Environment)
    (history : List (World × Action)) (world : World) : Prop where
  since : ∀ order ∈ world.confirmed, ∀ seatId,
    OpenOn world order seatId →
    holder world.redis order.eventId seatId = some order.userId →
    HeldSinceConfirmed env order.id order.eventId seatId history
  alone : ∀ order ∈ world.confirmed, ∀ twin ∈ world.confirmed, ∀ seatId,
    OpenOn world order seatId →
    OpenOn world twin seatId →
    order.userId = twin.userId →
    order.eventId = twin.eventId →
    order.id = twin.id

/-- A lock that a user keeps through a step is not acquired in it. -/
theorem not_acquires_of_holder {env : Environment} {world : World}
    {action : Action} {eventId : EventId} {seatId : SeatId}
    {userId : UserId}
    (held : holder world.redis eventId seatId = some userId) :
    ¬ Acquires env eventId seatId world action := by
  rintro ⟨op, _, grants⟩
  rw [grants.free] at held
  cases held

/-- The holder of a seat that the user has an open order on held it before the
step. -/
theorem holder_before_of_open {env : Environment} {world next : World}
    {action : Action} {order : Order} {seatId : SeatId}
    (waits : WaitsForOpenOrders env world action)
    (stepped : step env world action = some next)
    (confirmed : order ∈ world.confirmed)
    (isOpen : OpenOn world order seatId)
    (held : holder next.redis order.eventId seatId = some order.userId) :
    holder world.redis order.eventId seatId = some order.userId := by
  rcases step_redis_effect stepped with ⟨_, same⟩ | ⟨op, runs, effect⟩
  · rw [← same]
    exact held
  · rcases holder_of_effect effect held with
      kept | ⟨input, rfl, sameEvent, rfl, sameUser, granted⟩
    · exact kept
    · have answered := acquire_ok_iff.mp granted
      have closed := waits.1 _ runs input rfl answered.1 answered.2.1 order
        confirmed sameUser.symm sameEvent.symm
      exact absurd isOpen closed

private theorem holdsTracked_step {env : Environment}
    {history : List (World × Action)} {world next : World}
    {action : Action} (sound : Sound env world)
    (tracked : HoldsTracked env history world)
    (waits : WaitsForOpenOrders env world action)
    (stepped : step env world action = some next) :
    HoldsTracked env ((world, action) :: history) next where
  since := by
    intro order member seatId stillOpen held
    rcases open_step sound stepped member stillOpen with
      ⟨earlier, before, origin, wasOpen⟩ | confirms
    · rw [origin.eventId_eq, origin.userId_eq] at held
      rw [origin.eventId_eq, origin.id_eq]
      have heldBefore :=
        holder_before_of_open waits stepped before wasOpen held
      exact (tracked.since earlier before seatId wasOpen heldBefore).cons
        (not_acquires_of_holder heldBefore)
    · exact HeldSinceConfirmed.start confirms _ _ _
  alone := by
    intro order member twin memberTwin seatId openOrder openTwin sameUser
      sameEvent
    rcases open_step sound stepped member openOrder with
      ⟨earlier, before, origin, wasOpen⟩ | confirms
    · rcases open_step sound stepped memberTwin openTwin with
        ⟨earlierTwin, beforeTwin, originTwin, twinWasOpen⟩ | confirmsTwin
      · rw [origin.userId_eq, originTwin.userId_eq] at sameUser
        rw [origin.eventId_eq, originTwin.eventId_eq] at sameEvent
        rw [origin.id_eq, originTwin.id_eq]
        exact tracked.alone earlier before earlierTwin beforeTwin seatId
          wasOpen twinWasOpen sameUser sameEvent
      · rw [origin.userId_eq] at sameUser
        rw [origin.eventId_eq] at sameEvent
        exact absurd wasOpen
          (waits.2 twin confirmsTwin seatId openTwin.1 earlier before
            sameUser sameEvent)
    · rcases open_step sound stepped memberTwin openTwin with
        ⟨earlierTwin, beforeTwin, originTwin, twinWasOpen⟩ | confirmsTwin
      · rw [originTwin.userId_eq] at sameUser
        rw [originTwin.eventId_eq] at sameEvent
        exact absurd twinWasOpen
          (waits.2 order confirms seatId openOrder.1 earlierTwin beforeTwin
            sameUser.symm sameEvent.symm)
      · rw [confirms] at confirmsTwin
        cases confirmsTwin
        rfl

private theorem Trace.holdsTracked {env : Environment} {origin : Instant}
    {history : List (World × Action)} {world : World}
    (run : Trace (step env) (World.init origin) history world)
    (guarded : StepsMeet (WaitsForOpenOrders env) history) :
    HoldsTracked env history world := by
  refine Trace.invariantWith (WaitsForOpenOrders env) (HoldsTracked env)
    ?_ ?_ run guarded
  · constructor
    · intro order member
      cases member
    · intro order member
      cases member
  · intro past before action after runBefore inductionHypothesis waits stepped
    exact holdsTracked_step (Trace.sound runBefore) inductionHypothesis waits
      stepped

/-- The order that a call releases the seats of is open on those to come. -/
theorem openOn_of_releasing {world : World} {index : Nat}
    {request : ExpireRequest} {result : ExpireResult} {position : Nat}
    {order : Order} {seatId : SeatId}
    (releasing :
      world.expireCalls[index]? =
        some ⟨request, .running (.releaseHold result position)⟩)
    (sameId : order.id = request.orderId) (seat : seatId ∈ order.seatIds)
    (here : result.seatIds[position]? = some seatId) :
    OpenOn world order seatId := by
  have remaining : seatId ∈ result.seatIds.drop position := by
    apply List.mem_iff_getElem?.mpr
    refine ⟨0, ?_⟩
    rw [List.getElem?_drop, Nat.add_zero]
    exact here
  have called := List.mem_of_getElem? releasing
  exact ⟨seat, Or.inr ⟨_, called, sameId.symm, remaining⟩⟩

/-- The lock on the seat is the one that the order of the request was
confirmed on, and it belongs to no other live order of the user. -/
structure TakesOwnHold (env : Environment)
    (history : List (World × Action)) (world : World)
    (request : ExpireRequest) (result : ExpireResult) (seatId : SeatId) :
    Prop where
  own : HeldSinceConfirmed env request.orderId result.eventId seatId history
  spared : ∀ order ∈ world.orders,
    order.id ≠ request.orderId →
    order.userId = result.userId →
    order.Live world.now →
    seatId ∉ order.seatIds

/-- In every run in which users neither lock nor order a seat again while one
of their orders on it is open, an `ExpireOrder` that deletes a lock deletes
the one that its order was confirmed on. -/
theorem takesOwnHold_of_waitsForOpenOrders {env : Environment}
    {origin : Instant} {history : List (World × Action)} {world : World}
    {index : Nat} {request : ExpireRequest} {result : ExpireResult}
    {position : Nat} {seatId : SeatId}
    (run : Trace (step env) (World.init origin) history world)
    (guarded : StepsMeet (WaitsForOpenOrders env) history)
    (releasing :
      world.expireCalls[index]? =
        some ⟨request, .running (.releaseHold result position)⟩)
    (here : result.seatIds[position]? = some seatId)
    (deletes :
      holder world.redis result.eventId seatId = some result.userId) :
    TakesOwnHold env history world request result seatId := by
  have sound := Trace.sound run
  have tracked := Trace.holdsTracked run guarded
  obtain ⟨order, member, sameId, settled, sameResult⟩ :=
    sound.cleanups.result index _ _ result releasing rfl rfl
  have confirmed : order ∈ world.confirmed :=
    mem_confirmed.mpr (Or.inl member)
  have seat : seatId ∈ order.seatIds := by
    have listed := List.mem_of_getElem? here
    rw [sameResult] at listed
    exact listed
  have isOpen : OpenOn world order seatId :=
    openOn_of_releasing releasing sameId seat here
  have sameEvent : result.eventId = order.eventId := by rw [sameResult]; rfl
  have sameUser : result.userId = order.userId := by rw [sameResult]; rfl
  constructor
  · rw [sameEvent, sameUser] at deletes
    rw [sameEvent, ← sameId]
    exact tracked.since order confirmed seatId isOpen deletes
  · intro other otherMember different otherUser live otherSeat
    have oneEvent : other.eventId = order.eventId :=
      sound.rows.eventId_eq_of_mem otherMember member otherSeat seat
    have otherOpen : OpenOn world other seatId := ⟨otherSeat, Or.inl live.1⟩
    have oneOrder :=
      tracked.alone other (mem_confirmed.mpr (Or.inl otherMember)) order
        confirmed seatId otherOpen isOpen (otherUser.trans sameUser) oneEvent
    exact different (oneOrder.trans sameId)

def expireAtOnce : List Action :=
  lockSeatRun 0 ⟨10, 1, 7⟩ ++ createOrderRun 0 ⟨10, 1, [7], "first"⟩ ++
    [.expireOrder 0, .expireAwait 0 .resolves, .expireAwait 0 .resolves]

private theorem expireAtOnce_enabled :
    (replay (step smallVenue) [] (World.init 0) expireAtOnce).isSome =
      true := by
  decide

theorem takesOwnHold_expireAtOnce :
    TakesOwnHold smallVenue
      ((replay (step smallVenue) [] (World.init 0) expireAtOnce).get
        expireAtOnce_enabled).1
      ((replay (step smallVenue) [] (World.init 0) expireAtOnce).get
        expireAtOnce_enabled).2 ⟨0, .direct⟩ ⟨true, 10, 1, [7]⟩ 7 := by
  have releasing :
      ((replay (step smallVenue) [] (World.init 0) expireAtOnce).get
        expireAtOnce_enabled).2.expireCalls[0]? =
        some ⟨⟨0, .direct⟩, .running (.releaseHold ⟨true, 10, 1, [7]⟩ 0)⟩ := by
    decide
  exact takesOwnHold_of_waitsForOpenOrders
    (Trace.of_replay_get expireAtOnce expireAtOnce_enabled) (by decide)
    releasing rfl (by decide)

/-- The lock of an order lapses, its user takes the seat again and orders it
again, and then the message of the first order is delivered. -/
def reorderBeforeDelivery : List Action :=
  lockSeatRun 0 ⟨10, 1, 7⟩ ++ createOrderRun 0 ⟨10, 1, [7], "first"⟩ ++
    [.tick 900000] ++ lockSeatRun 1 ⟨10, 1, 7⟩ ++
      createOrderRun 1 ⟨10, 1, [7], "second"⟩ ++
        [.deadLetter 0, .deliver 0, .expireAwait 0 .resolves,
          .expireAwait 0 .resolves]

private theorem reorderBeforeDelivery_enabled :
    (replay (step smallVenue) [] (World.init 0)
      reorderBeforeDelivery).isSome = true := by
  decide

/-- An `ExpireOrder` can delete the lock of a newer order. -/
theorem staleExpiry_reachable :
    ¬ ∀ (env : Environment) (origin : Instant)
        (history : List (World × Action)) (world : World) (index : Nat)
        (request : ExpireRequest) (result : ExpireResult) (position : Nat)
        (seatId : SeatId),
      Trace (step env) (World.init origin) history world →
      world.expireCalls[index]? =
        some ⟨request, .running (.releaseHold result position)⟩ →
      result.seatIds[position]? = some seatId →
      holder world.redis result.eventId seatId = some result.userId →
      TakesOwnHold env history world request result seatId := by
  intro always
  have run :=
    Trace.of_replay_get reorderBeforeDelivery reorderBeforeDelivery_enabled
  generalize reached :
    (replay (step smallVenue) [] (World.init 0) reorderBeforeDelivery).get
      reorderBeforeDelivery_enabled = result at run
  have facts :
      result.2.expireCalls[0]? =
        some ⟨⟨0, .unsettled⟩,
          .running (.releaseHold ⟨true, 10, 1, [7]⟩ 0)⟩ ∧
      holder result.2.redis 1 7 = some 10 ∧
      ∃ order ∈ result.2.orders,
        order.id ≠ 0 ∧ order.userId = 10 ∧ order.Live result.2.now ∧
          7 ∈ order.seatIds := by
    rw [← reached]
    decide
  obtain ⟨releasing, held, order, member, different, user, live, seat⟩ :=
    facts
  have own :=
    always smallVenue 0 result.1 result.2 0 _ _ 0 7 run releasing rfl held
  exact own.spared order member different user live seat

end ConcertTicketing.Booking
