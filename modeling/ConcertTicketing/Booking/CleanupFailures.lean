import ConcertTicketing.Booking.Expiry

/-!
# Clean-ups that are cut short

The compare-and-set commits before the releases and the audit update, and
every later delivery of the message is turned away by the status that it
wrote.  Once a delivery has returned the order is cleaned up, as long as none
is turned away while the clean-up is unfinished.
-/

namespace ConcertTicketing.Booking

open SeatLock Redis

/-- The step is an acquire of the seat for the user that is answered `OK`. -/
def Reacquires (env : Environment) (eventId : EventId) (seatId : SeatId)
    (userId : UserId) (world : World) (action : Action) : Prop :=
  ∃ op ∈ script env world action,
    op.Grants world.redis eventId seatId ∧ op.actor = some userId

/-- The call's compare-and-set is about to find the order `PENDING`. -/
structure Moves (world : World) (mover : Nat) (order : Order) : Prop where
  called : ∃ delivery,
    world.expireCalls[mover]? =
      some ⟨⟨order.id, delivery⟩, .running .markExpired⟩
  member : order ∈ world.orders
  pending : order.status = .pending

/-- Some call for the order has returned since. -/
def ReturnedSince (start world : World) (orderId : OrderId) : Prop :=
  ∃ (index : Nat) (call : ExpireCall),
    world.expireCalls[index]? = some call ∧
    call.input.orderId = orderId ∧
    call.progress = .finished () ∧
    ∀ earlier, start.expireCalls[index]? = some earlier →
      earlier.progress ≠ .finished ()

/-- The user owns no lock on these seats that was not acquired since. -/
def LocksGone (env : Environment) (order : Order)
    (since : List (World × Action)) (world : World)
    (seats : List SeatId) : Prop :=
  ∀ seatId ∈ seats,
    (∀ entry ∈ since,
      ¬ Reacquires env order.eventId seatId order.userId entry.1 entry.2) →
    holder world.redis order.eventId seatId ≠ some order.userId

/-- No row of the order's user and seats that was there at the start is still
`ACTIVE`. -/
def AuditSettled (order : Order) (start world : World) : Prop :=
  ∀ (position : Nat) (row : SeatLockRow),
    position < start.seatLocks.length →
    world.seatLocks[position]? = some row →
    row.userId = order.userId →
    row.seatId ∈ order.seatIds →
    row.status ≠ .active

/-- What a completed expiry leaves behind. -/
structure CleanedUp (env : Environment) (order : Order)
    (since : List (World × Action)) (start world : World) : Prop where
  locks : LocksGone env order since world order.seatIds
  audit : AuditSettled order start world

/-- The call has carried out the audit update, whatever it was told. -/
def Completed : ExpireProgress → Prop
  | .finished () => True
  | .failed (.expireSeatLockAudit _) applied => applied = true
  | _ => False

instance : DecidablePred Completed
  | .finished () => isTrue trivial
  | .failed (.expireSeatLockAudit _) applied =>
      inferInstanceAs (Decidable (applied = true))
  | .failed .markExpired _ => isFalse id
  | .failed (.findOrder _) _ => isFalse id
  | .failed (.releaseHold _ _) _ => isFalse id
  | .running _ => isFalse id
  | .stopped _ => isFalse id

/-- A call for the order that the status turns away returns only behind the
audit update of the call that moved the order. -/
def ReturnsBehindMover (mover : Nat) (orderId : OrderId) (world : World)
    (action : Action) : Prop :=
  ∀ await ∈ action.expireAwait?,
    ∀ call ∈ Call.runningAt world.expireCalls await.1,
      await.2 = .resolves →
      call.1.orderId = orderId →
      call.2 = .findOrder false →
      ∃ moving ∈ world.expireCalls[mover]?, Completed moving.progress

instance (mover : Nat) (orderId : OrderId) (world : World)
    (action : Action) :
    Decidable (ReturnsBehindMover mover orderId world action) :=
  inferInstanceAs
    (Decidable
      (∀ await ∈ action.expireAwait?,
        ∀ call ∈ Call.runningAt world.expireCalls await.1,
          _ → _ → _ → ∃ moving ∈ world.expireCalls[mover]?, Completed _))

theorem LocksGone.step {env : Environment} {order : Order}
    {since : List (World × Action)} {world next : World} {action : Action}
    {seats : List SeatId} (gone : LocksGone env order since world seats)
    (stepped : step env world action = some next) :
    LocksGone env order ((world, action) :: since) next seats := by
  intro seatId seat quiet held
  have parts := List.forall_mem_cons.mp quiet
  have before := gone seatId seat parts.2
  rcases step_redis_effect stepped with ⟨_, same⟩ | ⟨op, runs, effect⟩
  · rw [same] at held
    exact before held
  · rcases holder_of_effect effect held with
      kept | ⟨input, rfl, sameEvent, sameSeat, sameUser, granted⟩
    · exact before kept
    · apply parts.1
      exact ⟨_, runs, ⟨sameEvent, sameSeat, granted⟩, congrArg some sameUser⟩

theorem AuditSettled.step {env : Environment} {order : Order}
    {start world next : World} {action : Action}
    (settled : AuditSettled order start world)
    (rows : start.seatLocks.length ≤ world.seatLocks.length)
    (stepped : step env world action = some next) :
    AuditSettled order start next := by
  intro position row inside reached sameUser seat active
  obtain ⟨earlier, found, user, place, wasActive⟩ :=
    (step_seatLocks stepped).row_origin (inside.trans_le rows) reached
  rw [user] at sameUser
  rw [place] at seat
  exact settled position earlier inside found sameUser seat
    (wasActive active)

/-- The audit update settles every row of the user and the seats. -/
theorem not_active_of_expireSeatLockAudit {seatIds : List SeatId}
    {userId : UserId} {now : Instant} {rows : List SeatLockRow}
    {position : Nat} {row : SeatLockRow}
    (reached :
      (expireSeatLockAudit seatIds userId now rows)[position]? = some row)
    (sameUser : row.userId = userId) (seat : row.seatId ∈ seatIds) :
    row.status ≠ .active := by
  intro active
  have someSeats : seatIds ≠ [] := List.ne_nil_of_mem seat
  rw [expireSeatLockAudit, if_neg someSeats, List.getElem?_map,
    Option.map_eq_some_iff] at reached
  obtain ⟨earlier, _, rfl⟩ := reached
  rw [SeatLockRow.settle_userId] at sameUser
  rw [SeatLockRow.settle_seatId] at seat
  have unselected :=
    (SeatLockRow.active_of_settle SeatLockStatus.noConfusion active).2
  exact of_decide_eq_false unselected ⟨seat, sameUser⟩

/-- After its release script the user does not own the lock. -/
theorem holder_releaseHold_ne (eventId : EventId) (seatId : SeatId)
    (userId : UserId) (db : SeatStore) :
    holder (releaseHold eventId seatId userId db) eventId seatId ≠
      some userId := by
  rw [releaseHold_eq]
  by_cases held : holder db eventId seatId = some userId
  · rw [if_pos held, holder_dropped, if_pos ⟨rfl, rfl⟩]
    exact (Option.some_ne_none _).symm
  · rw [if_neg held]
    exact held

/-- How far the call has come, and what it has cleaned up so far. -/
inductive CleanupAt (env : Environment) (order : Order)
    (since : List (World × Action)) (start world : World) :
    ExpireProgress → Prop
  | reading : CleanupAt env order since start world
      (.running (.findOrder true))
  | releasing (position : Nat)
      (gone :
        LocksGone env order since world (order.seatIds.take position)) :
      CleanupAt env order since start world
        (.running (.releaseHold (movedResult order) position))
  | auditing (gone : LocksGone env order since world order.seatIds) :
      CleanupAt env order since start world
        (.running (.expireSeatLockAudit (movedResult order)))
  | done (cleaned : CleanedUp env order since start world) :
      CleanupAt env order since start world (.finished ())
  | cut (stage : ExpireStage) (applied : Bool)
      (cleaned :
        Completed (.failed stage applied) →
          CleanedUp env order since start world) :
      CleanupAt env order since start world (.failed stage applied)
  | stopped (stage : ExpireStage) :
      CleanupAt env order since start world (.stopped stage)

private theorem CleanupAt.of_releaseFrom {env : Environment} {order : Order}
    {since : List (World × Action)} {start world : World} (position : Nat)
    (gone : LocksGone env order since world (order.seatIds.take position)) :
    CleanupAt env order since start world
      (releaseFrom (movedResult order) position) := by
  unfold releaseFrom
  by_cases inside : position < (movedResult order).seatIds.length
  · rw [if_pos inside]
    exact .releasing position gone
  · have all : order.seatIds.take position = order.seatIds :=
      List.take_of_length_le (Nat.le_of_not_lt inside)
    rw [all] at gone
    rw [if_neg inside]
    exact .auditing gone

private theorem CleanupAt.cleanedUp {env : Environment} {order : Order}
    {since : List (World × Action)} {start world : World}
    {progress : ExpireProgress}
    (cleanup : CleanupAt env order since start world progress)
    (completed : Completed progress) :
    CleanedUp env order since start world := by
  cases cleanup with
  | reading => exact completed.elim
  | releasing => exact completed.elim
  | auditing => exact completed.elim
  | done cleaned => exact cleaned
  | cut stage applied cleaned => exact cleaned completed
  | stopped => exact completed.elim

theorem CleanedUp.step {env : Environment} {order : Order}
    {since : List (World × Action)} {start world next : World}
    {action : Action} (cleaned : CleanedUp env order since start world)
    (rows : start.seatLocks.length ≤ world.seatLocks.length)
    (stepped : Booking.step env world action = some next) :
    CleanedUp env order ((world, action) :: since) start next :=
  ⟨cleaned.locks.step stepped, cleaned.audit.step rows stepped⟩

/-- A step of another request keeps what has been cleaned up. -/
theorem CleanupAt.step {env : Environment} {order : Order}
    {since : List (World × Action)} {start world next : World}
    {action : Action} {progress : ExpireProgress}
    (cleanup : CleanupAt env order since start world progress)
    (rows : start.seatLocks.length ≤ world.seatLocks.length)
    (stepped : Booking.step env world action = some next) :
    CleanupAt env order ((world, action) :: since) start next progress := by
  cases cleanup with
  | reading => exact .reading
  | releasing position gone => exact .releasing position (gone.step stepped)
  | auditing gone => exact .auditing (gone.step stepped)
  | done cleaned => exact .done (cleaned.step rows stepped)
  | cut stage applied cleaned =>
      exact .cut stage applied fun completed =>
        (cleaned completed).step rows stepped
  | stopped stage => exact .stopped stage

theorem movedResult_expireIfPending (order : Order) :
    movedResult (expireIfPending order.id order) = movedResult order := by
  simp only [movedResult, expireIfPending_userId, expireIfPending_eventId,
    expireIfPending_seatIds]

/-- The query of the moving call finds the order's own row. -/
theorem findOrder_moved {world : World} (fresh : IdsFresh world)
    {order : Order}
    (settled : expireIfPending order.id order ∈ world.orders) :
    ∃ row, findOrder order.id world.orders = some row ∧
      movedResult row = movedResult order := by
  have matched :
      (findOrder order.id world.orders).isSome := by
    rw [findOrder, List.find?_isSome]
    exact ⟨_, settled, decide_eq_true (expireIfPending_id _ _)⟩
  obtain ⟨row, found⟩ := Option.isSome_iff_exists.mp matched
  have facts := findOrder_some found
  have sameRow : row = expireIfPending order.id order :=
    fresh.unique facts.1 settled (by rw [facts.2, expireIfPending_id])
  exact ⟨row, found, by rw [sameRow, movedResult_expireIfPending]⟩

/-- A resolved call of the clean-up brings it one stage further. -/
theorem CleanupAt.resolve {env : Environment} {order : Order}
    {since : List (World × Action)} {start world next : World}
    {action : Action} {stage : ExpireStage} {progress : ExpireProgress}
    (cleanup : CleanupAt env order since start world (.running stage))
    (fresh : IdsFresh world)
    (settled : expireIfPending order.id order ∈ world.orders)
    (stepped : Booking.step env world action = some next)
    (resolved :
      (expireOrder order.id).resolve world.toStores stage =
        some (next.toStores, progress)) :
    CleanupAt env order ((world, action) :: since) start next progress := by
  cases cleanup with
  | reading =>
      obtain ⟨row, found, sameResult⟩ := findOrder_moved fresh settled
      have read :
          (expireOrder order.id).resolve world.toStores (.findOrder true) =
            some (world.toStores, releaseFrom (movedResult row) 0) := by
        simp only [expireOrder, found, orderFound, if_true, movedResult]
      rw [read, sameResult] at resolved
      injection resolved with same
      injection same with _ sameProgress
      rw [← sameProgress]
      apply CleanupAt.of_releaseFrom
      intro seatId seat
      cases seat
  | releasing position gone =>
      have kept := gone.step stepped
      generalize reached : next.toStores = after at resolved
      cases expireOrder_resolved resolved with
      | released _ _ released here =>
          apply CleanupAt.of_releaseFrom
          intro seatId seat
          have listed : order.seatIds[position]? = some released := here
          rw [List.take_add_one, listed, Option.toList_some,
            List.mem_append] at seat
          rcases seat with old | new
          · exact kept seatId old
          · rw [List.mem_singleton] at new
            subst new
            intro _
            have sameRedis :
                next.redis =
                  releaseHold order.eventId seatId order.userId
                    world.redis := congrArg Stores.redis reached
            rw [sameRedis]
            exact holder_releaseHold_ne _ _ _ _
  | auditing gone =>
      have kept := gone.step stepped
      generalize reached : next.toStores = after at resolved
      cases expireOrder_resolved resolved with
      | settled =>
          refine .done ⟨kept, ?_⟩
          intro position row _ found sameUser seat
          have sameRows :
              next.seatLocks =
                expireSeatLockAudit order.seatIds order.userId world.now
                  world.seatLocks := congrArg Stores.seatLocks reached
          rw [sameRows] at found
          exact not_active_of_expireSeatLockAudit found sameUser seat

/-- A pending call of the clean-up ends one way or the other. -/
theorem CleanupAt.await {env : Environment} {order : Order}
    {since : List (World × Action)} {start world next : World}
    {action : Action} {stage : ExpireStage} {outcome : Await}
    {progress : ExpireProgress}
    (cleanup : CleanupAt env order since start world (.running stage))
    (fresh : IdsFresh world)
    (settled : expireIfPending order.id order ∈ world.orders)
    (stepped : Booking.step env world action = some next)
    (awaited :
      (expireOrder order.id).await world.toStores stage outcome =
        some (next.toStores, progress)) :
    CleanupAt env order ((world, action) :: since) start next progress := by
  rcases AsyncFunction.await_cases awaited with
    ⟨resolved, performed, _, ⟨_, rfl⟩ | ⟨_, rejected⟩⟩ |
      ⟨_, _, ⟨_, rejected⟩ | ⟨_, stopped⟩⟩
  · exact cleanup.resolve fresh settled stepped performed
  · rw [rejected]
    refine .cut stage true ?_
    intro completed
    cases stage with
    | markExpired => exact completed.elim
    | findOrder => exact completed.elim
    | releaseHold => exact completed.elim
    | expireSeatLockAudit result =>
        have finished : resolved = .finished () := by
          generalize next.toStores = after at performed
          cases expireOrder_resolved performed with
          | settled => rfl
        have applied := cleanup.resolve fresh settled stepped performed
        rw [finished] at applied
        exact applied.cleanedUp trivial
  · rw [rejected]
    refine .cut stage false ?_
    intro completed
    cases stage with
    | expireSeatLockAudit result => cases completed
    | _ => exact completed.elim
  · rw [stopped]
    exact .stopped stage

/-- What is known between the move and a later state. -/
structure MoverTracked (env : Environment) (order : Order) (mover : Nat)
    (since : List (World × Action)) (start world : World) : Prop where
  settled : expireIfPending order.id order ∈ world.orders
  rows : start.seatLocks.length ≤ world.seatLocks.length
  cleanup : ∃ call, world.expireCalls[mover]? = some call ∧
    call.input.orderId = order.id ∧
    CleanupAt env order since start world call.progress
  others : ∀ (index : Nat) (call : ExpireCall) (stage : ExpireStage),
    index ≠ mover →
    world.expireCalls[index]? = some call →
    call.input.orderId = order.id →
    call.progress.stage? = some stage →
    ¬ stage.Moved
  returned : ReturnedSince start world order.id →
    ∃ call, world.expireCalls[mover]? = some call ∧ Completed call.progress

/-- A call returns from its query or from the audit update. -/
theorem stage_of_finished {orderId : OrderId} {stores after : Stores}
    {stage : ExpireStage} {outcome : Await} {progress : ExpireProgress}
    (awaited :
      (expireOrder orderId).await stores stage outcome =
        some (after, progress))
    (finished : progress = .finished ()) :
    outcome = .resolves ∧ (stage = .findOrder false ∨ stage.Moved) := by
  rcases expireOrder_await awaited with ⟨resolves, resolved⟩ | failed | stopped
  · refine ⟨resolves, ?_⟩
    cases resolved with
    | marked => cases finished
    | read changed =>
        cases changed with
        | false => exact Or.inl rfl
        | true => exact Or.inr rfl
    | released => exact Or.inr trivial
    | settled => exact Or.inr trivial
  · rw [failed] at finished
    cases finished
  · rw [stopped] at finished
    cases finished

namespace MoverTracked

variable {env : Environment} {order : Order} {mover : Nat}
  {since : List (World × Action)} {start world next : World}
  {action : Action}

private theorem cleanup_step
    (tracked : MoverTracked env order mover since start world)
    (fresh : IdsFresh world)
    (stepped : Booking.step env world action = some next) :
    ∃ call, next.expireCalls[mover]? = some call ∧
      call.input.orderId = order.id ∧
      CleanupAt env order ((world, action) :: since) start next
        call.progress := by
  obtain ⟨call, found, sameOrder, cleanup⟩ := tracked.cleanup
  obtain ⟨after, reached, sameInput, ran⟩ := step_expireCall stepped found
  refine ⟨after, reached, sameInput.trans sameOrder, ?_⟩
  rcases ran with same | ⟨outcome, stage, _, running, awaited⟩
  · rw [same]
    exact cleanup.step tracked.rows stepped
  · rw [running] at cleanup
    rw [sameOrder] at awaited
    exact cleanup.await fresh tracked.settled stepped awaited

/-- No call moves an order a second time. -/
theorem others_step
    (tracked : MoverTracked env order mover since start world)
    (fresh : IdsFresh world)
    (stepped : Booking.step env world action = some next)
    {index : Nat} {call : ExpireCall} {stage : ExpireStage}
    (different : index ≠ mover)
    (reached : next.expireCalls[index]? = some call)
    (sameOrder : call.input.orderId = order.id)
    (current : call.progress.stage? = some stage) : ¬ stage.Moved := by
  intro moved
  rcases step_moved fresh stepped reached current moved with
    ⟨earlier, earlierStage, found, sameId, before, movedBefore⟩ |
      ⟨_, _, twin, member, identified, pending⟩
  · exact tracked.others index earlier earlierStage different found
      (sameId.trans sameOrder) before movedBefore
  · have sameRow : twin = expireIfPending order.id order := by
      apply fresh.unique member tracked.settled
      rw [identified, sameOrder, expireIfPending_id]
    rw [sameRow] at pending
    exact ((expireIfPending_status _ _).mp pending).2 rfl

/-- A completed clean-up stays completed. -/
theorem completed_step
    (stepped : Booking.step env world action = some next)
    (completed : ∃ call, world.expireCalls[mover]? = some call ∧
      Completed call.progress) :
    ∃ call, next.expireCalls[mover]? = some call ∧
      Completed call.progress := by
  obtain ⟨call, found, done⟩ := completed
  obtain ⟨after, reached, _, ran⟩ := step_expireCall stepped found
  refine ⟨after, reached, ?_⟩
  rcases ran with same | ⟨_, stage, _, running, _⟩
  · rw [same]
    exact done
  · rw [running] at done
    exact done.elim

theorem returned_step
    (tracked : MoverTracked env order mover since start world)
    (guarded : ReturnsBehindMover mover order.id world action)
    (stepped : Booking.step env world action = some next)
    (returned : ReturnedSince start next order.id) :
    ∃ call, next.expireCalls[mover]? = some call ∧
      Completed call.progress := by
  obtain ⟨index, call, reached, sameOrder, finished, new⟩ := returned
  have early : ∀ earlier : ExpireCall,
      world.expireCalls[index]? = some earlier →
      earlier.input.orderId = order.id →
      earlier.progress = .finished () →
      ∃ moving, next.expireCalls[mover]? = some moving ∧
        Completed moving.progress := by
    intro earlier found earlierOrder earlierFinished
    exact completed_step stepped
      (tracked.returned
        ⟨index, earlier, found, earlierOrder, earlierFinished, new⟩)
  cases step_expireCalls stepped reached with
  | kept _ _ found => exact early call found sameOrder finished
  | requested orderId _ requested =>
      rw [requested] at finished
      cases finished
  | delivered position orderId _ queued delivered =>
      rw [delivered] at finished
      cases finished
  | awaited outcome stage found awaited =>
      by_cases samePosition : index = mover
      · subst samePosition
        refine ⟨call, reached, ?_⟩
        rw [finished]
        exact trivial
      · obtain ⟨resolves, unmoved | moved⟩ :=
          stage_of_finished awaited finished
        · obtain ⟨moving, movingFound, completed⟩ :=
            guarded _ rfl _ (Call.runningAt_eq_some.mpr found) resolves
              sameOrder unmoved
          exact completed_step stepped ⟨moving, movingFound, completed⟩
        · exact absurd moved
            (tracked.others index _ stage samePosition found sameOrder rfl)
  | answered _ found _ => exact early _ found sameOrder finished

theorem step (tracked : MoverTracked env order mover since start world)
    (fresh : IdsFresh world)
    (guarded : ReturnsBehindMover mover order.id world action)
    (stepped : Booking.step env world action = some next) :
    MoverTracked env order mover ((world, action) :: since) start next := by
  constructor
  · apply (step_orders stepped).order_kept tracked.settled
    intro pending
    exact ((expireIfPending_status _ _).mp pending).2 rfl
  · exact tracked.rows.trans (step_seatLocks stepped).length_le
  · exact tracked.cleanup_step fresh stepped
  · intro index call stage different reached sameOrder current
    exact tracked.others_step fresh stepped different reached sameOrder
      current
  · exact tracked.returned_step guarded stepped

end MoverTracked

/-- The compare-and-set writes the status, and the call goes on to its query
or has lost the answer. -/
theorem markExpired_of_await {orderId : OrderId} {stores after : Stores}
    {outcome : Await} {progress : ExpireProgress}
    (applies : outcome.Applies = true)
    (awaited :
      (expireOrder orderId).await stores .markExpired outcome =
        some (after, progress)) :
    after.orders = stores.orders.map (expireIfPending orderId) ∧
      (progress =
          .running
            (.findOrder (decide (pendingCount orderId stores.orders = 1))) ∨
        progress = .failed .markExpired true) := by
  rcases AsyncFunction.await_cases awaited with
    ⟨resolved, performed, _, ran⟩ | ⟨_, unapplied, _⟩
  · cases expireOrder_resolved performed with
    | marked =>
        refine ⟨rfl, ?_⟩
        rcases ran with ⟨_, same⟩ | ⟨_, same⟩
        · exact Or.inl same
        · exact Or.inr same
  · rw [applies] at unapplied
    cases unapplied

/-- Behind the compare-and-set that moves the order, its call reads the row,
or has failed there. -/
theorem cleanupAt_of_moves {env : Environment} {order : Order}
    {mover : Nat} {outcome : Await} {before after : World}
    (sound : Sound env before) (moves : Moves before mover order)
    (applies : outcome.Applies = true)
    (moving : step env before (.expireAwait mover outcome) = some after) :
    after.orders = before.orders.map (expireIfPending order.id) ∧
      ∃ call, after.expireCalls[mover]? = some call ∧
        call.input.orderId = order.id ∧
        CleanupAt env order [] after after call.progress := by
  obtain ⟨delivery, found⟩ := moves.called
  have counted : pendingCount order.id before.orders = 1 :=
    (sound.ids.pendingCount_eq_one_iff order.id).mpr
      ⟨order, moves.member, rfl, moves.pending⟩
  cases step_cases moving with
  | expireAwaited _ _ request stage progress stores running awaited =>
      rw [found] at running
      cases running
      have inside : mover < before.expireCalls.length :=
        (List.getElem?_eq_some_iff.mp found).1
      obtain ⟨written, ran⟩ := markExpired_of_await applies awaited
      refine ⟨written, _, List.getElem?_set_self inside, rfl, ?_⟩
      rcases ran with same | same
      · rw [same, counted]
        exact .reading
      · rw [same]
        exact .cut _ _ False.elim

/-- The call is tracked from its compare-and-set on. -/
theorem moverTracked_start {env : Environment} {order : Order}
    {mover : Nat} {outcome : Await} {before after : World}
    (sound : Sound env before) (moves : Moves before mover order)
    (applies : outcome.Applies = true)
    (moving : step env before (.expireAwait mover outcome) = some after) :
    MoverTracked env order mover [] after after := by
  obtain ⟨written, call, reached, sameOrder, cleanup⟩ :=
    cleanupAt_of_moves sound moves applies moving
  constructor
  · rw [written]
    exact List.mem_map_of_mem moves.member
  · exact le_refl _
  · exact ⟨call, reached, sameOrder, cleanup⟩
  · intro index other stage different otherReached otherOrder current moved
    rcases step_moved sound.ids moving otherReached current moved with
      ⟨earlier, earlierStage, otherFound, sameId, running, movedBefore⟩ |
        ⟨⟨_, same⟩, _⟩
    · have identified : order.id = earlier.input.orderId :=
        (sameId.trans otherOrder).symm
      exact sound.cleanups.settled sound.ids otherFound running movedBefore
        moves.member identified moves.pending
    · injection same with samePosition
      exact different samePosition.symm
  · rintro ⟨index, other, otherReached, _, finished, new⟩
    exact absurd finished (new other otherReached)

/-- A run from a sound state keeps track of the mover. -/
theorem Trace.moverTracked {env : Environment} {order : Order} {mover : Nat}
    {since : List (World × Action)} {start world : World}
    (run : Trace (step env) start since world)
    (guarded : StepsMeet (ReturnsBehindMover mover order.id) since)
    (sound : Sound env start)
    (tracked : MoverTracked env order mover [] start start) :
    MoverTracked env order mover since start world := by
  have both :
      Sound env world ∧ MoverTracked env order mover since start world := by
    refine Trace.invariantWith (ReturnsBehindMover mover order.id)
      (fun history reached =>
        Sound env reached ∧
          MoverTracked env order mover history start reached)
      ⟨sound, tracked⟩ ?_ run guarded
    rintro history current action next _ ⟨soundHere, trackedHere⟩ guard
      stepped
    exact
      ⟨sound_step soundHere stepped,
        trackedHere.step soundHere.ids guard stepped⟩
  exact both.2

/-- In every run in which no call for the order is turned away ahead of the
audit update of the call that moved the order, the order is cleaned up once a
call has returned after the move. -/
theorem cleanedUp_of_returnsBehindMover {env : Environment}
    {origin : Instant} {past since : List (World × Action)}
    {before after world : World} {mover : Nat} {outcome : Await}
    {order : Order}
    (older : Trace (step env) (World.init origin) past before)
    (moves : Moves before mover order)
    (applies : outcome.Applies = true)
    (moving : step env before (.expireAwait mover outcome) = some after)
    (newer : Trace (step env) after since world)
    (guarded : StepsMeet (ReturnsBehindMover mover order.id) since)
    (returned : ReturnedSince after world order.id) :
    CleanedUp env order since after world := by
  have sound := Trace.sound older
  have tracked : MoverTracked env order mover since after world :=
    Trace.moverTracked newer guarded (sound_step sound moving)
      (moverTracked_start sound moves applies moving)
  obtain ⟨call, found, completed⟩ := tracked.returned returned
  obtain ⟨same, foundAgain, _, cleanup⟩ := tracked.cleanup
  rw [found] at foundAgain
  cases foundAgain
  exact cleanup.cleanedUp completed

def deliverWhenDue : List Action :=
  lockSeatRun 0 ⟨10, 1, 7⟩ ++ createOrderRun 0 ⟨10, 1, [7], "first"⟩ ++
    [.tick 900000, .deadLetter 0, .deliver 0]

private theorem deliverWhenDue_enabled :
    (replay (step smallVenue) [] (World.init 0) deliverWhenDue).isSome =
      true := by
  decide

/-- The order that `deliverWhenDue` creates. -/
def dueOrder : Order :=
  ⟨0, 10, 1, "first", .pending, 5000, 900000, [⟨some 7, 3, 5000⟩]⟩

def beforeMove : World :=
  ((replay (step smallVenue) [] (World.init 0) deliverWhenDue).get
    deliverWhenDue_enabled).2

private theorem move_enabled :
    (step smallVenue beforeMove (.expireAwait 0 .resolves)).isSome = true := by
  decide

def afterMove : World :=
  (step smallVenue beforeMove (.expireAwait 0 .resolves)).get move_enabled

private theorem moves_dueOrder : Moves beforeMove 0 dueOrder where
  called := ⟨.unsettled, by decide⟩
  member := by decide
  pending := rfl

/-- The answer of the audit update is lost, and the broker delivers the
message again. -/
def loseAuditAnswer : List Action :=
  [.expireAwait 0 .resolves, .expireAwait 0 .resolves,
    .expireAwait 0 (.rejects true), .requeue 0, .deliver 0,
    .expireAwait 1 .resolves, .expireAwait 1 .resolves]

private theorem loseAuditAnswer_enabled :
    (replay (step smallVenue) [] afterMove loseAuditAnswer).isSome = true := by
  decide

theorem cleanedUp_loseAuditAnswer :
    CleanedUp smallVenue dueOrder
      ((replay (step smallVenue) [] afterMove loseAuditAnswer).get
        loseAuditAnswer_enabled).1
      afterMove
      ((replay (step smallVenue) [] afterMove loseAuditAnswer).get
        loseAuditAnswer_enabled).2 :=
  cleanedUp_of_returnsBehindMover
    (Trace.of_replay_get deliverWhenDue deliverWhenDue_enabled)
    moves_dueOrder rfl (Option.some_get move_enabled).symm
    (Trace.of_replay_get loseAuditAnswer loseAuditAnswer_enabled)
    (by decide)
    ⟨1, ⟨⟨0, .unsettled⟩, .finished ()⟩, by decide, rfl, rfl, by decide⟩

/-- The process stops before its first release, and the message is delivered
again. -/
def stopBehindMove : List Action :=
  [.expireAwait 0 .stops, .requeue 0, .deliver 0, .expireAwait 1 .resolves,
    .expireAwait 1 .resolves]

private theorem stopBehindMove_enabled :
    (replay (step smallVenue) [] afterMove stopBehindMove).isSome = true := by
  decide

/-- Not every order is cleaned up once a call has returned. -/
theorem unfinishedCleanup_reachable :
    ¬ ∀ (env : Environment) (origin : Instant)
        (past since : List (World × Action)) (before after world : World)
        (mover : Nat) (outcome : Await) (order : Order),
      Trace (step env) (World.init origin) past before →
      Moves before mover order →
      outcome.Applies = true →
      step env before (.expireAwait mover outcome) = some after →
      Trace (step env) after since world →
      ReturnedSince after world order.id →
      CleanedUp env order since after world := by
  intro always
  have cleaned :=
    always smallVenue 0 _ _ beforeMove afterMove _ 0 .resolves dueOrder
      (Trace.of_replay_get deliverWhenDue deliverWhenDue_enabled)
      moves_dueOrder rfl (Option.some_get move_enabled).symm
      (Trace.of_replay_get stopBehindMove stopBehindMove_enabled)
      ⟨1, ⟨⟨0, .unsettled⟩, .finished ()⟩, by decide, rfl, rfl, by decide⟩
  exact cleaned.audit 0 ⟨7, 10, 0, 900000, none, .active⟩ (by decide)
    (by decide) rfl (by decide) rfl

end ConcertTicketing.Booking
