import ConcertTicketing.Booking.MessageLoss
import ConcertTicketing.Library.Descent
import Mathlib.Algebra.Order.BigOperators.Group.List
import Mathlib.Algebra.Order.Group.Nat

/-!
# The work that is left

As long as no request comes in and nothing fails, every step but the passing
of time finishes something.  The work left in a world is a bound on the number
of such steps: a stage of a call pays for the stages behind it, the publish of
a message for its way through the broker, and the delivery of a message for the
clean-up of its order, whose loop runs over the seats of the order.
-/

namespace ConcertTicketing

def Progress.isStopped {σ ρ : Type} : Progress σ ρ → Bool
  | .stopped _ => true
  | _ => false

namespace Booking

open SeatLock

def Action.IsTick : Action → Prop
  | .tick _ => True
  | _ => False

instance : DecidablePred Action.IsTick
  | .tick _ => isTrue trivial
  | .lockSeat _ => isFalse id
  | .releaseSeat _ => isFalse id
  | .createOrder _ => isFalse id
  | .expireOrder _ => isFalse id
  | .lockAwait _ _ => isFalse id
  | .releaseAwait _ _ => isFalse id
  | .createAwait _ _ => isFalse id
  | .expireAwait _ _ => isFalse id
  | .deadLetter _ => isFalse id
  | .deliver _ => isFalse id
  | .settle _ => isFalse id
  | .requeue _ => isFalse id

/-- An await resolves, or the broker moves or delivers a message, sees a
delivery settled or takes one back from a process that has stopped. -/
def Works (world : World) : Action → Prop
  | .lockAwait _ outcome => outcome = .resolves
  | .releaseAwait _ outcome => outcome = .resolves
  | .createAwait _ outcome => outcome = .resolves
  | .expireAwait _ outcome => outcome = .resolves
  | .deadLetter _ => True
  | .deliver _ => True
  | .settle _ => True
  | .requeue index =>
      ∃ call ∈ world.expireCalls[index]?, call.progress.isStopped = true
  | _ => False

instance (world : World) : DecidablePred (Works world)
  | .tick _ => isFalse id
  | .lockSeat _ => isFalse id
  | .releaseSeat _ => isFalse id
  | .createOrder _ => isFalse id
  | .expireOrder _ => isFalse id
  | .lockAwait _ outcome => inferInstanceAs (Decidable (outcome = _))
  | .releaseAwait _ outcome => inferInstanceAs (Decidable (outcome = _))
  | .createAwait _ outcome => inferInstanceAs (Decidable (outcome = _))
  | .expireAwait _ outcome => inferInstanceAs (Decidable (outcome = _))
  | .deadLetter _ => isTrue trivial
  | .deliver _ => isTrue trivial
  | .settle _ => isTrue trivial
  | .requeue index =>
      inferInstanceAs (Decidable (∃ call ∈ world.expireCalls[index]?, _))

/-- No request comes in and nothing fails. -/
def Undisturbed (world : World) (action : Action) : Prop :=
  action.IsTick ∨ Works world action

instance (world : World) : DecidablePred (Undisturbed world) :=
  fun action => inferInstanceAs (Decidable (action.IsTick ∨ Works world action))

def lockWork : LockProgress → Nat
  | .running .acquire => 3
  | .running .findActive => 2
  | .running (.recordAcquired _) => 1
  | _ => 0

def releaseWork :
    Progress ReleaseStage (Except ReleaseSeatError Unit) → Nat
  | .running .release => 2
  | .running .recordReleased => 1
  | _ => 0

/-- Up to `seats` seats are released when an order expires. -/
def createWork (seats : Nat) : CreateProgress → Nat
  | .running .verifyHeld => seats + 13
  | .running .loadSeatPricing => seats + 12
  | .running (.insertOrder _) => seats + 11
  | .running (.extendHold _) => seats + 10
  | .running (.commit _) => seats + 9
  | .running (.publishExpiration _) => seats + 8
  | .running .findByIdempotencyKey => 1
  | _ => 0

def expireStageWork (seats : Nat) : ExpireStage → Nat
  | .markExpired => seats + 4
  | .findOrder _ => seats + 3
  | .releaseHold result position => result.seatIds.length - position + 2
  | .expireSeatLockAudit _ => 1

def expireWork (seats : Nat) (delivery : Delivery) : ExpireProgress → Nat
  | .running stage => expireStageWork seats stage + 1
  | .stopped _ => if delivery = .unsettled then seats + 7 else 0
  | .failed _ _ => if delivery = .unsettled then 1 else 0
  | .finished _ => if delivery = .unsettled then 1 else 0

/-- The work left in the world when no order has more seats than that. -/
def workWith (seats : Nat) (world : World) : Nat :=
  (world.lockCalls.map fun call => lockWork call.progress).sum +
    (world.releaseCalls.map fun call => releaseWork call.progress).sum +
    (world.createCalls.map fun call => createWork seats call.progress).sum +
    (world.expireCalls.map fun call =>
      expireWork seats call.input.delivery call.progress).sum +
    (seats + 7) * world.broker.delayQueue.length +
    (seats + 6) * world.broker.timeoutQueue.length

/-- The stages up to the commit of the row. -/
def CreateStage.beforeCommit : CreateStage → Bool
  | .publishExpiration _ => false
  | .findByIdempotencyKey => false
  | _ => true

/-- The seats that the call may still put into a committed order. -/
def seatsAhead (call : CreateCall) : Nat :=
  match call.progress with
  | .running stage =>
      if stage.beforeCommit then call.input.seatIds.length else 0
  | _ => 0

/-- A bound on the number of seats of an order, now and later. -/
def seatsInPlay (world : World) : Nat :=
  (world.orders.map fun order => order.seatIds.length).sum +
    (world.createCalls.map seatsAhead).sum

def workLeft (world : World) : Nat := workWith (seatsInPlay world) world

private theorem length_le_seatsInPlay {world : World} {order : Order}
    (member : order ∈ world.orders) :
    order.seatIds.length ≤ seatsInPlay world := by
  have among : order.seatIds.length ∈
      world.orders.map fun order => order.seatIds.length :=
    List.mem_map_of_mem member
  exact (List.le_sum_of_mem among).trans (Nat.le_add_right _ _)

private theorem seatIds_expireIfPending (orderId : OrderId) (order : Order) :
    (expireIfPending orderId order).seatIds = order.seatIds := by
  unfold expireIfPending
  split <;> rfl

/-- What a resolved create call does to the seats in play. -/
theorem seatsAhead_resolved {env : Environment} {uncommitted : List Order}
    {input : CreateOrderInput} {stores after : Stores} {stage : CreateStage}
    {progress : CreateProgress}
    (resolved :
      CreateResolved env uncommitted input stores stage after progress)
    (inserted : ∀ row, stage.row? = some row →
      row.seatIds = input.seatIds) :
    (after.orders.map fun order => order.seatIds.length).sum +
        seatsAhead ⟨input, progress⟩ ≤
      (stores.orders.map fun order => order.seatIds.length).sum +
        seatsAhead ⟨input, .running stage⟩ := by
  cases resolved with
  | committed row =>
      have same := inserted row rfl
      simp [seatsAhead, CreateStage.beforeCommit, same]
  | _ => simp [seatsAhead, CreateStage.beforeCommit]

/-- Working puts no seats into play. -/
theorem seatsInPlay_le {env : Environment} {world next : World}
    {action : Action} (sound : RowsSound env world)
    (undisturbed : Undisturbed world action)
    (stepped : step env world action = some next) :
    seatsInPlay next ≤ seatsInPlay world := by
  unfold seatsInPlay
  cases step_cases stepped with
  | lockRequested input =>
      rcases undisturbed with tick | works <;> contradiction
  | releaseRequested input =>
      rcases undisturbed with tick | works <;> contradiction
  | createRequested input =>
      rcases undisturbed with tick | works <;> contradiction
  | expireRequested orderId =>
      rcases undisturbed with tick | works <;> contradiction
  | lockAwaited index outcome input stage progress after found awaited =>
      rw [(lockSeat_sameOrders awaited).orders]
  | releaseAwaited index outcome input stage progress after found awaited =>
      rw [(releaseSeat_sameOrders awaited).orders]
  | createAwaited index outcome input stage progress after found awaited =>
      obtain rfl : outcome = .resolves := undisturbed.resolve_left id
      have resolved := createOrder_resolved awaited
      have inserted : ∀ row, stage.row? = some row →
          row.seatIds = input.seatIds := by
        intro row isRow
        exact (sound.rows index _ row found isRow).1.seatIds
      have ahead := seatsAhead_resolved resolved inserted
      have shares := sum_map_set seatsAhead ⟨input, progress⟩ found
      dsimp only
      omega
  | expireAwaited index outcome request stage progress after found awaited =>
      rcases AsyncFunction.await_cases awaited with
        ⟨resolved, performed, _⟩ | ⟨rfl, _⟩
      · cases expireOrder_resolved performed with
        | marked =>
            simp only [List.map_map, Function.comp_def,
              seatIds_expireIfPending]
            exact le_refl _
        | _ => exact le_refl _
      · exact le_refl _
  | _ => exact le_refl _

/-! ## Every step pays -/

private theorem lockWork_lt {env : Environment} {input : LockSeatInput}
    {stores after : Stores} {stage : LockStage} {progress : LockProgress}
    (resolved : LockResolved env input stores stage after progress) :
    lockWork progress < lockWork (.running stage) := by
  cases resolved with
  | answered answer redis acquired =>
      unfold lockAnswered
      split <;> simp [lockWork]
  | _ => simp [lockWork]

private theorem releaseWork_lt {input : ReleaseInput} {stores after : Stores}
    {stage : ReleaseStage}
    {progress : Progress ReleaseStage (Except ReleaseSeatError Unit)}
    (resolved : ReleaseResolved input stores stage after progress) :
    releaseWork progress < releaseWork (.running stage) := by
  cases resolved <;> simp [releaseWork]

/-- A publish pays for the message. -/
theorem createWork_lt {env : Environment} {uncommitted : List Order}
    {input : CreateOrderInput} {stores after : Stores} {stage : CreateStage}
    {progress : CreateProgress}
    (resolved :
      CreateResolved env uncommitted input stores stage after progress)
    (seats : Nat) :
    createWork seats progress +
          (seats + 7) * after.broker.delayQueue.length <
        createWork seats (.running stage) +
          (seats + 7) * stores.broker.delayQueue.length ∧
      after.broker.timeoutQueue = stores.broker.timeoutQueue := by
  cases resolved with
  | published row =>
      refine ⟨?_, rfl⟩
      simp only [createWork, Broker.publishExpiration, List.length_append,
        List.length_singleton, Nat.mul_add, Nat.mul_one]
      omega
  | _ =>
      refine ⟨?_, rfl⟩
      simp only [createWork]
      omega

/-- Reading the order pays for the loop over its seats. -/
theorem expireWork_lt {orderId : OrderId} {stores after : Stores}
    {stage : ExpireStage} {progress : ExpireProgress} {seats : Nat}
    (resolved : ExpireResolved orderId stores stage after progress)
    (bounded : ∀ order ∈ stores.orders, order.seatIds.length ≤ seats)
    (delivery : Delivery) :
    expireWork seats delivery progress <
      expireWork seats delivery (.running stage) := by
  have ended : ∀ result : Unit,
      expireWork seats delivery (.finished result) ≤ 1 := by
    intro result
    simp only [expireWork]
    split <;> omega
  cases resolved with
  | marked => simp [expireWork, expireStageWork]
  | read changed =>
      unfold orderFound
      split
      · have nothing := ended ()
        simp only [expireWork, expireStageWork] at nothing ⊢
        omega
      · next order found =>
          have fits := bounded order (findOrder_some found).1
          cases changed with
          | false =>
              have nothing := ended ()
              simp only [Bool.false_eq_true, if_false, expireWork,
                expireStageWork] at nothing ⊢
              omega
          | true =>
              simp only [if_true, releaseFrom]
              split
              · simp only [expireWork, expireStageWork]
                omega
              · simp only [expireWork, expireStageWork]
                omega
  | released result position seatId here =>
      have inside := (List.getElem?_eq_some_iff.mp here).1
      unfold releaseFrom
      split
      · simp only [expireWork, expireStageWork]
        omega
      · simp only [expireWork, expireStageWork]
        omega
  | settled result =>
      have nothing := ended ()
      simp only [expireWork, expireStageWork] at nothing ⊢
      omega

/-- A bound on the seats is also one on the work. -/
theorem workWith_mono {fewer seats : Nat} (bound : fewer ≤ seats)
    (world : World) : workWith fewer world ≤ workWith seats world := by
  have creates : (world.createCalls.map fun call =>
        createWork fewer call.progress).sum ≤
      (world.createCalls.map fun call =>
        createWork seats call.progress).sum := by
    apply List.sum_le_sum
    intro call _
    unfold createWork
    split <;> omega
  have expires : (world.expireCalls.map fun call =>
        expireWork fewer call.input.delivery call.progress).sum ≤
      (world.expireCalls.map fun call =>
        expireWork seats call.input.delivery call.progress).sum := by
    apply List.sum_le_sum
    intro call _
    cases call.progress with
    | running stage =>
        cases stage <;> simp only [expireWork, expireStageWork] <;> omega
    | stopped stage =>
        simp only [expireWork]
        split <;> omega
    | failed stage applied => exact le_refl _
    | finished result => exact le_refl _
  have delays : (fewer + 7) * world.broker.delayQueue.length ≤
      (seats + 7) * world.broker.delayQueue.length :=
    Nat.mul_le_mul_right _ (by omega)
  have timeouts : (fewer + 6) * world.broker.timeoutQueue.length ≤
      (seats + 6) * world.broker.timeoutQueue.length :=
    Nat.mul_le_mul_right _ (by omega)
  unfold workWith
  omega

/-- Taking an item out pays for it. -/
theorem length_eraseIdx_of_found {α : Type} {items : List α} {index : Nat}
    {item : α} (found : items[index]? = some item) (price : Nat) :
    price * (items.eraseIdx index).length + price = price * items.length := by
  have inside := (List.getElem?_eq_some_iff.mp found).1
  rw [List.length_eraseIdx, if_pos inside, ← Nat.mul_succ]
  congr 1
  omega

/-- Every step that works pays for it out of the work left. -/
theorem workWith_lt {env : Environment} {world next : World}
    {action : Action} {seats : Nat}
    (bounded : ∀ order ∈ world.orders, order.seatIds.length ≤ seats)
    (works : Works world action)
    (stepped : step env world action = some next) :
    workWith seats next < workWith seats world := by
  unfold workWith
  cases step_cases stepped with
  | ticked elapsed => exact works.elim
  | lockRequested input => exact works.elim
  | releaseRequested input => exact works.elim
  | createRequested input => exact works.elim
  | expireRequested orderId => exact works.elim
  | lockAwaited index outcome input stage progress after found awaited =>
      obtain rfl : outcome = .resolves := works
      have broker := (lockSeat_sameOrders awaited).broker
      have less := lockWork_lt (lockSeat_resolved awaited)
      have shares := sum_map_set (fun call : LockCall =>
        lockWork call.progress) ⟨input, progress⟩ found
      simp only [broker] at shares ⊢
      omega
  | releaseAwaited index outcome input stage progress after found awaited =>
      obtain rfl : outcome = .resolves := works
      have broker := (releaseSeat_sameOrders awaited).broker
      have less := releaseWork_lt (releaseSeat_resolved awaited)
      have shares := sum_map_set (fun call : ReleaseCall =>
        releaseWork call.progress) ⟨input, progress⟩ found
      simp only [broker] at shares ⊢
      omega
  | createAwaited index outcome input stage progress after found awaited =>
      obtain rfl : outcome = .resolves := works
      obtain ⟨less, timeouts⟩ :=
        createWork_lt (createOrder_resolved awaited) seats
      have shares := sum_map_set (fun call : CreateCall =>
        createWork seats call.progress) ⟨input, progress⟩ found
      simp only [timeouts] at shares ⊢
      omega
  | expireAwaited index outcome request stage progress after found awaited =>
      obtain rfl : outcome = .resolves := works
      have resolved := expireOrder_resolved awaited
      have less := expireWork_lt resolved bounded request.delivery
      have broker : after.broker = world.broker := by
        cases resolved <;> rfl
      have shares := sum_map_set (fun call : ExpireCall =>
        expireWork seats call.input.delivery call.progress)
        ⟨request, progress⟩ found
      simp only [broker] at shares ⊢
      omega
  | deadLettered index message found due =>
      have paid := length_eraseIdx_of_found found (seats + 7)
      simp only [List.length_append, List.length_singleton, Nat.mul_add,
        Nat.mul_one]
      omega
  | delivered index orderId found =>
      have paid := length_eraseIdx_of_found found (seats + 6)
      simp only [List.map_append, List.sum_append, List.map_cons,
        List.map_nil, List.sum_cons, List.sum_nil, expireWork,
        expireStageWork]
      omega
  | settled index orderId progress delivery found answered =>
      have shares := sum_map_set (fun call : ExpireCall =>
        expireWork seats call.input.delivery call.progress)
        ⟨⟨orderId, delivery⟩, progress⟩ found
      have less : expireWork seats delivery progress <
          expireWork seats .unsettled progress := by
        cases progress <;> cases answered <;> simp [expireWork]
      simp only at shares ⊢
      omega
  | requeued index orderId progress found =>
      obtain ⟨call, isCall, stopped⟩ := works
      rw [found] at isCall
      cases isCall
      have shares := sum_map_set (fun call : ExpireCall =>
        expireWork seats call.input.delivery call.progress)
        ⟨⟨orderId, .requeued⟩, progress⟩ found
      have less : expireWork seats .requeued progress + (seats + 7) =
          expireWork seats .unsettled progress := by
        cases progress <;> cases stopped
        simp [expireWork]
      simp only [List.length_append, List.length_singleton, Nat.mul_add,
        Nat.mul_one] at shares ⊢
      omega

/-- Work that is done is work less, and nothing but requests and failures
makes more of it. -/
theorem workLeft_step {env : Environment} {world next : World}
    {action : Action} (sound : RowsSound env world)
    (undisturbed : Undisturbed world action)
    (stepped : step env world action = some next) :
    workLeft next ≤ workLeft world ∧
      (Works world action → workLeft next < workLeft world) := by
  have seats := workWith_mono (seatsInPlay_le sound undisturbed stepped) next
  have pays : Works world action → workLeft next < workLeft world :=
    fun works => seats.trans_lt
      (workWith_lt (fun _ member => length_le_seatsInPlay member) works
        stepped)
  refine ⟨?_, pays⟩
  rcases undisturbed with tick | works
  · cases action with
    | tick elapsed =>
        cases stepped
        exact le_refl _
    | _ => exact tick.elim
  · exact (pays works).le

end Booking

end ConcertTicketing
