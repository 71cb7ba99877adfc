import ConcertTicketing.Booking.System

/-!
# What a step of the system changes

The seat-lock store changes only through the one script that a step runs, so
a run of the system is a run of the store; the order table changes only when a
transaction commits or an order is marked expired.
-/

namespace ConcertTicketing.Booking

open SeatLock Redis

def lockScript (env : Environment) (input : LockSeatInput) :
    LockStage → Option SeatOp
  | .acquire => some (.acquire (input.acquireInput env))
  | .findActive => none
  | .recordAcquired _ => none

def releaseScript (input : ReleaseInput) : ReleaseStage → Option SeatOp
  | .release => some (.release input)
  | .recordReleased => none

def createScript (env : Environment) (input : CreateOrderInput) :
    CreateStage → Option SeatOp
  | .verifyHeld =>
      some (.verifyHeld input.eventId input.seatIds input.userId)
  | .extendHold _ =>
      some
        (.extendHold input.eventId input.seatIds input.userId
          env.bookingWindowSeconds)
  | _ => none

def expireScript : ExpireStage → Option SeatOp
  | .releaseHold result position =>
      result.seatIds[position]?.map fun seatId =>
        .releaseHold result.eventId seatId result.userId
  | _ => none

/-- The script that a step runs on the store. -/
def script (env : Environment) (world : World) : Action → Option SeatOp
  | .tick elapsed => some (.tick elapsed)
  | .lockAwait index outcome =>
      (Call.applied world.lockCalls index outcome).bind fun call =>
        lockScript env call.1 call.2
  | .releaseAwait index outcome =>
      (Call.applied world.releaseCalls index outcome).bind fun call =>
        releaseScript call.1 call.2
  | .createAwait index outcome =>
      (Call.applied world.createCalls index outcome).bind fun call =>
        createScript env call.1 call.2
  | .expireAwait index outcome =>
      (Call.applied world.expireCalls index outcome).bind fun call =>
        expireScript call.2
  | _ => none

def runScript (db : SeatStore) : Option SeatOp → SeatStore
  | none => db
  | some op => op.apply db

theorem LockResolved.redis {env : Environment} {input : LockSeatInput}
    {stores after : Stores} {stage : LockStage} {progress : LockProgress}
    (resolved : LockResolved env input stores stage after progress) :
    after.redis = runScript stores.redis (lockScript env input stage) := by
  cases resolved with
  | answered answer redis acquired =>
      simp only [lockScript, runScript, SeatOp.apply, acquired]
  | _ => rfl

theorem ReleaseResolved.redis {input : ReleaseInput}
    {stores after : Stores} {stage : ReleaseStage}
    {progress : Progress ReleaseStage (Except ReleaseSeatError Unit)}
    (resolved : ReleaseResolved input stores stage after progress) :
    after.redis = runScript stores.redis (releaseScript input stage) := by
  cases resolved with
  | released held =>
      simp only [releaseScript, runScript, SeatOp.apply, release_eq,
        if_pos held]
  | refused notHeld =>
      simp only [releaseScript, runScript, SeatOp.apply, release_eq,
        if_neg notHeld]
  | recorded => rfl

theorem CreateResolved.redis {env : Environment} {uncommitted : List Order}
    {input : CreateOrderInput} {stores after : Stores} {stage : CreateStage}
    {progress : CreateProgress}
    (resolved :
      CreateResolved env uncommitted input stores stage after progress) :
    after.redis = runScript stores.redis (createScript env input stage) := by
  cases resolved with
  | extended row held =>
      simp only [createScript, runScript, SeatOp.apply, extendHold_eq,
        if_pos held]
  | rolledBack row lost =>
      simp only [createScript, runScript, SeatOp.apply, extendHold_eq,
        if_neg lost]
  | _ => rfl

theorem ExpireResolved.redis {orderId : OrderId} {stores after : Stores}
    {stage : ExpireStage} {progress : ExpireProgress}
    (resolved : ExpireResolved orderId stores stage after progress) :
    after.redis = runScript stores.redis (expireScript stage) := by
  cases resolved with
  | released result position seatId here =>
      simp only [expireScript, here, Option.map_some, runScript,
        SeatOp.apply]
  | _ => rfl

/-- A step changes the store by running its script, and in no other way. -/
theorem step_redis {env : Environment} {world next : World} {action : Action}
    (stepped : step env world action = some next) :
    next.redis = runScript world.redis (script env world action) := by
  cases step_cases stepped with
  | lockAwaited index outcome input stage progress after found awaited =>
      simp only [script, Call.applied_of_found found]
      rcases AsyncFunction.await_cases awaited with
        ⟨resolved, performed, applies, _⟩ | ⟨rfl, idle, _⟩
      · rw [if_pos applies]
        exact (lockSeat_resolved performed).redis
      · rw [if_neg (by simp [idle])]
        rfl
  | releaseAwaited index outcome input stage progress after found awaited =>
      simp only [script, Call.applied_of_found found]
      rcases AsyncFunction.await_cases awaited with
        ⟨resolved, performed, applies, _⟩ | ⟨rfl, idle, _⟩
      · rw [if_pos applies]
        exact (releaseSeat_resolved performed).redis
      · rw [if_neg (by simp [idle])]
        rfl
  | createAwaited index outcome input stage progress after found awaited =>
      simp only [script, Call.applied_of_found found]
      rcases AsyncFunction.await_cases awaited with
        ⟨resolved, performed, applies, _⟩ | ⟨rfl, idle, _⟩
      · rw [if_pos applies]
        exact (createOrder_resolved performed).redis
      · rw [if_neg (by simp [idle])]
        rfl
  | expireAwaited index outcome request stage progress after found awaited =>
      simp only [script, Call.applied_of_found found]
      rcases AsyncFunction.await_cases awaited with
        ⟨resolved, performed, applies, _⟩ | ⟨rfl, idle, _⟩
      · rw [if_pos applies]
        exact (expireOrder_resolved performed).redis
      · rw [if_neg (by simp [idle])]
        rfl
  | _ => rfl

/-- Which action runs which script. -/
inductive ScriptOf (env : Environment) (world : World) :
    Action → SeatOp → Prop
  | tick (elapsed : Nat) : ScriptOf env world (.tick elapsed) (.tick elapsed)
  | acquire (index : Nat) (outcome : Await) (input : LockSeatInput)
      (applies : outcome.Applies = true)
      (found : world.lockCalls[index]? = some ⟨input, .running .acquire⟩) :
      ScriptOf env world (.lockAwait index outcome)
        (.acquire (input.acquireInput env))
  | release (index : Nat) (outcome : Await) (input : ReleaseInput)
      (applies : outcome.Applies = true)
      (found : world.releaseCalls[index]? = some ⟨input, .running .release⟩) :
      ScriptOf env world (.releaseAwait index outcome) (.release input)
  | verifyHeld (index : Nat) (outcome : Await) (input : CreateOrderInput)
      (applies : outcome.Applies = true)
      (found :
        world.createCalls[index]? = some ⟨input, .running .verifyHeld⟩) :
      ScriptOf env world (.createAwait index outcome)
        (.verifyHeld input.eventId input.seatIds input.userId)
  | extendHold (index : Nat) (outcome : Await) (input : CreateOrderInput)
      (row : Order) (applies : outcome.Applies = true)
      (found :
        world.createCalls[index]? =
          some ⟨input, .running (.extendHold row)⟩) :
      ScriptOf env world (.createAwait index outcome)
        (.extendHold input.eventId input.seatIds input.userId
          env.bookingWindowSeconds)
  | releaseHold (index : Nat) (outcome : Await) (request : ExpireRequest)
      (result : ExpireResult) (position : Nat) (seatId : SeatId)
      (applies : outcome.Applies = true)
      (found :
        world.expireCalls[index]? =
          some ⟨request, .running (.releaseHold result position)⟩)
      (here : result.seatIds[position]? = some seatId) :
      ScriptOf env world (.expireAwait index outcome)
        (.releaseHold result.eventId seatId result.userId)

theorem script_cases {env : Environment} {world : World} {action : Action}
    {op : SeatOp} (runs : script env world action = some op) :
    ScriptOf env world action op := by
  cases action with
  | tick elapsed =>
      cases runs
      exact .tick elapsed
  | lockAwait index outcome =>
      simp only [script, Option.bind_eq_some_iff] at runs
      obtain ⟨⟨input, stage⟩, applied, asked⟩ := runs
      have running := Call.applied_eq_some.mp applied
      cases stage with
      | acquire =>
          cases asked
          exact .acquire index outcome input running.1 running.2
      | _ => cases asked
  | releaseAwait index outcome =>
      simp only [script, Option.bind_eq_some_iff] at runs
      obtain ⟨⟨input, stage⟩, applied, asked⟩ := runs
      have running := Call.applied_eq_some.mp applied
      cases stage with
      | release =>
          cases asked
          exact .release index outcome input running.1 running.2
      | recordReleased => cases asked
  | createAwait index outcome =>
      simp only [script, Option.bind_eq_some_iff] at runs
      obtain ⟨⟨input, stage⟩, applied, asked⟩ := runs
      have running := Call.applied_eq_some.mp applied
      cases stage with
      | verifyHeld =>
          cases asked
          exact .verifyHeld index outcome input running.1 running.2
      | extendHold row =>
          cases asked
          exact .extendHold index outcome input row running.1 running.2
      | _ => cases asked
  | expireAwait index outcome =>
      simp only [script, Option.bind_eq_some_iff] at runs
      obtain ⟨⟨request, stage⟩, applied, asked⟩ := runs
      have running := Call.applied_eq_some.mp applied
      cases stage with
      | releaseHold result position =>
          simp only [expireScript, Option.map_eq_some_iff] at asked
          obtain ⟨seatId, here, rfl⟩ := asked
          exact .releaseHold index outcome request result position seatId
            running.1 running.2 here
      | _ => cases asked
  | _ => cases runs

/-- Every acquire of the system passes `MAX_SEATS_PER_USER`. -/
theorem script_limitIs {env : Environment} {world : World} {action : Action}
    {op : SeatOp} (runs : script env world action = some op) :
    op.LimitIs env.maxSeatsPerUser := by
  cases script_cases runs with
  | acquire => rfl
  | _ => exact trivial

/-- A run of the system is, on the store, a run of its scripts: what is
proved about every run of the store holds of the system. -/
theorem Trace.seatStore {env : Environment} {origin : Instant}
    {history : List (World × Action)} {world : World}
    (run : Trace (step env) (World.init origin) history world) :
    ∃ scripts : List (SeatStore × SeatOp),
      Trace storeStep (Db.empty origin) scripts world.redis ∧
        StepsMeet (fun _ op => op.LimitIs env.maxSeatsPerUser) scripts := by
  induction run with
  | nil =>
      exact ⟨[], Trace.nil, by simp [StepsMeet]⟩
  | @snoc earlier before after action runBefore stepped inductionHypothesis =>
      obtain ⟨scripts, storeRun, limited⟩ := inductionHypothesis
      rw [step_redis stepped]
      cases runs : script env before action with
      | none =>
          exact ⟨scripts, storeRun, limited⟩
      | some op =>
          refine ⟨(before.redis, op) :: scripts, storeRun.snoc rfl, ?_⟩
          exact stepsMeet_cons.mpr ⟨script_limitIs runs, limited⟩

/-- The hold limit in the whole system. -/
theorem liveLocks_le_maxSeatsPerUser {env : Environment} {origin : Instant}
    {history : List (World × Action)} {world : World}
    (run : Trace (step env) (World.init origin) history world)
    {eventId : EventId} {userId : UserId} {seats : Finset SeatId}
    (owned : ∀ seatId ∈ seats,
      holder world.redis eventId seatId = some userId) :
    seats.card ≤ env.maxSeatsPerUser.toNat := by
  obtain ⟨scripts, storeRun, limited⟩ := Trace.seatStore run
  exact (holdsWithin_of_run storeRun limited).card_le owned

theorem step_redis_effect {env : Environment} {world next : World}
    {action : Action} (stepped : step env world action = some next) :
    (script env world action = none ∧ next.redis = world.redis) ∨
      ∃ op, script env world action = some op ∧
        op.Effect world.redis next.redis := by
  have changed := step_redis stepped
  cases runs : script env world action with
  | none =>
      rw [runs] at changed
      exact Or.inl ⟨rfl, changed⟩
  | some op =>
      rw [runs] at changed
      exact Or.inr ⟨op, rfl, changed ▸ op.effect world.redis⟩

private theorem effect_now_le {db after : SeatStore} {op : SeatOp}
    (effect : op.Effect db after) : db.now ≤ after.now := by
  cases effect with
  | ticked elapsed =>
      have later : db.now ≤ db.now + (elapsed : Int) := by omega
      exact later
  | extended => exact (extended_now _ _ _ _).ge
  | _ => exact le_refl _

/-- The clock never runs backwards. -/
theorem step_now_le {env : Environment} {world next : World}
    {action : Action} (stepped : step env world action = some next) :
    world.now ≤ next.now := by
  rcases step_redis_effect stepped with ⟨_, same⟩ | ⟨op, _, effect⟩
  · exact (congrArg Db.now same).ge
  · exact effect_now_le effect

/-! ## The order table and the broker -/

/-- The stores of the order module are as before. -/
structure SameOrders (stores after : Stores) : Prop where
  orders : after.orders = stores.orders
  nextOrderId : after.nextOrderId = stores.nextOrderId
  broker : after.broker = stores.broker

theorem SameOrders.refl (stores : Stores) : SameOrders stores stores :=
  ⟨rfl, rfl, rfl⟩

theorem lockSeat_sameOrders {env : Environment} {input : LockSeatInput}
    {stores after : Stores} {stage : LockStage} {outcome : Await}
    {progress : LockProgress}
    (awaited :
      (lockSeat env input).await stores stage outcome =
        some (after, progress)) :
    SameOrders stores after := by
  rcases AsyncFunction.await_cases awaited with
    ⟨resolved, performed, _⟩ | ⟨rfl, _⟩
  · cases lockSeat_resolved performed <;> exact ⟨rfl, rfl, rfl⟩
  · exact .refl _

theorem releaseSeat_sameOrders {input : ReleaseInput}
    {stores after : Stores} {stage : ReleaseStage} {outcome : Await}
    {progress : Progress ReleaseStage (Except ReleaseSeatError Unit)}
    (awaited :
      (releaseSeat input).await stores stage outcome =
        some (after, progress)) :
    SameOrders stores after := by
  rcases AsyncFunction.await_cases awaited with
    ⟨resolved, performed, _⟩ | ⟨rfl, _⟩
  · cases releaseSeat_resolved performed <;> exact ⟨rfl, rfl, rfl⟩
  · exact .refl _

inductive OrdersChange (world : World) : Action → List Order → Prop
  | unchanged (action : Action) : OrdersChange world action world.orders
  | committed (index : Nat) (outcome : Await) (input : CreateOrderInput)
      (row : Order)
      (found :
        world.createCalls[index]? = some ⟨input, .running (.commit row)⟩)
      (applies : outcome.Applies = true) :
      OrdersChange world (.createAwait index outcome) (world.orders ++ [row])
  | marked (index : Nat) (outcome : Await) (request : ExpireRequest)
      (found :
        world.expireCalls[index]? = some ⟨request, .running .markExpired⟩)
      (applies : outcome.Applies = true) :
      OrdersChange world (.expireAwait index outcome)
        (world.orders.map (expireIfPending request.orderId))

theorem step_orders {env : Environment} {world next : World}
    {action : Action} (stepped : step env world action = some next) :
    OrdersChange world action next.orders := by
  cases step_cases stepped with
  | lockAwaited index outcome input stage progress after found awaited =>
      have same := (lockSeat_sameOrders awaited).orders
      exact same ▸ .unchanged _
  | releaseAwaited index outcome input stage progress after found awaited =>
      have same := (releaseSeat_sameOrders awaited).orders
      exact same ▸ .unchanged _
  | createAwaited index outcome input stage progress after found awaited =>
      rcases AsyncFunction.await_cases awaited with
        ⟨resolved, performed, applies, _⟩ | ⟨rfl, _, _⟩
      · cases createOrder_resolved performed with
        | committed row => exact .committed index outcome input row found applies
        | _ => exact .unchanged _
      · exact .unchanged _
  | expireAwaited index outcome request stage progress after found awaited =>
      rcases AsyncFunction.await_cases awaited with
        ⟨resolved, performed, applies, _⟩ | ⟨rfl, _, _⟩
      · cases expireOrder_resolved performed with
        | marked => exact .marked index outcome request found applies
        | _ => exact .unchanged _
      · exact .unchanged _
  | _ => exact .unchanged _

/-- Ids are drawn upwards. -/
theorem step_nextOrderId_le {env : Environment} {world next : World}
    {action : Action} (stepped : step env world action = some next) :
    world.nextOrderId ≤ next.nextOrderId := by
  cases step_cases stepped with
  | lockAwaited index outcome input stage progress after found awaited =>
      exact (lockSeat_sameOrders awaited).nextOrderId.ge
  | releaseAwaited index outcome input stage progress after found awaited =>
      exact (releaseSeat_sameOrders awaited).nextOrderId.ge
  | createAwaited index outcome input stage progress after found awaited =>
      rcases AsyncFunction.await_cases awaited with
        ⟨resolved, performed, _⟩ | ⟨rfl, _⟩
      · cases createOrder_resolved performed with
        | inserted => exact Nat.le_succ _
        | _ => exact le_refl _
      · exact le_refl _
  | expireAwaited index outcome request stage progress after found awaited =>
      rcases AsyncFunction.await_cases awaited with
        ⟨resolved, performed, _⟩ | ⟨rfl, _⟩
      · cases expireOrder_resolved performed <;> exact le_refl _
      · exact le_refl _
  | _ => exact le_refl _

/-- Orders are never deleted, and an order that is no longer `PENDING` stays
as it is. -/
theorem OrdersChange.order_kept {world : World} {action : Action}
    {orders : List Order} (change : OrdersChange world action orders)
    {order : Order} (member : order ∈ world.orders)
    (settled : order.status ≠ .pending) : order ∈ orders := by
  cases change with
  | unchanged => exact member
  | committed => exact List.mem_append_left _ member
  | marked index outcome request found applies =>
      refine List.mem_map.mpr ⟨order, member, ?_⟩
      unfold expireIfPending
      rw [if_neg (fun both => settled both.2)]

theorem OrdersChange.id_kept {world : World} {action : Action}
    {orders : List Order} (change : OrdersChange world action orders)
    {order : Order} (member : order ∈ world.orders) :
    ∃ kept ∈ orders, kept.id = order.id := by
  cases change with
  | unchanged => exact ⟨order, member, rfl⟩
  | committed => exact ⟨order, List.mem_append_left _ member, rfl⟩
  | marked index outcome request found applies =>
      exact ⟨_, List.mem_map_of_mem member, expireIfPending_id _ _⟩

/-- A `PENDING` order was there before, or its transaction has just
committed. -/
theorem OrdersChange.pending_origin {world : World} {action : Action}
    {orders : List Order} (change : OrdersChange world action orders)
    {order : Order} (member : order ∈ orders)
    (pending : order.status = .pending) :
    order ∈ world.orders ∨
      ∃ index outcome input,
        action = .createAwait index outcome ∧
        world.createCalls[index]? =
          some ⟨input, .running (.commit order)⟩ := by
  cases change with
  | unchanged => exact Or.inl member
  | committed index outcome input row found applies =>
      rcases List.mem_append.mp member with old | new
      · exact Or.inl old
      · rw [List.mem_singleton] at new
        subst new
        exact Or.inr ⟨index, outcome, input, rfl, found⟩
  | marked index outcome request found applies =>
      obtain ⟨earlier, old, rfl⟩ := List.mem_map.mp member
      rw [eq_of_expireIfPending_pending pending]
      exact Or.inl old

/-- The id of an order was in the table before, or its transaction has just
committed. -/
theorem OrdersChange.id_origin {world : World} {action : Action}
    {orders : List Order} (change : OrdersChange world action orders)
    {order : Order} (member : order ∈ orders) :
    (∃ earlier ∈ world.orders, earlier.id = order.id) ∨
      ∃ index outcome input,
        action = .createAwait index outcome ∧ outcome.Applies = true ∧
        world.createCalls[index]? =
          some ⟨input, .running (.commit order)⟩ := by
  cases change with
  | unchanged => exact Or.inl ⟨order, member, rfl⟩
  | committed index outcome input row found applies =>
      rcases List.mem_append.mp member with old | new
      · exact Or.inl ⟨order, old, rfl⟩
      · rw [List.mem_singleton] at new
        subst new
        exact Or.inr ⟨index, outcome, input, rfl, applies, found⟩
  | marked index outcome request found applies =>
      obtain ⟨earlier, old, rfl⟩ := List.mem_map.mp member
      exact Or.inl ⟨earlier, old, (expireIfPending_id _ _).symm⟩

inductive SeatLocksChange (rows : List SeatLockRow) :
    List SeatLockRow → Prop
  | unchanged : SeatLocksChange rows rows
  | recorded (row : SeatLockRow) : SeatLocksChange rows (rows ++ [row])
  | settled (status : SeatLockStatus) (now : Instant)
      (selected : SeatLockRow → Bool) (settles : status ≠ .active) :
      SeatLocksChange rows
        (rows.map (SeatLockRow.settle status now selected))

theorem step_seatLocks {env : Environment} {world next : World}
    {action : Action} (stepped : step env world action = some next) :
    SeatLocksChange world.seatLocks next.seatLocks := by
  cases step_cases stepped with
  | lockAwaited index outcome input stage progress after found awaited =>
      rcases AsyncFunction.await_cases awaited with
        ⟨resolved, performed, _⟩ | ⟨rfl, _⟩
      · cases lockSeat_resolved performed with
        | recorded => exact .recorded _
        | _ => exact .unchanged
      · exact .unchanged
  | releaseAwaited index outcome input stage progress after found awaited =>
      rcases AsyncFunction.await_cases awaited with
        ⟨resolved, performed, _⟩ | ⟨rfl, _⟩
      · cases releaseSeat_resolved performed with
        | recorded => exact .settled _ _ _ SeatLockStatus.noConfusion
        | _ => exact .unchanged
      · exact .unchanged
  | createAwaited index outcome input stage progress after found awaited =>
      rcases AsyncFunction.await_cases awaited with
        ⟨resolved, performed, _⟩ | ⟨rfl, _⟩
      · cases createOrder_resolved performed <;> exact .unchanged
      · exact .unchanged
  | expireAwaited index outcome request stage progress after found awaited =>
      rcases AsyncFunction.await_cases awaited with
        ⟨resolved, performed, _⟩ | ⟨rfl, _⟩
      · cases expireOrder_resolved performed with
        | settled result =>
            by_cases none : result.seatIds = []
            · simp only [expireSeatLockAudit, if_pos none]
              exact .unchanged
            · simp only [expireSeatLockAudit, if_neg none]
              exact .settled _ _ _ SeatLockStatus.noConfusion
        | _ => exact .unchanged
      · exact .unchanged
  | _ => exact .unchanged

/-- Rows are never deleted, keep their user and seat and never become
`ACTIVE` again. -/
theorem SeatLocksChange.row_origin {rows after : List SeatLockRow}
    (change : SeatLocksChange rows after) {position : Nat}
    {row : SeatLockRow} (inside : position < rows.length)
    (reached : after[position]? = some row) :
    ∃ earlier, rows[position]? = some earlier ∧
      row.userId = earlier.userId ∧ row.seatId = earlier.seatId ∧
      (row.status = .active → earlier.status = .active) := by
  cases change with
  | unchanged => exact ⟨row, reached, rfl, rfl, id⟩
  | recorded added =>
      rw [List.getElem?_append_left inside] at reached
      exact ⟨row, reached, rfl, rfl, id⟩
  | settled status now selected settles =>
      rw [List.getElem?_map, Option.map_eq_some_iff] at reached
      obtain ⟨earlier, found, rfl⟩ := reached
      refine ⟨earlier, found, ?_, ?_, ?_⟩
      · exact SeatLockRow.settle_userId
      · exact SeatLockRow.settle_seatId
      · intro active
        exact (SeatLockRow.active_of_settle settles active).1

theorem SeatLocksChange.length_le {rows after : List SeatLockRow}
    (change : SeatLocksChange rows after) : rows.length ≤ after.length := by
  cases change with
  | unchanged => exact le_refl _
  | recorded added => simp
  | settled => simp

/-! ## The calls -/

inductive LockCallOrigin (env : Environment) (world next : World)
    (index : Nat) (call : LockCall) : Action → Prop
  | kept (action : Action) (found : world.lockCalls[index]? = some call) :
      LockCallOrigin env world next index call action
  | requested (input : LockSeatInput)
      (new : call = ⟨input, .running .acquire⟩) :
      LockCallOrigin env world next index call (.lockSeat input)
  | awaited (outcome : Await) (stage : LockStage)
      (found : world.lockCalls[index]? = some ⟨call.input, .running stage⟩)
      (stepped :
        (lockSeat env call.input).await world.toStores stage outcome =
          some (next.toStores, call.progress)) :
      LockCallOrigin env world next index call (.lockAwait index outcome)

theorem step_lockCalls {env : Environment} {world next : World}
    {action : Action} (stepped : step env world action = some next)
    {index : Nat} {call : LockCall}
    (reached : next.lockCalls[index]? = some call) :
    LockCallOrigin env world next index call action := by
  cases step_cases stepped with
  | lockRequested input =>
      rcases Call.getElem?_append_cases reached with found | ⟨_, new⟩
      · exact .kept _ found
      · exact .requested input new
  | lockAwaited position outcome input stage progress after found awaited =>
      rcases Call.getElem?_set_cases found reached with
        ⟨rfl, rfl⟩ | ⟨_, kept⟩
      · exact .awaited outcome stage found awaited
      · exact .kept _ kept
  | _ => exact .kept _ reached

inductive CreateCallOrigin (env : Environment) (world next : World)
    (index : Nat) (call : CreateCall) : Action → Prop
  | kept (action : Action)
      (elsewhere : ∀ outcome, action ≠ .createAwait index outcome)
      (found : world.createCalls[index]? = some call) :
      CreateCallOrigin env world next index call action
  | requested (input : CreateOrderInput)
      (new : call = ⟨input, .running .verifyHeld⟩) :
      CreateCallOrigin env world next index call (.createOrder input)
  | awaited (outcome : Await) (stage : CreateStage)
      (found :
        world.createCalls[index]? = some ⟨call.input, .running stage⟩)
      (stepped :
        (createOrder env world.uncommitted call.input).await world.toStores
            stage outcome =
          some (next.toStores, call.progress)) :
      CreateCallOrigin env world next index call (.createAwait index outcome)

theorem step_createCalls {env : Environment} {world next : World}
    {action : Action} (stepped : step env world action = some next)
    {index : Nat} {call : CreateCall}
    (reached : next.createCalls[index]? = some call) :
    CreateCallOrigin env world next index call action := by
  cases step_cases stepped with
  | createRequested input =>
      rcases Call.getElem?_append_cases reached with found | ⟨_, new⟩
      · exact .kept _ (fun _ => Action.noConfusion) found
      · exact .requested input new
  | createAwaited position outcome input stage progress after found awaited =>
      rcases Call.getElem?_set_cases found reached with
        ⟨rfl, rfl⟩ | ⟨different, kept⟩
      · exact .awaited outcome stage found awaited
      · refine .kept _ ?_ kept
        intro other same
        injection same with samePosition
        exact different samePosition.symm
  | _ => exact .kept _ (fun _ => Action.noConfusion) reached

/-- What becomes of a create call in one step. -/
theorem step_createCall {env : Environment} {world next : World}
    {action : Action} (stepped : step env world action = some next)
    {index : Nat} {call : CreateCall}
    (found : world.createCalls[index]? = some call) :
    ∃ after, next.createCalls[index]? = some after ∧
      after.input = call.input ∧
      (((∀ outcome, action ≠ .createAwait index outcome) ∧
          after.progress = call.progress) ∨
        ∃ outcome stage,
          action = .createAwait index outcome ∧
          call.progress = .running stage ∧
          (createOrder env world.uncommitted call.input).await
              world.toStores stage outcome =
            some (next.toStores, after.progress)) := by
  have inside : index < world.createCalls.length :=
    (List.getElem?_eq_some_iff.mp found).1
  cases step_cases stepped with
  | createRequested input =>
      refine ⟨call, ?_, rfl, Or.inl ⟨fun _ => Action.noConfusion, rfl⟩⟩
      rw [List.getElem?_append_left inside]
      exact found
  | createAwaited position outcome input stage progress after running awaited =>
      by_cases same : position = index
      · subst same
        rw [found] at running
        cases running
        exact ⟨_, List.getElem?_set_self inside, rfl,
          Or.inr ⟨outcome, stage, rfl, rfl, awaited⟩⟩
      · refine ⟨call, ?_, rfl, Or.inl ⟨?_, rfl⟩⟩
        · rw [List.getElem?_set_ne same]
          exact found
        · intro other sameAction
          injection sameAction with samePosition
          exact same samePosition
  | _ => exact ⟨call, found, rfl, Or.inl ⟨fun _ => Action.noConfusion, rfl⟩⟩

inductive ExpireCallOrigin (world next : World) (index : Nat)
    (call : ExpireCall) : Action → Prop
  | kept (action : Action)
      (elsewhere : ∀ outcome, action ≠ .expireAwait index outcome)
      (found : world.expireCalls[index]? = some call) :
      ExpireCallOrigin world next index call action
  | requested (orderId : OrderId)
      (vacant : world.expireCalls[index]? = none)
      (new : call = ⟨⟨orderId, .direct⟩, .running .markExpired⟩) :
      ExpireCallOrigin world next index call (.expireOrder orderId)
  | delivered (position : Nat) (orderId : OrderId)
      (vacant : world.expireCalls[index]? = none)
      (queued : orderId ∈ world.broker.timeoutQueue)
      (new : call = ⟨⟨orderId, .unsettled⟩, .running .markExpired⟩) :
      ExpireCallOrigin world next index call (.deliver position)
  | awaited (outcome : Await) (stage : ExpireStage)
      (found :
        world.expireCalls[index]? = some ⟨call.input, .running stage⟩)
      (stepped :
        (expireOrder call.input.orderId).await world.toStores stage outcome =
          some (next.toStores, call.progress)) :
      ExpireCallOrigin world next index call (.expireAwait index outcome)
  | answered (action : Action)
      (found :
        world.expireCalls[index]? =
          some ⟨⟨call.input.orderId, .unsettled⟩, call.progress⟩)
      (settled : call.input.delivery ≠ .direct) :
      ExpireCallOrigin world next index call action

private theorem settlement_ne_direct {progress : ExpireProgress}
    {delivery : Delivery}
    (answered : settlement progress = some delivery) :
    delivery ≠ .direct := by
  cases progress <;> cases answered <;> decide

theorem step_expireCalls {env : Environment} {world next : World}
    {action : Action} (stepped : step env world action = some next)
    {index : Nat} {call : ExpireCall}
    (reached : next.expireCalls[index]? = some call) :
    ExpireCallOrigin world next index call action := by
  cases step_cases stepped with
  | expireRequested orderId =>
      rcases Call.getElem?_append_cases reached with found | ⟨rfl, new⟩
      · exact .kept _ (fun _ => Action.noConfusion) found
      · exact .requested orderId (List.getElem?_length _) new
  | delivered position orderId queued =>
      rcases Call.getElem?_append_cases reached with found | ⟨rfl, new⟩
      · exact .kept _ (fun _ => Action.noConfusion) found
      · exact .delivered position orderId (List.getElem?_length _)
          (List.mem_of_getElem? queued) new
  | expireAwaited position outcome request stage progress after found awaited =>
      rcases Call.getElem?_set_cases found reached with
        ⟨rfl, rfl⟩ | ⟨different, kept⟩
      · exact .awaited outcome stage found awaited
      · refine .kept _ ?_ kept
        intro other same
        injection same with samePosition
        exact different samePosition.symm
  | settled position orderId progress delivery found answer =>
      rcases Call.getElem?_set_cases found reached with
        ⟨rfl, rfl⟩ | ⟨_, kept⟩
      · exact .answered _ found (settlement_ne_direct answer)
      · exact .kept _ (fun _ => Action.noConfusion) kept
  | requeued position orderId progress found =>
      rcases Call.getElem?_set_cases found reached with
        ⟨rfl, rfl⟩ | ⟨_, kept⟩
      · exact .answered _ found Delivery.noConfusion
      · exact .kept _ (fun _ => Action.noConfusion) kept
  | _ => exact .kept _ (fun _ => Action.noConfusion) reached

private theorem expireCalls_length_le {env : Environment} {world next : World}
    {action : Action} (stepped : step env world action = some next) :
    world.expireCalls.length ≤ next.expireCalls.length := by
  cases step_cases stepped with
  | expireRequested => simp
  | delivered => simp
  | expireAwaited => simp
  | settled => simp
  | requeued => simp
  | _ => exact le_refl _

/-- What becomes of an expire call in one step. -/
theorem step_expireCall {env : Environment} {world next : World}
    {action : Action} (stepped : step env world action = some next)
    {index : Nat} {call : ExpireCall}
    (found : world.expireCalls[index]? = some call) :
    ∃ after, next.expireCalls[index]? = some after ∧
      after.input.orderId = call.input.orderId ∧
      (after.progress = call.progress ∨
        ∃ outcome stage,
          action = .expireAwait index outcome ∧
          call.progress = .running stage ∧
          (expireOrder call.input.orderId).await world.toStores stage
              outcome =
            some (next.toStores, after.progress)) := by
  have inside : index < world.expireCalls.length :=
    (List.getElem?_eq_some_iff.mp found).1
  have insideNext := inside.trans_le (expireCalls_length_le stepped)
  have reached := List.getElem?_eq_getElem insideNext
  refine ⟨_, reached, ?_⟩
  cases step_expireCalls stepped reached with
  | kept _ _ same =>
      rw [found] at same
      cases same
      exact ⟨rfl, Or.inl rfl⟩
  | requested orderId vacant new =>
      rw [found] at vacant
      cases vacant
  | delivered position orderId vacant queued new =>
      rw [found] at vacant
      cases vacant
  | awaited outcome stage same awaited =>
      rw [found] at same
      cases same
      exact ⟨rfl, Or.inr ⟨outcome, stage, rfl, rfl, awaited⟩⟩
  | answered _ same settled =>
      rw [found] at same
      cases same
      exact ⟨rfl, Or.inl rfl⟩

end ConcertTicketing.Booking
