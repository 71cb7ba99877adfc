import ConcertTicketing.Booking.CleanupFailures
import ConcertTicketing.Booking.ExpiryOnce

/-!
# Many executions leave what one leaves

When nothing but executions of `ExpireOrder` for one order runs, none of them
fails and no lock lapses, the first execution whose `updateMany` runs leads:
it goes the way of a single execution, and the others change nothing.
-/

namespace ConcertTicketing.Booking

open SeatLock

/-- The live locks, with their deadlines, and the held-sets are the same. -/
structure SameHolds (db after : SeatStore) : Prop where
  locks : ∀ eventId seatId,
    lockEntry after eventId seatId = lockEntry db eventId seatId
  userSets : ∀ eventId userId,
    heldByUser after eventId userId = heldByUser db eventId userId
  eventSets : ∀ eventId, heldInEvent after eventId = heldInEvent db eventId

namespace SameHolds

variable {db after last : SeatStore}

theorem refl (db : SeatStore) : SameHolds db db :=
  ⟨fun _ _ => rfl, fun _ _ => rfl, fun _ => rfl⟩

theorem trans (first : SameHolds db after) (second : SameHolds after last) :
    SameHolds db last where
  locks := by
    intro eventId seatId
    rw [second.locks, first.locks]
  userSets := by
    intro eventId userId
    rw [second.userSets, first.userSets]
  eventSets := by
    intro eventId
    rw [second.eventSets, first.eventSets]

theorem tick {elapsed : Nat}
    (noLapse : ¬ SeatOp.LetsLapse db (.tick elapsed)) :
    SameHolds db (db.tick elapsed) where
  locks := lockEntry_tick_of_noLapse noLapse
  userSets := fun _ _ => rfl
  eventSets := fun _ => rfl

theorem dropped (same : SameHolds db after) (eventId : EventId)
    (seatId : SeatId) (userId : UserId) :
    SameHolds (dropped eventId seatId userId db)
      (SeatLock.dropped eventId seatId userId after) where
  locks := by
    intro otherEvent otherSeat
    rw [lockEntry_dropped, lockEntry_dropped, same.locks]
  userSets := by
    intro otherEvent otherUser
    rw [heldByUser_dropped, heldByUser_dropped, same.userSets]
  eventSets := by
    intro otherEvent
    rw [heldInEvent_dropped, heldInEvent_dropped, same.eventSets]

theorem releaseHold (same : SameHolds db after) (eventId : EventId)
    (seatId : SeatId) (userId : UserId) :
    SameHolds (releaseHold eventId seatId userId db)
      (SeatLock.releaseHold eventId seatId userId after) := by
  have sameHolder : holder after eventId seatId = holder db eventId seatId := by
    rw [holder_eq, holder_eq, same.locks]
  rw [releaseHold_eq, releaseHold_eq, sameHolder]
  split
  · exact same.dropped eventId seatId userId
  · exact same

end SameHolds

/-- The loop over the seats of `ExpireOrderUseCase.execute`, at one stroke. -/
def releaseHolds (eventId : EventId) (userId : UserId)
    (seatIds : List SeatId) (db : SeatStore) : SeatStore :=
  seatIds.foldl
    (fun current seatId => releaseHold eventId seatId userId current) db

def movedOrder (orderId : OrderId) (orders : List Order) : Option Order :=
  if pendingCount orderId orders = 1 then findOrder orderId orders else none

/-- What an execution leaves that runs with nothing in between. -/
def expireAlone (orderId : OrderId) (stores : Stores) : Stores :=
  match movedOrder orderId stores.orders with
  | none =>
      { stores with orders := stores.orders.map (expireIfPending orderId) }
  | some order =>
      { stores with
        orders := stores.orders.map (expireIfPending orderId)
        redis :=
          releaseHolds order.eventId order.userId order.seatIds stores.redis
        seatLocks :=
          expireSeatLockAudit order.seatIds order.userId stores.now
            stores.seatLocks }

private theorem expireAlone_of_none {orderId : OrderId} {stores : Stores}
    (moved : movedOrder orderId stores.orders = none) :
    expireAlone orderId stores =
      { stores with orders := stores.orders.map (expireIfPending orderId) } := by
  rw [expireAlone, moved]

private theorem expireAlone_of_some {orderId : OrderId} {stores : Stores}
    {order : Order} (moved : movedOrder orderId stores.orders = some order) :
    expireAlone orderId stores =
      { stores with
        orders := stores.orders.map (expireIfPending orderId)
        redis :=
          releaseHolds order.eventId order.userId order.seatIds stores.redis
        seatLocks :=
          expireSeatLockAudit order.seatIds order.userId stores.now
            stores.seatLocks } := by
  rw [expireAlone, moved]

private theorem findOrder_map_expireIfPending (orderId : OrderId)
    (orders : List Order) :
    findOrder orderId (orders.map (expireIfPending orderId)) =
      (findOrder orderId orders).map (expireIfPending orderId) := by
  have sameTest :
      ((fun order : Order => decide (order.id = orderId)) ∘
          expireIfPending orderId) =
        fun order => decide (order.id = orderId) := by
    funext order
    simp only [Function.comp_apply, expireIfPending_id]
  rw [findOrder, List.find?_map, sameTest]
  rfl

/-- How an execution goes on behind its compare-and-set. -/
theorem orderFound_moved (orderId : OrderId) (orders : List Order) :
    orderFound (decide (pendingCount orderId orders = 1))
        (findOrder orderId (orders.map (expireIfPending orderId))) =
      match movedOrder orderId orders with
      | none => .finished ()
      | some order => releaseFrom (movedResult order) 0 := by
  rw [findOrder_map_expireIfPending, movedOrder]
  cases found : findOrder orderId orders with
  | none => by_cases counted : pendingCount orderId orders = 1 <;>
      simp [orderFound, counted]
  | some order =>
      by_cases counted : pendingCount orderId orders = 1
      · have sameId : order.id = orderId := (findOrder_some found).2
        subst sameId
        simp only [orderFound, counted, decide_true, if_true, Option.map_some]
        exact congrArg (releaseFrom · 0) (movedResult_expireIfPending order)
      · simp [orderFound, counted]

/-- The loop does not end the execution. -/
theorem releaseFrom_running (result : ExpireResult) (position : Nat) :
    ∃ stage, releaseFrom result position = .running stage := by
  unfold releaseFrom
  split
  · exact ⟨_, rfl⟩
  · exact ⟨_, rfl⟩

/-- The seat that the loop takes at a position, and those that remain. -/
theorem drop_eq_cons {seatIds others : List SeatId} {position : Nat}
    {seatId : SeatId} (dropped : seatIds.drop position = seatId :: others) :
    seatIds[position]? = some seatId ∧ position < seatIds.length ∧
      seatIds.drop (position + 1) = others := by
  have here : seatIds[position]? = some seatId := by
    rw [← List.head?_drop, dropped]
    rfl
  refine ⟨here, (List.getElem?_eq_some_iff.mp here).1, ?_⟩
  rw [← List.tail_drop, dropped]
  rfl

/-- The loop and the audit update, run from any position. -/
theorem completes_releaseFrom (orderId : OrderId) (result : ExpireResult)
    (rest : List SeatId) :
    ∀ (position : Nat) (stores : Stores) (stage : ExpireStage),
      result.seatIds.drop position = rest →
      releaseFrom result position = .running stage →
      (expireOrder orderId).Completes stores stage
        { stores with
          redis :=
            releaseHolds result.eventId result.userId rest stores.redis
          seatLocks :=
            expireSeatLockAudit result.seatIds result.userId
              (releaseHolds result.eventId result.userId rest
                stores.redis).now
              stores.seatLocks } () := by
  induction rest with
  | nil =>
      intro position stores stage dropped reached
      have beyond : ¬ position < result.seatIds.length :=
        not_lt.mpr (List.drop_eq_nil_iff.mp dropped)
      rw [releaseFrom, if_neg beyond] at reached
      cases reached
      exact .last rfl
  | cons seatId others inductionHypothesis =>
      intro position stores stage dropped reached
      obtain ⟨here, inside, remaining⟩ := drop_eq_cons dropped
      rw [releaseFrom, if_pos inside] at reached
      cases reached
      obtain ⟨later, goesOn⟩ := releaseFrom_running result (position + 1)
      have resolved :
          (expireOrder orderId).resolve stores
              (.releaseHold result position) =
            some
              ({ stores with
                  redis :=
                    releaseHold result.eventId seatId result.userId
                      stores.redis },
                .running later) := by
        simp only [expireOrder, here, goesOn]
      exact .next resolved (inductionHypothesis _ _ _ remaining goesOn)

@[simp]
theorem releaseHolds_now (eventId : EventId) (userId : UserId)
    (seatIds : List SeatId) (db : SeatStore) :
    (releaseHolds eventId userId seatIds db).now = db.now := by
  induction seatIds generalizing db with
  | nil => rfl
  | cons seatId rest inductionHypothesis =>
      have first : (releaseHold eventId seatId userId db).now = db.now := by
        rw [releaseHold_eq]
        split <;> rfl
      exact (inductionHypothesis _).trans first

/-- An execution with nothing in between ends as `expireAlone` says. -/
theorem completes_expireAlone (orderId : OrderId) (stores : Stores) :
    (expireOrder orderId).Completes stores .markExpired
      (expireAlone orderId stores) () := by
  apply AsyncFunction.Completes.next rfl
  have goesOn := orderFound_moved orderId stores.orders
  cases moved : movedOrder orderId stores.orders with
  | none =>
      rw [moved] at goesOn
      rw [expireAlone_of_none moved]
      apply AsyncFunction.Completes.last
      simp only [expireOrder, goesOn]
  | some order =>
      rw [moved] at goesOn
      obtain ⟨later, running⟩ := releaseFrom_running (movedResult order) 0
      have rest :=
        completes_releaseFrom orderId (movedResult order)
          (movedResult order).seatIds 0
          { stores with
            orders := stores.orders.map (expireIfPending orderId) }
          later rfl running
      rw [releaseHolds_now] at rest
      rw [expireAlone_of_some moved]
      refine AsyncFunction.Completes.next ?_ rest
      simp only [expireOrder, goesOn, running]

/-- The audit row is the same, except that the row may have been settled at
another instant. -/
def SettledAt (instant settledAt : Instant) (row other : SeatLockRow) :
    Prop :=
  other = row ∨
    (row.status = .expired ∧ row.releasedAt = some instant ∧
      other = { row with releasedAt := some settledAt })

/-- The state is that after the single execution, with the audit rows settled
at some instant since the start. -/
structure MatchesSingle (start single world : Stores) : Prop where
  orders : world.orders = single.orders
  holds : SameHolds single.redis world.redis
  audit : ∃ settledAt, start.now ≤ settledAt ∧ settledAt ≤ world.now ∧
    List.Forall₂ (SettledAt start.now settledAt) single.seatLocks
      world.seatLocks
  atOnce : world.now = start.now → world.seatLocks = single.seatLocks

private theorem forall₂_settledAt_same {instant : Instant}
    {rows others : List SeatLockRow}
    (settled : List.Forall₂ (SettledAt instant instant) rows others) :
    others = rows := by
  induction settled with
  | nil => rfl
  | @cons row other _ _ first _ inductionHypothesis =>
      have same : other = row := by
        rcases first with rfl | ⟨_, settledThen, rfl⟩
        · rfl
        · rw [← settledThen]
      rw [same, inductionHypothesis]

private theorem settledAt_settle (instant settledAt : Instant)
    (selected : SeatLockRow → Bool) (row : SeatLockRow) :
    SettledAt instant settledAt (row.settle .expired instant selected)
      (row.settle .expired settledAt selected) := by
  by_cases chosen : selected row = true ∧ row.status = .active
  · right
    simp only [SeatLockRow.settle, if_pos chosen]
    trivial
  · left
    simp only [SeatLockRow.settle, if_neg chosen]

private theorem settledAt_expireSeatLockAudit (instant settledAt : Instant)
    (seatIds : List SeatId) (userId : UserId) (rows : List SeatLockRow) :
    List.Forall₂ (SettledAt instant settledAt)
      (expireSeatLockAudit seatIds userId instant rows)
      (expireSeatLockAudit seatIds userId settledAt rows) := by
  unfold expireSeatLockAudit
  split
  · exact List.forall₂_same.mpr fun row _ => Or.inl rfl
  · rw [List.forall₂_map_left_iff, List.forall₂_map_right_iff]
    apply List.forall₂_same.mpr
    intro row _
    exact settledAt_settle instant settledAt _ row

private theorem MatchesSingle.of_audit {start single world : Stores}
    {settledAt : Instant} (orders : world.orders = single.orders)
    (holds : SameHolds single.redis world.redis)
    (notBefore : start.now ≤ settledAt) (notAfter : settledAt ≤ world.now)
    (settled :
      List.Forall₂ (SettledAt start.now settledAt) single.seatLocks
        world.seatLocks) :
    MatchesSingle start single world where
  orders := orders
  holds := holds
  audit := ⟨settledAt, notBefore, notAfter, settled⟩
  atOnce := by
    intro sameInstant
    have same : settledAt = start.now :=
      le_antisymm (notAfter.trans sameInstant.le) notBefore
    rw [same] at settled
    exact forall₂_settledAt_same settled

/-- Where the execution that leads is, and what it has left so far. -/
inductive LeaderAt (orderId : OrderId) (start world : Stores) :
    ExpireProgress → Prop
  | marked
      (seatLocks : world.seatLocks = start.seatLocks)
      (holds : SameHolds start.redis world.redis) :
      LeaderAt orderId start world
        (.running
          (.findOrder (decide (pendingCount orderId start.orders = 1))))
  | released (order : Order) (position : Nat) (progress : ExpireProgress)
      (moved : movedOrder orderId start.orders = some order)
      (goesOn : progress = releaseFrom (movedResult order) position)
      (seatLocks : world.seatLocks = start.seatLocks)
      (holds :
        SameHolds
          (releaseHolds order.eventId order.userId
            (order.seatIds.take position) start.redis)
          world.redis) :
      LeaderAt orderId start world progress
  | done
      (matched : MatchesSingle start (expireAlone orderId start) world) :
      LeaderAt orderId start world (.finished ())

/-- Where the other executions can be: their compare-and-set is still ahead,
or it has found the order moved. -/
def Follows : ExpireProgress → Prop
  | .running .markExpired => True
  | .running (.findOrder changed) => changed = false
  | .finished () => True
  | _ => False

private theorem expireIfPending_idem (orderId : OrderId) (order : Order) :
    expireIfPending orderId (expireIfPending orderId order) =
      expireIfPending orderId order := by
  by_cases pending : (expireIfPending orderId order).status = .pending
  · have same := eq_of_expireIfPending_pending pending
    rw [same]
    exact same
  · rw [expireIfPending, if_neg (fun both => pending both.2)]

private theorem map_expireIfPending_idem (orderId : OrderId)
    (orders : List Order) : (orders.map (expireIfPending orderId)).map
    (expireIfPending orderId) =
      orders.map (expireIfPending orderId) := by
  rw [List.map_map]
  apply List.map_congr_left
  intro order _
  exact expireIfPending_idem orderId order

/-- A second `updateMany` counts no row. -/
theorem pendingCount_map_expireIfPending (orderId : OrderId)
    (orders : List Order) :
    pendingCount orderId (orders.map (expireIfPending orderId)) = 0 := by
  rw [pendingCount, List.length_eq_zero_iff, List.filter_eq_nil_iff]
  intro row member
  obtain ⟨order, _, rfl⟩ := List.mem_map.mp member
  intro counted
  obtain ⟨sameId, pending⟩ := of_decide_eq_true counted
  rw [expireIfPending_id] at sameId
  exact ((expireIfPending_status orderId order).mp pending).2 sameId

namespace LeaderAt

variable {orderId : OrderId} {start world after : Stores}
  {progress : ExpireProgress}

/-- What leaves the tables and the holds alone leaves the leader where it
is. -/
theorem mono (leader : LeaderAt orderId start world progress)
    (orders : after.orders = world.orders)
    (seatLocks : after.seatLocks = world.seatLocks)
    (holds : SameHolds world.redis after.redis)
    (notBefore : start.now ≤ world.now) (later : world.now ≤ after.now) :
    LeaderAt orderId start after progress := by
  cases leader with
  | marked sameLocks sameHolds =>
      exact .marked (seatLocks.trans sameLocks) (sameHolds.trans holds)
  | released order position _ moved goesOn sameLocks sameHolds =>
      exact .released order position progress moved goesOn
        (seatLocks.trans sameLocks) (sameHolds.trans holds)
  | done matched =>
      refine .done ⟨orders.trans matched.orders, matched.holds.trans holds,
        ?_, ?_⟩
      · obtain ⟨settledAt, since, upTo, settled⟩ := matched.audit
        rw [seatLocks]
        exact ⟨settledAt, since, upTo.trans later, settled⟩
      · intro sameInstant
        have sameBefore : world.now = start.now :=
          le_antisymm (later.trans sameInstant.le) notBefore
        exact seatLocks.trans (matched.atOnce sameBefore)

end LeaderAt

private theorem releaseFrom_eq_running {result : ExpireResult} {position : Nat}
    {stage : ExpireStage}
    (running : .running stage = releaseFrom result position) :
    (position < result.seatIds.length ∧
        stage = .releaseHold result position) ∨
      (result.seatIds.length ≤ position ∧
        stage = .expireSeatLockAudit result) := by
  unfold releaseFrom at running
  split at running
  · next inside =>
      cases running
      exact Or.inl ⟨inside, rfl⟩
  · next beyond =>
      cases running
      exact Or.inr ⟨not_lt.mp beyond, rfl⟩

private theorem releaseHolds_take_succ (eventId : EventId) (userId : UserId)
    {seatIds : List SeatId} {position : Nat} {seatId : SeatId}
    (here : seatIds[position]? = some seatId) (db : SeatStore) :
    releaseHolds eventId userId (seatIds.take (position + 1)) db =
      releaseHold eventId seatId userId
        (releaseHolds eventId userId (seatIds.take position) db) := by
  rw [List.take_add_one, here, releaseHolds, List.foldl_append]
  rfl

/-- The leader's read either ends it, or shows it the order it has moved. -/
theorem LeaderAt.read {orderId : OrderId} {start world : Stores}
    {changed : Bool}
    (leader : LeaderAt orderId start world (.running (.findOrder changed)))
    (orders : world.orders = start.orders.map (expireIfPending orderId))
    (notBefore : start.now ≤ world.now) :
    LeaderAt orderId start world
      (orderFound changed (findOrder orderId world.orders)) := by
  cases leader with
  | marked seatLocks holds =>
      rw [orders, orderFound_moved]
      cases moved : movedOrder orderId start.orders with
      | none =>
          apply LeaderAt.done
          rw [expireAlone_of_none moved]
          refine MatchesSingle.of_audit orders holds le_rfl notBefore ?_
          rw [seatLocks]
          exact List.forall₂_same.mpr fun row _ => Or.inl rfl
      | some order => exact .released order 0 _ moved rfl seatLocks holds
  | released order position _ moved goesOn seatLocks holds =>
      rcases releaseFrom_eq_running goesOn with ⟨_, other⟩ | ⟨_, other⟩ <;>
        cases other

/-- The leader's next resolved call is that of a single execution. -/
theorem LeaderAt.resolve {orderId : OrderId} {start world after : Stores}
    {stage : ExpireStage} {progress : ExpireProgress}
    (leader : LeaderAt orderId start world (.running stage))
    (orders : world.orders = start.orders.map (expireIfPending orderId))
    (notBefore : start.now ≤ world.now)
    (resolved : ExpireResolved orderId world stage after progress) :
    LeaderAt orderId start after progress := by
  cases resolved with
  | marked =>
      cases leader with
      | released order position _ moved goesOn seatLocks holds =>
          rcases releaseFrom_eq_running goesOn with ⟨_, other⟩ | ⟨_, other⟩ <;>
            cases other
  | read changed => exact leader.read orders notBefore
  | released result position seatId here =>
      cases leader with
      | released order earlier _ moved goesOn seatLocks holds =>
          rcases releaseFrom_eq_running goesOn with ⟨_, same⟩ | ⟨_, other⟩
          · cases same
            refine .released order (position + 1) _ moved rfl seatLocks ?_
            have hereOfOrder : order.seatIds[position]? = some seatId := here
            rw [releaseHolds_take_succ _ _ hereOfOrder]
            exact holds.releaseHold _ _ _
          · cases other
  | settled result =>
      cases leader with
      | released order position _ moved goesOn seatLocks holds =>
          rcases releaseFrom_eq_running goesOn with ⟨_, other⟩ | ⟨beyond, same⟩
          · cases other
          · cases same
            have whole : order.seatIds.take position = order.seatIds :=
              List.take_of_length_le beyond
            rw [whole] at holds
            apply LeaderAt.done
            rw [expireAlone_of_some moved]
            refine MatchesSingle.of_audit orders holds notBefore le_rfl ?_
            have settled :=
              settledAt_expireSeatLockAudit start.now world.now order.seatIds
                order.userId start.seatLocks
            rw [← seatLocks] at settled ⊢
            exact settled

/-! ## Runs of executions only -/

/-- Only executions for the order that started since run, none of their
remote calls fails, and no live lock lapses. -/
def ExecutionsOnly (orderId : OrderId) (first : Nat) (world : World) :
    Action → Prop
  | .tick elapsed => ¬ SeatOp.LetsLapse world.redis (.tick elapsed)
  | .expireOrder requested => requested = orderId
  | .deliver index => world.broker.timeoutQueue[index]? = some orderId
  | .expireAwait index outcome => first ≤ index ∧ outcome = .resolves
  | .deadLetter _ => True
  | .settle _ => True
  | .requeue _ => True
  | _ => False

def progressAt (world : World) (index : Nat) : Option ExpireProgress :=
  (world.expireCalls[index]?).map Call.progress

/-- The calls since the given index are executions for the order. -/
def CallsFor (orderId : OrderId) (first : Nat) (world : World) : Prop :=
  ∀ (index : Nat) (call : ExpireCall),
    first ≤ index →
    world.expireCalls[index]? = some call →
    call.input.orderId = orderId

/-- A step of such a run resolves one call of one execution, or leaves the
tables and the holds alone. -/
inductive ExecutionStep (orderId : OrderId) (first : Nat)
    (world next : World) : Prop
  | resolved (index : Nat) (stage : ExpireStage) (progress : ExpireProgress)
      (since : first ≤ index)
      (before : progressAt world index = some (.running stage))
      (performed :
        ExpireResolved orderId world.toStores stage next.toStores progress)
      (reached : progressAt next index = some progress)
      (others : ∀ other, other ≠ index →
        progressAt next other = progressAt world other)
  | quiet
      (orders : next.orders = world.orders)
      (seatLocks : next.seatLocks = world.seatLocks)
      (holds : SameHolds world.redis next.redis)
      (calls : ∀ index,
        progressAt next index = progressAt world index ∨
          (progressAt world index = none ∧
            progressAt next index = some (.running .markExpired)))

private theorem progressAt_eq_some {world : World} {index : Nat}
    {progress : ExpireProgress} :
    progressAt world index = some progress ↔
      ∃ call, world.expireCalls[index]? = some call ∧
        call.progress = progress := by
  simp only [progressAt, Option.map_eq_some_iff]

/-- Steps other than awaits of executions start executions at most. -/
theorem progressAt_next {env : Environment} {world next : World}
    {action : Action} (stepped : step env world action = some next)
    (noAwait : ∀ index outcome, action ≠ .expireAwait index outcome)
    (index : Nat) :
    progressAt next index = progressAt world index ∨
      (progressAt world index = none ∧
        progressAt next index = some (.running .markExpired)) := by
  cases before : world.expireCalls[index]? with
  | some call =>
      obtain ⟨after, reached, _, same | ⟨outcome, stage, ran, _⟩⟩ :=
        step_expireCall stepped before
      · left
        simp only [progressAt, before, reached, Option.map_some, same]
      · exact absurd ran (noAwait index outcome)
  | none =>
      cases now : next.expireCalls[index]? with
      | none =>
          left
          simp only [progressAt, before, now]
      | some call =>
          have fresh : call.progress = .running .markExpired := by
            cases step_expireCalls stepped now with
            | kept _ _ found =>
                rw [before] at found
                cases found
            | requested orderId _ new => rw [new]
            | delivered position orderId _ _ new => rw [new]
            | awaited outcome stage found _ =>
                rw [before] at found
                cases found
            | answered _ found _ =>
                rw [before] at found
                cases found
          right
          simp only [progressAt, before, now, Option.map_none,
            Option.map_some, fresh, and_self]

private theorem executionStep {env : Environment} {orderId : OrderId}
    {first : Nat} {world next : World} {action : Action}
    (only : ExecutionsOnly orderId first world action)
    (callsFor : CallsFor orderId first world)
    (stepped : step env world action = some next) :
    ExecutionStep orderId first world next := by
  have calls := progressAt_next stepped
  cases step_cases stepped with
  | ticked elapsed =>
      exact .quiet rfl rfl (SameHolds.tick only)
        (calls fun _ _ => Action.noConfusion)
  | expireRequested | deadLettered | delivered | settled | requeued =>
      exact .quiet rfl rfl (SameHolds.refl _)
        (calls fun _ _ => Action.noConfusion)
  | expireAwaited index outcome request stage progress after found awaited =>
      obtain ⟨since, rfl⟩ := only
      have ofOrder : request.orderId = orderId :=
        callsFor index _ since found
      have performed := expireOrder_resolved awaited
      rw [ofOrder] at performed
      have inside : index < world.expireCalls.length :=
        (List.getElem?_eq_some_iff.mp found).1
      refine .resolved index stage progress since ?_ performed ?_ ?_
      · simp only [progressAt, found, Option.map_some]
      · simp only [progressAt, List.getElem?_set_self inside,
          Option.map_some]
      · intro other different
        simp only [progressAt, List.getElem?_set_ne (Ne.symm different)]
  | lockRequested | releaseRequested | createRequested =>
      exact only.elim
  | lockAwaited | releaseAwaited | createAwaited => exact only.elim

theorem CallsFor.step {env : Environment} {orderId : OrderId}
    {first : Nat} {world next : World} {action : Action}
    (callsFor : CallsFor orderId first world)
    (only : ExecutionsOnly orderId first world action)
    (stepped : Booking.step env world action = some next) :
    CallsFor orderId first next := by
  intro index call since reached
  cases step_expireCalls stepped reached with
  | kept _ _ found => exact callsFor index call since found
  | requested requested _ new =>
      rw [new]
      exact only
  | delivered position delivered vacant queued _ =>
      have here : world.broker.timeoutQueue[position]? = some orderId := only
      simp only [Booking.step, here, Option.some.injEq] at stepped
      rw [← stepped] at reached
      rcases Call.getElem?_append_cases reached with found | ⟨_, same⟩
      · rw [vacant] at found
        cases found
      · rw [same]
  | awaited outcome stage found _ =>
      have before := callsFor index _ since found
      exact before
  | answered _ found _ =>
      have before := callsFor index _ since found
      exact before

/-- No execution has come to its compare-and-set, or one leads. -/
inductive Confluent (orderId : OrderId) (first : Nat)
    (start world : World) : Prop
  | waiting
      (orders : world.orders = start.orders)
      (seatLocks : world.seatLocks = start.seatLocks)
      (holds : SameHolds start.redis world.redis)
      (ahead : ∀ index progress,
        first ≤ index →
        progressAt world index = some progress →
        progress = .running .markExpired)
  | led (leader : Nat) (progress : ExpireProgress) (new : first ≤ leader)
      (found : progressAt world leader = some progress)
      (orders : world.orders = start.orders.map (expireIfPending orderId))
      (reached :
        LeaderAt orderId start.toStores world.toStores progress)
      (followers : ∀ index progress,
        first ≤ index →
        index ≠ leader →
        progressAt world index = some progress →
        Follows progress)

namespace Confluent

variable {orderId : OrderId} {first : Nat} {start world next : World}

theorem quiet (confluent : Confluent orderId first start world)
    (orders : next.orders = world.orders)
    (seatLocks : next.seatLocks = world.seatLocks)
    (holds : SameHolds world.redis next.redis)
    (calls : ∀ index,
      progressAt next index = progressAt world index ∨
        (progressAt world index = none ∧
          progressAt next index = some (.running .markExpired)))
    (notBefore : start.now ≤ world.now) (later : world.now ≤ next.now) :
    Confluent orderId first start next := by
  cases confluent with
  | waiting sameOrders sameLocks sameHolds ahead =>
      refine .waiting (orders.trans sameOrders) (seatLocks.trans sameLocks)
        (sameHolds.trans holds) ?_
      intro index progress since found
      rcases calls index with same | ⟨_, new⟩
      · rw [same] at found
        exact ahead index progress since found
      · rw [new] at found
        exact (Option.some.inj found).symm
  | led leader progress new found moved reached followers =>
      refine .led leader progress new ?_ (orders.trans moved)
        (reached.mono orders seatLocks holds notBefore later) ?_
      · rcases calls leader with same | ⟨vacant, _⟩
        · exact same.trans found
        · rw [vacant] at found
          cases found
      · intro index other since different foundOther
        rcases calls index with same | ⟨_, new⟩
        · rw [same] at foundOther
          exact followers index other since different foundOther
        · rw [new] at foundOther
          cases foundOther
          trivial

/-- The first compare-and-set makes its execution the leader. -/
theorem lead {index : Nat} {progress : ExpireProgress}
    {stage : ExpireStage}
    (orders : world.orders = start.orders)
    (seatLocks : world.seatLocks = start.seatLocks)
    (holds : SameHolds start.redis world.redis)
    (ahead : ∀ index progress,
      first ≤ index →
      progressAt world index = some progress →
      progress = .running .markExpired)
    (since : first ≤ index)
    (before : progressAt world index = some (.running stage))
    (performed :
      ExpireResolved orderId world.toStores stage next.toStores progress)
    (reached : progressAt next index = some progress)
    (others : ∀ other, other ≠ index →
      progressAt next other = progressAt world other) :
    Confluent orderId first start next := by
  have atStart := ahead index _ since before
  cases atStart
  generalize atNext : next.toStores = after at performed
  cases performed with
  | marked =>
      refine .led index _ since reached ?_ ?_ ?_
      · have moved := congrArg Stores.orders atNext
        rw [← orders]
        exact moved
      · rw [atNext, orders]
        exact .marked seatLocks holds
      · intro other progress sinceOther different found
        rw [others other different] at found
        rw [ahead other progress sinceOther found]
        trivial

/-- A follower finds the order moved and changes nothing. -/
theorem follow {stores after : Stores} {stage : ExpireStage}
    {progress : ExpireProgress} {before : List Order}
    (orders : stores.orders = before.map (expireIfPending orderId))
    (follows : Follows (.running stage))
    (performed : ExpireResolved orderId stores stage after progress) :
    after = stores ∧ Follows progress := by
  cases performed with
  | marked =>
      constructor
      · rw [orders, map_expireIfPending_idem, ← orders]
      · rw [orders, pendingCount_map_expireIfPending]
        rfl
  | read changed =>
      have unchanged : changed = false := follows
      subst unchanged
      refine ⟨rfl, ?_⟩
      cases findOrder orderId stores.orders <;> trivial
  | released => exact follows.elim
  | settled => exact follows.elim

/-- The leader resolves a call. -/
theorem led_resolve {leader : Nat} {progress : ExpireProgress}
    {stage : ExpireStage} (new : first ≤ leader)
    (moved : world.orders = start.orders.map (expireIfPending orderId))
    (leaderAt :
      LeaderAt orderId start.toStores world.toStores (.running stage))
    (followers : ∀ index progress,
      first ≤ index →
      index ≠ leader →
      progressAt world index = some progress →
      Follows progress)
    (notBefore : start.now ≤ world.now)
    (performed :
      ExpireResolved orderId world.toStores stage next.toStores progress)
    (reached : progressAt next leader = some progress)
    (others : ∀ other, other ≠ leader →
      progressAt next other = progressAt world other) :
    Confluent orderId first start next := by
  have ordersNext :
      next.orders = start.orders.map (expireIfPending orderId) := by
    generalize next.toStores = after at performed
    cases performed with
    | marked =>
        exact (congrArg (List.map (expireIfPending orderId)) moved).trans
          (map_expireIfPending_idem orderId start.orders)
    | _ => exact moved
  refine .led leader progress new reached ordersNext
    (leaderAt.resolve moved notBefore performed) ?_
  intro other progressOther since different found
  rw [others other different] at found
  exact followers other progressOther since different found

/-- A follower resolves a call. -/
theorem led_follow {leader index : Nat} {leading progress : ExpireProgress}
    {stage : ExpireStage} (new : first ≤ leader)
    (found : progressAt world leader = some leading)
    (moved : world.orders = start.orders.map (expireIfPending orderId))
    (leaderAt : LeaderAt orderId start.toStores world.toStores leading)
    (followers : ∀ index progress,
      first ≤ index →
      index ≠ leader →
      progressAt world index = some progress →
      Follows progress)
    (since : first ≤ index) (notLeader : index ≠ leader)
    (before : progressAt world index = some (.running stage))
    (performed :
      ExpireResolved orderId world.toStores stage next.toStores progress)
    (reached : progressAt next index = some progress)
    (others : ∀ other, other ≠ index →
      progressAt next other = progressAt world other) :
    Confluent orderId first start next := by
  have following :=
    follow moved (followers index _ since notLeader before) performed
  have sameStores : next.toStores = world.toStores := following.1
  refine .led leader leading new ?_ ?_ ?_ ?_
  · rw [others leader (Ne.symm notLeader)]
    exact found
  · exact (congrArg Stores.orders sameStores).trans moved
  · rw [sameStores]
    exact leaderAt
  · intro other progressOther sinceOther different foundOther
    by_cases sameOther : other = index
    · subst sameOther
      rw [reached] at foundOther
      cases foundOther
      exact following.2
    · rw [others other sameOther] at foundOther
      exact followers other progressOther sinceOther different foundOther

theorem resolve {index : Nat} {progress : ExpireProgress}
    {stage : ExpireStage}
    (confluent : Confluent orderId first start world)
    (notBefore : start.now ≤ world.now)
    (since : first ≤ index)
    (before : progressAt world index = some (.running stage))
    (performed :
      ExpireResolved orderId world.toStores stage next.toStores progress)
    (reached : progressAt next index = some progress)
    (others : ∀ other, other ≠ index →
      progressAt next other = progressAt world other) :
    Confluent orderId first start next := by
  cases confluent with
  | waiting orders seatLocks holds ahead =>
      exact lead orders seatLocks holds ahead since before performed reached
        others
  | led leader leading new found moved leaderAt followers =>
      by_cases sameCall : index = leader
      · subst sameCall
        rw [before] at found
        cases found
        exact led_resolve new moved leaderAt followers notBefore performed
          reached others
      · exact led_follow new found moved leaderAt followers since sameCall
          before performed reached others

theorem step {env : Environment} {action : Action}
    (confluent : Confluent orderId first start world)
    (notBefore : start.now ≤ world.now)
    (callsFor : CallsFor orderId first world)
    (only : ExecutionsOnly orderId first world action)
    (stepped : Booking.step env world action = some next) :
    Confluent orderId first start next := by
  cases executionStep only callsFor stepped with
  | resolved index stage progress since before performed reached others =>
      exact confluent.resolve notBefore since before performed reached others
  | quiet orders seatLocks holds calls =>
      exact confluent.quiet orders seatLocks holds calls notBefore
        (step_now_le stepped)

end Confluent

/-- The executions of a run have all ended. -/
def AllFinished (first : Nat) (world : World) : Prop :=
  ∀ (index : Nat) (call : ExpireCall),
    first ≤ index →
    world.expireCalls[index]? = some call →
    call.progress = .finished ()

private theorem Trace.confluent {env : Environment} {orderId : OrderId}
    {start world : World} {history : List (World × Action)}
    (run : Trace (step env) start history world)
    (only :
      StepsMeet (ExecutionsOnly orderId start.expireCalls.length) history) :
    start.now ≤ world.now ∧
      CallsFor orderId start.expireCalls.length world ∧
      Confluent orderId start.expireCalls.length start world := by
  refine Trace.invariantUnder
    (ExecutionsOnly orderId start.expireCalls.length)
    (fun current =>
      start.now ≤ current.now ∧
        CallsFor orderId start.expireCalls.length current ∧
        Confluent orderId start.expireCalls.length start current)
    ?_ ?_ run only
  · have vacant : ∀ index, start.expireCalls.length ≤ index →
        start.expireCalls[index]? = none := by
      intro index beyond
      exact List.getElem?_eq_none beyond
    refine ⟨le_rfl, ?_, .waiting rfl rfl (SameHolds.refl _) ?_⟩
    · intro index call since found
      rw [vacant index since] at found
      cases found
    · intro index progress since found
      obtain ⟨call, here, _⟩ := progressAt_eq_some.mp found
      rw [vacant index since] at here
      cases here
  · rintro before action next ⟨notBefore, callsFor, confluent⟩ here stepped
    have later := step_now_le stepped
    exact ⟨notBefore.trans later, callsFor.step here stepped,
      confluent.step notBefore callsFor here stepped⟩

/-- When all executions of a run have ended, and there was at least one, the
state is the one that a single execution leaves. -/
theorem Confluent.matchesSingle {orderId : OrderId} {start world : World}
    (confluent :
      Confluent orderId start.expireCalls.length start world)
    (nonempty : start.expireCalls.length < world.expireCalls.length)
    (finished : AllFinished start.expireCalls.length world) :
    MatchesSingle start.toStores (expireAlone orderId start.toStores)
      world.toStores := by
  cases confluent with
  | waiting _ _ _ ahead =>
      have found := List.getElem?_eq_getElem nonempty
      have atMark :=
        ahead _ _ le_rfl (progressAt_eq_some.mpr ⟨_, found, rfl⟩)
      rw [finished _ _ le_rfl found] at atMark
      cases atMark
  | led leader progress new found _ reached _ =>
      obtain ⟨call, here, rfl⟩ := progressAt_eq_some.mp found
      rw [finished leader call new here] at reached
      generalize ended : Progress.finished () = progress at reached
      cases reached with
      | marked => cases ended
      | released order position _ _ goesOn =>
          obtain ⟨stage, running⟩ :=
            releaseFrom_running (movedResult order) position
          rw [← ended, running] at goesOn
          cases goesOn
      | done matched => exact matched

/-- Expiry is idempotent: the order moves once and by one execution, and
executions that run by themselves leave what one of them leaves. -/
structure IdempotentExpiry (env : Environment) (orderId : OrderId)
    (older newer : List (World × Action)) (start world : World) : Prop where
  once : ExpiresOnce env orderId (newer ++ older) world
  confluent :
    StepsMeet (ExecutionsOnly orderId start.expireCalls.length) newer →
    start.expireCalls.length < world.expireCalls.length →
    AllFinished start.expireCalls.length world →
    ∃ single,
      (expireOrder orderId).Completes start.toStores .markExpired single () ∧
        MatchesSingle start.toStores single world.toStores

/-- Every order is expired idempotently, from every reachable state and
however its executions and the other requests interleave. -/
theorem idempotentExpiry_of_run {env : Environment} {origin : Instant}
    {older newer : List (World × Action)} {start world : World}
    (past : Trace (step env) (World.init origin) older start)
    (run : Trace (step env) start newer world) (orderId : OrderId) :
    IdempotentExpiry env orderId older newer start world where
  once := Trace.expiresOnce (past.append run) orderId
  confluent := by
    intro only nonempty finished
    have reached := (Trace.confluent run only).2.2
    exact ⟨expireAlone orderId start.toStores,
      completes_expireAlone orderId start.toStores,
      reached.matchesSingle nonempty finished⟩

def orderToExpire : List Action :=
  lockSeatRun 0 ⟨10, 1, 7⟩ ++ createOrderRun 0 ⟨10, 1, [7], "first"⟩

private theorem orderToExpire_enabled :
    (replay (step smallVenue) [] (World.init 0) orderToExpire).isSome =
      true := by
  decide

def worldToExpire : World :=
  ((replay (step smallVenue) [] (World.init 0) orderToExpire).get
    orderToExpire_enabled).2

def twoExecutions : List Action :=
  [.expireOrder 0, .expireOrder 0, .expireAwait 1 .resolves,
    .expireAwait 0 .resolves, .expireAwait 1 .resolves,
    .expireAwait 1 .resolves, .expireAwait 0 .resolves,
    .expireAwait 1 .resolves]

private theorem twoExecutions_enabled :
    (replay (step smallVenue) [] worldToExpire twoExecutions).isSome =
      true := by
  decide

private theorem twoExecutions_only :
    StepsMeet (ExecutionsOnly 0 worldToExpire.expireCalls.length)
      ((replay (step smallVenue) [] worldToExpire twoExecutions).get
        twoExecutions_enabled).1 := by
  have actions : ∀ entry ∈
      ((replay (step smallVenue) [] worldToExpire twoExecutions).get
        twoExecutions_enabled).1,
      entry.2 = .expireOrder 0 ∨ entry.2 = .expireAwait 0 .resolves ∨
        entry.2 = .expireAwait 1 .resolves := by
    decide
  rintro ⟨before, action⟩ member
  rcases actions _ member with rfl | rfl | rfl
  · exact rfl
  · exact ⟨by decide, rfl⟩
  · exact ⟨by decide, rfl⟩

private theorem twoExecutions_finished :
    AllFinished worldToExpire.expireCalls.length
      ((replay (step smallVenue) [] worldToExpire twoExecutions).get
        twoExecutions_enabled).2 := by
  have ended : ∀ call ∈
      ((replay (step smallVenue) [] worldToExpire twoExecutions).get
        twoExecutions_enabled).2.expireCalls,
      call.progress = .finished () := by
    decide
  intro index call _ found
  exact ended call (List.mem_of_getElem? found)

theorem idempotentExpiry_twoExecutions :
    ∃ single,
      (expireOrder 0).Completes worldToExpire.toStores .markExpired single
          () ∧
        MatchesSingle worldToExpire.toStores single
          ((replay (step smallVenue) [] worldToExpire twoExecutions).get
            twoExecutions_enabled).2.toStores :=
  (idempotentExpiry_of_run
    (Trace.of_replay_get orderToExpire orderToExpire_enabled)
    (Trace.of_replay_get twoExecutions twoExecutions_enabled) 0).confluent
    twoExecutions_only (by decide) twoExecutions_finished

end ConcertTicketing.Booking
