import ConcertTicketing.Booking.Idempotency

/-!
# Orders and the locks they are committed on

An order that is committed has passed the script of `extendHold`, which finds
all its seats locked by its user at one instant and gives all these locks one
deadline.  A script that misses a seat changes no lock, and the row of its
call never reaches the table.
-/

namespace ConcertTicketing.Booking

open SeatLock Redis

/-- The step runs the `extendHold` of the order's own call, which finds all
its seats locked by its user and gives all these locks one deadline that is
not before `expiresAt`. -/
structure ConfirmsHold (env : Environment) (order : Order) (world : World)
    (action : Action) : Prop where
  own : ∃ index input row,
    action = .createAwait index .resolves ∧
      world.createCalls[index]? =
        some ⟨input, .running (.extendHold row)⟩ ∧
      row.id = order.id
  held : AllHeld world.redis order.eventId order.seatIds order.userId
  synchronised : ∃ next deadline,
    step env world action = some next ∧
      order.expiresAt ≤ deadline ∧
      ∀ seatId ∈ order.seatIds,
        lockEntry next.redis order.eventId seatId =
          some ⟨order.userId, some deadline⟩

theorem ConfirmsHold.later {env : Environment} {earlier order : Order}
    {world : World} {action : Action}
    (confirms : ConfirmsHold env earlier world action)
    (origin : ExpiredOrSame earlier order) :
    ConfirmsHold env order world action where
  own := by
    rw [origin.id_eq]
    exact confirms.own
  held := by
    rw [origin.eventId_eq, origin.seatIds_eq, origin.userId_eq]
    exact confirms.held
  synchronised := by
    rw [origin.eventId_eq, origin.seatIds_eq, origin.userId_eq,
      origin.expiresAt_eq]
    exact confirms.synchronised

/-- `extendHold` gives all locks that it finds the same entry. -/
theorem lockEntry_extended_of_allHeld {db : SeatStore} {eventId : EventId}
    {seatIds : List SeatId} {userId : UserId} {ttlSeconds : Int}
    (positive : 0 < ttlSeconds) (held : AllHeld db eventId seatIds userId)
    {seatId : SeatId} (member : seatId ∈ seatIds) :
    lockEntry (extended eventId seatIds ttlSeconds db) eventId seatId =
      some ⟨userId, some (db.deadlineIn ttlSeconds)⟩ := by
  obtain ⟨entry, found, owned⟩ := holder_eq_some_iff.mp (held seatId member)
  rw [lockEntry_extended, if_pos ⟨rfl, member⟩, found, Option.bind_some,
    Db.renewed, if_pos positive, owned]

/-- Every confirmed order has been confirmed in the history. -/
theorem confirmed_by_history {env : Environment} {origin : Instant}
    (positive : 0 < env.bookingWindowSeconds)
    {history : List (World × Action)} {world : World}
    (run : Trace (step env) (World.init origin) history world) :
    ∀ order ∈ world.confirmed,
      ∃ entry ∈ history, ConfirmsHold env order entry.1 entry.2 := by
  refine Trace.invariantHistory
    (fun past current => ∀ order ∈ current.confirmed,
      ∃ entry ∈ past, ConfirmsHold env order entry.1 entry.2)
    ?_ ?_ run
  · intro order member
    cases member
  · intro past before action after runBefore inductionHypothesis stepped
      order member
    rcases step_confirmed (Trace.sound runBefore) stepped member with
      ⟨earlier, wasConfirmed, origin⟩ |
        ⟨index, input, ran, found, held, bound, renewed⟩
    · obtain ⟨entry, old, confirms⟩ :=
        inductionHypothesis earlier wasConfirmed
      exact ⟨entry, List.mem_cons_of_mem _ old, confirms.later origin⟩
    · refine ⟨(before, action), List.mem_cons_self, ?_⟩
      refine ⟨⟨index, input, order, ran, found, rfl⟩, held, after,
        before.redis.deadlineIn env.bookingWindowSeconds, stepped, bound, ?_⟩
      intro seatId seat
      rw [renewed]
      exact lockEntry_extended_of_allHeld positive held seat

/-- The id belongs to no order and to no open transaction, and it will never
be drawn again. -/
structure RolledBack (id : OrderId) (world : World) : Prop where
  drawn : id < world.nextOrderId
  absent : ∀ order ∈ world.orders, order.id ≠ id
  ended : ∀ row ∈ world.uncommitted, row.id ≠ id

theorem RolledBack.next {env : Environment} {world next : World}
    {action : Action} {id : OrderId} (rolledBack : RolledBack id world)
    (stepped : step env world action = some next) : RolledBack id next where
  drawn := rolledBack.drawn.trans_le (step_nextOrderId_le stepped)
  absent := by
    intro order member
    rcases (step_orders stepped).order_origin member with
      ⟨earlier, old, origin⟩ | ⟨index, outcome, input, _, _, found⟩
    · rw [origin.id_eq]
      exact rolledBack.absent earlier old
    · have wasOpen : order ∈ world.uncommitted :=
        mem_uncommitted.mpr ⟨index, _, found, rfl⟩
      exact rolledBack.ended order wasOpen
  ended := by
    intro row member
    obtain ⟨index, call, reached, stillOpen⟩ := mem_uncommitted.mp member
    rcases step_uncommittedRow stepped reached stillOpen with
      ⟨earlier, found, wasOpen⟩ | ⟨_, newId, _, _⟩
    · have before : row ∈ world.uncommitted :=
        mem_uncommitted.mpr ⟨index, earlier, found, wasOpen⟩
      exact rolledBack.ended row before
    · rw [newId]
      exact rolledBack.drawn.ne'

/-- An `extendHold` that misses a seat changes nothing and ends its call. -/
theorem refused_await {env : Environment} {uncommitted : List Order}
    {input : CreateOrderInput} {stores after : Stores} {row : Order}
    {outcome : Await} {progress : CreateProgress}
    (lost : ¬ AllHeld stores.redis input.eventId input.seatIds input.userId)
    (awaited :
      (createOrder env uncommitted input).await stores (.extendHold row)
          outcome =
        some (after, progress)) :
    after = stores ∧ ∀ stage, progress ≠ .running stage := by
  constructor
  · rcases AsyncFunction.await_cases awaited with
      ⟨resolved, performed, _⟩ | ⟨same, _⟩
    · cases createOrder_resolved performed with
      | extended _ held => exact absurd held lost
      | rolledBack => rfl
    · exact same
  · intro stage running
    rw [running] at awaited
    rcases createOrder_await awaited with ⟨_, resolved⟩ | failed | stopped
    · cases resolved with
      | extended _ held => exact lost held
    · cases failed
    · cases stopped

private theorem uncommittedRow_running {call : CreateCall} {row : Order}
    (stillOpen : uncommittedRow call = some row) :
    ∃ stage, call.progress = .running stage := by
  unfold uncommittedRow at stillOpen
  split at stillOpen
  · next running => exact ⟨_, running⟩
  · next running => exact ⟨_, running⟩
  · cases stillOpen

private theorem rolledBack_of_refused {env : Environment} {world next : World}
    {index : Nat} {outcome : Await} {input : CreateOrderInput} {row : Order}
    (fresh : IdsFresh world)
    (stepped : step env world (.createAwait index outcome) = some next)
    (found :
      world.createCalls[index]? = some ⟨input, .running (.extendHold row)⟩)
    (lost :
      ¬ AllHeld world.redis input.eventId input.seatIds input.userId) :
    next.redis = world.redis ∧ RolledBack row.id next := by
  obtain ⟨call, reached, _, moved⟩ := step_createCall stepped found
  rcases moved with ⟨elsewhere, _⟩ | ⟨again, stage, same, running, awaited⟩
  · exact absurd rfl (elsewhere outcome)
  · cases running
    have refused := refused_await lost awaited
    have sameRedis : next.redis = world.redis :=
      congrArg Stores.redis refused.1
    have sameOrders : next.orders = world.orders :=
      congrArg Stores.orders refused.1
    have inserted : row.id < world.nextOrderId :=
      fresh.inserted index _ row found rfl
    refine ⟨sameRedis, inserted.trans_le (step_nextOrderId_le stepped), ?_, ?_⟩
    · rw [sameOrders]
      exact fresh.uncommitted index _ row found rfl
    · intro other member sameId
      obtain ⟨position, twin, reachedTwin, stillOpen⟩ :=
        mem_uncommitted.mp member
      rcases step_uncommittedRow stepped reachedTwin stillOpen with
        ⟨earlier, foundTwin, wasOpen⟩ | ⟨_, newId, _, _⟩
      · have samePosition : position = index :=
          fresh.distinct position index earlier _ other row foundTwin found
            (insertedRow_of_uncommittedRow wasOpen) rfl sameId
        subst samePosition
        rw [reached] at reachedTwin
        cases reachedTwin
        obtain ⟨stage, running⟩ := uncommittedRow_running stillOpen
        exact refused.2 stage running
      · exact inserted.ne (sameId.symm.trans newId)

/-- The step is an `extendHold` of the row that misses a seat. -/
def RefusesHold (row : Order) (world : World) (action : Action) : Prop :=
  ∃ index outcome input,
    action = .createAwait index outcome ∧
      world.createCalls[index]? =
        some ⟨input, .running (.extendHold row)⟩ ∧
      ¬ AllHeld world.redis input.eventId input.seatIds input.userId

private theorem rolledBack_of_history {env : Environment} {origin : Instant}
    {history : List (World × Action)} {world : World}
    (run : Trace (step env) (World.init origin) history world) :
    ∀ entry ∈ history, ∀ row, RefusesHold row entry.1 entry.2 →
      RolledBack row.id world := by
  refine Trace.invariantHistory
    (fun past current => ∀ entry ∈ past, ∀ row,
      RefusesHold row entry.1 entry.2 → RolledBack row.id current)
    ?_ ?_ run
  · intro entry member
    cases member
  · intro past before action after runBefore inductionHypothesis stepped
      entry member row refuses
    rcases List.mem_cons.mp member with rfl | old
    · obtain ⟨index, outcome, input, ran, found, lost⟩ := refuses
      have ranHere : action = .createAwait index outcome := ran
      subst ranHere
      exact (rolledBack_of_refused (Trace.sound runBefore).ids stepped found
        lost).2
    · exact (inductionHypothesis entry old row refuses).next stepped

structure CommitsHeldSeats (env : Environment)
    (history : List (World × Action)) (world : World) : Prop where
  committed : ∀ order ∈ world.orders,
    ∃ entry ∈ history, ConfirmsHold env order entry.1 entry.2
  refusedLocks : ∀ entry ∈ history, ∀ row next,
    RefusesHold row entry.1 entry.2 →
    step env entry.1 entry.2 = some next →
    next.redis = entry.1.redis
  refusedRow : ∀ entry ∈ history, ∀ row,
    RefusesHold row entry.1 entry.2 →
    ∀ order, order ∈ world.orders ∨ order ∈ world.uncommitted →
      order.id ≠ row.id

/-- With a positive booking window, orders are committed from simultaneously
held seats with synchronised deadlines, and a refused hold leaves no trace. -/
theorem commitsHeldSeats_of_positive {env : Environment} {origin : Instant}
    (positive : 0 < env.bookingWindowSeconds)
    {history : List (World × Action)} {world : World}
    (run : Trace (step env) (World.init origin) history world) :
    CommitsHeldSeats env history world where
  committed := by
    intro order member
    have confirmed : order ∈ world.confirmed :=
      mem_confirmed.mpr (Or.inl member)
    exact confirmed_by_history positive run order confirmed
  refusedLocks := by
    rintro ⟨before, action⟩ member row next
      ⟨index, outcome, input, ran, found, lost⟩ stepped
    have ranHere : action = .createAwait index outcome := ran
    subst ranHere
    have sound : Sound env before :=
      Trace.forall_reached (fun _ _ => Trace.sound) run before
        (List.mem_cons_of_mem _ (List.mem_map_of_mem member))
    exact (rolledBack_of_refused sound.ids stepped found lost).1
  refusedRow := by
    intro entry member row refuses order remains
    have rolledBack := rolledBack_of_history run entry member row refuses
    rcases remains with inTable | isOpen
    · exact rolledBack.absent order inTable
    · exact rolledBack.ended order isOpen

/-- User 10 prices seat 7, releases it and is refused; then the user locks and
orders the seat again. -/
def refusedThenOrdered : List Action :=
  lockSeatRun 0 ⟨10, 1, 7⟩ ++ [.createOrder ⟨10, 1, [7], "first"⟩] ++
    List.replicate 3 (.createAwait 0 .resolves) ++
      releaseSeatRun 0 ⟨1, 7, 10⟩ ++ [.createAwait 0 .resolves] ++
        lockSeatRun 1 ⟨10, 1, 7⟩ ++ createOrderRun 1 ⟨10, 1, [7], "first"⟩

private theorem refusedThenOrdered_enabled :
    (replay (step smallVenue) [] (World.init 0) refusedThenOrdered).isSome =
      true := by
  decide

theorem commitsHeldSeats_refusedThenOrdered :
    CommitsHeldSeats smallVenue
      ((replay (step smallVenue) [] (World.init 0) refusedThenOrdered).get
        refusedThenOrdered_enabled).1
      ((replay (step smallVenue) [] (World.init 0) refusedThenOrdered).get
        refusedThenOrdered_enabled).2 :=
  commitsHeldSeats_of_positive (by decide)
    (Trace.of_replay_get refusedThenOrdered refusedThenOrdered_enabled)

end ConcertTicketing.Booking
