import ConcertTicketing.Booking.Effects

/-!
# What holds in every reachable state of the system

Order rows are drafted from their request and from the seat map, their ids are
never used twice, the broker knows committed orders only, and an order that is
being cleaned up is no longer `PENDING`.
-/

namespace ConcertTicketing.Booking

open SeatLock

/-- The data that the call for a request hands to the repository. -/
structure DraftOf (env : Environment) (now : Instant)
    (input : CreateOrderInput) (data : CreateOrderData) : Prop where
  fields : data = input.data data.expiresAt data.items
  priced :
    loadSeatPricing env input.eventId input.seatIds = .ok data.items
  expiresAt_le : data.expiresAt ≤ now + env.bookingWindowMs

/-- The row is the one of a request, up to its status. -/
def Drafted (env : Environment) (now : Instant) (input : CreateOrderInput)
    (row : Order) : Prop :=
  ∃ data, DraftOf env now input data ∧
    row = { data.toRow row.id with status := row.status }

theorem DraftOf.mono {env : Environment} {now later : Instant}
    {input : CreateOrderInput} {data : CreateOrderData}
    (draft : DraftOf env now input data) (order : now ≤ later) :
    DraftOf env later input data where
  fields := draft.fields
  priced := draft.priced
  expiresAt_le :=
    draft.expiresAt_le.trans (Int.add_le_add_right order env.bookingWindowMs)

namespace Drafted

variable {env : Environment} {now later : Instant}
  {input : CreateOrderInput} {row : Order}

theorem mono (drafted : Drafted env now input row) (order : now ≤ later) :
    Drafted env later input row := by
  obtain ⟨data, draft, same⟩ := drafted
  exact ⟨data, draft.mono order, same⟩

theorem userId (drafted : Drafted env now input row) :
    row.userId = input.userId := by
  obtain ⟨data, draft, same⟩ := drafted
  rw [same, draft.fields]
  rfl

theorem eventId (drafted : Drafted env now input row) :
    row.eventId = input.eventId := by
  obtain ⟨data, draft, same⟩ := drafted
  rw [same, draft.fields]
  rfl

theorem idempotencyKey (drafted : Drafted env now input row) :
    row.idempotencyKey = input.idempotencyKey := by
  obtain ⟨data, draft, same⟩ := drafted
  rw [same, draft.fields]
  rfl

theorem seatIds (drafted : Drafted env now input row) :
    row.seatIds = input.seatIds := by
  obtain ⟨data, draft, same⟩ := drafted
  have items : row.seatIds = (data.toRow row.id).seatIds := by
    rw [same]
    rfl
  rw [items, toRow_seatIds]
  exact (loadSeatPricing_ok draft.priced).1

theorem seatOf (drafted : Drafted env now input row) {seatId : SeatId}
    (member : seatId ∈ row.seatIds) : env.SeatOf row.eventId seatId := by
  rw [drafted.seatIds] at member
  rw [drafted.eventId]
  obtain ⟨data, draft, _⟩ := drafted
  exact (loadSeatPricing_ok draft.priced).2 seatId member

theorem expiresAt_le (drafted : Drafted env now input row) :
    row.expiresAt ≤ now + env.bookingWindowMs := by
  obtain ⟨data, draft, same⟩ := drafted
  rw [same]
  exact draft.expiresAt_le

theorem expireIfPending (drafted : Drafted env now input row)
    (orderId : OrderId) :
    Drafted env now input (expireIfPending orderId row) := by
  obtain ⟨data, draft, same⟩ := drafted
  refine ⟨data, draft, ?_⟩
  unfold Booking.expireIfPending
  split
  · conv_lhs => rw [same]
  · exact same

end Drafted

namespace CreateStage

/-- The inserted row that a stage works with. -/
def row? : CreateStage → Option Order
  | .extendHold row => some row
  | .commit row => some row
  | .publishExpiration row => some row
  | _ => none

end CreateStage

/-- The row that a call has inserted, as long as it has not returned. -/
def insertedRow (call : CreateCall) : Option Order :=
  call.progress.stage?.bind CreateStage.row?

/-- A step keeps the inserted row of a call or inserts it. -/
theorem insertedRow_of_await {env : Environment} {uncommitted : List Order}
    {call : CreateCall} {stores after : Stores} {stage : CreateStage}
    {outcome : Await} {row : Order}
    (awaited :
      (createOrder env uncommitted call.input).await stores stage outcome =
        some (after, call.progress))
    (inserted : insertedRow call = some row) :
    stage.row? = some row ∨
      ∃ data, stage = .insertOrder data ∧
        row = data.toRow stores.nextOrderId ∧
        call.progress = .running (.extendHold row) ∧
        after = { stores with nextOrderId := stores.nextOrderId + 1 } := by
  unfold insertedRow at inserted
  rcases createOrder_await awaited with ⟨_, resolved⟩ | failed | stopped
  · generalize call.progress = progress at *
    cases resolved with
    | inserted data storable alone fresh =>
        cases inserted
        exact Or.inr ⟨data, rfl, rfl, rfl, rfl⟩
    | extended => exact Or.inl inserted
    | committed => exact Or.inl inserted
    | _ => cases inserted
  · rw [failed] at inserted
    exact Or.inl inserted
  · rw [stopped] at inserted
    exact Or.inl inserted

theorem insertedRow_of_running {call : CreateCall} {stage : CreateStage}
    (running : call.progress = .running stage) :
    insertedRow call = stage.row? := by
  unfold insertedRow
  rw [running]
  rfl

/-- Drafts, inserted rows and orders are what their requests asked for. -/
structure RowsSound (env : Environment) (world : World) : Prop where
  drafts : ∀ (index : Nat) (call : CreateCall) (data : CreateOrderData),
    world.createCalls[index]? = some call →
    call.progress = .running (.insertOrder data) →
    DraftOf env world.now call.input data
  rows : ∀ (index : Nat) (call : CreateCall) (row : Order),
    world.createCalls[index]? = some call →
    insertedRow call = some row →
    Drafted env world.now call.input row ∧ row.status = .pending
  orders : ∀ order ∈ world.orders,
    ∃ input, Drafted env world.now input order

theorem rowsSound_init (env : Environment) (origin : Instant) :
    RowsSound env (World.init origin) where
  drafts := by
    intro index call data found
    cases found
  rows := by
    intro index call row found
    cases found
  orders := by
    intro order member
    cases member

namespace RowsSound

variable {env : Environment} {world next : World} {action : Action}

theorem drafts_step (sound : RowsSound env world)
    (stepped : step env world action = some next)
    {index : Nat} {call : CreateCall} {data : CreateOrderData}
    (reached : next.createCalls[index]? = some call)
    (drafting : call.progress = .running (.insertOrder data)) :
    DraftOf env next.now call.input data := by
  have later : world.now ≤ next.now := step_now_le stepped
  cases step_createCalls stepped reached with
  | kept _ _ found =>
      exact (sound.drafts index call data found drafting).mono later
  | requested input new =>
      rw [new] at drafting
      cases drafting
  | awaited outcome stage found awaited =>
      rw [drafting] at awaited
      rcases createOrder_await awaited with ⟨_, resolved⟩ | failed | stopped
      · generalize next.toStores = after at resolved
        cases resolved with
        | priced pricing loaded =>
            exact ⟨rfl, loaded, le_refl _⟩
      · cases failed
      · cases stopped

theorem rows_step (sound : RowsSound env world)
    (stepped : step env world action = some next)
    {index : Nat} {call : CreateCall} {row : Order}
    (reached : next.createCalls[index]? = some call)
    (inserted : insertedRow call = some row) :
    Drafted env next.now call.input row ∧ row.status = .pending := by
  have later : world.now ≤ next.now := step_now_le stepped
  cases step_createCalls stepped reached with
  | kept _ _ found =>
      have before := sound.rows index call row found inserted
      exact ⟨before.1.mono later, before.2⟩
  | requested input new =>
      rw [new] at inserted
      cases inserted
  | awaited outcome stage found awaited =>
      rcases insertedRow_of_await awaited inserted with
        kept | ⟨data, rfl, rfl, _, _⟩
      · have before := sound.rows index _ row found kept
        exact ⟨before.1.mono later, before.2⟩
      · have draft := sound.drafts index _ data found rfl
        exact ⟨⟨data, draft.mono later, rfl⟩, rfl⟩

theorem orders_step (sound : RowsSound env world)
    (stepped : step env world action = some next) :
    ∀ order ∈ next.orders, ∃ input, Drafted env next.now input order := by
  have later : world.now ≤ next.now := step_now_le stepped
  have moved := step_orders stepped
  generalize next.orders = orders at moved
  intro order member
  cases moved with
  | unchanged =>
      obtain ⟨input, drafted⟩ := sound.orders order member
      exact ⟨input, drafted.mono later⟩
  | committed index outcome input row found applies =>
      rcases List.mem_append.mp member with old | new
      · obtain ⟨source, drafted⟩ := sound.orders order old
        exact ⟨source, drafted.mono later⟩
      · rw [List.mem_singleton] at new
        subst new
        have before := sound.rows index _ order found rfl
        exact ⟨input, before.1.mono later⟩
  | marked index outcome request found applies =>
      obtain ⟨earlier, old, rfl⟩ := List.mem_map.mp member
      obtain ⟨source, drafted⟩ := sound.orders earlier old
      exact ⟨source, (drafted.mono later).expireIfPending _⟩

/-- Pricing has checked the event of every order, so orders with a seat in
common are for one event. -/
theorem eventId_eq_of_mem (sound : RowsSound env world)
    {first second : Order} (memberFirst : first ∈ world.orders)
    (memberSecond : second ∈ world.orders) {seatId : SeatId}
    (seatFirst : seatId ∈ first.seatIds)
    (seatSecond : seatId ∈ second.seatIds) :
    first.eventId = second.eventId := by
  obtain ⟨_, draftedFirst⟩ := sound.orders first memberFirst
  obtain ⟨_, draftedSecond⟩ := sound.orders second memberSecond
  exact (draftedFirst.seatOf seatFirst).unique (draftedSecond.seatOf seatSecond)

end RowsSound

theorem rowsSound_step {env : Environment} {world next : World}
    {action : Action} (sound : RowsSound env world)
    (stepped : step env world action = some next) :
    RowsSound env next where
  drafts := by
    intro index call data reached drafting
    exact sound.drafts_step stepped reached drafting
  rows := by
    intro index call row reached inserted
    exact sound.rows_step stepped reached inserted
  orders := sound.orders_step stepped

/-! ## Order ids -/

/-- The next id is above every id in use, no two calls have inserted rows with
one id, and an uncommitted row is not in the table. -/
structure IdsFresh (world : World) : Prop where
  inserted : ∀ (index : Nat) (call : CreateCall) (row : Order),
    world.createCalls[index]? = some call →
    insertedRow call = some row →
    row.id < world.nextOrderId
  distinct : ∀ (first second : Nat) (one other : CreateCall)
      (row twin : Order),
    world.createCalls[first]? = some one →
    world.createCalls[second]? = some other →
    insertedRow one = some row →
    insertedRow other = some twin →
    row.id = twin.id →
    first = second
  orders : ∀ order ∈ world.orders, order.id < world.nextOrderId
  nodup : (world.orders.map Order.id).Nodup
  uncommitted : ∀ (index : Nat) (call : CreateCall) (row : Order),
    world.createCalls[index]? = some call →
    uncommittedRow call = some row →
    ∀ order ∈ world.orders, order.id ≠ row.id

theorem idsFresh_init (origin : Instant) : IdsFresh (World.init origin) where
  inserted := by
    intro index call row found
    cases found
  distinct := by
    intro first second one other row twin found
    cases found
  orders := by
    intro order member
    cases member
  nodup := List.nodup_nil
  uncommitted := by
    intro index call row found
    cases found

/-- An id names at most one order. -/
theorem IdsFresh.unique {world : World} (fresh : IdsFresh world)
    {order twin : Order} (member : order ∈ world.orders)
    (memberTwin : twin ∈ world.orders) (sameId : order.id = twin.id) :
    order = twin :=
  List.inj_on_of_nodup_map fresh.nodup member memberTwin sameId

/-- A selection of orders with one id has at most one order. -/
theorem IdsFresh.filter_length_le_one {world : World}
    (fresh : IdsFresh world) {selects : Order → Bool} {id : OrderId}
    (same : ∀ order ∈ world.orders, selects order = true → order.id = id) :
    (world.orders.filter selects).length ≤ 1 := by
  have nodup : ((world.orders.filter selects).map Order.id).Nodup :=
    fresh.nodup.sublist (List.filter_sublist.map Order.id)
  have constant :
      (world.orders.filter selects).map Order.id =
        List.replicate (world.orders.filter selects).length id := by
    rw [← List.length_map Order.id]
    apply List.eq_replicate_of_mem
    intro other member
    obtain ⟨order, chosen, rfl⟩ := List.mem_map.mp member
    have facts := List.mem_filter.mp chosen
    exact same order facts.1 facts.2
  rw [constant] at nodup
  exact List.nodup_replicate.mp nodup

/-- `updateMany` counts one row exactly when the order is there and
`PENDING`. -/
theorem IdsFresh.pendingCount_eq_one_iff {world : World}
    (fresh : IdsFresh world) (orderId : OrderId) :
    pendingCount orderId world.orders = 1 ↔
      ∃ order ∈ world.orders,
        order.id = orderId ∧ order.status = .pending := by
  unfold pendingCount
  constructor
  · intro one
    obtain ⟨order, alone⟩ := List.length_eq_one_iff.mp one
    have chosen := List.mem_singleton_self order
    rw [← alone] at chosen
    have facts := List.mem_filter.mp chosen
    exact ⟨order, facts.1, of_decide_eq_true facts.2⟩
  · rintro ⟨order, member, facts⟩
    apply Nat.le_antisymm
    · apply fresh.filter_length_le_one
      intro other _ selected
      exact (of_decide_eq_true selected).1
    · apply List.length_pos_of_mem
      exact List.mem_filter.mpr ⟨member, decide_eq_true facts⟩

theorem mem_uncommitted {world : World} {row : Order} :
    row ∈ world.uncommitted ↔
      ∃ (index : Nat) (call : CreateCall),
        world.createCalls[index]? = some call ∧
          uncommittedRow call = some row := by
  simp only [World.uncommitted, List.mem_filterMap]
  constructor
  · rintro ⟨call, member, stillOpen⟩
    obtain ⟨index, found⟩ := List.mem_iff_getElem?.mp member
    exact ⟨index, call, found, stillOpen⟩
  · rintro ⟨index, call, found, stillOpen⟩
    exact ⟨call, List.mem_of_getElem? found, stillOpen⟩

theorem insertedRow_of_uncommittedRow {call : CreateCall} {row : Order}
    (uncommitted : uncommittedRow call = some row) :
    insertedRow call = some row := by
  unfold uncommittedRow at uncommitted
  split at uncommitted
  · next running => rw [insertedRow_of_running running, ← uncommitted]; rfl
  · next running => rw [insertedRow_of_running running, ← uncommitted]; rfl
  · cases uncommitted

/-- A row that is inserted after a step was inserted before it, or it is new
and took the next id. -/
theorem step_insertedRow {env : Environment} {world next : World}
    {action : Action} (stepped : step env world action = some next)
    {index : Nat} {call : CreateCall} {row : Order}
    (reached : next.createCalls[index]? = some call)
    (inserted : insertedRow call = some row) :
    (∃ earlier, world.createCalls[index]? = some earlier ∧
      insertedRow earlier = some row) ∨
    (row.id = world.nextOrderId ∧
      next.nextOrderId = world.nextOrderId + 1 ∧
      next.orders = world.orders ∧
      next.broker = world.broker ∧
      ∃ outcome, action = .createAwait index outcome) := by
  cases step_createCalls stepped reached with
  | kept _ _ found => exact Or.inl ⟨call, found, inserted⟩
  | requested input new =>
      rw [new] at inserted
      cases inserted
  | awaited outcome stage found awaited =>
      rcases insertedRow_of_await awaited inserted with
        kept | ⟨data, _, rfl, _, after⟩
      · exact Or.inl ⟨_, found, kept⟩
      · have drawn := congrArg Stores.nextOrderId after
        have sameOrders := congrArg Stores.orders after
        have sameBroker := congrArg Stores.broker after
        exact Or.inr ⟨rfl, drawn, sameOrders, sameBroker, outcome, rfl⟩

private theorem uncommittedRow_of_await {env : Environment}
    {uncommitted : List Order} {call : CreateCall} {stores after : Stores}
    {stage : CreateStage} {outcome : Await} {row : Order}
    (awaited :
      (createOrder env uncommitted call.input).await stores stage outcome =
        some (after, call.progress))
    (stillOpen : uncommittedRow call = some row) :
    stage = .extendHold row ∨ ∃ data, stage = .insertOrder data := by
  unfold uncommittedRow at stillOpen
  rcases createOrder_await awaited with ⟨_, resolved⟩ | failed | stopped
  · generalize call.progress = progress at *
    cases resolved with
    | inserted data => exact Or.inr ⟨data, rfl⟩
    | extended =>
        cases stillOpen
        exact Or.inl rfl
    | _ => cases stillOpen
  · rw [failed] at stillOpen
    cases stillOpen
  · rw [stopped] at stillOpen
    cases stillOpen

/-- The row of an open transaction was not in the table before the step. -/
theorem uncommitted_before {env : Environment} {world next : World}
    {action : Action} (fresh : IdsFresh world)
    (stepped : step env world action = some next)
    {index : Nat} {call : CreateCall} {row : Order}
    (reached : next.createCalls[index]? = some call)
    (stillOpen : uncommittedRow call = some row) :
    ∀ order ∈ world.orders, order.id ≠ row.id := by
  have inserted := insertedRow_of_uncommittedRow stillOpen
  cases step_createCalls stepped reached with
  | kept _ _ found => exact fresh.uncommitted index call row found stillOpen
  | requested input new =>
      rw [new] at stillOpen
      cases stillOpen
  | awaited outcome stage found awaited =>
      rcases uncommittedRow_of_await awaited stillOpen with rfl | ⟨data, rfl⟩
      · exact fresh.uncommitted index _ row found rfl
      · rcases insertedRow_of_await awaited inserted with
          kept | ⟨_, _, rfl, _, _⟩
        · cases kept
        · intro order member same
          have below := fresh.orders order member
          rw [same] at below
          exact lt_irrefl _ below

/-- A transaction that is open after a commit is another one, and it was open
before. -/
theorem open_beside_commit {env : Environment} {world next : World}
    {position : Nat} {outcome : Await}
    (stepped :
      step env world (.createAwait position outcome) = some next)
    {input : CreateOrderInput} {committed : Order}
    (found :
      world.createCalls[position]? =
        some ⟨input, .running (.commit committed)⟩)
    {index : Nat} {call : CreateCall} {row : Order}
    (reached : next.createCalls[index]? = some call)
    (stillOpen : uncommittedRow call = some row) :
    position ≠ index ∧ world.createCalls[index]? = some call := by
  cases step_createCalls stepped reached with
  | kept _ elsewhere kept =>
      refine ⟨?_, kept⟩
      intro samePosition
      subst samePosition
      exact elsewhere outcome rfl
  | awaited _ stage running awaited =>
      rw [found] at running
      injection running with sameCall
      injection sameCall with _ sameProgress
      injection sameProgress with sameStage
      subst sameStage
      rcases uncommittedRow_of_await awaited stillOpen with
        other | ⟨data, other⟩
      · cases other
      · cases other

private theorem IdsFresh.committed_ne_uncommitted {env : Environment}
    {world next : World} {position : Nat} {outcome : Await}
    (fresh : IdsFresh world)
    (stepped :
      step env world (.createAwait position outcome) = some next)
    {input : CreateOrderInput} {committed : Order}
    (found :
      world.createCalls[position]? =
        some ⟨input, .running (.commit committed)⟩)
    {index : Nat} {call : CreateCall} {row : Order}
    (reached : next.createCalls[index]? = some call)
    (stillOpen : uncommittedRow call = some row) :
    committed.id ≠ row.id := by
  intro sameId
  have beside := open_beside_commit stepped found reached stillOpen
  have samePosition : position = index :=
    fresh.distinct position index _ call committed row found beside.2 rfl
      (insertedRow_of_uncommittedRow stillOpen) sameId
  exact beside.1 samePosition

private theorem IdsFresh.uncommitted_step {env : Environment}
    {world next : World} {action : Action} (fresh : IdsFresh world)
    (stepped : step env world action = some next)
    {index : Nat} {call : CreateCall} {row : Order}
    (reached : next.createCalls[index]? = some call)
    (stillOpen : uncommittedRow call = some row) :
    ∀ order ∈ next.orders, order.id ≠ row.id := by
  have before := uncommitted_before fresh stepped reached stillOpen
  intro order member
  rcases (step_orders stepped).id_origin member with
    ⟨earlier, old, sameId⟩ | ⟨position, outcome, input, rfl, _, found⟩
  · rw [← sameId]
    exact before earlier old
  · exact fresh.committed_ne_uncommitted stepped found reached stillOpen

/-- The id of the row that a call has inserted. -/
def insertedId (call : CreateCall) : Option OrderId :=
  (insertedRow call).map Order.id

private theorem insertedId_eq_some {call : CreateCall} {id : OrderId} :
    insertedId call = some id ↔
      ∃ row, insertedRow call = some row ∧ row.id = id := by
  simp only [insertedId, Option.map_eq_some_iff]

private theorem IdsFresh.drawnOnce {world : World} (fresh : IdsFresh world) :
    DrawnOnce insertedId world.createCalls world.nextOrderId where
  below := by
    intro index call id found drawn
    obtain ⟨row, inserted, rfl⟩ := insertedId_eq_some.mp drawn
    exact fresh.inserted index call row found inserted
  once := by
    intro first second one other id found foundOther drawn drawnOther
    obtain ⟨row, inserted, rfl⟩ := insertedId_eq_some.mp drawn
    obtain ⟨twin, insertedTwin, sameId⟩ := insertedId_eq_some.mp drawnOther
    exact fresh.distinct first second one other row twin found foundOther
      inserted insertedTwin sameId.symm

private theorem IdsFresh.drawnOnce_step {env : Environment} {world next : World}
    {action : Action} (fresh : IdsFresh world)
    (stepped : step env world action = some next) :
    DrawnOnce insertedId next.createCalls next.nextOrderId := by
  have origin : ∀ (index : Nat) (call : CreateCall) (id : OrderId),
      next.createCalls[index]? = some call →
      insertedId call = some id →
      (∃ earlier, world.createCalls[index]? = some earlier ∧
        insertedId earlier = some id) ∨
      (id = world.nextOrderId ∧ world.nextOrderId < next.nextOrderId ∧
        action.createAwait?.map Prod.fst = some index) := by
    intro index call id reached drawn
    obtain ⟨row, inserted, rfl⟩ := insertedId_eq_some.mp drawn
    rcases step_insertedRow stepped reached inserted with
      ⟨earlier, found, before⟩ | ⟨newId, advanced, _, _, outcome, rfl⟩
    · exact Or.inl
        ⟨earlier, found, insertedId_eq_some.mpr ⟨row, before, rfl⟩⟩
    · have upwards : world.nextOrderId < next.nextOrderId :=
        advanced ▸ Nat.lt_succ_self world.nextOrderId
      exact Or.inr ⟨newId, upwards, rfl⟩
  exact fresh.drawnOnce.step (step_nextOrderId_le stepped) origin

theorem IdsFresh.orders_step {env : Environment} {world next : World}
    {action : Action} (fresh : IdsFresh world)
    (stepped : step env world action = some next) :
    ∀ order ∈ next.orders, order.id < next.nextOrderId := by
  have drawn := step_nextOrderId_le stepped
  intro order member
  rcases (step_orders stepped).id_origin member with
    ⟨earlier, old, sameId⟩ | ⟨index, outcome, input, _, _, found⟩
  · rw [← sameId]
    exact (fresh.orders earlier old).trans_le drawn
  · exact (fresh.inserted index _ order found rfl).trans_le drawn

private theorem IdsFresh.nodup_step {env : Environment} {world next : World}
    {action : Action} (fresh : IdsFresh world)
    (stepped : step env world action = some next) :
    (next.orders.map Order.id).Nodup := by
  have moved := step_orders stepped
  generalize next.orders = orders at moved
  cases moved with
  | unchanged => exact fresh.nodup
  | committed index outcome input row found applies =>
      have absent := fresh.uncommitted index _ row found rfl
      rw [List.map_append, List.map_singleton]
      refine List.nodup_append.mpr
        ⟨fresh.nodup, List.nodup_singleton _, ?_⟩
      intro id member other memberOther
      rw [List.mem_singleton] at memberOther
      obtain ⟨order, old, rfl⟩ := List.mem_map.mp member
      rw [memberOther]
      exact absent order old
  | marked index outcome request found applies =>
      have sameIds :
          Order.id ∘ expireIfPending request.orderId = Order.id := by
        funext order
        exact expireIfPending_id _ _
      rw [List.map_map, sameIds]
      exact fresh.nodup

theorem idsFresh_step {env : Environment} {world next : World}
    {action : Action} (fresh : IdsFresh world)
    (stepped : step env world action = some next) : IdsFresh next where
  inserted := by
    intro index call row reached inserted
    have drawn : insertedId call = some row.id :=
      insertedId_eq_some.mpr ⟨row, inserted, rfl⟩
    exact (fresh.drawnOnce_step stepped).below index call row.id reached drawn
  distinct := by
    intro first second one other row twin reachedFirst reachedSecond
      insertedFirst insertedSecond sameId
    have drawn : insertedId one = some row.id :=
      insertedId_eq_some.mpr ⟨row, insertedFirst, rfl⟩
    have drawnOther : insertedId other = some row.id :=
      insertedId_eq_some.mpr ⟨twin, insertedSecond, sameId.symm⟩
    exact (fresh.drawnOnce_step stepped).once first second one other row.id
      reachedFirst reachedSecond drawn drawnOther
  orders := fresh.orders_step stepped
  nodup := fresh.nodup_step stepped
  uncommitted := by
    intro index call row reached stillOpen
    exact fresh.uncommitted_step stepped reached stillOpen

end ConcertTicketing.Booking
