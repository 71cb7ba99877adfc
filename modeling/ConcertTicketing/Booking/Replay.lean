import ConcertTicketing.Booking.Idempotency

/-!
# Replaying a used key

A key is looked up only after the hold check and pricing have passed, so a
retry with the key, the event and the seats of an earlier order is answered
from that order exactly when its user still, or again, holds all its seats.
-/

namespace ConcertTicketing.Booking

open SeatLock

/-- The amounts of inserted rows and orders fit their column. -/
structure AmountsStorable (world : World) : Prop where
  rows : ∀ (index : Nat) (call : CreateCall) (row : Order),
    world.createCalls[index]? = some call →
    insertedRow call = some row →
    Storable row.totalAmount
  orders : ∀ order ∈ world.orders, Storable order.totalAmount

private theorem amountsStorable_init (origin : Instant) :
    AmountsStorable (World.init origin) where
  rows := by
    intro index call row found
    cases found
  orders := by
    intro order member
    cases member

/-- An insert rejects amounts that do not fit. -/
theorem storable_of_inserted {env : Environment} {uncommitted : List Order}
    {input : CreateOrderInput} {stores after : Stores}
    {data : CreateOrderData} {outcome : Await} {row : Order}
    (awaited :
      (createOrder env uncommitted input).await stores (.insertOrder data)
          outcome =
        some (after, .running (.extendHold row))) :
    Storable data.totalAmount := by
  rcases createOrder_await awaited with ⟨_, resolved⟩ | failed | stopped
  · cases resolved with
    | inserted _ storable => exact storable
  · cases failed
  · cases stopped

private theorem amountsStorable_step {env : Environment} {world next : World}
    {action : Action} (storable : AmountsStorable world)
    (stepped : step env world action = some next) :
    AmountsStorable next where
  rows := by
    intro index call row reached inserted
    cases step_createCalls stepped reached with
    | kept _ _ found => exact storable.rows index call row found inserted
    | requested input new =>
        rw [new] at inserted
        cases inserted
    | awaited outcome stage found awaited =>
        rcases insertedRow_of_await awaited inserted with
          kept | ⟨data, rfl, rfl, progress, _⟩
        · exact storable.rows index _ row found kept
        · rw [progress] at awaited
          exact storable_of_inserted awaited
  orders := by
    intro order member
    rcases (step_orders stepped).order_origin member with
      ⟨earlier, old, origin⟩ | ⟨index, outcome, input, _, _, found⟩
    · rw [origin.totalAmount_eq]
      exact storable.orders earlier old
    · exact storable.rows index _ order found rfl

private theorem Trace.amountsStorable {env : Environment} {origin : Instant}
    {history : List (World × Action)} {world : World}
    (run : Trace (step env) (World.init origin) history world) :
    AmountsStorable world :=
  Trace.invariant AmountsStorable (amountsStorable_init origin)
    (fun _ _ _ inductionHypothesis => amountsStorable_step inductionHypothesis)
    run

/-- The items of an order are the prices of its seats. -/
theorem Drafted.priced {env : Environment} {now : Instant}
    {input : CreateOrderInput} {row : Order}
    (drafted : Drafted env now input row) :
    ∃ data : CreateOrderData,
      loadSeatPricing env row.eventId row.seatIds = .ok data.items ∧
        row.totalAmount = data.totalAmount := by
  have seats := drafted.seatIds
  have event := drafted.eventId
  obtain ⟨data, draft, same⟩ := drafted
  refine ⟨data, ?_, ?_⟩
  · rw [seats, event]
    exact draft.priced
  · rw [same]
    rfl

/-- The seats of an order are priceable in any order, at the same total. -/
theorem priced_again {env : Environment} {world : World}
    (rows : RowsSound env world) (storable : AmountsStorable world)
    {order : Order} (member : order ∈ world.orders) {seatIds : List SeatId}
    (sameSeats : seatIds.Perm order.seatIds) :
    ∃ items, loadSeatPricing env order.eventId seatIds = .ok items ∧
      ∀ data : CreateOrderData,
        data.items = items → Storable data.totalAmount := by
  obtain ⟨input, drafted⟩ := rows.orders order member
  obtain ⟨stored, priced, total⟩ := drafted.priced
  obtain ⟨items, each, reordered⟩ :=
    List.perm_comp_forall₂ sameSeats (loadSeatPricing_ok_iff.mp priced)
  refine ⟨items, loadSeatPricing_ok_iff.mpr each, ?_⟩
  intro data same
  have sameTotal : data.totalAmount = stored.totalAmount :=
    CreateOrderData.totalAmount_perm (same ▸ reordered)
  rw [sameTotal, ← total]
  exact storable.orders order member

/-- The world with one more `CreateOrder` request. -/
def World.requestOrder (world : World) (input : CreateOrderInput) : World :=
  { world with
    createCalls := world.createCalls ++ [⟨input, .running .verifyHeld⟩] }

private theorem step_requestOrder (env : Environment) (world : World)
    (input : CreateOrderInput) :
    step env world (.createOrder input) = some (world.requestOrder input) :=
  rfl

private theorem requestOrder_getElem? (world : World)
    (input : CreateOrderInput) :
    (world.requestOrder input).createCalls[world.createCalls.length]? =
      some ⟨input, .running .verifyHeld⟩ := by
  simp [World.requestOrder]

/-- The request has the user, the key, the event and the seats of the
order. -/
structure Retries (input : CreateOrderInput) (order : Order) : Prop where
  sameKey : SameKey input.userId input.idempotencyKey order
  sameEvent : input.eventId = order.eventId
  sameSeats : input.seatIds.Perm order.seatIds

/-- The order is as it was, and no remote call of the create call fails. -/
def Calm (order : Order) (index : Nat) (world : World) (action : Action) :
    Prop :=
  order ∈ world.orders ∧
    ∀ awaited ∈ action.createAwait?,
      awaited.1 = index → awaited.2 = .resolves

instance (order : Order) (index : Nat) (world : World) (action : Action) :
    Decidable (Calm order index world action) :=
  inferInstanceAs
    (Decidable (_ ∧ ∀ awaited ∈ action.createAwait?, _ → _))

/-- The step is the hold check of the call and finds all seats locked by the
user. -/
def ChecksHeld (index : Nat) (input : CreateOrderInput) (world : World)
    (action : Action) : Prop :=
  action = .createAwait index .resolves ∧
    world.createCalls[index]? = some ⟨input, .running .verifyHeld⟩ ∧
    AllHeld world.redis input.eventId input.seatIds input.userId

/-- All seats were locked by the user when the hold check of the call ran. -/
def HeldAtCheck (index : Nat) (input : CreateOrderInput)
    (history : List (World × Action)) : Prop :=
  ∃ entry ∈ history, ChecksHeld index input entry.1 entry.2

private theorem heldAtCheck_cons {index : Nat} {input : CreateOrderInput}
    {entry : World × Action} {history : List (World × Action)} :
    HeldAtCheck index input (entry :: history) ↔
      ChecksHeld index input entry.1 entry.2 ∨
        HeldAtCheck index input history := by
  simp only [HeldAtCheck, List.exists_mem_cons_iff]

/-- How many remote calls of the create call have ended. -/
def awaitsOf (index : Nat) (history : List (World × Action)) : Nat :=
  history.countP fun entry =>
    decide (entry.2.createAwait?.map Prod.fst = some index)

/-- What a used key promises: a `PENDING` order is replayed, and any other
order has consumed the key. -/
structure ReplayContract (order : Order)
    (answer : Except OrderError CreateOrderOutput) : Prop where
  pending : order.status = .pending → answer = .ok ⟨toEntity order, true⟩
  consumed : order.status ≠ .pending →
    ∃ existing, answer = .error (.orderKeyConsumed existing)

private theorem replayContract_resolveReplay (order : Order) :
    ReplayContract order (resolveReplay (some order)) where
  pending := by
    intro pending
    have isPending : (toEntity order).isPending = true :=
      decide_eq_true pending
    simp only [resolveReplay, if_pos isPending]
  consumed := by
    intro settled
    have notPending : ¬ (toEntity order).isPending = true := by
      intro isPending
      exact settled (of_decide_eq_true isPending)
    simp only [resolveReplay, if_neg notPending]
    exact ⟨_, rfl⟩

private theorem not_replayContract_seatHoldExpired (order : Order)
    (seatIds : List SeatId) :
    ¬ ReplayContract order (.error (.seatHoldExpired seatIds)) := by
  intro contract
  by_cases pending : order.status = .pending
  · cases contract.pending pending
  · obtain ⟨existing, same⟩ := contract.consumed pending
    cases same

/-- Where the retry of an order is after so many awaits, given whether its
hold check has succeeded. -/
def RetryAt (order : Order) (held : Prop) (awaits : Nat) :
    CreateProgress → Prop
  | .running .verifyHeld => ¬ held ∧ awaits = 0
  | .running .loadSeatPricing => held ∧ awaits = 1
  | .running (.insertOrder data) =>
      held ∧ awaits = 2 ∧
        SameKey data.userId data.idempotencyKey order ∧
        Storable data.totalAmount
  | .running .findByIdempotencyKey => held ∧ awaits = 3
  | .finished answer =>
      (held ∧ answer = resolveReplay (some order)) ∨
        (¬ held ∧ ∃ seatIds, answer = .error (.seatHoldExpired seatIds))
  | _ => False

/-- What is known of a reachable world in which the order is there. -/
structure OrderKnown (env : Environment) (world : World) (order : Order) :
    Prop where
  member : order ∈ world.orders
  rows : RowsSound env world
  ids : IdsFresh world
  unique : KeysUnique world
  storable : AmountsStorable world

/-- The key of the order finds the order. -/
theorem OrderKnown.find {env : Environment} {world : World} {order : Order}
    (known : OrderKnown env world order) {userId : UserId}
    {idempotencyKey : String}
    (sameKey : SameKey userId idempotencyKey order) :
    findByIdempotencyKey userId idempotencyKey world.orders = some order := by
  have has : HasOrder world.orders userId idempotencyKey order.id :=
    ⟨order, known.member, sameKey, rfl⟩
  obtain ⟨found, hit, inTable, sameId⟩ := known.unique.find_of_hasOrder has
  rw [hit, known.ids.unique inTable known.member sameId]

/-- No open transaction has the key of the order. -/
theorem OrderKnown.alone {env : Environment} {world : World} {order : Order}
    (known : OrderKnown env world order) {userId : UserId}
    {idempotencyKey : String}
    (sameKey : SameKey userId idempotencyKey order) :
    ∀ row ∈ world.uncommitted, ¬ SameKey userId idempotencyKey row := by
  intro row member sameRow
  obtain ⟨index, call, found, stillOpen⟩ := mem_uncommitted.mp member
  exact known.unique.apart index call row found stillOpen order known.member
    (sameRow.congr sameKey)

theorem RetryAt.resolved {env : Environment} {world : World} {order : Order}
    (known : OrderKnown env world order) {input : CreateOrderInput}
    (retries : Retries input order) {stage : CreateStage}
    {progress : CreateProgress} {after : Stores} {held : Prop} {awaits : Nat}
    (resolved :
      CreateResolved env world.uncommitted input world.toStores stage after
        progress)
    (current : RetryAt order held awaits (.running stage)) :
    RetryAt order
      ((stage = .verifyHeld ∧
        AllHeld world.redis input.eventId input.seatIds input.userId) ∨ held)
      (awaits + 1) progress := by
  cases resolved with
  | verified allHeld =>
      exact ⟨Or.inl ⟨rfl, allHeld⟩, congrArg Nat.succ current.2⟩
  | notHeld seatIds lost =>
      refine Or.inr ⟨?_, seatIds, rfl⟩
      rintro (⟨_, allHeld⟩ | held)
      · exact lost allHeld
      · exact current.1 held
  | priced pricing loaded =>
      obtain ⟨items, again, storable⟩ :=
        priced_again known.rows known.storable known.member retries.sameSeats
      rw [← retries.sameEvent, loaded] at again
      cases again
      exact ⟨Or.inr current.1, congrArg Nat.succ current.2, retries.sameKey,
        storable _ rfl⟩
  | notPriceable seatId refused =>
      obtain ⟨items, again, _⟩ :=
        priced_again known.rows known.storable known.member retries.sameSeats
      rw [← retries.sameEvent, refused] at again
      cases again
  | notStorable data overflow => exact absurd current.2.2.2 overflow
  | duplicate data taken =>
      exact ⟨Or.inr current.1, congrArg Nat.succ current.2.1⟩
  | inserted data storable alone fresh =>
      rw [known.find current.2.2.1] at fresh
      cases fresh
  | replayed =>
      rw [known.find retries.sameKey]
      exact Or.inl ⟨Or.inr current.1, rfl⟩
  | _ => exact current.elim

private theorem awaitsOf_cons_self (index : Nat) (outcome : Await)
    (world : World) (history : List (World × Action)) :
    awaitsOf index ((world, .createAwait index outcome) :: history) =
      awaitsOf index history + 1 := by
  simp [awaitsOf, Action.createAwait?]

private theorem awaitsOf_cons_elsewhere {index : Nat} {world : World}
    {action : Action} (elsewhere : ∀ outcome, action ≠ .createAwait index outcome)
    (history : List (World × Action)) :
    awaitsOf index ((world, action) :: history) = awaitsOf index history := by
  unfold awaitsOf
  apply List.countP_cons_of_neg
  intro counted
  have drawn := of_decide_eq_true counted
  cases action with
  | createAwait position outcome =>
      have samePosition : position = index := Option.some.inj drawn
      exact elsewhere outcome (samePosition ▸ rfl)
  | _ => cases drawn

/-- One step of the system from a state in which the retry is at some
stage. -/
theorem retryAt_step {env : Environment} {world next : World}
    {action : Action} {order : Order} {input : CreateOrderInput}
    {index : Nat} {history : List (World × Action)}
    {progress : CreateProgress} (known : OrderKnown env world order)
    (retries : Retries input order) (calm : Calm order index world action)
    (stepped : step env world action = some next)
    (found : world.createCalls[index]? = some ⟨input, progress⟩)
    (current :
      RetryAt order (HeldAtCheck index input history)
        (awaitsOf index history) progress) :
    ∃ after, next.createCalls[index]? = some ⟨input, after⟩ ∧
      RetryAt order (HeldAtCheck index input ((world, action) :: history))
        (awaitsOf index ((world, action) :: history)) after := by
  obtain ⟨call, reached, sameInput, moved⟩ := step_createCall stepped found
  refine ⟨call.progress, ?_, ?_⟩
  · rw [reached, ← (show call.input = input from sameInput)]
  · rcases moved with
      ⟨elsewhere, same⟩ | ⟨outcome, stage, rfl, rfl, awaited⟩
    · have unchecked : ¬ ChecksHeld index input world action :=
        fun checks => elsewhere .resolves checks.1
      rw [awaitsOf_cons_elsewhere elsewhere, heldAtCheck_cons, same,
        propext (or_iff_right unchecked)]
      exact current
    · have resolves : outcome = .resolves :=
        calm.2 (index, outcome) rfl rfl
      subst resolves
      have checks :
          ChecksHeld index input world (.createAwait index .resolves) ↔
            stage = .verifyHeld ∧
              AllHeld world.redis input.eventId input.seatIds
                input.userId := by
        unfold ChecksHeld
        rw [found]
        simp
      rw [awaitsOf_cons_self, heldAtCheck_cons, propext checks]
      exact RetryAt.resolved known retries (createOrder_resolved awaited) current

/-- The retry can go on as long as it has not answered. -/
theorem RetryAt.enabled {env : Environment} {world : World} {order : Order}
    (known : OrderKnown env world order) {input : CreateOrderInput}
    {stage : CreateStage} {index awaits : Nat} {held : Prop}
    (found : world.createCalls[index]? = some ⟨input, .running stage⟩)
    (current : RetryAt order held awaits (.running stage)) :
    (step env world (.createAwait index .resolves)).isSome ∧ awaits < 4 := by
  cases stage with
  | verifyHeld =>
      have few : awaits = 0 := current.2
      exact ⟨step_createAwait_isSome found rfl, by omega⟩
  | loadSeatPricing =>
      have few : awaits = 1 := current.2
      refine ⟨step_createAwait_isSome found ?_, by omega⟩
      simp only [createOrder]
      cases loadSeatPricing env input.eventId input.seatIds <;> rfl
  | insertOrder data =>
      have few : awaits = 2 := current.2.1
      refine ⟨step_createAwait_isSome found ?_, by omega⟩
      have alone := known.alone current.2.2.1
      simpa [createOrder, current.2.2.2, known.find current.2.2.1]
        using alone
  | findByIdempotencyKey =>
      have few : awaits = 3 := current.2
      exact ⟨step_createAwait_isSome found rfl, by omega⟩
  | extendHold row => exact current.elim
  | commit row => exact current.elim
  | publishExpiration row => exact current.elim

/-- A retry that has answered met the contract exactly if its hold check has
succeeded. -/
theorem RetryAt.contract_iff {order : Order} {held : Prop} {awaits : Nat}
    {answer : Except OrderError CreateOrderOutput}
    (current : RetryAt order held awaits (.finished answer)) :
    ReplayContract order answer ↔ held := by
  rcases current with ⟨isHeld, rfl⟩ | ⟨lost, seatIds, rfl⟩
  · exact iff_of_true (replayContract_resolveReplay order) isHeld
  · exact iff_of_false (not_replayContract_seatHoldExpired order seatIds) lost

/-- The retry has not answered, can go on and takes no more than four awaits,
or it has answered, and as the contract says exactly if all its seats were
held by its user when its hold check ran. -/
inductive RetryOutcome (env : Environment) (order : Order)
    (input : CreateOrderInput) (index : Nat)
    (history : List (World × Action)) (world : World) : Prop
  | goesOn (stage : CreateStage)
      (running : world.createCalls[index]? = some ⟨input, .running stage⟩)
      (enabled : (step env world (.createAwait index .resolves)).isSome)
      (bounded : awaitsOf index history < 4)
  | answered (answer : Except OrderError CreateOrderOutput)
      (finished : world.createCalls[index]? = some ⟨input, .finished answer⟩)
      (exact : ReplayContract order answer ↔ HeldAtCheck index input history)

private theorem Trace.orderKnown {env : Environment} {origin : Instant}
    {history : List (World × Action)} {world : World}
    (run : Trace (step env) (World.init origin) history world)
    {order : Order} (member : order ∈ world.orders) :
    OrderKnown env world order where
  member := member
  rows := (Trace.sound run).rows
  ids := (Trace.sound run).ids
  unique := Trace.keysUnique run
  storable := Trace.amountsStorable run

/-- A retry that nothing disturbs is where `RetryAt` says, in every run. -/
theorem Trace.retryAt {env : Environment} {origin : Instant}
    {older newer : List (World × Action)} {start world : World}
    {order : Order} {input : CreateOrderInput}
    (past : Trace (step env) (World.init origin) older
      (start.requestOrder input))
    (retries : Retries input order)
    (run : Trace (step env) (start.requestOrder input) newer world)
    (calm : StepsMeet (Calm order start.createCalls.length) newer) :
    ∃ progress,
      world.createCalls[start.createCalls.length]? =
          some ⟨input, progress⟩ ∧
        RetryAt order (HeldAtCheck start.createCalls.length input newer)
          (awaitsOf start.createCalls.length newer) progress := by
  refine Trace.invariantWith (Calm order start.createCalls.length)
    (fun history current => ∃ progress,
      current.createCalls[start.createCalls.length]? =
          some ⟨input, progress⟩ ∧
        RetryAt order (HeldAtCheck start.createCalls.length input history)
          (awaitsOf start.createCalls.length history) progress)
    ?_ ?_ run calm
  · refine ⟨.running .verifyHeld, requestOrder_getElem? start input, ?_, rfl⟩
    rintro ⟨entry, member, _⟩
    cases member
  · rintro history before action after runBefore ⟨progress, found, current⟩
      calmHere stepped
    have known := Trace.orderKnown (past.append runBefore) calmHere.1
    exact retryAt_step known retries calmHere stepped found current

/-- In every run from a request that retries an order of a reachable state,
with the order unchanged and no remote call of the request failing, the
request ends, and with the promised answer exactly if all seats were held by
the user when its hold check ran. -/
theorem replayContract_iff_heldAtCheck {env : Environment} {origin : Instant}
    {older newer : List (World × Action)} {start world : World}
    {order : Order} {input : CreateOrderInput}
    (past : Trace (step env) (World.init origin) older start)
    (retries : Retries input order)
    (run : Trace (step env) (start.requestOrder input) newer world)
    (calm : StepsMeet (Calm order start.createCalls.length) newer)
    (unchanged : order ∈ world.orders) :
    RetryOutcome env order input start.createCalls.length newer world := by
  have requested : Trace (step env) (World.init origin)
      ((start, .createOrder input) :: older) (start.requestOrder input) :=
    past.snoc (step_requestOrder env start input)
  obtain ⟨progress, found, current⟩ :=
    Trace.retryAt requested retries run calm
  have known := Trace.orderKnown (requested.append run) unchanged
  cases progress with
  | running stage =>
      have possible := RetryAt.enabled known found current
      exact .goesOn stage found possible.1 possible.2
  | finished answer => exact .answered answer found current.contract_iff
  | failed stage applied => exact current.elim
  | stopped stage => exact current.elim

def orderSeat : List Action :=
  lockSeatRun 0 ⟨10, 1, 7⟩ ++ createOrderRun 0 ⟨10, 1, [7], "first"⟩

private theorem orderSeat_enabled :
    (replay (step smallVenue) [] (World.init 0) orderSeat).isSome = true := by
  decide

def orderedWorld : World :=
  ((replay (step smallVenue) [] (World.init 0) orderSeat).get
    orderSeat_enabled).2

def placedOrder : Order :=
  ⟨0, 10, 1, "first", .pending, 5000, 900000, [⟨some 7, 3, 5000⟩]⟩

def replayAwaits : List Action :=
  List.replicate 4 (.createAwait 1 .resolves)

private theorem replayAwaits_enabled :
    (replay (step smallVenue) []
      (orderedWorld.requestOrder ⟨10, 1, [7], "first"⟩)
      replayAwaits).isSome = true := by
  decide

theorem replayContract_replayAwaits :
    RetryOutcome smallVenue placedOrder ⟨10, 1, [7], "first"⟩
      orderedWorld.createCalls.length
      ((replay (step smallVenue) []
        (orderedWorld.requestOrder ⟨10, 1, [7], "first"⟩) replayAwaits).get
        replayAwaits_enabled).1
      ((replay (step smallVenue) []
        (orderedWorld.requestOrder ⟨10, 1, [7], "first"⟩) replayAwaits).get
        replayAwaits_enabled).2 :=
  replayContract_iff_heldAtCheck
    (Trace.of_replay_get orderSeat orderSeat_enabled)
    ⟨by decide, rfl, List.Perm.refl _⟩
    (Trace.of_replay_get replayAwaits replayAwaits_enabled) (by decide)
    (by decide)

def orderAndLapse : List Action := orderSeat ++ [.tick 900000]

private theorem orderAndLapse_enabled :
    (replay (step smallVenue) [] (World.init 0) orderAndLapse).isSome =
      true := by
  decide

def orderLapsedWorld : World :=
  ((replay (step smallVenue) [] (World.init 0) orderAndLapse).get
    orderAndLapse_enabled).2

private theorem checkAfterLapse_enabled :
    (replay (step smallVenue) []
      (orderLapsedWorld.requestOrder ⟨10, 1, [7], "first"⟩)
      [.createAwait 1 .resolves]).isSome = true := by
  decide

/-- A retry can be refused at its hold check. -/
theorem replay_refused_reachable :
    ¬ ∀ (env : Environment) (origin : Instant)
        (older newer : List (World × Action)) (start world : World)
        (order : Order) (input : CreateOrderInput)
        (answer : Except OrderError CreateOrderOutput),
      Trace (step env) (World.init origin) older start →
      order ∈ start.orders →
      Retries input order →
      Trace (step env) (start.requestOrder input) newer world →
      StepsMeet (Calm order start.createCalls.length) newer →
      order ∈ world.orders →
      world.createCalls[start.createCalls.length]? =
        some ⟨input, .finished answer⟩ →
      ReplayContract order answer := by
  intro always
  have refused :
      ((replay (step smallVenue) []
        (orderLapsedWorld.requestOrder ⟨10, 1, [7], "first"⟩)
        [.createAwait 1 .resolves]).get
          checkAfterLapse_enabled).2.createCalls[
            orderLapsedWorld.createCalls.length]? =
        some ⟨⟨10, 1, [7], "first"⟩,
          .finished (.error (.seatHoldExpired [7]))⟩ := by
    decide
  have contract :=
    always smallVenue 0 _ _ orderLapsedWorld _ placedOrder
      ⟨10, 1, [7], "first"⟩ _
      (Trace.of_replay_get orderAndLapse orderAndLapse_enabled) (by decide)
      ⟨by decide, rfl, List.Perm.refl _⟩
      (Trace.of_replay_get _ checkAfterLapse_enabled) (by decide)
      (by decide) refused
  exact not_replayContract_seatHoldExpired placedOrder [7] contract

end ConcertTicketing.Booking
