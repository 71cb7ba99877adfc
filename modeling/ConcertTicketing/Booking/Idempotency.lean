import ConcertTicketing.Booking.Confirmed

/-!
# Idempotent order creation

The unique constraint on user and key is the only guard of an idempotency key.
An insert waits for the open transactions with its key, so a key is taken by a
committed order, by an open transaction or by nobody; a call that meets the
constraint finds the order, because orders are never deleted.
-/

namespace ConcertTicketing.Booking

open SeatLock

/-- No two orders or open transactions share user and key. -/
structure KeysUnique (world : World) : Prop where
  table : ∀ order ∈ world.orders, ∀ twin ∈ world.orders,
    SameKey order.userId order.idempotencyKey twin →
    order.id = twin.id
  apart : ∀ (index : Nat) (call : CreateCall) (row : Order),
    world.createCalls[index]? = some call →
    uncommittedRow call = some row →
    ∀ order ∈ world.orders,
      ¬ SameKey row.userId row.idempotencyKey order
  alone : ∀ (first second : Nat) (one other : CreateCall)
      (row twin : Order),
    world.createCalls[first]? = some one →
    world.createCalls[second]? = some other →
    uncommittedRow one = some row →
    uncommittedRow other = some twin →
    SameKey row.userId row.idempotencyKey twin →
    first = second

private theorem keysUnique_init (origin : Instant) :
    KeysUnique (World.init origin) where
  table := by
    intro order member
    cases member
  apart := by
    intro index call row found
    cases found
  alone := by
    intro first second one other row twin found
    cases found

/-- An open transaction was open before the step, or the step has passed the
unique constraint with its key. -/
theorem step_uncommittedRow {env : Environment} {world next : World}
    {action : Action} (stepped : step env world action = some next)
    {index : Nat} {call : CreateCall} {row : Order}
    (reached : next.createCalls[index]? = some call)
    (stillOpen : uncommittedRow call = some row) :
    (∃ earlier, world.createCalls[index]? = some earlier ∧
      uncommittedRow earlier = some row) ∨
    ((∃ outcome, action = .createAwait index outcome) ∧
      row.id = world.nextOrderId ∧
      (∀ other ∈ world.uncommitted,
        ¬ SameKey row.userId row.idempotencyKey other) ∧
      ∀ order ∈ next.orders,
        ¬ SameKey row.userId row.idempotencyKey order) := by
  cases step_createCalls stepped reached with
  | kept _ _ found => exact Or.inl ⟨call, found, stillOpen⟩
  | requested input new =>
      rw [new] at stillOpen
      cases stillOpen
  | awaited outcome stage found awaited =>
      unfold uncommittedRow at stillOpen
      rcases createOrder_await awaited with ⟨_, resolved⟩ | failed | stopped
      · generalize call.progress = progress at stillOpen resolved
        generalize next.toStores = after at resolved ⊢
        cases resolved with
        | inserted data storable alone fresh =>
            cases stillOpen
            exact Or.inr ⟨⟨outcome, rfl⟩, rfl, alone,
              findByIdempotencyKey_eq_none_iff.mp fresh⟩
        | extended =>
            cases stillOpen
            exact Or.inl ⟨_, found, rfl⟩
        | _ => cases stillOpen
      · rw [failed] at stillOpen
        cases stillOpen
      · rw [stopped] at stillOpen
        cases stillOpen

namespace KeysUnique

variable {env : Environment} {world next : World} {action : Action}

private theorem table_step (unique : KeysUnique world)
    (stepped : step env world action = some next)
    {order twin : Order} (member : order ∈ next.orders)
    (memberTwin : twin ∈ next.orders)
    (sameKey : SameKey order.userId order.idempotencyKey twin) :
    order.id = twin.id := by
  have change := step_orders stepped
  rcases change.order_origin member with
    ⟨earlier, old, origin⟩ | ⟨index, outcome, input, ran, _, found⟩
  · rcases change.order_origin memberTwin with
      ⟨earlierTwin, oldTwin, originTwin⟩ |
        ⟨index, outcome, input, ran, _, found⟩
    · have sameBefore :
          SameKey earlier.userId earlier.idempotencyKey earlierTwin :=
        (origin.sameKey_iff.mp ⟨rfl, rfl⟩).congr
          (originTwin.sameKey_iff.mp sameKey)
      rw [origin.id_eq, originTwin.id_eq]
      exact unique.table earlier old earlierTwin oldTwin sameBefore
    · have sameBefore : SameKey twin.userId twin.idempotencyKey earlier :=
        sameKey.congr (origin.sameKey_iff.mp ⟨rfl, rfl⟩)
      exact absurd sameBefore
        (unique.apart index _ twin found rfl earlier old)
  · rcases change.order_origin memberTwin with
      ⟨earlierTwin, oldTwin, originTwin⟩ |
        ⟨indexTwin, outcomeTwin, inputTwin, ranTwin, _, foundTwin⟩
    · exact absurd (originTwin.sameKey_iff.mp sameKey)
        (unique.apart index _ order found rfl earlierTwin oldTwin)
    · rw [ran] at ranTwin
      injection ranTwin with samePosition
      subst samePosition
      rw [found] at foundTwin
      cases foundTwin
      rfl

private theorem apart_step (unique : KeysUnique world)
    (stepped : step env world action = some next)
    {index : Nat} {call : CreateCall} {row : Order}
    (reached : next.createCalls[index]? = some call)
    (stillOpen : uncommittedRow call = some row)
    {order : Order} (member : order ∈ next.orders) :
    ¬ SameKey row.userId row.idempotencyKey order := by
  intro sameKey
  rcases step_uncommittedRow stepped reached stillOpen with
    ⟨earlier, found, wasOpen⟩ | ⟨_, _, _, fresh⟩
  · rcases (step_orders stepped).order_origin member with
      ⟨before, old, origin⟩ |
        ⟨position, outcome, input, rfl, _, committing⟩
    · exact unique.apart index earlier row found wasOpen before old
        (origin.sameKey_iff.mp sameKey)
    · have beside := open_beside_commit stepped committing reached stillOpen
      have samePosition : position = index :=
        unique.alone position index _ call order row committing beside.2 rfl
          stillOpen (sameKey.congr ⟨rfl, rfl⟩)
      exact beside.1 samePosition
  · exact fresh order member sameKey

theorem alone_step (unique : KeysUnique world)
    (stepped : step env world action = some next) {first second : Nat}
    {one other : CreateCall} {row twin : Order}
    (reachedFirst : next.createCalls[first]? = some one)
    (reachedSecond : next.createCalls[second]? = some other)
    (openFirst : uncommittedRow one = some row)
    (openSecond : uncommittedRow other = some twin)
    (sameKey : SameKey row.userId row.idempotencyKey twin) :
    first = second := by
  rcases step_uncommittedRow stepped reachedFirst openFirst with
    ⟨earlier, found, wasOpen⟩ | ⟨⟨outcome, ran⟩, _, noneOpen, _⟩
  · rcases step_uncommittedRow stepped reachedSecond openSecond with
      ⟨earlierTwin, foundTwin, twinWasOpen⟩ | ⟨_, _, noneOpen, _⟩
    · exact unique.alone first second earlier earlierTwin row twin found
        foundTwin wasOpen twinWasOpen sameKey
    · have before : row ∈ world.uncommitted :=
        mem_uncommitted.mpr ⟨first, earlier, found, wasOpen⟩
      exact absurd (sameKey.congr ⟨rfl, rfl⟩) (noneOpen row before)
  · rcases step_uncommittedRow stepped reachedSecond openSecond with
      ⟨earlierTwin, foundTwin, twinWasOpen⟩ | ⟨⟨again, ranTwin⟩, _⟩
    · have before : twin ∈ world.uncommitted :=
        mem_uncommitted.mpr ⟨second, earlierTwin, foundTwin, twinWasOpen⟩
      exact absurd sameKey (noneOpen twin before)
    · rw [ran] at ranTwin
      injection ranTwin

end KeysUnique

private theorem keysUnique_step {env : Environment} {world next : World}
    {action : Action} (unique : KeysUnique world)
    (stepped : step env world action = some next) : KeysUnique next where
  table := by
    intro order member twin memberTwin sameKey
    exact unique.table_step stepped member memberTwin sameKey
  apart := by
    intro index call row reached stillOpen order member
    exact unique.apart_step stepped reached stillOpen member
  alone := by
    intro first second one other row twin reachedFirst reachedSecond
      openFirst openSecond sameKey
    exact unique.alone_step stepped reachedFirst reachedSecond openFirst
      openSecond sameKey

theorem Trace.keysUnique {env : Environment} {origin : Instant}
    {history : List (World × Action)} {world : World}
    (run : Trace (step env) (World.init origin) history world) :
    KeysUnique world :=
  Trace.invariant KeysUnique (keysUnique_init origin)
    (fun _ _ _ inductionHypothesis => keysUnique_step inductionHypothesis)
    run

/-- The order of the user and key is in the table, under the given id. -/
def HasOrder (orders : List Order) (userId : UserId)
    (idempotencyKey : String) (id : OrderId) : Prop :=
  ∃ order ∈ orders, SameKey userId idempotencyKey order ∧ order.id = id

theorem HasOrder.step {env : Environment} {world next : World}
    {action : Action} {userId : UserId} {idempotencyKey : String}
    {id : OrderId}
    (has : HasOrder world.orders userId idempotencyKey id)
    (stepped : step env world action = some next) :
    HasOrder next.orders userId idempotencyKey id := by
  obtain ⟨order, member, sameKey, sameId⟩ := has
  obtain ⟨later, inNext, origin⟩ := (step_orders stepped).order_next member
  exact ⟨later, inNext, origin.sameKey_iff.mpr sameKey,
    origin.id_eq.trans sameId⟩

/-- A call that looks its key up finds an order, and a call that publishes or
returns an order names the one of its user and key. -/
structure AnswersSound (world : World) : Prop where
  finding : ∀ (index : Nat) (call : CreateCall),
    world.createCalls[index]? = some call →
    call.progress.stage? = some .findByIdempotencyKey →
    ∃ id, HasOrder world.orders call.input.userId
      call.input.idempotencyKey id
  publishing : ∀ (index : Nat) (call : CreateCall) (row : Order),
    world.createCalls[index]? = some call →
    call.progress.stage? = some (.publishExpiration row) →
    HasOrder world.orders call.input.userId call.input.idempotencyKey row.id
  returned : ∀ (index : Nat) (call : CreateCall)
      (output : CreateOrderOutput),
    world.createCalls[index]? = some call →
    call.progress = .finished (.ok output) →
    HasOrder world.orders call.input.userId call.input.idempotencyKey
      output.order.id
  neverGone : ∀ (index : Nat) (call : CreateCall),
    world.createCalls[index]? = some call →
    call.progress ≠ .finished (.error (.orderKeyConsumed none))

private theorem answersSound_init (origin : Instant) :
    AnswersSound (World.init origin) where
  finding := by
    intro index call found
    cases found
  publishing := by
    intro index call row found
    cases found
  returned := by
    intro index call output found
    cases found
  neverGone := by
    intro index call found
    cases found

/-- A call looks its key up because the table has it. -/
theorem finding_of_await {env : Environment} {uncommitted : List Order}
    {input : CreateOrderInput} {stores after : Stores} {stage : CreateStage}
    {outcome : Await} {progress : CreateProgress}
    (awaited :
      (createOrder env uncommitted input).await stores stage outcome =
        some (after, progress))
    (reached : progress.stage? = some .findByIdempotencyKey) :
    stage = .findByIdempotencyKey ∨
      ∃ data, stage = .insertOrder data ∧
        (findByIdempotencyKey data.userId data.idempotencyKey
          stores.orders).isSome := by
  rcases createOrder_await awaited with ⟨_, resolved⟩ | failed | stopped
  · cases resolved with
    | duplicate data taken => exact Or.inr ⟨data, rfl, taken⟩
    | _ => cases reached
  · rw [failed] at reached
    cases reached
    exact Or.inl rfl
  · rw [stopped] at reached
    cases reached
    exact Or.inl rfl

/-- A call that ends with an answer publishes its order or has looked its key
up. -/
theorem answer_of_await {env : Environment} {uncommitted : List Order}
    {input : CreateOrderInput} {stores after : Stores} {stage : CreateStage}
    {outcome : Await} {progress : CreateProgress}
    {answer : Except OrderError CreateOrderOutput}
    (awaited :
      (createOrder env uncommitted input).await stores stage outcome =
        some (after, progress))
    (ended : progress = .finished answer) :
    (∃ error, answer = .error error ∧ error ≠ .orderKeyConsumed none) ∨
    (∃ row, stage = .publishExpiration row ∧
      answer = .ok ⟨toEntity row, false⟩) ∨
    (stage = .findByIdempotencyKey ∧
      answer =
        resolveReplay
          (findByIdempotencyKey input.userId input.idempotencyKey
            stores.orders)) := by
  subst ended
  rcases createOrder_await awaited with ⟨_, resolved⟩ | failed | stopped
  · cases resolved with
    | notHeld => exact Or.inl ⟨_, rfl, OrderError.noConfusion⟩
    | notPriceable => exact Or.inl ⟨_, rfl, OrderError.noConfusion⟩
    | rolledBack => exact Or.inl ⟨_, rfl, OrderError.noConfusion⟩
    | published row => exact Or.inr (Or.inl ⟨row, rfl, rfl⟩)
    | replayed => exact Or.inr (Or.inr ⟨rfl, rfl⟩)
  · cases failed
  · cases stopped

/-- A key in the table is found under the id of its order. -/
theorem KeysUnique.find_of_hasOrder {world : World}
    (unique : KeysUnique world) {userId : UserId} {idempotencyKey : String}
    {id : OrderId} (has : HasOrder world.orders userId idempotencyKey id) :
    ∃ order,
      findByIdempotencyKey userId idempotencyKey world.orders =
          some order ∧
        order ∈ world.orders ∧ order.id = id := by
  obtain ⟨row, member, sameKey, sameId⟩ := has
  cases found :
      findByIdempotencyKey userId idempotencyKey world.orders with
  | none =>
      exact absurd sameKey
        (findByIdempotencyKey_eq_none_iff.mp found row member)
  | some order =>
      have facts := findByIdempotencyKey_some found
      have oneId : order.id = row.id :=
        unique.table order facts.1 row member (facts.2.congr sameKey)
      exact ⟨order, rfl, facts.1, oneId.trans sameId⟩

namespace AnswersSound

variable {env : Environment} {world next : World} {action : Action}

private theorem finding_step (sound : AnswersSound world)
    (rows : RowsSound env world)
    (stepped : step env world action = some next)
    {index : Nat} {call : CreateCall}
    (reached : next.createCalls[index]? = some call)
    (current : call.progress.stage? = some .findByIdempotencyKey) :
    ∃ id, HasOrder next.orders call.input.userId
      call.input.idempotencyKey id := by
  have before : ∃ id, HasOrder world.orders call.input.userId
      call.input.idempotencyKey id := by
    cases step_createCalls stepped reached with
    | kept _ _ found => exact sound.finding index call found current
    | requested input new =>
        rw [new] at current
        cases current
    | awaited outcome stage found awaited =>
        rcases finding_of_await awaited current with
          rfl | ⟨data, rfl, taken⟩
        · have before := sound.finding index _ found rfl
          exact before
        · obtain ⟨order, hit⟩ := Option.isSome_iff_exists.mp taken
          have facts := findByIdempotencyKey_some hit
          rw [(rows.drafts index _ data found rfl).fields] at facts
          exact ⟨order.id, order, facts.1, facts.2, rfl⟩
  obtain ⟨id, has⟩ := before
  exact ⟨id, has.step stepped⟩

theorem publishing_step (sound : AnswersSound world)
    (rows : RowsSound env world)
    (stepped : step env world action = some next)
    {index : Nat} {call : CreateCall} {row : Order}
    (reached : next.createCalls[index]? = some call)
    (current : call.progress.stage? = some (.publishExpiration row)) :
    HasOrder next.orders call.input.userId call.input.idempotencyKey
      row.id := by
  cases step_createCalls stepped reached with
  | kept _ _ found =>
      exact (sound.publishing index call row found current).step stepped
  | requested input new =>
      rw [new] at current
      cases current
  | awaited outcome stage found awaited =>
      rcases publishing_of_await awaited current with
        rfl | ⟨rfl, committed⟩
      · have before := sound.publishing index _ row found rfl
        exact before.step stepped
      · have drafted := (rows.rows index _ row found rfl).1
        have inNext : row ∈ next.orders := by
          rw [congrArg Stores.orders committed]
          exact List.mem_append_right _ (List.mem_singleton_self row)
        exact ⟨row, inNext, ⟨drafted.userId, drafted.idempotencyKey⟩, rfl⟩

theorem returned_step (sound : AnswersSound world)
    (stepped : step env world action = some next)
    {index : Nat} {call : CreateCall} {output : CreateOrderOutput}
    (reached : next.createCalls[index]? = some call)
    (returned : call.progress = .finished (.ok output)) :
    HasOrder next.orders call.input.userId call.input.idempotencyKey
      output.order.id := by
  cases step_createCalls stepped reached with
  | kept _ _ found =>
      exact (sound.returned index call output found returned).step stepped
  | requested input new =>
      rw [new] at returned
      cases returned
  | awaited outcome stage found awaited =>
      rcases answer_of_await awaited returned with
        ⟨error, failed, _⟩ | ⟨row, rfl, published⟩ | ⟨rfl, replayed⟩
      · cases failed
      · cases published
        have before := sound.publishing index _ row found rfl
        exact before.step stepped
      · obtain ⟨order, hit, _, rfl⟩ := resolveReplay_ok replayed.symm
        have facts := findByIdempotencyKey_some hit
        have before :
            HasOrder world.orders call.input.userId
              call.input.idempotencyKey order.id :=
          ⟨order, facts.1, facts.2, rfl⟩
        exact before.step stepped

private theorem neverGone_step (sound : AnswersSound world)
    (unique : KeysUnique world)
    (stepped : step env world action = some next)
    {index : Nat} {call : CreateCall}
    (reached : next.createCalls[index]? = some call) :
    call.progress ≠ .finished (.error (.orderKeyConsumed none)) := by
  intro gone
  cases step_createCalls stepped reached with
  | kept _ _ found => exact sound.neverGone index call found gone
  | requested input new =>
      rw [new] at gone
      cases gone
  | awaited outcome stage found awaited =>
      rcases answer_of_await awaited gone with
        ⟨error, same, different⟩ | ⟨row, _, published⟩ | ⟨rfl, replayed⟩
      · injection same with sameError
        exact different sameError.symm
      · cases published
      · obtain ⟨id, has⟩ := sound.finding index _ found rfl
        obtain ⟨order, hit, _⟩ := unique.find_of_hasOrder has
        rw [hit] at replayed
        exact resolveReplay_some_ne_gone order replayed.symm

end AnswersSound

private theorem answersSound_step {env : Environment} {world next : World}
    {action : Action} (sound : AnswersSound world)
    (rows : RowsSound env world) (unique : KeysUnique world)
    (stepped : step env world action = some next) : AnswersSound next where
  finding := by
    intro index call reached current
    exact sound.finding_step rows stepped reached current
  publishing := by
    intro index call row reached current
    exact sound.publishing_step rows stepped reached current
  returned := by
    intro index call output reached returned
    exact sound.returned_step stepped reached returned
  neverGone := by
    intro index call reached
    exact sound.neverGone_step unique stepped reached

private theorem Trace.answersSound {env : Environment} {origin : Instant}
    {history : List (World × Action)} {world : World}
    (run : Trace (step env) (World.init origin) history world) :
    AnswersSound world := by
  refine Trace.invariantAlong AnswersSound (answersSound_init origin) ?_ run
  intro past before action after runBefore inductionHypothesis stepped
  exact answersSound_step inductionHypothesis (Trace.sound runBefore).rows
    (Trace.keysUnique runBefore) stepped

/-- The order that a call has inserted or returned as its own. -/
def createdId : CreateProgress → Option OrderId
  | .finished (.ok ⟨order, false⟩) => some order.id
  | progress => (progress.stage?.bind CreateStage.row?).map Order.id

/-- A step keeps the created order of a call or draws its id. -/
theorem createdId_of_await {env : Environment} {uncommitted : List Order}
    {input : CreateOrderInput} {stores after : Stores} {stage : CreateStage}
    {outcome : Await} {progress : CreateProgress} {id : OrderId}
    (awaited :
      (createOrder env uncommitted input).await stores stage outcome =
        some (after, progress))
    (created : createdId progress = some id) :
    createdId (.running stage) = some id ∨
      (id = stores.nextOrderId ∧
        after.nextOrderId = stores.nextOrderId + 1) := by
  rcases createOrder_await awaited with ⟨_, resolved⟩ | failed | stopped
  · cases resolved with
    | inserted data storable alone fresh =>
        cases created
        exact Or.inr ⟨rfl, rfl⟩
    | extended row => exact Or.inl created
    | committed row => exact Or.inl created
    | published row => exact Or.inl created
    | replayed =>
        cases answer :
            resolveReplay
              (findByIdempotencyKey input.userId input.idempotencyKey
                stores.orders) with
        | error refusal =>
            rw [answer] at created
            cases created
        | ok output =>
            obtain ⟨order, _, _, rfl⟩ := resolveReplay_ok answer
            rw [answer] at created
            cases created
    | _ => cases created
  · rw [failed] at created
    exact Or.inl created
  · rw [stopped] at created
    exact Or.inl created

private theorem step_createdId {env : Environment} {world next : World}
    {action : Action} (stepped : step env world action = some next)
    (index : Nat) (call : CreateCall) (id : OrderId)
    (reached : next.createCalls[index]? = some call)
    (created : createdId call.progress = some id) :
    (∃ earlier, world.createCalls[index]? = some earlier ∧
      createdId earlier.progress = some id) ∨
    (id = world.nextOrderId ∧ world.nextOrderId < next.nextOrderId ∧
      action.createAwait?.map Prod.fst = some index) := by
  cases step_createCalls stepped reached with
  | kept _ _ found => exact Or.inl ⟨call, found, created⟩
  | requested input new =>
      rw [new] at created
      cases created
  | awaited outcome stage found awaited =>
      rcases createdId_of_await awaited created with
        before | ⟨newId, advanced⟩
      · exact Or.inl ⟨_, found, before⟩
      · have upwards : world.nextOrderId < next.nextOrderId :=
          advanced ▸ Nat.lt_succ_self world.nextOrderId
        exact Or.inr ⟨newId, upwards, rfl⟩

/-- No two calls have created the same order. -/
theorem Trace.createdOnce {env : Environment} {origin : Instant}
    {history : List (World × Action)} {world : World}
    (run : Trace (step env) (World.init origin) history world) :
    DrawnOnce (fun call : CreateCall => createdId call.progress)
      world.createCalls world.nextOrderId := by
  refine Trace.invariant
    (fun reached : World =>
      DrawnOnce (fun call : CreateCall => createdId call.progress)
        reached.createCalls reached.nextOrderId) ?_ ?_ run
  · constructor
    · intro index call id found
      cases found
    · intro first second one other id found
      cases found
  · intro before action after inductionHypothesis stepped
    exact inductionHypothesis.step (step_nextOrderId_le stepped)
      (step_createdId stepped)

def ownRows (userId : UserId) (rows : List Order) : List Order :=
  rows.filter fun row => decide (row.userId = userId)

def Stores.own (userId : UserId) (stores : Stores) : Stores :=
  { stores with orders := ownRows userId stores.orders }

/-- The key of a user is on rows of the user only. -/
theorem ownRow_and_sameKey_iff (userId : UserId) (idempotencyKey : String)
    (order : Order) :
    (order.userId = userId ∧ SameKey userId idempotencyKey order) ↔
      SameKey userId idempotencyKey order :=
  and_iff_right_of_imp And.left

private theorem findByIdempotencyKey_ownRows (userId : UserId)
    (idempotencyKey : String) (orders : List Order) :
    findByIdempotencyKey userId idempotencyKey (ownRows userId orders) =
      findByIdempotencyKey userId idempotencyKey orders := by
  simp only [findByIdempotencyKey, ownRows, List.find?_filter,
    decide_eq_true_iff, ownRow_and_sameKey_iff]

private theorem any_sameKey_ownRows (userId : UserId) (idempotencyKey : String)
    (rows : List Order) :
    ((ownRows userId rows).any fun row =>
        decide (SameKey userId idempotencyKey row)) =
      rows.any fun row => decide (SameKey userId idempotencyKey row) := by
  simp only [ownRows, List.any_filter, ← Bool.decide_and,
    ownRow_and_sameKey_iff]

/-- The draft or row that the stage writes is the user's. -/
def CreateStage.WritesFor (userId : UserId) : CreateStage → Prop
  | .insertOrder data => data.userId = userId
  | .commit row => row.userId = userId
  | _ => True

private theorem createOrder_resolve_own (env : Environment)
    (uncommitted : List Order) (input : CreateOrderInput) (stores : Stores)
    {stage : CreateStage} (own : stage.WritesFor input.userId) :
    (createOrder env (ownRows input.userId uncommitted) input).resolve
        (stores.own input.userId) stage =
      ((createOrder env uncommitted input).resolve stores stage).map
        fun stepped => (stepped.1.own input.userId, stepped.2) := by
  cases stage with
  | verifyHeld => rfl
  | loadSeatPricing =>
      simp only [createOrder]
      cases loadSeatPricing env input.eventId input.seatIds <;> rfl
  | insertOrder data =>
      have sameUser : data.userId = input.userId := own
      simp only [createOrder, Stores.own, sameUser, any_sameKey_ownRows,
        findByIdempotencyKey_ownRows]
      split
      · rfl
      · split
        · rfl
        · split <;> rfl
  | extendHold row => rfl
  | commit row =>
      have sameUser : row.userId = input.userId := own
      have grown :
          ownRows input.userId (stores.orders ++ [row]) =
            ownRows input.userId stores.orders ++ [row] := by
        simp [ownRows, sameUser]
      simp only [createOrder, Stores.own, Option.map_some, grown]
  | publishExpiration row => rfl
  | findByIdempotencyKey =>
      simp only [createOrder, Stores.own, findByIdempotencyKey_ownRows,
        Option.map_some]

/-- A step of a call does the same when the orders of other users are left
out. -/
theorem createOrder_await_own (env : Environment)
    (uncommitted : List Order) (input : CreateOrderInput) (stores : Stores)
    {stage : CreateStage} (own : stage.WritesFor input.userId)
    (outcome : Await) :
    (createOrder env (ownRows input.userId uncommitted) input).await
        (stores.own input.userId) stage outcome =
      ((createOrder env uncommitted input).await stores stage outcome).map
        fun stepped => (stepped.1.own input.userId, stepped.2) := by
  have resolved := createOrder_resolve_own env uncommitted input stores own
  cases outcome with
  | resolves => exact resolved
  | rejects applied =>
      cases applied with
      | true =>
          simp only [AsyncFunction.await, resolved, Option.map_map]
          rfl
      | false => rfl
  | stops => rfl

private theorem RowsSound.writesFor {env : Environment} {world : World}
    (rows : RowsSound env world) {index : Nat} {input : CreateOrderInput}
    {stage : CreateStage}
    (found : world.createCalls[index]? = some ⟨input, .running stage⟩) :
    stage.WritesFor input.userId := by
  cases stage with
  | insertOrder data =>
      have draft := rows.drafts index _ data found rfl
      exact congrArg CreateOrderData.userId draft.fields
  | commit row => exact (rows.rows index _ row found rfl).1.userId
  | _ => exact trivial

/-! ## Idempotency over whole runs -/

/-- The orders with the user and key in one state: at most one row, under the
given id, which every call with the pair that returns an order returns. -/
structure OneOrder (userId : UserId) (idempotencyKey : String)
    (id : OrderId) (world : World) : Prop where
  row : ∀ order ∈ world.orders,
    SameKey userId idempotencyKey order → order.id = id
  atMostOne :
    (world.orders.filter fun order =>
      decide (SameKey userId idempotencyKey order)).length ≤ 1
  returned : ∀ call ∈ world.createCalls, ∀ output,
    call.input.userId = userId →
    call.input.idempotencyKey = idempotencyKey →
    call.progress = .finished (.ok output) →
    output.order.id = id ∧ HasOrder world.orders userId idempotencyKey id

/-- How the calls of a run with one user and key agree. -/
structure IdempotentCreation (env : Environment)
    (history : List (World × Action)) (world : World) : Prop where
  oneOrder : ∀ userId idempotencyKey, ∃ id,
    ∀ reached ∈ visited history world,
      OneOrder userId idempotencyKey id reached
  createdOnce : ∀ reached ∈ visited history world,
    ∀ (first second : Nat) (one other : CreateCall)
      (order twin : OrderEntity),
      reached.createCalls[first]? = some one →
      reached.createCalls[second]? = some other →
      one.input.userId = other.input.userId →
      one.input.idempotencyKey = other.input.idempotencyKey →
      one.progress = .finished (.ok ⟨order, false⟩) →
      other.progress = .finished (.ok ⟨twin, false⟩) →
      first = second
  neverGone : ∀ reached ∈ visited history world,
    ∀ call ∈ reached.createCalls,
      call.progress ≠ .finished (.error (.orderKeyConsumed none))
  undisturbed : ∀ reached ∈ visited history world,
    ∀ (index : Nat) (input : CreateOrderInput) (stage : CreateStage)
      (outcome : Await),
      reached.createCalls[index]? = some ⟨input, .running stage⟩ →
      (createOrder env (ownRows input.userId reached.uncommitted) input).await
          (reached.toStores.own input.userId) stage outcome =
        ((createOrder env reached.uncommitted input).await reached.toStores
            stage outcome).map
          fun stepped => (stepped.1.own input.userId, stepped.2)

/-- What one state of a run contributes. -/
theorem oneOrder_of_run {env : Environment} {origin : Instant}
    {history : List (World × Action)} {world : World}
    (run : Trace (step env) (World.init origin) history world)
    {userId : UserId} {idempotencyKey : String} {id : OrderId}
    (named : ∀ other,
      HasOrder world.orders userId idempotencyKey other → other = id) :
    OneOrder userId idempotencyKey id world where
  row := by
    intro order member sameKey
    exact named order.id ⟨order, member, sameKey, rfl⟩
  atMostOne := by
    apply (Trace.sound run).ids.filter_length_le_one
    intro order member selected
    exact named order.id ⟨order, member, of_decide_eq_true selected, rfl⟩
  returned := by
    intro call member output sameUser sameKey answered
    obtain ⟨index, found⟩ := List.mem_iff_getElem?.mp member
    have has :=
      (Trace.answersSound run).returned index call output found answered
    rw [sameUser, sameKey] at has
    have same := named output.order.id has
    exact ⟨same, same ▸ has⟩

private theorem KeysUnique.hasOrder_unique {world : World}
    (unique : KeysUnique world) {userId : UserId} {idempotencyKey : String}
    {first second : OrderId}
    (one : HasOrder world.orders userId idempotencyKey first)
    (other : HasOrder world.orders userId idempotencyKey second) :
    first = second := by
  obtain ⟨order, member, sameKey, rfl⟩ := one
  obtain ⟨twin, memberTwin, sameKeyTwin, rfl⟩ := other
  exact unique.table order member twin memberTwin (sameKey.congr sameKeyTwin)

/-- All orders of a run with one user and key have one id. -/
theorem oneOrder_of_visited {env : Environment} {origin : Instant}
    {history : List (World × Action)} {world : World}
    (run : Trace (step env) (World.init origin) history world)
    (userId : UserId) (idempotencyKey : String) :
    ∃ id, ∀ reached ∈ visited history world,
      OneOrder userId idempotencyKey id reached := by
  have named : ∃ id, ∀ other,
      HasOrder world.orders userId idempotencyKey other → other = id := by
    by_cases present : ∃ id, HasOrder world.orders userId idempotencyKey id
    · obtain ⟨id, has⟩ := present
      refine ⟨id, ?_⟩
      intro other hasOther
      exact (Trace.keysUnique run).hasOrder_unique hasOther has
    · exact ⟨0, fun other has => absurd ⟨other, has⟩ present⟩
  obtain ⟨id, named⟩ := named
  refine ⟨id, ?_⟩
  have collected : ∀ reached ∈ visited history world,
      (∀ other, HasOrder reached.orders userId idempotencyKey other →
        other = id) →
      OneOrder userId idempotencyKey id reached := by
    refine Trace.forall_reached ?_ run
    intro past current runHere
    exact oneOrder_of_run runHere
  intro reached member
  apply collected reached member
  intro other has
  have kept : HasOrder world.orders userId idempotencyKey other :=
    Trace.persists
      (fun current => HasOrder current.orders userId idempotencyKey other)
      (fun _ _ _ hasBefore stepped => hasBefore.step stepped) run reached
      member has
  exact named other kept

private theorem createdOnce_of_run {env : Environment} {origin : Instant}
    {history : List (World × Action)} {world : World}
    (run : Trace (step env) (World.init origin) history world)
    {first second : Nat} {one other : CreateCall} {order twin : OrderEntity}
    (foundFirst : world.createCalls[first]? = some one)
    (foundSecond : world.createCalls[second]? = some other)
    (sameUser : one.input.userId = other.input.userId)
    (sameKey : one.input.idempotencyKey = other.input.idempotencyKey)
    (returnedFirst : one.progress = .finished (.ok ⟨order, false⟩))
    (returnedSecond : other.progress = .finished (.ok ⟨twin, false⟩)) :
    first = second := by
  have answers := Trace.answersSound run
  have hasFirst := answers.returned first one _ foundFirst returnedFirst
  have hasSecond := answers.returned second other _ foundSecond returnedSecond
  rw [sameUser, sameKey] at hasFirst
  have sameId : order.id = twin.id :=
    (Trace.keysUnique run).hasOrder_unique hasFirst hasSecond
  have createdFirst : createdId one.progress = some order.id := by
    rw [returnedFirst]
    rfl
  have createdSecond : createdId other.progress = some order.id := by
    rw [returnedSecond, sameId]
    rfl
  exact (Trace.createdOnce run).once first second one other order.id
    foundFirst foundSecond createdFirst createdSecond

/-- In every run, calls with one user and key agree on one order. -/
theorem idempotentCreation_of_run {env : Environment} {origin : Instant}
    {history : List (World × Action)} {world : World}
    (run : Trace (step env) (World.init origin) history world) :
    IdempotentCreation env history world where
  oneOrder := oneOrder_of_visited run
  createdOnce := by
    refine Trace.forall_reached ?_ run
    intro past current runHere first second one other order twin foundFirst
      foundSecond sameUser sameKey returnedFirst returnedSecond
    exact createdOnce_of_run runHere foundFirst foundSecond sameUser sameKey
      returnedFirst returnedSecond
  neverGone := by
    refine Trace.forall_reached ?_ run
    intro past current runHere call member
    obtain ⟨index, found⟩ := List.mem_iff_getElem?.mp member
    exact (Trace.answersSound runHere).neverGone index call found
  undisturbed := by
    refine Trace.forall_reached ?_ run
    intro past current runHere index input stage outcome found
    exact createOrder_await_own env current.uncommitted input
      current.toStores ((Trace.sound runHere).rows.writesFor found) outcome

/-- Two calls of user 10 with one key: the second prices its seat while the
first has inserted its row, and replays the order of the first. -/
def racingRetries : List Action :=
  lockSeatRun 0 ⟨10, 1, 7⟩ ++
    [.createOrder ⟨10, 1, [7], "first"⟩,
      .createOrder ⟨10, 1, [7], "first"⟩] ++
    List.replicate 3 (.createAwait 0 .resolves) ++
      List.replicate 2 (.createAwait 1 .resolves) ++
        List.replicate 3 (.createAwait 0 .resolves) ++
          List.replicate 2 (.createAwait 1 .resolves)

private theorem racingRetries_enabled :
    (replay (step smallVenue) [] (World.init 0) racingRetries).isSome =
      true := by
  decide

theorem idempotentCreation_racingRetries :
    IdempotentCreation smallVenue
      ((replay (step smallVenue) [] (World.init 0) racingRetries).get
        racingRetries_enabled).1
      ((replay (step smallVenue) [] (World.init 0) racingRetries).get
        racingRetries_enabled).2 :=
  idempotentCreation_of_run
    (Trace.of_replay_get racingRetries racingRetries_enabled)

end ConcertTicketing.Booking
