import ConcertTicketing.Booking.Expiry

/-!
# Orders without a timer

The row commits before the message is published, and a replay returns the row
of another call without publishing.  A returned order has its timer exactly
when no replay returns a `PENDING` order whose own call has not published.
-/

namespace ConcertTicketing.Booking

/-- Every returned order that is `PENDING` has had its message accepted. -/
def TimersSet (world : World) : Prop :=
  ∀ call ∈ world.createCalls, ∀ output,
    call.progress = .finished (.ok output) →
    output.order.status = .pending →
    output.order.id ∈ world.broker.accepted

/-- The committed row of a call that waits for its publish, or ended without
it. -/
def unarmedRow (call : CreateCall) : Option Order :=
  match call.progress with
  | .running (.publishExpiration row) => some row
  | .stopped (.publishExpiration row) => some row
  | .failed (.publishExpiration row) false => some row
  | .failed (.commit row) true => some row
  | _ => none

def World.unarmed (world : World) : List Order :=
  world.createCalls.filterMap unarmedRow

/-- A replay that returns a `PENDING` order returns one whose message has been
published. -/
def ReplaysArmed (world : World) (action : Action) : Prop :=
  ∀ await ∈ action.createAwait?,
    await.2 = .resolves →
    ∀ call ∈ Call.runningAt world.createCalls await.1,
      call.2 = .findByIdempotencyKey →
      ∀ order ∈
          findByIdempotencyKey call.1.userId call.1.idempotencyKey
            world.orders,
        order.status = .pending →
        ∀ row ∈ world.unarmed, row.id ≠ order.id

instance (world : World) (action : Action) :
    Decidable (ReplaysArmed world action) :=
  inferInstanceAs
    (Decidable
      (∀ await ∈ action.createAwait?,
        _ → ∀ call ∈ Call.runningAt world.createCalls await.1,
          _ → ∀ order ∈
              findByIdempotencyKey call.1.userId call.1.idempotencyKey
                world.orders,
            _ → ∀ row ∈ world.unarmed, _))

private theorem insertedRow_of_unarmedRow {call : CreateCall} {row : Order}
    (unarmed : unarmedRow call = some row) :
    insertedRow call = some row := by
  unfold unarmedRow at unarmed
  unfold insertedRow
  split at unarmed
  · next progress => rw [progress, ← unarmed]; rfl
  · next progress => rw [progress, ← unarmed]; rfl
  · next progress => rw [progress, ← unarmed]; rfl
  · next progress => rw [progress, ← unarmed]; rfl
  · cases unarmed

private theorem mem_unarmed {world : World} {row : Order} :
    row ∈ world.unarmed ↔
      ∃ (index : Nat) (call : CreateCall),
        world.createCalls[index]? = some call ∧
          unarmedRow call = some row := by
  unfold World.unarmed
  rw [List.mem_filterMap]
  constructor
  · rintro ⟨call, member, unarmed⟩
    obtain ⟨index, found⟩ := List.mem_iff_getElem?.mp member
    exact ⟨index, call, found, unarmed⟩
  · rintro ⟨index, call, found, unarmed⟩
    exact ⟨call, List.mem_of_getElem? found, unarmed⟩

/-- A committed order has its message accepted, or it is unarmed, not both. -/
structure ArmedOrNot (world : World) : Prop where
  cover : ∀ order ∈ world.orders,
    order.id ∈ world.broker.accepted ∨
      ∃ row ∈ world.unarmed, row.id = order.id
  exclusive : ∀ row ∈ world.unarmed, row.id ∉ world.broker.accepted

theorem armedOrNot_init (origin : Instant) :
    ArmedOrNot (World.init origin) where
  cover := by
    intro order member
    cases member
  exclusive := by
    intro row member
    cases member

/-- What one step of a call makes of the row it is to publish. -/
theorem unarmedRow_of_await {env : Environment} {uncommitted : List Order}
    {input : CreateOrderInput} {stores after : Stores} {stage : CreateStage}
    {outcome : Await} {progress : CreateProgress} {row : Order}
    (awaited :
      (createOrder env uncommitted input).await stores stage outcome =
        some (after, progress))
    (unarmed : unarmedRow ⟨input, progress⟩ = some row) :
    after.broker = stores.broker ∧
      (stage = .publishExpiration row ∨ stage = .commit row) := by
  rcases AsyncFunction.await_cases awaited with
    ⟨resolved, performed, _, ⟨_, rfl⟩ | ⟨_, rfl⟩⟩ |
      ⟨rfl, _, ⟨_, rfl⟩ | ⟨_, rfl⟩⟩
  · cases createOrder_resolved performed with
    | committed other =>
        cases unarmed
        exact ⟨rfl, Or.inr rfl⟩
    | _ => cases unarmed
  · cases createOrder_resolved performed with
    | committed other =>
        cases unarmed
        exact ⟨rfl, Or.inr rfl⟩
    | _ => cases unarmed
  · cases stage <;> cases unarmed
    exact ⟨rfl, Or.inl rfl⟩
  · cases stage <;> cases unarmed
    exact ⟨rfl, Or.inl rfl⟩

/-- A publish that is applied is accepted; one that is not leaves the row
unarmed. -/
theorem armed_of_publish {env : Environment} {uncommitted : List Order}
    {input : CreateOrderInput} {stores after : Stores} {row : Order}
    {outcome : Await} {progress : CreateProgress}
    (awaited :
      (createOrder env uncommitted input).await stores
          (.publishExpiration row) outcome =
        some (after, progress)) :
    row.id ∈ after.broker.accepted ∨
      unarmedRow ⟨input, progress⟩ = some row := by
  rcases AsyncFunction.await_cases awaited with
    ⟨resolved, performed, _⟩ | ⟨rfl, _, ⟨_, rfl⟩ | ⟨_, rfl⟩⟩
  · cases createOrder_resolved performed
    exact Or.inl List.mem_cons_self
  · exact Or.inr rfl
  · exact Or.inr rfl

private theorem unarmed_of_commit {env : Environment} {uncommitted : List Order}
    {input : CreateOrderInput} {stores after : Stores} {row : Order}
    {outcome : Await} {progress : CreateProgress}
    (awaited :
      (createOrder env uncommitted input).await stores (.commit row)
          outcome =
        some (after, progress))
    (applies : outcome.Applies = true) :
    unarmedRow ⟨input, progress⟩ = some row := by
  rcases AsyncFunction.await_cases awaited with
    ⟨resolved, performed, _, ⟨_, rfl⟩ | ⟨_, rfl⟩⟩ | ⟨_, idle, _⟩
  · cases createOrder_resolved performed
    rfl
  · rfl
  · rw [idle] at applies
    cases applies

/-- An unarmed row is armed by its own call or stays unarmed. -/
theorem unarmed_step {env : Environment} {world next : World}
    {action : Action} (stepped : step env world action = some next)
    {row : Order} (unarmed : row ∈ world.unarmed) :
    row.id ∈ next.broker.accepted ∨ row ∈ next.unarmed := by
  obtain ⟨call, member, waiting⟩ := List.mem_filterMap.mp unarmed
  have stays : call ∈ next.createCalls → row ∈ next.unarmed :=
    fun still => List.mem_filterMap.mpr ⟨call, still, waiting⟩
  cases step_cases stepped with
  | createRequested input =>
      exact Or.inr (stays (List.mem_append_left _ member))
  | createAwaited index outcome input stage progress after found awaited =>
      rcases Call.mem_set_of_mem found ⟨input, progress⟩ member with
        still | rfl
      · exact Or.inr (stays still)
      · have publishing : stage = .publishExpiration row := by
          cases stage <;> cases waiting
          rfl
        subst publishing
        rcases armed_of_publish awaited with accepted | remains
        · exact Or.inl accepted
        · exact Or.inr
            (List.mem_filterMap.mpr
              ⟨_, Call.mem_set_self found _, remains⟩)
  | _ => exact Or.inr (stays member)

private theorem ArmedOrNot.cover_step {env : Environment} {world next : World}
    {action : Action} (armed : ArmedOrNot world)
    (stepped : step env world action = some next) {order : Order}
    (member : order ∈ next.orders) :
    order.id ∈ next.broker.accepted ∨
      ∃ row ∈ next.unarmed, row.id = order.id := by
  rcases (step_orders stepped).id_origin member with
    ⟨earlier, old, sameId⟩ | ⟨index, outcome, input, rfl, applies, found⟩
  · rw [← sameId]
    rcases armed.cover earlier old with accepted | ⟨row, unarmed, same⟩
    · exact Or.inl ((step_broker stepped).accepted_kept accepted)
    · rcases unarmed_step stepped unarmed with accepted | still
      · exact Or.inl (same ▸ accepted)
      · exact Or.inr ⟨row, still, same⟩
  · right
    cases step_cases stepped with
    | createAwaited _ _ request stage progress after running awaited =>
        rw [found] at running
        cases running
        exact ⟨order,
          List.mem_filterMap.mpr
            ⟨_, Call.mem_set_self found _,
              unarmed_of_commit awaited applies⟩,
          rfl⟩

private theorem ArmedOrNot.exclusive_step {env : Environment}
    {world next : World} {action : Action} (armed : ArmedOrNot world)
    (sound : Sound env world)
    (stepped : step env world action = some next) {row : Order}
    (unarmed : row ∈ next.unarmed) : row.id ∉ next.broker.accepted := by
  intro accepted
  obtain ⟨index, call, reached, waiting⟩ := mem_unarmed.mp unarmed
  cases step_createCalls stepped reached with
  | kept _ elsewhere found =>
      have before : row.id ∉ world.broker.accepted :=
        armed.exclusive row (mem_unarmed.mpr ⟨index, call, found, waiting⟩)
      have changed := step_broker stepped
      generalize next.broker = broker at changed accepted
      cases changed with
      | published position outcome input other publishing applies =>
          rcases List.mem_cons.mp accepted with sameId | old
          · have samePosition : position = index :=
              sound.ids.distinct position index _ call other row publishing
                found rfl (insertedRow_of_unarmedRow waiting) sameId.symm
            subst samePosition
            exact elsewhere outcome rfl
          · exact before old
      | _ => exact before accepted
  | requested input new =>
      rw [new] at waiting
      cases waiting
  | awaited outcome stage found awaited =>
      obtain ⟨sameBroker, waits⟩ := unarmedRow_of_await awaited waiting
      have same : next.broker = world.broker := sameBroker
      rw [same] at accepted
      rcases waits with rfl | rfl
      · exact armed.exclusive row
          (mem_unarmed.mpr ⟨index, _, found, rfl⟩) accepted
      · obtain ⟨order, member, sameId⟩ :=
          sound.broker.accepted row.id accepted
        exact sound.ids.uncommitted index _ row found rfl order member
          sameId

theorem armedOrNot_step {env : Environment} {world next : World}
    {action : Action} (sound : Sound env world)
    (armed : ArmedOrNot world)
    (stepped : step env world action = some next) : ArmedOrNot next where
  cover := by
    intro order member
    exact armed.cover_step stepped member
  exclusive := by
    intro row unarmed
    exact armed.exclusive_step sound stepped unarmed

private theorem Trace.armedOrNot {env : Environment} {origin : Instant}
    {history : List (World × Action)} {world : World}
    (run : Trace (step env) (World.init origin) history world) :
    ArmedOrNot world := by
  have both : Sound env world ∧ ArmedOrNot world :=
    Trace.invariant (fun reached => Sound env reached ∧ ArmedOrNot reached)
      ⟨sound_init env origin, armedOrNot_init origin⟩
      (fun _ _ _ inductionHypothesis stepped =>
        ⟨sound_step inductionHypothesis.1 stepped,
          armedOrNot_step inductionHypothesis.1 inductionHypothesis.2
            stepped⟩)
      run
  exact both.2

/-- A call returns an order by publishing its own or by replaying one. -/
theorem returned_of_await {env : Environment} {uncommitted : List Order}
    {input : CreateOrderInput} {stores after : Stores} {stage : CreateStage}
    {outcome : Await} {progress : CreateProgress}
    {output : CreateOrderOutput}
    (awaited :
      (createOrder env uncommitted input).await stores stage outcome =
        some (after, progress))
    (returned : progress = .finished (.ok output)) :
    outcome = .resolves ∧
    ((∃ row, output = ⟨toEntity row, false⟩ ∧
      row.id ∈ after.broker.accepted) ∨
    (stage = .findByIdempotencyKey ∧ after = stores ∧
      ∃ order,
        findByIdempotencyKey input.userId input.idempotencyKey
            stores.orders =
          some order ∧
        order.status = .pending ∧ output = ⟨toEntity order, true⟩)) := by
  subst returned
  rcases createOrder_await awaited with ⟨resolves, resolved⟩ | failed | stopped
  · refine ⟨resolves, ?_⟩
    generalize ended :
      (Progress.finished (.ok output) : CreateProgress) = result at resolved
    cases resolved with
    | published row =>
        cases ended
        exact Or.inl ⟨row, rfl, List.mem_cons_self⟩
    | replayed =>
        injection ended with answer
        obtain ⟨order, found, pending, same⟩ := resolveReplay_ok answer.symm
        exact Or.inr ⟨rfl, rfl, order, found, pending, same⟩
    | _ => cases ended
  · cases failed
  · cases stopped

private theorem timersSet_step {env : Environment} {world next : World}
    {action : Action} (armed : ArmedOrNot world)
    (timers : TimersSet world) (guarded : ReplaysArmed world action)
    (stepped : step env world action = some next) : TimersSet next := by
  intro call member output returned pending
  obtain ⟨index, reached⟩ := List.mem_iff_getElem?.mp member
  cases step_createCalls stepped reached with
  | kept _ _ found =>
      exact (step_broker stepped).accepted_kept
        (timers call (List.mem_of_getElem? found) output returned pending)
  | requested input new =>
      rw [new] at returned
      cases returned
  | awaited outcome stage found awaited =>
      obtain ⟨rfl, ⟨row, rfl, accepted⟩ | ⟨rfl, after, order, foundOrder,
        stillPending, rfl⟩⟩ := returned_of_await awaited returned
      · exact accepted
      · have same : next.broker = world.broker :=
          congrArg Stores.broker after
        rw [same]
        have memberOrder := List.mem_of_find?_eq_some foundOrder
        rcases armed.cover order memberOrder with
          accepted | ⟨row, unarmed, sameId⟩
        · exact accepted
        · exact absurd sameId
            (guarded _ rfl rfl _ (Call.runningAt_eq_some.mpr found) rfl order
              foundOrder stillPending row unarmed)

/-- A replay of an unarmed order returns it without a timer. -/
theorem replaysArmed_of_timersSet {env : Environment} {world next : World}
    {action : Action} (armed : ArmedOrNot world)
    (timers : TimersSet next)
    (stepped : step env world action = some next) :
    ReplaysArmed world action := by
  rintro ⟨index, outcome⟩ awaitedHere resolves call running replaying order
    foundOrder pending row unarmed sameId
  have resolving : outcome = .resolves := resolves
  subst resolving
  have ran : action = .createAwait index .resolves := by
    cases action <;> cases awaitedHere
    rfl
  subst ran
  cases step_cases stepped with
  | createAwaited _ _ input stage progress after found awaited =>
      rw [Call.runningAt_eq_some.mpr found] at running
      cases running
      subst replaying
      have finished :
          (createOrder env world.uncommitted input).await world.toStores
              .findByIdempotencyKey .resolves =
            some (world.toStores,
              .finished
                (resolveReplay
                  (findByIdempotencyKey input.userId input.idempotencyKey
                    world.orders))) := rfl
      have replayed :
          resolveReplay (some order) = .ok ⟨toEntity order, true⟩ := by
        simp [resolveReplay, toEntity, OrderEntity.isPending, pending]
      rw [foundOrder, replayed, awaited] at finished
      cases finished
      have accepted :=
        timers _ (Call.mem_set_self found _) ⟨toEntity order, true⟩ rfl
          pending
      have known : row.id ∈ world.broker.accepted := sameId ▸ accepted
      exact armed.exclusive row unarmed known

/-- Every returned `PENDING` order has its timer, in every state of a run,
exactly when every replay of the run is armed. -/
theorem timersSet_iff_replaysArmed {env : Environment} {origin : Instant}
    {history : List (World × Action)} {world : World}
    (run : Trace (step env) (World.init origin) history world) :
    (∀ reached ∈ visited history world, TimersSet reached) ↔
      StepsMeet ReplaysArmed history := by
  refine Trace.forall_visited_iff ?_ ?_ run
  · intro call member
    cases member
  · intro past before action after runBefore timers stepped
    have armed := Trace.armedOrNot runBefore
    constructor
    · intro timersAfter
      exact replaysArmed_of_timersSet armed timersAfter stepped
    · intro guarded
      exact timersSet_step armed timers guarded stepped

/-- A request and its retry with the same key, after the publish. -/
def retryAfterPublish : List Action :=
  lockSeatRun 0 ⟨10, 1, 7⟩ ++ createOrderRun 0 ⟨10, 1, [7], "first"⟩ ++
    .createOrder ⟨10, 1, [7], "first"⟩ ::
      List.replicate 4 (.createAwait 1 .resolves)

private theorem retryAfterPublish_enabled :
    (replay (step smallVenue) [] (World.init 0) retryAfterPublish).isSome =
      true := by
  decide

theorem timersSet_retryAfterPublish :
    TimersSet
      ((replay (step smallVenue) [] (World.init 0) retryAfterPublish).get
        retryAfterPublish_enabled).2 :=
  (timersSet_iff_replaysArmed
    (Trace.of_replay_get retryAfterPublish retryAfterPublish_enabled)).mpr
      (by decide) _ List.mem_cons_self

/-- The publish of a committed order is refused, and the client retries. -/
def retryAfterRefusal : List Action :=
  lockSeatRun 0 ⟨10, 1, 7⟩ ++
    .createOrder ⟨10, 1, [7], "first"⟩ ::
      List.replicate 5 (.createAwait 0 .resolves) ++
        .createAwait 0 (.rejects false) ::
          .createOrder ⟨10, 1, [7], "first"⟩ ::
            List.replicate 4 (.createAwait 1 .resolves)

/-- Not every run sets a timer for every returned order. -/
theorem missingTimer_reachable :
    ¬ ∀ (env : Environment) (origin : Instant)
        (history : List (World × Action)) (world : World),
      Trace (step env) (World.init origin) history world →
      TimersSet world := by
  intro always
  obtain ⟨history, world, run, checked⟩ :=
    Trace.exists_of_replay (step smallVenue) (World.init 0)
      retryAfterRefusal
      (fun result =>
        decide (result.2.broker.accepted = [] ∧
          ∃ call ∈ result.2.createCalls,
            call.progress =
              .finished (.ok ⟨⟨0, 10, 1, .pending, 5000, 900000⟩, true⟩)))
      (by decide)
  obtain ⟨nothing, call, member, returned⟩ := of_decide_eq_true checked
  have accepted :=
    always smallVenue 0 history world run call member _ returned rfl
  rw [nothing] at accepted
  cases accepted

end ConcertTicketing.Booking
