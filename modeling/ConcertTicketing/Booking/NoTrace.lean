import ConcertTicketing.Booking.OrderContent

/-!
# Calls that create no order

`CreateOrderUseCase.execute` has one exit that creates an order and several
that do not: the hold is lost at the first check or inside the transaction, a
seat has no price, or the key has been used before.  A call that leaves by one
of the others has changed nothing: its checks only read, `EXTEND_LUA` writes
only after its last check, and the rows of a transaction that is rolled back
are never in the tables.
-/

namespace ConcertTicketing.Booking

open SeatLock

/-- The results of `execute` that come without a new order. -/
def CreatesNothing : Except OrderError CreateOrderOutput → Prop
  | .error (.seatHoldExpired _) => True
  | .error (.seatNotPriceable _) => True
  | .error (.orderKeyConsumed _) => True
  | .ok output => output.replayed = true

/-- The step is the arrival of the call at the given position or the end of
one of its remote calls. -/
def StepOfCreate (index : Nat) (world : World) : Action → Prop
  | .createOrder _ => world.createCalls.length = index
  | .createAwait position _ => position = index
  | _ => False

/-- The tables, the seat-lock store with its owners, TTLs and held-sets, and
the broker are as before. -/
structure SameEffects (stores after : Stores) : Prop where
  orders : after.orders = stores.orders
  redis : after.redis = stores.redis
  seatLocks : after.seatLocks = stores.seatLocks
  broker : after.broker = stores.broker

theorem SameEffects.refl (stores : Stores) : SameEffects stores stores :=
  ⟨rfl, rfl, rfl, rfl⟩

/-- No step of the call has changed anything. -/
def LeftNoTrace (index : Nat)
    (history : List (World × (Environment × Action))) : Prop :=
  ∀ entry ∈ history,
    StepOfCreate index entry.1 entry.2.2 →
    ∀ after, stepUnder entry.1 entry.2 = some after →
      SameEffects entry.1.toStores after.toStores

/-- The call has not confirmed its hold, or has ended without an order. -/
def Traceless : CreateProgress → Prop
  | .running .verifyHeld => True
  | .running .loadSeatPricing => True
  | .running (.insertOrder _) => True
  | .running (.extendHold _) => True
  | .running .findByIdempotencyKey => True
  | .running (.commit _) => False
  | .running (.publishExpiration _) => False
  | .finished result => CreatesNothing result
  | .failed _ _ => False
  | .stopped _ => False

/-- Before its hold is confirmed a call changes nothing, and it does not come
back from there. -/
theorem traceless_of_await {env : Environment} {uncommitted : List Order}
    {input : CreateOrderInput} {stores after : Stores} {stage : CreateStage}
    {outcome : Await} {progress : CreateProgress}
    (awaited :
      (createOrder env uncommitted input).await stores stage outcome =
        some (after, progress))
    (traceless : Traceless progress) :
    Traceless (.running stage) ∧ SameEffects stores after := by
  rcases createOrder_await awaited with ⟨_, resolved⟩ | failed | stopped
  · cases resolved with
    | inserted => exact ⟨trivial, ⟨rfl, rfl, rfl, rfl⟩⟩
    | extended => exact traceless.elim
    | committed => exact traceless.elim
    | published => cases traceless
    | _ => exact ⟨trivial, .refl _⟩
  · rw [failed] at traceless
    exact traceless.elim
  · rw [stopped] at traceless
    exact traceless.elim

/-- The calls that have not confirmed their hold have left no trace, and the
calls that have not arrived have taken no step. -/
structure TracesSound (history : List (World × (Environment × Action)))
    (world : World) : Prop where
  calls : ∀ (index : Nat) (call : CreateCall),
    world.createCalls[index]? = some call →
    Traceless call.progress →
    LeftNoTrace index history
  vacant : ∀ index,
    world.createCalls[index]? = none →
    LeftNoTrace index history

private theorem tracesSound_init (origin : Instant) :
    TracesSound [] (World.init origin) where
  calls := by
    intro index call found
    cases found
  vacant := by
    intro index _ entry member
    cases member

theorem LeftNoTrace.cons {index : Nat}
    {history : List (World × (Environment × Action))}
    (quiet : LeftNoTrace index history) {world next : World}
    {event : Environment × Action}
    (stepped : stepUnder world event = some next)
    (same : StepOfCreate index world event.2 →
      SameEffects world.toStores next.toStores) :
    LeftNoTrace index ((world, event) :: history) := by
  intro entry member own after reached
  rcases List.mem_cons.mp member with rfl | old
  · rw [stepped] at reached
    cases reached
    exact same own
  · exact quiet entry old own after reached

/-- A request only adds a call. -/
theorem sameEffects_request {env : Environment} {world next : World}
    {input : CreateOrderInput}
    (stepped : step env world (.createOrder input) = some next) :
    SameEffects world.toStores next.toStores := by
  cases step_cases stepped with
  | createRequested => exact .refl _

private theorem tracesSound_step {env : Environment} {world next : World}
    {action : Action} {history : List (World × (Environment × Action))}
    (sound : TracesSound history world)
    (stepped : step env world action = some next) :
    TracesSound ((world, (env, action)) :: history) next where
  calls := by
    intro index call reached traceless
    have under : stepUnder world (env, action) = some next := stepped
    cases step_createCalls stepped reached with
    | kept _ elsewhere found =>
        refine (sound.calls index call found traceless).cons under ?_
        intro own
        cases action with
        | createOrder input => exact sameEffects_request stepped
        | createAwait position outcome =>
            have here : position = index := own
            rw [here] at elsewhere
            exact absurd rfl (elsewhere outcome)
        | _ => exact own.elim
    | requested input new =>
        have before : LeftNoTrace index history := by
          cases found : world.createCalls[index]? with
          | none => exact sound.vacant index found
          | some earlier =>
              obtain ⟨_, kept, _, ⟨_, same⟩ | ⟨_, _, ran, _⟩⟩ :=
                step_createCall stepped found
              · rw [reached] at kept
                cases kept
                rw [same] at traceless
                exact sound.calls index earlier found traceless
              · cases ran
        exact before.cons under fun _ => sameEffects_request stepped
    | awaited outcome stage found awaited =>
        have parts := traceless_of_await awaited traceless
        have before := sound.calls index _ found parts.1
        exact before.cons under fun _ => parts.2
  vacant := by
    intro index vacant
    have vacantBefore : world.createCalls[index]? = none := by
      cases found : world.createCalls[index]? with
      | none => rfl
      | some earlier =>
          obtain ⟨later, reached, _⟩ := step_createCall stepped found
          rw [vacant] at reached
          cases reached
    refine (sound.vacant index vacantBefore).cons stepped ?_
    intro own
    cases step_cases stepped with
    | createRequested input => exact .refl _
    | createAwaited position outcome input stage progress after found _ =>
        have here : position = index := own
        rw [here, vacantBefore] at found
        cases found
    | _ => exact own.elim

/-- In every run, under any changes of the seat map and the prices, a call
that ends without a new order has changed nothing and published nothing. -/
theorem leftNoTrace_of_createsNothing {origin : Instant}
    {history : List (World × (Environment × Action))} {world : World}
    {index : Nat} {input : CreateOrderInput}
    {result : Except OrderError CreateOrderOutput}
    (run : Trace stepUnder (World.init origin) history world)
    (found : world.createCalls[index]? = some ⟨input, .finished result⟩)
    (nothing : CreatesNothing result) :
    LeftNoTrace index history := by
  have sound : TracesSound history world := by
    refine Trace.invariantHistory TracesSound (tracesSound_init origin) ?_ run
    rintro earlier before ⟨env, action⟩ next _ inductionHypothesis stepped
    exact tracesSound_step inductionHypothesis stepped
  exact sound.calls index _ found nothing

/-- User 10 orders seats 7 and 8 and gives seat 8 up while the transaction is
open. -/
def releaseDuringOrder : List Action :=
  lockSeatRun 0 ⟨10, 1, 7⟩ ++ lockSeatRun 1 ⟨10, 1, 8⟩ ++
    [.createOrder ⟨10, 1, [7, 8], "first"⟩, .createAwait 0 .resolves,
      .createAwait 0 .resolves, .createAwait 0 .resolves] ++
    releaseSeatRun 0 ⟨1, 8, 10⟩ ++ [.createAwait 0 .resolves]

private theorem releaseDuringOrder_enabled :
    (replay stepUnder [] (World.init 0)
      (releaseDuringOrder.map (smallVenue, ·))).isSome = true := by
  decide

/-- The transaction has been rolled back. -/
theorem releaseDuringOrder_ended :
    ((replay stepUnder [] (World.init 0)
        (releaseDuringOrder.map (smallVenue, ·))).get
      releaseDuringOrder_enabled).2.createCalls[0]? =
      some ⟨⟨10, 1, [7, 8], "first"⟩,
        .finished (.error (.seatHoldExpired [7, 8]))⟩ := by
  decide

theorem leftNoTrace_releaseDuringOrder :
    LeftNoTrace 0
      ((replay stepUnder [] (World.init 0)
          (releaseDuringOrder.map (smallVenue, ·))).get
        releaseDuringOrder_enabled).1 :=
  leftNoTrace_of_createsNothing
    (Trace.of_replay_get _ releaseDuringOrder_enabled)
    releaseDuringOrder_ended trivial

end ConcertTicketing.Booking
