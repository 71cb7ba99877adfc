import ConcertTicketing.Booking.Confirmed

/-!
# No early expiry

The compare-and-set of `markExpiredIfPending` never looks at `expiresAt`.  An
order is not expired early because its message is published after its deadline
was set, waits for the booking window in `delay.q`, and is the only way in
which the consumer comes to expire the order.
-/

namespace ConcertTicketing.Booking

/-- The step publishes the message of the order, in the order's own call. -/
def Publishes (orderId : OrderId) (world : World) (action : Action) : Prop :=
  ∃ index outcome input row,
    action = .createAwait index outcome ∧
      outcome.Applies = true ∧
      world.createCalls[index]? =
        some ⟨input, .running (.publishExpiration row)⟩ ∧
      row.id = orderId

/-- The message of the order was published in the history, a whole booking
window ago. -/
def PublishedInTime (env : Environment) (history : List (World × Action))
    (now : Instant) (orderId : OrderId) : Prop :=
  ∃ entry ∈ history,
    Publishes orderId entry.1 entry.2 ∧
      entry.1.now + env.bookingWindowMs ≤ now

theorem PublishedInTime.later {env : Environment}
    {history : List (World × Action)} {now after : Instant}
    {orderId : OrderId}
    (published : PublishedInTime env history now orderId)
    (entry : World × Action) (order : now ≤ after) :
    PublishedInTime env (entry :: history) after orderId := by
  obtain ⟨publication, member, publishes, due⟩ := published
  exact ⟨publication, List.mem_cons_of_mem _ member, publishes,
    due.trans order⟩

/-- A call that publishes has committed its row, with its deadline. -/
def RowsCommitted (world : World) : Prop :=
  ∀ (index : Nat) (call : CreateCall) (row : Order),
    world.createCalls[index]? = some call →
    call.progress.stage? = some (.publishExpiration row) →
    ∃ order ∈ world.orders,
      order.id = row.id ∧ order.expiresAt = row.expiresAt

private theorem rowsCommitted_step {env : Environment} {world next : World}
    {action : Action} (committed : RowsCommitted world)
    (stepped : step env world action = some next) : RowsCommitted next := by
  intro index call row reached publishing
  have kept : (∃ order ∈ world.orders,
        order.id = row.id ∧ order.expiresAt = row.expiresAt) →
      ∃ order ∈ next.orders,
        order.id = row.id ∧ order.expiresAt = row.expiresAt := by
    rintro ⟨order, member, sameId, sameDeadline⟩
    obtain ⟨later, inNext, origin⟩ :=
      (step_orders stepped).order_next member
    exact ⟨later, inNext, origin.id_eq.trans sameId,
      origin.expiresAt_eq.trans sameDeadline⟩
  cases step_createCalls stepped reached with
  | kept _ _ found => exact kept (committed index call row found publishing)
  | requested input new =>
      rw [new] at publishing
      cases publishing
  | awaited outcome stage found awaited =>
      rcases publishing_of_await awaited publishing with rfl | ⟨_, after⟩
      · exact kept (committed index _ row found rfl)
      · have grown : next.orders = world.orders ++ [row] :=
          congrArg Stores.orders after
        rw [grown]
        exact ⟨row, by simp, rfl, rfl⟩

private theorem Trace.rowsCommitted {env : Environment} {origin : Instant}
    {history : List (World × Action)} {world : World}
    (run : Trace (step env) (World.init origin) history world) :
    RowsCommitted world := by
  refine Trace.invariant RowsCommitted ?_
    (fun _ _ _ inductionHypothesis => rowsCommitted_step inductionHypothesis)
    run
  intro index call row found
  cases found

/-- The deadline of an order is within the booking window of its
publication. -/
theorem expiresAt_le_published {env : Environment} {origin : Instant}
    {history : List (World × Action)} {world : World}
    (run : Trace (step env) (World.init origin) history world) :
    ∀ entry ∈ history, ∀ orderId, Publishes orderId entry.1 entry.2 →
      ∃ order ∈ world.orders,
        order.id = orderId ∧
          order.expiresAt ≤ entry.1.now + env.bookingWindowMs := by
  refine Trace.invariantHistory
    (fun past current => ∀ entry ∈ past, ∀ orderId,
      Publishes orderId entry.1 entry.2 →
      ∃ order ∈ current.orders,
        order.id = orderId ∧
          order.expiresAt ≤ entry.1.now + env.bookingWindowMs)
    ?_ ?_ run
  · intro entry member
    cases member
  · intro past before action after runBefore inductionHypothesis stepped
      entry member orderId publishes
    have known : ∃ order ∈ before.orders,
        order.id = orderId ∧
          order.expiresAt ≤ entry.1.now + env.bookingWindowMs := by
      rcases List.mem_cons.mp member with rfl | old
      · obtain ⟨index, outcome, input, row, _, _, found, rfl⟩ := publishes
        obtain ⟨order, inTable, sameId, sameDeadline⟩ :=
          Trace.rowsCommitted runBefore index _ row found rfl
        have drafted :=
          ((Trace.sound runBefore).rows.rows index _ row found rfl).1
        refine ⟨order, inTable, sameId, ?_⟩
        rw [sameDeadline]
        exact drafted.expiresAt_le
      · exact inductionHypothesis entry old orderId publishes
    obtain ⟨order, inTable, sameId, bound⟩ := known
    obtain ⟨later, inNext, origin⟩ :=
      (step_orders stepped).order_next inTable
    exact ⟨later, inNext, origin.id_eq.trans sameId,
      origin.expiresAt_eq.trans_le bound⟩

/-- Every message was published in the history, and every delivery stems from
a publication a whole booking window ago. -/
theorem Trace.provenance {env : Environment} {origin : Instant}
    {history : List (World × Action)} {world : World}
    (run : Trace (step env) (World.init origin) history world) :
    Provenance
      (fun message => ∃ entry ∈ history,
        Publishes message.orderId entry.1 entry.2 ∧
          entry.1.now = message.publishedAt)
      (PublishedInTime env history world.now) world := by
  refine Trace.invariantHistory
    (fun past current =>
      Provenance
        (fun message => ∃ entry ∈ past,
          Publishes message.orderId entry.1 entry.2 ∧
            entry.1.now = message.publishedAt)
        (PublishedInTime env past current.now) current)
    ?_ ?_ run
  · constructor
    · intro message member
      cases member
    · intro orderId member
      cases member
    · intro index call found
      cases found
  · intro past before action after _ inductionHypothesis stepped
    have later := step_now_le stepped
    refine provenance_step inductionHypothesis stepped ?_ ?_ ?_ ?_
    · rintro message ⟨entry, member, publishes, sameTime⟩
      exact ⟨entry, List.mem_cons_of_mem _ member, publishes, sameTime⟩
    · intro orderId published
      exact published.later _ later
    · intro index outcome input row ran applies found _
      exact ⟨(before, action), List.mem_cons_self,
        ⟨index, outcome, input, row, ran, applies, found, rfl⟩, rfl⟩
    · rintro message ⟨entry, member, publishes, sameTime⟩ due
      rw [← sameTime] at due
      exact ⟨entry, List.mem_cons_of_mem _ member, publishes,
        due.trans later⟩

/-- The order that a direct request asks to expire. -/
def Action.expireOrder? : Action → Option OrderId
  | .expireOrder orderId => some orderId
  | _ => none

/-- The action is no direct request to expire an order; outside of tests only
the consumer of `order.timeout.q` makes such requests. -/
def FromBroker (_ : World) (action : Action) : Prop :=
  action.expireOrder? = none

instance (world : World) : DecidablePred (FromBroker world) :=
  fun _ => inferInstanceAs (Decidable (_ = none))

private theorem not_direct_of_fromBroker {env : Environment} {origin : Instant}
    {history : List (World × Action)} {world : World}
    (run : Trace (step env) (World.init origin) history world)
    (fromBroker : StepsMeet FromBroker history) :
    ∀ (index : Nat) (call : ExpireCall),
      world.expireCalls[index]? = some call →
      call.input.delivery ≠ .direct := by
  refine Trace.invariantUnder FromBroker
    (fun current => ∀ (index : Nat) (call : ExpireCall),
      current.expireCalls[index]? = some call →
      call.input.delivery ≠ .direct)
    ?_ ?_ run fromBroker
  · intro index call found
    cases found
  · intro before action after inductionHypothesis brokerOnly stepped index
      call reached
    cases step_expireCalls stepped reached with
    | kept _ _ found => exact inductionHypothesis index call found
    | requested orderId _ new => cases brokerOnly
    | delivered position orderId _ queued new =>
        rw [new]
        exact Delivery.noConfusion
    | awaited outcome stage found _ =>
        have before := inductionHypothesis index _ found
        exact before
    | answered _ found settled => exact settled

/-- An order that a step takes to `EXPIRED` was `PENDING`, and the step is the
compare-and-set of a call for this order. -/
theorem step_expired {env : Environment} {world next : World}
    {action : Action} (sound : Sound env world)
    (stepped : step env world action = some next) {order later : Order}
    (member : order ∈ world.orders) (notExpired : order.status ≠ .expired)
    (inNext : later ∈ next.orders) (sameId : later.id = order.id)
    (expired : later.status = .expired) :
    ∃ index outcome delivery,
      action = .expireAwait index outcome ∧
        world.expireCalls[index]? =
          some ⟨⟨order.id, delivery⟩, .running .markExpired⟩ := by
  have moved := step_orders stepped
  generalize next.orders = orders at moved inNext
  cases moved with
  | unchanged =>
      have same := sound.ids.unique inNext member sameId
      rw [same] at expired
      exact absurd expired notExpired
  | committed index outcome input row found applies =>
      rcases List.mem_append.mp inNext with old | new
      · have same := sound.ids.unique old member sameId
        rw [same] at expired
        exact absurd expired notExpired
      · rw [List.mem_singleton] at new
        subst new
        have pending := (sound.rows.rows index _ later found rfl).2
        rw [pending] at expired
        cases expired
  | marked index outcome request found applies =>
      obtain ⟨earlier, old, rfl⟩ := List.mem_map.mp inNext
      rw [expireIfPending_id] at sameId
      have same := sound.ids.unique old member sameId
      subst same
      unfold expireIfPending at expired
      split at expired
      · next selected =>
          obtain ⟨orderId, delivery⟩ := request
          have requested : earlier.id = orderId := selected.1
          subst requested
          exact ⟨index, outcome, delivery, rfl, found⟩
      · exact absurd expired notExpired

/-- The order expires in time, in a call that the broker has delivered for it,
after its message waited for the booking window. -/
structure ExpiredByMessage (env : Environment)
    (history : List (World × Action)) (world : World) (action : Action)
    (order : Order) : Prop where
  onTime : order.expiresAt ≤ world.now
  delivered : ∃ index outcome delivery,
    action = .expireAwait index outcome ∧
      world.expireCalls[index]? =
        some ⟨⟨order.id, delivery⟩, .running .markExpired⟩ ∧
      delivery ≠ .direct
  published : PublishedInTime env history world.now order.id

/-- In every run without direct requests, an order moves to `EXPIRED` only at
or after its deadline and through its own message. -/
theorem expiredByMessage_of_fromBroker {env : Environment} {origin : Instant}
    {history : List (World × Action)} {world next : World} {action : Action}
    {order later : Order}
    (run : Trace (step env) (World.init origin) history world)
    (fromBroker : StepsMeet FromBroker history)
    (stepped : step env world action = some next)
    (member : order ∈ world.orders) (notExpired : order.status ≠ .expired)
    (inNext : later ∈ next.orders) (sameId : later.id = order.id)
    (expired : later.status = .expired) :
    ExpiredByMessage env history world action order := by
  have sound := Trace.sound run
  obtain ⟨index, outcome, delivery, ran, found⟩ :=
    step_expired sound stepped member notExpired inNext sameId expired
  have notDirect : delivery ≠ .direct :=
    not_direct_of_fromBroker run fromBroker index _ found
  have published : PublishedInTime env history world.now order.id :=
    (Trace.provenance run).delivered index _ found notDirect
  refine ⟨?_, ⟨index, outcome, delivery, ran, found, notDirect⟩, published⟩
  obtain ⟨entry, inHistory, publishes, due⟩ := published
  obtain ⟨known, inTable, knownId, bound⟩ :=
    expiresAt_le_published run entry inHistory order.id publishes
  have same := sound.ids.unique inTable member knownId
  subst same
  exact bound.trans due

def markWhenDue : List Action :=
  lockSeatRun 0 ⟨10, 1, 7⟩ ++ createOrderRun 0 ⟨10, 1, [7], "first"⟩ ++
    [.tick 900000, .deadLetter 0, .deliver 0]

private theorem markWhenDue_enabled :
    (replay (step smallVenue) [] (World.init 0) markWhenDue).isSome = true := by
  decide

def dueWorld : World :=
  ((replay (step smallVenue) [] (World.init 0) markWhenDue).get
    markWhenDue_enabled).2

private theorem dueWorld_marks :
    (step smallVenue dueWorld (.expireAwait 0 .resolves)).isSome = true := by
  decide

theorem expiredByMessage_markWhenDue :
    ExpiredByMessage smallVenue
      ((replay (step smallVenue) [] (World.init 0) markWhenDue).get
        markWhenDue_enabled).1
      dueWorld (.expireAwait 0 .resolves)
      ⟨0, 10, 1, "first", .pending, 5000, 900000, [⟨some 7, 3, 5000⟩]⟩ := by
  have marked :
      (⟨0, 10, 1, "first", .expired, 5000, 900000,
          [⟨some 7, 3, 5000⟩]⟩ : Order) ∈
        ((step smallVenue dueWorld (.expireAwait 0 .resolves)).get
          dueWorld_marks).orders := by
    decide
  exact expiredByMessage_of_fromBroker
    (Trace.of_replay_get markWhenDue markWhenDue_enabled) (by decide)
    (Option.some_get dueWorld_marks).symm (by decide) (by decide) marked rfl
    rfl

end ConcertTicketing.Booking
