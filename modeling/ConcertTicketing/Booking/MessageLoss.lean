import ConcertTicketing.Booking.Expiry

/-!
# Expiry messages that get lost

The consumer rejects a delivery whose handler threw, without requeue, and the
queue has no dead-letter exchange.  A failure behind the compare-and-set costs
nothing here, since the order has moved; a failure of the compare-and-set
itself loses the only message of an order that is still `PENDING`.
-/

namespace ConcertTicketing.Booking

/-- The order's message is in `delay.q`, in `order.timeout.q` or in an
unsettled delivery. -/
def HasMessage (world : World) (orderId : OrderId) : Prop :=
  (∃ message ∈ world.broker.delayQueue, message.orderId = orderId) ∨
    orderId ∈ world.broker.timeoutQueue ∨
    ∃ call ∈ world.expireCalls, call.input = ⟨orderId, .unsettled⟩

/-- No message is lost before it took effect. -/
def MessagesKept (world : World) : Prop :=
  ∀ order ∈ world.orders,
    order.status = .pending →
    order.id ∈ world.broker.accepted →
    HasMessage world order.id

/-- The delivery that is settled in this step has not failed at its
compare-and-set while its order is still `PENDING`. -/
def SettlesMarked (world : World) (action : Action) : Prop :=
  ∀ index ∈ action.settle?, ∀ call ∈ world.expireCalls[index]?,
    call.progress = .failed .markExpired false →
    ∀ order ∈ world.orders,
      order.id = call.input.orderId → order.status ≠ .pending

instance (world : World) (action : Action) :
    Decidable (SettlesMarked world action) :=
  inferInstanceAs
    (Decidable
      (∀ index ∈ action.settle?, ∀ call ∈ world.expireCalls[index]?,
        _ → ∀ order ∈ world.orders, _ → _))

private theorem mem_eraseIdx_of_mem {α : Type} {items : List α} {index : Nat}
    {removed : α} (found : items[index]? = some removed) {item : α}
    (member : item ∈ items) :
    item ∈ items.eraseIdx index ∨ item = removed := by
  obtain ⟨position, reached⟩ := List.mem_iff_getElem?.mp member
  by_cases same : position = index
  · subst position
    rw [found] at reached
    exact Or.inr (Option.some.inj reached).symm
  · exact Or.inl (List.mem_eraseIdx_iff_getElem?.mpr ⟨position, same, reached⟩)

/-- A message leaves `delay.q` for `order.timeout.q`. -/
theorem delayed_next {env : Environment} {world next : World}
    {action : Action} (stepped : step env world action = some next)
    {message : Message} (delayed : message ∈ world.broker.delayQueue) :
    message ∈ next.broker.delayQueue ∨
      message.orderId ∈ next.broker.timeoutQueue := by
  have change := step_broker stepped
  generalize next.broker = broker at change
  cases change with
  | published => exact Or.inl (List.mem_append_left _ delayed)
  | deadLettered index moved found due =>
      rcases mem_eraseIdx_of_mem found delayed with still | rfl
      · exact Or.inl still
      · exact Or.inr (List.mem_append_right _ (List.mem_singleton_self _))
  | _ => exact Or.inl delayed

/-- A message leaves `order.timeout.q` with a delivery. -/
theorem timedOut_next {env : Environment} {world next : World}
    {action : Action} (stepped : step env world action = some next)
    {orderId : OrderId} (timedOut : orderId ∈ world.broker.timeoutQueue) :
    orderId ∈ next.broker.timeoutQueue ∨
      ∃ call ∈ next.expireCalls, call.input = ⟨orderId, .unsettled⟩ := by
  have change := step_broker stepped
  generalize reached : next.broker = broker at change
  cases change with
  | deadLettered => exact Or.inl (List.mem_append_left _ timedOut)
  | requeued => exact Or.inl (List.mem_append_left _ timedOut)
  | delivered index other found =>
      rcases mem_eraseIdx_of_mem found timedOut with still | rfl
      · exact Or.inl still
      · right
        cases step_cases stepped with
        | delivered _ delivered foundAgain =>
            rw [found] at foundAgain
            cases foundAgain
            exact
              ⟨_, List.mem_append_right _ (List.mem_singleton_self _), rfl⟩
  | _ => exact Or.inl timedOut

/-- An unsettled delivery stays so until it is requeued or settled. -/
theorem unsettled_next {env : Environment} {world next : World}
    {action : Action} (stepped : step env world action = some next)
    {orderId : OrderId} {call : ExpireCall}
    (member : call ∈ world.expireCalls)
    (unsettled : call.input = ⟨orderId, .unsettled⟩) :
    (∃ after ∈ next.expireCalls, after.input = ⟨orderId, .unsettled⟩) ∨
      orderId ∈ next.broker.timeoutQueue ∨
      ∃ index progress delivery,
        action = .settle index ∧
        world.expireCalls[index]? = some ⟨⟨orderId, .unsettled⟩, progress⟩ ∧
        settlement progress = some delivery := by
  cases step_cases stepped with
  | expireRequested other =>
      exact Or.inl ⟨call, List.mem_append_left _ member, unsettled⟩
  | expireAwaited index outcome request stage progress after found awaited =>
      left
      rcases Call.mem_set_of_mem found ⟨request, progress⟩ member with
        still | rfl
      · exact ⟨call, still, unsettled⟩
      · exact ⟨_, Call.mem_set_self found _, unsettled⟩
  | delivered index other found =>
      exact Or.inl ⟨call, List.mem_append_left _ member, unsettled⟩
  | settled index other progress delivery found answered =>
      rcases Call.mem_set_of_mem found ⟨⟨other, delivery⟩, progress⟩
        member with still | rfl
      · exact Or.inl ⟨call, still, unsettled⟩
      · injection unsettled with sameOrder _
        subst sameOrder
        exact
          Or.inr (Or.inr ⟨index, progress, delivery, rfl, found, answered⟩)
  | requeued index other progress found =>
      rcases Call.mem_set_of_mem found ⟨⟨other, .requeued⟩, progress⟩
        member with still | rfl
      · exact Or.inl ⟨call, still, unsettled⟩
      · injection unsettled with sameOrder _
        subst sameOrder
        right; left
        exact List.mem_append_right _ (List.mem_singleton_self _)
  | _ => exact Or.inl ⟨call, member, unsettled⟩

/-- A message is lost only when its delivery is settled. -/
theorem hasMessage_step {env : Environment} {world next : World}
    {action : Action} (stepped : step env world action = some next)
    {orderId : OrderId} (present : HasMessage world orderId) :
    HasMessage next orderId ∨
      ∃ index progress delivery,
        action = .settle index ∧
        world.expireCalls[index]? = some ⟨⟨orderId, .unsettled⟩, progress⟩ ∧
        settlement progress = some delivery := by
  rcases present with ⟨message, delayed, same⟩ | timedOut |
    ⟨call, member, unsettled⟩
  · rcases delayed_next stepped delayed with still | moved
    · exact Or.inl (Or.inl ⟨message, still, same⟩)
    · rw [same] at moved
      exact Or.inl (Or.inr (Or.inl moved))
  · rcases timedOut_next stepped timedOut with still | delivered
    · exact Or.inl (Or.inr (Or.inl still))
    · exact Or.inl (Or.inr (Or.inr delivered))
  · rcases unsettled_next stepped member unsettled with
      still | requeued | settled
    · exact Or.inl (Or.inr (Or.inr still))
    · exact Or.inl (Or.inr (Or.inl requeued))
    · exact Or.inr settled

/-- The compare-and-set of the call has been applied. -/
def Marked : ExpireProgress → Prop
  | .running .markExpired => False
  | .running _ => True
  | .failed .markExpired applied => applied = true
  | .failed _ _ => True
  | .stopped .markExpired => False
  | .stopped _ => True
  | .finished _ => True

/-- The order of a delivery whose compare-and-set has been applied is no
longer `PENDING`. -/
def DeliveriesMark (world : World) : Prop :=
  ∀ (index : Nat) (call : ExpireCall),
    world.expireCalls[index]? = some call →
    call.input.delivery ≠ .direct →
    Marked call.progress →
    ∀ order ∈ world.orders,
      order.id = call.input.orderId → order.status ≠ .pending

private theorem marked_of_await {orderId : OrderId} {stores after : Stores}
    {stage : ExpireStage} {outcome : Await} {progress : ExpireProgress}
    (awaited :
      (expireOrder orderId).await stores stage outcome =
        some (after, progress))
    (marked : Marked progress) :
    Marked (.running stage) ∨
      (stage = .markExpired ∧
        after.orders = stores.orders.map (expireIfPending orderId)) := by
  cases stage with
  | markExpired =>
      right
      rcases AsyncFunction.await_cases awaited with
        ⟨resolved, performed, _⟩ | ⟨_, _, ⟨_, rejected⟩ | ⟨_, stopped⟩⟩
      · cases expireOrder_resolved performed
        exact ⟨rfl, rfl⟩
      · rw [rejected] at marked
        cases marked
      · rw [stopped] at marked
        cases marked
  | findOrder => exact Or.inl trivial
  | releaseHold => exact Or.inl trivial
  | expireSeatLockAudit => exact Or.inl trivial

theorem deliveriesMark_step {env : Environment} {world next : World}
    {action : Action} (sound : Sound env world)
    (marks : DeliveriesMark world)
    (stepped : step env world action = some next) : DeliveriesMark next := by
  intro index call reached notDirect marked order member identified pending
  have origin := (step_orders stepped).pending_origin member pending
  have old : ∀ orderId ∈ world.broker.accepted, order.id = orderId →
      order ∈ world.orders := by
    intro orderId accepted sameId
    rcases origin with old | ⟨position, outcome, input, _, found⟩
    · exact old
    · obtain ⟨known, knownMember, knownId⟩ :=
        sound.broker.accepted orderId accepted
      exact absurd (knownId.trans sameId.symm)
        (sound.ids.uncommitted position _ order found rfl known knownMember)
  have settled : ∀ earlier : ExpireCall,
      world.expireCalls[index]? = some earlier →
      earlier.input.delivery ≠ .direct →
      earlier.input.orderId = call.input.orderId →
      Marked earlier.progress → False := by
    intro earlier found delivered sameOrder before
    have accepted := sound.broker.delivered index earlier found delivered
    have sameId : order.id = earlier.input.orderId :=
      identified.trans sameOrder.symm
    exact marks index earlier found delivered before order
      (old _ accepted sameId) sameId pending
  cases step_expireCalls stepped reached with
  | kept _ _ found => exact settled call found notDirect rfl marked
  | requested orderId _ new =>
      rw [new] at marked
      exact marked
  | delivered position orderId _ queued new =>
      rw [new] at marked
      exact marked
  | awaited outcome stage found awaited =>
      rcases marked_of_await awaited marked with before | ⟨rfl, rows⟩
      · exact settled _ found notDirect rfl before
      · have written :
            next.orders =
              world.orders.map (expireIfPending call.input.orderId) := rows
        rw [written] at member
        obtain ⟨earlier, _, rfl⟩ := List.mem_map.mp member
        rw [expireIfPending_id] at identified
        exact ((expireIfPending_status _ _).mp pending).2 identified
  | answered _ found _ =>
      exact settled _ found Delivery.noConfusion rfl marked

theorem marked_of_settlement {progress : ExpireProgress}
    {delivery : Delivery}
    (answered : settlement progress = some delivery) :
    Marked progress ∨ progress = .failed .markExpired false := by
  cases progress with
  | running stage => cases answered
  | stopped stage => cases answered
  | finished result => exact Or.inl trivial
  | failed stage applied =>
      cases stage with
      | markExpired =>
          cases applied with
          | true => exact Or.inl rfl
          | false => exact Or.inr rfl
      | findOrder => exact Or.inl trivial
      | releaseHold => exact Or.inl trivial
      | expireSeatLockAudit => exact Or.inl trivial

/-- An accepted message has been there before, with its order, or has just
been published. -/
theorem accepted_before {env : Environment} {world next : World}
    {action : Action} (sound : Sound env world)
    (stepped : step env world action = some next) {order : Order}
    (member : order ∈ next.orders) (pending : order.status = .pending)
    (accepted : order.id ∈ next.broker.accepted) :
    HasMessage next order.id ∨
      order ∈ world.orders ∧ order.id ∈ world.broker.accepted := by
  have changed := step_broker stepped
  rcases (step_orders stepped).pending_origin member pending with
    old | ⟨position, outcome, input, rfl, found⟩
  · generalize reached : next.broker = broker at changed accepted
    cases changed with
    | published index outcome input row found applies =>
        rcases List.mem_cons.mp accepted with same | before
        · refine Or.inl (Or.inl ⟨⟨row.id, world.now⟩, ?_, same.symm⟩)
          rw [reached]
          exact List.mem_append_right _ (List.mem_singleton_self _)
        · exact Or.inr ⟨old, before⟩
    | _ => exact Or.inr ⟨old, accepted⟩
  · have before : order.id ∈ world.broker.accepted := by
      generalize next.broker = broker at changed accepted
      cases changed with
      | published _ _ otherInput row publishing applies =>
          rw [found] at publishing
          cases publishing
      | unchanged => exact accepted
    obtain ⟨twin, twinMember, sameId⟩ :=
      sound.broker.accepted order.id before
    exact absurd sameId
      (sound.ids.uncommitted position _ order found rfl twin twinMember)

private theorem messagesKept_step {env : Environment} {world next : World}
    {action : Action} (sound : Sound env world)
    (marks : DeliveriesMark world) (kept : MessagesKept world)
    (guarded : SettlesMarked world action)
    (stepped : step env world action = some next) : MessagesKept next := by
  intro order member pending accepted
  rcases accepted_before sound stepped member pending accepted with
    published | ⟨old, known⟩
  · exact published
  · have present := kept order old pending known
    rcases hasMessage_step stepped present with
      still | ⟨index, progress, delivery, rfl, found, answered⟩
    · exact still
    · rcases marked_of_settlement answered with marked | rfl
      · exact absurd pending
          (marks index _ found Delivery.noConfusion marked order old rfl)
      · exact absurd pending (guarded index rfl _ found rfl order old rfl)

/-- In every run in which no delivery is settled that failed at its
compare-and-set while its order is `PENDING`, no message is lost before it
took effect. -/
theorem messagesKept_of_settlesMarked {env : Environment} {origin : Instant}
    {history : List (World × Action)} {world : World}
    (run : Trace (step env) (World.init origin) history world)
    (guarded : StepsMeet SettlesMarked history) :
    ∀ reached ∈ visited history world, MessagesKept reached := by
  refine Trace.forall_visited SettlesMarked MessagesKept ?_ run guarded
  intro past current runHere guardedHere
  have both : DeliveriesMark current ∧ MessagesKept current := by
    refine Trace.invariantWith SettlesMarked
      (fun _ reached => DeliveriesMark reached ∧ MessagesKept reached)
      ?_ ?_ runHere guardedHere
    · constructor
      · intro index call found
        cases found
      · intro order member
        cases member
    · intro earlier before action after runBefore inductionHypothesis
        settling stepped
      have sound := Trace.sound runBefore
      exact
        ⟨deliveriesMark_step sound inductionHypothesis.1 stepped,
          messagesKept_step sound inductionHypothesis.1
            inductionHypothesis.2 settling stepped⟩
  exact both.2

/-- A clean-up fails at its first release and its delivery is rejected; the
order has moved already. -/
def failBehindMark : List Action :=
  lockSeatRun 0 ⟨10, 1, 7⟩ ++ createOrderRun 0 ⟨10, 1, [7], "first"⟩ ++
    [.tick 900000, .deadLetter 0, .deliver 0, .expireAwait 0 .resolves,
      .expireAwait 0 .resolves, .expireAwait 0 (.rejects false), .settle 0]

private theorem failBehindMark_enabled :
    (replay (step smallVenue) [] (World.init 0) failBehindMark).isSome =
      true := by
  decide

theorem messagesKept_failBehindMark :
    MessagesKept
      ((replay (step smallVenue) [] (World.init 0) failBehindMark).get
        failBehindMark_enabled).2 :=
  messagesKept_of_settlesMarked
    (Trace.of_replay_get failBehindMark failBehindMark_enabled)
    (by decide) _ List.mem_cons_self

/-- The database refuses the compare-and-set of the only delivery. -/
def failAtMark : List Action :=
  lockSeatRun 0 ⟨10, 1, 7⟩ ++ createOrderRun 0 ⟨10, 1, [7], "first"⟩ ++
    [.tick 900000, .deadLetter 0, .deliver 0,
      .expireAwait 0 (.rejects false), .settle 0]

/-- Not every run keeps the messages of `PENDING` orders. -/
theorem messageLoss_reachable :
    ¬ ∀ (env : Environment) (origin : Instant)
        (history : List (World × Action)) (world : World),
      Trace (step env) (World.init origin) history world →
      MessagesKept world := by
  intro always
  obtain ⟨history, world, run, checked⟩ :=
    Trace.exists_of_replay (step smallVenue) (World.init 0) failAtMark
      (fun result =>
        decide (∃ order ∈ result.2.orders,
          order.status = .pending ∧ order.id ∈ result.2.broker.accepted ∧
            result.2.broker.delayQueue = [] ∧
            result.2.broker.timeoutQueue = [] ∧
            ∀ call ∈ result.2.expireCalls,
              call.input.delivery ≠ .unsettled))
      (by decide)
  obtain ⟨order, member, pending, accepted, noDelay, noTimeout, settled⟩ :=
    of_decide_eq_true checked
  rcases always smallVenue 0 history world run order member pending accepted
    with ⟨message, delayed, _⟩ | timedOut | ⟨call, inFlight, same⟩
  · rw [noDelay] at delayed
    cases delayed
  · rw [noTimeout] at timedOut
    cases timedOut
  · exact settled call inFlight (congrArg ExpireRequest.delivery same)

end ConcertTicketing.Booking
