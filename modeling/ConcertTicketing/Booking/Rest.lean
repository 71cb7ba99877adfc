import ConcertTicketing.Booking.MissingTimer
import ConcertTicketing.Booking.ActiveRows
import ConcertTicketing.Booking.WorkLeft

/-!
# The system comes to rest

An insert waits for the transaction of another call with the same key, a
clean-up for the store, a delivery for its handler.  None of this can last: when
no request comes in and nothing fails, every order of steps uses up the work
that is left, and when nothing can be done any more and all messages are due,
nothing is left to do.  Then an order is still `PENDING` only if its message has
never been published, or if a delivery of it was rejected because the
compare-and-set failed.

The runs are those in which no connection is lost under a handler that goes on:
such a handler would settle on the channel of the next connection, and what it
settles there is not part of this system.
-/

namespace ConcertTicketing.Booking

open SeatLock Redis

/-- A delivery has been rejected whose compare-and-set failed. -/
def RejectedAtMark (world : World) (orderId : OrderId) : Prop :=
  ∃ call ∈ world.expireCalls,
    call.input = ⟨orderId, .nacked⟩ ∧
      call.progress = .failed .markExpired false

/-- A delivery comes back to the queue only when the process of its handler has
stopped. -/
def KeepsChannel (world : World) : Action → Prop
  | .requeue index =>
      ∃ call ∈ world.expireCalls[index]?, call.progress.isStopped = true
  | _ => True

instance (world : World) : DecidablePred (KeepsChannel world)
  | .requeue index =>
      inferInstanceAs (Decidable (∃ call ∈ world.expireCalls[index]?, _))
  | .tick _ => isTrue trivial
  | .lockSeat _ => isTrue trivial
  | .releaseSeat _ => isTrue trivial
  | .createOrder _ => isTrue trivial
  | .expireOrder _ => isTrue trivial
  | .lockAwait _ _ => isTrue trivial
  | .releaseAwait _ _ => isTrue trivial
  | .createAwait _ _ => isTrue trivial
  | .expireAwait _ _ => isTrue trivial
  | .deadLetter _ => isTrue trivial
  | .deliver _ => isTrue trivial
  | .settle _ => isTrue trivial

/-- Every handler that has ended has settled its own delivery. -/
def RequeuedStopped (world : World) : Prop :=
  ∀ call ∈ world.expireCalls, call.input.delivery = .requeued →
    call.progress.isStopped = true

/-- No call is pending, and the broker has nothing to do. -/
structure Rested (world : World) : Prop where
  calls : AtRest world
  delayed : world.broker.delayQueue = []
  timedOut : world.broker.timeoutQueue = []
  settled : ∀ call ∈ world.expireCalls, call.input.delivery ≠ .unsettled
  requeued : RequeuedStopped world
  orders : ∀ order ∈ world.orders, order.status = .pending →
    (∃ row ∈ world.unarmed, row.id = order.id) ∨
      RejectedAtMark world order.id

/-- The time of every message in `delay.q` has run out. -/
def AllDue (env : Environment) (world : World) : Prop :=
  ∀ message ∈ world.broker.delayQueue,
    message.publishedAt + env.bookingWindowMs ≤ world.now

/-- The message of a `PENDING` order is there, or it has been rejected. -/
def LostRejected (world : World) : Prop :=
  ∀ order ∈ world.orders, order.status = .pending →
    order.id ∈ world.broker.accepted →
    HasMessage world order.id ∨ RejectedAtMark world order.id

private theorem rejectedAtMark_next {env : Environment} {world next : World}
    {action : Action} (stepped : step env world action = some next)
    {orderId : OrderId} (rejected : RejectedAtMark world orderId) :
    RejectedAtMark next orderId := by
  obtain ⟨call, member, input, failed⟩ := rejected
  have keeps : ∀ {index : Nat} {before : ExpireCall} (after : ExpireCall),
      world.expireCalls[index]? = some before → before ≠ call →
      ∃ kept ∈ world.expireCalls.set index after,
        kept.input = ⟨orderId, .nacked⟩ ∧
          kept.progress = .failed .markExpired false := by
    intro index before after found different
    rcases Call.mem_set_of_mem found after member with kept | same
    · exact ⟨call, kept, input, failed⟩
    · exact absurd same.symm different
  cases step_cases stepped with
  | expireRequested other =>
      exact ⟨call, List.mem_append_left _ member, input, failed⟩
  | delivered index other found =>
      exact ⟨call, List.mem_append_left _ member, input, failed⟩
  | expireAwaited index outcome request stage progress after found awaited =>
      refine keeps _ found ?_
      rintro rfl
      cases failed
  | settled index other progress delivery found answered =>
      refine keeps _ found ?_
      rintro rfl
      cases input
  | requeued index other progress found =>
      refine keeps _ found ?_
      rintro rfl
      cases input
  | _ => exact ⟨call, member, input, failed⟩

private theorem lostRejected_step {env : Environment} {world next : World}
    {action : Action} (sound : Sound env world)
    (marks : DeliveriesMark world) (lost : LostRejected world)
    (stepped : step env world action = some next) : LostRejected next := by
  intro order member pending accepted
  rcases accepted_before sound stepped member pending accepted with
    new | ⟨old, known⟩
  · exact Or.inl new
  · rcases lost order old pending known with present | rejected
    · rcases hasMessage_step stepped present with
        still | ⟨index, progress, delivery, rfl, found, answered⟩
      · exact Or.inl still
      · rcases marked_of_settlement answered with marked | rfl
        · exact absurd pending
            (marks index _ found Delivery.noConfusion marked order old rfl)
        · cases answered
          cases step_cases stepped with
          | settled _ other progress delivery foundAgain answered =>
              rw [found] at foundAgain
              cases foundAgain
              cases answered
              exact Or.inr ⟨_, Call.mem_set_self found _, rfl, rfl⟩
    · exact Or.inr (rejectedAtMark_next stepped rejected)

private theorem requeuedStopped_init (origin : Instant) :
    RequeuedStopped (World.init origin) := by
  intro call member
  cases member

private theorem requeuedStopped_step {env : Environment} {world next : World}
    {action : Action} (stopped : RequeuedStopped world)
    (keeps : KeepsChannel world action)
    (stepped : step env world action = some next) :
    RequeuedStopped next := by
  intro call member requeued
  cases step_cases stepped with
  | expireRequested orderId =>
      rcases List.mem_append.mp member with old | new
      · exact stopped call old requeued
      · rw [List.mem_singleton.mp new] at requeued
        cases requeued
  | delivered index orderId queued =>
      rcases List.mem_append.mp member with old | new
      · exact stopped call old requeued
      · rw [List.mem_singleton.mp new] at requeued
        cases requeued
  | expireAwaited index outcome request stage progress after found awaited =>
      rcases List.mem_or_eq_of_mem_set member with old | rfl
      · exact stopped call old requeued
      · have running := stopped _ (List.mem_of_getElem? found) requeued
        cases running
  | settled index orderId progress delivery found answered =>
      rcases List.mem_or_eq_of_mem_set member with old | rfl
      · exact stopped call old requeued
      · obtain rfl : delivery = .requeued := requeued
        cases progress <;> cases answered
  | requeued index orderId progress found =>
      rcases List.mem_or_eq_of_mem_set member with old | rfl
      · exact stopped call old requeued
      · obtain ⟨handler, sameHandler, hasStopped⟩ := keeps
        rw [found] at sameHandler
        cases sameHandler
        exact hasStopped
  | _ => exact stopped call member requeued

private theorem requeuedStopped_of_run {env : Environment} {start world : World}
    {history : List (World × Action)}
    (run : Trace (step env) start history world)
    (keeps : StepsMeet KeepsChannel history)
    (stopped : RequeuedStopped start) : RequeuedStopped world :=
  run.invariantUnder KeepsChannel RequeuedStopped stopped
    (fun _ _ _ before keepsHere stepped =>
      requeuedStopped_step before keepsHere stepped) keeps

private theorem keepsChannel_of_undisturbed {world : World} {action : Action}
    (undisturbed : Undisturbed world action) : KeepsChannel world action := by
  cases action with
  | requeue index =>
      rcases undisturbed with ticks | works
      · cases ticks
      · exact works
  | _ => trivial

/-- A loop over seats is at one of them. -/
def LoopsInside (world : World) : Prop :=
  ∀ (index : Nat) (call : ExpireCall) (result : ExpireResult)
      (position : Nat),
    world.expireCalls[index]? = some call →
    call.progress = .running (.releaseHold result position) →
    position < result.seatIds.length

private theorem releaseFrom_inside {result looping : ExpireResult}
    {start position : Nat}
    (reached : releaseFrom result start =
      .running (.releaseHold looping position)) :
    position < looping.seatIds.length := by
  unfold releaseFrom at reached
  split at reached
  · next inside =>
      cases reached
      exact inside
  · cases reached

private theorem loopsInside_step {env : Environment} {world next : World}
    {action : Action} (inside : LoopsInside world)
    (stepped : step env world action = some next) : LoopsInside next := by
  intro index call result position reached looping
  cases step_expireCalls stepped reached with
  | kept _ _ found => exact inside index call result position found looping
  | requested orderId _ new =>
      rw [new] at looping
      cases looping
  | delivered _ orderId _ _ new =>
      rw [new] at looping
      cases looping
  | awaited outcome stage found awaited =>
      rw [looping] at awaited
      rcases expireOrder_await awaited with ⟨_, resolved⟩ | failed | stopped
      · generalize progress : Progress.running
          (ExpireStage.releaseHold result position) = progressed at resolved
        generalize next.toStores = after at resolved
        cases resolved with
        | marked => cases progress
        | read changed =>
            unfold orderFound at progress
            split at progress
            · cases progress
            · split at progress
              · exact releaseFrom_inside progress.symm
              · cases progress
        | released looped earlier seatId here =>
            exact releaseFrom_inside progress.symm
        | settled => cases progress
      · cases failed
      · cases stopped
  | answered _ found _ =>
      exact inside index _ result position found looping

/-- No message has been published in the future. -/
def PublishedBefore (world : World) : Prop :=
  ∀ message ∈ world.broker.delayQueue, message.publishedAt ≤ world.now

private theorem publishedBefore_step {env : Environment} {world next : World}
    {action : Action} (published : PublishedBefore world)
    (stepped : step env world action = some next) :
    PublishedBefore next := by
  have later := step_now_le stepped
  have changed := step_broker stepped
  intro message delayed
  have old : message ∈ world.broker.delayQueue →
      message.publishedAt ≤ next.now :=
    fun before => (published message before).trans later
  generalize next.broker = broker at changed delayed
  cases changed with
  | published index outcome input row found applies =>
      rcases List.mem_append.mp delayed with before | new
      · exact old before
      · rw [List.mem_singleton.mp new]
        exact later
  | deadLettered => exact old (List.mem_of_mem_eraseIdx delayed)
  | _ => exact old delayed

structure Orderly (env : Environment) (world : World) : Prop where
  sound : Sound env world
  armed : ArmedOrNot world
  marks : DeliveriesMark world
  lost : LostRejected world
  inside : LoopsInside world
  published : PublishedBefore world

private theorem orderly_init (env : Environment) (origin : Instant) :
    Orderly env (World.init origin) where
  sound := sound_init env origin
  armed := armedOrNot_init origin
  marks := by
    intro index call found
    cases found
  lost := by
    intro order member
    cases member
  inside := by
    intro index call result position found
    cases found
  published := by
    intro message member
    cases member

theorem Orderly.step {env : Environment} {world next : World}
    {action : Action} (orderly : Orderly env world)
    (stepped : step env world action = some next) : Orderly env next where
  sound := sound_step orderly.sound stepped
  armed := armedOrNot_step orderly.sound orderly.armed stepped
  marks := deliveriesMark_step orderly.sound orderly.marks stepped
  lost := lostRejected_step orderly.sound orderly.marks orderly.lost stepped
  inside := loopsInside_step orderly.inside stepped
  published := publishedBefore_step orderly.published stepped

private theorem orderly_of_run {env : Environment} {origin : Instant}
    {history : List (World × Action)} {world : World}
    (run : Trace (step env) (World.init origin) history world) :
    Orderly env world :=
  run.invariant (Orderly env) (orderly_init env origin)
    fun _ _ _ orderly stepped => orderly.step stepped

/-! ## Nothing left to do -/

section Enabled

variable {env : Environment} {world : World}

private theorem advance_resolves {ι τ σ ρ : Type}
    {function : ι → AsyncFunction τ σ ρ} {calls : List (Call ι σ ρ)}
    {index : Nat} {input : ι} {stage : σ} {stores : τ}
    (found : calls[index]? = some ⟨input, .running stage⟩)
    (enabled : ((function input).resolve stores stage).isSome = true) :
    (Call.advance function calls index .resolves stores).isSome = true := by
  simp only [Call.advance, found, AsyncFunction.await, Option.isSome_map]
  exact enabled

/-- Calls that cannot be stuck have ended when nothing works. -/
theorem ended_of_stuck {ι τ σ ρ : Type} (function : ι → AsyncFunction τ σ ρ)
    (stores : τ) {calls : List (Call ι σ ρ)}
    (enabled : ∀ (index : Nat) (input : ι) (stage : σ),
      calls[index]? = some ⟨input, .running stage⟩ →
      ((function input).resolve stores stage).isSome = true)
    (stuck : ∀ index,
      Call.advance function calls index .resolves stores = none) :
    ∀ call ∈ calls, call.progress.isRunning = false := by
  rintro ⟨input, progress⟩ member
  obtain ⟨index, found⟩ := List.mem_iff_getElem?.mp member
  cases progress with
  | running stage =>
      have works := advance_resolves found (enabled index input stage found)
      rw [stuck index] at works
      cases works
  | failed _ _ => rfl
  | stopped _ => rfl
  | finished _ => rfl

private theorem locks_ended (stuck : Stuck (step env) Works world) :
    ∀ call ∈ world.lockCalls, call.progress.isRunning = false := by
  refine ended_of_stuck (lockSeat env) world.toStores ?_ ?_
  · intro index input stage _
    cases stage with
    | acquire => rfl
    | findActive =>
        simp only [lockSeat]
        split <;> rfl
    | recordAcquired expiresAt =>
        simp only [lockSeat]
        split <;> rfl
  · intro index
    exact Option.map_eq_none_iff.mp (stuck (.lockAwait index .resolves) rfl)

private theorem releases_ended (stuck : Stuck (step env) Works world) :
    ∀ call ∈ world.releaseCalls, call.progress.isRunning = false := by
  refine ended_of_stuck releaseSeat world.toStores ?_ ?_
  · intro index input stage _
    cases stage <;> rfl
  · intro index
    exact Option.map_eq_none_iff.mp
      (stuck (.releaseAwait index .resolves) rfl)

/-- A transaction that is open can go on, so none is. -/
theorem uncommitted_ended (stuck : Stuck (step env) Works world) :
    world.uncommitted = [] := by
  unfold World.uncommitted
  rw [List.filterMap_eq_nil_iff]
  rintro ⟨input, progress⟩ member
  obtain ⟨index, found⟩ := List.mem_iff_getElem?.mp member
  have closed : ∀ stage, progress = .running stage →
      ((createOrder env world.uncommitted input).resolve world.toStores
        stage).isSome = true → False := by
    rintro stage rfl enabled
    have works := step_createAwait_isSome found enabled
    rw [stuck (.createAwait index .resolves) rfl] at works
    cases works
  cases progress with
  | running stage =>
      cases stage with
      | extendHold row => exact (closed _ rfl rfl).elim
      | commit row => exact (closed _ rfl rfl).elim
      | _ => rfl
  | failed _ _ => rfl
  | stopped _ => rfl
  | finished _ => rfl

private theorem creates_ended (stuck : Stuck (step env) Works world) :
    ∀ call ∈ world.createCalls, call.progress.isRunning = false := by
  have alone := uncommitted_ended stuck
  refine ended_of_stuck (createOrder env world.uncommitted) world.toStores
    ?_ ?_
  · intro index input stage _
    rw [alone]
    cases stage with
    | loadSeatPricing =>
        simp only [createOrder]
        split <;> rfl
    | insertOrder data =>
        simp only [createOrder, List.any_nil, Bool.false_eq_true, if_false]
        split
        · rfl
        · split <;> rfl
    | _ => rfl
  · intro index
    exact Option.map_eq_none_iff.mp
      (stuck (.createAwait index .resolves) rfl)

private theorem expires_ended (inside : LoopsInside world)
    (stuck : Stuck (step env) Works world) :
    ∀ call ∈ world.expireCalls, call.progress.isRunning = false := by
  refine ended_of_stuck
    (fun request : ExpireRequest => expireOrder request.orderId)
    world.toStores ?_ ?_
  · intro index request stage found
    cases stage with
    | releaseHold result position =>
        have here := inside index _ result position found rfl
        simp only [expireOrder, List.getElem?_eq_getElem here]
        rfl
    | _ => rfl
  · intro index
    exact Option.map_eq_none_iff.mp
      (stuck (.expireAwait index .resolves) rfl)

/-- The broker sees every delivery settled, or takes it back. -/
theorem deliveries_settled (inside : LoopsInside world)
    (stuck : Stuck (step env) Works world) :
    ∀ call ∈ world.expireCalls, call.input.delivery ≠ .unsettled := by
  rintro ⟨⟨orderId, delivery⟩, progress⟩ member unsettled
  obtain rfl : delivery = .unsettled := unsettled
  obtain ⟨index, found⟩ := List.mem_iff_getElem?.mp member
  have notSettled := stuck (.settle index) trivial
  simp only [step, found, Option.map_eq_none_iff] at notSettled
  cases progress with
  | running stage =>
      have ended := expires_ended inside stuck _ member
      cases ended
  | failed stage applied => cases notSettled
  | finished result => cases notSettled
  | stopped stage =>
      have notRequeued := stuck (.requeue index) ⟨_, found, rfl⟩
      simp only [step, found] at notRequeued
      cases notRequeued

private theorem timeoutQueue_empty (stuck : Stuck (step env) Works world) :
    world.broker.timeoutQueue = [] := by
  have notDelivered := stuck (.deliver 0) trivial
  cases queued : world.broker.timeoutQueue with
  | nil => rfl
  | cons orderId rest =>
      simp [step, queued] at notDelivered

private theorem delayQueue_empty (due : AllDue env world)
    (stuck : Stuck (step env) Works world) :
    world.broker.delayQueue = [] := by
  have notMoved := stuck (.deadLetter 0) trivial
  cases queued : world.broker.delayQueue with
  | nil => rfl
  | cons message rest =>
      have isDue := due message (by rw [queued]; exact List.mem_cons_self)
      simp [step, deadLetter, queued, isDue] at notMoved

/-- A world in which nothing works is at rest. -/
theorem rested_of_stuck (orderly : Orderly env world)
    (stopped : RequeuedStopped world) (due : AllDue env world)
    (stuck : Stuck (step env) Works world) : Rested world where
  calls := ⟨locks_ended stuck, releases_ended stuck, creates_ended stuck,
    expires_ended orderly.inside stuck⟩
  delayed := delayQueue_empty due stuck
  timedOut := timeoutQueue_empty stuck
  settled := deliveries_settled orderly.inside stuck
  requeued := stopped
  orders := by
    intro order member pending
    rcases orderly.armed.cover order member with accepted | unarmed
    · rcases orderly.lost order member pending accepted with
        present | rejected
      · rcases present with ⟨message, delayed, _⟩ | timedOut |
          ⟨call, inFlight, input⟩
        · rw [delayQueue_empty due stuck] at delayed
          cases delayed
        · rw [timeoutQueue_empty stuck] at timedOut
          cases timedOut
        · exact absurd (congrArg ExpireRequest.delivery input)
            (deliveries_settled orderly.inside stuck call inFlight)
      · exact Or.inr rejected
    · exact Or.inl unarmed

end Enabled

/-! ## Working to the end -/

section Runs

variable {env : Environment} {origin : Instant} {world next : World}
  {action : Action} {history : List (World × Action)}

private theorem effect_now {db after : SeatStore} {op : SeatOp}
    (effect : op.Effect db after) (timeless : ∀ elapsed, op ≠ .tick elapsed) :
    after.now = db.now := by
  cases effect with
  | ticked elapsed => exact absurd rfl (timeless elapsed)
  | extended => exact extended_now _ _ _ _
  | _ => rfl

/-- Work takes no time. -/
theorem now_of_works (works : Works world action)
    (stepped : step env world action = some next) : next.now = world.now := by
  rcases step_redis_effect stepped with ⟨_, same⟩ | ⟨op, runs, effect⟩
  · exact congrArg Db.now same
  · refine effect_now effect ?_
    rintro elapsed rfl
    cases script_cases runs with
    | tick => exact works.elim

/-- What nothing but a publish can change. -/
structure Quiet (env : Environment) (instant : Instant) (world : World) :
    Prop where
  orderly : Orderly env world
  creates : ∀ call ∈ world.createCalls, call.progress.isRunning = false
  due : AllDue env world
  now : world.now = instant

theorem Quiet.step {instant : Instant} (quiet : Quiet env instant world)
    (works : Works world action)
    (stepped : step env world action = some next) :
    Quiet env instant next where
  orderly := quiet.orderly.step stepped
  creates := by
    intro call member
    obtain ⟨index, reached⟩ := List.mem_iff_getElem?.mp member
    cases step_createCalls stepped reached with
    | kept _ _ found => exact quiet.creates call (List.mem_of_getElem? found)
    | requested input new => exact works.elim
    | awaited outcome stage found awaited =>
        have ended := quiet.creates _ (List.mem_of_getElem? found)
        cases ended
  due := by
    intro message delayed
    rw [now_of_works works stepped]
    have changed := step_broker stepped
    generalize next.broker = broker at changed delayed
    cases changed with
    | published index outcome input row found applies =>
        have ended := quiet.creates _ (List.mem_of_getElem? found)
        cases ended
    | deadLettered => exact quiet.due message (List.mem_of_mem_eraseIdx delayed)
    | _ => exact quiet.due message delayed
  now := (now_of_works works stepped).trans quiet.now

/-- When no call can publish any more, the messages that are left are due one
booking window later. -/
theorem quiet_tick (orderly : Orderly env world)
    (stuck : Stuck (Booking.step env) Works world)
    (ticked : step env world (.tick env.bookingWindowMs.toNat) = some next) :
    Quiet env (world.now + env.bookingWindowMs.toNat) next := by
  have orderlyNext := orderly.step ticked
  have ended := creates_ended stuck
  cases ticked
  refine ⟨orderlyNext, ended, ?_, rfl⟩
  intro message delayed
  have published := orderly.published message delayed
  have window := Int.self_le_toNat env.bookingWindowMs
  exact add_le_add published window

private theorem workLeft_lt (orderly : Orderly env world)
    (works : Works world action)
    (stepped : step env world action = some next) :
    workLeft next < workLeft world :=
  (workLeft_step orderly.sound.rows (Or.inr works) stepped).2 works

private theorem undisturbed_of_works {steps : List (World × Action)}
    (worked : StepsMeet Works steps) : StepsMeet Undisturbed steps :=
  fun entry member => Or.inr (worked entry member)

end Runs

/-- The process that expires the first order has stopped, and the message is in
the queue again.  An insert waits for the store and a lock for its audit
row. -/
def midSale : List Action :=
  lockSeatRun 0 ⟨10, 1, 7⟩ ++ createOrderRun 0 ⟨10, 1, [7], "first"⟩ ++
    [.tick 900000, .deadLetter 0, .deliver 0, .expireAwait 0 .stops,
      .requeue 0, .lockSeat ⟨11, 1, 8⟩, .lockAwait 1 .resolves,
      .createOrder ⟨11, 1, [8], "second"⟩, .createAwait 1 .resolves,
      .createAwait 1 .resolves]

private theorem midSale_enabled :
    (replay (step smallVenue) [] (World.init 0) midSale).isSome = true := by
  decide

def afterMidSale : List (World × Action) × World :=
  (replay (step smallVenue) [] (World.init 0) midSale).get midSale_enabled

private theorem midSale_keepsChannel :
    StepsMeet KeepsChannel afterMidSale.1 := by
  decide

/-- The lock is recorded, and the message delivered again. -/
def goingOn : List Action := [.lockAwait 1 .resolves, .deliver 0]

private theorem goingOn_enabled :
    (replay (step smallVenue) [] afterMidSale.2 goingOn).isSome = true := by
  decide

private theorem goingOn_undisturbed :
    StepsMeet Undisturbed
      ((replay (step smallVenue) [] afterMidSale.2 goingOn).get
        goingOn_enabled).1 := by
  decide

end ConcertTicketing.Booking
