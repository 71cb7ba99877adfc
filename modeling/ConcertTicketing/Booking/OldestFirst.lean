import ConcertTicketing.Booking.Deliverable

/-!
# What runs the exchanges allow

The exchanges refuse nothing that the booking system does, as long as its
broker takes the oldest message of a queue: such a run is a run over the
exchanges, with the messages in the same order.
-/

namespace ConcertTicketing.Booking

open Amqp
open Messaging (timerRelay timerTopology timerLine ready_timerTopology)

/-- The broker takes the oldest message of a queue. -/
def OldestFirst : Action → Prop
  | .deadLetter index => index = 0
  | .deliver index => index = 0
  | _ => True

instance : DecidablePred OldestFirst
  | .deadLetter index => inferInstanceAs (Decidable (index = 0))
  | .deliver index => inferInstanceAs (Decidable (index = 0))
  | .tick _ | .lockSeat _ | .releaseSeat _ | .createOrder _
  | .expireOrder _ | .lockAwait _ _ | .releaseAwait _ _ | .createAwait _ _
  | .expireAwait _ _ | .settle _ | .requeue _ =>
      inferInstanceAs (Decidable True)

/-- The queues of the router are those of the broker, in their order. -/
structure Mirrors (env : Environment) (world : World) (deployed : Deployed) :
    Prop where
  calls : deployed.world = world.withoutQueues
  queues : timerRelay.Shows (timerTopology env.bookingWindowMs)
    (deployed.router, world.now) (timerLine world.broker, world.now)

/-- The step over the exchanges for a step of the booking system. -/
def Ahead (action : Action) (other : DeployedAction) : Prop :=
  Behind other action

section Steps

variable {env : Environment} {world after : World} {deployed : Deployed}

theorem Mirrors.presents (mirrors : Mirrors env world deployed) :
    Presents env deployed world where
  calls := mirrors.calls
  queues := ⟨world.broker.timeoutQueue, .refl _, mirrors.queues⟩

private theorem mirrors_init (origin : Instant)
    (nonnegative : 0 ≤ env.bookingWindowMs) :
    Mirrors env (World.init origin) (Deployed.init env origin) := by
  have presents := @presents_init env origin nonnegative
  obtain ⟨ready, sameReady, shows⟩ := presents.queues
  obtain rfl : ready = [] := sameReady.eq_nil
  exact ⟨presents.calls, shows⟩

theorem Mirrors.process (mirrors : Mirrors env world deployed)
    {action : Action} (process : action.atBroker = false)
    (stepped : step env world action = some after) :
    ∃ next, deployedStep env deployed (.process action) = some next ∧
      Mirrors env after next := by
  have presents := mirrors.presents
  have steppedBehind := step_behind env deployed.world
    world.broker.delayQueue world.broker.timeoutQueue (Or.inl process)
  rw [presents.behind, stepped] at steppedBehind
  obtain ⟨reached, steppedCalls, _⟩ :=
    Option.map_eq_some_iff.mp steppedBehind.symm
  obtain ⟨reachedAfter, router, steppedAgain, published, sameCalls,
    sameQueue, shows⟩ :=
    presents.reached mirrors.queues rfl process steppedCalls
  obtain rfl : reachedAfter = after :=
    Option.some.inj (steppedAgain.symm.trans stepped)
  refine ⟨⟨reached.withoutQueues, router⟩, ?_, sameCalls, ?_⟩
  · simp [deployedStep, process, steppedCalls, published]
  · have sameReady : (timerLine world.broker).ready =
        (timerLine reachedAfter.broker).ready := sameQueue.symm
    rw [sameReady] at shows
    exact shows

theorem Mirrors.deadLetter (mirrors : Mirrors env world deployed)
    (stepped : step env world (.deadLetter 0) = some after) :
    ∃ next, deployedStep env deployed .expire = some next ∧
      Mirrors env after next := by
  have sameNow := mirrors.presents.sameNow
  obtain ⟨moves, shows⟩ :=
    mirrors.queues.expire (ready_timerTopology env.bookingWindowMs)
  cases step_cases stepped with
  | deadLettered index message found due =>
      rw [← List.head?_eq_getElem?] at found
      obtain ⟨rest, waits⟩ := List.head?_eq_some_iff.mp found
      have lineMoves : (timerLine world.broker).expire env.bookingWindowMs
            world.now =
          some (timerLine
            { world.broker with
              delayQueue := world.broker.delayQueue.eraseIdx 0
              timeoutQueue :=
                world.broker.timeoutQueue ++ [message.orderId] }) := by
        simp [DelayLine.expire, timerLine, waits, due]
      rw [lineMoves] at moves shows
      obtain ⟨router, expired⟩ := Option.isSome_iff_exists.mp moves
      rw [expired] at shows
      refine ⟨{ deployed with router := router }, ?_, mirrors.calls, shows⟩
      simp [deployedStep, sameNow, expired]

theorem Mirrors.deliver (mirrors : Mirrors env world deployed)
    (stepped : step env world (.deliver 0) = some after) :
    ∃ next, deployedStep env deployed .deliver = some next ∧
      Mirrors env after next := by
  have presents := mirrors.presents
  cases step_cases stepped with
  | delivered index orderId found =>
      rw [← List.head?_eq_getElem?] at found
      obtain ⟨rest, waits⟩ := List.head?_eq_some_iff.mp found
      have shows := mirrors.queues
      rw [← presents.sameNow] at shows
      obtain ⟨next, steppedNext, delivered, showsNext⟩ :=
        deliver_head presents.quiet shows waits
      rw [presents.sameNow] at showsNext
      refine ⟨next, steppedNext, ?_, ?_⟩
      · rw [delivered, mirrors.calls]
        rfl
      · simpa [timerLine, waits, Stores.now] using showsNext

theorem Mirrors.requeue (mirrors : Mirrors env world deployed) (index : Nat)
    (stepped : step env world (.requeue index) = some after) :
    ∃ place next,
      deployedStep env deployed (.requeue index place) = some next ∧
      Mirrors env after next := by
  cases step_cases stepped with
  | requeued index orderId progress found =>
      have shows := mirrors.queues.takeBack_last
        (ready_timerTopology env.bookingWindowMs) orderId deployed.world.now
      have steppedNext : deployedStep env deployed
            (.requeue index deployed.router.messages.length) =
          some
            ⟨{ world.withoutQueues with
                expireCalls :=
                  world.expireCalls.set index
                    ⟨⟨orderId, .requeued⟩, progress⟩ },
              deployed.router.takeBack
                ⟨timerRelay.workQueue, timerRelay.routingKey, orderId,
                  deployed.world.now⟩
                deployed.router.messages.length⟩ := by
        rw [deployedStep, mirrors.calls]
        simp [step, World.withoutQueues, found, takeBackAll]
      exact ⟨_, _, steppedNext, rfl, shows⟩

end Steps

/-- A run of the booking system whose broker takes the oldest message first is,
state by state, a run over the exchanges. -/
theorem oldest_first_deployed {env : Environment} {origin : Instant}
    {history : List (World × Action)} {world : World}
    (nonnegative : 0 ≤ env.bookingWindowMs)
    (run : Trace (step env) (World.init origin) history world)
    (oldestFirst :
      StepsMeet (fun _ action => OldestFirst action) history) :
    ∃ newer deployed,
      Trace (deployedStep env) (Deployed.init env origin) newer deployed ∧
      List.Forall₂ (EntryRefines (Mirrors env) Ahead) history newer ∧
      Mirrors env world deployed := by
  refine run.invariantWith (fun _ action => OldestFirst action)
    (fun history world => ∃ newer deployed,
      Trace (deployedStep env) (Deployed.init env origin) newer deployed ∧
      List.Forall₂ (EntryRefines (Mirrors env) Ahead) history newer ∧
      Mirrors env world deployed)
    ⟨[], _, .nil, .nil, mirrors_init origin nonnegative⟩ ?_ oldestFirst
  intro history world action after _ soFar isOldest stepped
  obtain ⟨newer, deployed, runDeployed, entries, mirrors⟩ := soFar
  obtain ⟨other, next, ahead, steppedDeployed, mirrorsNext⟩ :
      ∃ other next, Ahead action other ∧
        deployedStep env deployed other = some next ∧
        Mirrors env after next := by
    cases process : action.atBroker with
    | false =>
        obtain ⟨next, steppedNext, mirrorsNext⟩ :=
          mirrors.process process stepped
        exact ⟨_, next, .process action, steppedNext, mirrorsNext⟩
    | true =>
        cases action with
        | deadLetter index =>
            obtain rfl : index = 0 := isOldest
            obtain ⟨next, steppedNext, mirrorsNext⟩ :=
              mirrors.deadLetter stepped
            exact ⟨_, next, .expire, steppedNext, mirrorsNext⟩
        | deliver index =>
            obtain rfl : index = 0 := isOldest
            obtain ⟨next, steppedNext, mirrorsNext⟩ := mirrors.deliver stepped
            exact ⟨_, next, .deliver 0, steppedNext, mirrorsNext⟩
        | requeue index =>
            obtain ⟨place, next, steppedNext, mirrorsNext⟩ :=
              mirrors.requeue index stepped
            exact ⟨_, next, .requeue index place, steppedNext, mirrorsNext⟩
        | _ => cases process
  exact ⟨(deployed, other) :: newer, next, runDeployed.snoc steppedDeployed,
    .cons ⟨mirrors, ahead⟩ entries, mirrorsNext⟩

def deliveredTwice : List Action :=
  lockSeatRun 0 ⟨10, 1, 7⟩ ++ createOrderRun 0 ⟨10, 1, [7], "first"⟩ ++
    [.tick 900000, .deadLetter 0, .deliver 0, .requeue 0, .deliver 0]

private theorem deliveredTwice_enabled :
    (replay (step smallVenue) [] (World.init 0) deliveredTwice).isSome =
      true := by
  decide

/-- The run of `deliveredTwice` and the state it ends in. -/
def afterDeliveredTwice : List (World × Action) × World :=
  (replay (step smallVenue) [] (World.init 0) deliveredTwice).get
    deliveredTwice_enabled

theorem oldest_first_deployed_twice :
    0 ≤ smallVenue.bookingWindowMs ∧
      StepsMeet (fun _ action => OldestFirst action) afterDeliveredTwice.1 ∧
      ∃ newer deployed,
        Trace (deployedStep smallVenue) (Deployed.init smallVenue 0) newer
          deployed ∧
        List.Forall₂ (EntryRefines (Mirrors smallVenue) Ahead)
          afterDeliveredTwice.1 newer ∧
        Mirrors smallVenue afterDeliveredTwice.2 deployed := by
  have nonnegative : 0 ≤ smallVenue.bookingWindowMs := by decide
  have oldestFirst :
      StepsMeet (fun _ action => OldestFirst action)
        afterDeliveredTwice.1 := by
    decide +kernel
  have run := Trace.of_replay_get deliveredTwice deliveredTwice_enabled
  exact ⟨nonnegative, oldestFirst,
    oldest_first_deployed nonnegative run oldestFirst⟩

end ConcertTicketing.Booking
