import ConcertTicketing.Booking.Effects
import ConcertTicketing.Queue.UseCases

/-!
# What the controllers answer

`SeatLockController`, `OrderController` and `QueueController` answer with the
result of the use-case, or turn its error into an HTTP exception with the code
and the message of the error.  Everything that such an error names comes from
the request that it answers, whatever else runs at the same time.
-/

namespace ConcertTicketing.Booking

open SeatLock

/-- An `HttpException` of the framework, with its status. -/
structure HttpException where
  status : Nat
  code : Option String
  message : String
  deriving DecidableEq, Repr

def OrderStatus.name : OrderStatus → String
  | .pending => "PENDING"
  | .paid => "PAID"
  | .expired => "EXPIRED"
  | .cancelled => "CANCELLED"

namespace SeatLockError

/-- `SEAT_LOCK_ERROR_CODES`. -/
def code : SeatLockError → String
  | .seatTaken _ => "SEAT_TAKEN"
  | .ticketLimitReached _ _ => "TICKET_LIMIT_REACHED"

def message : SeatLockError → String
  | .seatTaken seatId =>
      "Seat " ++ toString seatId ++ " is already locked by another user"
  | .ticketLimitReached userId max =>
      "User " ++ toString userId ++ " reached the seat hold limit of " ++
        toString max

def exception (error : SeatLockError) : HttpException where
  status :=
    match error with
    | .seatTaken _ => 409
    | .ticketLimitReached _ _ => 422
  code := some error.code
  message := error.message

/-- The error names the seat or the user of the request, and the limit. -/
def About (env : Environment) (input : LockSeatInput) : SeatLockError → Prop
  | .seatTaken seatId => seatId = input.seatId
  | .ticketLimitReached userId max =>
      userId = input.userId ∧ max = env.maxSeatsPerUser

end SeatLockError

def ReleaseSeatError.exception : ReleaseSeatError → HttpException
  | .forbidden =>
      ⟨403, none, "You do not own a lock on this seat (or it has expired)"⟩

namespace OrderError

/-- `ORDER_ERROR_CODES`. -/
def code : OrderError → String
  | .seatHoldExpired _ => "SEAT_HOLD_EXPIRED"
  | .seatNotPriceable _ => "SEAT_NOT_PRICEABLE"
  | .orderKeyConsumed _ => "ORDER_KEY_CONSUMED"

def message : OrderError → String
  | .seatHoldExpired seatIds =>
      "Seat hold for " ++ String.intercalate "," (seatIds.map toString) ++
        " is expired or not owned by the user"
  | .seatNotPriceable seatId =>
      "Seat " ++ toString seatId ++
        " has no ticket type and cannot be priced"
  | .orderKeyConsumed none =>
      "Idempotency key already consumed by order unknown (GONE)"
  | .orderKeyConsumed (some (orderId, status)) =>
      "Idempotency key already consumed by order " ++ toString orderId ++
        " (" ++ status.name ++ ")"

def exception (error : OrderError) : HttpException where
  status :=
    match error with
    | .seatHoldExpired _ => 422
    | .seatNotPriceable _ => 422
    | .orderKeyConsumed _ => 409
  code := some error.code
  message := error.message

/-- The error names seats of the request, or an order that is no longer
`PENDING`. -/
def About (input : CreateOrderInput) : OrderError → Prop
  | .seatHoldExpired seatIds => seatIds ⊆ input.seatIds
  | .seatNotPriceable seatId => seatId ∈ input.seatIds
  | .orderKeyConsumed existing => ∀ found ∈ existing, found.2 ≠ .pending

end OrderError

structure OrderResponse where
  orderId : OrderId
  status : OrderStatus
  totalAmount : Cents
  expiresAt : Instant
  deriving DecidableEq, Repr

namespace OrderController

def toResponse (order : OrderEntity) : OrderResponse :=
  ⟨order.id, order.status, order.totalAmount, order.expiresAt⟩

/-- `OrderController.create` with the result of the use-case. -/
def create : Except OrderError CreateOrderOutput →
    Except HttpException (Nat × OrderResponse)
  | .ok output =>
      .ok (if output.replayed then 200 else 201, toResponse output.order)
  | .error error => .error error.exception

end OrderController

namespace SeatLockController

/-- `@HttpCode(200)`. -/
def lock : Except SeatLockError LockSeatOutput →
    Except HttpException (Nat × LockSeatOutput)
  | .ok output => .ok (200, output)
  | .error error => .error error.exception

/-- `@HttpCode(204)`. -/
def release : Except ReleaseSeatError Unit → Except HttpException Nat
  | .ok () => .ok 204
  | .error error => .error error.exception

end SeatLockController

section Requests

variable {env : Environment} {origin : Instant} {world next : World}
  {action : Action} {history : List (World × Action)}

private theorem mem_of_failedSeat {input : CreateOrderInput} {db : SeatStore}
    {seatId : SeatId}
    (failed : seatId ∈ input.failedSeat
      (verifyHeld input.eventId input.seatIds input.userId db)) :
    seatId ∈ input.seatIds := by
  have named : ∀ failedSeatId ∈ (verifyHeld input.eventId input.seatIds
      input.userId db).failedSeatId, failedSeatId ∈ input.seatIds := by
    intro failedSeatId isFailed
    rw [verifyHeld] at isFailed
    split at isFailed
    · cases isFailed
    · exact List.mem_of_getElem? isFailed
  rw [CreateOrderInput.failedSeat, Option.mem_toList] at failed
  rcases Option.or_eq_some_iff.mp failed with isFailed | ⟨_, isFirst⟩
  · exact named seatId isFailed
  · exact List.mem_of_mem_head? isFirst

private theorem priceSeat_error {eventId : EventId} {seatId failed : SeatId}
    (refused : priceSeat env eventId seatId = .error failed) :
    failed = seatId := by
  unfold priceSeat at refused
  split at refused
  · cases refused
    rfl
  · split at refused
    · cases refused
      rfl
    · split at refused
      · cases refused
        rfl
      · split at refused
        · cases refused
          rfl
        · cases refused

private theorem mem_of_loadSeatPricing_error {eventId : EventId}
    {seatIds : List SeatId} {failed : SeatId}
    (refused : loadSeatPricing env eventId seatIds = .error failed) :
    failed ∈ seatIds := by
  induction seatIds with
  | nil => cases refused
  | cons seatId rest inductionHypothesis =>
      rw [loadSeatPricing] at refused
      split at refused
      · next first =>
          cases refused
          rw [priceSeat_error first]
          exact List.mem_cons_self
      · split at refused
        · next later =>
            cases refused
            exact List.mem_cons_of_mem _ (inductionHypothesis later)
        · cases refused

private theorem resolveReplay_about {input : CreateOrderInput}
    {found : Option Order} {error : OrderError}
    (refused : resolveReplay found = .error error) : error.About input := by
  cases found with
  | none =>
      cases refused
      intro existing missing
      cases missing
  | some order =>
      simp only [resolveReplay] at refused
      split at refused
      · cases refused
      · next closed =>
          cases refused
          intro existing same
          cases same
          intro pending
          exact closed (decide_eq_true pending)

theorem LockResolved.about {input : LockSeatInput} {stores after : Stores}
    {stage : LockStage} {progress : LockProgress}
    (resolved : LockResolved env input stores stage after progress)
    {error : SeatLockError} (ended : progress = .finished (.error error)) :
    error.About env input := by
  cases resolved with
  | answered answer redis acquired =>
      unfold lockAnswered at ended
      split at ended
      · cases ended
      · cases ended
        exact rfl
      · cases ended
        exact ⟨rfl, rfl⟩
      · cases ended
      · cases ended
  | _ => cases ended

/-- An error of `LockSeatUseCase.execute` is about its input. -/
theorem lockSeat_about {input : LockSeatInput} {stores after : Stores}
    {stage : LockStage} {outcome : Await} {error : SeatLockError}
    (awaited : (lockSeat env input).await stores stage outcome =
      some (after, .finished (.error error))) : error.About env input := by
  rcases AsyncFunction.await_cases awaited with
    ⟨resolved, performed, _, ⟨_, same⟩ | ⟨_, same⟩⟩ |
      ⟨_, _, ⟨_, same⟩ | ⟨_, same⟩⟩
  · exact (lockSeat_resolved performed).about same.symm
  · cases stage <;> cases same
  · cases stage <;> cases same
  · cases same

theorem CreateResolved.about {uncommitted : List Order}
    {input : CreateOrderInput} {stores after : Stores} {stage : CreateStage}
    {progress : CreateProgress}
    (resolved :
      CreateResolved env uncommitted input stores stage after progress)
    (late : stage ≠ .verifyHeld) {error : OrderError}
    (ended : progress = .finished (.error error)) : error.About input := by
  cases resolved with
  | notHeld => exact absurd rfl late
  | notPriceable seatId refused =>
      cases ended
      exact mem_of_loadSeatPricing_error refused
  | rolledBack row lost =>
      cases ended
      exact List.Subset.refl _
  | replayed => exact resolveReplay_about (Progress.finished.inj ended)
  | _ => cases ended

/-- An error of `CreateOrderUseCase.execute` is about its input. -/
theorem createOrder_about {uncommitted : List Order}
    {input : CreateOrderInput} {stores after : Stores} {stage : CreateStage}
    {outcome : Await} {error : OrderError}
    (awaited : (createOrder env uncommitted input).await stores stage outcome =
      some (after, .finished (.error error))) : error.About input := by
  rcases AsyncFunction.resolves_or_ends (fun _ => rfl) awaited with
    ⟨_, performed⟩ | failed | stopped
  · by_cases early : stage = .verifyHeld
    · subst early
      simp only [createOrder, Option.some.injEq, Prod.mk.injEq] at performed
      obtain ⟨_, answered⟩ := performed
      split at answered
      · cases answered
      · cases answered
        intro seatId failed
        exact mem_of_failedSeat failed
    · exact (createOrder_resolved performed).about early rfl
  · cases failed
  · cases stopped

/-- Every error of a call is about its request. -/
structure ErrorsAbout (env : Environment) (world : World) : Prop where
  locks : ∀ (index : Nat) (call : LockCall) (error : SeatLockError),
    world.lockCalls[index]? = some call →
    call.progress = .finished (.error error) → error.About env call.input
  creates : ∀ (index : Nat) (call : CreateCall) (error : OrderError),
    world.createCalls[index]? = some call →
    call.progress = .finished (.error error) → error.About call.input

theorem ErrorsAbout.step (about : ErrorsAbout env world)
    (stepped : step env world action = some next) : ErrorsAbout env next where
  locks := by
    intro index call error reached ended
    cases step_lockCalls stepped reached with
    | kept _ found => exact about.locks index call error found ended
    | requested input new =>
        rw [new] at ended
        cases ended
    | awaited outcome stage found awaited =>
        rw [ended] at awaited
        exact lockSeat_about awaited
  creates := by
    intro index call error reached ended
    cases step_createCalls stepped reached with
    | kept _ _ found => exact about.creates index call error found ended
    | requested input new =>
        rw [new] at ended
        cases ended
    | awaited outcome stage found awaited =>
        rw [ended] at awaited
        exact createOrder_about awaited

/-- In every run, whatever runs at the same time, an error that a request is
answered with names what the request asked for. -/
theorem errorsAbout_of_run
    (run : Trace (step env) (World.init origin) history world) :
    ErrorsAbout env world := by
  refine run.invariant (ErrorsAbout env) ⟨?_, ?_⟩ ?_
  · intro index call error found
    cases found
  · intro index call error found
    cases found
  · intro before action after about stepped
    exact about.step stepped

end Requests

end ConcertTicketing.Booking

namespace ConcertTicketing.Queue

open Booking

namespace QueueError

/-- `QUEUE_ERROR_CODES`. -/
def code : QueueError → String
  | .queueClosed _ => "QUEUE_CLOSED"

def message : QueueError → String
  | .queueClosed eventId =>
      "Waiting room for event " ++ toString eventId ++ " is not open"

def exception (error : QueueError) : HttpException :=
  ⟨422, some error.code, error.message⟩

end QueueError

/-- `QueueController.join` with the result of the use-case. -/
def QueueController.join : Except QueueError JoinQueueOutput →
    Except HttpException (Nat × JoinQueueOutput)
  | .ok output => .ok (200, output)
  | .error error => .error error.exception

/-- An error of `JoinQueueUseCase.execute` is about its event. -/
theorem joinQueue_about {input : JoinQueueInput} {stage : JoinStage}
    {stores : QueueStores} {outcome : Await} {error : QueueError}
    (goes : Call.goOn perform joinQueue input stage stores outcome =
      .finished (.error error)) : error = .queueClosed input.eventId := by
  cases outcome with
  | rejects applied => cases goes
  | stops => cases goes
  | resolves =>
      cases stage with
      | getOpenRoom =>
          simp only [Call.goOn, joinQueue] at goes
          split at goes
          · cases goes
            rfl
          · cases goes
      | join room =>
          simp only [Call.goOn, joinQueue] at goes
          split at goes
          · cases goes
          · cases goes

/-- Every error of a request to join is about its event. -/
def JoinErrorsAbout (state : QueueState) : Prop :=
  ∀ (index : Nat) (input : JoinQueueInput) (error : QueueError),
    state.calls[index]? =
      some (.joinQueue ⟨input, .finished (.error error)⟩) →
    error = .queueClosed input.eventId

theorem joinErrorsAbout_of_run {rooms : WaitingRooms} {origin : Instant}
    {history : List (QueueState × QueueAction)} {state : QueueState}
    (run : Trace queueServer.step (QueueState.init rooms origin) history
      state) : JoinErrorsAbout state := by
  refine run.invariant JoinErrorsAbout ?_ ?_
  · intro index input error found
    cases found
  · intro before action after about stepped index input error reached
    generalize isCall : QueueCall.joinQueue
      ⟨input, .finished (.error error)⟩ = call at reached
    cases Server.step_calls stepped reached with
    | kept _ _ found =>
        subst call
        exact about index input error found
    | accepted request _ _ accepts _ =>
        cases request <;> cases accepts <;> cases isCall
    | answered outcome earlier pending _ found waits =>
        cases earlier with
        | joinQueue earlier =>
            obtain ⟨stage, atStage, rfl⟩ := hosts_joinQueue.running waits
            rw [atStage, hosts_joinQueue.answer] at isCall
            have same := QueueCall.joinQueue.inj isCall
            have sameInput : input = earlier.input :=
              congrArg Call.input same
            rw [sameInput]
            exact joinQueue_about (congrArg Call.progress same).symm
        | checkTurn earlier =>
            obtain ⟨stage, atStage, rfl⟩ := hosts_checkTurn.running waits
            rw [atStage, hosts_checkTurn.answer] at isCall
            cases isCall
        | admission earlier =>
            obtain ⟨stage, atStage, rfl⟩ := hosts_admission.running waits
            rw [atStage, hosts_admission.answer] at isCall
            cases isCall

end ConcertTicketing.Queue
