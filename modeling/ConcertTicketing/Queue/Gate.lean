import ConcertTicketing.Booking.System
import ConcertTicketing.Queue.Admission
import ConcertTicketing.Queue.UseCases

/-!
# The waiting room beside the booking

The booking and the queue share the clock and nothing else: `LockSeatUseCase`
and `ACQUIRE_LUA` read the locks and the held set, and no part of the booking
reads an admission token.  So the waiting room bounds the number of live
tokens, and it does not decide who acquires a seat.
-/

namespace ConcertTicketing.Queue

open Booking SeatLock

structure Ticketing where
  booking : World
  queue : QueueState

/-- A step of one module, or time passes for both. -/
inductive TicketingAction where
  | tick (elapsed : Nat)
  | booking (action : Booking.Action)
  | queue (action : QueueAction)

namespace Ticketing

def init (rooms : WaitingRooms) (origin : Instant) : Ticketing :=
  ⟨World.init origin, QueueState.init rooms origin⟩

end Ticketing

def bookingTicks : Booking.Action → Bool
  | .tick _ => true
  | _ => false

def queueTicks : QueueAction → Bool
  | .external (.tick _) => true
  | _ => false

/-- The clock of one module does not run on its own. -/
def ticketingStep (env : Environment) (state : Ticketing) :
    TicketingAction → Option Ticketing
  | .tick elapsed =>
      (Booking.step env state.booking (.tick elapsed)).bind fun booking =>
        (queueServer.step state.queue (.external (.tick elapsed))).map
          fun queue => ⟨booking, queue⟩
  | .booking action =>
      if bookingTicks action then none
      else
        (Booking.step env state.booking action).map fun booking =>
          { state with booking := booking }
  | .queue action =>
      if queueTicks action then none
      else
        (queueServer.step state.queue action).map fun queue =>
          { state with queue := queue }

namespace TicketingAction

def booking? : TicketingAction → Option Booking.Action
  | .tick elapsed => some (.tick elapsed)
  | .booking action => some action
  | .queue _ => none

def queue? : TicketingAction → Option QueueAction
  | .tick elapsed => some (.external (.tick elapsed))
  | .booking _ => none
  | .queue action => some action

def KeepsRooms : TicketingAction → Prop
  | .queue (.external (.editRooms _)) => False
  | _ => True

end TicketingAction

/-- A step of the system is a step of the booking or leaves it alone. -/
theorem ticketingStep_booking {env : Environment} {state next : Ticketing}
    {action : TicketingAction}
    (stepped : ticketingStep env state action = some next) :
    (∃ seen, action.booking? = some seen ∧
      Booking.step env state.booking seen = some next.booking) ∨
    (action.booking? = none ∧ next.booking = state.booking) := by
  cases action with
  | tick elapsed =>
      cases stepped
      exact Or.inl ⟨.tick elapsed, rfl, rfl⟩
  | booking action =>
      simp only [ticketingStep, Option.ite_none_left_eq_some,
        Option.map_eq_some_iff] at stepped
      obtain ⟨_, booking, taken, rfl⟩ := stepped
      exact Or.inl ⟨action, rfl, taken⟩
  | queue action =>
      simp only [ticketingStep, Option.ite_none_left_eq_some,
        Option.map_eq_some_iff] at stepped
      obtain ⟨_, queue, _, rfl⟩ := stepped
      exact Or.inr ⟨rfl, rfl⟩

/-- A step of the system is a step of the queue or leaves it alone. -/
theorem ticketingStep_queue {env : Environment} {state next : Ticketing}
    {action : TicketingAction}
    (stepped : ticketingStep env state action = some next) :
    (∃ seen, action.queue? = some seen ∧
      queueServer.step state.queue seen = some next.queue) ∨
    (action.queue? = none ∧ next.queue = state.queue) := by
  cases action with
  | tick elapsed =>
      cases stepped
      exact Or.inl ⟨.external (.tick elapsed), rfl, rfl⟩
  | booking action =>
      simp only [ticketingStep, Option.ite_none_left_eq_some,
        Option.map_eq_some_iff] at stepped
      obtain ⟨_, booking, _, rfl⟩ := stepped
      exact Or.inr ⟨rfl, rfl⟩
  | queue action =>
      simp only [ticketingStep, Option.ite_none_left_eq_some,
        Option.map_eq_some_iff] at stepped
      obtain ⟨_, queue, taken, rfl⟩ := stepped
      exact Or.inl ⟨action, rfl, taken⟩

def KeepsRooms : QueueAction → Prop
  | .external (.editRooms _) => False
  | _ => True

private theorem keepsRooms_of_queue {action : TicketingAction}
    {seen : QueueAction} (kept : action.KeepsRooms)
    (isSeen : action.queue? = some seen) :
    KeepsRooms seen := by
  cases action with
  | tick elapsed =>
      cases isSeen
      trivial
  | booking action => cases isSeen
  | queue action =>
      cases isSeen
      cases seen with
      | external event =>
          cases event with
          | tick elapsed => trivial
          | editRooms rooms => exact absurd kept id
      | request input => trivial
      | await index outcome => trivial

private theorem step_rooms {state next : QueueState} {action : QueueAction}
    (stepped : queueServer.step state action = some next)
    (keeps : KeepsRooms action) : next.stores.rooms = state.stores.rooms := by
  rcases Server.step_stores stepped with
    ⟨event, rfl, same⟩ | ⟨command, _, same⟩ | ⟨_, _, same⟩
  · rw [same]
    cases event with
    | tick elapsed => rfl
    | editRooms rooms => exact absurd keeps id
  · have performed : next.stores = (perform command state.stores).2 := same
    rw [performed, perform_stores]
  · rw [same]

/-- The rooms are those of the start, every live token is recorded, and the
active set of the event is within the cap. -/
structure WithinRoom (rooms : WaitingRooms) (room : WaitingRoomConfig)
    (history : List (QueueState × QueueAction)) (state : QueueState) :
    Prop where
  rooms : ∀ reached ∈ visited history state, reached.stores.rooms = rooms
  recorded : TokensRecorded state.stores.queue
  within : (activeUsers state.stores.queue room.eventId).card ≤
    room.maxConcurrent.toNat

theorem WithinRoom.step {rooms : WaitingRooms} {room : WaitingRoomConfig}
    {history : List (QueueState × QueueAction)} {state next : QueueState}
    {action : QueueAction}
    (opened : rooms.getOpenRoom room.eventId = some room)
    (read : RoomsRead history state)
    (holds : WithinRoom rooms room history state)
    (keeps : KeepsRooms action)
    (stepped : queueServer.step state action = some next) :
    WithinRoom rooms room ((state, action) :: history) next := by
  refine ⟨?_, ?_, ?_⟩
  · intro reached member
    rcases List.mem_cons.mp member with rfl | old
    · rw [step_rooms stepped keeps]
      exact holds.rooms state List.mem_cons_self
    · exact holds.rooms reached old
  · rw [step_queue stepped]
    cases storeOp? state action with
    | none => exact holds.recorded
    | some op => exact holds.recorded.apply op
  · rw [step_queue stepped]
    cases doing : storeOp? state action with
    | none => exact holds.within
    | some op =>
        apply activeWithin_apply holds.within
        cases op with
        | join eventId userId => trivial
        | admitUsers input =>
            intro sameEvent
            obtain ⟨index, other, rest, atAdmit, rfl⟩ :=
              admitUsers_of_storeOp doing
            obtain ⟨reached, member, found⟩ := read index other rest atAdmit
            have sameId : other.eventId = room.eventId := sameEvent
            rw [holds.rooms reached member, sameId, opened] at found
            rw [Option.some.inj found]
            rfl
        | getStatus eventId userId => trivial
        | tick elapsed => trivial

/-- No more users than `maxConcurrent` of an open room hold a live token. -/
theorem liveAtMost_of_keepsRooms {rooms : WaitingRooms} {origin : Instant}
    {history : List (QueueState × QueueAction)} {state : QueueState}
    (run : Trace queueServer.step (QueueState.init rooms origin) history
      state)
    (kept : StepsMeet (fun _ action => KeepsRooms action) history)
    {eventId : EventId} {room : WaitingRoomConfig}
    (opened : rooms.getOpenRoom eventId = some room) :
    LiveAtMost room.maxConcurrent.toNat eventId state.stores.queue := by
  have sameEvent := WaitingRooms.eventId_of_getOpenRoom opened
  rw [← sameEvent] at opened ⊢
  have reached : WithinRoom rooms room history state := by
    refine Trace.invariantWith (fun _ action => KeepsRooms action)
      (WithinRoom rooms room) ?_ ?_ run kept
    · refine ⟨?_, tokensRecorded_empty origin, Nat.zero_le _⟩
      intro other member
      rw [visited, List.map_nil, List.mem_singleton] at member
      rw [member]
      rfl
    · intro earlier before action next runBefore holds keeps stepped
      exact holds.step opened (roomsRead_of_run runBefore) keeps stepped
  apply reached.recorded.liveAtMost
  exact Int.ofNat_le.mpr reached.within

/-- The seat had no live lock and now has one of the caller. -/
def NewlyAcquires (input : LockSeatInput) (state next : Ticketing) : Prop :=
  holder state.booking.redis input.eventId input.seatId = none ∧
    holder next.booking.redis input.eventId input.seatId = some input.userId

/-- The seat has no live lock, and the caller is below the limit. -/
def Available (env : Environment) (input : LockSeatInput)
    (state : Ticketing) : Prop :=
  holder state.booking.redis input.eventId input.seatId = none ∧
    ((heldByUser state.booking.redis input.eventId input.userId).card : Int) <
      env.maxSeatsPerUser

instance (input : LockSeatInput) (state next : Ticketing) :
    Decidable (NewlyAcquires input state next) :=
  inferInstanceAs (Decidable (_ ∧ _))

private theorem holder_acquire_iff {env : Environment} {input : LockSeatInput}
    {db : SeatStore} (free : holder db input.eventId input.seatId = none) :
    holder (acquire (input.acquireInput env) db).2 input.eventId
        input.seatId = some input.userId ↔
      ((heldByUser db input.eventId input.userId).card : Int) <
        env.maxSeatsPerUser := by
  have positive : 0 < (input.acquireInput env).ttlSeconds := by
    show 0 < lockTtlSeconds
    decide
  have sameFree : holder db (input.acquireInput env).eventId
      (input.acquireInput env).seatId = none := free
  rw [acquire_eq]
  simp only [sameFree]
  by_cases full : (input.acquireInput env).maxPerUser ≤
      ((heldByUser db (input.acquireInput env).eventId
        (input.acquireInput env).userId).card : Int)
  · rw [if_pos full]
    have notBelow : ¬ ((heldByUser db input.eventId input.userId).card : Int) <
        env.maxSeatsPerUser := Int.not_lt.mpr full
    simp [free, notBelow]
  · rw [if_neg full, if_pos positive]
    have below : ((heldByUser db input.eventId input.userId).card : Int) <
        env.maxSeatsPerUser := Int.not_le.mp full
    refine iff_of_true ?_ below
    rw [holder_eq, lockEntry_granted positive]
    simp [LockSeatInput.acquireInput]

/-- The step in which the script of a `LockSeat` call runs. -/
theorem step_lockAwait (env : Environment) {world : World} {index : Nat}
    {input : LockSeatInput} {outcome : Await}
    (found : world.lockCalls[index]? = some ⟨input, .running .acquire⟩)
    (applies : outcome.Applies = true) :
    ∃ next, Booking.step env world (.lockAwait index outcome) = some next ∧
      next.redis = (acquire (input.acquireInput env) world.redis).2 := by
  have resolved : (lockSeat env input).resolve world.toStores .acquire =
      some
        ({ world.toStores with
            redis := (acquire (input.acquireInput env) world.redis).2 },
          lockAnswered env input world.now
            (acquire (input.acquireInput env) world.redis).1) := rfl
  obtain ⟨progress, awaited⟩ : ∃ progress,
      (lockSeat env input).await world.toStores .acquire outcome =
        some
          ({ world.toStores with
              redis := (acquire (input.acquireInput env) world.redis).2 },
            progress) := by
    cases outcome with
    | resolves => exact ⟨_, resolved⟩
    | rejects applied =>
        cases applied with
        | true => exact ⟨_, by rw [AsyncFunction.await, resolved]; rfl⟩
        | false => cases applies
    | stops => cases applies
  simp only [Booking.step, Call.advance, found, awaited, Option.map_some]
  exact ⟨_, rfl, rfl⟩

def oneSlot : WaitingRooms :=
  ⟨[⟨1, true, 1, 60⟩], by decide⟩

/-- User 10 joins and is admitted; then both user 10 and user 11 ask for a
seat. -/
def lockWithoutToken : List TicketingAction :=
  [.queue (.request (.joinQueue ⟨10, 1⟩)), .queue (.await 0 .resolves),
    .queue (.await 0 .resolves), .queue (.request .admissionTick),
    .queue (.await 1 .resolves), .queue (.await 1 .resolves),
    .queue (.await 1 .resolves), .booking (.lockSeat ⟨10, 1, 7⟩),
    .booking (.lockSeat ⟨11, 1, 8⟩), .booking (.lockAwait 0 .resolves)]

private theorem lockWithoutToken_enabled :
    (replay (ticketingStep smallVenue) [] (Ticketing.init oneSlot 0)
      lockWithoutToken).isSome = true := by
  decide +kernel

end ConcertTicketing.Queue
