import ConcertTicketing.Library.Server
import ConcertTicketing.Queue.Store

/-!
# The queue use-cases

`JoinQueueUseCase`, `CheckTurnUseCase` and `AdmissionUseCase` over the waiting
rooms and the Redis store, as a server.  The rooms are administered by hand:
no operation of the repository writes them.
-/

namespace ConcertTicketing.Queue

/-- The columns of a `waiting_rooms` row that the use-cases read. -/
structure WaitingRoom where
  eventId : EventId
  isOpen : Bool
  maxConcurrent : Int
  bookingWindow : Int
  deriving DecidableEq, Repr

/-- The table `waiting_rooms`, in which `eventId` is unique. -/
structure WaitingRooms where
  rows : List WaitingRoom
  unique : (rows.map WaitingRoom.eventId).Nodup

structure WaitingRoomConfig where
  eventId : EventId
  maxConcurrent : Int
  bookingWindow : Int
  deriving DecidableEq, Repr

namespace WaitingRoom

def config (row : WaitingRoom) : WaitingRoomConfig :=
  ⟨row.eventId, row.maxConcurrent, row.bookingWindow⟩

end WaitingRoom

namespace WaitingRooms

/-- `PrismaWaitingRoomAdapter.getOpenRoom`. -/
def getOpenRoom (rooms : WaitingRooms) (eventId : EventId) :
    Option WaitingRoomConfig :=
  ((rooms.rows.find? fun row => decide (row.eventId = eventId)).filter
    WaitingRoom.isOpen).map WaitingRoom.config

/-- `PrismaWaitingRoomAdapter.listOpenRooms`. -/
def listOpenRooms (rooms : WaitingRooms) : List WaitingRoomConfig :=
  (rooms.rows.filter WaitingRoom.isOpen).map WaitingRoom.config

theorem eventId_of_getOpenRoom {rooms : WaitingRooms} {eventId : EventId}
    {room : WaitingRoomConfig}
    (opened : rooms.getOpenRoom eventId = some room) :
    room.eventId = eventId := by
  simp only [getOpenRoom, Option.map_eq_some_iff] at opened
  obtain ⟨row, kept, rfl⟩ := opened
  have chosen := List.find?_some (Option.filter_eq_some_iff.mp kept).1
  exact of_decide_eq_true chosen

/-- A listed room is what a query for its event returns. -/
theorem getOpenRoom_of_mem {rooms : WaitingRooms} {room : WaitingRoomConfig}
    (listed : room ∈ rooms.listOpenRooms) :
    rooms.getOpenRoom room.eventId = some room := by
  obtain ⟨row, member, rfl⟩ := List.mem_map.mp listed
  obtain ⟨inTable, isOpen⟩ := List.mem_filter.mp member
  have found : (rooms.rows.find? fun other =>
      decide (other.eventId = row.eventId)) = some row := by
    cases first : rooms.rows.find? fun other =>
        decide (other.eventId = row.eventId) with
    | none =>
        have missing := List.find?_eq_none.mp first row inTable
        simp at missing
    | some other =>
        have chosen := List.find?_some first
        have sameEvent : other.eventId = row.eventId :=
          of_decide_eq_true chosen
        have sameRow := List.inj_on_of_nodup_map rooms.unique
          (List.mem_of_find?_eq_some first) inTable sameEvent
        rw [sameRow]
  have sameId : row.config.eventId = row.eventId := rfl
  rw [getOpenRoom, sameId, found, Option.filter_some, if_pos isOpen,
    Option.map_some]

theorem nodup_listOpenRooms (rooms : WaitingRooms) :
    (rooms.listOpenRooms.map WaitingRoomConfig.eventId).Nodup := by
  have sameIds : rooms.listOpenRooms.map WaitingRoomConfig.eventId =
      (rooms.rows.filter WaitingRoom.isOpen).map WaitingRoom.eventId := by
    rw [listOpenRooms, List.map_map]
    rfl
  rw [sameIds]
  exact rooms.unique.sublist (List.filter_sublist.map _)

end WaitingRooms

structure QueueStores where
  rooms : WaitingRooms
  queue : QueueStore

namespace QueueStores

abbrev now (stores : QueueStores) : Instant := stores.queue.now

end QueueStores

inductive QueueCommand where
  | getOpenRoom (eventId : EventId)
  | listOpenRooms
  | join (eventId : EventId) (userId : UserId)
  | admitUsers (input : AdmitInput)
  | getStatus (eventId : EventId) (userId : UserId)
  deriving DecidableEq, Repr

/-- The reply to `getStatus` comes with the instant at which it is read. -/
def QueueCommand.Reply : QueueCommand → Type
  | .getOpenRoom _ => Option WaitingRoomConfig
  | .listOpenRooms => List WaitingRoomConfig
  | .join _ _ => Except ScriptError JoinResult
  | .admitUsers _ => Except ScriptError (List UserId)
  | .getStatus _ _ => QueueStatus × Instant

def perform :
    (command : QueueCommand) → QueueStores → command.Reply × QueueStores
  | .getOpenRoom eventId, stores => (stores.rooms.getOpenRoom eventId, stores)
  | .listOpenRooms, stores => (stores.rooms.listOpenRooms, stores)
  | .join eventId userId, stores =>
      let (answer, queue) := join eventId userId stores.queue
      (answer, { stores with queue := queue })
  | .admitUsers input, stores =>
      let (answer, queue) := admitUsers input stores.queue
      (answer, { stores with queue := queue })
  | .getStatus eventId userId, stores =>
      ((getStatus eventId userId stores.queue, stores.now), stores)

/-! ## JoinQueue -/

structure JoinQueueInput where
  userId : UserId
  eventId : EventId
  deriving DecidableEq, Repr

/-- `estimatedWaitSec` is `none` where the source computes a number that is
not finite, which JSON turns into `null`. -/
structure JoinQueueOutput where
  position : Nat
  estimatedWaitSec : Option Int
  deriving DecidableEq, Repr

/-- `QueueClosedError`. -/
inductive QueueError where
  | queueClosed (eventId : EventId)
  deriving DecidableEq, Repr

inductive JoinStage where
  | getOpenRoom
  | join (room : WaitingRoomConfig)
  deriving DecidableEq, Repr

abbrev JoinProgress := Progress JoinStage (Except QueueError JoinQueueOutput)

/-- `Math.ceil(position / maxConcurrent) * bookingWindow`. -/
def estimatedWaitSec (position : Nat) (room : WaitingRoomConfig) :
    Option Int :=
  if room.maxConcurrent = 0 then none
  else some (-(Int.fdiv (-position) room.maxConcurrent) * room.bookingWindow)

/-- `JoinQueueUseCase.execute`. -/
def joinQueue (input : JoinQueueInput) :
    JoinStage → Pending QueueCommand QueueCommand.Reply JoinProgress
  | .getOpenRoom =>
      ⟨.getOpenRoom input.eventId, fun
        | none => .finished (.error (.queueClosed input.eventId))
        | some room => .running (.join room)⟩
  | .join room =>
      ⟨.join input.eventId input.userId, fun
        | .error _ => .failed (.join room) true
        | .ok joined =>
            let position := joined.rank + 1
            .finished (.ok ⟨position, estimatedWaitSec position room⟩)⟩

/-! ## CheckTurn -/

structure CheckTurnInput where
  userId : UserId
  eventId : EventId
  deriving DecidableEq, Repr

structure EntryToken where
  userId : UserId
  eventId : EventId
  expiresAt : Instant
  deriving DecidableEq, Repr

namespace EntryToken

def issue (now : Instant) (userId : UserId) (eventId : EventId)
    (ttlSeconds : Int) : EntryToken :=
  ⟨userId, eventId, now + ttlSeconds * 1000⟩

end EntryToken

inductive CheckTurnOutput where
  | admitted (expiresAt : Instant)
  | waiting (position : Int)
  deriving DecidableEq, Repr

inductive CheckStage where
  | getStatus
  deriving DecidableEq, Repr

abbrev CheckProgress := Progress CheckStage CheckTurnOutput

/-- `CheckTurnUseCase.execute`. -/
def checkTurn (input : CheckTurnInput) :
    CheckStage → Pending QueueCommand QueueCommand.Reply CheckProgress
  | .getStatus =>
      ⟨.getStatus input.eventId input.userId, fun (status, now) =>
        if status.admitted then
          let token :=
            EntryToken.issue now input.userId input.eventId status.ttlSeconds
          .finished (.admitted token.expiresAt)
        else
          .finished
            (.waiting (if 0 ≤ status.rank then status.rank + 1 else 0))⟩

/-! ## The admission cycle -/

/-- Where the cycle is, with the rooms that it has still to come to. -/
inductive AdmissionStage where
  | listOpenRooms
  | getOpenRoom (eventId : EventId) (rest : List WaitingRoomConfig)
  | admitUsers (room : WaitingRoomConfig) (rest : List WaitingRoomConfig)
  deriving DecidableEq, Repr

abbrev AdmissionProgress := Progress AdmissionStage Unit

/-- The `for` loop of `execute`. -/
def nextRoom : List WaitingRoomConfig → AdmissionProgress
  | [] => .finished ()
  | room :: rest => .running (.getOpenRoom room.eventId rest)

namespace WaitingRoomConfig

/-- The input of `store.admit`. -/
def admitInput (room : WaitingRoomConfig) : AdmitInput :=
  ⟨room.eventId, room.maxConcurrent, room.bookingWindow⟩

end WaitingRoomConfig

/-- `AdmissionUseCase.execute` with `admitForEvent`. -/
def admissionCycle :
    AdmissionStage → Pending QueueCommand QueueCommand.Reply AdmissionProgress
  | .listOpenRooms => ⟨.listOpenRooms, nextRoom⟩
  | .getOpenRoom eventId rest =>
      ⟨.getOpenRoom eventId, fun
        | none => nextRoom rest
        | some room => .running (.admitUsers room rest)⟩
  | .admitUsers room rest =>
      ⟨.admitUsers room.admitInput, fun
        | .error _ => .failed (.admitUsers room rest) true
        | .ok _ => nextRoom rest⟩

/-! ## The server -/

inductive QueueCall where
  | joinQueue
      (call : Call JoinQueueInput JoinStage (Except QueueError JoinQueueOutput))
  | checkTurn (call : Call CheckTurnInput CheckStage CheckTurnOutput)
  | admission (call : Call Unit AdmissionStage Unit)
  deriving DecidableEq

namespace QueueCall

def pending :
    QueueCall → Option (Pending QueueCommand QueueCommand.Reply QueueCall)
  | .joinQueue call => (call.pending Queue.joinQueue).map (Pending.map .joinQueue)
  | .checkTurn call => (call.pending Queue.checkTurn).map (Pending.map .checkTurn)
  | .admission call =>
      (call.pending fun _ => admissionCycle).map (Pending.map .admission)

def reject : QueueCall → Bool → QueueCall
  | .joinQueue call, applied => .joinQueue (call.reject applied)
  | .checkTurn call, applied => .checkTurn (call.reject applied)
  | .admission call, applied => .admission (call.reject applied)

def stop : QueueCall → QueueCall
  | .joinQueue call => .joinQueue call.stop
  | .checkTurn call => .checkTurn call.stop
  | .admission call => .admission call.stop

end QueueCall

/-- Two endpoints, and the interval of `QueueAdmissionScheduler`.  Several
processes can run cycles at the same time. -/
inductive QueueRequest where
  | joinQueue (input : JoinQueueInput)
  | checkTurn (input : CheckTurnInput)
  | admissionTick
  deriving DecidableEq, Repr

def acceptRequest : QueueRequest → QueueCall
  | .joinQueue input => .joinQueue ⟨input, .running .getOpenRoom⟩
  | .checkTurn input => .checkTurn ⟨input, .running .getStatus⟩
  | .admissionTick => .admission ⟨(), .running .listOpenRooms⟩

/-- Time passes, or somebody administers the rooms. -/
inductive QueueEvent where
  | tick (elapsed : Nat)
  | editRooms (rooms : WaitingRooms)

namespace QueueEvent

def apply : QueueEvent → QueueStores → QueueStores
  | .tick elapsed, stores =>
      { stores with
        queue := { stores.queue with toDb := stores.queue.tick elapsed } }
  | .editRooms rooms, stores => { stores with rooms := rooms }

end QueueEvent

def queueServer :
    Server QueueStores QueueEvent QueueRequest QueueCommand
      QueueCommand.Reply QueueCall where
  external := QueueEvent.apply
  accept request := some (acceptRequest request)
  perform := perform
  pending := QueueCall.pending
  reject := QueueCall.reject
  stop := QueueCall.stop

theorem hosts_joinQueue : queueServer.Hosts .joinQueue joinQueue :=
  ⟨fun _ => rfl, fun _ _ => rfl, fun _ => rfl⟩

theorem hosts_checkTurn : queueServer.Hosts .checkTurn checkTurn :=
  ⟨fun _ => rfl, fun _ _ => rfl, fun _ => rfl⟩

theorem hosts_admission :
    queueServer.Hosts .admission fun _ => admissionCycle :=
  ⟨fun _ => rfl, fun _ _ => rfl, fun _ => rfl⟩

abbrev QueueState := ServerState QueueStores QueueCall

abbrev QueueAction := ServerAction QueueEvent QueueRequest

namespace QueueState

def init (rooms : WaitingRooms) (origin : Instant) : QueueState :=
  ⟨⟨rooms, QueueStore.empty origin⟩, []⟩

end QueueState

def QueueCommand.op? : QueueCommand → Option QueueOp
  | .getOpenRoom _ => none
  | .listOpenRooms => none
  | .join eventId userId => some (.join eventId userId)
  | .admitUsers input => some (.admitUsers input)
  | .getStatus eventId userId => some (.getStatus eventId userId)

def storeOp? (state : QueueState) : QueueAction → Option QueueOp
  | .external (.tick elapsed) => some (.tick elapsed)
  | action => (queueServer.applied state action).bind QueueCommand.op?

/-- A command leaves the rooms alone and takes its own step of the store. -/
theorem perform_stores (command : QueueCommand) (stores : QueueStores) :
    (perform command stores).2 =
      { stores with
        queue := (command.op?.map (QueueOp.apply stores.queue)).getD
          stores.queue } := by
  cases command <;> rfl

theorem step_queue {state next : QueueState} {action : QueueAction}
    (stepped : queueServer.step state action = some next) :
    next.stores.queue =
      ((storeOp? state action).map
        (QueueOp.apply state.stores.queue)).getD state.stores.queue := by
  rcases Server.step_stores stepped with
    ⟨event, rfl, same⟩ | ⟨command, applied, same⟩ | ⟨inside, idle, same⟩
  · rw [same]
    cases event <;> rfl
  · have performed : next.stores = (perform command state.stores).2 := same
    rw [performed, perform_stores]
    cases action with
    | external event => cases applied
    | request input => cases applied
    | await index outcome =>
        simp only [storeOp?, applied, Option.bind_some]
  · rw [same]
    cases action with
    | external event => exact absurd rfl (inside event)
    | request input => rfl
    | await index outcome =>
        simp only [storeOp?, idle, Option.bind_none, Option.map_none,
          Option.getD_none]

def RoomsRead (history : List (QueueState × QueueAction))
    (state : QueueState) : Prop :=
  ∀ (index : Nat) (room : WaitingRoomConfig)
    (rest : List WaitingRoomConfig),
    state.calls[index]? =
      some (QueueCall.admission ⟨(), .running (.admitUsers room rest)⟩) →
    ∃ reached ∈ visited history state,
      reached.stores.rooms.getOpenRoom room.eventId = some room

private theorem nextRoom_ne_admitUsers (rooms : List WaitingRoomConfig)
    (room : WaitingRoomConfig) (rest : List WaitingRoomConfig) :
    nextRoom rooms ≠ .running (.admitUsers room rest) := by
  cases rooms with
  | nil => nofun
  | cons first others => nofun

/-- The cycle comes to an admit from the query for its room. -/
theorem getOpenRoom_of_goOn {stage : AdmissionStage} {stores : QueueStores}
    {outcome : Await} {room : WaitingRoomConfig}
    {rest : List WaitingRoomConfig}
    (goes : Call.goOn perform (fun _ : Unit => admissionCycle) () stage stores
      outcome = .running (.admitUsers room rest)) :
    stores.rooms.getOpenRoom room.eventId = some room := by
  cases outcome with
  | rejects applied => cases goes
  | stops => cases goes
  | resolves =>
      cases stage with
      | listOpenRooms => exact absurd goes (nextRoom_ne_admitUsers _ _ _)
      | getOpenRoom eventId others =>
          simp only [Call.goOn, admissionCycle, perform] at goes
          cases opened : stores.rooms.getOpenRoom eventId with
          | none =>
              rw [opened] at goes
              exact absurd goes (nextRoom_ne_admitUsers _ _ _)
          | some found =>
              rw [opened] at goes
              cases goes
              rw [WaitingRooms.eventId_of_getOpenRoom opened, opened]
      | admitUsers earlier others =>
          simp only [Call.goOn, admissionCycle, perform] at goes
          split at goes
          · cases goes
          · exact absurd goes (nextRoom_ne_admitUsers _ _ _)

/-- A call comes to an admit from the query for its room. -/
theorem admitUsers_of_answer {call : QueueCall}
    {pending : Pending QueueCommand QueueCommand.Reply QueueCall}
    (waits : call.pending = some pending) {stores : QueueStores}
    {outcome : Await} {room : WaitingRoomConfig}
    {rest : List WaitingRoomConfig}
    (answered : (queueServer.answer call pending stores outcome).2 =
      .admission ⟨(), .running (.admitUsers room rest)⟩) :
    stores.rooms.getOpenRoom room.eventId = some room := by
  cases call with
  | joinQueue earlier =>
      obtain ⟨stage, atStage, rfl⟩ := hosts_joinQueue.running waits
      rw [atStage, hosts_joinQueue.answer] at answered
      cases answered
  | checkTurn earlier =>
      obtain ⟨stage, atStage, rfl⟩ := hosts_checkTurn.running waits
      rw [atStage, hosts_checkTurn.answer] at answered
      cases answered
  | admission earlier =>
      obtain ⟨stage, atStage, rfl⟩ := hosts_admission.running waits
      rw [atStage, hosts_admission.answer] at answered
      have goes : Call.goOn queueServer.perform (fun _ => admissionCycle)
          earlier.input stage stores outcome =
            .running (.admitUsers room rest) :=
        congrArg Call.progress (QueueCall.admission.inj answered)
      exact getOpenRoom_of_goOn goes

theorem RoomsRead.step {history : List (QueueState × QueueAction)}
    {state next : QueueState} {action : QueueAction}
    (read : RoomsRead history state)
    (stepped : queueServer.step state action = some next) :
    RoomsRead ((state, action) :: history) next := by
  intro index room rest reached
  generalize atAdmit : QueueCall.admission
    ⟨(), .running (.admitUsers room rest)⟩ = call at reached
  cases Server.step_calls stepped reached with
  | kept _ _ found =>
      subst call
      obtain ⟨earlier, member, opened⟩ := read index room rest found
      exact ⟨earlier, List.mem_cons_of_mem _ member, opened⟩
  | accepted input _ _ accepts _ =>
      cases input <;> cases accepts <;> cases atAdmit
  | answered outcome earlier pending _ found waits =>
      have opened := admitUsers_of_answer waits atAdmit.symm
      have member : state ∈ visited ((state, action) :: history) next :=
        List.mem_cons_of_mem _ List.mem_cons_self
      exact ⟨state, member, opened⟩

theorem roomsRead_of_run {rooms : WaitingRooms} {origin : Instant}
    {history : List (QueueState × QueueAction)} {state : QueueState}
    (run : Trace queueServer.step (QueueState.init rooms origin) history
      state) : RoomsRead history state := by
  refine Trace.invariantHistory RoomsRead ?_ ?_ run
  · intro index room rest found
    cases found
  · intro before current action next _ read stepped
    exact read.step stepped

/-- An admit is asked for by a cycle, with the room it has read. -/
theorem admitUsers_of_storeOp {state : QueueState} {action : QueueAction}
    {input : AdmitInput}
    (runs : storeOp? state action = some (.admitUsers input)) :
    ∃ (index : Nat) (room : WaitingRoomConfig)
      (rest : List WaitingRoomConfig),
      state.calls[index]? =
        some (QueueCall.admission ⟨(), .running (.admitUsers room rest)⟩) ∧
      input = room.admitInput := by
  have asked : ∃ command, queueServer.applied state action = some command ∧
      command.op? = some (.admitUsers input) := by
    cases action with
    | external event => cases event <;> cases runs
    | request input => cases runs
    | await index outcome => exact Option.bind_eq_some_iff.mp runs
  obtain ⟨command, applies, asks⟩ := asked
  obtain ⟨index, outcome, call, pending, _, _, found, waits, rfl⟩ :=
    Server.applied_eq_some.mp applies
  cases call with
  | joinQueue earlier =>
      obtain ⟨stage, _, rfl⟩ := hosts_joinQueue.running waits
      cases stage <;> cases asks
  | checkTurn earlier =>
      obtain ⟨stage, _, rfl⟩ := hosts_checkTurn.running waits
      cases stage
      cases asks
  | admission earlier =>
      obtain ⟨stage, atStage, rfl⟩ := hosts_admission.running waits
      cases stage with
      | listOpenRooms => cases asks
      | getOpenRoom eventId others => cases asks
      | admitUsers room rest =>
          cases asks
          exact ⟨index, room, rest, by rw [found, atStage], rfl⟩

end ConcertTicketing.Queue
