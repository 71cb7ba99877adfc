import ConcertTicketing.Domain
import ConcertTicketing.Library.Amqp
import ConcertTicketing.Library.Trace

/-!
# The messaging service

`MessagingService` keeps one `this.channel`, which every attempt of `connect`
overwrites, and a list of consumers that `connect` registers anew.  The `close`
event of a connection and a rejected `connect` both schedule a new attempt.  A
handler runs for as long as it likes and settles its message on `this.channel`
as it is by then.

A connection has one channel, so both go by the connection's number.  A reply
arrives only on an open channel; a command can fail at any time.
-/

namespace ConcertTicketing.Messaging

open Amqp

structure DelayTopologyOptions where
  delayExchange : String
  delayQueue : String
  workExchange : String
  ttlMs : Int
  deriving DecidableEq, Repr

/-- A command on `this.channel`; all exchanges and queues are durable. -/
inductive TopologyCommand where
  | assertExchange (name kind : String)
  | assertQueue (name : String) (messageTtl : Int)
      (deadLetterExchange : String)
  | bindQueue (queue exchange routingKey : String)
  deriving DecidableEq, Repr

/-- The commands of `setupDelayTopology`, one `await` each. -/
def setupDelayTopology (opts : DelayTopologyOptions) : List TopologyCommand :=
  [.assertExchange opts.delayExchange "fanout",
    .assertExchange opts.workExchange "direct",
    .assertQueue opts.delayQueue opts.ttlMs opts.workExchange,
    .bindQueue opts.delayQueue opts.delayExchange ""]

def delayTopology (config : Config) : List TopologyCommand :=
  setupDelayTopology ⟨"delay.x", "delay.q", "work.x", config.bookingWindowMs⟩

/-- What an attempt of `connect` awaits, with the connection it has opened and
the channel that the command was sent on. -/
inductive ConnectStage where
  | connecting
  | openingChannel (connection : Nat)
  | asserting (connection channel : Nat) (command : TopologyCommand)
      (rest : List TopologyCommand)
  | registering (connection channel position : Nat)
  deriving DecidableEq, Repr

namespace ConnectStage

def connection? : ConnectStage → Option Nat
  | .connecting => none
  | .openingChannel connection => some connection
  | .asserting connection _ _ _ => some connection
  | .registering connection _ _ => some connection

def numbers : ConnectStage → List Nat
  | .connecting => []
  | .openingChannel connection => [connection]
  | .asserting connection channel _ _ => [connection, channel]
  | .registering connection channel _ => [connection, channel]

end ConnectStage

/-- A `channel.consume` for the consumer at the given position of
`this.consumers`. -/
structure Registration where
  consumer : Nat
  queue : String
  channel : Nat
  deriving DecidableEq, Repr

/-- A call of `handleMessage` whose handler is running. -/
structure Handling where
  consumer : Nat
  delivery : Delivery
  deriving DecidableEq, Repr

/-- `connections` tells which connections are open, `attempts` holds the
running calls of `connect`, `timers` counts the pending `setTimeout`s, and
`consumeCalls` are the calls of `consume` that await the broker. -/
structure Service where
  connections : List Bool
  channel : Nat
  consumers : List String
  shuttingDown : Bool
  attempts : List ConnectStage
  timers : Nat
  consumeCalls : List Registration
  registrations : List Registration
  handlings : List Handling
  broker : Broker

namespace Service

/-- `onModuleInit` has connected. -/
def started : Service where
  connections := [true]
  channel := 0
  consumers := []
  shuttingDown := false
  attempts := []
  timers := 0
  consumeCalls := []
  registrations := []
  handlings := []
  broker := Broker.empty

def IsOpen (service : Service) (connection : Nat) : Prop :=
  service.connections[connection]? = some true

instance (service : Service) (connection : Nat) :
    Decidable (service.IsOpen connection) :=
  inferInstanceAs (Decidable (_ = _))

/-! ## The steps -/

/-- The loop over `this.consumers` at the given position. -/
def registerFrom (service : Service) (connection position : Nat) :
    Option ConnectStage :=
  if position < service.consumers.length then
    some (.registering connection service.channel position)
  else none

/-- The remaining commands of `setupDelayTopology`, then the loop. -/
def assertFrom (service : Service) (connection : Nat) :
    List TopologyCommand → Option ConnectStage
  | [] => service.registerFrom connection 0
  | command :: rest =>
      some (.asserting connection service.channel command rest)

/-- One of the attempts goes on to its next `await`, or it is done. -/
def goOn (attempts : List ConnectStage) (index : Nat) :
    Option ConnectStage → List ConnectStage
  | some stage => attempts.set index stage
  | none => attempts.eraseIdx index

/-- What an attempt awaits resolves, and its code runs up to the next
`await`. -/
def resolve (service : Service) (config : Config) (index : Nat) :
    ConnectStage → Option Service
  | .connecting =>
      some
        { service with
          connections := service.connections ++ [true]
          attempts :=
            goOn service.attempts index
              (some (.openingChannel service.connections.length)) }
  | .openingChannel connection =>
      if service.IsOpen connection then
        let opened : Service := { service with channel := connection }
        some
          { opened with
            attempts :=
              goOn service.attempts index
                (opened.assertFrom connection (delayTopology config)) }
      else none
  | .asserting connection channel _ rest =>
      if service.IsOpen channel then
        some
          { service with
            attempts :=
              goOn service.attempts index
                (service.assertFrom connection rest) }
      else none
  | .registering connection channel position =>
      if service.IsOpen channel then
        (service.consumers[position]?).map fun queue =>
          { service with
            registrations :=
              service.registrations ++ [⟨position, queue, channel⟩]
            attempts :=
              goOn service.attempts index
                (service.registerFrom connection (position + 1)) }
      else none

/-- The connection closes: its deliveries return to their queues, its
consumers are gone, and the `close` listener runs `scheduleReconnect` unless
the module is being destroyed. -/
def close (service : Service) (connection : Nat) : Service :=
  { service with
    connections := service.connections.set connection false
    registrations :=
      service.registrations.filter fun registration =>
        decide (registration.channel ≠ connection)
    broker := service.broker.closeChannel connection
    timers :=
      if service.shuttingDown then service.timers else service.timers + 1 }

/-- The broker after `ack(msg)`, or `nack(msg, false, false)`, on
`this.channel`; on a closed channel both throw, and nothing is sent. -/
def settled (service : Service) (delivery : Delivery) : Broker :=
  if service.IsOpen service.channel then
    service.broker.settle service.channel delivery.tag
  else service.broker

/-- `handleMessage` after the handler: `ack` when it returned, `nack` when it
threw. -/
def finish (service : Service) (index : Nat) : Option Service :=
  (service.handlings[index]?).map fun handling =>
    { service with
      handlings := service.handlings.eraseIdx index
      broker := service.settled handling.delivery }

end Service

/-- A message reaches a queue, `consume` is called, the broker answers or
fails a command, a timer fires, a connection closes, the broker delivers a
message, a handler ends, or the module is destroyed. -/
inductive Action where
  | publish (queue : String)
  | consume (queue : String)
  | consumeResolves (index : Nat)
  | consumeRejects (index : Nat)
  | timer
  | connectResolves (index : Nat)
  | connectRejects (index : Nat)
  | close (connection : Nat)
  | deliver (index : Nat)
  | handlerReturns (index : Nat)
  | handlerThrows (index : Nat)
  | destroy
  deriving DecidableEq, Repr

namespace Action

/-- The handler that ends in the step, by either way of `handleMessage`. -/
def endsHandler? : Action → Option Nat
  | .handlerReturns index => some index
  | .handlerThrows index => some index
  | _ => none

end Action

def step (config : Config) (service : Service) : Action → Option Service
  | .publish queue =>
      some { service with broker := service.broker.publish queue }
  | .consume queue =>
      some
        { service with
          consumers := service.consumers ++ [queue]
          consumeCalls :=
            service.consumeCalls ++
              [⟨service.consumers.length, queue, service.channel⟩] }
  | .consumeResolves index =>
      match service.consumeCalls[index]? with
      | none => none
      | some registration =>
          if service.IsOpen registration.channel then
            some
              { service with
                consumeCalls := service.consumeCalls.eraseIdx index
                registrations := service.registrations ++ [registration] }
          else none
  | .consumeRejects index =>
      (service.consumeCalls[index]?).map fun _ =>
        { service with consumeCalls := service.consumeCalls.eraseIdx index }
  | .timer =>
      if 0 < service.timers then
        some
          { service with
            timers := service.timers - 1
            attempts := service.attempts ++ [.connecting] }
      else none
  | .connectResolves index =>
      (service.attempts[index]?).bind (service.resolve config index)
  | .connectRejects index =>
      (service.attempts[index]?).map fun _ =>
        -- the `catch` of the timer's callback runs `scheduleReconnect`
        { service with
          attempts := service.attempts.eraseIdx index
          timers := service.timers + 1 }
  | .close connection =>
      if service.IsOpen connection then some (service.close connection)
      else none
  | .deliver index =>
      match service.registrations[index]? with
      | none => none
      | some registration =>
          (service.broker.deliver registration.channel
              registration.queue).map fun delivered =>
            { service with
              handlings :=
                service.handlings ++ [⟨registration.consumer, delivered.1⟩]
              broker := delivered.2 }
  | .handlerReturns index => service.finish index
  | .handlerThrows index => service.finish index
  | .destroy => some { service with shuttingDown := true }

/-! ## What a step can do -/

inductive Resolved (config : Config) (service : Service) (index : Nat) :
    ConnectStage → Service → Prop
  | connected :
      Resolved config service index .connecting
        { service with
          connections := service.connections ++ [true]
          attempts :=
            Service.goOn service.attempts index
              (some (.openingChannel service.connections.length)) }
  | channelOpened (connection : Nat)
      (isOpen : service.IsOpen connection) :
      Resolved config service index (.openingChannel connection)
        { service with
          channel := connection
          attempts :=
            Service.goOn service.attempts index
              (Service.assertFrom { service with channel := connection }
                connection (delayTopology config)) }
  | asserted (connection channel : Nat) (command : TopologyCommand)
      (rest : List TopologyCommand) (isOpen : service.IsOpen channel) :
      Resolved config service index
        (.asserting connection channel command rest)
        { service with
          attempts :=
            Service.goOn service.attempts index
              (service.assertFrom connection rest) }
  | registered (connection channel position : Nat) (queue : String)
      (isOpen : service.IsOpen channel)
      (found : service.consumers[position]? = some queue) :
      Resolved config service index
        (.registering connection channel position)
        { service with
          registrations :=
            service.registrations ++ [⟨position, queue, channel⟩]
          attempts :=
            Service.goOn service.attempts index
              (service.registerFrom connection (position + 1)) }

private theorem resolve_cases {config : Config} {service next : Service}
    {index : Nat} {stage : ConnectStage}
    (resolved : service.resolve config index stage = some next) :
    Resolved config service index stage next := by
  cases stage with
  | connecting =>
      cases resolved
      exact .connected
  | openingChannel connection =>
      simp only [Service.resolve, Option.ite_none_right_eq_some,
        Option.some.injEq] at resolved
      obtain ⟨isOpen, rfl⟩ := resolved
      exact .channelOpened connection isOpen
  | asserting connection channel command rest =>
      simp only [Service.resolve, Option.ite_none_right_eq_some,
        Option.some.injEq] at resolved
      obtain ⟨isOpen, rfl⟩ := resolved
      exact .asserted connection channel command rest isOpen
  | registering connection channel position =>
      simp only [Service.resolve, Option.ite_none_right_eq_some,
        Option.map_eq_some_iff] at resolved
      obtain ⟨isOpen, queue, found, rfl⟩ := resolved
      exact .registered connection channel position queue isOpen found

/-- Every way in which the service and the broker can take a step. -/
inductive Step (config : Config) (service : Service) :
    Action → Service → Prop
  | published (queue : String) :
      Step config service (.publish queue)
        { service with broker := service.broker.publish queue }
  | consumed (queue : String) :
      Step config service (.consume queue)
        { service with
          consumers := service.consumers ++ [queue]
          consumeCalls :=
            service.consumeCalls ++
              [⟨service.consumers.length, queue, service.channel⟩] }
  | consumeResolved (index : Nat) (registration : Registration)
      (found : service.consumeCalls[index]? = some registration)
      (isOpen : service.IsOpen registration.channel) :
      Step config service (.consumeResolves index)
        { service with
          consumeCalls := service.consumeCalls.eraseIdx index
          registrations := service.registrations ++ [registration] }
  | consumeRejected (index : Nat) :
      Step config service (.consumeRejects index)
        { service with consumeCalls := service.consumeCalls.eraseIdx index }
  | timerFired (pending : 0 < service.timers) :
      Step config service .timer
        { service with
          timers := service.timers - 1
          attempts := service.attempts ++ [.connecting] }
  | connectResolved (index : Nat) (stage : ConnectStage) (next : Service)
      (found : service.attempts[index]? = some stage)
      (resolved : Resolved config service index stage next) :
      Step config service (.connectResolves index) next
  | connectRejected (index : Nat) (stage : ConnectStage)
      (found : service.attempts[index]? = some stage) :
      Step config service (.connectRejects index)
        { service with
          attempts := service.attempts.eraseIdx index
          timers := service.timers + 1 }
  | closed (connection : Nat) (isOpen : service.IsOpen connection) :
      Step config service (.close connection) (service.close connection)
  | delivered (index : Nat) (registration : Registration)
      (delivery : Delivery) (broker : Broker)
      (found : service.registrations[index]? = some registration)
      (delivers :
        service.broker.deliver registration.channel registration.queue =
          some (delivery, broker)) :
      Step config service (.deliver index)
        { service with
          handlings :=
            service.handlings ++ [⟨registration.consumer, delivery⟩]
          broker := broker }
  | handled (action : Action) (index : Nat) (handling : Handling)
      (ends : action.endsHandler? = some index)
      (found : service.handlings[index]? = some handling) :
      Step config service action
        { service with
          handlings := service.handlings.eraseIdx index
          broker := service.settled handling.delivery }
  | destroyed :
      Step config service .destroy { service with shuttingDown := true }

theorem step_cases {config : Config} {service next : Service}
    {action : Action} (stepped : step config service action = some next) :
    Step config service action next := by
  cases action with
  | publish queue =>
      cases stepped
      exact .published queue
  | consume queue =>
      cases stepped
      exact .consumed queue
  | consumeResolves index =>
      simp only [step] at stepped
      split at stepped
      · cases stepped
      · next registration found =>
          simp only [Option.ite_none_right_eq_some,
            Option.some.injEq] at stepped
          obtain ⟨isOpen, rfl⟩ := stepped
          exact .consumeResolved index registration found isOpen
  | consumeRejects index =>
      simp only [step, Option.map_eq_some_iff] at stepped
      obtain ⟨_, _, rfl⟩ := stepped
      exact .consumeRejected index
  | timer =>
      simp only [step, Option.ite_none_right_eq_some,
        Option.some.injEq] at stepped
      obtain ⟨pending, rfl⟩ := stepped
      exact .timerFired pending
  | connectResolves index =>
      simp only [step, Option.bind_eq_some_iff] at stepped
      obtain ⟨stage, found, resolved⟩ := stepped
      exact .connectResolved index stage next found (resolve_cases resolved)
  | connectRejects index =>
      simp only [step, Option.map_eq_some_iff] at stepped
      obtain ⟨stage, found, rfl⟩ := stepped
      exact .connectRejected index stage found
  | close connection =>
      simp only [step, Option.ite_none_right_eq_some,
        Option.some.injEq] at stepped
      obtain ⟨isOpen, rfl⟩ := stepped
      exact .closed connection isOpen
  | deliver index =>
      simp only [step] at stepped
      split at stepped
      · cases stepped
      · next registration found =>
          simp only [Option.map_eq_some_iff] at stepped
          obtain ⟨⟨delivery, broker⟩, delivers, rfl⟩ := stepped
          exact .delivered index registration delivery broker found delivers
  | handlerReturns index =>
      simp only [step, Service.finish, Option.map_eq_some_iff] at stepped
      obtain ⟨handling, found, rfl⟩ := stepped
      exact .handled _ index handling rfl found
  | handlerThrows index =>
      simp only [step, Service.finish, Option.map_eq_some_iff] at stepped
      obtain ⟨handling, found, rfl⟩ := stepped
      exact .handled _ index handling rfl found
  | destroy =>
      cases stepped
      exact .destroyed

namespace Service

theorem mem_goOn {attempts : List ConnectStage} (index : Nat)
    (next : Option ConnectStage) {stage : ConnectStage}
    (member : stage ∈ goOn attempts index next) :
    stage ∈ attempts ∨ next = some stage := by
  cases next with
  | none => exact Or.inl (List.mem_of_mem_eraseIdx member)
  | some reached =>
      rcases List.mem_or_eq_of_mem_set member with old | rfl
      · exact Or.inl old
      · exact Or.inr rfl

/-- Closing a connection opens none. -/
theorem isOpen_close {service : Service} {connection other : Nat} :
    (service.close connection).IsOpen other ↔
      other ≠ connection ∧ service.IsOpen other := by
  simp only [IsOpen, close]
  by_cases same : other = connection
  · subst other
    rw [List.getElem?_set_self']
    cases service.connections[connection]? <;> simp
  · rw [List.getElem?_set_ne (Ne.symm same)]
    simp [same]

/-- A new connection changes nothing for the others. -/
theorem isOpen_append {service next : Service} {connection : Nat}
    (known : connection < service.connections.length)
    (grown : next.connections = service.connections ++ [true]) :
    next.IsOpen connection ↔ service.IsOpen connection := by
  simp only [IsOpen, grown, List.getElem?_append_left known]

private theorem numbers_registerFrom {service : Service}
    {connection position : Nat} {stage : ConnectStage}
    (next : service.registerFrom connection position = some stage) :
    stage.numbers = [connection, service.channel] := by
  simp only [registerFrom, Option.ite_none_right_eq_some,
    Option.some.injEq] at next
  obtain ⟨_, rfl⟩ := next
  rfl

private theorem numbers_assertFrom {service : Service} {connection : Nat}
    {commands : List TopologyCommand} {stage : ConnectStage}
    (next : service.assertFrom connection commands = some stage) :
    stage.numbers = [connection, service.channel] := by
  cases commands with
  | nil => exact numbers_registerFrom next
  | cons command rest =>
      cases next
      rfl

end Service

/-- Everything refers to connections that have been opened. -/
structure Numbered (service : Service) : Prop where
  channel : service.channel < service.connections.length
  consumeCalls : ∀ registration ∈ service.consumeCalls,
    registration.channel < service.connections.length
  registrations : ∀ registration ∈ service.registrations,
    registration.channel < service.connections.length
  attempts : ∀ stage ∈ service.attempts, ∀ number ∈ stage.numbers,
    number < service.connections.length

private theorem numbered_started : Numbered Service.started where
  channel := Nat.zero_lt_one
  consumeCalls := by
    intro registration member
    cases member
  registrations := by
    intro registration member
    cases member
  attempts := by
    intro stage member
    cases member

namespace Numbered

variable {config : Config} {service next : Service} {action : Action}

/-- An attempt goes on from a numbered state to one whose command uses the
connection of the attempt and `this.channel`. -/
theorem goOn (numbered : Numbered service) (index : Nat) {connection : Nat}
    (reached : Option ConnectStage)
    (known : connection < service.connections.length)
    (uses : ∀ stage ∈ reached, stage.numbers = [connection, service.channel]) :
    ∀ stage ∈ Service.goOn service.attempts index reached,
      ∀ number ∈ stage.numbers, number < service.connections.length := by
  intro stage member number refers
  rcases Service.mem_goOn index reached member with old | new
  · exact numbered.attempts stage old number refers
  · rw [uses stage new] at refers
    rcases List.mem_pair.mp refers with rfl | rfl
    · exact known
    · exact numbered.channel

theorem resolved (numbered : Numbered service) {index : Nat}
    {stage : ConnectStage} (found : service.attempts[index]? = some stage)
    (resolved : Resolved config service index stage next) :
    Numbered next := by
  have member : stage ∈ service.attempts := List.mem_of_getElem? found
  have numbers := numbered.attempts stage member
  cases resolved with
  | connected =>
      have longer : (service.connections ++ [true]).length =
          service.connections.length + 1 := List.length_append
      constructor
      · exact longer ▸ Nat.lt_succ_of_lt numbered.channel
      · intro registration call
        exact longer ▸
          Nat.lt_succ_of_lt (numbered.consumeCalls registration call)
      · intro registration consuming
        exact longer ▸
          Nat.lt_succ_of_lt (numbered.registrations registration consuming)
      · dsimp only
        intro reached attempting number refers
        rw [longer]
        rcases Service.mem_goOn index _ attempting with old | new
        · exact Nat.lt_succ_of_lt
            (numbered.attempts reached old number refers)
        · cases new
          rw [List.mem_singleton.mp refers]
          exact Nat.lt_succ_self _
  | channelOpened connection isOpen =>
      have known := numbers connection List.mem_cons_self
      have opened : Numbered { service with channel := connection } :=
        ⟨known, numbered.consumeCalls, numbered.registrations,
          numbered.attempts⟩
      refine ⟨known, numbered.consumeCalls, numbered.registrations, ?_⟩
      dsimp only
      exact opened.goOn index _ known fun _ => Service.numbers_assertFrom
  | asserted connection channel command rest isOpen =>
      have known := numbers connection List.mem_cons_self
      refine ⟨numbered.channel, numbered.consumeCalls,
        numbered.registrations, ?_⟩
      dsimp only
      exact numbered.goOn index _ known fun _ => Service.numbers_assertFrom
  | registered connection channel position queue isOpen consumer =>
      have known := numbers connection List.mem_cons_self
      refine ⟨numbered.channel, numbered.consumeCalls, ?_, ?_⟩
      · intro registration consuming
        rcases List.mem_append.mp consuming with old | new
        · exact numbered.registrations registration old
        · rw [List.mem_singleton.mp new]
          exact numbers channel (List.mem_cons_of_mem _ List.mem_cons_self)
      · dsimp only
        exact numbered.goOn index _ known fun _ =>
          Service.numbers_registerFrom

theorem step (numbered : Numbered service)
    (stepped : Messaging.step config service action = some next) :
    Numbered next := by
  cases step_cases stepped with
  | consumed queue =>
      refine ⟨numbered.channel, ?_, numbered.registrations,
        numbered.attempts⟩
      intro registration member
      rcases List.mem_append.mp member with old | new
      · exact numbered.consumeCalls registration old
      · rw [List.mem_singleton.mp new]
        exact numbered.channel
  | consumeResolved index registration found isOpen =>
      have known := numbered.consumeCalls registration
        (List.mem_of_getElem? found)
      refine ⟨numbered.channel, ?_, ?_, numbered.attempts⟩
      · intro other member
        exact numbered.consumeCalls other (List.mem_of_mem_eraseIdx member)
      · intro other member
        rcases List.mem_append.mp member with old | new
        · exact numbered.registrations other old
        · rw [List.mem_singleton.mp new]
          exact known
  | consumeRejected index =>
      refine ⟨numbered.channel, ?_, numbered.registrations,
        numbered.attempts⟩
      intro other member
      exact numbered.consumeCalls other (List.mem_of_mem_eraseIdx member)
  | timerFired pending =>
      refine ⟨numbered.channel, numbered.consumeCalls,
        numbered.registrations, ?_⟩
      intro stage member
      rcases List.mem_append.mp member with old | new
      · exact numbered.attempts stage old
      · rw [List.mem_singleton.mp new]
        intro number refers
        cases refers
  | connectResolved index stage _ found resolved =>
      exact numbered.resolved found resolved
  | connectRejected index stage found =>
      refine ⟨numbered.channel, numbered.consumeCalls,
        numbered.registrations, ?_⟩
      intro other member
      exact numbered.attempts other (List.mem_of_mem_eraseIdx member)
  | closed connection isOpen =>
      have same : (service.connections.set connection false).length =
          service.connections.length := List.length_set
      constructor
      · exact same ▸ numbered.channel
      · exact same ▸ numbered.consumeCalls
      · intro registration member
        have old := List.mem_of_mem_filter member
        exact same ▸ numbered.registrations registration old
      · exact same ▸ numbered.attempts
  | _ => exact ⟨numbered.channel, numbered.consumeCalls,
      numbered.registrations, numbered.attempts⟩

end Numbered

theorem Trace.numbered {config : Config}
    {history : List (Service × Action)} {service : Service}
    (run : Trace (step config) Service.started history service) :
    Numbered service :=
  Trace.invariant Numbered numbered_started
    (fun _ _ _ inductionHypothesis => inductionHypothesis.step) run

end ConcertTicketing.Messaging
