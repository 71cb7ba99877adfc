import ConcertTicketing.Messaging.Service

/-!
# Acknowledgements and their deliveries

`handleMessage` settles a message on `this.channel` as it is when the handler
ends.  A tag means something on the channel that issued it only, so a handler
that outlives the channel of its message settles a delivery of somebody else.
As long as `this.channel` is replaced only when nothing depends on the old one,
every handler settles its own delivery.
-/

namespace ConcertTicketing.Messaging

open Amqp

def ending (service : Service) (action : Action) : Option Handling :=
  action.endsHandler?.bind fun index => service.handlings[index]?

/-- An `ack` or `nack` is sent on the channel of the message whose handler
has ended, and a delivery that leaves the broker either returns to its queue
or is the one whose handler has ended. -/
structure SettlesOwn (config : Config) (service : Service) (action : Action) :
    Prop where
  channel : ∀ handling ∈ ending service action,
    service.IsOpen service.channel →
    service.channel = handling.delivery.channel
  removed : ∀ next, step config service action = some next →
    ∀ delivery ∈ service.broker.unacked,
      delivery ∉ next.broker.unacked →
      delivery.message ∈ next.broker.ready ∨
        ∃ handling ∈ ending service action, handling.delivery = delivery

namespace ConnectStage

/-- The channel on which the attempt is registering a consumer. -/
def registering? : ConnectStage → Option Nat
  | .registering _ channel _ => some channel
  | _ => none

end ConnectStage

/-- No handler is running, and no consumer is registered, or about to be, on
an open channel. -/
def NothingDepends (service : Service) : Prop :=
  service.handlings = [] ∧ service.registrations = [] ∧
  (∀ registration ∈ service.consumeCalls,
    ¬ service.IsOpen registration.channel) ∧
  ∀ stage ∈ service.attempts, ∀ channel ∈ stage.registering?,
    ¬ service.IsOpen channel

instance : DecidablePred NothingDepends :=
  fun _ => inferInstanceAs (Decidable (_ ∧ _ ∧ _ ∧ _))

def ConnectStage.OpensChannel : ConnectStage → Prop
  | .openingChannel _ => True
  | _ => False

instance : DecidablePred ConnectStage.OpensChannel
  | .connecting => isFalse id
  | .openingChannel _ => isTrue trivial
  | .asserting _ _ _ _ => isFalse id
  | .registering _ _ _ => isFalse id

/-- `createConfirmChannel` resolves only while nothing depends on the old
`this.channel`. -/
def SwapsIdleChannel (service : Service) : Action → Prop
  | .connectResolves index =>
      ∀ stage ∈ service.attempts[index]?, stage.OpensChannel →
        NothingDepends service
  | _ => True

instance (service : Service) : DecidablePred (SwapsIdleChannel service)
  | .publish _ => isTrue trivial
  | .consume _ => isTrue trivial
  | .consumeResolves _ => isTrue trivial
  | .consumeRejects _ => isTrue trivial
  | .timer => isTrue trivial
  | .connectResolves index =>
      inferInstanceAs
        (Decidable (∀ stage ∈ service.attempts[index]?, _ → _))
  | .connectRejects _ => isTrue trivial
  | .close _ => isTrue trivial
  | .deliver _ => isTrue trivial
  | .handlerReturns _ => isTrue trivial
  | .handlerThrows _ => isTrue trivial
  | .destroy => isTrue trivial

/-- Whatever runs or consumes does so on `this.channel`. -/
structure OnChannel (service : Service) : Prop where
  handlings : ∀ handling ∈ service.handlings,
    handling.delivery.channel = service.channel
  registrations : ∀ registration ∈ service.registrations,
    registration.channel = service.channel
  consumeCalls : ∀ registration ∈ service.consumeCalls,
    service.IsOpen registration.channel →
    registration.channel = service.channel
  attempts : ∀ stage ∈ service.attempts, ∀ channel ∈ stage.registering?,
    service.IsOpen channel →
    channel = service.channel

/-- The deliveries that the broker or a handler has. -/
def Service.deliveries (service : Service) : List Delivery :=
  service.broker.unacked ++ service.handlings.map Handling.delivery

/-- Tags identify the deliveries of their channels. -/
def TagsIdentify (service : Service) : Prop :=
  service.broker.Tagged service.deliveries

private theorem onChannel_started : OnChannel Service.started where
  handlings := by
    intro handling member
    cases member
  registrations := by
    intro registration member
    cases member
  consumeCalls := by
    intro registration member
    cases member
  attempts := by
    intro stage member
    cases member

section Steps

variable {config : Config} {service next : Service} {action : Action}

private theorem registering_registerFrom {connection position : Nat}
    {stage : ConnectStage}
    (reached : service.registerFrom connection position = some stage) :
    ∀ channel ∈ stage.registering?, channel = service.channel := by
  simp only [Service.registerFrom, Option.ite_none_right_eq_some,
    Option.some.injEq] at reached
  obtain ⟨_, rfl⟩ := reached
  intro channel same
  exact (Option.some.inj same).symm

private theorem registering_assertFrom {connection : Nat}
    {commands : List TopologyCommand} {stage : ConnectStage}
    (reached : service.assertFrom connection commands = some stage) :
    ∀ channel ∈ stage.registering?, channel = service.channel := by
  cases commands with
  | nil => exact registering_registerFrom reached
  | cons command rest =>
      cases reached
      intro channel same
      cases same

/-- An attempt that goes on registers on `this.channel`. -/
theorem OnChannel.goOn (sound : OnChannel service) (index : Nat)
    (reached : Option ConnectStage)
    (uses : ∀ stage ∈ reached, ∀ channel ∈ stage.registering?,
      channel = service.channel) :
    ∀ stage ∈ Service.goOn service.attempts index reached,
      ∀ channel ∈ stage.registering?,
        service.IsOpen channel → channel = service.channel := by
  intro stage member channel registers isOpen
  rcases Service.mem_goOn index reached member with old | new
  · exact sound.attempts stage old channel registers isOpen
  · exact uses stage new channel registers

theorem OnChannel.resolved (sound : OnChannel service)
    (numbered : Numbered service) {index : Nat} {stage : ConnectStage}
    (idle : stage.OpensChannel → NothingDepends service)
    (found : service.attempts[index]? = some stage)
    (resolved : Resolved config service index stage next) :
    OnChannel next := by
  cases resolved with
  | connected =>
      refine ⟨sound.handlings, sound.registrations, ?_, ?_⟩
      · intro registration member isOpen
        have known := numbered.consumeCalls registration member
        exact sound.consumeCalls registration member
          ((Service.isOpen_append known rfl).mp isOpen)
      · dsimp only
        intro reached member channel registers isOpen
        rcases Service.mem_goOn index _ member with old | new
        · have known : channel < service.connections.length := by
            apply numbered.attempts reached old
            cases reached with
            | registering connection other position =>
                cases registers
                exact List.mem_cons_of_mem _ List.mem_cons_self
            | _ => cases registers
          exact sound.attempts reached old channel registers
            ((Service.isOpen_append known rfl).mp isOpen)
        · cases new
          cases registers
  | channelOpened connection isOpen =>
      obtain ⟨noHandler, noConsumer, noCall, noAttempt⟩ := idle trivial
      refine ⟨?_, ?_, ?_, ?_⟩
      · intro handling member
        rw [noHandler] at member
        cases member
      · intro registration member
        rw [noConsumer] at member
        cases member
      · intro registration member callOpen
        exact absurd callOpen (noCall registration member)
      · dsimp only
        intro reached member channel registers channelOpen
        rcases Service.mem_goOn index _ member with old | new
        · exact absurd channelOpen (noAttempt reached old channel registers)
        · exact registering_assertFrom new channel registers
  | asserted connection channel command rest isOpen =>
      refine ⟨sound.handlings, sound.registrations, sound.consumeCalls, ?_⟩
      dsimp only
      exact sound.goOn index _ fun _ => registering_assertFrom
  | registered connection channel position queue isOpen consumer =>
      have member := List.mem_of_getElem? found
      have current : channel = service.channel :=
        sound.attempts _ member channel rfl isOpen
      refine ⟨sound.handlings, ?_, sound.consumeCalls, ?_⟩
      · intro registration consuming
        rcases List.mem_append.mp consuming with old | new
        · exact sound.registrations registration old
        · rw [List.mem_singleton.mp new]
          exact current
      · dsimp only
        exact sound.goOn index _ fun _ => registering_registerFrom

theorem OnChannel.step (sound : OnChannel service)
    (numbered : Numbered service)
    (idle : SwapsIdleChannel service action)
    (stepped : Messaging.step config service action = some next) :
    OnChannel next := by
  cases step_cases stepped with
  | consumed queue =>
      refine ⟨sound.handlings, sound.registrations, ?_, sound.attempts⟩
      intro registration member isOpen
      rcases List.mem_append.mp member with old | new
      · exact sound.consumeCalls registration old isOpen
      · rw [List.mem_singleton.mp new]
  | consumeResolved index registration found isOpen =>
      have current := sound.consumeCalls registration
        (List.mem_of_getElem? found) isOpen
      refine ⟨sound.handlings, ?_, ?_, sound.attempts⟩
      · intro other member
        rcases List.mem_append.mp member with old | new
        · exact sound.registrations other old
        · rw [List.mem_singleton.mp new]
          exact current
      · intro other member
        exact sound.consumeCalls other (List.mem_of_mem_eraseIdx member)
  | consumeRejected index =>
      refine ⟨sound.handlings, sound.registrations, ?_, sound.attempts⟩
      intro other member
      exact sound.consumeCalls other (List.mem_of_mem_eraseIdx member)
  | timerFired pending =>
      refine ⟨sound.handlings, sound.registrations, sound.consumeCalls, ?_⟩
      intro stage member
      rcases List.mem_append.mp member with old | new
      · exact sound.attempts stage old
      · rw [List.mem_singleton.mp new]
        intro channel registers
        cases registers
  | connectResolved index stage _ found resolved =>
      exact sound.resolved numbered (idle stage found) found resolved
  | connectRejected index stage found =>
      refine ⟨sound.handlings, sound.registrations, sound.consumeCalls, ?_⟩
      intro other member
      exact sound.attempts other (List.mem_of_mem_eraseIdx member)
  | closed connection isOpen =>
      refine ⟨sound.handlings, ?_, ?_, ?_⟩
      · intro registration member
        exact sound.registrations registration
          (List.mem_of_mem_filter member)
      · intro registration member stillOpen
        exact sound.consumeCalls registration member
          (Service.isOpen_close.mp stillOpen).2
      · intro stage member channel registers stillOpen
        exact sound.attempts stage member channel registers
          (Service.isOpen_close.mp stillOpen).2
  | delivered index registration delivery broker found delivers =>
      have current := sound.registrations registration
        (List.mem_of_getElem? found)
      refine ⟨?_, sound.registrations, sound.consumeCalls, sound.attempts⟩
      intro handling member
      rcases List.mem_append.mp member with old | new
      · exact sound.handlings handling old
      · rw [List.mem_singleton.mp new, ← current]
        exact (Broker.deliver_eq_some delivers).1
  | handled _ index handling ends found =>
      refine ⟨?_, sound.registrations, sound.consumeCalls, sound.attempts⟩
      intro other member
      exact sound.handlings other (List.mem_of_mem_eraseIdx member)
  | _ => exact ⟨sound.handlings, sound.registrations, sound.consumeCalls,
      sound.attempts⟩

private theorem mem_deliveries {delivery : Delivery} :
    delivery ∈ service.deliveries ↔
      delivery ∈ service.broker.unacked ∨
        ∃ handling ∈ service.handlings, handling.delivery = delivery := by
  simp only [Service.deliveries, List.mem_append, List.mem_map]

/-- A step that issues no tag and adds no delivery. -/
theorem TagsIdentify.fewer (identify : TagsIdentify service)
    (unacked : ∀ delivery ∈ next.broker.unacked,
      delivery ∈ service.broker.unacked)
    (handlings : ∀ handling ∈ next.handlings, handling ∈ service.handlings)
    (same : next.broker.lastTag = service.broker.lastTag) :
    TagsIdentify next := by
  refine Broker.Tagged.subset identify ?_ same
  intro delivery member
  rcases mem_deliveries.mp member with queued | ⟨handling, runs, rfl⟩
  · exact mem_deliveries.mpr (Or.inl (unacked delivery queued))
  · exact mem_deliveries.mpr
      (Or.inr ⟨handling, handlings handling runs, rfl⟩)

private theorem mem_settled {handled delivery : Delivery}
    (member : delivery ∈ (service.settled handled).unacked) :
    delivery ∈ service.broker.unacked := by
  unfold Service.settled at member
  split at member
  · exact (Broker.mem_settle.mp member).1
  · exact member

private theorem settled_lastTag (service : Service) (handled : Delivery) :
    (service.settled handled).lastTag = service.broker.lastTag := by
  unfold Service.settled
  split <;> rfl

theorem TagsIdentify.step (identify : TagsIdentify service)
    (stepped : Messaging.step config service action = some next) :
    TagsIdentify next := by
  cases step_cases stepped with
  | published queue =>
      exact identify.fewer (fun _ => id) (fun _ => id) rfl
  | connectResolved index stage _ found resolved =>
      cases resolved <;> exact identify
  | closed connection isOpen =>
      refine identify.fewer ?_ (fun _ => id) rfl
      intro delivery member
      exact (Broker.mem_closeChannel.mp member).1
  | delivered index registration delivery broker found delivers =>
      have issued := identify.deliver delivers
      refine issued.subset ?_ rfl
      intro other member
      rcases mem_deliveries.mp member with queued | ⟨handling, runs, rfl⟩
      · dsimp only at queued
        rw [(Broker.deliver_eq_some delivers).2.2.1] at queued
        rcases List.mem_append.mp queued with old | new
        · exact List.mem_cons_of_mem _ (mem_deliveries.mpr (Or.inl old))
        · rw [List.mem_singleton.mp new]
          exact List.mem_cons_self
      · rcases List.mem_append.mp runs with old | new
        · exact List.mem_cons_of_mem _
            (mem_deliveries.mpr (Or.inr ⟨handling, old, rfl⟩))
        · rw [List.mem_singleton.mp new]
          exact List.mem_cons_self
  | handled _ index handling ends found =>
      refine identify.fewer (fun _ => mem_settled) ?_
        (settled_lastTag service _)
      intro other member
      exact List.mem_of_mem_eraseIdx member
  | _ => exact identify

/-- Everything that a step takes from the broker is accounted for. -/
theorem settlesOwn_of_sound (sound : OnChannel service)
    (identify : TagsIdentify service) (action : Action) :
    SettlesOwn config service action where
  channel := by
    intro handling ends _
    obtain ⟨index, _, found⟩ := Option.bind_eq_some_iff.mp ends
    exact (sound.handlings handling (List.mem_of_getElem? found)).symm
  removed := by
    intro next stepped delivery member gone
    cases step_cases stepped with
    | connectResolved index stage _ found resolved =>
        cases resolved <;> exact absurd member gone
    | closed connection isOpen =>
        left
        by_cases onChannel : delivery.channel = connection
        · exact Broker.mem_ready_closeChannel member onChannel
        · exact absurd (Broker.mem_closeChannel.mpr ⟨member, onChannel⟩) gone
    | delivered index registration issued broker found delivers =>
        have kept : delivery ∈ broker.unacked := by
          rw [(Broker.deliver_eq_some delivers).2.2.1]
          exact List.mem_append_left _ member
        exact absurd kept gone
    | handled _ index handling ends found =>
        right
        have runs := List.mem_of_getElem? found
        refine ⟨handling, ?_, ?_⟩
        · rw [ending, ends]
          exact found
        · dsimp only at gone
          unfold Service.settled at gone
          split at gone
          · have settled : delivery.channel = service.channel ∧
                delivery.tag = handling.delivery.tag := by
              by_contra other
              exact gone (Broker.mem_settle.mpr ⟨member, other⟩)
            refine identify.unique _ ?_ _ ?_ ?_ settled.2.symm
            · exact mem_deliveries.mpr (Or.inr ⟨handling, runs, rfl⟩)
            · exact mem_deliveries.mpr (Or.inl member)
            · rw [settled.1]
              exact sound.handlings handling runs
          · exact absurd member gone
    | _ => exact absurd member gone

end Steps

/-- In every run in which `this.channel` is replaced only while nothing
depends on the old one, every `ack` and `nack` settles the delivery whose
handler has ended and no other. -/
theorem settlesOwn_of_swapsIdleChannel {config : Config}
    {history : List (Service × Action)} {service : Service}
    (run : Trace (step config) Service.started history service)
    (guarded : StepsMeet SwapsIdleChannel history) :
    ∀ entry ∈ history, SettlesOwn config entry.1 entry.2 := by
  have both : (OnChannel service ∧ TagsIdentify service) ∧
      ∀ entry ∈ history, SettlesOwn config entry.1 entry.2 := by
    refine Trace.invariantWith SwapsIdleChannel
      (fun past current => (OnChannel current ∧ TagsIdentify current) ∧
        ∀ entry ∈ past, SettlesOwn config entry.1 entry.2)
      ⟨⟨onChannel_started, Broker.tagged_nil _⟩, by simp⟩ ?_ run guarded
    intro past current action next runBefore inductionHypothesis idle stepped
    obtain ⟨⟨sound, identify⟩, settled⟩ := inductionHypothesis
    refine ⟨⟨sound.step (Trace.numbered runBefore) idle stepped,
      identify.step stepped⟩, ?_⟩
    exact List.forall_mem_cons.mpr
      ⟨settlesOwn_of_sound sound identify action, settled⟩
  exact both.2

/-- The timer fires and the attempt gets through, up to the registration of
the one consumer. -/
def reconnect : List Action :=
  .timer :: List.replicate 7 (.connectResolves 0)

/-- A message is handled, the connection is lost, and the next message is
handled on the new one. -/
def handledInTurn : List Action :=
  [.consume "order.timeout.q", .consumeResolves 0,
    .publish "order.timeout.q", .deliver 0, .handlerReturns 0, .close 0] ++
    reconnect ++
    [.publish "order.timeout.q", .deliver 0, .handlerThrows 0]

private theorem handledInTurn_enabled :
    (replay (step Config.default) [] Service.started handledInTurn).isSome =
      true := by
  decide

theorem settlesOwn_handledInTurn :
    StepsMeet (SettlesOwn Config.default)
      ((replay (step Config.default) [] Service.started handledInTurn).get
        handledInTurn_enabled).1 :=
  settlesOwn_of_swapsIdleChannel
    (Trace.of_replay_get handledInTurn handledInTurn_enabled) (by decide)

/-- The handler of the second message outlives its channel; on the new one
the second message and a third are being handled when it ends. -/
def handlerOutlivesChannel : List Action :=
  [.consume "order.timeout.q", .consumeResolves 0,
    .publish "order.timeout.q", .publish "order.timeout.q", .deliver 0,
    .deliver 0, .handlerReturns 0, .close 0] ++
    reconnect ++
    [.publish "order.timeout.q", .deliver 0, .deliver 0, .handlerReturns 0]

/-- A handler can settle a message that another handler is still at. -/
theorem settlesOther_reachable :
    ¬ ∀ (config : Config) (history : List (Service × Action))
        (service : Service),
      Trace (step config) Service.started history service →
      ∀ entry ∈ history, SettlesOwn config entry.1 entry.2 := by
  intro always
  obtain ⟨history, service, run, checked⟩ :=
    Trace.exists_of_replay (step Config.default) Service.started
      handlerOutlivesChannel
      (fun result =>
        result.1.any fun entry =>
          decide (entry.1.IsOpen entry.1.channel ∧
            ∃ handling ∈ ending entry.1 entry.2,
              entry.1.channel ≠ handling.delivery.channel))
      (by decide)
  obtain ⟨entry, member, wrong⟩ := List.any_eq_true.mp checked
  obtain ⟨isOpen, handling, ends, other⟩ := of_decide_eq_true wrong
  exact other
    ((always Config.default history service run entry member).channel handling
      ends isOpen)

end ConcertTicketing.Messaging
