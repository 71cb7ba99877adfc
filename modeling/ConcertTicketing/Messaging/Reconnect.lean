import ConcertTicketing.Messaging.Service

/-!
# The reconnect chain

Two triggers schedule an attempt to reconnect: the `close` event of a
connection and the rejected promise of an attempt.  An attempt that fails after
it has opened its connection leaves the connection, and its `close` listener,
behind; a connection that is lost during the attempt pulls both triggers; and a
consumer that is added while an attempt registers the list is registered twice.
Without these overlaps there is one chain, one connection and one registration
for each consumer.
-/

namespace ConcertTicketing.Messaging

open Amqp

/-- At most one attempt is pending or in progress, at most one connection is
open, and no consumer is registered twice. -/
structure SingleChain (service : Service) : Prop where
  chain : service.timers + service.attempts.length ≤ 1
  connection : ∀ first second, service.IsOpen first →
    service.IsOpen second → first = second
  consumers : (service.registrations.map Registration.consumer).Nodup

/-- The attempt has replaced `this.channel` and has not ended. -/
def ConnectStage.UsesChannel : ConnectStage → Prop
  | .asserting _ _ _ _ => True
  | .registering _ _ _ => True
  | _ => False

instance : DecidablePred ConnectStage.UsesChannel
  | .connecting => isFalse id
  | .openingChannel _ => isFalse id
  | .asserting _ _ _ _ => isTrue trivial
  | .registering _ _ _ => isTrue trivial

/-- No attempt fails while the connection that it has opened is still open, no
connection is lost during an attempt unless the module is being destroyed, and
`consume` is not called while an attempt uses its new channel. -/
def NoOverlap (service : Service) : Action → Prop
  | .connectRejects index =>
      ∀ stage ∈ service.attempts[index]?, ∀ connection ∈ stage.connection?,
        ¬ service.IsOpen connection
  | .close _ => service.shuttingDown = true ∨ service.attempts = []
  | .consume _ => ∀ stage ∈ service.attempts, ¬ stage.UsesChannel
  | _ => True

instance (service : Service) : DecidablePred (NoOverlap service)
  | .publish _ => isTrue trivial
  | .consume _ =>
      inferInstanceAs (Decidable (∀ stage ∈ service.attempts, ¬ _))
  | .consumeResolves _ => isTrue trivial
  | .consumeRejects _ => isTrue trivial
  | .timer => isTrue trivial
  | .connectResolves _ => isTrue trivial
  | .connectRejects index =>
      inferInstanceAs
        (Decidable (∀ stage ∈ service.attempts[index]?, ∀ _ ∈ _, ¬ _))
  | .close _ => inferInstanceAs (Decidable (_ ∨ _))
  | .deliver _ => isTrue trivial
  | .handlerReturns _ => isTrue trivial
  | .handlerThrows _ => isTrue trivial
  | .destroy => isTrue trivial

/-- No connection is open. -/
def Disconnected (service : Service) : Prop :=
  ∀ connection, ¬ service.IsOpen connection

/-- The connection is the only one that can be open, and no call of `consume`
awaits the broker on it. -/
structure OnlyConnection (service : Service) (connection : Nat) : Prop where
  only : ∀ other, service.IsOpen other → other = connection
  quiet : ∀ registration ∈ service.consumeCalls,
    ¬ service.IsOpen registration.channel

/-- What has happened before the attempt got to its stage. -/
def StageSound (service : Service) : ConnectStage → Prop
  | .connecting => Disconnected service
  | .openingChannel connection =>
      OnlyConnection service connection ∧
        service.channel ≠ connection ∧ service.registrations = []
  | .asserting connection channel _ _ =>
      OnlyConnection service connection ∧
        service.channel = connection ∧ channel = connection ∧
        service.registrations = []
  | .registering connection channel position =>
      OnlyConnection service connection ∧
        service.channel = connection ∧ channel = connection ∧
        ∀ registration ∈ service.registrations,
          registration.consumer < position

/-- The consumers that the broker knows or is being told about. -/
structure ConsumersSound (service : Service) : Prop where
  isOpen : ∀ registration ∈ service.registrations,
    service.IsOpen registration.channel
  known : ∀ registration ∈ service.registrations,
    registration.consumer < service.consumers.length
  once : (service.registrations.map Registration.consumer).Nodup
  calls : ∀ registration ∈ service.consumeCalls,
    registration.consumer < service.consumers.length
  callsOnce : (service.consumeCalls.map Registration.consumer).Nodup
  /-- a call that the broker can still answer registers a new consumer -/
  fresh : ∀ call ∈ service.consumeCalls, service.IsOpen call.channel →
    ∀ registration ∈ service.registrations,
      registration.consumer ≠ call.consumer

structure ChainSound (service : Service) : Prop where
  chain : service.timers + service.attempts.length ≤ 1
  connection : ∀ first second, service.IsOpen first →
    service.IsOpen second → first = second
  waiting : 0 < service.timers → Disconnected service
  attempt : ∀ stage ∈ service.attempts, StageSound service stage
  consumers : ConsumersSound service

private theorem ChainSound.singleChain {service : Service}
    (sound : ChainSound service) : SingleChain service :=
  ⟨sound.chain, sound.connection, sound.consumers.once⟩

private theorem chainSound_started : ChainSound Service.started where
  chain := Nat.zero_le 1
  connection := by
    have only : ∀ connection, Service.started.IsOpen connection →
        connection = 0 := by
      intro connection isOpen
      cases connection with
      | zero => rfl
      | succ later => cases isOpen
    intro first second firstOpen secondOpen
    rw [only first firstOpen, only second secondOpen]
  waiting := by
    intro pending
    cases pending
  attempt := by
    intro stage member
    cases member
  consumers := by
    constructor
    · intro registration member
      cases member
    · intro registration member
      cases member
    · exact List.nodup_nil
    · intro registration member
      cases member
    · exact List.nodup_nil
    · intro call member
      cases member

/-! ## One step -/

/-- The two states agree on connections, consumers and registrations. -/
structure SameLinks (service next : Service) : Prop where
  connections : next.connections = service.connections
  consumers : next.consumers = service.consumers
  consumeCalls : next.consumeCalls = service.consumeCalls
  registrations : next.registrations = service.registrations

namespace SameLinks

variable {service next : Service}

theorem isOpen (links : SameLinks service next) (connection : Nat) :
    next.IsOpen connection ↔ service.IsOpen connection := by
  rw [Service.IsOpen, links.connections]
  exact Iff.rfl

private theorem onlyConnection (links : SameLinks service next)
    {connection : Nat} (before : OnlyConnection service connection) :
    OnlyConnection next connection := by
  constructor
  · intro other otherOpen
    exact before.only other ((links.isOpen other).mp otherOpen)
  · intro registration member
    rw [links.consumeCalls] at member
    rw [links.isOpen]
    exact before.quiet registration member

private theorem stageSound (links : SameLinks service next)
    (channel : next.channel = service.channel) {stage : ConnectStage}
    (before : StageSound service stage) :
    StageSound next stage := by
  cases stage with
  | connecting =>
      intro connection stillOpen
      exact before connection ((links.isOpen connection).mp stillOpen)
  | openingChannel connection =>
      simp only [StageSound, channel, links.registrations]
      exact ⟨links.onlyConnection before.1, before.2⟩
  | asserting connection used command rest =>
      simp only [StageSound, channel, links.registrations]
      exact ⟨links.onlyConnection before.1, before.2⟩
  | registering connection used position =>
      simp only [StageSound, channel, links.registrations]
      exact ⟨links.onlyConnection before.1, before.2⟩

private theorem consumersSound (links : SameLinks service next)
    (before : ConsumersSound service) :
    ConsumersSound next := by
  constructor
  · intro registration member
    rw [links.registrations] at member
    rw [links.isOpen]
    exact before.isOpen registration member
  · rw [links.registrations, links.consumers]
    exact before.known
  · rw [links.registrations]
    exact before.once
  · rw [links.consumeCalls, links.consumers]
    exact before.calls
  · rw [links.consumeCalls]
    exact before.callsOnce
  · intro call member callOpen
    rw [links.consumeCalls] at member
    rw [links.registrations]
    exact before.fresh call member ((links.isOpen _).mp callOpen)

end SameLinks

/-- Without registrations there is nothing to register twice. -/
theorem consumersSound_of_none {service : Service}
    (none : service.registrations = [])
    (calls : ∀ registration ∈ service.consumeCalls,
      registration.consumer < service.consumers.length)
    (callsOnce : (service.consumeCalls.map Registration.consumer).Nodup) :
    ConsumersSound service := by
  constructor
  · rw [none]
    intro registration member
    cases member
  · rw [none]
    intro registration member
    cases member
  · rw [none]
    exact List.nodup_nil
  · exact calls
  · exact callsOnce
  · rw [none]
    intro call _ _ registration member
    cases member

namespace ChainSound

variable {config : Config} {service next : Service} {action : Action}

/-- A step that only moves the chain on. -/
theorem linked (sound : ChainSound service) (links : SameLinks service next)
    (chain : next.timers + next.attempts.length ≤ 1)
    (waiting : 0 < next.timers → Disconnected service)
    (attempt : ∀ stage ∈ next.attempts, StageSound next stage) :
    ChainSound next := by
  refine ⟨chain, ?_, ?_, attempt, links.consumersSound sound.consumers⟩
  · intro first second firstOpen secondOpen
    exact sound.connection first second ((links.isOpen first).mp firstOpen)
      ((links.isOpen second).mp secondOpen)
  · intro pending connection stillOpen
    exact waiting pending connection ((links.isOpen connection).mp stillOpen)

/-- A step that the chain does not see. -/
theorem unseen (sound : ChainSound service) (links : SameLinks service next)
    (channel : next.channel = service.channel)
    (attempts : next.attempts = service.attempts)
    (timers : next.timers = service.timers) :
    ChainSound next := by
  refine sound.linked links ?_ ?_ ?_
  · rw [attempts, timers]
    exact sound.chain
  · rw [timers]
    exact sound.waiting
  · intro stage member
    rw [attempts] at member
    exact links.stageSound channel (sound.attempt stage member)

/-- An attempt in progress is the only one, and no timer is pending. -/
theorem alone (sound : ChainSound service) {index : Nat}
    {stage : ConnectStage} (found : service.attempts[index]? = some stage) :
    service.attempts = [stage] ∧ index = 0 ∧ service.timers = 0 := by
  have inside : index < service.attempts.length :=
    (List.getElem?_eq_some_iff.mp found).1
  have bound := sound.chain
  have first : index = 0 := by omega
  have single : service.attempts.length = 1 := by omega
  obtain ⟨only, same⟩ := List.length_eq_one_iff.mp single
  subst index
  rw [same] at found
  cases found
  exact ⟨same, rfl, by omega⟩

/-- The one attempt goes on, or there is none any more. -/
theorem goOn (sound : ChainSound service) {index : Nat}
    {stage : ConnectStage} (found : service.attempts[index]? = some stage)
    (reached : Option ConnectStage) :
    Service.goOn service.attempts index reached = reached.toList := by
  obtain ⟨single, first, _⟩ := sound.alone found
  rw [single, first]
  cases reached with
  | none => rfl
  | some later => rfl

end ChainSound

private theorem nodup_snoc {registrations : List Registration}
    {registration : Registration}
    (once : (registrations.map Registration.consumer).Nodup)
    (new : ∀ earlier ∈ registrations,
      earlier.consumer ≠ registration.consumer) :
    ((registrations ++ [registration]).map Registration.consumer).Nodup := by
  rw [List.map_append]
  refine List.nodup_append.mpr
    ⟨once, List.nodup_cons.mpr ⟨List.not_mem_nil, List.nodup_nil⟩, ?_⟩
  intro consumer member other last same
  obtain ⟨earlier, old, rfl⟩ := List.mem_map.mp member
  rw [List.mem_singleton.mp last] at same
  exact new earlier old same

/-- The other calls are for other consumers. -/
theorem consumer_ne_of_mem_eraseIdx {calls : List Registration} {index : Nat}
    {registration call : Registration}
    (once : (calls.map Registration.consumer).Nodup)
    (found : calls[index]? = some registration)
    (member : call ∈ calls.eraseIdx index) :
    registration.consumer ≠ call.consumer := by
  obtain ⟨position, elsewhere, same⟩ :=
    List.mem_eraseIdx_iff_getElem?.mp member
  intro equal
  have inside : index < (calls.map Registration.consumer).length := by
    rw [List.length_map]
    exact (List.getElem?_eq_some_iff.mp found).1
  refine elsewhere ((List.getElem?_inj inside once).mp ?_).symm
  rw [List.getElem?_map, List.getElem?_map, found, same]
  exact congrArg some equal

/-- The loop goes on behind the consumers that are registered. -/
theorem stageSound_registerFrom {service : Service} {connection : Nat}
    {position : Nat} (only : OnlyConnection service connection)
    (channel : service.channel = connection)
    (earlier : ∀ registration ∈ service.registrations,
      registration.consumer < position) :
    ∀ stage ∈ service.registerFrom connection position,
      StageSound service stage := by
  intro stage reached
  simp only [Service.registerFrom, Option.mem_def,
    Option.ite_none_right_eq_some, Option.some.injEq] at reached
  obtain ⟨_, rfl⟩ := reached
  exact ⟨only, channel, channel, earlier⟩

private theorem stageSound_assertFrom {service : Service} {connection : Nat}
    (commands : List TopologyCommand)
    (only : OnlyConnection service connection)
    (channel : service.channel = connection)
    (none : service.registrations = []) :
    ∀ stage ∈ service.assertFrom connection commands,
      StageSound service stage := by
  cases commands with
  | nil =>
      refine stageSound_registerFrom only channel ?_
      rw [none]
      intro registration member
      cases member
  | cons command rest =>
      intro stage reached
      cases reached
      exact ⟨only, channel, channel, none⟩

private theorem isOpen_of_appended {service next : Service} {connection : Nat}
    (grown : next.connections = service.connections ++ [true])
    (isOpen : next.IsOpen connection) :
    connection = service.connections.length ∨ service.IsOpen connection := by
  have inside : connection < service.connections.length + 1 := by
    have found := (List.getElem?_eq_some_iff.mp isOpen).1
    rw [grown, List.length_append] at found
    exact found
  rcases Nat.lt_succ_iff_lt_or_eq.mp inside with known | last
  · exact Or.inr ((Service.isOpen_append known grown).mp isOpen)
  · exact Or.inl last

namespace ChainSound

variable {config : Config} {service next : Service} {action : Action}

/-- The attempt goes on from a state in which its next stage is sound. -/
theorem resumed (sound : ChainSound service) {index : Nat}
    {stage : ConnectStage} (found : service.attempts[index]? = some stage)
    (middle : Service) (reached : Option ConnectStage)
    (timers : middle.timers = service.timers)
    (connection : ∀ first second, middle.IsOpen first →
      middle.IsOpen second → first = second)
    (attempt : ∀ later ∈ reached, StageSound middle later)
    (consumers : ConsumersSound middle) :
    ChainSound
      { middle with
        attempts := Service.goOn service.attempts index reached } := by
  have idle : middle.timers = 0 := timers.trans (sound.alone found).2.2
  have single : reached.toList.length ≤ 1 := Option.length_toList_le
  have links : SameLinks middle { middle with attempts := reached.toList } :=
    ⟨rfl, rfl, rfl, rfl⟩
  rw [sound.goOn found]
  refine ⟨?_, connection, ?_, ?_, links.consumersSound consumers⟩
  · dsimp only
    omega
  · intro pending
    dsimp only at pending
    omega
  · intro later member
    exact links.stageSound rfl (attempt later (Option.mem_toList.mp member))

/-- The attempt opens its connection; no other one is open. -/
theorem connected (sound : ChainSound service) (numbered : Numbered service)
    {index : Nat} (found : service.attempts[index]? = some .connecting) :
    ChainSound
      { service with
        connections := service.connections ++ [true]
        attempts :=
          Service.goOn service.attempts index
            (some (.openingChannel service.connections.length)) } := by
  have closed : Disconnected service :=
    sound.attempt _ (List.mem_of_getElem? found)
  have none : service.registrations = [] := by
    refine List.eq_nil_iff_forall_not_mem.mpr ?_
    intro registration member
    exact closed _ (sound.consumers.isOpen registration member)
  have last : ∀ connection,
      Service.IsOpen
        { service with connections := service.connections ++ [true] }
        connection →
      connection = service.connections.length := by
    intro connection isOpen
    rcases isOpen_of_appended rfl isOpen with new | old
    · exact new
    · exact absurd old (closed connection)
  refine sound.resumed found
    { service with connections := service.connections ++ [true] } _ rfl
    ?_ ?_ ?_
  · intro first second firstOpen secondOpen
    rw [last first firstOpen, last second secondOpen]
  · intro stage reached
    cases reached
    refine ⟨⟨last, ?_⟩, Nat.ne_of_lt numbered.channel, none⟩
    intro registration call isOpen
    exact Nat.ne_of_lt (numbered.consumeCalls registration call)
      (last _ isOpen)
  · exact consumersSound_of_none none sound.consumers.calls
      sound.consumers.callsOnce

/-- The consumers behind a registration of the next one. -/
theorem consumersSound_registered (sound : ChainSound service)
    {connection position : Nat} {queue : String}
    (only : OnlyConnection service connection)
    (isOpen : service.IsOpen connection)
    (earlier : ∀ registration ∈ service.registrations,
      registration.consumer < position)
    (inside : position < service.consumers.length) :
    ConsumersSound
      { service with
        registrations :=
          service.registrations ++ [⟨position, queue, connection⟩] } := by
  have before := sound.consumers
  constructor
  · intro registration member
    rcases List.mem_append.mp member with old | new
    · exact before.isOpen registration old
    · rw [List.mem_singleton.mp new]
      exact isOpen
  · intro registration member
    rcases List.mem_append.mp member with old | new
    · exact before.known registration old
    · rw [List.mem_singleton.mp new]
      exact inside
  · refine nodup_snoc before.once ?_
    intro registration member
    exact Nat.ne_of_lt (earlier registration member)
  · exact before.calls
  · exact before.callsOnce
  · intro call member callOpen
    exact absurd callOpen (only.quiet call member)

theorem resolved (sound : ChainSound service) (numbered : Numbered service)
    {index : Nat} {stage : ConnectStage}
    (found : service.attempts[index]? = some stage)
    (resolved : Resolved config service index stage next) :
    ChainSound next := by
  have before : StageSound service stage :=
    sound.attempt stage (List.mem_of_getElem? found)
  cases resolved with
  | connected =>
      exact sound.connected numbered found
  | channelOpened connection isOpen =>
      obtain ⟨only, _, none⟩ := before
      have links : SameLinks service { service with channel := connection } :=
        ⟨rfl, rfl, rfl, rfl⟩
      exact sound.resumed found { service with channel := connection } _ rfl
        sound.connection
        (stageSound_assertFrom _ (links.onlyConnection only) rfl none)
        (links.consumersSound sound.consumers)
  | asserted connection channel command rest isOpen =>
      obtain ⟨only, current, _, none⟩ := before
      exact sound.resumed found service _ rfl sound.connection
        (stageSound_assertFrom rest only current none) sound.consumers
  | registered connection channel position queue isOpen consumer =>
      obtain ⟨only, current, same, earlier⟩ := before
      subst channel
      have inside : position < service.consumers.length :=
        (List.getElem?_eq_some_iff.mp consumer).1
      let behind : Service :=
        { service with
          registrations :=
            service.registrations ++ [⟨position, queue, connection⟩] }
      have registered : ∀ registration ∈ behind.registrations,
          registration.consumer < position + 1 := by
        intro registration member
        rcases List.mem_append.mp member with old | new
        · exact Nat.lt_succ_of_lt (earlier registration old)
        · rw [List.mem_singleton.mp new]
          exact Nat.lt_succ_self position
      have onlyBehind : OnlyConnection behind connection :=
        ⟨only.only, only.quiet⟩
      exact sound.resumed found behind _ rfl sound.connection
        (stageSound_registerFrom onlyBehind current registered)
        (sound.consumersSound_registered only isOpen earlier inside)

theorem timerFired (sound : ChainSound service)
    (pending : 0 < service.timers) :
    ChainSound
      { service with
        timers := service.timers - 1
        attempts := service.attempts ++ [.connecting] } := by
  have closed : Disconnected service := sound.waiting pending
  have bound := sound.chain
  have idle : service.attempts = [] :=
    List.eq_nil_of_length_eq_zero (by omega)
  refine sound.linked ⟨rfl, rfl, rfl, rfl⟩ ?_ (fun _ => closed) ?_
  · dsimp only
    rw [idle, List.nil_append, List.length_singleton]
    omega
  · dsimp only
    rw [idle, List.nil_append]
    intro stage member
    rw [List.mem_singleton.mp member]
    exact closed

/-- An attempt that fails without a connection leaves none behind. -/
theorem connectRejected (sound : ChainSound service) {index : Nat}
    {stage : ConnectStage} (found : service.attempts[index]? = some stage)
    (left : ∀ connection ∈ stage.connection?, ¬ service.IsOpen connection) :
    ChainSound
      { service with
        attempts := service.attempts.eraseIdx index
        timers := service.timers + 1 } := by
  have before : StageSound service stage :=
    sound.attempt stage (List.mem_of_getElem? found)
  have closed : Disconnected service := by
    intro connection isOpen
    cases stage with
    | connecting => exact before connection isOpen
    | openingChannel own =>
        rw [before.1.only connection isOpen] at isOpen
        exact left own rfl isOpen
    | asserting own used command rest =>
        rw [before.1.only connection isOpen] at isOpen
        exact left own rfl isOpen
    | registering own used position =>
        rw [before.1.only connection isOpen] at isOpen
        exact left own rfl isOpen
  have gone : service.attempts.eraseIdx index = [] := sound.goOn found none
  have idle : service.timers = 0 := (sound.alone found).2.2
  rw [gone, idle]
  refine sound.linked ⟨rfl, rfl, rfl, rfl⟩ (Nat.le_refl 1) (fun _ => closed) ?_
  intro later member
  cases member

/-- The only open connection closes, and with it all consumers are gone. -/
theorem closed (sound : ChainSound service) {connection : Nat}
    (isOpen : service.IsOpen connection)
    (alone : service.shuttingDown = true ∨ service.attempts = []) :
    ChainSound (service.close connection) := by
  have closed : Disconnected (service.close connection) := by
    intro other stillOpen
    have old := Service.isOpen_close.mp stillOpen
    exact old.1 (sound.connection other connection old.2 isOpen)
  have none : (service.close connection).registrations = [] := by
    refine List.filter_eq_nil_iff.mpr ?_
    intro registration member
    rw [sound.connection _ connection
      (sound.consumers.isOpen registration member) isOpen]
    simp
  have idle : service.timers = 0 := by
    by_contra pending
    exact sound.waiting (Nat.pos_of_ne_zero pending) connection isOpen
  have quiet : ∀ registration ∈ service.consumeCalls,
      ¬ (service.close connection).IsOpen registration.channel :=
    fun registration _ => closed registration.channel
  refine ⟨?_, ?_, fun _ => closed, ?_, ?_⟩
  · have bound := sound.chain
    change (if service.shuttingDown then service.timers
      else service.timers + 1) + service.attempts.length ≤ 1
    rcases alone with down | ended
    · rw [if_pos down]
      exact bound
    · rw [ended, idle]
      split <;> decide
  · intro first second firstOpen
    exact absurd firstOpen (closed first)
  · intro stage member
    have before := sound.attempt stage member
    have only : ∀ own, OnlyConnection (service.close connection) own :=
      fun own => ⟨fun other stillOpen => absurd stillOpen (closed other), quiet⟩
    cases stage with
    | connecting => exact closed
    | openingChannel own => exact ⟨only own, before.2.1, none⟩
    | asserting own used command rest =>
        exact ⟨only own, before.2.1, before.2.2.1, none⟩
    | registering own used position =>
        refine ⟨only own, before.2.1, before.2.2.1, ?_⟩
        rw [none]
        intro registration later
        cases later
  · exact consumersSound_of_none none sound.consumers.calls
      sound.consumers.callsOnce

/-- A consumer is added while no attempt could come to it as well. -/
theorem consumed (sound : ChainSound service) (queue : String)
    (alone : ∀ stage ∈ service.attempts, ¬ stage.UsesChannel) :
    ChainSound
      { service with
        consumers := service.consumers ++ [queue]
        consumeCalls :=
          service.consumeCalls ++
            [⟨service.consumers.length, queue, service.channel⟩] } := by
  have before := sound.consumers
  have longer : (service.consumers ++ [queue]).length =
      service.consumers.length + 1 := List.length_append
  refine ⟨sound.chain, sound.connection, sound.waiting, ?_, ?_⟩
  · intro stage member
    have unused := alone stage member
    have stageBefore := sound.attempt stage member
    cases stage with
    | connecting => exact stageBefore
    | openingChannel own =>
        obtain ⟨only, other, none⟩ := stageBefore
        refine ⟨⟨only.only, ?_⟩, other, none⟩
        intro registration call
        rcases List.mem_append.mp call with old | new
        · exact only.quiet registration old
        · rw [List.mem_singleton.mp new]
          intro isOpen
          exact other (only.only service.channel isOpen)
    | asserting own used command rest => exact absurd trivial unused
    | registering own used position => exact absurd trivial unused
  · constructor
    · exact before.isOpen
    · intro registration member
      dsimp only
      rw [longer]
      exact Nat.lt_succ_of_lt (before.known registration member)
    · exact before.once
    · intro registration member
      dsimp only
      rw [longer]
      rcases List.mem_append.mp member with old | new
      · exact Nat.lt_succ_of_lt (before.calls registration old)
      · rw [List.mem_singleton.mp new]
        exact Nat.lt_succ_self _
    · refine nodup_snoc before.callsOnce ?_
      intro call member
      exact Nat.ne_of_lt (before.calls call member)
    · intro call member callOpen registration registered
      rcases List.mem_append.mp member with old | new
      · exact before.fresh call old callOpen registration registered
      · rw [List.mem_singleton.mp new]
        exact Nat.ne_of_lt (before.known registration registered)

/-- The broker answers a call of `consume`; no attempt is in progress. -/
theorem consumeResolved (sound : ChainSound service) {index : Nat}
    {registration : Registration}
    (found : service.consumeCalls[index]? = some registration)
    (isOpen : service.IsOpen registration.channel) :
    ChainSound
      { service with
        consumeCalls := service.consumeCalls.eraseIdx index
        registrations := service.registrations ++ [registration] } := by
  have before := sound.consumers
  have called : registration ∈ service.consumeCalls :=
    List.mem_of_getElem? found
  have idle : service.attempts = [] := by
    refine List.eq_nil_iff_forall_not_mem.mpr ?_
    intro stage member
    have stageBefore := sound.attempt stage member
    cases stage with
    | connecting => exact stageBefore _ isOpen
    | openingChannel own => exact stageBefore.1.quiet registration called isOpen
    | asserting own used command rest =>
        exact stageBefore.1.quiet registration called isOpen
    | registering own used position =>
        exact stageBefore.1.quiet registration called isOpen
  refine ⟨sound.chain, sound.connection, sound.waiting, ?_, ?_⟩
  · intro stage member
    dsimp only at member
    rw [idle] at member
    cases member
  · constructor
    · intro other member
      rcases List.mem_append.mp member with old | new
      · exact before.isOpen other old
      · rw [List.mem_singleton.mp new]
        exact isOpen
    · intro other member
      rcases List.mem_append.mp member with old | new
      · exact before.known other old
      · rw [List.mem_singleton.mp new]
        exact before.calls registration called
    · exact nodup_snoc before.once
        (before.fresh registration called isOpen)
    · intro other member
      exact before.calls other (List.mem_of_mem_eraseIdx member)
    · exact before.callsOnce.sublist
        ((List.eraseIdx_sublist _ index).map Registration.consumer)
    · intro call member callOpen other registered
      rcases List.mem_append.mp registered with old | new
      · exact before.fresh call (List.mem_of_mem_eraseIdx member) callOpen
          other old
      · rw [List.mem_singleton.mp new]
        exact consumer_ne_of_mem_eraseIdx before.callsOnce found member

theorem consumeRejected (sound : ChainSound service) (index : Nat) :
    ChainSound
      { service with
        consumeCalls := service.consumeCalls.eraseIdx index } := by
  have before := sound.consumers
  have fewer : ∀ call ∈ service.consumeCalls.eraseIdx index,
      call ∈ service.consumeCalls := fun _ => List.mem_of_mem_eraseIdx
  have only : ∀ connection, OnlyConnection service connection →
      OnlyConnection
        { service with consumeCalls := service.consumeCalls.eraseIdx index }
        connection := by
    intro connection alone
    refine ⟨alone.only, ?_⟩
    intro registration member
    exact alone.quiet registration (fewer registration member)
  refine ⟨sound.chain, sound.connection, sound.waiting, ?_, ?_⟩
  · intro stage member
    have stageBefore := sound.attempt stage member
    cases stage with
    | connecting => exact stageBefore
    | openingChannel own => exact ⟨only own stageBefore.1, stageBefore.2⟩
    | asserting own used command rest =>
        exact ⟨only own stageBefore.1, stageBefore.2⟩
    | registering own used position =>
        exact ⟨only own stageBefore.1, stageBefore.2⟩
  · constructor
    · exact before.isOpen
    · exact before.known
    · exact before.once
    · intro call member
      exact before.calls call (fewer call member)
    · exact before.callsOnce.sublist
        ((List.eraseIdx_sublist _ index).map Registration.consumer)
    · intro call member
      exact before.fresh call (fewer call member)

theorem step (sound : ChainSound service) (numbered : Numbered service)
    (alone : NoOverlap service action)
    (stepped : Messaging.step config service action = some next) :
    ChainSound next := by
  cases step_cases stepped with
  | consumed queue => exact sound.consumed queue alone
  | consumeResolved index registration found isOpen =>
      exact sound.consumeResolved found isOpen
  | consumeRejected index => exact sound.consumeRejected index
  | timerFired pending => exact sound.timerFired pending
  | connectResolved index stage _ found resolved =>
      exact sound.resolved numbered found resolved
  | connectRejected index stage found =>
      exact sound.connectRejected found (alone stage found)
  | closed connection isOpen => exact sound.closed isOpen alone
  | _ => exact sound.unseen ⟨rfl, rfl, rfl, rfl⟩ rfl rfl rfl

end ChainSound

private theorem Trace.chainSound {config : Config}
    {history : List (Service × Action)} {service : Service}
    (run : Trace (step config) Service.started history service)
    (guarded : StepsMeet NoOverlap history) :
    ChainSound service :=
  Trace.invariantWith NoOverlap (fun _ current => ChainSound current)
    chainSound_started
    (fun _ _ _ _ runBefore inductionHypothesis alone stepped =>
      inductionHypothesis.step (Trace.numbered runBefore) alone stepped)
    run guarded

/-- Without overlaps every state has at most one attempt pending or in
progress, one open connection and one registration for each consumer. -/
theorem singleChain_of_noOverlap {config : Config}
    {history : List (Service × Action)} {service : Service}
    (run : Trace (step config) Service.started history service)
    (guarded : StepsMeet NoOverlap history) :
    ∀ reached ∈ visited history service, SingleChain reached :=
  Trace.forall_visited NoOverlap SingleChain
    (fun _ _ runHere guardedHere =>
      (Trace.chainSound runHere guardedHere).singleChain)
    run guarded

/-- The connection is lost, an attempt cannot connect, and the next one
registers the consumer again. -/
def retriedOnce : List Action :=
  [.consume "order.timeout.q", .consumeResolves 0, .close 0, .timer,
    .connectRejects 0, .timer] ++
    List.replicate 7 (.connectResolves 0)

private theorem retriedOnce_enabled :
    (replay (step Config.default) [] Service.started retriedOnce).isSome =
      true := by
  decide

theorem singleChain_retriedOnce :
    SingleChain
      ((replay (step Config.default) [] Service.started retriedOnce).get
        retriedOnce_enabled).2 :=
  singleChain_of_noOverlap
    (Trace.of_replay_get retriedOnce retriedOnce_enabled) (by decide) _
    List.mem_cons_self

/-- The new connection is lost while its channel is being opened: the `close`
listener and the rejected attempt each schedule another attempt. -/
def lostWhileConnecting : List Action :=
  [.close 0, .timer, .connectResolves 0, .close 1, .connectRejects 0]

/-- Two attempts can be pending at once. -/
theorem twoChains_reachable :
    ¬ ∀ (config : Config) (history : List (Service × Action))
        (service : Service),
      Trace (step config) Service.started history service →
      SingleChain service := by
  intro always
  obtain ⟨history, service, run, checked⟩ :=
    Trace.exists_of_replay (step Config.default) Service.started
      lostWhileConnecting
      (fun result => decide (2 ≤ result.2.timers))
      (by decide)
  have pending : 2 ≤ service.timers := of_decide_eq_true checked
  have chain := (always Config.default history service run).chain
  omega

end ConcertTicketing.Messaging
