import ConcertTicketing.Messaging.Acknowledgement

/-!
# Where the messages are

Whatever becomes of connections, channels and handlers, the broker holds each
message once, until it settles it; and it settles nothing that no handler has
been given.
-/

namespace ConcertTicketing.Messaging

open Amqp

def given? (service : Service) : Action → Option Nat
  | .deliver index =>
      (service.registrations[index]?).bind fun registration =>
        (service.broker.deliver registration.channel
          registration.queue).map fun delivered => delivered.1.message.id
  | _ => none

/-- The messages that handlers have been given. -/
def given (history : List (Service × Action)) : List Nat :=
  history.filterMap fun entry => given? entry.1 entry.2

/-- The handlers that have ended. -/
def handlersEnded (history : List (Service × Action)) : Nat :=
  history.countP fun entry => entry.2.endsHandler?.isSome

/-- The numbers of the messages that the broker holds. -/
def Service.heldIds (service : Service) : List Nat :=
  service.broker.held.map Message.id

/-- Each message is held or has been given to a handler, and the broker has
settled one for each handler that has ended, or fewer. -/
structure Kept (history : List (Service × Action)) (service : Service) :
    Prop where
  distinct : service.broker.Distinct
  present : ∀ id < service.broker.published,
    id ∈ service.heldIds ∨ id ∈ given history
  delivered : ∀ delivery ∈ service.broker.unacked,
    delivery.message.id ∈ given history
  settled : service.broker.published ≤
    service.heldIds.length + handlersEnded history

private theorem kept_started : Kept [] Service.started where
  distinct := Broker.distinct_empty
  present id issued := absurd issued (Nat.not_lt_zero id)
  delivered := by
    intro delivery member
    cases member
  settled := Nat.le_refl 0

section Steps

variable {history : List (Service × Action)} {service next : Service}
  {action : Action}

private theorem mem_given_cons {id : Nat} (before : id ∈ given history) :
    id ∈ given ((service, action) :: history) := by
  rw [given, List.filterMap_cons]
  split
  · exact before
  · exact List.mem_cons_of_mem _ before

private theorem handlersEnded_cons (service : Service) (action : Action)
    (history : List (Service × Action)) :
    handlersEnded ((service, action) :: history) =
      handlersEnded history + if action.endsHandler?.isSome then 1 else 0 :=
  List.countP_cons

/-- A step that holds the same messages. -/
theorem Kept.same (kept : Kept history service)
    (held : next.broker.held.Perm service.broker.held)
    (published : next.broker.published = service.broker.published)
    (delivered : ∀ delivery ∈ next.broker.unacked,
      delivery.message.id ∈ given ((service, action) :: history)) :
    Kept ((service, action) :: history) next where
  distinct := kept.distinct.subperm held.subperm published
  present := by
    intro id issued
    rw [published] at issued
    rcases kept.present id issued with isHeld | isGiven
    · exact Or.inl ((held.map Message.id).mem_iff.mpr isHeld)
    · exact Or.inr (mem_given_cons isGiven)
  delivered := delivered
  settled := by
    have before := kept.settled
    have sameLength := (held.map Message.id).length_eq
    rw [handlersEnded_cons, published]
    simp only [Service.heldIds] at before ⊢
    omega

/-- The deliveries are old ones. -/
theorem Kept.given_of_subset (kept : Kept history service)
    (fewer : next.broker.unacked ⊆ service.broker.unacked) :
    ∀ delivery ∈ next.broker.unacked,
      delivery.message.id ∈ given ((service, action) :: history) := by
  intro delivery member
  exact mem_given_cons (kept.delivered delivery (fewer member))

theorem Kept.untouched (kept : Kept history service)
    (same : next.broker = service.broker) :
    Kept ((service, action) :: history) next := by
  refine kept.same ?_ ?_ (kept.given_of_subset ?_)
  · rw [same]
  · rw [same]
  · rw [same]
    exact List.Subset.refl _

theorem Kept.published (kept : Kept history service) (queue : String)
    (broker : next.broker = service.broker.publish queue) :
    Kept ((service, action) :: history) next where
  distinct := by
    rw [broker]
    exact kept.distinct.publish queue
  present := by
    intro id issued
    have held := (Broker.held_publish service.broker queue).map Message.id
    rw [Service.heldIds, broker, held.mem_iff, List.map_cons, List.mem_cons]
    rw [broker] at issued
    rcases Nat.lt_succ_iff_lt_or_eq.mp issued with old | new
    · rcases kept.present id old with isHeld | isGiven
      · exact Or.inl (Or.inr isHeld)
      · exact Or.inr (mem_given_cons isGiven)
    · exact Or.inl (Or.inl new)
  delivered := by
    apply kept.given_of_subset
    rw [broker]
    exact List.Subset.refl _
  settled := by
    have before := kept.settled
    have held := (Broker.held_publish service.broker queue).length_eq
    have one : (service.broker.publish queue).published =
        service.broker.published + 1 := rfl
    simp only [Service.heldIds, List.length_map, List.length_cons] at *
    rw [handlersEnded_cons, broker]
    omega

/-- The message of a delivery is given to a handler. -/
theorem Kept.deliver (kept : Kept history service) {index : Nat}
    {registration : Registration} {delivery : Delivery} {broker : Broker}
    (found : service.registrations[index]? = some registration)
    (delivers :
      service.broker.deliver registration.channel registration.queue =
        some (delivery, broker))
    (same : next.broker = broker) :
    Kept ((service, .deliver index) :: history) next := by
  have isGiven : given? service (.deliver index) =
      some delivery.message.id := by
    simp only [given?, found, Option.bind_some, delivers, Option.map_some]
  apply kept.same
  · rw [same]
    exact Broker.held_deliver delivers
  · rw [same]
    exact Broker.published_deliver delivers
  · rw [same, (Broker.deliver_eq_some delivers).2.2.1]
    intro other member
    rcases List.mem_append.mp member with old | new
    · exact mem_given_cons (kept.delivered other old)
    · rw [List.mem_singleton.mp new, given, List.filterMap_cons, isGiven]
      exact List.mem_cons_self

private theorem settled_broker_cases (service : Service) (handled : Delivery) :
    service.settled handled = service.broker ∨
      service.settled handled =
        service.broker.settle service.channel handled.tag := by
  unfold Service.settled
  split
  · exact Or.inr rfl
  · exact Or.inl rfl

/-- A handler ends, and one message at most is settled. -/
theorem Kept.handled (kept : Kept history service)
    (identify : TagsIdentify service) {index : Nat} {handled : Delivery}
    (ends : action.endsHandler? = some index)
    (broker : next.broker = service.settled handled) :
    Kept ((service, action) :: history) next := by
  rcases settled_broker_cases service handled with same | settles
  · exact kept.untouched (broker.trans same)
  · rw [settles] at broker
    have fewer := Broker.held_settle service.broker service.channel
      handled.tag
    have unacked : next.broker.unacked ⊆ service.broker.unacked := by
      rw [broker]
      exact List.filter_subset_self _
    refine ⟨?_, ?_, kept.given_of_subset unacked, ?_⟩
    · rw [broker]
      exact kept.distinct.subperm fewer.subperm rfl
    · intro id issued
      rw [broker] at issued
      rcases kept.present id issued with isHeld | isGiven
      · obtain ⟨message, held, rfl⟩ := List.mem_map.mp isHeld
        rcases List.mem_append.mp held with waits | inFlight
        · left
          rw [Service.heldIds, broker]
          exact List.mem_map_of_mem (List.mem_append_left _ waits)
        · right
          obtain ⟨delivery, member, rfl⟩ := List.mem_map.mp inFlight
          exact mem_given_cons (kept.delivered delivery member)
      · exact Or.inr (mem_given_cons isGiven)
    · have before := kept.settled
      have tagged : service.broker.Tagged service.broker.unacked :=
        identify.subset (fun _ => List.mem_append_left _) rfl
      have one := Broker.length_held_settle kept.distinct tagged
        service.channel handled.tag
      have samePublished : next.broker.published =
          service.broker.published := by
        rw [broker]
        rfl
      rw [handlersEnded_cons, ends, samePublished]
      simp only [Service.heldIds, List.length_map, broker] at before ⊢
      simp only [Option.isSome_some, if_true]
      omega

theorem Kept.step {config : Config} (kept : Kept history service)
    (identify : TagsIdentify service)
    (stepped : Messaging.step config service action = some next) :
    Kept ((service, action) :: history) next := by
  cases step_cases stepped with
  | published queue => exact kept.published queue rfl
  | connectResolved index stage _ found resolved =>
      cases resolved <;> exact kept.untouched rfl
  | closed connection isOpen =>
      refine kept.same (Broker.held_closeChannel _ connection) rfl ?_
      apply kept.given_of_subset
      exact List.filter_subset_self _
  | delivered index registration delivery broker found delivers =>
      exact kept.deliver found delivers rfl
  | handled _ index handling ends found =>
      exact kept.handled identify ends rfl
  | _ => exact kept.untouched rfl

end Steps

private theorem tagsIdentify_of_run {config : Config}
    {history : List (Service × Action)} {service : Service}
    (run : Trace (step config) Service.started history service) :
    TagsIdentify service := by
  refine Trace.invariant _ ?_ ?_ run
  · exact Broker.tagged_nil _
  · intro before action after identify stepped
    exact identify.step stepped

private theorem kept_of_run {config : Config}
    {history : List (Service × Action)} {service : Service}
    (run : Trace (step config) Service.started history service) :
    Kept history service := by
  refine Trace.invariantHistory _ kept_started ?_ run
  intro earlier before action after runBefore kept stepped
  exact kept.step (tagsIdentify_of_run runBefore) stepped

/-- Nothing is held twice, nothing is lost that no handler has been given, and
the broker has settled one message for each handler that has ended, or
fewer. -/
theorem messages_kept {config : Config} {history : List (Service × Action)}
    {service : Service}
    (run : Trace (step config) Service.started history service) :
    service.heldIds.Nodup ∧
      (∀ id < service.broker.published,
        id ∈ service.heldIds ∨ id ∈ given history) ∧
      service.broker.published ≤
        service.heldIds.length + handlersEnded history := by
  have kept := kept_of_run run
  exact ⟨kept.distinct.nodup, kept.present, kept.settled⟩

/-- The connection is lost while a handler is at a message, which comes
again on the new one. -/
def givenAgain : List Action :=
  [.consume "order.timeout.q", .consumeResolves 0,
    .publish "order.timeout.q", .deliver 0, .close 0] ++
    reconnect ++
    [.publish "order.timeout.q", .deliver 0, .handlerReturns 1,
      .handlerThrows 0]

private theorem givenAgain_enabled :
    (replay (step Config.default) [] Service.started givenAgain).isSome =
      true := by
  decide

theorem messages_kept_givenAgain :
    let reached := (replay (step Config.default) [] Service.started
      givenAgain).get givenAgain_enabled
    given reached.1 = [0, 0] ∧ reached.2.heldIds = [1] ∧
      reached.2.heldIds.Nodup ∧
      reached.2.broker.published ≤
        reached.2.heldIds.length + handlersEnded reached.1 := by
  have kept := messages_kept
    (Trace.of_replay_get givenAgain givenAgain_enabled)
  exact ⟨by decide, by decide, kept.1, kept.2.2⟩

end ConcertTicketing.Messaging
