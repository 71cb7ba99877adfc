import Mathlib.Data.List.Nodup
import Mathlib.Data.List.Perm.Subperm
import Mathlib.Logic.Function.Basic

/-!
# A broker with manual acknowledgements

The part of an AMQP broker that consumers see.  Every channel numbers its
deliveries 1, 2, 3 and so on; an `ack`, or a `nack` without requeue, settles
whatever delivery has the tag on the channel that it is sent on; the
deliveries of a channel that closes go back to their queues.
-/

namespace ConcertTicketing.Amqp

structure Message where
  queue : String
  id : Nat
  deriving DecidableEq, Repr

structure Delivery where
  channel : Nat
  tag : Nat
  message : Message
  deriving DecidableEq, Repr

/-- The messages that wait in queues, the unsettled deliveries, and the last
tag of each channel. -/
structure Broker where
  ready : List Message
  unacked : List Delivery
  lastTag : Nat → Nat
  published : Nat

namespace Broker

def empty : Broker := ⟨[], [], fun _ => 0, 0⟩

def publish (broker : Broker) (queue : String) : Broker :=
  { broker with
    ready := broker.ready ++ [⟨queue, broker.published⟩]
    published := broker.published + 1 }

/-- The head of the queue is delivered on the channel. -/
def deliver (broker : Broker) (channel : Nat) (queue : String) :
    Option (Delivery × Broker) :=
  (broker.ready.find? fun message => decide (message.queue = queue)).map
    fun message =>
      let tag := broker.lastTag channel + 1
      let delivery := ⟨channel, tag, message⟩
      (delivery,
        { broker with
          ready := broker.ready.erase message
          unacked := broker.unacked ++ [delivery]
          lastTag := Function.update broker.lastTag channel tag })

/-- The tag is settled on the channel: its message is gone for good. -/
def settle (broker : Broker) (channel tag : Nat) : Broker :=
  { broker with
    unacked :=
      broker.unacked.filter fun delivery =>
        decide (¬ (delivery.channel = channel ∧ delivery.tag = tag)) }

/-- The channel closes and its deliveries go back to the queues. -/
def closeChannel (broker : Broker) (channel : Nat) : Broker :=
  { broker with
    ready :=
      (broker.unacked.filter fun delivery =>
        decide (delivery.channel = channel)).map Delivery.message ++
          broker.ready
    unacked :=
      broker.unacked.filter fun delivery =>
        decide (delivery.channel ≠ channel) }

/-- A tag identifies one of the given deliveries on its channel, and the
broker has not gone beyond it. -/
structure Tagged (broker : Broker) (deliveries : List Delivery) : Prop where
  issued : ∀ delivery ∈ deliveries,
    delivery.tag ≤ broker.lastTag delivery.channel
  unique : ∀ first ∈ deliveries, ∀ second ∈ deliveries,
    first.channel = second.channel → first.tag = second.tag → first = second

section Operations

variable {broker after : Broker} {deliveries : List Delivery}

theorem tagged_nil (broker : Broker) : broker.Tagged [] where
  issued := by
    intro delivery member
    cases member
  unique := by
    intro first member
    cases member

theorem Tagged.subset {fewer : List Delivery}
    (tagged : broker.Tagged deliveries)
    (contained : ∀ delivery ∈ fewer, delivery ∈ deliveries)
    (same : after.lastTag = broker.lastTag) : after.Tagged fewer where
  issued := by
    intro delivery member
    rw [same]
    exact tagged.issued delivery (contained delivery member)
  unique := by
    intro first memberFirst second memberSecond
    exact tagged.unique first (contained first memberFirst) second
      (contained second memberSecond)

/-- What a delivery does to the broker. -/
theorem deliver_eq_some {channel : Nat} {queue : String}
    {delivery : Delivery}
    (delivered : broker.deliver channel queue = some (delivery, after)) :
    delivery.channel = channel ∧
      delivery.tag = broker.lastTag channel + 1 ∧
      after.unacked = broker.unacked ++ [delivery] ∧
      after.lastTag =
        Function.update broker.lastTag channel delivery.tag := by
  simp only [deliver, Option.map_eq_some_iff, Prod.mk.injEq] at delivered
  obtain ⟨message, _, rfl, rfl⟩ := delivered
  exact ⟨rfl, rfl, rfl, rfl⟩

/-- A new delivery has a tag of its own. -/
theorem Tagged.deliver (tagged : broker.Tagged deliveries) {channel : Nat}
    {queue : String} {delivery : Delivery}
    (delivered : broker.deliver channel queue = some (delivery, after)) :
    after.Tagged (delivery :: deliveries) := by
  obtain ⟨sameChannel, newTag, _, tags⟩ := deliver_eq_some delivered
  have older : ∀ other ∈ deliveries, other.channel = delivery.channel →
      other.tag < delivery.tag := by
    intro other member same
    have bound := tagged.issued other member
    rw [same, sameChannel] at bound
    omega
  constructor
  · intro other member
    rw [tags]
    rcases List.mem_cons.mp member with rfl | old
    · apply Nat.le_of_eq
      rw [sameChannel, Function.update_self]
    · by_cases same : other.channel = channel
      · rw [same, Function.update_self]
        exact Nat.le_of_lt (older other old (same.trans sameChannel.symm))
      · rw [Function.update_of_ne same]
        exact tagged.issued other old
  · intro first memberFirst second memberSecond sameChannels sameTags
    rcases List.mem_cons.mp memberFirst with rfl | oldFirst
    · rcases List.mem_cons.mp memberSecond with rfl | oldSecond
      · rfl
      · have before := older second oldSecond sameChannels.symm
        omega
    · rcases List.mem_cons.mp memberSecond with rfl | oldSecond
      · have before := older first oldFirst sameChannels
        omega
      · exact tagged.unique first oldFirst second oldSecond sameChannels
          sameTags

theorem mem_settle {channel tag : Nat} {delivery : Delivery} :
    delivery ∈ (broker.settle channel tag).unacked ↔
      delivery ∈ broker.unacked ∧
        ¬ (delivery.channel = channel ∧ delivery.tag = tag) := by
  simp only [settle, List.mem_filter, decide_eq_true_iff]

theorem mem_closeChannel {channel : Nat} {delivery : Delivery} :
    delivery ∈ (broker.closeChannel channel).unacked ↔
      delivery ∈ broker.unacked ∧ delivery.channel ≠ channel := by
  simp only [closeChannel, List.mem_filter, decide_eq_true_iff]

/-- A delivery that a closing channel takes back is in its queue again. -/
theorem mem_ready_closeChannel {channel : Nat} {delivery : Delivery}
    (member : delivery ∈ broker.unacked)
    (onChannel : delivery.channel = channel) :
    delivery.message ∈ (broker.closeChannel channel).ready := by
  apply List.mem_append_left
  apply List.mem_map_of_mem
  exact List.mem_filter.mpr ⟨member, decide_eq_true onChannel⟩

end Operations

/-- The messages in the queues and in the unsettled deliveries. -/
def held (broker : Broker) : List Message :=
  broker.ready ++ broker.unacked.map Delivery.message

/-- No two of them have one number, and all have been published. -/
structure Distinct (broker : Broker) : Prop where
  nodup : (broker.held.map Message.id).Nodup
  issued : ∀ message ∈ broker.held, message.id < broker.published

section Held

variable {broker after : Broker}

theorem distinct_empty : empty.Distinct where
  nodup := List.nodup_nil
  issued := by simp [held, empty]

theorem held_publish (broker : Broker) (queue : String) :
    (broker.publish queue).held.Perm
      (⟨queue, broker.published⟩ :: broker.held) := by
  simp only [held, publish, List.append_assoc, List.singleton_append]
  exact List.perm_middle

/-- A delivery takes the message from the queue and keeps it. -/
theorem held_deliver {channel : Nat} {queue : String} {delivery : Delivery}
    (delivered : broker.deliver channel queue = some (delivery, after)) :
    after.held.Perm broker.held := by
  simp only [deliver, Option.map_eq_some_iff, Prod.mk.injEq] at delivered
  obtain ⟨message, found, rfl, rfl⟩ := delivered
  have waits : message ∈ broker.ready := List.mem_of_find?_eq_some found
  simp only [held, List.map_append, List.map_cons, List.map_nil]
  calc
    (broker.ready.erase message ++
        (broker.unacked.map Delivery.message ++ [message])).Perm
        (message :: (broker.ready.erase message ++
          broker.unacked.map Delivery.message)) := by
      rw [← List.append_assoc]
      exact List.perm_append_singleton message _
    _ |>.Perm (broker.ready ++ broker.unacked.map Delivery.message) :=
      (List.perm_cons_erase waits).symm.append_right _

theorem published_deliver {channel : Nat} {queue : String}
    {delivery : Delivery}
    (delivered : broker.deliver channel queue = some (delivery, after)) :
    after.published = broker.published := by
  simp only [deliver, Option.map_eq_some_iff, Prod.mk.injEq] at delivered
  obtain ⟨message, _, _, rfl⟩ := delivered
  rfl

theorem held_closeChannel (broker : Broker) (channel : Nat) :
    (broker.closeChannel channel).held.Perm broker.held := by
  let returned := broker.unacked.filter fun delivery =>
    decide (delivery.channel = channel)
  let kept := broker.unacked.filter fun delivery =>
    !decide (delivery.channel = channel)
  have same : (broker.closeChannel channel).held =
      returned.map Delivery.message ++ broker.ready ++
        kept.map Delivery.message := by
    simp only [held, closeChannel, ne_eq, decide_not, returned, kept]
  have parts : (returned ++ kept).Perm broker.unacked :=
    List.filter_append_perm _ _
  have messages := parts.map Delivery.message
  rw [List.map_append] at messages
  rw [same, held]
  calc
    (returned.map Delivery.message ++ broker.ready ++
        kept.map Delivery.message).Perm
        (broker.ready ++ returned.map Delivery.message ++
          kept.map Delivery.message) :=
      List.perm_append_comm.append_right _
    _ = broker.ready ++ (returned.map Delivery.message ++
          kept.map Delivery.message) := List.append_assoc ..
    _ |>.Perm (broker.ready ++ broker.unacked.map Delivery.message) :=
      messages.append_left _

theorem held_settle (broker : Broker) (channel tag : Nat) :
    (broker.settle channel tag).held.Sublist broker.held :=
  List.Sublist.append_left (List.filter_sublist.map Delivery.message) _

/-- As long as messages are told apart by their numbers, a settled tag is that
of one delivery at most. -/
theorem length_held_settle (distinct : broker.Distinct)
    (tagged : broker.Tagged broker.unacked) (channel tag : Nat) :
    broker.held.length ≤ (broker.settle channel tag).held.length + 1 := by
  let isSettled : Delivery → Bool := fun delivery =>
    decide (delivery.channel = channel ∧ delivery.tag = tag)
  have nodup : broker.unacked.Nodup := by
    have messages : broker.held.Nodup := List.Nodup.of_map _ distinct.nodup
    exact List.Nodup.of_map _ (List.Nodup.of_append_right messages)
  have one : (broker.unacked.filter isSettled).length ≤ 1 := by
    have nodupSettled := nodup.filter isSettled
    cases settled : broker.unacked.filter isSettled with
    | nil => simp
    | cons first rest =>
        cases rest with
        | nil => simp
        | cons second others =>
            have same : first = second := by
              have isFirst : first ∈ broker.unacked.filter isSettled := by
                simp [settled]
              have isSecond : second ∈ broker.unacked.filter isSettled := by
                simp [settled]
              simp only [List.mem_filter, isSettled,
                decide_eq_true_iff] at isFirst isSecond
              obtain ⟨inFirst, firstChannel, firstTag⟩ := isFirst
              obtain ⟨inSecond, secondChannel, secondTag⟩ := isSecond
              exact tagged.unique first inFirst second inSecond
                (firstChannel.trans secondChannel.symm)
                (firstTag.trans secondTag.symm)
            rw [settled, same] at nodupSettled
            simp at nodupSettled
  have parts := (List.filter_append_perm isSettled broker.unacked).length_eq
  have kept : (broker.settle channel tag).unacked =
      broker.unacked.filter fun delivery => !isSettled delivery := by
    simp only [settle, decide_not, isSettled]
  have sameReady : (broker.settle channel tag).ready = broker.ready := rfl
  simp only [List.length_append] at parts
  simp only [held, List.length_append, List.length_map, kept, sameReady]
  omega

theorem Distinct.publish (distinct : broker.Distinct) (queue : String) :
    (broker.publish queue).Distinct := by
  have same := held_publish broker queue
  constructor
  · apply (same.map Message.id).nodup_iff.mpr
    apply List.nodup_cons.mpr
    refine ⟨?_, distinct.nodup⟩
    intro taken
    obtain ⟨message, isHeld, equal⟩ := List.mem_map.mp taken
    have before := distinct.issued message isHeld
    exact absurd equal (Nat.ne_of_lt before)
  · intro message member
    rcases List.mem_cons.mp (same.mem_iff.mp member) with rfl | old
    · exact Nat.lt_succ_self _
    · exact Nat.lt_succ_of_lt (distinct.issued message old)

/-- Fewer messages, in any order. -/
theorem Distinct.subperm (distinct : broker.Distinct)
    (fewer : after.held.Subperm broker.held)
    (same : after.published = broker.published) : after.Distinct where
  nodup := by
    obtain ⟨middle, permuted, sublist⟩ := fewer
    have nodup := (sublist.map Message.id).nodup distinct.nodup
    exact (permuted.map Message.id).nodup_iff.mp nodup
  issued := by
    intro message member
    rw [same]
    exact distinct.issued message (List.Subperm.subset fewer member)

end Held

end Broker

end ConcertTicketing.Amqp
