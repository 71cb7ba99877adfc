import ConcertTicketing.Library.Trace
import ConcertTicketing.Queue.Store

/-!
# First in, first out

A join that takes effect draws the next number and puts the user at the end of
the queue; an admit takes users from its head.  As long as the numbers are
exact scores, the users admitted so far and the users waiting are together the
users who have joined, in the order of their joins.
-/

namespace ConcertTicketing.Queue

open Redis

/-- The user whose join takes effect: one who was not waiting. -/
def effectiveJoin (eventId : EventId) (db : QueueStore) :
    QueueOp → List UserId
  | .join other userId =>
      if other = eventId ∧ userId ∉ waiting db eventId then [userId] else []
  | _ => []

def admittedBy (eventId : EventId) (db : QueueStore) : QueueOp → List UserId
  | .admitUsers input =>
      if input.eventId = eventId then
        match (admitUsers input db).1 with
        | .ok users => users
        | .error _ => []
      else []
  | _ => []

/-- The users of the effective joins, in the order of their joins. -/
def effectiveJoins (eventId : EventId) :
    List (QueueStore × QueueOp) → List UserId
  | [] => []
  | (db, op) :: earlier =>
      effectiveJoins eventId earlier ++ effectiveJoin eventId db op

/-- The lists that the admits have returned, one after the other. -/
def admittedSoFar (eventId : EventId) :
    List (QueueStore × QueueOp) → List UserId
  | [] => []
  | (db, op) :: earlier =>
      admittedSoFar eventId earlier ++ admittedBy eventId db op

/-- The script of a join or an admit for the event ends without an error. -/
def Succeeds (eventId : EventId) (db : QueueStore) : QueueOp → Prop
  | .join other userId =>
      other = eventId → (join other userId db).1.isOk = true
  | .admitUsers input =>
      input.eventId = eventId → (admitUsers input db).1.isOk = true
  | _ => True

instance (eventId : EventId) (db : QueueStore) :
    DecidablePred (Succeeds eventId db)
  | .join _ _ => inferInstanceAs (Decidable (_ → _))
  | .admitUsers _ => inferInstanceAs (Decidable (_ → _))
  | .getStatus _ _ => isTrue trivial
  | .tick _ => isTrue trivial

/-- The counter has counted the effective joins and never lapses, no score is
beyond it, and nobody is lost or overtaken. -/
structure FifoAt (eventId : EventId) (history : List (QueueStore × QueueOp))
    (db : QueueStore) : Prop where
  lasting : ∀ entry ∈ seqEntry db eventId, entry.expireAt = none
  counted : counter db eventId = (effectiveJoins eventId history).length
  below : ∀ entry ∈ (queue db eventId).entries,
    entry.1 ≤ counter db eventId
  inOrder : admittedSoFar eventId history ++ waiting db eventId =
    effectiveJoins eventId history

private theorem fifoAt_empty (eventId : EventId) (origin : Instant) :
    FifoAt eventId [] (QueueStore.empty origin) where
  lasting := by
    intro entry found
    cases found
  counted := rfl
  below := by
    intro entry member
    cases member
  inOrder := rfl

structure SameQueue (eventId : EventId) (db after : QueueStore) : Prop where
  seq : seqEntry after eventId = seqEntry db eventId
  queue : Queue.queue after eventId = Queue.queue db eventId

theorem SameQueue.refl (eventId : EventId) (db : QueueStore) :
    SameQueue eventId db db :=
  ⟨rfl, rfl⟩

section Steps

variable {eventId : EventId} {history : List (QueueStore × QueueOp)}
  {db after : QueueStore} {op : QueueOp}

/-- A step that leaves the event's queue alone. -/
theorem FifoAt.same (fifo : FifoAt eventId history db)
    (same : SameQueue eventId db after)
    (noJoin : effectiveJoin eventId db op = [])
    (noneAdmitted : admittedBy eventId db op = []) :
    FifoAt eventId ((db, op) :: history) after where
  lasting := by
    rw [same.seq]
    exact fifo.lasting
  counted := by
    rw [counter, same.seq, effectiveJoins, noJoin, List.append_nil]
    exact fifo.counted
  below := by
    rw [counter, same.seq, same.queue]
    exact fifo.below
  inOrder := by
    rw [admittedSoFar, noneAdmitted, List.append_nil, effectiveJoins, noJoin,
      List.append_nil, waiting, same.queue]
    exact fifo.inOrder

/-- A join that takes effect goes to the end of the queue. -/
theorem FifoAt.joined {userId : UserId}
    (fifo : FifoAt eventId history db)
    (few : (effectiveJoins eventId history).length + 1 < 2 ^ 53)
    (fresh : userId ∉ waiting db eventId)
    (joined : Joined eventId userId db after) :
    FifoAt eventId ((db, .join eventId userId) :: history) after := by
  have drawn : toDouble (counter db eventId + 1) = counter db eventId + 1 := by
    apply toDouble_of_lt
    rw [fifo.counted]
    exact few
  have counterAfter : counter after eventId = counter db eventId + 1 := by
    rw [counter, joined.seq, if_pos rfl]
    rfl
  have entriesAfter : (queue after eventId).entries =
      (queue db eventId).entries ++ [(counter db eventId + 1, userId)] := by
    rw [joined.queue, if_pos rfl, drawn]
    apply SortedSet.entries_add_of_last fresh
    intro entry member
    exact Nat.lt_succ_of_le (fifo.below entry member)
  have effective : effectiveJoin eventId db (.join eventId userId) =
      [userId] := by
    rw [effectiveJoin, if_pos ⟨rfl, fresh⟩]
  refine ⟨?_, ?_, ?_, ?_⟩
  · intro entry found
    rw [joined.seq, if_pos rfl, Option.mem_some_iff] at found
    subst found
    cases known : seqEntry db eventId with
    | none => rfl
    | some earlier => exact fifo.lasting earlier known
  · rw [counterAfter, effectiveJoins, effective, List.length_append,
      fifo.counted]
    rfl
  · intro entry member
    rw [entriesAfter] at member
    rw [counterAfter]
    rcases List.mem_append.mp member with old | new
    · exact Nat.le_succ_of_le (fifo.below entry old)
    · rw [List.mem_singleton.mp new]
  · have waitingAfter :
        waiting after eventId = waiting db eventId ++ [userId] := by
      simp only [waiting, SortedSet.members, entriesAfter, List.map_append,
        List.map_cons, List.map_nil]
    have noneAdmitted :
        admittedBy eventId db (.join eventId userId) = [] := rfl
    rw [admittedSoFar, effectiveJoins, effective, waitingAfter, noneAdmitted,
      List.append_nil, ← List.append_assoc, fifo.inOrder]

end Steps

structure TakenFrom (eventId : EventId) (start : QueueStore)
    (admitted : List UserId) (last : QueueStore) : Prop where
  seq : seqEntry last eventId = seqEntry start eventId
  kept : ∀ entry ∈ (queue last eventId).entries,
    entry ∈ (queue start eventId).entries
  inOrder : admitted ++ waiting last eventId = waiting start eventId

theorem Rounds.takenFrom {input : AdmitInput} {start last : QueueStore}
    {admitted : List UserId} (rounds : Rounds input start admitted last) :
    TakenFrom input.eventId start admitted last := by
  induction rounds with
  | none => exact ⟨rfl, fun _ member => member, rfl⟩
  | @next earlier before after userId _ issued inductionHypothesis =>
      obtain ⟨score, entries⟩ := issued.entries
      refine ⟨?_, ?_, ?_⟩
      · rw [issued.seq, inductionHypothesis.seq]
      · intro entry member
        apply inductionHypothesis.kept
        rw [entries]
        exact List.mem_cons_of_mem _ member
      · have head := issued.toPopped.waiting
        rw [List.append_assoc, List.singleton_append, ← head]
        exact inductionHypothesis.inOrder

/-- Rounds leave the queues of other events alone. -/
theorem Rounds.sameQueue {input : AdmitInput} {start last : QueueStore}
    {admitted : List UserId} (rounds : Rounds input start admitted last)
    {eventId : EventId} (different : eventId ≠ input.eventId) :
    SameQueue eventId start last := by
  induction rounds with
  | none => exact SameQueue.refl eventId start
  | next _ issued inductionHypothesis =>
      constructor
      · rw [issued.seq, inductionHypothesis.seq]
      · rw [issued.others eventId different, inductionHypothesis.queue]

theorem Swept.sameQueue {event eventId : EventId} {db swept : QueueStore}
    (sweeps : Swept event db swept) : SameQueue eventId db swept where
  seq := sweeps.find _
  queue := congrFun sweeps.zsets _

theorem admitUsers_sameQueue (input : AdmitInput) (db : QueueStore)
    {eventId : EventId} (different : eventId ≠ input.eventId) :
    SameQueue eventId db (admitUsers input db).2 := by
  obtain ⟨swept, sweeps, ends⟩ := admitUsers_ends input db
  have sweepSame : SameQueue eventId db swept := sweeps.sameQueue
  generalize admitUsers input db = result at ends
  cases ends with
  | ended admitted last rounds =>
      have roundsSame := rounds.sameQueue different
      exact ⟨roundsSame.seq.trans sweepSame.seq,
        roundsSame.queue.trans sweepSame.queue⟩
  | failed admitted last after userId rounds lost =>
      have roundsSame := rounds.sameQueue different
      constructor
      · exact (lost.seq eventId).trans (roundsSame.seq.trans sweepSame.seq)
      · exact (lost.others eventId different).trans
          (roundsSame.queue.trans sweepSame.queue)

/-- An admit without an error takes the users that it returns from the head of
the queue. -/
theorem admitUsers_takenFrom {input : AdmitInput} {db : QueueStore}
    (succeeds : (admitUsers input db).1.isOk = true) :
    ∃ admitted, (admitUsers input db).1 = .ok admitted ∧
      TakenFrom input.eventId db admitted (admitUsers input db).2 := by
  obtain ⟨swept, sweeps, ends⟩ := admitUsers_ends input db
  have sweepSame : SameQueue input.eventId db swept := sweeps.sameQueue
  generalize admitUsers input db = result at ends succeeds
  cases ends with
  | ended admitted last rounds =>
      have taken := rounds.takenFrom
      refine ⟨admitted, rfl, taken.seq.trans sweepSame.seq, ?_, ?_⟩
      · rw [← sweepSame.queue]
        exact taken.kept
      · rw [waiting, waiting, ← sweepSame.queue]
        exact taken.inOrder
  | failed => cases succeeds

theorem FifoAt.admitted {input : AdmitInput}
    {history : List (QueueStore × QueueOp)} {db : QueueStore}
    (fifo : FifoAt input.eventId history db)
    (succeeds : (admitUsers input db).1.isOk = true) :
    FifoAt input.eventId ((db, .admitUsers input) :: history)
      (admitUsers input db).2 := by
  obtain ⟨admitted, answer, taken⟩ := admitUsers_takenFrom succeeds
  have returned :
      admittedBy input.eventId db (.admitUsers input) = admitted := by
    simp only [admittedBy, if_true, answer]
  have noJoin : effectiveJoins input.eventId
      ((db, .admitUsers input) :: history) =
        effectiveJoins input.eventId history := by
    have none :
        effectiveJoin input.eventId db (.admitUsers input) = [] := rfl
    rw [effectiveJoins, none, List.append_nil]
  refine ⟨?_, ?_, ?_, ?_⟩
  · rw [taken.seq]
    exact fifo.lasting
  · rw [counter, taken.seq, noJoin]
    exact fifo.counted
  · intro entry member
    rw [counter, taken.seq]
    exact fifo.below entry (taken.kept entry member)
  · rw [noJoin, admittedSoFar, returned, List.append_assoc, taken.inOrder]
    exact fifo.inOrder

/-! ## Runs -/

private theorem joined_sameQueue {event eventId : EventId} {userId : UserId}
    {db after : QueueStore} (joined : Joined event userId db after)
    (different : eventId ≠ event) : SameQueue eventId db after where
  seq := by
    rw [joined.seq, if_neg different]
  queue := by
    rw [joined.queue, if_neg different]

/-- A join leaves the queues of other events alone. -/
theorem join_sameQueue {event eventId : EventId} (userId : UserId)
    (db : QueueStore) (different : event ≠ eventId) :
    SameQueue eventId db (join event userId db).2 := by
  rcases join_cases event userId db with
    ⟨_, same⟩ | ⟨_, ⟨_, _, joined⟩ | ⟨_, same⟩⟩
  · rw [same]
    exact SameQueue.refl eventId db
  · exact joined_sameQueue joined (Ne.symm different)
  · rw [same]
    exact SameQueue.refl eventId db

private theorem FifoAt.joinStep {eventId event : EventId} {userId : UserId}
    {history : List (QueueStore × QueueOp)} {db : QueueStore}
    (fifo : FifoAt eventId history db)
    (few : (effectiveJoins eventId
      ((db, .join event userId) :: history)).length < 2 ^ 53)
    (succeeds : Succeeds eventId db (.join event userId)) :
    FifoAt eventId ((db, .join event userId) :: history)
      (join event userId db).2 := by
  by_cases sameEvent : event = eventId
  · subst sameEvent
    rcases join_cases event userId db with
      ⟨there, same⟩ | ⟨fresh, ⟨answer, _, joined⟩ | ⟨failed, _⟩⟩
    · have noJoin : effectiveJoin event db (.join event userId) = [] := by
        rw [effectiveJoin, if_neg fun both => both.2 there]
      rw [same]
      exact fifo.same (SameQueue.refl event db) noJoin rfl
    · have effective :
          effectiveJoin event db (.join event userId) = [userId] := by
        rw [effectiveJoin, if_pos ⟨rfl, fresh⟩]
      rw [effectiveJoins, effective, List.length_append] at few
      exact fifo.joined few fresh joined
    · have ended := succeeds rfl
      rw [failed] at ended
      cases ended
  · have noJoin : effectiveJoin eventId db (.join event userId) = [] := by
      rw [effectiveJoin, if_neg fun both => sameEvent both.1]
    exact fifo.same (join_sameQueue userId db sameEvent) noJoin rfl

private theorem FifoAt.admitStep {eventId : EventId} {input : AdmitInput}
    {history : List (QueueStore × QueueOp)} {db : QueueStore}
    (fifo : FifoAt eventId history db)
    (succeeds : Succeeds eventId db (.admitUsers input)) :
    FifoAt eventId ((db, .admitUsers input) :: history)
      (admitUsers input db).2 := by
  by_cases sameEvent : input.eventId = eventId
  · subst sameEvent
    exact fifo.admitted (succeeds rfl)
  · have noneAdmitted :
        admittedBy eventId db (.admitUsers input) = [] := by
      rw [admittedBy, if_neg sameEvent]
    exact fifo.same (admitUsers_sameQueue input db (Ne.symm sameEvent)) rfl
      noneAdmitted

/-- A counter without a deadline does not change with time. -/
theorem sameQueue_tick {eventId : EventId} {db : QueueStore}
    (lasting : ∀ entry ∈ seqEntry db eventId, entry.expireAt = none)
    (elapsed : Nat) :
    SameQueue eventId db { db with toDb := db.tick elapsed } := by
  have seq : (db.tick elapsed).find (.seqKey eventId) =
      db.find (.seqKey eventId) := by
    rw [Db.find_tick]
    cases found : db.find (.seqKey eventId) with
    | none => rfl
    | some entry =>
        have noDeadline : entry.expireAt = none := lasting entry found
        have live : entry.Live (db.now + elapsed) := by
          intro deadline member
          rw [noDeadline] at member
          cases member
        simp [Option.filter, live]
  exact ⟨seq, rfl⟩

private theorem FifoAt.tickStep {eventId : EventId} {elapsed : Nat}
    {history : List (QueueStore × QueueOp)} {db : QueueStore}
    (fifo : FifoAt eventId history db) :
    FifoAt eventId ((db, .tick elapsed) :: history)
      { db with toDb := db.tick elapsed } :=
  fifo.same (sameQueue_tick fifo.lasting elapsed) rfl rfl

theorem FifoAt.apply {eventId : EventId} {op : QueueOp}
    {history : List (QueueStore × QueueOp)} {db : QueueStore}
    (fifo : FifoAt eventId history db)
    (few : (effectiveJoins eventId ((db, op) :: history)).length < 2 ^ 53)
    (succeeds : Succeeds eventId db op) :
    FifoAt eventId ((db, op) :: history) (op.apply db) := by
  cases op with
  | join event userId => exact fifo.joinStep few succeeds
  | admitUsers input => exact fifo.admitStep succeeds
  | getStatus event userId =>
      exact fifo.same (SameQueue.refl eventId db) rfl rfl
  | tick elapsed => exact fifo.tickStep

private theorem fifoAt_of_run {eventId : EventId} {origin : Instant}
    {history : List (QueueStore × QueueOp)} {db : QueueStore}
    (run : Trace queueStep (QueueStore.empty origin) history db)
    (succeeds : StepsMeet (Succeeds eventId) history) :
    (effectiveJoins eventId history).length < 2 ^ 53 →
      FifoAt eventId history db := by
  refine Trace.invariantWith (Succeeds eventId)
    (fun past current =>
      (effectiveJoins eventId past).length < 2 ^ 53 →
        FifoAt eventId past current)
    (fun _ => fifoAt_empty eventId origin) ?_ run succeeds
  intro past before op after _ inductionHypothesis here stepped few
  cases stepped
  have fewBefore : (effectiveJoins eventId past).length < 2 ^ 53 := by
    rw [effectiveJoins, List.length_append] at few
    omega
  exact (inductionHypothesis fewBefore).apply few here

/-- In every run without a script error and with fewer than 2^53 effective
joins, the users admitted so far, followed by the users waiting, are the users
of the effective joins in the order of their joins. -/
theorem admitted_append_waiting_eq_effectiveJoins {eventId : EventId}
    {origin : Instant} {history : List (QueueStore × QueueOp)}
    {db : QueueStore}
    (run : Trace queueStep (QueueStore.empty origin) history db)
    (succeeds : StepsMeet (Succeeds eventId) history)
    (few : (effectiveJoins eventId history).length < 2 ^ 53) :
    admittedSoFar eventId history ++ waiting db eventId =
      effectiveJoins eventId history :=
  (fifoAt_of_run run succeeds few).inOrder

/-- User 10 joins again after being admitted; the tokens lapse in between. -/
def joinAgain : List QueueOp :=
  [.join 1 10, .join 1 11, .join 1 10, .admitUsers ⟨1, 1, 30⟩, .join 1 10,
    .join 1 12, .tick 30000, .admitUsers ⟨1, 2, 30⟩]

private theorem joinAgain_enabled :
    (replay queueStep [] (QueueStore.empty 0) joinAgain).isSome = true := by
  decide

theorem fifo_joinAgain :
    admittedSoFar 1
        ((replay queueStep [] (QueueStore.empty 0) joinAgain).get
          joinAgain_enabled).1 ++
      waiting
        ((replay queueStep [] (QueueStore.empty 0) joinAgain).get
          joinAgain_enabled).2 1 =
      [10, 11, 10, 12] := by
  have effective :
      effectiveJoins 1
        ((replay queueStep [] (QueueStore.empty 0) joinAgain).get
          joinAgain_enabled).1 = [10, 11, 10, 12] := by
    decide +kernel
  have inOrder := admitted_append_waiting_eq_effectiveJoins
    (Trace.of_replay_get joinAgain joinAgain_enabled)
    (by decide +kernel : StepsMeet (Succeeds 1) _)
    (by rw [effective]; decide)
  exact inOrder.trans effective

end ConcertTicketing.Queue
