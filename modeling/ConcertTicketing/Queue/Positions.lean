import ConcertTicketing.Queue.Fifo
import ConcertTicketing.Queue.Status

/-!
# Positions

A score is the number of the join that put its user into the queue, and new
numbers exceed all old ones.  A rank therefore counts the waiting users who
joined earlier, and since nobody is ever put in front of an entry, it only
falls.
-/

namespace ConcertTicketing.Queue

open Redis

/-- The number of the user's last effective join, counted from 1. -/
def joinNumber (eventId : EventId) (userId : UserId) :
    List (QueueStore × QueueOp) → Nat
  | [] => 0
  | (db, op) :: earlier =>
      if userId ∈ effectiveJoin eventId db op then
        (effectiveJoins eventId earlier).length + 1
      else joinNumber eventId userId earlier

/-- One plus the number of waiting users whose effective join came earlier. -/
def place (eventId : EventId) (history : List (QueueStore × QueueOp))
    (db : QueueStore) (userId : UserId) : Nat :=
  (waiting db eventId).countP (fun other =>
    decide (joinNumber eventId other history <
      joinNumber eventId userId history)) + 1

/-- A join counts without an error as long as the counter has room. -/
theorem join_ok {eventId : EventId} (userId : UserId) {db : QueueStore}
    (room : counter db eventId + 1 < 2 ^ 63) :
    ∃ joined, (join eventId userId db).1 = .ok joined := by
  cases known : (db.zsets (.queueKey eventId)).score? userId with
  | some score =>
      simp only [join, joinLua, known, Except.map, Except.ok.injEq,
        exists_eq']
  | none =>
      have counted : (db.get (.seqKey eventId)).getD 0 + 1 < 2 ^ 63 := room
      simp only [join, joinLua, known, Db.incr, if_pos counted, Except.map,
        Except.ok.injEq, exists_eq']

/-- The answer of a join holds the rank that the user has afterwards. -/
theorem rank_of_join {eventId : EventId} {userId : UserId} {db : QueueStore}
    {joined : JoinResult} (answer : (join eventId userId db).1 = .ok joined) :
    joined.rank =
      ((queue (join eventId userId db).2 eventId).rank? userId).getD 0 := by
  cases known : (db.zsets (.queueKey eventId)).score? userId with
  | some score =>
      simp only [join, joinLua, known, Except.map, Except.ok.injEq] at answer ⊢
      rw [← answer]
      rfl
  | none =>
      cases incremented : db.incr (.seqKey eventId) with
      | none =>
          simp only [join, joinLua, known, incremented, Except.map] at answer
          cases answer
      | some counted =>
          simp only [join, joinLua, known, incremented, Except.map,
            Except.ok.injEq] at answer ⊢
          rw [← answer]
          rfl

/-- An admit takes entries from the head of the queue, also when an error
ends it. -/
structure Shortened (eventId : EventId) (db after : QueueStore) : Prop where
  seq : seqEntry after eventId = seqEntry db eventId
  entries : (queue after eventId).entries <:+ (queue db eventId).entries

private theorem Popped.suffix {eventId : EventId} {userId : UserId}
    {db after : QueueStore} (popped : Popped eventId userId db after) :
    (queue after eventId).entries <:+ (queue db eventId).entries := by
  obtain ⟨score, entries⟩ := popped.entries
  rw [entries]
  exact List.suffix_cons _ _

theorem Rounds.shortened {input : AdmitInput} {start last : QueueStore}
    {admitted : List UserId} (rounds : Rounds input start admitted last) :
    Shortened input.eventId start last := by
  induction rounds with
  | none => exact ⟨rfl, List.suffix_rfl⟩
  | next _ issued inductionHypothesis =>
      constructor
      · rw [issued.seq, inductionHypothesis.seq]
      · exact issued.toPopped.suffix.trans inductionHypothesis.entries

theorem admitUsers_shortened (input : AdmitInput) (db : QueueStore) :
    Shortened input.eventId db (admitUsers input db).2 := by
  obtain ⟨swept, sweeps, ends⟩ := admitUsers_ends input db
  have sweepSame : SameQueue input.eventId db swept := sweeps.sameQueue
  generalize admitUsers input db = result at ends
  cases ends with
  | ended admitted last rounds =>
      have shorter := rounds.shortened
      refine ⟨shorter.seq.trans sweepSame.seq, ?_⟩
      rw [← sweepSame.queue]
      exact shorter.entries
  | failed admitted last after userId rounds lost =>
      have shorter := rounds.shortened
      constructor
      · exact (lost.seq _).trans (shorter.seq.trans sweepSame.seq)
      · rw [← sweepSame.queue]
        exact lost.toPopped.suffix.trans shorter.entries

/-- Every score is the number of its user's last effective join, and the
scores increase along the queue. -/
structure Numbered (eventId : EventId) (history : List (QueueStore × QueueOp))
    (db : QueueStore) : Prop where
  lasting : ∀ entry ∈ seqEntry db eventId, entry.expireAt = none
  counted : counter db eventId = (effectiveJoins eventId history).length
  below : ∀ entry ∈ (queue db eventId).entries,
    entry.1 ≤ counter db eventId
  numbered : ∀ entry ∈ (queue db eventId).entries,
    entry.1 = joinNumber eventId entry.2 history
  increasing : (queue db eventId).entries.Pairwise fun first second =>
    first.1 < second.1

private theorem numbered_empty (eventId : EventId) (origin : Instant) :
    Numbered eventId [] (QueueStore.empty origin) where
  lasting := by
    intro entry found
    cases found
  counted := rfl
  below := by
    intro entry member
    cases member
  numbered := by
    intro entry member
    cases member
  increasing := List.Pairwise.nil

section Steps

variable {eventId : EventId} {history : List (QueueStore × QueueOp)}
  {db after : QueueStore} {op : QueueOp}

private theorem joinNumber_of_noJoin (noJoin : effectiveJoin eventId db op = [])
    (userId : UserId) :
    joinNumber eventId userId ((db, op) :: history) =
      joinNumber eventId userId history := by
  rw [joinNumber, noJoin, if_neg List.not_mem_nil]

theorem effectiveJoins_of_noJoin (noJoin : effectiveJoin eventId db op = []) :
    effectiveJoins eventId ((db, op) :: history) =
      effectiveJoins eventId history := by
  rw [effectiveJoins, noJoin, List.append_nil]

/-- A step that at most shortens the event's queue. -/
theorem Numbered.shortened (numbers : Numbered eventId history db)
    (shorter : Shortened eventId db after)
    (noJoin : effectiveJoin eventId db op = []) :
    Numbered eventId ((db, op) :: history) after where
  lasting := by
    rw [shorter.seq]
    exact numbers.lasting
  counted := by
    rw [counter, shorter.seq, effectiveJoins_of_noJoin noJoin]
    exact numbers.counted
  below := by
    intro entry member
    rw [counter, shorter.seq]
    exact numbers.below entry (shorter.entries.subset member)
  numbered := by
    intro entry member
    rw [joinNumber_of_noJoin noJoin]
    exact numbers.numbered entry (shorter.entries.subset member)
  increasing := numbers.increasing.sublist shorter.entries.sublist

theorem SameQueue.shortened (same : SameQueue eventId db after) :
    Shortened eventId db after where
  seq := same.seq
  entries := by
    rw [same.queue]

/-- An effective join puts its user behind all others. -/
theorem Numbered.entries_joined {userId : UserId}
    (numbers : Numbered eventId history db)
    (few : (effectiveJoins eventId history).length + 1 < 2 ^ 53)
    (fresh : userId ∉ waiting db eventId)
    (joined : Joined eventId userId db after) :
    (queue after eventId).entries =
      (queue db eventId).entries ++ [(counter db eventId + 1, userId)] := by
  have drawn : toDouble (counter db eventId + 1) = counter db eventId + 1 := by
    apply toDouble_of_lt
    rw [numbers.counted]
    exact few
  rw [joined.queue, if_pos rfl, drawn]
  apply SortedSet.entries_add_of_last fresh
  intro entry member
  exact Nat.lt_succ_of_le (numbers.below entry member)

theorem Numbered.joined {userId : UserId}
    (numbers : Numbered eventId history db)
    (few : (effectiveJoins eventId history).length + 1 < 2 ^ 53)
    (fresh : userId ∉ waiting db eventId)
    (joined : Joined eventId userId db after) :
    Numbered eventId ((db, .join eventId userId) :: history) after := by
  have counterAfter : counter after eventId = counter db eventId + 1 := by
    rw [counter, joined.seq, if_pos rfl]
    rfl
  have entriesAfter := numbers.entries_joined few fresh joined
  have effective : effectiveJoin eventId db (.join eventId userId) =
      [userId] := by
    rw [effectiveJoin, if_pos ⟨rfl, fresh⟩]
  refine ⟨?_, ?_, ?_, ?_, ?_⟩
  · intro entry found
    rw [joined.seq, if_pos rfl, Option.mem_some_iff] at found
    subst found
    cases known : seqEntry db eventId with
    | none => rfl
    | some earlier => exact numbers.lasting earlier known
  · rw [counterAfter, effectiveJoins, effective, List.length_append,
      numbers.counted]
    rfl
  · intro entry member
    rw [entriesAfter] at member
    rw [counterAfter]
    rcases List.mem_append.mp member with old | new
    · exact Nat.le_succ_of_le (numbers.below entry old)
    · rw [List.mem_singleton.mp new]
  · intro entry member
    rw [entriesAfter] at member
    rcases List.mem_append.mp member with old | new
    · have different : entry.2 ≠ userId := by
        intro same
        apply fresh
        rw [← same]
        exact List.mem_map_of_mem old
      rw [joinNumber, effective, if_neg (mt List.mem_singleton.mp different)]
      exact numbers.numbered entry old
    · rw [List.mem_singleton.mp new, joinNumber, effective,
        if_pos (List.mem_singleton.mpr rfl), numbers.counted]
  · rw [entriesAfter, List.pairwise_append]
    refine ⟨numbers.increasing, List.pairwise_singleton _ _, ?_⟩
    intro entry old new isNew
    rw [List.mem_singleton.mp isNew]
    exact Nat.lt_succ_of_le (numbers.below entry old)

end Steps

inductive QueueStep (eventId : EventId)
    (history : List (QueueStore × QueueOp)) (db : QueueStore) :
    QueueOp → QueueStore → Prop
  | shortened (op : QueueOp) (after : QueueStore)
      (noJoin : effectiveJoin eventId db op = [])
      (shorter : Shortened eventId db after) :
      QueueStep eventId history db op after
  | joined (userId : UserId) (after : QueueStore)
      (fresh : userId ∉ waiting db eventId)
      (few : (effectiveJoins eventId history).length + 1 < 2 ^ 53)
      (joined : Joined eventId userId db after) :
      QueueStep eventId history db (.join eventId userId) after

section Steps

variable {eventId : EventId} {history : List (QueueStore × QueueOp)}
  {db : QueueStore} {op : QueueOp}

private theorem Numbered.join_step {userId : UserId}
    (numbers : Numbered eventId history db)
    (few : (effectiveJoins eventId
      ((db, .join eventId userId) :: history)).length < 2 ^ 53) :
    QueueStep eventId history db (.join eventId userId)
      (join eventId userId db).2 := by
  rcases join_cases eventId userId db with
    ⟨there, same⟩ | ⟨fresh, outcome⟩
  · have noJoin : effectiveJoin eventId db (.join eventId userId) = [] := by
      rw [effectiveJoin, if_neg fun both => both.2 there]
    rw [same]
    exact .shortened _ _ noJoin (SameQueue.refl eventId db).shortened
  · have effective :
        effectiveJoin eventId db (.join eventId userId) = [userId] := by
      rw [effectiveJoin, if_pos ⟨rfl, fresh⟩]
    rw [effectiveJoins, effective, List.length_append] at few
    rcases outcome with ⟨answer, _, joined⟩ | ⟨failed, _⟩
    · exact .joined userId _ fresh few joined
    · have room : counter db eventId + 1 < 2 ^ 63 := by
        have short :
            (effectiveJoins eventId history).length + 1 < 2 ^ 53 := few
        rw [numbers.counted]
        omega
      obtain ⟨joined, answer⟩ := join_ok userId room
      rw [failed] at answer
      cases answer

theorem Numbered.step (numbers : Numbered eventId history db)
    (few : (effectiveJoins eventId ((db, op) :: history)).length < 2 ^ 53) :
    QueueStep eventId history db op (op.apply db) := by
  cases op with
  | join event userId =>
      by_cases sameEvent : event = eventId
      · subst sameEvent
        exact numbers.join_step few
      · have noJoin : effectiveJoin eventId db (.join event userId) = [] := by
          rw [effectiveJoin, if_neg fun both => sameEvent both.1]
        have same := join_sameQueue userId db sameEvent
        exact .shortened _ _ noJoin same.shortened
  | admitUsers input =>
      by_cases sameEvent : input.eventId = eventId
      · subst sameEvent
        exact .shortened _ _ rfl (admitUsers_shortened input db)
      · have same : SameQueue eventId db (admitUsers input db).2 :=
          admitUsers_sameQueue input db (Ne.symm sameEvent)
        exact .shortened _ _ rfl same.shortened
  | getStatus event userId =>
      exact .shortened _ _ rfl (SameQueue.refl eventId db).shortened
  | tick elapsed =>
      have same := sameQueue_tick numbers.lasting elapsed
      exact .shortened _ _ rfl same.shortened

theorem Numbered.apply (numbers : Numbered eventId history db)
    (few : (effectiveJoins eventId ((db, op) :: history)).length < 2 ^ 53) :
    Numbered eventId ((db, op) :: history) (op.apply db) := by
  have stepped := numbers.step few
  generalize op.apply db = after at stepped
  cases stepped with
  | shortened op after noJoin shorter =>
      exact numbers.shortened shorter noJoin
  | joined userId after fresh room joined =>
      exact numbers.joined room fresh joined

/-- An entry that was not in the queue before has a number of its own. -/
theorem Numbered.entry_apply (numbers : Numbered eventId history db)
    (few : (effectiveJoins eventId ((db, op) :: history)).length < 2 ^ 53)
    {entry : Nat × UserId}
    (member : entry ∈ (queue (op.apply db) eventId).entries) :
    entry ∈ (queue db eventId).entries ∨ counter db eventId < entry.1 := by
  have stepped := numbers.step few
  generalize op.apply db = after at stepped member
  cases stepped with
  | shortened op after noJoin shorter =>
      exact Or.inl (shorter.entries.subset member)
  | joined userId after fresh room joined =>
      rw [numbers.entries_joined room fresh joined] at member
      rcases List.mem_append.mp member with old | new
      · exact Or.inl old
      · right
        rw [List.mem_singleton.mp new]
        exact Nat.lt_succ_self _

end Steps

/-- Effective joins only become more. -/
theorem length_effectiveJoins_le (eventId : EventId) (db : QueueStore)
    (op : QueueOp) (history : List (QueueStore × QueueOp)) :
    (effectiveJoins eventId history).length ≤
      (effectiveJoins eventId ((db, op) :: history)).length := by
  rw [effectiveJoins, List.length_append]
  exact Nat.le_add_right _ _

theorem length_effectiveJoins_append (eventId : EventId)
    (newer older : List (QueueStore × QueueOp)) :
    (effectiveJoins eventId older).length ≤
      (effectiveJoins eventId (newer ++ older)).length := by
  induction newer with
  | nil => exact le_rfl
  | cons last newer inductionHypothesis =>
      have grown :=
        length_effectiveJoins_le eventId last.1 last.2 (newer ++ older)
      exact inductionHypothesis.trans grown

/-- A run goes on from a numbered state. -/
theorem Numbered.run {eventId : EventId} {middle db : QueueStore}
    {older newer : List (QueueStore × QueueOp)}
    (numbers : Numbered eventId older middle)
    (run : Trace queueStep middle newer db) :
    (effectiveJoins eventId (newer ++ older)).length < 2 ^ 53 →
      Numbered eventId (newer ++ older) db := by
  refine Trace.invariantHistory
    (fun past current =>
      (effectiveJoins eventId (past ++ older)).length < 2 ^ 53 →
        Numbered eventId (past ++ older) current)
    (fun _ => numbers) ?_ run
  intro past before op after _ inductionHypothesis stepped few
  cases stepped
  have fewBefore := lt_of_le_of_lt
    (length_effectiveJoins_le eventId before op (past ++ older)) few
  exact (inductionHypothesis fewBefore).apply few

theorem numbered_of_run {eventId : EventId} {origin : Instant}
    {history : List (QueueStore × QueueOp)} {db : QueueStore}
    (run : Trace queueStep (QueueStore.empty origin) history db)
    (few : (effectiveJoins eventId history).length < 2 ^ 53) :
    Numbered eventId history db := by
  have numbers := (numbered_empty eventId origin).run run
  rw [List.append_nil] at numbers
  exact numbers few

/-! ## Ranks -/

/-- The number of waiting users whose effective join came earlier. -/
theorem Numbered.countP_entries {eventId : EventId}
    {history : List (QueueStore × QueueOp)} {db : QueueStore}
    (numbers : Numbered eventId history db) {entry : Nat × UserId}
    (member : entry ∈ (queue db eventId).entries) :
    place eventId history db entry.2 =
      (queue db eventId).entries.countP
        (fun other => decide (other.1 < entry.1)) + 1 := by
  rw [place, waiting, SortedSet.members, List.countP_map]
  congr 1
  apply List.countP_congr
  intro other inQueue
  rw [Function.comp_apply, numbers.numbered other inQueue,
    numbers.numbered entry member]

theorem Numbered.rank? {eventId : EventId}
    {history : List (QueueStore × QueueOp)} {db : QueueStore}
    (numbers : Numbered eventId history db) {userId : UserId}
    (waits : userId ∈ waiting db eventId) :
    ∃ rank, (queue db eventId).rank? userId = some rank ∧
      place eventId history db userId = rank + 1 := by
  obtain ⟨entry, member, rfl⟩ := List.mem_map.mp waits
  exact ⟨_, SortedSet.rank?_eq_countP numbers.increasing member,
    numbers.countP_entries member⟩

/-- Along a run, entries that were not there come behind those that were. -/
theorem Numbered.entry_of_run {eventId : EventId} {middle db : QueueStore}
    {older newer : List (QueueStore × QueueOp)}
    (numbers : Numbered eventId older middle)
    (run : Trace queueStep middle newer db) :
    (effectiveJoins eventId (newer ++ older)).length < 2 ^ 53 →
      counter middle eventId ≤ counter db eventId ∧
      ∀ entry ∈ (queue db eventId).entries,
        entry ∈ (queue middle eventId).entries ∨
          counter middle eventId < entry.1 := by
  refine Trace.invariantHistory
    (fun past current =>
      (effectiveJoins eventId (past ++ older)).length < 2 ^ 53 →
        counter middle eventId ≤ counter current eventId ∧
        ∀ entry ∈ (queue current eventId).entries,
          entry ∈ (queue middle eventId).entries ∨
            counter middle eventId < entry.1)
    (fun _ => ⟨le_rfl, fun _ => Or.inl⟩) ?_ run
  intro past before op after runBefore inductionHypothesis stepped few
  cases stepped
  have grown := length_effectiveJoins_le eventId before op (past ++ older)
  have fewBefore := lt_of_le_of_lt grown few
  obtain ⟨counted, behind⟩ := inductionHypothesis fewBefore
  have numbersBefore := numbers.run runBefore fewBefore
  constructor
  · have countedAfter := (numbersBefore.apply few).counted
    have countedBefore := numbersBefore.counted
    omega
  · intro entry member
    rcases numbersBefore.entry_apply few member with old | new
    · exact behind entry old
    · exact Or.inr (lt_of_le_of_lt counted new)

/-- The place of an entry does not get worse, whatever others do. -/
theorem Numbered.place_le {eventId : EventId} {middle db : QueueStore}
    {older newer : List (QueueStore × QueueOp)}
    (numbers : Numbered eventId older middle)
    (run : Trace queueStep middle newer db)
    (few : (effectiveJoins eventId (newer ++ older)).length < 2 ^ 53)
    {entry : Nat × UserId}
    (before : entry ∈ (queue middle eventId).entries)
    (still : entry ∈ (queue db eventId).entries) :
    place eventId (newer ++ older) db entry.2 ≤
      place eventId older middle entry.2 := by
  have numbersLater := numbers.run run few
  obtain ⟨_, behind⟩ := numbers.entry_of_run run few
  rw [numbersLater.countP_entries still, numbers.countP_entries before]
  apply Nat.succ_le_succ
  rw [List.countP_eq_length_filter, List.countP_eq_length_filter]
  have distinct : ((queue db eventId).entries.filter
      fun other => decide (other.1 < entry.1)).Nodup :=
    ((queue db eventId).nodup.of_map _).filter _
  have ahead : ((queue db eventId).entries.filter
        fun other => decide (other.1 < entry.1)) ⊆
      (queue middle eventId).entries.filter
        fun other => decide (other.1 < entry.1) := by
    intro other member
    obtain ⟨inQueue, earlier⟩ := List.mem_filter.mp member
    refine List.mem_filter.mpr ⟨?_, earlier⟩
    rcases behind other inQueue with old | new
    · exact old
    · have bounded := numbers.below entry before
      have lower : other.1 < entry.1 := of_decide_eq_true earlier
      omega
  exact (List.subperm_of_subset distinct ahead).length_le

/-- How a `JoinQueue` that has read the room ends when its script runs in this
store. -/
def joinAnswer (rooms : WaitingRooms) (db : QueueStore)
    (room : WaitingRoomConfig) (eventId : EventId) (userId : UserId) :
    JoinProgress :=
  Call.goOn perform joinQueue ⟨userId, eventId⟩ (.join room) ⟨rooms, db⟩
    .resolves

private theorem joinAnswer_of_ok {rooms : WaitingRooms} {db : QueueStore}
    {room : WaitingRoomConfig} {eventId : EventId} {userId : UserId}
    {joined : JoinResult} (answer : (join eventId userId db).1 = .ok joined) :
    joinAnswer rooms db room eventId userId =
      .finished (.ok ⟨joined.rank + 1,
        estimatedWaitSec (joined.rank + 1 : Nat) room⟩) := by
  simp only [joinAnswer, Call.goOn, joinQueue, perform, answer]

/-- Whoever has joined without an error waits. -/
theorem waits_of_join {eventId : EventId} {userId : UserId}
    {db : QueueStore} {joined : JoinResult}
    (answer : (join eventId userId db).1 = .ok joined) :
    userId ∈ waiting (join eventId userId db).2 eventId := by
  rcases join_cases eventId userId db with
    ⟨there, same⟩ | ⟨_, ⟨_, _, added⟩ | ⟨failed, _⟩⟩
  · rw [same]
    exact there
  · rw [waiting, added.queue, if_pos rfl, SortedSet.mem_members_add]
    exact Or.inl rfl
  · rw [failed] at answer
    cases answer

/-- The positions reported in a state are exact, and joining again while
waiting changes nothing. -/
structure PositionsExact (eventId : EventId)
    (history : List (QueueStore × QueueOp)) (db : QueueStore) : Prop where
  joinQueue : ∀ rooms room userId,
    (effectiveJoins eventId
      ((db, .join eventId userId) :: history)).length < 2 ^ 53 →
    ∃ wait, joinAnswer rooms db room eventId userId =
      .finished (.ok ⟨place eventId ((db, .join eventId userId) :: history)
        (join eventId userId db).2 userId, wait⟩)
  checkTurn : ∀ rooms, ∀ userId ∈ waiting db eventId,
    ¬ HasToken db eventId userId →
    checkAnswer rooms db eventId userId =
      .finished (.waiting (place eventId history db userId))
  again : ∀ userId ∈ waiting db eventId,
    (join eventId userId db).2 = db ∧
    ∀ rooms room, ∃ wait, joinAnswer rooms db room eventId userId =
      .finished (.ok ⟨place eventId history db userId, wait⟩)

/-- The join of a state with room for its number. -/
theorem Numbered.joinAnswer_eq {eventId : EventId}
    {history : List (QueueStore × QueueOp)} {db : QueueStore}
    (numbers : Numbered eventId history db) (rooms : WaitingRooms)
    (room : WaitingRoomConfig) {userId : UserId}
    (few : (effectiveJoins eventId
      ((db, .join eventId userId) :: history)).length < 2 ^ 53) :
    joinAnswer rooms db room eventId userId =
      .finished (.ok
        ⟨place eventId ((db, .join eventId userId) :: history)
            (join eventId userId db).2 userId,
          estimatedWaitSec
            (place eventId ((db, .join eventId userId) :: history)
              (join eventId userId db).2 userId) room⟩) := by
  have room63 : counter db eventId + 1 < 2 ^ 63 := by
    have grown := length_effectiveJoins_le eventId db
      (.join eventId userId) history
    rw [numbers.counted]
    omega
  obtain ⟨joined, answer⟩ := join_ok userId room63
  have numbersAfter : Numbered eventId ((db, .join eventId userId) :: history)
      (join eventId userId db).2 := numbers.apply few
  obtain ⟨rank, ranked, isPlace⟩ := numbersAfter.rank? (waits_of_join answer)
  have rankIs := rank_of_join answer
  rw [ranked, Option.getD_some] at rankIs
  rw [joinAnswer_of_ok answer, rankIs, isPlace]

private theorem Numbered.positionsExact {eventId : EventId}
    {history : List (QueueStore × QueueOp)} {db : QueueStore}
    (numbers : Numbered eventId history db)
    (few : (effectiveJoins eventId history).length < 2 ^ 53) :
    PositionsExact eventId history db where
  joinQueue := by
    intro rooms room userId room53
    exact ⟨_, numbers.joinAnswer_eq rooms room room53⟩
  checkTurn := by
    intro rooms userId waits without
    obtain ⟨rank, ranked, isPlace⟩ := numbers.rank? waits
    have notPositive : ¬ 0 < db.ttl (.tokenKey eventId userId) := by
      rw [ttl_of_noToken without]
      decide
    rw [checkAnswer_eq, if_neg notPositive, ranked, isPlace]
    rfl
  again := by
    intro userId waits
    have same : (join eventId userId db).2 = db := by
      rcases join_cases eventId userId db with ⟨_, same⟩ | ⟨fresh, _⟩
      · exact same
      · exact absurd waits fresh
    have noJoin : effectiveJoin eventId db (.join eventId userId) = [] := by
      rw [effectiveJoin, if_neg fun both => both.2 waits]
    refine ⟨same, ?_⟩
    intro rooms room
    have fewAgain : (effectiveJoins eventId
        ((db, .join eventId userId) :: history)).length < 2 ^ 53 := by
      rw [effectiveJoins_of_noJoin noJoin]
      exact few
    have answer := numbers.joinAnswer_eq rooms room fewAgain
    have samePlace :
        place eventId ((db, .join eventId userId) :: history)
            (join eventId userId db).2 userId =
          place eventId history db userId := by
      simp only [place, same, joinNumber_of_noJoin noJoin]
    rw [samePlace] at answer
    exact ⟨_, answer⟩

/-- In every run with fewer than 2^53 effective joins for the event, the
reported positions count the waiting users who joined earlier, and the place
of an entry never gets worse. -/
theorem positions_of_run {eventId : EventId} {origin : Instant}
    {middle db : QueueStore} {older newer : List (QueueStore × QueueOp)}
    (first : Trace queueStep (QueueStore.empty origin) older middle)
    (second : Trace queueStep middle newer db)
    (few : (effectiveJoins eventId (newer ++ older)).length < 2 ^ 53) :
    PositionsExact eventId (newer ++ older) db ∧
    ∀ entry ∈ (queue middle eventId).entries,
      entry ∈ (queue db eventId).entries →
      place eventId (newer ++ older) db entry.2 ≤
        place eventId older middle entry.2 := by
  have fewBefore : (effectiveJoins eventId older).length < 2 ^ 53 :=
    lt_of_le_of_lt (length_effectiveJoins_append eventId newer older) few
  have numbers := numbered_of_run first fewBefore
  refine ⟨(numbers.run second few).positionsExact few, ?_⟩
  intro entry before still
  exact numbers.place_le second few before still

def threeJoin : List QueueOp := [.join 1 10, .join 1 11, .join 1 12]

private theorem threeJoin_enabled :
    (replay queueStep [] (QueueStore.empty 0) threeJoin).isSome = true := rfl

def headLeaves : List QueueOp := [.admitUsers ⟨1, 1, 30⟩, .join 1 10]

private theorem headLeaves_enabled :
    (replay queueStep []
      ((replay queueStep [] (QueueStore.empty 0) threeJoin).get
        threeJoin_enabled).2 headLeaves).isSome = true := rfl

theorem positions_headLeaves :
    PositionsExact 1
      (((replay queueStep []
          ((replay queueStep [] (QueueStore.empty 0) threeJoin).get
            threeJoin_enabled).2 headLeaves).get headLeaves_enabled).1 ++
        ((replay queueStep [] (QueueStore.empty 0) threeJoin).get
          threeJoin_enabled).1)
      ((replay queueStep []
        ((replay queueStep [] (QueueStore.empty 0) threeJoin).get
          threeJoin_enabled).2 headLeaves).get headLeaves_enabled).2 :=
  (positions_of_run (Trace.of_replay_get threeJoin threeJoin_enabled)
    (Trace.of_replay_get headLeaves headLeaves_enabled)
    (by decide +kernel)).1

end ConcertTicketing.Queue
