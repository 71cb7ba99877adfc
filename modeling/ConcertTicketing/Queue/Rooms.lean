import ConcertTicketing.Library.Machine
import ConcertTicketing.Library.WaitingLine
import ConcertTicketing.Queue.Positions

/-!
# The queue store as waiting lines

What `QueueStorePort` is for: one waiting line for each event, nothing else.
The scripts over their four kinds of Redis keys answer every sequence of calls
as the waiting lines do, so no event ever sees another one.
-/

namespace ConcertTicketing.Queue

open Redis

inductive QueueReply where
  | joined (result : Except ScriptError JoinResult)
  | admitted (result : Except ScriptError (List UserId))
  | status (result : QueueStatus)
  | elapsed

def storeMachine : Machine QueueStore QueueOp QueueReply where
  reply db
    | .join eventId userId => .joined (join eventId userId db).1
    | .admitUsers input => .admitted (admitUsers input db).1
    | .getStatus eventId userId => .status (getStatus eventId userId db)
    | .tick _ => .elapsed
  next db op := op.apply db

/-- The waiting lines of the events, under one clock. -/
structure Rooms where
  now : Instant
  room : EventId → WaitingLine UserId

namespace Rooms

def empty (origin : Instant) : Rooms := ⟨origin, fun _ => .empty⟩

def set (rooms : Rooms) (eventId : EventId) (room : WaitingLine UserId) :
    Rooms :=
  { rooms with room := Function.update rooms.room eventId room }

/-- The seconds that a person inside has left, to the nearest one. -/
def secondsLeft (rooms : Rooms) (eventId : EventId) (userId : UserId) : Int :=
  ((rooms.room eventId).staysUntil userId - rooms.now + 500) / 1000

def status (rooms : Rooms) (eventId : EventId) (userId : UserId) :
    QueueStatus :=
  if userId ∈ (rooms.room eventId).inside ∧
      0 < rooms.secondsLeft eventId userId then
    ⟨true, rooms.secondsLeft eventId userId, -1⟩
  else
    match (rooms.room eventId).place? userId with
    | none => ⟨false, -1, -1⟩
    | some rank => ⟨false, -1, rank⟩

def joined (rooms : Rooms) (eventId : EventId) (userId : UserId) :
    JoinResult :=
  let room := (rooms.room eventId).join userId
  ⟨(room.place? userId).getD 0, room.line.length⟩

end Rooms

def roomMachine : Machine Rooms QueueOp QueueReply where
  reply rooms
    | .join eventId userId => .joined (.ok (rooms.joined eventId userId))
    | .admitUsers input =>
        .admitted (.ok ((rooms.room input.eventId).admitted input.cap))
    | .getStatus eventId userId => .status (rooms.status eventId userId)
    | .tick _ => .elapsed
  next rooms
    | .join eventId userId =>
        rooms.set eventId ((rooms.room eventId).join userId)
    | .admitUsers input =>
        rooms.set input.eventId
          ((rooms.room input.eventId).letIn input.cap
            (rooms.now + input.ttlSeconds * 1000))
    | .getStatus _ _ => rooms
    | .tick elapsed =>
        ⟨rooms.now + elapsed,
          fun eventId => (rooms.room eventId).leave (rooms.now + elapsed)⟩

namespace QueueOp

def joins (eventId : EventId) : QueueOp → Bool
  | .join other _ => decide (other = eventId)
  | _ => false

def LastsAWhile : QueueOp → Prop
  | .admitUsers input => 0 < input.ttlSeconds
  | _ => True

instance : DecidablePred LastsAWhile
  | .admitUsers input => inferInstanceAs (Decidable (0 < input.ttlSeconds))
  | .join _ _ => isTrue trivial
  | .getStatus _ _ => isTrue trivial
  | .tick _ => isTrue trivial

end QueueOp

/-- Passes are for a time, and no event has more joins than a double
counts. -/
def WithinRange (ops : List QueueOp) : Prop :=
  (∀ op ∈ ops, op.LastsAWhile) ∧
    ∀ eventId, ops.countP (QueueOp.joins eventId) < 2 ^ 53

structure Represents (past : List QueueOp) (db : QueueStore) (rooms : Rooms) :
    Prop where
  now : db.now = rooms.now
  line : ∀ eventId, waiting db eventId = (rooms.room eventId).line
  token : ∀ eventId userId, tokenEntry db eventId userId =
    if userId ∈ (rooms.room eventId).inside then
      some ⟨1, some ((rooms.room eventId).staysUntil userId)⟩
    else none
  recorded : TokensRecorded db
  lasting : ∀ eventId, ∀ entry ∈ seqEntry db eventId, entry.expireAt = none
  counted : ∀ eventId,
    counter db eventId ≤ past.countP (QueueOp.joins eventId)
  below : ∀ eventId, ∀ entry ∈ (queue db eventId).entries,
    entry.1 ≤ counter db eventId

theorem WithinRange.earlier {past later : List QueueOp}
    (within : WithinRange (past ++ later)) : WithinRange past := by
  refine ⟨fun op member => within.1 op (List.mem_append_left _ member), ?_⟩
  intro eventId
  have few := within.2 eventId
  rw [List.countP_append] at few
  omega

private theorem WithinRange.of_length {ops : List QueueOp}
    (last : ∀ op ∈ ops, op.LastsAWhile) (short : ops.length < 2 ^ 53) :
    WithinRange ops :=
  ⟨last, fun _ => lt_of_le_of_lt List.countP_le_length short⟩

/-- A join has a number that a double holds. -/
theorem WithinRange.join {past : List QueueOp} {eventId : EventId}
    {userId : UserId}
    (within : WithinRange (past ++ [.join eventId userId])) :
    past.countP (QueueOp.joins eventId) + 1 < 2 ^ 53 := by
  have few := within.2 eventId
  rw [List.countP_append] at few
  simpa [QueueOp.joins] using few

private theorem total_of_join {eventId : EventId} {userId : UserId}
    {db : QueueStore} {joined : JoinResult}
    (answer : (join eventId userId db).1 = .ok joined) :
    joined.total = (queue (join eventId userId db).2 eventId).card := by
  cases known : (db.zsets (.queueKey eventId)).score? userId with
  | some score =>
      simp only [join, joinLua, known, Except.map, Except.ok.injEq] at answer ⊢
      rw [← answer]
      rfl
  | none =>
      cases incremented : db.incr (.seqKey eventId) with
      | none =>
          simp only [join, joinLua, known, incremented, Except.map,
            reduceCtorEq] at answer
      | some counted =>
          simp only [join, joinLua, known, incremented, Except.map,
            Except.ok.injEq] at answer ⊢
          rw [← answer]
          rfl

section Represented

variable {past : List QueueOp} {db : QueueStore} {rooms : Rooms}

theorem Represents.rank? (represents : Represents past db rooms)
    (eventId : EventId) (userId : UserId) :
    (queue db eventId).rank? userId = (rooms.room eventId).place? userId := by
  rw [WaitingLine.place?, ← represents.line]
  rfl

theorem Represents.card (represents : Represents past db rooms)
    (eventId : EventId) :
    (queue db eventId).card = (rooms.room eventId).line.length := by
  rw [← represents.line, waiting, SortedSet.members, List.length_map]
  rfl

private theorem Represents.line_joined (represents : Represents past db rooms)
    {eventId : EventId} {userId : UserId}
    (within : WithinRange (past ++ [.join eventId userId]))
    (fresh : userId ∉ waiting db eventId) {after : QueueStore}
    (joined : Joined eventId userId db after) :
    (queue after eventId).entries =
      (queue db eventId).entries ++ [(counter db eventId + 1, userId)] := by
  have few := within.join
  have counted := represents.counted eventId
  have drawn : toDouble (counter db eventId + 1) = counter db eventId + 1 :=
    toDouble_of_lt (by omega)
  rw [joined.queue, if_pos rfl, drawn]
  apply SortedSet.entries_add_of_last fresh
  intro entry member
  exact Nat.lt_succ_of_le (represents.below eventId entry member)

/-- A user who waits already stays where they are. -/
theorem Represents.join_waiting (represents : Represents past db rooms)
    {eventId : EventId} {userId : UserId}
    (there : userId ∈ waiting db eventId) :
    Represents (past ++ [.join eventId userId]) db
      (rooms.set eventId ((rooms.room eventId).join userId)) := by
  have same : (rooms.room eventId).join userId = rooms.room eventId := by
    rw [represents.line] at there
    rw [WaitingLine.join, dif_pos there]
  have sameRooms :
      rooms.set eventId ((rooms.room eventId).join userId) = rooms := by
    rw [same, Rooms.set, Function.update_eq_self]
  rw [sameRooms]
  refine ⟨represents.now, represents.line, represents.token,
    represents.recorded, represents.lasting, ?_, represents.below⟩
  intro other
  rw [List.countP_append]
  exact (represents.counted other).trans (Nat.le_add_right _ _)

private theorem Represents.join_fresh (represents : Represents past db rooms)
    {eventId : EventId} {userId : UserId}
    (within : WithinRange (past ++ [.join eventId userId]))
    (fresh : userId ∉ waiting db eventId) {after : QueueStore}
    (joined : Joined eventId userId db after) :
    Represents (past ++ [.join eventId userId]) after
      (rooms.set eventId ((rooms.room eventId).join userId)) := by
  have entries := represents.line_joined within fresh joined
  have room : ∀ other, other ≠ eventId →
      (rooms.set eventId ((rooms.room eventId).join userId)).room other =
        rooms.room other :=
    fun other different => Function.update_of_ne different _ _
  have here : (rooms.set eventId ((rooms.room eventId).join userId)).room
      eventId = (rooms.room eventId).join userId :=
    Function.update_self ..
  have counterHere : counter after eventId = counter db eventId + 1 := by
    rw [counter, joined.seq, if_pos rfl]
    rfl
  have counterThere : ∀ other, other ≠ eventId →
      counter after other = counter db other := by
    intro other different
    rw [counter, joined.seq, if_neg different]
    rfl
  refine ⟨joined.now.trans represents.now, ?_, ?_, ?_, ?_, ?_, ?_⟩
  · intro other
    by_cases same : other = eventId
    · subst same
      rw [here, WaitingLine.line_join, ← represents.line, if_neg fresh,
        waiting, SortedSet.members, entries, List.map_append,
        List.map_singleton]
      rfl
    · rw [room other same, ← represents.line, waiting, joined.queue,
        if_neg same]
      rfl
  · intro other user
    rw [joined.token, represents.token]
    by_cases same : other = eventId
    · subst same
      rw [here, WaitingLine.inside_join, WaitingLine.staysUntil_join]
    · rw [room other same]
  · refine represents.recorded.congr ?_ joined.active
    intro other user live
    rw [HasToken, joined.token] at live
    exact live
  · intro other entry found
    rw [joined.seq] at found
    split at found
    · cases found
      cases before : seqEntry db eventId with
      | none => rfl
      | some old => exact represents.lasting eventId old before
    · exact represents.lasting other entry found
  · intro other
    have counted := represents.counted other
    rw [List.countP_append]
    by_cases same : other = eventId
    · subst same
      rw [counterHere]
      simpa [QueueOp.joins] using counted
    · rw [counterThere other same]
      exact counted.trans (Nat.le_add_right _ _)
  · intro other entry member
    by_cases same : other = eventId
    · subst same
      rw [counterHere]
      rw [entries] at member
      rcases List.mem_append.mp member with old | new
      · exact (represents.below other entry old).trans (Nat.le_succ _)
      · rw [List.mem_singleton.mp new]
    · rw [counterThere other same]
      rw [joined.queue, if_neg same] at member
      exact represents.below other entry member

theorem Represents.join_ok (represents : Represents past db rooms)
    {eventId : EventId} {userId : UserId}
    (within : WithinRange (past ++ [.join eventId userId])) :
    ∃ joined, (join eventId userId db).1 = .ok joined := by
  have few := within.join
  have counted := represents.counted eventId
  exact Queue.join_ok userId (by omega)

theorem Represents.join (represents : Represents past db rooms)
    {eventId : EventId} {userId : UserId}
    (within : WithinRange (past ++ [.join eventId userId])) :
    Represents (past ++ [.join eventId userId])
      (Queue.join eventId userId db).2
      (rooms.set eventId ((rooms.room eventId).join userId)) := by
  obtain ⟨result, answer⟩ := represents.join_ok within
  rcases join_cases eventId userId db with
    ⟨there, same⟩ | ⟨fresh, ⟨_, _, joined⟩ | ⟨failed, _⟩⟩
  · rw [same]
    exact represents.join_waiting there
  · exact represents.join_fresh within fresh joined
  · rw [failed] at answer
    cases answer

private theorem Represents.join_reply (represents : Represents past db rooms)
    {eventId : EventId} {userId : UserId}
    (within : WithinRange (past ++ [.join eventId userId])) :
    (Queue.join eventId userId db).1 = .ok (rooms.joined eventId userId) := by
  obtain ⟨⟨rank, total⟩, answer⟩ := represents.join_ok within
  have after := represents.join within
  have here : (rooms.set eventId ((rooms.room eventId).join userId)).room
      eventId = (rooms.room eventId).join userId :=
    Function.update_self ..
  have sameRank := rank_of_join answer
  have sameTotal := total_of_join answer
  rw [after.rank?, here] at sameRank
  rw [after.card, here] at sameTotal
  rw [answer]
  simp only at sameRank sameTotal
  rw [sameRank, sameTotal]
  rfl

theorem Represents.ttl (represents : Represents past db rooms)
    (eventId : EventId) (userId : UserId) :
    db.ttl (.tokenKey eventId userId) =
      if userId ∈ (rooms.room eventId).inside then
        rooms.secondsLeft eventId userId
      else -2 := by
  have token : db.find (.tokenKey eventId userId) = _ :=
    represents.token eventId userId
  rw [Db.ttl, token]
  by_cases member : userId ∈ (rooms.room eventId).inside
  · simp only [if_pos member, Rooms.secondsLeft, represents.now]
  · simp only [if_neg member]

private theorem Represents.status_reply (represents : Represents past db rooms)
    (eventId : EventId) (userId : UserId) :
    getStatus eventId userId db = rooms.status eventId userId := by
  have ttl := represents.ttl eventId userId
  have place : (db.zsets (.queueKey eventId)).rank? userId =
      (rooms.room eventId).place? userId := represents.rank? eventId userId
  by_cases member : userId ∈ (rooms.room eventId).inside
  · rw [if_pos member] at ttl
    by_cases positive : 0 < rooms.secondsLeft eventId userId
    · have both := And.intro member positive
      simp only [getStatus, statusLua, Rooms.status, ttl, if_pos positive,
        if_pos both, if_true]
    · simp only [getStatus, statusLua, Rooms.status, ttl, place,
        if_neg positive, if_neg fun both => positive (And.right both)]
      cases (rooms.room eventId).place? userId <;> rfl
  · rw [if_neg member] at ttl
    have noTime : ¬ (0 : Int) < -2 := by decide
    simp only [getStatus, statusLua, Rooms.status, ttl, place, if_neg noTime,
      if_neg fun both => member (And.left both)]
    cases (rooms.room eventId).place? userId <;> rfl

/-- After the sweep the active set holds those who are inside. -/
theorem Represents.active_swept (represents : Represents past db rooms)
    {eventId : EventId} {swept : QueueStore}
    (sweeps : Swept eventId db swept) :
    activeUsers swept eventId = (rooms.room eventId).inside := by
  have token : ∀ user, HasToken db eventId user ↔
      user ∈ (rooms.room eventId).inside := by
    intro user
    rw [HasToken, represents.token]
    split
    · next member => exact iff_of_true rfl member
    · next absent => exact iff_of_false Bool.false_ne_true absent
  ext user
  rw [sweeps.active, if_pos rfl, Finset.mem_filter, token]
  constructor
  · exact fun both => both.2
  · intro member
    exact ⟨represents.recorded eventId user ((token user).mpr member), member⟩

/-- The rounds of the loop let in one person after the other. -/
theorem Rounds.admits {input : AdmitInput} {start last : QueueStore}
    {admitted more left : List UserId}
    (rounds : Rounds input start admitted last)
    (later : WaitingLine.Admits input.cap
      (activeUsers last input.eventId) (waiting last input.eventId) more
      left) :
    WaitingLine.Admits input.cap (activeUsers start input.eventId)
      (waiting start input.eventId) (admitted ++ more) left := by
  induction rounds generalizing more with
  | none => exact later
  | @next admitted before after userId _ issued inductionHypothesis =>
      rw [List.append_assoc, List.singleton_append]
      apply inductionHypothesis
      rw [issued.toPopped.waiting]
      refine .entered issued.room ?_
      rw [issued.active, if_pos rfl] at later
      exact later

/-- Those who were let in have the same time to stay. -/
theorem Rounds.token {input : AdmitInput} {start last : QueueStore}
    {admitted : List UserId} (rounds : Rounds input start admitted last) :
    last.now = start.now ∧ ∀ other user, tokenEntry last other user =
      if other = input.eventId ∧ user ∈ admitted then
        some ⟨1, some (start.deadlineIn input.ttlSeconds)⟩
      else tokenEntry start other user := by
  induction rounds with
  | none =>
      refine ⟨rfl, fun other user => ?_⟩
      rw [if_neg fun both => List.not_mem_nil both.2]
  | @next admitted before after userId _ issued inductionHypothesis =>
      obtain ⟨sameNow, tokens⟩ := inductionHypothesis
      refine ⟨issued.now.trans sameNow, ?_⟩
      intro other user
      have deadline : before.deadlineIn input.ttlSeconds =
          start.deadlineIn input.ttlSeconds := by
        rw [Db.deadlineIn, sameNow]
        rfl
      rw [issued.token, tokens, deadline]
      by_cases sameEvent : other = input.eventId
      · by_cases sameUser : user = userId
        · simp [sameEvent, sameUser]
        · simp [sameEvent, sameUser]
      · simp [sameEvent]

/-- How an admit ends when passes are for a time. -/
theorem Represents.admit_ends (represents : Represents past db rooms)
    {input : AdmitInput} (positive : 0 < input.ttlSeconds) :
    ∃ after, admitUsers input db =
        (.ok ((rooms.room input.eventId).admitted input.cap), after) ∧
      after.now = db.now ∧
      waiting after input.eventId =
        ((rooms.room input.eventId).letIn input.cap
          (db.deadlineIn input.ttlSeconds)).line ∧
      ∀ other user, tokenEntry after other user =
        if other = input.eventId ∧
            user ∈ (rooms.room input.eventId).admitted input.cap then
          some ⟨1, some (db.deadlineIn input.ttlSeconds)⟩
        else tokenEntry db other user := by
  obtain ⟨swept, sweeps, ends⟩ := admitUsers_ends input db
  have active := represents.active_swept sweeps
  have sameLine : waiting swept input.eventId =
      (rooms.room input.eventId).line := by
    rw [← represents.line, waiting, queue, sweeps.zsets]
    rfl
  generalize admitUsers input db = result at ends
  cases ends with
  | failed admitted last after userId rounds lost =>
      exact absurd positive lost.nonpositive
  | ended admitted last rounds noRound =>
      have taken := rounds.admits
        (.closed (admitRound_eq_none_iff.mp noRound))
      rw [List.append_nil, active, sameLine] at taken
      have computed := taken.eq
      have isAdmitted :
          (rooms.room input.eventId).admitted input.cap = admitted :=
        congrArg Prod.fst computed
      obtain ⟨sameNow, tokens⟩ := rounds.token
      refine ⟨last, by rw [isAdmitted], sameNow.trans sweeps.now, ?_, ?_⟩
      · exact (congrArg Prod.snd computed).symm
      · intro other user
        have deadline : swept.deadlineIn input.ttlSeconds =
            db.deadlineIn input.ttlSeconds := by
          rw [Db.deadlineIn, sweeps.now]
          rfl
        rw [tokens, isAdmitted, deadline, tokenEntry, sweeps.find]
        rfl

theorem Represents.letIn (represents : Represents past db rooms)
    {input : AdmitInput} (positive : 0 < input.ttlSeconds) :
    (admitUsers input db).1 =
        .ok ((rooms.room input.eventId).admitted input.cap) ∧
      Represents (past ++ [.admitUsers input]) (admitUsers input db).2
        (rooms.set input.eventId ((rooms.room input.eventId).letIn input.cap
          (rooms.now + input.ttlSeconds * 1000))) := by
  obtain ⟨after, result, sameNow, line, tokens⟩ :=
    represents.admit_ends positive
  have recorded := represents.recorded.apply (.admitUsers input)
  have shorter := admitUsers_shortened input db
  have others : ∀ other, other ≠ input.eventId → SameQueue other db after := by
    intro other different
    have same := admitUsers_sameQueue input db different
    rw [result] at same
    exact same
  have deadline : db.deadlineIn input.ttlSeconds =
      rooms.now + input.ttlSeconds * 1000 := by
    rw [Db.deadlineIn, represents.now]
  rw [QueueOp.apply, result] at recorded
  rw [result] at shorter ⊢
  rw [deadline] at line tokens
  have room : ∀ other, other ≠ input.eventId →
      (rooms.set input.eventId ((rooms.room input.eventId).letIn input.cap
        (rooms.now + input.ttlSeconds * 1000))).room other =
        rooms.room other :=
    fun other different => Function.update_of_ne different _ _
  have here : (rooms.set input.eventId
      ((rooms.room input.eventId).letIn input.cap
        (rooms.now + input.ttlSeconds * 1000))).room input.eventId = _ :=
    Function.update_self ..
  have sameCounter : ∀ other, seqEntry after other = seqEntry db other := by
    intro other
    by_cases same : other = input.eventId
    · rw [same]
      exact shorter.seq
    · exact (others other same).seq
  refine ⟨rfl, sameNow.trans represents.now, ?_, ?_, recorded, ?_, ?_, ?_⟩
  · intro other
    by_cases same : other = input.eventId
    · rw [same, here]
      exact line
    · rw [room other same, ← represents.line, waiting,
        (others other same).queue]
      rfl
  · intro other user
    rw [tokens]
    by_cases same : other = input.eventId
    · subst same
      rw [here, represents.token]
      by_cases member : user ∈
          (rooms.room input.eventId).admitted input.cap
      · have taken : user ∈ (WaitingLine.admits input.cap
            (rooms.room input.eventId).inside
            (rooms.room input.eventId).line).1 := member
        simp [WaitingLine.letIn, member, taken]
      · have notTaken : user ∉ (WaitingLine.admits input.cap
            (rooms.room input.eventId).inside
            (rooms.room input.eventId).line).1 := member
        simp [WaitingLine.letIn, member, notTaken]
    · rw [room other same, if_neg fun both => same both.1, represents.token]
  · intro other entry found
    rw [sameCounter] at found
    exact represents.lasting other entry found
  · intro other
    rw [counter, sameCounter, List.countP_append]
    exact (represents.counted other).trans (Nat.le_add_right _ _)
  · intro other entry member
    rw [counter, sameCounter]
    apply represents.below other entry
    by_cases same : other = input.eventId
    · rw [same] at member ⊢
      exact shorter.entries.subset member
    · rw [(others other same).queue] at member
      exact member

/-- A second cycle at the same instant, in this process or in another one,
admits nobody. -/
theorem Represents.admit_again (represents : Represents past db rooms)
    {input : AdmitInput} (positive : 0 < input.ttlSeconds) :
    (admitUsers input (admitUsers input db).2).1 = .ok [] := by
  have again := ((represents.letIn positive).2.letIn positive).1
  have here : (rooms.set input.eventId
      ((rooms.room input.eventId).letIn input.cap
        (rooms.now + input.ttlSeconds * 1000))).room input.eventId = _ :=
    Function.update_self ..
  rw [again, here, WaitingLine.admitted_letIn]

theorem Represents.tick (represents : Represents past db rooms)
    (elapsed : Nat) :
    Represents (past ++ [.tick elapsed]) { db with toDb := db.tick elapsed }
      ⟨rooms.now + elapsed,
        fun eventId => (rooms.room eventId).leave (rooms.now + elapsed)⟩ := by
  have same : ∀ eventId,
      SameQueue eventId db { db with toDb := db.tick elapsed } :=
    fun eventId => sameQueue_tick (represents.lasting eventId) elapsed
  have recorded := represents.recorded.apply (.tick elapsed)
  refine ⟨?_, represents.line, ?_, recorded, ?_, ?_, ?_⟩
  · change db.now + elapsed = rooms.now + elapsed
    rw [represents.now]
  · intro eventId userId
    have token := represents.token eventId userId
    change (db.tick elapsed).find (.tokenKey eventId userId) = _
    rw [Db.find_tick]
    rw [tokenEntry] at token
    rw [token, represents.now]
    by_cases member : userId ∈ (rooms.room eventId).inside
    · by_cases stays : rooms.now + elapsed <
          (rooms.room eventId).staysUntil userId
      · simp [WaitingLine.leave, member, stays, Entry.Live]
      · simpa [WaitingLine.leave, member, stays, Entry.Live] using
          not_lt.mp stays
    · simp [WaitingLine.leave, member]
  · intro eventId entry found
    rw [(same eventId).seq] at found
    exact represents.lasting eventId entry found
  · intro eventId
    rw [counter, (same eventId).seq, List.countP_append]
    exact (represents.counted eventId).trans (Nat.le_add_right _ _)
  · intro eventId entry member
    rw [counter, (same eventId).seq]
    exact represents.below eventId entry member

end Represented

/-! ## The store is the waiting lines -/

private theorem represents_empty (origin : Instant) :
    Represents [] (QueueStore.empty origin) (Rooms.empty origin) where
  now := rfl
  line := fun _ => rfl
  token := by
    intro eventId userId
    have absent : userId ∉ ((Rooms.empty origin).room eventId).inside :=
      Finset.notMem_empty userId
    rw [if_neg absent]
    rfl
  recorded := tokensRecorded_empty origin
  lasting := nofun
  counted := fun _ => le_rfl
  below := nofun

private theorem storeMachine_simulates :
    storeMachine.Simulates roomMachine WithinRange Represents where
  earlier := fun _ _ within => within.earlier
  reply := by
    intro past op db rooms represents within
    cases op with
    | join eventId userId =>
        exact congrArg _ (represents.join_reply within)
    | admitUsers input =>
        have positive := within.1 (.admitUsers input)
          (List.mem_append_right _ (List.mem_singleton_self _))
        exact congrArg _ (represents.letIn positive).1
    | getStatus eventId userId =>
        exact congrArg _ (represents.status_reply eventId userId)
    | tick elapsed => rfl
  next := by
    intro past op db rooms represents within
    cases op with
    | join eventId userId => exact represents.join within
    | admitUsers input =>
        have positive := within.1 (.admitUsers input)
          (List.mem_append_right _ (List.mem_singleton_self _))
        exact (represents.letIn positive).2
    | getStatus eventId userId =>
        refine ⟨represents.now, represents.line, represents.token,
          represents.recorded, represents.lasting, ?_, represents.below⟩
        intro other
        rw [List.countP_append]
        exact (represents.counted other).trans (Nat.le_add_right _ _)
    | tick elapsed => exact represents.tick elapsed

/-- From an empty store, the scripts answer every sequence of calls as the
waiting lines do. -/
theorem answers_eq_rooms {origin : Instant} {ops : List QueueOp}
    (within : WithinRange ops) :
    storeMachine.answers (QueueStore.empty origin) ops =
      roomMachine.answers (Rooms.empty origin) ops :=
  (storeMachine_simulates.run (represents_empty origin) within).1

/-- Two people join, one place is free, the first one is let in and lets the
time run out; both ask where they are. -/
def twoPeople : List QueueOp :=
  [.join 1 10, .join 1 11, .join 2 10, .admitUsers ⟨1, 1, 30⟩,
    .getStatus 1 10, .getStatus 1 11, .tick 30000, .getStatus 1 10,
    .admitUsers ⟨1, 1, 30⟩, .getStatus 1 11]

private theorem twoPeople_withinRange : WithinRange twoPeople :=
  .of_length (by decide) (by decide)

theorem answers_eq_rooms_twoPeople :
    storeMachine.answers (QueueStore.empty 0) twoPeople =
      roomMachine.answers (Rooms.empty 0) twoPeople :=
  answers_eq_rooms twoPeople_withinRange

/-! ## Events apart -/

namespace QueueOp

def concerns (eventId : EventId) : QueueOp → Bool
  | .join other _ => decide (other = eventId)
  | .admitUsers input => decide (input.eventId = eventId)
  | .getStatus other _ => decide (other = eventId)
  | .tick _ => true

end QueueOp

def lineOf (eventId : EventId) (rooms : Rooms) :
    Instant × WaitingLine UserId :=
  (rooms.now, rooms.room eventId)

private theorem lineOf_set (rooms : Rooms) (eventId other : EventId)
    (room : WaitingLine UserId) :
    lineOf other (rooms.set eventId room) =
      if other = eventId then (rooms.now, room) else lineOf other rooms := by
  by_cases same : other = eventId
  · subst same
    simp only [lineOf, Rooms.set, Function.update_self, if_true]
  · simp only [lineOf, Rooms.set, Function.update_of_ne same, if_neg same]

private theorem roomMachine_unwinds (eventId : EventId) :
    roomMachine.Unwinds (lineOf eventId) (QueueOp.concerns eventId) where
  reply := by
    intro first second op concerned same
    have sameNow : first.now = second.now := congrArg Prod.fst same
    have sameRoom : first.room eventId = second.room eventId :=
      congrArg Prod.snd same
    cases op with
    | join other userId =>
        have here : other = eventId := of_decide_eq_true concerned
        subst here
        simp only [roomMachine, Rooms.joined, sameRoom]
    | admitUsers input =>
        have here : input.eventId = eventId := of_decide_eq_true concerned
        subst here
        simp only [roomMachine, sameRoom]
    | getStatus other userId =>
        have here : other = eventId := of_decide_eq_true concerned
        subst here
        have sameStatus : first.status other userId =
            second.status other userId := by
          unfold Rooms.status Rooms.secondsLeft
          rw [sameRoom, sameNow]
        exact congrArg QueueReply.status sameStatus
    | tick elapsed => rfl
  next := by
    intro first second op concerned same
    have sameNow : first.now = second.now := congrArg Prod.fst same
    have sameRoom : first.room eventId = second.room eventId :=
      congrArg Prod.snd same
    cases op with
    | join other userId =>
        have here : other = eventId := of_decide_eq_true concerned
        subst here
        simp only [roomMachine, lineOf_set, if_true, sameRoom, sameNow]
    | admitUsers input =>
        have here : input.eventId = eventId := of_decide_eq_true concerned
        subst here
        simp only [roomMachine, lineOf_set, if_true, sameRoom, sameNow]
    | getStatus other userId => exact same
    | tick elapsed =>
        simp only [roomMachine, lineOf, sameRoom, sameNow]
  others := by
    intro rooms op apart
    cases op with
    | join other userId =>
        have elsewhere : eventId ≠ other :=
          Ne.symm (of_decide_eq_false apart)
        simp only [roomMachine, lineOf_set, if_neg elsewhere]
    | admitUsers input =>
        have elsewhere : eventId ≠ input.eventId :=
          Ne.symm (of_decide_eq_false apart)
        simp only [roomMachine, lineOf_set, if_neg elsewhere]
    | getStatus other userId => rfl
    | tick elapsed => cases apart

theorem WithinRange.filter {ops : List QueueOp} (within : WithinRange ops)
    (concerns : QueueOp → Bool) : WithinRange (ops.filter concerns) := by
  refine ⟨fun op member => within.1 op (List.mem_of_mem_filter member), ?_⟩
  intro eventId
  exact lt_of_le_of_lt List.filter_sublist.countP_le (within.2 eventId)

/-- What the calls for one event are answered does not depend on the calls for
the others. -/
theorem answers_event_alone {origin : Instant} {ops : List QueueOp}
    (within : WithinRange ops) (eventId : EventId) :
    (storeMachine.answers (QueueStore.empty origin) ops).filter
        (fun entry => entry.1.concerns eventId) =
      storeMachine.answers (QueueStore.empty origin)
        (ops.filter (QueueOp.concerns eventId)) := by
  have whole :=
    (storeMachine_simulates.run (represents_empty origin) within).1
  have alone := (storeMachine_simulates.run (represents_empty origin)
    (within.filter (QueueOp.concerns eventId))).1
  rw [whole, alone]
  exact (roomMachine_unwinds eventId).answers_filter rfl

theorem answers_event_alone_twoPeople :
    (storeMachine.answers (QueueStore.empty 0) twoPeople).filter
        (fun entry => entry.1.concerns 1) =
      storeMachine.answers (QueueStore.empty 0)
        (twoPeople.filter (QueueOp.concerns 1)) :=
  answers_event_alone twoPeople_withinRange 1

/-! ## Behind the endpoints -/

/-- What a run of the module has asked of the store, oldest first. -/
def storeOps : List (QueueState × QueueAction) → List QueueOp
  | [] => []
  | (state, action) :: older =>
      storeOps older ++ (storeOp? state action).toList

def roomsAfter (origin : Instant)
    (history : List (QueueState × QueueAction)) : Rooms :=
  roomMachine.after (Rooms.empty origin) (storeOps history)

private theorem represents_of_run {rooms : WaitingRooms} {origin : Instant}
    {history : List (QueueState × QueueAction)} {state : QueueState}
    (run : Trace queueServer.step (QueueState.init rooms origin) history
      state) (within : WithinRange (storeOps history)) :
    Represents (storeOps history) state.stores.queue
      (roomsAfter origin history) := by
  induction run with
  | nil => exact represents_empty origin
  | @snoc earlier before after action _ stepped inductionHypothesis =>
      have represents := inductionHypothesis within.earlier
      have queue := step_queue stepped
      cases asked : storeOp? before action with
      | none =>
          rw [asked, Option.map_none, Option.getD_none] at queue
          rw [roomsAfter, storeOps, asked, Option.toList_none,
            List.append_nil, queue]
          exact represents
      | some op =>
          rw [asked, Option.map_some, Option.getD_some] at queue
          rw [storeOps, asked, Option.toList_some] at within
          rw [roomsAfter, storeOps, asked, Option.toList_some, queue,
            Machine.after, List.foldl_append]
          exact storeMachine_simulates.next _ op _ _ represents within

/-- The answer of `JoinQueueUseCase`, from the waiting line. -/
def Rooms.joinAnswer (rooms : Rooms) (input : JoinQueueInput)
    (room : WaitingRoomConfig) : JoinQueueOutput :=
  let position := (rooms.joined input.eventId input.userId).rank + 1
  ⟨position, estimatedWaitSec position room⟩

/-- The answer of `CheckTurnUseCase`, from the waiting line. -/
def Rooms.turnAnswer (rooms : Rooms) (input : CheckTurnInput) :
    CheckTurnOutput :=
  let seconds := rooms.secondsLeft input.eventId input.userId
  if input.userId ∈ (rooms.room input.eventId).inside ∧ 0 < seconds then
    .admitted (rooms.now + seconds * 1000)
  else
    match (rooms.room input.eventId).place? input.userId with
    | none => .waiting 0
    | some place => .waiting (place + 1)

private theorem Represents.turnAnswer {past : List QueueOp} {db : QueueStore}
    {rooms : Rooms} (represents : Represents past db rooms)
    (stores : QueueStores) (isQueue : stores.queue = db)
    (input : CheckTurnInput) :
    Call.goOn perform checkTurn input .getStatus stores .resolves =
      .finished (rooms.turnAnswer input) := by
  have status := represents.status_reply input.eventId input.userId
  have sameNow : stores.now = rooms.now := by
    rw [QueueStores.now, isQueue, represents.now]
  simp only [Call.goOn, checkTurn, perform, isQueue, status, sameNow,
    Rooms.status, Rooms.turnAnswer]
  by_cases inside : input.userId ∈ (rooms.room input.eventId).inside ∧
      0 < rooms.secondsLeft input.eventId input.userId
  · simp only [if_pos inside, if_true]
    rfl
  · simp only [if_neg inside]
    cases (rooms.room input.eventId).place? input.userId with
    | none => rfl
    | some place =>
        have atLeast : (0 : Int) ≤ place := Int.natCast_nonneg place
        simp only [Bool.false_eq_true, if_false, if_pos atLeast]

/-- Where a call is when its command has been answered. -/
theorem calls_of_resolved {state next : QueueState} {index : Nat}
    {call : QueueCall}
    {pending : Pending QueueCommand QueueCommand.Reply QueueCall}
    (stepped : queueServer.step state (.await index .resolves) = some next)
    (found : state.calls[index]? = some call)
    (waits : queueServer.pending call = some pending) :
    next.calls[index]? =
      some (queueServer.answer call pending state.stores .resolves).2 := by
  cases Server.step_cases stepped with
  | awaited _ _ other awaits reached waiting =>
      rw [found] at reached
      cases reached
      rw [waits] at waiting
      cases waiting
      exact List.getElem?_set_self (List.getElem?_eq_some_iff.mp found).1

/-- In every run, whoever else calls in between, both endpoints answer from
the waiting line of their event as it is when the script runs. -/
theorem endpoints_answer_from_rooms {rooms : WaitingRooms} {origin : Instant}
    {history : List (QueueState × QueueAction)} {state next : QueueState}
    {index : Nat}
    (run : Trace queueServer.step (QueueState.init rooms origin) history state)
    (stepped : queueServer.step state (.await index .resolves) = some next)
    (within : WithinRange
      (storeOps ((state, .await index .resolves) :: history))) :
    (∀ input room,
      state.calls[index]? =
        some (QueueCall.joinQueue ⟨input, .running (.join room)⟩) →
      next.calls[index]? = some (QueueCall.joinQueue ⟨input, .finished
        (.ok ((roomsAfter origin history).joinAnswer input room))⟩)) ∧
    ∀ input,
      state.calls[index]? =
        some (QueueCall.checkTurn ⟨input, .running .getStatus⟩) →
      next.calls[index]? = some (QueueCall.checkTurn ⟨input, .finished
        ((roomsAfter origin history).turnAnswer input)⟩) := by
  have represents := represents_of_run run within.earlier
  constructor
  · intro input room found
    have waits := hosts_joinQueue.waits input (.join room)
    have asks : storeOp? state (.await index .resolves) =
        some (.join input.eventId input.userId) := by
      simp only [storeOp?, Server.applied, Await.Applies, if_true, found,
        Option.bind_some, waits]
      rfl
    rw [storeOps, asks, Option.toList_some] at within
    rw [calls_of_resolved stepped found waits]
    have reply : (perform (.join input.eventId input.userId)
        state.stores).1 =
        .ok ((roomsAfter origin history).joined input.eventId
          input.userId) := represents.join_reply within
    have goes : Call.goOn perform joinQueue input (.join room) state.stores
        .resolves = .finished
          (.ok ((roomsAfter origin history).joinAnswer input room)) := by
      simp only [Call.goOn, joinQueue, reply, Rooms.joinAnswer]
    rw [hosts_joinQueue.answer]
    exact congrArg (fun progress =>
      some (QueueCall.joinQueue ⟨input, progress⟩)) goes
  · intro input found
    have waits := hosts_checkTurn.waits input .getStatus
    rw [calls_of_resolved stepped found waits, hosts_checkTurn.answer]
    exact congrArg (fun progress =>
      some (QueueCall.checkTurn ⟨input, progress⟩))
      (represents.turnAnswer state.stores rfl input)

def smallRooms : WaitingRooms := ⟨[⟨1, true, 2, 30⟩], by decide⟩

def asksToJoin : List QueueAction :=
  [.request (.joinQueue ⟨7, 1⟩), .await 0 .resolves]

private theorem asksToJoin_enabled :
    (replay queueServer.step [] (QueueState.init smallRooms 0)
      asksToJoin).isSome = true := by
  decide +kernel

def askedToJoin : List (QueueState × QueueAction) × QueueState :=
  (replay queueServer.step [] (QueueState.init smallRooms 0) asksToJoin).get
    asksToJoin_enabled

private theorem joins_enabled :
    (queueServer.step askedToJoin.2 (.await 0 .resolves)).isSome = true := by
  decide +kernel

theorem endpoints_answer_from_rooms_asksToJoin :
    ((queueServer.step askedToJoin.2 (.await 0 .resolves)).get
        joins_enabled).calls[0]? =
      some (QueueCall.joinQueue ⟨⟨7, 1⟩, .finished
        (.ok ((roomsAfter 0 askedToJoin.1).joinAnswer ⟨7, 1⟩
          ⟨1, 2, 30⟩))⟩) :=
  (endpoints_answer_from_rooms
    (Trace.of_replay_get asksToJoin asksToJoin_enabled)
    (Option.some_get joins_enabled).symm
    (.of_length (by decide +kernel) (by decide +kernel))).1 ⟨7, 1⟩ ⟨1, 2, 30⟩
    (by decide +kernel)

end ConcertTicketing.Queue
