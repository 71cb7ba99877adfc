import ConcertTicketing.Queue.Refill
import ConcertTicketing.Queue.UseCases

/-!
# The status of a token and its slot

`STATUS_LUA` asks for the time-to-live of a token, in seconds rounded to the
nearest one, and `ADMIT_LUA` asks whether the token exists.  In the last half
second of a token the first is zero while the second still holds.
-/

namespace ConcertTicketing.Queue

open Redis

/-- No token lasts for ever. -/
def TokensLapse (db : QueueStore) : Prop :=
  ∀ eventId userId token, tokenEntry db eventId userId = some token →
    ∃ deadline, token.expireAt = some deadline

theorem TokensLapse.rounds {input : AdmitInput} {start db : QueueStore}
    {admitted : List UserId} (lapse : TokensLapse start)
    (rounds : Rounds input start admitted db) : TokensLapse db := by
  induction rounds with
  | none => exact lapse
  | next _ issued inductionHypothesis =>
      intro other user token found
      rw [issued.token] at found
      split at found
      · cases found
        exact ⟨_, rfl⟩
      · exact inductionHypothesis other user token found

theorem TokensLapse.apply {db : QueueStore} (lapse : TokensLapse db)
    (op : QueueOp) : TokensLapse (op.apply db) := by
  intro other user token found
  cases op with
  | join eventId userId =>
      rw [QueueOp.apply, (join_tokens eventId userId db).1] at found
      exact lapse other user token found
  | admitUsers input =>
      obtain ⟨swept, admitted, last, sweeps, rounds, tokens, _⟩ :=
        admitUsers_tokens input db
      have sweptLapse : TokensLapse swept := by
        intro event holder entry there
        rw [tokenEntry, sweeps.find] at there
        exact lapse event holder entry there
      rw [QueueOp.apply, tokens] at found
      exact sweptLapse.rounds rounds other user token found
  | getStatus eventId userId => exact lapse other user token found
  | tick elapsed =>
      have later : (db.tick elapsed).find (.tokenKey other user) =
          some token := found
      rw [Db.find_tick] at later
      exact lapse other user token (Option.filter_eq_some_iff.mp later).1

private theorem tokensLapse_of_run {origin : Instant} {db : QueueStore}
    {history : List (QueueStore × QueueOp)}
    (run : Trace queueStep (QueueStore.empty origin) history db) :
    TokensLapse db := by
  refine Trace.invariant TokensLapse ?_ ?_ run
  · intro eventId userId token found
    cases found
  · intro before op after lapse stepped
    cases stepped
    exact lapse.apply op

/-- How a `CheckTurn` of the user ends when it reads this store. -/
def checkAnswer (rooms : WaitingRooms) (db : QueueStore) (eventId : EventId)
    (userId : UserId) : CheckProgress :=
  Call.goOn perform checkTurn ⟨userId, eventId⟩ .getStatus ⟨rooms, db⟩
    .resolves

/-- The answer is `admitted: true`. -/
def ReportsAdmitted (answer : CheckProgress) : Prop :=
  ∃ expiresAt, answer = .finished (.admitted expiresAt)

/-- The `position` of an answer with this status. -/
def positionOf (rank : Option Nat) : Int :=
  match rank with
  | none => 0
  | some rank => rank + 1

theorem checkAnswer_eq (rooms : WaitingRooms) (db : QueueStore)
    (eventId : EventId) (userId : UserId) :
    checkAnswer rooms db eventId userId =
      if 0 < db.ttl (.tokenKey eventId userId) then
        .finished (.admitted
          (db.now + db.ttl (.tokenKey eventId userId) * 1000))
      else
        .finished
          (.waiting (positionOf ((queue db eventId).rank? userId))) := by
  simp only [checkAnswer, Call.goOn, checkTurn, perform, getStatus, statusLua]
  by_cases positive : 0 < db.ttl (.tokenKey eventId userId)
  · simp only [if_pos positive, if_true]
    rfl
  · simp only [if_neg positive]
    cases ranked : (queue db eventId).rank? userId with
    | none =>
        have sameRank :
            (db.zsets (.queueKey eventId)).rank? userId = none := ranked
        simp [sameRank, positionOf]
    | some rank =>
        have sameRank :
            (db.zsets (.queueKey eventId)).rank? userId = some rank := ranked
        simp [sameRank, positionOf]

private theorem reportsAdmitted_iff {rooms : WaitingRooms} {db : QueueStore}
    {eventId : EventId} {userId : UserId} :
    ReportsAdmitted (checkAnswer rooms db eventId userId) ↔
      0 < db.ttl (.tokenKey eventId userId) := by
  rw [checkAnswer_eq, ReportsAdmitted]
  by_cases positive : 0 < db.ttl (.tokenKey eventId userId)
  · simp [positive]
  · simp [positive]

/-- A rounded time-to-live is positive from half a second on. -/
theorem ttl_pos_iff {db : QueueStore} {eventId : EventId} {userId : UserId}
    {token : Entry Nat} {deadline : Int}
    (found : tokenEntry db eventId userId = some token)
    (lapses : token.expireAt = some deadline) :
    0 < db.ttl (.tokenKey eventId userId) ↔ db.now + 500 ≤ deadline := by
  have stored : db.find (.tokenKey eventId userId) = some token := found
  simp only [Db.ttl, stored, lapses]
  omega

theorem ttl_of_noToken {db : QueueStore} {eventId : EventId}
    {userId : UserId} (without : ¬ HasToken db eventId userId) :
    db.ttl (.tokenKey eventId userId) = -2 := by
  have missing : db.find (.tokenKey eventId userId) = none :=
    Option.not_isSome_iff_eq_none.mp without
  simp only [Db.ttl, missing]

/-- The `for` loop of an admit leaves the user in the active set, where they
occupy a slot. -/
def KeepsSlot (input : AdmitInput) (db : QueueStore) (userId : UserId) :
    Prop :=
  userId ∈ activeUsers (sweptStore input db) input.eventId

private theorem TokensRecorded.keepsSlot_iff {db : QueueStore}
    (recorded : TokensRecorded db) (input : AdmitInput) (userId : UserId) :
    KeepsSlot input db userId ↔ HasToken db input.eventId userId :=
  recorded.mem_swept_iff (sweptStore_swept input db) userId

/-- The user's token, if it is live, has half a second left. -/
def HalfSecondLeft (db : QueueStore) (eventId : EventId) (userId : UserId) :
    Prop :=
  ∀ token, tokenEntry db eventId userId = some token →
    ∀ deadline ∈ token.expireAt, db.now + 500 ≤ deadline

/-- In every reachable state `CheckTurn` reports a user as admitted exactly
when an admit would keep their slot, unless their token is in its last half
second. -/
theorem reportsAdmitted_iff_keepsSlot {origin : Instant} {db : QueueStore}
    {history : List (QueueStore × QueueOp)}
    (run : Trace queueStep (QueueStore.empty origin) history db)
    (rooms : WaitingRooms) (input : AdmitInput) (userId : UserId) :
    (ReportsAdmitted (checkAnswer rooms db input.eventId userId) ↔
        KeepsSlot input db userId) ↔
      HalfSecondLeft db input.eventId userId := by
  have keeps := (tokensRecorded_of_run run).keepsSlot_iff input userId
  rw [reportsAdmitted_iff, keeps]
  cases found : tokenEntry db input.eventId userId with
  | none =>
      have without : ¬ HasToken db input.eventId userId := by
        rw [HasToken, found]
        exact Bool.false_ne_true
      have notPositive :
          ¬ 0 < db.ttl (.tokenKey input.eventId userId) := by
        rw [ttl_of_noToken without]
        decide
      have halfLeft : HalfSecondLeft db input.eventId userId := by
        intro token there
        rw [found] at there
        cases there
      exact iff_of_true (iff_of_false notPositive without) halfLeft
  | some token =>
      have live : HasToken db input.eventId userId := by
        rw [HasToken, found]
        rfl
      obtain ⟨deadline, lapses⟩ := tokensLapse_of_run run _ _ _ found
      rw [ttl_pos_iff found lapses, iff_true_right live]
      constructor
      · intro left other there until_ member
        rw [found, Option.some.injEq] at there
        subst there
        rw [lapses, Option.mem_some_iff] at member
        rw [← member]
        exact left
      · intro halfLeft
        exact halfLeft token found deadline lapses

def noRooms : WaitingRooms := ⟨[], List.nodup_nil⟩

/-- User 10 is admitted for one second, of which some time passes. -/
def shortWindow (elapsed : Nat) : List QueueOp :=
  [.join 1 10, .admitUsers ⟨1, 1, 1⟩, .tick elapsed]

private theorem shortWindow_enabled (elapsed : Nat) :
    (replay queueStep [] (QueueStore.empty 0) (shortWindow elapsed)).isSome =
      true := rfl

theorem reportsAdmitted_iff_keepsSlot_shortWindow :
    ReportsAdmitted
        (checkAnswer noRooms
          ((replay queueStep [] (QueueStore.empty 0) (shortWindow 400)).get
            (shortWindow_enabled 400)).2 1 10) ↔
      KeepsSlot ⟨1, 1, 1⟩
        ((replay queueStep [] (QueueStore.empty 0) (shortWindow 400)).get
          (shortWindow_enabled 400)).2 10 := by
  apply (reportsAdmitted_iff_keepsSlot
    (Trace.of_replay_get (shortWindow 400) (shortWindow_enabled 400)) noRooms
    ⟨1, 1, 1⟩ 10).mpr
  intro token found deadline member
  have stored : tokenEntry
      ((replay queueStep [] (QueueStore.empty 0) (shortWindow 400)).get
        (shortWindow_enabled 400)).2 1 10 = some ⟨1, some 1000⟩ := by
    decide +kernel
  rw [stored] at found
  cases found
  cases member
  decide +kernel

/-- With 300 ms left the user occupies a slot and is told to be at position
0. -/
theorem admitted_user_reported_waiting :
    ¬ ∀ (origin : Instant) (db : QueueStore)
        (history : List (QueueStore × QueueOp)),
        Trace queueStep (QueueStore.empty origin) history db →
        ∀ (rooms : WaitingRooms) (input : AdmitInput) (userId : UserId),
          ReportsAdmitted (checkAnswer rooms db input.eventId userId) ↔
            KeepsSlot input db userId := by
  intro agree
  have agreeHere := agree 0 _ _
    (Trace.of_replay_get (shortWindow 700) (shortWindow_enabled 700)) noRooms
    ⟨1, 1, 1⟩ 10
  have waits : checkAnswer noRooms
      ((replay queueStep [] (QueueStore.empty 0) (shortWindow 700)).get
        (shortWindow_enabled 700)).2 1 10 = .finished (.waiting 0) := by
    decide +kernel
  have keeps : KeepsSlot ⟨1, 1, 1⟩
      ((replay queueStep [] (QueueStore.empty 0) (shortWindow 700)).get
        (shortWindow_enabled 700)).2 10 := by
    unfold KeepsSlot
    decide +kernel
  obtain ⟨expiresAt, admitted⟩ := agreeHere.mpr keeps
  rw [waits] at admitted
  cases admitted

end ConcertTicketing.Queue
