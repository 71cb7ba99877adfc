import ConcertTicketing.Queue.FailureIsolation
import ConcertTicketing.Queue.Positions

/-!
# The wait estimate

An admission cycle that leaves somebody waiting leaves at least as many users
with a live token as the room has slots.  A token lives for one booking
window, so all of them have been taken from the queue within the last window:
a queue that is never empty is served at least once per slot and window.  Joins
of users with a live token only add to that number.
-/

namespace ConcertTicketing.Queue

open Redis

/-- An admit without an error, seen from its event. -/
structure Admits (input : AdmitInput) (db after : QueueStore)
    (admitted : List UserId) : Prop where
  now : after.now = db.now
  entries : ∃ popped, popped.length = admitted.length ∧
    (queue db input.eventId).entries =
      popped ++ (queue after input.eventId).entries
  token : ∀ user token, tokenEntry after input.eventId user = some token →
    user ∈ admitted ∧
        token.expireAt = some (db.deadlineIn input.ttlSeconds) ∨
      tokenEntry db input.eventId user = some token
  active : ∀ user ∈ activeUsers after input.eventId,
    HasToken after input.eventId user
  settled : input.cap ≤ ((activeUsers after input.eventId).card : Int) ∨
    waiting after input.eventId = []

theorem Rounds.now {input : AdmitInput} {start last : QueueStore}
    {admitted : List UserId} (rounds : Rounds input start admitted last) :
    last.now = start.now := by
  induction rounds with
  | none => rfl
  | next _ issued inductionHypothesis =>
      exact issued.now.trans inductionHypothesis

private theorem Rounds.token_cases {input : AdmitInput}
    {start last : QueueStore} {admitted : List UserId}
    (rounds : Rounds input start admitted last) {user : UserId}
    {token : Entry Nat}
    (found : tokenEntry last input.eventId user = some token) :
    user ∈ admitted ∧
        token.expireAt = some (start.deadlineIn input.ttlSeconds) ∨
      tokenEntry start input.eventId user = some token := by
  induction rounds with
  | none => exact Or.inr found
  | @next _ before _ userId earlier issued inductionHypothesis =>
      rw [issued.token] at found
      split at found
      · next given =>
          left
          rw [given.2]
          refine ⟨List.mem_append_right _ List.mem_cons_self, ?_⟩
          cases found
          rw [Db.deadlineIn, Db.deadlineIn, earlier.now]
      · rcases inductionHypothesis found with ⟨member, deadline⟩ | old
        · exact Or.inl ⟨List.mem_append_left _ member, deadline⟩
        · exact Or.inr old

/-- The active set of an admit that has run holds users with a live token
only. -/
theorem Rounds.hasToken_of_active {input : AdmitInput}
    {db swept last : QueueStore} {admitted : List UserId}
    (rounds : Rounds input swept admitted last)
    (sweeps : Swept input.eventId db swept) {user : UserId}
    (member : user ∈ activeUsers last input.eventId) :
    HasToken last input.eventId user := by
  rw [rounds.hasToken_iff]
  rw [rounds.activeUsers_eq, Finset.mem_union, List.mem_toFinset] at member
  rcases member with kept | taken
  · right
    rw [sweeps.active, if_pos rfl, Finset.mem_filter] at kept
    exact (sweeps.hasToken_iff _ _).mpr kept.2
  · exact Or.inl taken

private theorem admitUsers_admits (input : AdmitInput)
    (positive : 0 < input.ttlSeconds) (db : QueueStore) :
    ∃ admitted, Admits input db (admitUsers input db).2 admitted := by
  obtain ⟨swept, admitted, sweeps, answer, rounds⟩ :=
    admitUsers_rounds positive db
  have sweepSame : SameQueue input.eventId db swept := sweeps.sameQueue
  have shorter := rounds.shortened
  obtain ⟨popped, split⟩ := shorter.entries
  have inOrder := rounds.takenFrom.inOrder
  have result : admitUsers input db = (.ok admitted, (admitUsers input db).2) :=
    Prod.ext answer rfl
  refine ⟨admitted, rounds.now.trans sweeps.now, ⟨popped, ?_, ?_⟩, ?_, ?_,
    full_or_noneWaiting result⟩
  · have lengths := congrArg List.length inOrder
    rw [waiting, waiting, SortedSet.members, SortedSet.members, ← split,
      List.length_append, List.length_map, List.length_map,
      List.length_append] at lengths
    omega
  · rw [← sweepSame.queue, split]
  · intro user token found
    have sameToken : tokenEntry swept input.eventId user =
        tokenEntry db input.eventId user := sweeps.find _
    have sameDeadline : swept.deadlineIn input.ttlSeconds =
        db.deadlineIn input.ttlSeconds := by
      rw [Db.deadlineIn, Db.deadlineIn, sweeps.now]
    rw [← sameToken, ← sameDeadline]
    exact rounds.token_cases found
  · intro user member
    exact rounds.hasToken_of_active sweeps member

/-- What can happen within a second besides the cycle for the event. -/
def QueueOp.WithinSecond (eventId : EventId) : QueueOp → Prop
  | .join _ _ => True
  | .getStatus _ _ => True
  | .admitUsers input => input.eventId ≠ eventId
  | .tick _ => False

def QueueOp.NoAdmitFor (eventId : EventId) : QueueOp → Prop
  | .admitUsers input => input.eventId ≠ eventId
  | _ => True

namespace QueueStore

/-- A second later. -/
def nextSecond (db : QueueStore) : QueueStore :=
  { db with toDb := db.tick 1000 }

end QueueStore

/-- A run in whole seconds: each of them begins with an admission cycle for
the room, which stays open. -/
inductive Seconds (room : WaitingRoomConfig) (start : QueueStore) :
    List (QueueStore × QueueOp) → QueueStore → Prop
  | start : Seconds room start [] start
  | cycle {history : List (QueueStore × QueueOp)} {db : QueueStore}
      (earlier : Seconds room start history db) :
      Seconds room start
        ((db.nextSecond, .admitUsers room.admitInput) ::
          (db, .tick 1000) :: history)
        (admitUsers room.admitInput db.nextSecond).2
  | within {history : List (QueueStore × QueueOp)} {db : QueueStore}
      (op : QueueOp) (earlier : Seconds room start history db)
      (inside : op.WithinSecond room.eventId) :
      Seconds room start ((db, op) :: history) (op.apply db)

namespace Seconds

variable {room : WaitingRoomConfig} {start middle db : QueueStore}
  {history older newer past : List (QueueStore × QueueOp)}

theorem trace (run : Seconds room start history db) :
    Trace queueStep start history db := by
  induction run with
  | start => exact .nil
  | @cycle _ db _ inductionHypothesis =>
      have ticks : queueStep db (.tick 1000) = some db.nextSecond := rfl
      exact (inductionHypothesis.snoc ticks).snoc rfl
  | within op _ _ inductionHypothesis => exact inductionHypothesis.snoc rfl

end Seconds

section Within

variable {eventId : EventId} {db : QueueStore} {op : QueueOp}

private theorem now_within (inside : op.WithinSecond eventId) :
    (op.apply db).now = db.now := by
  cases op with
  | join event userId =>
      rw [QueueOp.apply]
      rcases join_cases event userId db with
        ⟨_, same⟩ | ⟨_, ⟨_, _, joined⟩ | ⟨_, same⟩⟩
      · rw [same]
      · exact joined.now
      · rw [same]
  | admitUsers input =>
      have frame := admitUsers_frame input db (Ne.symm inside)
      exact (fields_of_viewOf frame).1
  | getStatus event userId => rfl
  | tick elapsed => exact inside.elim

/-- Tokens are written by the cycle only. -/
theorem token_within (inside : op.WithinSecond eventId) (userId : UserId) :
    tokenEntry (op.apply db) eventId userId =
      tokenEntry db eventId userId := by
  cases op with
  | join event user => exact (join_tokens event user db).1 eventId userId
  | admitUsers input =>
      have frame := admitUsers_frame input db (Ne.symm inside)
      exact congrFun (fields_of_viewOf frame).2.2.2 userId
  | getStatus event user => rfl
  | tick elapsed => exact inside.elim

/-- Within a second the queue only grows, at its end. -/
theorem entries_within {history : List (QueueStore × QueueOp)}
    (inside : op.WithinSecond eventId)
    (numbers : Numbered eventId history db)
    (few : (effectiveJoins eventId ((db, op) :: history)).length < 2 ^ 53) :
    ∃ added, (queue (op.apply db) eventId).entries =
        (queue db eventId).entries ++ added ∧
      ∀ entry ∈ added, counter db eventId < entry.1 := by
  have unchanged : ∀ after, SameQueue eventId db after →
      ∃ added, (queue after eventId).entries =
          (queue db eventId).entries ++ added ∧
        ∀ entry ∈ added, counter db eventId < entry.1 := by
    intro after same
    refine ⟨[], ?_, fun entry member => absurd member List.not_mem_nil⟩
    rw [same.queue, List.append_nil]
  cases op with
  | join event userId =>
      by_cases sameEvent : event = eventId
      · subst sameEvent
        rw [QueueOp.apply]
        rcases join_cases event userId db with
          ⟨_, same⟩ | ⟨fresh, ⟨_, _, joined⟩ | ⟨_, same⟩⟩
        · rw [same]
          exact unchanged db (SameQueue.refl event db)
        · rw [effectiveJoins, effectiveJoin, if_pos ⟨rfl, fresh⟩,
            List.length_append] at few
          refine ⟨_, numbers.entries_joined few fresh joined, ?_⟩
          intro entry member
          rw [List.mem_singleton.mp member]
          exact Nat.lt_succ_self _
        · rw [same]
          exact unchanged db (SameQueue.refl event db)
      · exact unchanged _ (join_sameQueue userId db sameEvent)
  | admitUsers input =>
      exact unchanged _ (admitUsers_sameQueue input db (Ne.symm inside))
  | getStatus event user => exact unchanged db (SameQueue.refl eventId db)
  | tick elapsed => exact inside.elim

end Within

/-- The entries in front of an entry. -/
def ahead (db : QueueStore) (eventId : EventId) (entry : Nat × UserId) :
    Nat :=
  (queue db eventId).entries.countP fun other => decide (other.1 < entry.1)

/-- No token of the event outlives the next booking window. -/
def TokensWithin (room : WaitingRoomConfig) (db : QueueStore) : Prop :=
  ∀ user token, tokenEntry db room.eventId user = some token →
    ∃ deadline, token.expireAt = some deadline ∧
      deadline ≤ db.now + room.bookingWindow * 1000

/-- Since `origin`, the users `taken` have been taken from in front of the
entry, and all tokens that outlive a booking window from there are theirs. -/
structure Window (room : WaitingRoomConfig) (origin : QueueStore)
    (entry : Nat × UserId) (db : QueueStore) (taken : List UserId) :
    Prop where
  ahead : Queue.ahead db room.eventId entry + taken.length =
    Queue.ahead origin room.eventId entry
  tokens : ∀ user token, tokenEntry db room.eventId user = some token →
    user ∈ taken ∨
      ∃ deadline, token.expireAt = some deadline ∧
        deadline ≤ origin.now + room.bookingWindow * 1000

/-- A token that is live a second later is live now. -/
theorem tokenEntry_of_nextSecond {db : QueueStore} {eventId : EventId}
    {userId : UserId} {token : Entry Nat}
    (found : tokenEntry db.nextSecond eventId userId = some token) :
    tokenEntry db eventId userId = some token := by
  have later : (db.tick 1000).find (.tokenKey eventId userId) =
      some token := found
  rw [Db.find_tick] at later
  exact (Option.filter_eq_some_iff.mp later).1

theorem TokensWithin.cycle {room : WaitingRoomConfig} {db : QueueStore}
    (window : 1 ≤ room.bookingWindow) (short : TokensWithin room db) :
    TokensWithin room (admitUsers room.admitInput db.nextSecond).2 := by
  obtain ⟨admitted, admits⟩ :=
    admitUsers_admits room.admitInput window db.nextSecond
  have nowAfter : (admitUsers room.admitInput db.nextSecond).2.now =
      db.now + 1000 := admits.now
  intro user token found
  rcases admits.token user token found with ⟨_, deadline⟩ | old
  · refine ⟨_, deadline, ?_⟩
    rw [admits.now]
    exact le_rfl
  · obtain ⟨deadline, lapses, bounded⟩ :=
      short user token (tokenEntry_of_nextSecond old)
    refine ⟨deadline, lapses, ?_⟩
    omega

theorem TokensWithin.within {room : WaitingRoomConfig} {db : QueueStore}
    {op : QueueOp} (short : TokensWithin room db)
    (inside : op.WithinSecond room.eventId) :
    TokensWithin room (op.apply db) := by
  intro user token found
  rw [token_within inside] at found
  rw [now_within inside]
  exact short user token found

private theorem Seconds.tokensWithin {room : WaitingRoomConfig}
    {start db : QueueStore} {history : List (QueueStore × QueueOp)}
    (run : Seconds room start history db) (window : 1 ≤ room.bookingWindow)
    (short : TokensWithin room start) : TokensWithin room db := by
  induction run with
  | start => exact short
  | cycle _ inductionHypothesis => exact inductionHypothesis.cycle window
  | within op _ inside inductionHypothesis =>
      exact inductionHypothesis.within inside

section Windows

variable {room : WaitingRoomConfig} {origin db : QueueStore}
  {past history : List (QueueStore × QueueOp)} {entry : Nat × UserId}
  {taken : List UserId}

/-- A cycle takes users from in front of an entry that it leaves waiting. -/
theorem Window.cycle (window : 1 ≤ room.bookingWindow)
    (since : Window room origin entry db taken)
    (increasing : (queue db room.eventId).entries.Pairwise
      fun first second => first.1 < second.1)
    (still : entry ∈ (queue (admitUsers room.admitInput db.nextSecond).2
      room.eventId).entries) :
    ∃ more, Window room origin entry
      (admitUsers room.admitInput db.nextSecond).2 more := by
  obtain ⟨admitted, admits⟩ :=
    admitUsers_admits room.admitInput window db.nextSecond
  obtain ⟨popped, sameLength, split⟩ := admits.entries
  have entries : (queue db room.eventId).entries = popped ++
      (queue (admitUsers room.admitInput db.nextSecond).2
        room.eventId).entries := split
  refine ⟨taken ++ admitted, ?_, ?_⟩
  · have count := since.ahead
    rw [Queue.ahead, entries, List.countP_append] at count
    rw [entries, List.pairwise_append] at increasing
    have allAhead : popped.countP (fun other =>
        decide (other.1 < entry.1)) = popped.length := by
      apply List.countP_eq_length.mpr
      intro other member
      exact decide_eq_true (increasing.2.2 other member entry still)
    rw [allAhead, sameLength] at count
    rw [Queue.ahead, List.length_append]
    omega
  · intro user token found
    rcases admits.token user token found with ⟨member, _⟩ | old
    · exact Or.inl (List.mem_append_right _ member)
    · rcases since.tokens user token (tokenEntry_of_nextSecond old) with
        member | lapses
      · exact Or.inl (List.mem_append_left _ member)
      · exact Or.inr lapses

theorem Window.within {op : QueueOp}
    (since : Window room origin entry db taken)
    (inside : op.WithinSecond room.eventId)
    (numbers : Numbered room.eventId history db)
    (few : (effectiveJoins room.eventId
      ((db, op) :: history)).length < 2 ^ 53)
    (bounded : entry.1 ≤ counter db room.eventId) :
    Window room origin entry (op.apply db) taken where
  ahead := by
    obtain ⟨added, entries, behind⟩ := entries_within inside numbers few
    have noneAhead : added.countP (fun other =>
        decide (other.1 < entry.1)) = 0 := by
      apply List.countP_eq_zero.mpr
      intro other member
      have above := behind other member
      rw [decide_eq_true_iff]
      omega
    have count := since.ahead
    rw [Queue.ahead] at count ⊢
    rw [entries, List.countP_append, noneAhead]
    exact count
  tokens := by
    intro user token found
    rw [token_within inside] at found
    exact since.tokens user token found

/-- The users taken since `origin`, as long as the entry waits. -/
theorem Seconds.window (run : Seconds room origin history db)
    (window : 1 ≤ room.bookingWindow)
    (numbers : Numbered room.eventId past origin)
    (short : TokensWithin room origin)
    (there : entry ∈ (queue origin room.eventId).entries) :
    (effectiveJoins room.eventId (history ++ past)).length < 2 ^ 53 →
    entry ∈ (queue db room.eventId).entries →
      ∃ taken, Window room origin entry db taken := by
  induction run with
  | start =>
      intro few still
      exact ⟨[], rfl, fun user token found =>
        Or.inr (short user token found)⟩
  | @cycle history db earlier inductionHypothesis =>
      intro few still
      have fewBefore : (effectiveJoins room.eventId
          (history ++ past)).length < 2 ^ 53 := by
        rw [List.cons_append, List.cons_append,
          effectiveJoins_of_noJoin rfl, effectiveJoins_of_noJoin rfl] at few
        exact few
      have numbersBefore := numbers.run earlier.trace fewBefore
      have shorter :=
        admitUsers_shortened room.admitInput db.nextSecond
      obtain ⟨taken, since⟩ :=
        inductionHypothesis fewBefore (shorter.entries.subset still)
      exact since.cycle window numbersBefore.increasing still
  | @within history db op earlier inside inductionHypothesis =>
      intro few still
      have fewBefore := lt_of_le_of_lt
        (length_effectiveJoins_le room.eventId db op (history ++ past)) few
      have numbersBefore := numbers.run earlier.trace fewBefore
      have counted := (numbers.entry_of_run earlier.trace fewBefore).1
      have bounded : entry.1 ≤ counter db room.eventId :=
        (numbers.below entry there).trans counted
      have before : entry ∈ (queue db room.eventId).entries := by
        rcases numbersBefore.entry_apply few still with old | new
        · exact old
        · omega
      obtain ⟨taken, since⟩ := inductionHypothesis fewBefore before
      exact ⟨taken, since.within inside numbersBefore few bounded⟩

/-- When a cycle at the end of a booking window leaves somebody waiting, a
user for each slot has been taken within the window. -/
theorem Window.slots_le (window : 1 ≤ room.bookingWindow)
    (since : Window room origin entry
      (admitUsers room.admitInput db).2 taken)
    (later : db.now = origin.now + room.bookingWindow * 1000)
    (still : entry ∈ (queue (admitUsers room.admitInput db).2
      room.eventId).entries) :
    room.maxConcurrent ≤ (taken.length : Int) := by
  obtain ⟨admitted, admits⟩ :=
    admitUsers_admits room.admitInput window db
  have nowAfter : (admitUsers room.admitInput db).2.now = db.now := admits.now
  have somebody :
      waiting (admitUsers room.admitInput db).2 room.eventId ≠ [] := by
    intro nobody
    have waits : entry.2 ∈
        waiting (admitUsers room.admitInput db).2 room.eventId :=
      List.mem_map_of_mem still
    rw [nobody] at waits
    cases waits
  have full : room.maxConcurrent ≤ ((activeUsers
      (admitUsers room.admitInput db).2 room.eventId).card : Int) := by
    rcases admits.settled with reached | nobody
    · exact reached
    · exact absurd nobody somebody
  have allTaken : activeUsers (admitUsers room.admitInput db).2
      room.eventId ⊆ taken.toFinset := by
    intro user member
    obtain ⟨token, found⟩ :=
      Option.isSome_iff_exists.mp (admits.active user member)
    rw [List.mem_toFinset]
    rcases since.tokens user token found with isTaken | lapsed
    · exact isTaken
    · obtain ⟨deadline, lapses, bounded⟩ := lapsed
      have live := of_decide_eq_true (Option.filter_eq_some_iff.mp found).2
        deadline lapses
      omega
  have fewer := Finset.card_le_card allTaken
  have distinct := List.toFinset_card_le taken
  omega

end Windows

namespace Seconds

variable {room : WaitingRoomConfig} {start db : QueueStore}
  {history : List (QueueStore × QueueOp)}

/-- The clock shows whole seconds. -/
theorem now_eq (run : Seconds room start history db)
    (window : 1 ≤ room.bookingWindow) :
    ∃ seconds : Nat, db.now = start.now + 1000 * seconds := by
  induction run with
  | start => exact ⟨0, by omega⟩
  | @cycle history db earlier inductionHypothesis =>
      obtain ⟨seconds, now⟩ := inductionHypothesis
      obtain ⟨admitted, admits⟩ :=
        admitUsers_admits room.admitInput window db.nextSecond
      have nowAfter : (admitUsers room.admitInput db.nextSecond).2.now =
          db.now + 1000 := admits.now
      refine ⟨seconds + 1, ?_⟩
      omega
  | within op _ inside inductionHypothesis =>
      rw [now_within inside]
      exact inductionHypothesis

/-- A run passes the cycle of each later second. -/
theorem split (run : Seconds room start history db)
    (window : 1 ≤ room.bookingWindow) {span : Nat} (positive : 0 < span) :
    start.now + 1000 * span ≤ db.now →
    ∃ newer older middle, history = newer ++ older ∧
      middle.now = start.now + 1000 * span ∧
      Seconds room start older (admitUsers room.admitInput middle).2 ∧
      Seconds room (admitUsers room.admitInput middle).2 newer db := by
  induction run with
  | start =>
      intro later
      omega
  | @cycle history db earlier inductionHypothesis =>
      intro later
      obtain ⟨admitted, admits⟩ :=
        admitUsers_admits room.admitInput window db.nextSecond
      have nowAfter : (admitUsers room.admitInput db.nextSecond).2.now =
          db.now + 1000 := admits.now
      by_cases passed : start.now + 1000 * span ≤ db.now
      · obtain ⟨newer, older, middle, rfl, now, first, second⟩ :=
          inductionHypothesis passed
        exact ⟨_, older, middle, rfl, now, first, second.cycle⟩
      · obtain ⟨seconds, now⟩ := earlier.now_eq window
        have nextNow : db.nextSecond.now = db.now + 1000 := rfl
        refine ⟨[], _, db.nextSecond, rfl, ?_, earlier.cycle, .start⟩
        omega
  | within op _ inside inductionHypothesis =>
      intro later
      rw [now_within inside] at later
      obtain ⟨newer, older, middle, rfl, now, first, second⟩ :=
        inductionHypothesis later
      exact ⟨_, older, middle, rfl, now, first, second.within op inside⟩

end Seconds

/-- As long as an entry waits, every booking window serves as many of those
in front of it as the room has slots. -/
theorem slots_mul_le_ahead {room : WaitingRoomConfig}
    (window : 1 ≤ room.bookingWindow) (windows : Nat)
    {origin db : QueueStore} {past history : List (QueueStore × QueueOp)}
    {entry : Nat × UserId}
    (numbers : Numbered room.eventId past origin)
    (short : TokensWithin room origin)
    (there : entry ∈ (queue origin room.eventId).entries)
    (run : Seconds room origin history db)
    (few : (effectiveJoins room.eventId (history ++ past)).length < 2 ^ 53)
    (later : origin.now + 1000 * (windows * room.bookingWindow) ≤ db.now)
    (still : entry ∈ (queue db room.eventId).entries) :
    windows * room.maxConcurrent ≤
      (ahead origin room.eventId entry : Int) := by
  induction windows generalizing origin past history with
  | zero => simp
  | succ windows inductionHypothesis =>
      obtain ⟨span, sameSpan⟩ : ∃ span : Nat, room.bookingWindow = span :=
        Int.eq_ofNat_of_zero_le (by omega)
      have oneMore : ((windows + 1 : Nat) : Int) * room.bookingWindow =
          windows * room.bookingWindow + room.bookingWindow := by
        push_cast
        rw [add_mul, one_mul]
      have nonneg : 0 ≤ (windows : Int) * room.bookingWindow :=
        Int.mul_nonneg (Int.natCast_nonneg _) (by omega)
      have passed : origin.now + 1000 * span ≤ db.now := by
        rw [oneMore] at later
        omega
      obtain ⟨newer, older, middle, rfl, now, first, second⟩ :=
        run.split window (by omega : 0 < span) passed
      rw [List.append_assoc] at few
      have fewBefore := lt_of_le_of_lt
        (length_effectiveJoins_append room.eventId newer (older ++ past)) few
      have numbersBetween := numbers.run first.trace fewBefore
      have between : entry ∈ (queue (admitUsers room.admitInput middle).2
          room.eventId).entries := by
        have counted := (numbers.entry_of_run first.trace fewBefore).1
        have bounded := numbers.below entry there
        rcases (numbersBetween.entry_of_run second.trace few).2 entry still
          with old | new
        · exact old
        · omega
      obtain ⟨taken, since⟩ :=
        first.window window numbers short there fewBefore between
      have served : room.maxConcurrent ≤ (taken.length : Int) := by
        apply since.slots_le window _ between
        omega
      obtain ⟨admitted, admits⟩ :=
        admitUsers_admits room.admitInput window middle
      have nowBetween : (admitUsers room.admitInput middle).2.now =
          middle.now := admits.now
      have rest := inductionHypothesis numbersBetween
        (first.tokensWithin window short) between second few
        (by rw [oneMore] at later; omega)
      have count := since.ahead
      push_cast
      rw [add_mul, one_mul]
      omega

/-! ## The estimate -/

/-- The windows of an estimate have a slot for every position up to the
user's own. -/
theorem le_windows_mul {position slots : Int} (positive : 1 ≤ slots) :
    position ≤ -(Int.fdiv (-position) slots) * slots := by
  have below : Int.fdiv (-position) slots * slots ≤ -position := by
    rw [Int.fdiv_eq_ediv_of_nonneg _ (by omega)]
    exact Int.ediv_mul_le _ (by omega)
  rw [neg_mul]
  omega

/-- No token of the event exists before its first admission. -/
theorem noToken_of_noAdmit {eventId : EventId} {origin : Instant}
    {db : QueueStore} {past : List (QueueStore × QueueOp)}
    (run : Trace queueStep (QueueStore.empty origin) past db)
    (noAdmit : StepsMeet (fun _ op => op.NoAdmitFor eventId) past)
    (userId : UserId) : tokenEntry db eventId userId = none := by
  refine Trace.invariantUnder (fun _ op => op.NoAdmitFor eventId)
    (fun current => tokenEntry current eventId userId = none) rfl ?_ run
    noAdmit
  intro before op after without other stepped
  cases stepped
  cases op with
  | tick elapsed =>
      have missing : before.find (.tokenKey eventId userId) = none := without
      have later := Db.find_tick before.toDb elapsed (.tokenKey eventId userId)
      rw [missing] at later
      exact later
  | join event user =>
      have inside : QueueOp.WithinSecond eventId (.join event user) := trivial
      have same : tokenEntry (QueueOp.apply before (.join event user)) eventId
          userId = tokenEntry before eventId userId :=
        token_within inside userId
      exact same.trans without
  | admitUsers input =>
      have inside : QueueOp.WithinSecond eventId (.admitUsers input) := other
      have same : tokenEntry (QueueOp.apply before (.admitUsers input)) eventId
          userId = tokenEntry before eventId userId :=
        token_within inside userId
      exact same.trans without
  | getStatus event user => exact without

/-- Every second of the room begins with an admission cycle.  An entry that
waits when its user is told an estimate has left the queue when the cycle of
the estimated second is over. -/
theorem left_queue_of_estimate {room : WaitingRoomConfig}
    (slots : 1 ≤ room.maxConcurrent) (window : 1 ≤ room.bookingWindow)
    {origin : Instant} {start told db : QueueStore}
    {past before after : List (QueueStore × QueueOp)}
    (first : Trace queueStep (QueueStore.empty origin) past start)
    (noAdmit : StepsMeet (fun _ op => op.NoAdmitFor room.eventId) past)
    (older : Seconds room start before told)
    {rooms : WaitingRooms} {userId : UserId} {position : Nat} {wait : Int}
    (answered : joinAnswer rooms told room room.eventId userId =
      .finished (.ok ⟨position, some wait⟩))
    (newer : Seconds room (join room.eventId userId told).2 after db)
    (few : (effectiveJoins room.eventId (after ++
      (told, .join room.eventId userId) :: (before ++ past))).length < 2 ^ 53)
    (later : told.now + 1000 * wait ≤ db.now) (number : Nat)
    (waits : (number, userId) ∈
      (queue (join room.eventId userId told).2 room.eventId).entries) :
    (number, userId) ∉ (queue db room.eventId).entries := by
  intro still
  have fewTold := lt_of_le_of_lt
    (length_effectiveJoins_append room.eventId after _) few
  have fewBefore := lt_of_le_of_lt
    (length_effectiveJoins_le room.eventId told _ (before ++ past)) fewTold
  have fewPast := lt_of_le_of_lt
    (length_effectiveJoins_append room.eventId before past) fewBefore
  have numbers := (numbered_of_run first fewPast).run older.trace fewBefore
  have numbersAfter := numbers.apply fewTold
  have short : TokensWithin room start := by
    intro user token found
    rw [noToken_of_noAdmit first noAdmit user] at found
    cases found
  have joins : QueueOp.WithinSecond room.eventId
      (.join room.eventId userId) := trivial
  have shortAfter : TokensWithin room (join room.eventId userId told).2 :=
    (older.tokensWithin window short).within joins
  have sameNow : (join room.eventId userId told).2.now = told.now :=
    now_within joins
  have answer := numbers.joinAnswer_eq rooms room fewTold
  rw [answered] at answer
  injection answer with sameOutput
  injection sameOutput with sameOutput
  injection sameOutput with samePosition sameWait
  have isPlace : ahead (join room.eventId userId told).2 room.eventId
      (number, userId) + 1 = position := by
    rw [samePosition]
    exact (numbersAfter.countP_entries waits).symm
  rw [estimatedWaitSec, if_neg (by omega), ← samePosition,
    Option.some.injEq] at sameWait
  have enough : (position : Int) ≤
      -(Int.fdiv (-(position : Int)) room.maxConcurrent) *
        room.maxConcurrent := le_windows_mul slots
  generalize -(Int.fdiv (-(position : Int)) room.maxConcurrent) = served
    at sameWait enough
  obtain ⟨windows, rfl⟩ : ∃ windows : Nat, served = windows := by
    apply Int.eq_ofNat_of_zero_le
    by_contra negative
    have below : served * room.maxConcurrent ≤ 0 :=
      Int.mul_nonpos_of_nonpos_of_nonneg (by omega) (by omega)
    omega
  have bounded := slots_mul_le_ahead window windows numbersAfter shortAfter
    waits newer few (by rw [QueueOp.apply, sameNow, ← sameWait]; exact later)
    still
  have applied : ahead (QueueOp.apply told (.join room.eventId userId))
      room.eventId (number, userId) =
        ahead (join room.eventId userId told).2 room.eventId
          (number, userId) := rfl
  omega

def shortRoom : WaitingRoomConfig := ⟨1, 1, 2⟩

def secondLater (db : QueueStore) : QueueStore :=
  (admitUsers shortRoom.admitInput db.nextSecond).2

def slotTaken : QueueStore := secondLater (join 1 11 (QueueStore.empty 0)).2

private theorem joinAnswer_slotTaken :
    joinAnswer noRooms slotTaken shortRoom 1 10 =
      .finished (.ok ⟨1, some 2⟩) := by
  decide +kernel

theorem left_queue_slotTaken :
    (2, 10) ∉ (queue
      (secondLater (secondLater (join 1 10 slotTaken).2)) 1).entries := by
  have joins : queueStep (QueueStore.empty 0) (.join 1 11) =
      some (join 1 11 (QueueStore.empty 0)).2 := rfl
  refine left_queue_of_estimate (by decide) (by decide)
    (Trace.nil.snoc joins) ?_ (Seconds.start.cycle) joinAnswer_slotTaken
    (Seconds.start.cycle.cycle) ?_ ?_ 2 ?_
  · intro entry member
    rw [List.mem_singleton.mp member]
    exact trivial
  · decide +kernel
  · decide +kernel
  · decide +kernel

end ConcertTicketing.Queue
