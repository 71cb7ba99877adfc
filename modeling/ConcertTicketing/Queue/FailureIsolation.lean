import ConcertTicketing.Queue.Admission
import ConcertTicketing.Queue.Fifo
import ConcertTicketing.Queue.UseCases

/-!
# An error in an admission cycle

The cycle admits for one open room after the other and catches no error, and
`ADMIT_LUA` pops a user before it writes the token.  An admit works on the
part of the store that belongs to its event and leaves the other events alone,
so what an error does can be said exactly: the rooms behind the failing one
are as if they had not been open, and a script that ends at its `SET` has lost
the head of its queue.
-/

namespace ConcertTicketing.Queue

open Redis

@[ext]
structure EventView where
  now : Instant
  queue : SortedSet Nat UserId
  seq : Option (Entry Nat)
  token : UserId → Option (Entry Nat)
  active : Finset UserId

def viewOf (db : QueueStore) (eventId : EventId) : EventView :=
  ⟨db.now, queue db eventId, seqEntry db eventId, tokenEntry db eventId,
    activeUsers db eventId⟩

/-- The active users that the sweep of an admit leaves. -/
def liveActive (db : QueueStore) (eventId : EventId) : Finset UserId :=
  (activeUsers db eventId).filter (HasToken db eventId)

section Views

variable {first second : QueueStore} {eventId : EventId}

private theorem waiting_congr
    (same : viewOf first eventId = viewOf second eventId) :
    waiting first eventId = waiting second eventId :=
  congrArg (fun view => view.queue.members) same

/-- What two stores with one view have in common besides the active users. -/
theorem fields_of_viewOf (same : viewOf first eventId = viewOf second eventId) :
    first.now = second.now ∧ queue first eventId = queue second eventId ∧
      seqEntry first eventId = seqEntry second eventId ∧
      tokenEntry first eventId = tokenEntry second eventId :=
  ⟨congrArg EventView.now same, congrArg EventView.queue same,
    congrArg EventView.seq same, congrArg EventView.token same⟩

private theorem hasToken_congr
    (same : viewOf first eventId = viewOf second eventId) (userId : UserId) :
    HasToken first eventId userId ↔ HasToken second eventId userId := by
  obtain ⟨_, _, _, sameTokens⟩ := fields_of_viewOf same
  have sameToken : tokenEntry first eventId userId =
      tokenEntry second eventId userId := congrFun sameTokens userId
  rw [HasToken, sameToken]
  rfl

private theorem activeUsers_congr
    (same : viewOf first eventId = viewOf second eventId) :
    activeUsers first eventId = activeUsers second eventId :=
  congrArg EventView.active same

private theorem liveActive_congr
    (same : viewOf first eventId = viewOf second eventId) :
    liveActive first eventId = liveActive second eventId := by
  rw [liveActive, liveActive, activeUsers_congr same]
  apply Finset.filter_congr
  intro user _
  exact hasToken_congr same user

end Views

section Frame

variable {input : AdmitInput} {db after : QueueStore} {userId : UserId}
  {other : EventId}

theorem Swept.frame {eventId : EventId} (sweeps : Swept eventId db after)
    (different : other ≠ eventId) : viewOf after other = viewOf db other := by
  have sameQueue : queue after other = queue db other :=
    congrFun sweeps.zsets _
  have sameToken : tokenEntry after other = tokenEntry db other := by
    funext user
    exact sweeps.find _
  have sameActive : activeUsers after other = activeUsers db other := by
    rw [sweeps.active, if_neg different]
  have sameSeq : seqEntry after other = seqEntry db other := sweeps.find _
  rw [viewOf, sweeps.now, sameQueue, sameSeq, sameToken, sameActive]
  rfl

theorem Issued.frame (issued : Issued input userId db after)
    (different : other ≠ input.eventId) :
    viewOf after other = viewOf db other := by
  have sameToken : tokenEntry after other = tokenEntry db other := by
    funext user
    rw [issued.token, if_neg fun given => different given.1]
  have sameActive : activeUsers after other = activeUsers db other := by
    rw [issued.active, if_neg different]
  rw [viewOf, issued.now, issued.others other different, issued.seq,
    sameToken, sameActive]
  rfl

theorem Lost.frame (lost : Lost input userId db after)
    (different : other ≠ input.eventId) :
    viewOf after other = viewOf db other := by
  have sameToken : tokenEntry after other = tokenEntry db other := by
    funext user
    exact lost.token other user
  rw [viewOf, lost.now, lost.others other different, lost.seq, sameToken,
    lost.active]
  rfl

theorem Rounds.frame {start : QueueStore} {admitted : List UserId}
    (rounds : Rounds input start admitted db)
    (different : other ≠ input.eventId) :
    viewOf db other = viewOf start other := by
  induction rounds with
  | none => rfl
  | next _ issued inductionHypothesis =>
      rw [issued.frame different, inductionHypothesis]

end Frame

theorem admitUsers_frame (input : AdmitInput) (db : QueueStore)
    {other : EventId} (different : other ≠ input.eventId) :
    viewOf (admitUsers input db).2 other = viewOf db other := by
  obtain ⟨swept, sweeps, ends⟩ := admitUsers_ends input db
  generalize admitUsers input db = result at ends
  cases ends with
  | ended admitted last rounds =>
      rw [rounds.frame different, sweeps.frame different]
  | failed admitted last after userId rounds lost =>
      rw [lost.frame different, rounds.frame different,
        sweeps.frame different]

theorem Swept.view {eventId : EventId} {db swept : QueueStore}
    (sweeps : Swept eventId db swept) :
    viewOf swept eventId =
      ⟨db.now, queue db eventId, seqEntry db eventId, tokenEntry db eventId,
        liveActive db eventId⟩ := by
  have sameQueue : queue swept eventId = queue db eventId :=
    congrFun sweeps.zsets _
  have sameToken : tokenEntry swept eventId = tokenEntry db eventId := by
    funext user
    exact sweeps.find _
  have sameSeq : seqEntry swept eventId = seqEntry db eventId :=
    sweeps.find _
  rw [viewOf, sweeps.now, sameQueue, sameSeq, sameToken, sweeps.active,
    if_pos rfl]
  rfl

section Locality

variable {input : AdmitInput} {first second firstAfter secondAfter : QueueStore}
  {firstUser secondUser : UserId}

private theorem swept_congr {eventId : EventId}
    (same : viewOf first eventId = viewOf second eventId)
    (firstSweeps : Swept eventId first firstAfter)
    (secondSweeps : Swept eventId second secondAfter) :
    viewOf firstAfter eventId = viewOf secondAfter eventId := by
  obtain ⟨sameNow, sameQueue, sameSeq, sameToken⟩ := fields_of_viewOf same
  rw [firstSweeps.view, secondSweeps.view, sameNow, sameQueue, sameSeq,
    sameToken, liveActive_congr same]

/-- The head of the queue and the rest of it are read off the view. -/
theorem popped_congr {eventId : EventId}
    (same : viewOf first eventId = viewOf second eventId)
    (firstPops : Popped eventId firstUser first firstAfter)
    (secondPops : Popped eventId secondUser second secondAfter) :
    firstUser = secondUser ∧
      queue firstAfter eventId = queue secondAfter eventId := by
  obtain ⟨firstScore, firstEntries⟩ := firstPops.entries
  obtain ⟨secondScore, secondEntries⟩ := secondPops.entries
  obtain ⟨_, sameQueue, _, _⟩ := fields_of_viewOf same
  rw [sameQueue, secondEntries] at firstEntries
  obtain ⟨sameHead, sameRest⟩ := List.cons.inj firstEntries
  exact ⟨(congrArg Prod.snd sameHead).symm,
    SortedSet.eq_of_entries_eq sameRest.symm⟩

private theorem issued_congr
    (same : viewOf first input.eventId = viewOf second input.eventId)
    (firstIssued : Issued input firstUser first firstAfter)
    (secondIssued : Issued input secondUser second secondAfter) :
    firstUser = secondUser ∧
      viewOf firstAfter input.eventId = viewOf secondAfter input.eventId := by
  obtain ⟨rfl, sameRest⟩ :=
    popped_congr same firstIssued.toPopped secondIssued.toPopped
  refine ⟨rfl, ?_⟩
  obtain ⟨sameNow, _, sameSeq, sameTokens⟩ := fields_of_viewOf same
  have sameTokensAfter : tokenEntry firstAfter input.eventId =
      tokenEntry secondAfter input.eventId := by
    funext user
    rw [firstIssued.token, secondIssued.token, sameTokens, Db.deadlineIn,
      Db.deadlineIn, sameNow]
  have sameActive : activeUsers firstAfter input.eventId =
      activeUsers secondAfter input.eventId := by
    rw [firstIssued.active, secondIssued.active, if_pos rfl, if_pos rfl,
      activeUsers_congr same]
  rw [viewOf, viewOf, firstIssued.now, secondIssued.now, sameNow, sameRest,
    firstIssued.seq, secondIssued.seq, sameSeq, sameTokensAfter, sameActive]

private theorem lost_congr
    (same : viewOf first input.eventId = viewOf second input.eventId)
    (firstLost : Lost input firstUser first firstAfter)
    (secondLost : Lost input secondUser second secondAfter) :
    viewOf firstAfter input.eventId = viewOf secondAfter input.eventId := by
  have sameRest :=
    (popped_congr same firstLost.toPopped secondLost.toPopped).2
  obtain ⟨sameNow, _, sameSeq, sameTokens⟩ := fields_of_viewOf same
  have sameTokensAfter : tokenEntry firstAfter input.eventId =
      tokenEntry secondAfter input.eventId := by
    funext user
    rw [firstLost.token, secondLost.token, sameTokens]
  rw [viewOf, viewOf, firstLost.now, secondLost.now, sameNow, sameRest,
    firstLost.seq, secondLost.seq, sameSeq, sameTokensAfter,
    firstLost.active, secondLost.active, activeUsers_congr same]

private theorem admitRound_eq_none_congr
    (same : viewOf first input.eventId = viewOf second input.eventId) :
    admitRound input first = none ↔ admitRound input second = none := by
  rw [admitRound_eq_none_iff, admitRound_eq_none_iff, activeUsers_congr same,
    waiting_congr same]

end Locality

def loopOf (input : AdmitInput) :
    Nat → List UserId → QueueStore →
      Except ScriptError (List UserId) × QueueStore :=
  admitLoop (.queueKey input.eventId) (.activeKey input.eventId)
    (.tokenKey input.eventId) input.cap input.ttlSeconds

private theorem loopOf_congr (input : AdmitInput) (fuel : Nat) :
    ∀ (admitted : List UserId) (first second : QueueStore),
      viewOf first input.eventId = viewOf second input.eventId →
      (loopOf input fuel admitted first).1 =
        (loopOf input fuel admitted second).1 ∧
      viewOf (loopOf input fuel admitted first).2 input.eventId =
        viewOf (loopOf input fuel admitted second).2 input.eventId := by
  induction fuel with
  | zero =>
      intro admitted first second same
      exact ⟨rfl, same⟩
  | succ fuel inductionHypothesis =>
      intro admitted first second same
      cases firstRound : admitRound input first with
      | none =>
          have secondRound := (admitRound_eq_none_congr same).mp firstRound
          unfold admitRound at firstRound secondRound
          simp only [loopOf, admitLoop, firstRound, secondRound]
          exact ⟨trivial, same⟩
      | some firstAnswer =>
          cases secondRound : admitRound input second with
          | none =>
              have noRound := (admitRound_eq_none_congr same).mpr secondRound
              rw [firstRound] at noRound
              cases noRound
          | some secondAnswer =>
              obtain ⟨firstAnswer, firstAfter⟩ := firstAnswer
              obtain ⟨secondAnswer, secondAfter⟩ := secondAnswer
              have firstCases := admitRound_cases firstRound
              have secondCases := admitRound_cases secondRound
              unfold admitRound at firstRound secondRound
              simp only [loopOf, admitLoop, firstRound, secondRound]
              rcases firstCases with
                ⟨firstUser, ⟨rfl, firstIssued⟩ | ⟨rfl, firstLost⟩⟩ <;>
              rcases secondCases with
                ⟨secondUser, ⟨rfl, secondIssued⟩ | ⟨rfl, secondLost⟩⟩
              · obtain ⟨rfl, sameAfter⟩ :=
                  issued_congr same firstIssued secondIssued
                exact inductionHypothesis _ _ _ sameAfter
              · exact absurd firstIssued.positive secondLost.nonpositive
              · exact absurd secondIssued.positive firstLost.nonpositive
              · exact ⟨rfl, lost_congr same firstLost secondLost⟩

/-- The answer of an admit and what it leaves of its event depend on its event
only. -/
theorem admitUsers_congr {input : AdmitInput} {first second : QueueStore}
    (same : viewOf first input.eventId = viewOf second input.eventId) :
    (admitUsers input first).1 = (admitUsers input second).1 ∧
      viewOf (admitUsers input first).2 input.eventId =
        viewOf (admitUsers input second).2 input.eventId := by
  have sameSwept := swept_congr same (swept_smembers input.eventId first)
    (swept_smembers input.eventId second)
  have sameCard := congrArg (fun view => view.queue.card) sameSwept
  unfold admitUsers admitLua
  simp only [viewOf, queue] at sameCard
  simp only [sameCard]
  exact loopOf_congr input _ _ _ _ sameSwept

/-- The script ends at its `SET`: there is a free slot and somebody to pop,
and the expiry is not positive. -/
def ScriptFails (room : WaitingRoomConfig) (db : QueueStore) : Prop :=
  room.bookingWindow ≤ 0 ∧
    ((liveActive db room.eventId).card : Int) < room.maxConcurrent ∧
    waiting db room.eventId ≠ []

instance (room : WaitingRoomConfig) (db : QueueStore) :
    Decidable (ScriptFails room db) :=
  inferInstanceAs (Decidable (_ ∧ _ ∧ _))

/-- There is nobody to clean away and nobody to admit. -/
def Idle (room : WaitingRoomConfig) (db : QueueStore) : Prop :=
  (∀ userId ∈ activeUsers db room.eventId,
    HasToken db room.eventId userId) ∧
  (room.maxConcurrent ≤ ((activeUsers db room.eventId).card : Int) ∨
    waiting db room.eventId = [])

instance (room : WaitingRoomConfig) (db : QueueStore) :
    Decidable (Idle room db) :=
  inferInstanceAs (Decidable (_ ∧ _))

/-- The sweep of an admit, and its first round. -/
theorem admitUsers_unfold (input : AdmitInput) (db : QueueStore) :
    ∃ swept, Swept input.eventId db swept ∧
      (admitRound input swept = none →
        admitUsers input db = (.ok [], swept)) ∧
      ∀ failed after, admitRound input swept = some (.error failed, after) →
        admitUsers input db = (.error failed, after) := by
  refine ⟨_, swept_smembers input.eventId db, ?_, ?_⟩
  · intro noRound
    unfold admitRound at noRound
    simp only [admitUsers, admitLua, admitLoop, noRound]
  · intro failed after fails
    unfold admitRound at fails
    simp only [admitUsers, admitLua, admitLoop, fails]

/-- An admit whose expiry is not positive ends at its first round. -/
theorem admitUsers_of_nonpositive {input : AdmitInput}
    (nonpositive : ¬ 0 < input.ttlSeconds) (db : QueueStore) :
    ∃ swept, Swept input.eventId db swept ∧
      ((admitRound input swept = none ∧
          admitUsers input db = (.ok [], swept)) ∨
        ∃ userId after, admitRound input swept ≠ none ∧
          Lost input userId swept after ∧
          admitUsers input db = (.error .invalidExpireTime, after)) := by
  obtain ⟨swept, sweeps, noRound, fails⟩ := admitUsers_unfold input db
  refine ⟨swept, sweeps, ?_⟩
  cases round : admitRound input swept with
  | none => exact Or.inl ⟨rfl, noRound round⟩
  | some answered =>
      obtain ⟨answer, after⟩ := answered
      obtain ⟨userId, ⟨_, issued⟩ | ⟨rfl, lost⟩⟩ := admitRound_cases round
      · exact absurd issued.positive nonpositive
      · exact Or.inr ⟨userId, after, nofun, lost, fails _ _ round⟩

private theorem admitRound_swept {room : WaitingRoomConfig}
    {db swept : QueueStore} (sweeps : Swept room.eventId db swept) :
    admitRound room.admitInput swept = none ↔
      room.maxConcurrent ≤ ((liveActive db room.eventId).card : Int) ∨
        waiting db room.eventId = [] := by
  have sameActive : activeUsers swept room.eventId =
      liveActive db room.eventId := by
    rw [sweeps.active, if_pos rfl]
    rfl
  have sameWaiting : waiting swept room.eventId = waiting db room.eventId := by
    rw [waiting, queue, sweeps.zsets]
    rfl
  rw [admitRound_eq_none_iff]
  simp only [WaitingRoomConfig.admitInput, sameActive, sameWaiting]

/-- A script that fails has lost the head of the queue, and done nothing else
to queue and tokens. -/
theorem lost_of_scriptFails {room : WaitingRoomConfig} {db : QueueStore}
    (fails : ScriptFails room db) :
    ∃ swept userId, Swept room.eventId db swept ∧
      Lost room.admitInput userId swept (admitUsers room.admitInput db).2 ∧
      (admitUsers room.admitInput db).1 = .error .invalidExpireTime := by
  obtain ⟨noWindow, free, someone⟩ := fails
  have nonpositive : ¬ 0 < room.admitInput.ttlSeconds :=
    Int.not_lt.mpr noWindow
  obtain ⟨swept, sweeps, ⟨noRound, _⟩ | ⟨userId, after, _, lost, same⟩⟩ :=
    admitUsers_of_nonpositive nonpositive db
  · rcases (admitRound_swept sweeps).mp noRound with full | nobody
    · omega
    · exact absurd nobody someone
  · rw [same]
    exact ⟨swept, userId, sweeps, lost, rfl⟩

/-- The script succeeds unless it ends at its `SET`. -/
theorem ok_of_not_scriptFails {room : WaitingRoomConfig} {db : QueueStore}
    (succeeds : ¬ ScriptFails room db) :
    ∃ admitted, (admitUsers room.admitInput db).1 = .ok admitted := by
  obtain ⟨swept, sweeps, ends⟩ := admitUsers_ends room.admitInput db
  generalize run : admitUsers room.admitInput db = result at ends
  cases ends with
  | ended admitted last rounds noRound => exact ⟨admitted, rfl⟩
  | failed admitted last after userId rounds lost =>
      exfalso
      apply succeeds
      obtain ⟨swept, sweeps, ⟨_, same⟩ | ⟨_, _, round, _, _⟩⟩ :=
        admitUsers_of_nonpositive lost.nonpositive db
      · rw [run] at same
        cases same
      · rw [ne_eq, admitRound_swept sweeps, not_or] at round
        exact ⟨Int.not_lt.mp lost.nonpositive, Int.not_le.mp round.1, round.2⟩

/-- An admit leaves its event as it is exactly when it is idle. -/
theorem view_admitUsers_eq_iff (room : WaitingRoomConfig) (db : QueueStore) :
    viewOf (admitUsers room.admitInput db).2 room.eventId =
        viewOf db room.eventId ↔
      Idle room db := by
  have allLive : (∀ userId ∈ activeUsers db room.eventId,
      HasToken db room.eventId userId) ↔
        liveActive db room.eventId = activeUsers db room.eventId :=
    Finset.filter_eq_self.symm
  rw [Idle, allLive]
  constructor
  · intro same
    obtain ⟨swept, sweepsEvent, ends⟩ := admitUsers_ends room.admitInput db
    have sweeps : Swept room.eventId db swept := sweepsEvent
    have sweptWaiting : waiting swept room.eventId =
        waiting db room.eventId := by
      rw [waiting, queue, sweeps.zsets]
      rfl
    have sameWaiting := waiting_congr same
    have sameActive := activeUsers_congr same
    generalize admitUsers room.admitInput db = result at *
    cases ends with
    | ended admitted last rounds noRound =>
        have inOrder : admitted ++ waiting last room.eventId =
            waiting swept room.eventId := rounds.takenFrom.inOrder
        rw [sweptWaiting, sameWaiting] at inOrder
        have nobody : admitted = [] := List.append_left_eq_self.mp inOrder
        subst nobody
        have unmoved : last = swept := by
          generalize noUsers : ([] : List UserId) = users at rounds
          cases rounds with
          | none => rfl
          | next _ _ => simp at noUsers
        subst unmoved
        have sweptActive : activeUsers last room.eventId =
            liveActive db room.eventId :=
          congrArg EventView.active sweeps.view
        have live : liveActive db room.eventId =
            activeUsers db room.eventId := sweptActive.symm.trans sameActive
        refine ⟨live, ?_⟩
        rw [← live]
        exact (admitRound_swept sweeps).mp noRound
    | failed admitted last after userId rounds lost =>
        exfalso
        have inOrder : admitted ++ waiting last room.eventId =
            waiting swept room.eventId := rounds.takenFrom.inOrder
        have head : waiting last room.eventId =
            userId :: waiting after room.eventId := lost.toPopped.waiting
        have unpopped : waiting after room.eventId =
            waiting db room.eventId := sameWaiting
        have lengths := congrArg List.length inOrder
        rw [head, sweptWaiting, ← unpopped, List.length_append,
          List.length_cons] at lengths
        omega
  · rintro ⟨live, full⟩
    obtain ⟨swept, sweepsEvent, noRound, _⟩ :=
      admitUsers_unfold room.admitInput db
    have sweeps : Swept room.eventId db swept := sweepsEvent
    have unchanged : viewOf swept room.eventId = viewOf db room.eventId := by
      rw [sweeps.view, live]
      rfl
    rw [noRound ((admitRound_swept sweeps).mpr (live ▸ full))]
    exact unchanged

private theorem Rounds.hasToken_of_mem {input : AdmitInput}
    {start db : QueueStore} {admitted : List UserId}
    (rounds : Rounds input start admitted db) :
    ∀ userId ∈ admitted, HasToken db input.eventId userId := by
  induction rounds with
  | none => nofun
  | next _ issued inductionHypothesis =>
      intro user member
      rw [issued.hasToken_iff]
      rcases List.mem_append.mp member with earlier | new
      · exact Or.inr (inductionHypothesis user earlier)
      · exact Or.inl ⟨rfl, List.mem_singleton.mp new⟩

/-- Every user who left the queue of the event holds a token. -/
def LeaversHoldTokens (eventId : EventId) (before after : QueueStore) :
    Prop :=
  ∀ userId ∈ waiting before eventId, userId ∉ waiting after eventId →
    HasToken after eventId userId

private theorem leaversHoldTokens_of_ok {room : WaitingRoomConfig}
    {db : QueueStore} (succeeds : ¬ ScriptFails room db) :
    LeaversHoldTokens room.eventId db (admitUsers room.admitInput db).2 := by
  intro userId waited left
  obtain ⟨admitted, answered⟩ := ok_of_not_scriptFails succeeds
  obtain ⟨swept, sweepsEvent, ends⟩ := admitUsers_ends room.admitInput db
  have sweeps : Swept room.eventId db swept := sweepsEvent
  generalize admitUsers room.admitInput db = result at *
  cases ends with
  | ended users last rounds noRound =>
      have inOrder : users ++ waiting last room.eventId =
          waiting swept room.eventId := rounds.takenFrom.inOrder
      rw [waiting, waiting, queue, queue, sweeps.zsets] at inOrder
      have listed : userId ∈ users ++ waiting last room.eventId := by
        rw [waiting, queue, inOrder]
        exact waited
      rcases List.mem_append.mp listed with user | still
      · exact rounds.hasToken_of_mem userId user
      · exact absurd still left
  | failed users last after user rounds lost => cases answered

/-- After a failed script only the head of the queue has left it. -/
theorem leaversHoldTokens_of_scriptFails {room : WaitingRoomConfig}
    {db : QueueStore} (fails : ScriptFails room db) :
    LeaversHoldTokens room.eventId db (admitUsers room.admitInput db).2 ↔
      ∀ userId ∈ (waiting db room.eventId).head?,
        HasToken db room.eventId userId := by
  obtain ⟨swept, head, sweeps, lost, _⟩ := lost_of_scriptFails fails
  generalize (admitUsers room.admitInput db).2 = after at lost
  have popped : Popped room.eventId head swept after := lost.toPopped
  have waitingBefore : waiting db room.eventId =
      head :: waiting after room.eventId := by
    have sweptWaiting := popped.waiting
    rw [waiting, queue, sweeps.zsets] at sweptWaiting
    exact sweptWaiting
  have sameToken : HasToken after room.eventId head ↔
      HasToken db room.eventId head :=
    (lost.hasToken_iff _ _).trans (sweeps.hasToken_iff _ _)
  constructor
  · intro holds userId first
    rw [waitingBefore, List.head?_cons, Option.mem_some_iff] at first
    subst first
    apply sameToken.mp
    apply holds
    · rw [waitingBefore]
      exact List.mem_cons_self
    · exact popped.head_notMem_waiting
  · intro headHolds userId waited left
    rw [waitingBefore] at waited
    rcases List.mem_cons.mp waited with rfl | still
    · apply sameToken.mpr
      apply headHolds
      rw [waitingBefore]
      rfl
    · exact absurd still left

/-! ## The cycle on its own -/

/-- An error in the admit of a room: of the query for the room, or of the
call of the script, which may have run all the same. -/
inductive Fault where
  | query
  | script (applied : Bool)
  deriving DecidableEq, Repr

abbrev Faults := EventId → Option Fault

/-- How the pending call of the cycle ends. -/
def stageOutcome (faults : Faults) : AdmissionStage → Await
  | .listOpenRooms => .resolves
  | .getOpenRoom eventId _ =>
      match faults eventId with
      | some .query => .rejects false
      | _ => .resolves
  | .admitUsers room _ =>
      match faults room.eventId with
      | some (.script applied) => .rejects applied
      | _ => .resolves

def cycleOutcome (faults : Faults) : QueueCall → Await
  | .admission ⟨_, .running stage⟩ => stageOutcome faults stage
  | _ => .resolves

def cycleStart : QueueCall := acceptRequest .admissionTick

def admitRooms (faults : Faults) :
    List WaitingRoomConfig → QueueStore → AdmissionProgress × QueueStore
  | [], db => (.finished (), db)
  | room :: rest, db =>
      match faults room.eventId with
      | some .query => (.failed (.getOpenRoom room.eventId rest) false, db)
      | some (.script false) => (.failed (.admitUsers room rest) false, db)
      | some (.script true) =>
          (.failed (.admitUsers room rest) true,
            (admitUsers room.admitInput db).2)
      | none =>
          match admitUsers room.admitInput db with
          | (.error _, after) => (.failed (.admitUsers room rest) true, after)
          | (.ok _, after) => admitRooms faults rest after

private theorem goOn_getOpenRoom {rooms : WaitingRooms}
    {room : WaitingRoomConfig} (rest : List WaitingRoomConfig)
    (opened : rooms.getOpenRoom room.eventId = some room) (db : QueueStore) :
    Call.goOn queueServer.perform (fun _ : Unit => admissionCycle) ()
        (.getOpenRoom room.eventId rest) ⟨rooms, db⟩ .resolves =
      .running (.admitUsers room rest) := by
  simp only [Call.goOn, admissionCycle, queueServer, perform, opened]

private theorem goOn_admitUsers (rooms : WaitingRooms)
    (room : WaitingRoomConfig) (rest : List WaitingRoomConfig)
    (db : QueueStore) :
    Call.goOn queueServer.perform (fun _ : Unit => admissionCycle) ()
        (.admitUsers room rest) ⟨rooms, db⟩ .resolves =
      match (admitUsers room.admitInput db).1 with
      | .error _ => .failed (.admitUsers room rest) true
      | .ok _ => nextRoom rest := by
  simp only [Call.goOn, admissionCycle, queueServer, perform]
  cases (admitUsers room.admitInput db).1 <;> rfl

private theorem perform_admitUsers (rooms : WaitingRooms)
    (room : WaitingRoomConfig) (rest : List WaitingRoomConfig)
    (db : QueueStore) :
    (queueServer.perform (admissionCycle (.admitUsers room rest)).command
        ⟨rooms, db⟩).2 =
      ⟨rooms, (admitUsers room.admitInput db).2⟩ := rfl

/-- The query for a room that does not fail finds the room. -/
theorem ends_query {rooms : WaitingRooms} {faults : Faults}
    {room : WaitingRoomConfig} {rest : List WaitingRoomConfig}
    (opened : rooms.getOpenRoom room.eventId = some room)
    (answers : faults room.eventId ≠ some .query) {db : QueueStore}
    {after : QueueStores} {last : QueueCall}
    (goesOn : queueServer.Ends (cycleOutcome faults) ⟨rooms, db⟩
      (.admission ⟨(), .running (.admitUsers room rest)⟩) after last) :
    queueServer.Ends (cycleOutcome faults) ⟨rooms, db⟩
      (.admission ⟨(), nextRoom (room :: rest)⟩) after last := by
  refine hosts_admission.ends_next .resolves ?_ ?_
  · simp only [cycleOutcome, stageOutcome]
  · rw [goOn_getOpenRoom rest opened]
    exact goesOn

private theorem ends_nextRoom (rooms : WaitingRooms) (faults : Faults)
    (todo : List WaitingRoomConfig) :
    (∀ room ∈ todo, rooms.getOpenRoom room.eventId = some room) →
    ∀ db : QueueStore,
      queueServer.Ends (cycleOutcome faults) ⟨rooms, db⟩
        (.admission ⟨(), nextRoom todo⟩)
        ⟨rooms, (admitRooms faults todo db).2⟩
        (.admission ⟨(), (admitRooms faults todo db).1⟩) := by
  induction todo with
  | nil =>
      intro _ db
      exact .ended rfl
  | cons room rest inductionHypothesis =>
      intro listed db
      obtain ⟨opened, others⟩ := List.forall_mem_cons.mp listed
      have goesOn := inductionHypothesis others
      cases fault : faults room.eventId with
      | none =>
          have answers : faults room.eventId ≠ some .query := by
            rw [fault]
            intro raised
            cases raised
          refine ends_query opened answers ?_
          refine hosts_admission.ends_next .resolves ?_ ?_
          · simp only [cycleOutcome, stageOutcome, fault]
          · rw [goOn_admitUsers, perform_admitUsers]
            simp only [admitRooms, fault, Await.Applies, if_true]
            cases admitUsers room.admitInput db with
            | mk answer after =>
                cases answer with
                | error failed => exact .ended rfl
                | ok admitted => exact goesOn after
      | some raised =>
          cases raised with
          | query =>
              refine hosts_admission.ends_next (.rejects false) ?_ ?_
              · simp only [cycleOutcome, stageOutcome, fault]
              · simp only [admitRooms, fault, Await.Applies, Call.goOn]
                exact .ended rfl
          | script applied =>
              have answers : faults room.eventId ≠ some .query := by
                rw [fault]
                intro refused
                cases refused
              refine ends_query opened answers ?_
              refine hosts_admission.ends_next (.rejects applied) ?_ ?_
              · simp only [cycleOutcome, stageOutcome, fault]
              · rw [perform_admitUsers]
                simp only [admitRooms, fault, Await.Applies, Call.goOn]
                cases applied with
                | true => exact .ended rfl
                | false => exact .ended rfl

private theorem ends_cycle (rooms : WaitingRooms) (faults : Faults)
    (db : QueueStore) :
    queueServer.Ends (cycleOutcome faults) ⟨rooms, db⟩ cycleStart
      ⟨rooms, (admitRooms faults rooms.listOpenRooms db).2⟩
      (.admission ⟨(), (admitRooms faults rooms.listOpenRooms db).1⟩) := by
  have loop := ends_nextRoom rooms faults rooms.listOpenRooms
    (fun _ => WaitingRooms.getOpenRoom_of_mem) db
  refine hosts_admission.ends_next .resolves ?_ ?_
  · simp only [cycleOutcome, stageOutcome]
  · exact loop

/-! ## Isolation -/

def raisedAt : AdmissionProgress → Option EventId
  | .failed (.getOpenRoom eventId _) _ => some eventId
  | .failed (.admitUsers room _) _ => some room.eventId
  | _ => none

/-- Every user who left the queue of the failing room during the cycle holds a
token, and every other room has been admitted for as if it were the only
one. -/
structure Isolated (rooms : List WaitingRoomConfig)
    (before after : QueueStore) (ended : AdmissionProgress) : Prop where
  leavers : ∀ room ∈ rooms, raisedAt ended = some room.eventId →
    LeaversHoldTokens room.eventId before after
  others : ∀ room ∈ rooms, raisedAt ended ≠ some room.eventId →
    viewOf after room.eventId =
      viewOf (admitUsers room.admitInput before).2 room.eventId

/-- The admit of the room raises an error. -/
def Raises (faults : Faults) (db : QueueStore) (room : WaitingRoomConfig) :
    Prop :=
  faults room.eventId ≠ none ∨ ScriptFails room db

instance (faults : Faults) (db : QueueStore) (room : WaitingRoomConfig) :
    Decidable (Raises faults db room) :=
  inferInstanceAs (Decidable (_ ∨ _))

/-- The script of a room whose admit raises an error has run. -/
def ScriptRuns (faults : Faults) (room : WaitingRoomConfig) : Prop :=
  faults room.eventId = none ∨ faults room.eventId = some (.script true)

/-- Behind the first room whose admit raises an error there is nothing to do,
and if its script ends at its `SET` the head of its queue holds a live token
anyway. -/
def ErrorIsHarmless (faults : Faults) (db : QueueStore) :
    List WaitingRoomConfig → Prop
  | [] => True
  | room :: rest =>
      if Raises faults db room then
        (∀ other ∈ rest, Idle other db) ∧
          (ScriptRuns faults room → ScriptFails room db →
            ∀ userId ∈ (waiting db room.eventId).head?,
              HasToken db room.eventId userId)
      else ErrorIsHarmless faults db rest

/-- What the loop does when the admit of the first room raises an error. -/
theorem admitRooms_of_raises {faults : Faults} {db : QueueStore}
    {room : WaitingRoomConfig} (raises : Raises faults db room)
    (rest : List WaitingRoomConfig) :
    raisedAt (admitRooms faults (room :: rest) db).1 = some room.eventId ∧
      (ScriptRuns faults room ∧
          (admitRooms faults (room :: rest) db).2 =
            (admitUsers room.admitInput db).2 ∨
        ¬ ScriptRuns faults room ∧
          (admitRooms faults (room :: rest) db).2 = db) := by
  unfold admitRooms ScriptRuns
  cases fault : faults room.eventId with
  | none =>
      have fails : ScriptFails room db := by
        rcases raises with faulty | fails
        · exact absurd fault faulty
        · exact fails
      obtain ⟨_, _, _, _, failed⟩ := lost_of_scriptFails fails
      generalize admitUsers room.admitInput db = result at failed
      obtain ⟨answer, after⟩ := result
      subst failed
      exact ⟨rfl, Or.inl ⟨Or.inl rfl, rfl⟩⟩
  | some raised =>
      cases raised with
      | query => exact ⟨rfl, Or.inr ⟨by simp, rfl⟩⟩
      | script applied =>
          cases applied with
          | true => exact ⟨rfl, Or.inl ⟨Or.inr rfl, rfl⟩⟩
          | false => exact ⟨rfl, Or.inr ⟨by simp, rfl⟩⟩

private theorem admitRooms_of_not_raises {faults : Faults} {db : QueueStore}
    {room : WaitingRoomConfig} (succeeds : ¬ Raises faults db room)
    (rest : List WaitingRoomConfig) :
    admitRooms faults (room :: rest) db =
      admitRooms faults rest (admitUsers room.admitInput db).2 := by
  simp only [Raises, not_or, not_not] at succeeds
  obtain ⟨admitted, answered⟩ := ok_of_not_scriptFails succeeds.2
  rw [admitRooms]
  simp only [succeeds.1]
  generalize admitUsers room.admitInput db = result at answered
  obtain ⟨answer, after⟩ := result
  subst answered
  rfl

/-- The loop raises its error at a room of the list. -/
theorem raisedAt_mem (faults : Faults) (todo : List WaitingRoomConfig) :
    ∀ (db : QueueStore) (eventId : EventId),
      raisedAt (admitRooms faults todo db).1 = some eventId →
      eventId ∈ todo.map WaitingRoomConfig.eventId := by
  induction todo with
  | nil => nofun
  | cons room rest inductionHypothesis =>
      intro db eventId raised
      rw [List.map_cons, List.mem_cons]
      by_cases raises : Raises faults db room
      · rw [(admitRooms_of_raises raises rest).1] at raised
        exact Or.inl (Option.some.inj raised).symm
      · rw [admitRooms_of_not_raises raises] at raised
        exact Or.inr (inductionHypothesis _ _ raised)

/-- The loop leaves the events alone that it does not come to. -/
theorem admitRooms_frame (faults : Faults) (todo : List WaitingRoomConfig)
    {eventId : EventId} :
    ∀ db : QueueStore, eventId ∉ todo.map WaitingRoomConfig.eventId →
      viewOf (admitRooms faults todo db).2 eventId = viewOf db eventId := by
  induction todo with
  | nil =>
      intro db _
      rfl
  | cons room rest inductionHypothesis =>
      intro db absent
      rw [List.map_cons, List.mem_cons, not_or] at absent
      have frame : viewOf (admitUsers room.admitInput db).2 eventId =
          viewOf db eventId := admitUsers_frame room.admitInput db absent.1
      by_cases raises : Raises faults db room
      · rcases (admitRooms_of_raises raises rest).2 with
          ⟨_, same⟩ | ⟨_, same⟩
        · rw [same, frame]
        · rw [same]
      · rw [admitRooms_of_not_raises raises, inductionHypothesis _ absent.2,
          frame]

private theorem scriptFails_congr {room : WaitingRoomConfig}
    {first second : QueueStore}
    (same : viewOf first room.eventId = viewOf second room.eventId) :
    ScriptFails room first ↔ ScriptFails room second := by
  rw [ScriptFails, ScriptFails, liveActive_congr same, waiting_congr same]

private theorem idle_congr {room : WaitingRoomConfig}
    {first second : QueueStore}
    (same : viewOf first room.eventId = viewOf second room.eventId) :
    Idle room first ↔ Idle room second := by
  rw [Idle, Idle, activeUsers_congr same, waiting_congr same]
  simp only [hasToken_congr same]

private theorem errorIsHarmless_congr {faults : Faults}
    {first second : QueueStore} (todo : List WaitingRoomConfig) :
    (∀ room ∈ todo,
      viewOf first room.eventId = viewOf second room.eventId) →
    (ErrorIsHarmless faults first todo ↔
      ErrorIsHarmless faults second todo) := by
  induction todo with
  | nil =>
      intro _
      rfl
  | cons room rest inductionHypothesis =>
      intro same
      obtain ⟨sameHere, sameRest⟩ := List.forall_mem_cons.mp same
      have sameFails := scriptFails_congr sameHere
      have sameRaises : Raises faults first room ↔ Raises faults second room :=
        or_congr Iff.rfl sameFails
      unfold ErrorIsHarmless
      by_cases raises : Raises faults first room
      · rw [if_pos raises, if_pos (sameRaises.mp raises), sameFails,
          waiting_congr sameHere]
        simp only [hasToken_congr sameHere]
        refine and_congr ?_ Iff.rfl
        constructor
        · intro idle other member
          exact (idle_congr (sameRest other member)).mp (idle other member)
        · intro idle other member
          exact (idle_congr (sameRest other member)).mpr (idle other member)
      · rw [if_neg raises, if_neg (mt sameRaises.mpr raises)]
        exact inductionHypothesis sameRest

private theorem leaversHoldTokens_self (eventId : EventId) (db : QueueStore) :
    LeaversHoldTokens eventId db db := by
  intro userId waits left
  exact absurd waits left

section Isolation

variable {faults : Faults} {db : QueueStore} {room : WaitingRoomConfig}
  {rest : List WaitingRoomConfig}

/-- The users who left the queue of the failing room. -/
theorem leavers_admitRooms_iff (raises : Raises faults db room) :
    LeaversHoldTokens room.eventId db (admitRooms faults (room :: rest) db).2 ↔
      (ScriptRuns faults room → ScriptFails room db →
        ∀ userId ∈ (waiting db room.eventId).head?,
          HasToken db room.eventId userId) := by
  rcases (admitRooms_of_raises raises rest).2 with
    ⟨runs, same⟩ | ⟨idle, same⟩
  · rw [same]
    by_cases fails : ScriptFails room db
    · rw [leaversHoldTokens_of_scriptFails fails]
      simp only [runs, fails, true_implies]
    · simp only [fails, false_implies, implies_true, iff_true]
      exact leaversHoldTokens_of_ok fails
  · rw [same]
    simp only [idle, false_implies, iff_true]
    exact leaversHoldTokens_self _ _

/-- An error in the admit of the first room. -/
theorem isolated_of_raises (raises : Raises faults db room)
    (apart : room.eventId ∉ rest.map WaitingRoomConfig.eventId) :
    Isolated (room :: rest) db (admitRooms faults (room :: rest) db).2
        (admitRooms faults (room :: rest) db).1 ↔
      ErrorIsHarmless faults db (room :: rest) := by
  have raisedHere := (admitRooms_of_raises raises rest).1
  have others : ∀ other ∈ rest, other.eventId ≠ room.eventId ∧
      viewOf (admitRooms faults (room :: rest) db).2 other.eventId =
        viewOf db other.eventId := by
    intro other member
    have different : other.eventId ≠ room.eventId := by
      intro same
      apply apart
      rw [← same]
      exact List.mem_map_of_mem member
    refine ⟨different, ?_⟩
    rcases (admitRooms_of_raises raises rest).2 with ⟨_, same⟩ | ⟨_, same⟩
    · rw [same]
      exact admitUsers_frame room.admitInput db different
    · rw [same]
  have idleIff : ∀ other ∈ rest,
      viewOf (admitRooms faults (room :: rest) db).2 other.eventId =
          viewOf (admitUsers other.admitInput db).2 other.eventId ↔
        Idle other db := by
    intro other member
    rw [(others other member).2, ← view_admitUsers_eq_iff]
    exact eq_comm
  rw [ErrorIsHarmless, if_pos raises, ← leavers_admitRooms_iff raises]
  constructor
  · intro isolated
    constructor
    · intro other member
      apply (idleIff other member).mp
      apply isolated.others other (List.mem_cons_of_mem _ member)
      rw [raisedHere]
      intro same
      exact (others other member).1 (Option.some.inj same).symm
    · exact isolated.leavers room List.mem_cons_self raisedHere
  · rintro ⟨idle, leave⟩
    constructor
    · intro other member raisedThere
      rw [raisedHere] at raisedThere
      have same : room.eventId = other.eventId := Option.some.inj raisedThere
      rw [← same]
      exact leave
    · intro other member elsewhere
      rcases List.mem_cons.mp member with rfl | behind
      · exact absurd raisedHere elsewhere
      · exact (idleIff other behind).mpr (idle other behind)

/-- The first room is admitted for, and the loop goes on from there. -/
theorem isolated_of_not_raises (succeeds : ¬ Raises faults db room)
    (apart : room.eventId ∉ rest.map WaitingRoomConfig.eventId) :
    Isolated (room :: rest) db (admitRooms faults (room :: rest) db).2
        (admitRooms faults (room :: rest) db).1 ↔
      Isolated rest (admitUsers room.admitInput db).2
        (admitRooms faults rest (admitUsers room.admitInput db).2).2
        (admitRooms faults rest (admitUsers room.admitInput db).2).1 := by
  rw [admitRooms_of_not_raises succeeds]
  generalize afterIs : (admitUsers room.admitInput db).2 = after
  have frame : ∀ other ∈ rest,
      viewOf after other.eventId = viewOf db other.eventId := by
    intro other member
    rw [← afterIs]
    apply admitUsers_frame
    intro same
    apply apart
    have sameRoom : other.eventId = room.eventId := same
    rw [← sameRoom]
    exact List.mem_map_of_mem member
  have notHere : raisedAt (admitRooms faults rest after).1 ≠
      some room.eventId := by
    intro raised
    exact apart (raisedAt_mem faults rest after _ raised)
  constructor
  · intro isolated
    constructor
    · intro other member raised userId waits left
      have waited : userId ∈ waiting db other.eventId := by
        rw [← waiting_congr (frame other member)]
        exact waits
      exact isolated.leavers other (List.mem_cons_of_mem _ member) raised
        userId waited left
    · intro other member elsewhere
      rw [isolated.others other (List.mem_cons_of_mem _ member) elsewhere]
      exact (admitUsers_congr (frame other member).symm).2
  · intro isolated
    constructor
    · intro other member raised userId waited left
      rcases List.mem_cons.mp member with rfl | behind
      · exact absurd raised notHere
      · have waits : userId ∈ waiting after other.eventId := by
          rw [waiting_congr (frame other behind)]
          exact waited
        exact isolated.leavers other behind raised userId waits left
    · intro other member elsewhere
      rcases List.mem_cons.mp member with rfl | behind
      · rw [admitRooms_frame faults rest after apart, afterIs]
      · rw [isolated.others other behind elsewhere]
        exact (admitUsers_congr (frame other behind)).2

end Isolation

private theorem isolated_admitRooms_iff (faults : Faults)
    (todo : List WaitingRoomConfig) :
    (todo.map WaitingRoomConfig.eventId).Nodup →
    ∀ db : QueueStore,
      Isolated todo db (admitRooms faults todo db).2
          (admitRooms faults todo db).1 ↔
        ErrorIsHarmless faults db todo := by
  induction todo with
  | nil =>
      intro _ db
      exact iff_of_true ⟨nofun, nofun⟩ trivial
  | cons room rest inductionHypothesis =>
      intro nodup db
      rw [List.map_cons, List.nodup_cons] at nodup
      obtain ⟨apart, restNodup⟩ := nodup
      by_cases raises : Raises faults db room
      · exact isolated_of_raises raises apart
      · rw [isolated_of_not_raises raises apart,
          inductionHypothesis restNodup, ErrorIsHarmless, if_neg raises]
        apply errorIsHarmless_congr
        intro other member
        apply admitUsers_frame
        intro same
        apply apart
        have sameRoom : other.eventId = room.eventId := same
        rw [← sameRoom]
        exact List.mem_map_of_mem member

/-- For every list of open rooms, every store and every error: the cycle comes
to one end, and the failure of a room is isolated exactly when the error is
harmless. -/
theorem isolated_iff_errorIsHarmless (rooms : WaitingRooms)
    (db : QueueStore) (faults : Faults) :
    ∃ after ended,
      queueServer.Ends (cycleOutcome faults) ⟨rooms, db⟩ cycleStart after
        (.admission ⟨(), ended⟩) ∧
      (∀ afterToo last,
        queueServer.Ends (cycleOutcome faults) ⟨rooms, db⟩ cycleStart afterToo
          last →
        afterToo = after ∧ last = .admission ⟨(), ended⟩) ∧
      (Isolated rooms.listOpenRooms db after.queue ended ↔
        ErrorIsHarmless faults db rooms.listOpenRooms) := by
  have ends := ends_cycle rooms faults db
  refine ⟨_, _, ends, ?_, ?_⟩
  · intro afterToo last endsToo
    exact endsToo.unique ends
  · exact isolated_admitRooms_iff faults rooms.listOpenRooms
      rooms.nodup_listOpenRooms db

/-- Two open rooms, the first one with a booking window of zero seconds. -/
def roomWithoutWindow : WaitingRooms :=
  ⟨[⟨1, true, 1, 0⟩, ⟨2, true, 1, 60⟩], by decide⟩

def twoWaiting : QueueStore :=
  (join 2 20 (join 1 10 (QueueStore.empty 0)).2).2

/-- The cycle loses the user of the first room and does not come to the
second, which has a free slot. -/
theorem cycle_stops_at_roomWithoutWindow :
    ∃ after ended,
      queueServer.Ends (cycleOutcome fun _ => none)
        ⟨roomWithoutWindow, twoWaiting⟩ cycleStart after
        (.admission ⟨(), ended⟩) ∧
      10 ∈ waiting twoWaiting 1 ∧ 10 ∉ waiting after.queue 1 ∧
      ¬ HasToken after.queue 1 10 ∧
      HasToken (admitUsers ⟨2, 1, 60⟩ twoWaiting).2 2 20 ∧
      ¬ HasToken after.queue 2 20 ∧
      ¬ Isolated roomWithoutWindow.listOpenRooms twoWaiting after.queue
        ended := by
  refine ⟨_, _, ends_cycle roomWithoutWindow (fun _ => none) twoWaiting, ?_⟩
  have reached : 10 ∈ waiting twoWaiting 1 ∧
      10 ∉ waiting (admitRooms (fun _ => none)
        roomWithoutWindow.listOpenRooms twoWaiting).2 1 ∧
      ¬ HasToken (admitRooms (fun _ => none)
        roomWithoutWindow.listOpenRooms twoWaiting).2 1 10 ∧
      HasToken (admitUsers ⟨2, 1, 60⟩ twoWaiting).2 2 20 ∧
      ¬ HasToken (admitRooms (fun _ => none)
        roomWithoutWindow.listOpenRooms twoWaiting).2 2 20 ∧
      raisedAt (admitRooms (fun _ => none)
        roomWithoutWindow.listOpenRooms twoWaiting).1 = some 1 := by
    decide +kernel
  obtain ⟨waited, left, without, alone, skipped, raised⟩ := reached
  refine ⟨waited, left, without, alone, skipped, ?_⟩
  intro isolated
  have listed : (⟨1, 1, 0⟩ : WaitingRoomConfig) ∈
      roomWithoutWindow.listOpenRooms := by
    decide
  exact without (isolated.leavers ⟨1, 1, 0⟩ listed raised 10 waited left)

end ConcertTicketing.Queue
