import ConcertTicketing.Queue.Admission
import ConcertTicketing.Queue.UseCases

/-!
# One booking window for each admission

`JOIN_LUA` looks for the user in the queue only, `ADMIT_LUA` looks at the
tokens of the active set only.  A user who joins again with a live token waits
although they are admitted, and the next admission writes their token anew.
Without such joins the waiting users and the admitted ones are disjoint, a
live token keeps its deadline until it lapses, and an admission gives one
booking window.
-/

namespace ConcertTicketing.Queue

open Redis

/-- No user with a live token waits for one. -/
def NoHolderWaits (db : QueueStore) : Prop :=
  ∀ eventId userId, HasToken db eventId userId →
    userId ∉ waiting db eventId

/-- The join of a user with a live token is refused, which happens only when
the counter overflows. -/
def QueueOp.NoHolderJoins (db : QueueStore) : QueueOp → Prop
  | .join eventId userId =>
      HasToken db eventId userId → 2 ^ 63 ≤ counter db eventId + 1
  | _ => True

instance (db : QueueStore) : DecidablePred (QueueOp.NoHolderJoins db)
  | .join eventId userId =>
      inferInstanceAs (Decidable
        (HasToken db eventId userId → 2 ^ 63 ≤ counter db eventId + 1))
  | .admitUsers _ => isTrue trivial
  | .getStatus _ _ => isTrue trivial
  | .tick _ => isTrue trivial

def KeepsDeadlines (db after : QueueStore) : Prop :=
  ∀ eventId userId token, tokenEntry db eventId userId = some token →
    tokenEntry after eventId userId = some token ∨
      tokenEntry after eventId userId = none

/-- The token of a user who has waited without one until this admit. -/
structure FirstIssue (input : AdmitInput) (db : QueueStore)
    (eventId : EventId) (userId : UserId) (token : Entry Nat) : Prop where
  event : eventId = input.eventId
  waited : userId ∈ waiting db eventId
  without : ¬ HasToken db eventId userId
  deadline : token.expireAt = some (db.deadlineIn input.ttlSeconds)

section Rounds

variable {input : AdmitInput} {db after : QueueStore}

theorem NoHolderWaits.issued {userId : UserId}
    (disjoint : NoHolderWaits db) (issued : Issued input userId db after) :
    NoHolderWaits after := by
  intro eventId user token still
  rcases (issued.hasToken_iff eventId user).mp token with
    ⟨rfl, rfl⟩ | before
  · exact issued.toPopped.head_notMem_waiting still
  · exact disjoint eventId user before (issued.toPopped.mem_waiting still)

theorem NoHolderWaits.lost {userId : UserId}
    (disjoint : NoHolderWaits db) (lost : Lost input userId db after) :
    NoHolderWaits after := by
  intro eventId user token still
  have before := (lost.hasToken_iff eventId user).mp token
  exact disjoint eventId user before (lost.toPopped.mem_waiting still)

theorem NoHolderWaits.swept {eventId : EventId}
    (disjoint : NoHolderWaits db) (sweeps : Swept eventId db after) :
    NoHolderWaits after := by
  intro other user token still
  have before := (sweeps.hasToken_iff other user).mp token
  rw [waiting, queue, sweeps.zsets] at still
  exact disjoint other user before still

/-- Some rounds of an admit that has started without a waiting holder. -/
structure DisjointRounds (input : AdmitInput) (start db : QueueStore) :
    Prop where
  now : db.now = start.now
  disjoint : NoHolderWaits db
  waited : ∀ userId ∈ waiting db input.eventId,
    userId ∈ waiting start input.eventId
  token : ∀ eventId userId token,
    tokenEntry db eventId userId = some token →
    tokenEntry start eventId userId = some token ∨
      FirstIssue input start eventId userId token

private theorem Rounds.disjointRounds {start : QueueStore}
    {admitted : List UserId} (rounds : Rounds input start admitted db)
    (disjoint : NoHolderWaits start) : DisjointRounds input start db := by
  induction rounds with
  | none =>
      exact ⟨rfl, disjoint, fun _ member => member, fun _ _ _ => Or.inl⟩
  | @next _ before after userId _ issued inductionHypothesis =>
      refine ⟨issued.now.trans inductionHypothesis.now,
        inductionHypothesis.disjoint.issued issued, ?_, ?_⟩
      · intro user still
        have earlier := issued.toPopped.mem_waiting still
        exact inductionHypothesis.waited user earlier
      · intro eventId user token found
        rw [issued.token] at found
        split at found
        · next given =>
            obtain ⟨rfl, rfl⟩ := given
            have waited : user ∈ waiting start input.eventId :=
              inductionHypothesis.waited user issued.toPopped.head_mem_waiting
            have deadline : before.deadlineIn input.ttlSeconds =
                start.deadlineIn input.ttlSeconds := by
              rw [Db.deadlineIn, inductionHypothesis.now]
              rfl
            right
            refine ⟨rfl, waited, ?_, ?_⟩
            · intro holds
              exact disjoint _ _ holds waited
            · rw [← Option.some.inj found, deadline]
        · exact inductionHypothesis.token eventId user token found

end Rounds

/-- An admit without a waiting holder gives tokens to waiting users and
changes no live one. -/
theorem admitUsers_disjoint {db : QueueStore} (input : AdmitInput)
    (disjoint : NoHolderWaits db) :
    NoHolderWaits (admitUsers input db).2 ∧
      ∀ eventId userId token,
        tokenEntry (admitUsers input db).2 eventId userId = some token →
        tokenEntry db eventId userId = some token ∨
          FirstIssue input db eventId userId token := by
  obtain ⟨swept, sweeps, ends⟩ := admitUsers_ends input db
  have fromDb : ∀ {last : QueueStore}, DisjointRounds input swept last →
      ∀ eventId userId token,
        tokenEntry last eventId userId = some token →
        tokenEntry db eventId userId = some token ∨
          FirstIssue input db eventId userId token := by
    intro last rounds eventId userId token found
    rcases rounds.token eventId userId token found with old | first
    · left
      rw [tokenEntry, ← sweeps.find]
      exact old
    · right
      have waited := first.waited
      rw [waiting, queue, sweeps.zsets] at waited
      refine ⟨first.event, waited, ?_, ?_⟩
      · intro holds
        exact first.without ((sweeps.hasToken_iff _ _).mpr holds)
      · rw [first.deadline, Db.deadlineIn, sweeps.now]
        rfl
  generalize admitUsers input db = result at ends
  cases ends with
  | ended admitted last rounds =>
      have reached := rounds.disjointRounds (disjoint.swept sweeps)
      exact ⟨reached.disjoint, fromDb reached⟩
  | failed admitted last after userId rounds lost =>
      have reached := rounds.disjointRounds (disjoint.swept sweeps)
      refine ⟨reached.disjoint.lost lost, ?_⟩
      intro eventId user token found
      rw [lost.token] at found
      exact fromDb reached eventId user token found

private theorem joined_waiting {eventId : EventId} {userId : UserId}
    {db after : QueueStore} (joined : Joined eventId userId db after)
    (other : EventId) (user : UserId) :
    user ∈ waiting after other ↔
      (other = eventId ∧ user = userId) ∨ user ∈ waiting db other := by
  rw [waiting, joined.queue]
  by_cases same : other = eventId
  · subst other
    rw [if_pos rfl, SortedSet.mem_members_add]
    simp [waiting]
  · simp [same, waiting]

/-- A join succeeds unless the counter overflows. -/
theorem mem_waiting_join {eventId : EventId} {userId : UserId}
    {db : QueueStore} (counts : counter db eventId + 1 < 2 ^ 63) :
    userId ∈ waiting (join eventId userId db).2 eventId := by
  rcases join_cases eventId userId db with
    ⟨waits, same⟩ | ⟨fresh, ⟨_, _, joined⟩ | ⟨failed, _⟩⟩
  · rw [same]
    exact waits
  · exact (joined_waiting joined eventId userId).mpr (Or.inl ⟨rfl, rfl⟩)
  · exfalso
    have unknown := SortedSet.score?_eq_none_iff.mpr fresh
    have number : (db.get (.seqKey eventId)).getD 0 + 1 < 2 ^ 63 := counts
    simp only [join, joinLua, queue] at unknown failed
    simp only [unknown, Db.incr, if_pos number, Except.map] at failed
    cases failed

private theorem join_of_overflow {eventId : EventId} {db : QueueStore}
    (userId : UserId) (overflow : 2 ^ 63 ≤ counter db eventId + 1) :
    (join eventId userId db).2 = db := by
  have refused : db.incr (.seqKey eventId) = none := by
    have number : ¬ (db.get (.seqKey eventId)).getD 0 + 1 < 2 ^ 63 :=
      Nat.not_lt.mpr overflow
    rw [Db.incr, if_neg number]
  simp only [join, joinLua, refused]
  split <;> rfl

/-- A step from a state without waiting holders leads to one exactly when it
is no join of a holder. -/
theorem noHolderWaits_apply_iff {db : QueueStore} (op : QueueOp)
    (disjoint : NoHolderWaits db) :
    NoHolderWaits (op.apply db) ↔ op.NoHolderJoins db := by
  cases op with
  | join eventId userId =>
      have tokens := (join_tokens eventId userId db).1
      have sameTokens : ∀ other user,
          HasToken (join eventId userId db).2 other user ↔
            HasToken db other user := by
        intro other user
        rw [HasToken, tokens]
        rfl
      constructor
      · intro after holds
        by_contra counts
        have waits : userId ∈ waiting (join eventId userId db).2 eventId :=
          mem_waiting_join (Nat.not_le.mp counts)
        exact after eventId userId ((sameTokens _ _).mpr holds) waits
      · intro refused other user token still
        have before := (sameTokens other user).mp token
        rcases join_cases eventId userId db with
          ⟨_, same⟩ | ⟨_, ⟨_, _, joined⟩ | ⟨_, same⟩⟩
        · rw [QueueOp.apply, same] at still
          exact disjoint other user before still
        · rcases (joined_waiting joined other user).mp still with
            ⟨rfl, rfl⟩ | waited
          · rw [QueueOp.apply, join_of_overflow user (refused before)] at still
            exact disjoint other user before still
          · exact disjoint other user before waited
        · rw [QueueOp.apply, same] at still
          exact disjoint other user before still
  | admitUsers input =>
      exact iff_of_true (admitUsers_disjoint input disjoint).1 trivial
  | getStatus eventId userId => exact iff_of_true disjoint trivial
  | tick elapsed =>
      refine iff_of_true ?_ trivial
      intro eventId userId token
      exact disjoint eventId userId (hasToken_of_tick token)

/-- A live token is an old one, or an admit has issued it to a user who had
none. -/
theorem token_apply {db : QueueStore} (op : QueueOp)
    (disjoint : NoHolderWaits db) {eventId : EventId} {userId : UserId}
    {token : Entry Nat}
    (found : tokenEntry (op.apply db) eventId userId = some token) :
    tokenEntry db eventId userId = some token ∨
      ∃ input, op = .admitUsers input ∧
        FirstIssue input db eventId userId token := by
  cases op with
  | join event user =>
      left
      rw [← (join_tokens event user db).1 eventId userId]
      exact found
  | admitUsers input =>
      rcases (admitUsers_disjoint input disjoint).2 eventId userId token found
        with old | first
      · exact Or.inl old
      · exact Or.inr ⟨input, rfl, first⟩
  | getStatus event user => exact Or.inl found
  | tick elapsed =>
      left
      have later : (db.tick elapsed).find (.tokenKey eventId userId) =
          some token := found
      rw [Db.find_tick] at later
      exact (Option.filter_eq_some_iff.mp later).1

private theorem keepsDeadlines_apply {db : QueueStore} (op : QueueOp)
    (disjoint : NoHolderWaits db) : KeepsDeadlines db (op.apply db) := by
  intro eventId userId token held
  cases found : tokenEntry (op.apply db) eventId userId with
  | none => exact Or.inr rfl
  | some later =>
      left
      rcases token_apply op disjoint found with old | ⟨input, _, first⟩
      · rw [held] at old
        exact old.symm
      · exfalso
        apply first.without
        rw [HasToken, held]
        rfl

/-- No step performs the join of a user with a live token. -/
def NoHolderJoins (state : QueueState) (action : QueueAction) : Prop :=
  ∀ op ∈ storeOp? state action, op.NoHolderJoins state.stores.queue

instance (state : QueueState) (action : QueueAction) :
    Decidable (NoHolderJoins state action) :=
  match doing : storeOp? state action with
  | none => isTrue (by simp [NoHolderJoins, doing])
  | some op =>
      decidable_of_iff (op.NoHolderJoins state.stores.queue)
        (by simp [NoHolderJoins, doing])

/-- The admission that has issued a live token: its room was read before, the
user has waited without a live token, the token lapses one booking window
later, and it has been the token of the user ever since. -/
structure IssuedIn (older : List (QueueState × QueueAction))
    (granting : QueueState) (action : QueueAction)
    (newer : List (QueueState × QueueAction)) (room : WaitingRoomConfig)
    (eventId : EventId) (userId : UserId) (token : Entry Nat) : Prop where
  runs : storeOp? granting action = some (.admitUsers room.admitInput)
  read : ∃ reached ∈ visited older granting,
    reached.stores.rooms.getOpenRoom eventId = some room
  waited : userId ∈ waiting granting.stores.queue eventId
  without : ¬ HasToken granting.stores.queue eventId userId
  window : token.expireAt =
    some (granting.stores.now + room.bookingWindow * 1000)
  since : ∀ entry ∈ newer,
    tokenEntry entry.1.stores.queue eventId userId = some token

def OneWindow (history : List (QueueState × QueueAction))
    (eventId : EventId) (userId : UserId) (token : Entry Nat) : Prop :=
  ∃ newer granting action older room,
    history = newer ++ (granting, action) :: older ∧
      IssuedIn older granting action newer room eventId userId token

structure GrantedOnce (history : List (QueueState × QueueAction))
    (state : QueueState) : Prop where
  noHolderWaits : ∀ reached ∈ visited history state,
    NoHolderWaits reached.stores.queue
  notPushedBack : (visited history state).IsChain fun later earlier =>
    KeepsDeadlines earlier.stores.queue later.stores.queue
  oneWindow : ∀ eventId userId token,
    tokenEntry state.stores.queue eventId userId = some token →
    OneWindow history eventId userId token

private theorem noHolderWaits_step_iff {state next : QueueState}
    {action : QueueAction} (disjoint : NoHolderWaits state.stores.queue)
    (stepped : queueServer.step state action = some next) :
    NoHolderWaits next.stores.queue ↔ NoHolderJoins state action := by
  rw [step_queue stepped, NoHolderJoins]
  cases doing : storeOp? state action with
  | none => simpa using disjoint
  | some op => simpa using noHolderWaits_apply_iff op disjoint

private theorem keepsDeadlines_step {state next : QueueState}
    {action : QueueAction} (disjoint : NoHolderWaits state.stores.queue)
    (stepped : queueServer.step state action = some next) :
    KeepsDeadlines state.stores.queue next.stores.queue := by
  rw [step_queue stepped]
  cases storeOp? state action with
  | none => exact fun _ _ _ held => Or.inl held
  | some op => exact keepsDeadlines_apply op disjoint

theorem OneWindow.later {history : List (QueueState × QueueAction)}
    {state : QueueState} {eventId : EventId} {userId : UserId}
    {token : Entry Nat} (window : OneWindow history eventId userId token)
    (held : tokenEntry state.stores.queue eventId userId = some token)
    (action : QueueAction) :
    OneWindow ((state, action) :: history) eventId userId token := by
  obtain ⟨newer, granting, granted, older, room, rfl, issued⟩ := window
  refine ⟨(state, action) :: newer, granting, granted, older, room, rfl,
    issued.runs, issued.read, issued.waited, issued.without, issued.window,
    ?_⟩
  intro entry member
  rcases List.mem_cons.mp member with rfl | old
  · exact held
  · exact issued.since entry old

/-- The token of the next state has been given by one admission. -/
theorem oneWindow_step {history : List (QueueState × QueueAction)}
    {state next : QueueState} {action : QueueAction}
    (disjoint : NoHolderWaits state.stores.queue)
    (read : RoomsRead history state)
    (windows : ∀ eventId userId token,
      tokenEntry state.stores.queue eventId userId = some token →
      OneWindow history eventId userId token)
    (stepped : queueServer.step state action = some next)
    {eventId : EventId} {userId : UserId} {token : Entry Nat}
    (found : tokenEntry next.stores.queue eventId userId = some token) :
    OneWindow ((state, action) :: history) eventId userId token := by
  rw [step_queue stepped] at found
  cases doing : storeOp? state action with
  | none =>
      rw [doing] at found
      exact (windows eventId userId token found).later found action
  | some op =>
      rw [doing] at found
      rcases token_apply op disjoint found with old | ⟨input, rfl, first⟩
      · exact (windows eventId userId token old).later old action
      · obtain ⟨index, room, rest, atAdmit, rfl⟩ :=
          admitUsers_of_storeOp doing
        obtain ⟨earlier, member, opened⟩ := read index room rest atAdmit
        have sameEvent : eventId = room.eventId := first.event
        rw [← sameEvent] at opened
        exact ⟨[], state, action, history, room, rfl, doing,
          ⟨earlier, member, opened⟩, first.waited, first.without,
          first.deadline, nofun⟩

/-- In every run of joins, status requests, cycles, lapses and edits of the
rooms, a booking window is granted once per admission exactly when no user
joins while holding a live token. -/
theorem grantedOnce_iff_noHolderJoins {rooms : WaitingRooms}
    {origin : Instant} {history : List (QueueState × QueueAction)}
    {state : QueueState}
    (run : Trace queueServer.step (QueueState.init rooms origin) history
      state) :
    GrantedOnce history state ↔ StepsMeet NoHolderJoins history := by
  have emptyDisjoint :
      NoHolderWaits (QueueState.init rooms origin).stores.queue := by
    intro eventId userId token
    cases token
  have whenDisjoint : (∀ reached ∈ visited history state,
      NoHolderWaits reached.stores.queue) ↔ StepsMeet NoHolderJoins history := by
    refine Trace.forall_visited_iff ?_ ?_ run
    · exact emptyDisjoint
    · intro _ _ _ _ _ disjoint stepped
      exact noHolderWaits_step_iff disjoint stepped
  constructor
  · intro granted
    exact whenDisjoint.mp granted.noHolderWaits
  · intro guarded
    refine Trace.invariantWith NoHolderJoins GrantedOnce ?_ ?_ run guarded
    · refine ⟨?_, List.IsChain.singleton _, ?_⟩
      · intro reached member
        rw [visited, List.map_nil, List.mem_singleton] at member
        rw [member]
        exact emptyDisjoint
      · intro eventId userId token found
        cases found
    · intro earlier before action next runBefore granted noHolder stepped
      have disjoint : NoHolderWaits before.stores.queue :=
        granted.noHolderWaits before List.mem_cons_self
      refine ⟨?_, ?_, ?_⟩
      · intro reached member
        rcases List.mem_cons.mp member with rfl | old
        · exact (noHolderWaits_step_iff disjoint stepped).mpr noHolder
        · exact granted.noHolderWaits reached old
      · exact List.isChain_cons_cons.mpr
          ⟨keepsDeadlines_step disjoint stepped, granted.notPushedBack⟩
      · intro eventId userId token found
        exact oneWindow_step disjoint (roomsRead_of_run runBefore)
          granted.oneWindow stepped found

def smallRoom : WaitingRooms :=
  ⟨[⟨1, true, 2, 2⟩], by decide⟩

/-- A user joins, is admitted, and joins again after the token has lapsed. -/
def joinAfterLapse : List QueueAction :=
  [.request (.joinQueue ⟨10, 1⟩), .await 0 .resolves, .await 0 .resolves,
    .request .admissionTick, .await 1 .resolves, .await 1 .resolves,
    .await 1 .resolves, .external (.tick 2000),
    .request (.joinQueue ⟨10, 1⟩), .await 2 .resolves, .await 2 .resolves]

private theorem joinAfterLapse_enabled :
    (replay queueServer.step [] (QueueState.init smallRoom 0)
      joinAfterLapse).isSome = true := by
  decide +kernel

theorem grantedOnce_joinAfterLapse :
    GrantedOnce
      ((replay queueServer.step [] (QueueState.init smallRoom 0)
        joinAfterLapse).get joinAfterLapse_enabled).1
      ((replay queueServer.step [] (QueueState.init smallRoom 0)
        joinAfterLapse).get joinAfterLapse_enabled).2 :=
  (grantedOnce_iff_noHolderJoins
    (Trace.of_replay_get joinAfterLapse joinAfterLapse_enabled)).mpr
      (by decide +kernel)

/-- A user joins, is admitted, and joins again while the token is live; the
next cycle admits the user once more. -/
def joinWithToken : List QueueAction :=
  [.request (.joinQueue ⟨10, 1⟩), .await 0 .resolves, .await 0 .resolves,
    .request .admissionTick, .await 1 .resolves, .await 1 .resolves,
    .await 1 .resolves, .external (.tick 1500),
    .request (.joinQueue ⟨10, 1⟩), .await 2 .resolves, .await 2 .resolves,
    .request .admissionTick, .await 3 .resolves, .await 3 .resolves,
    .await 3 .resolves]

/-- The holder of a live token waits, and the next cycle pushes the deadline
of the token back before it has lapsed. -/
theorem holder_admitted_again :
    ∃ history state,
      Trace queueServer.step (QueueState.init smallRoom 0) history state ∧
      (∃ reached ∈ visited history state,
        HasToken reached.stores.queue 1 10 ∧
        10 ∈ waiting reached.stores.queue 1 ∧
        tokenEntry reached.stores.queue 1 10 = some ⟨1, some 2000⟩) ∧
      tokenEntry state.stores.queue 1 10 = some ⟨1, some 3500⟩ ∧
      ¬ GrantedOnce history state := by
  obtain ⟨history, state, run, holds⟩ :=
    Trace.exists_of_replay queueServer.step (QueueState.init smallRoom 0)
      joinWithToken
      (fun result => decide
        ((∃ reached ∈ visited result.1 result.2,
          HasToken reached.stores.queue 1 10 ∧
          10 ∈ waiting reached.stores.queue 1 ∧
          tokenEntry reached.stores.queue 1 10 = some ⟨1, some 2000⟩) ∧
        tokenEntry result.2.stores.queue 1 10 = some ⟨1, some 3500⟩))
      (by decide +kernel)
  obtain ⟨⟨reached, member, holder, waits, first⟩, second⟩ :=
    of_decide_eq_true holds
  refine ⟨history, state, run, ⟨reached, member, holder, waits, first⟩,
    second, ?_⟩
  intro granted
  exact granted.noHolderWaits reached member 1 10 holder waits

end ConcertTicketing.Queue
