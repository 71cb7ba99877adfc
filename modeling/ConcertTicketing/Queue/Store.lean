import ConcertTicketing.Domain
import ConcertTicketing.Library.Redis
import ConcertTicketing.Library.SortedSet

/-!
# The Redis queue store

`RedisQueueStoreAdapter` with its three scripts.  A script runs alone on the
server; when one of its commands is an error, the script ends there and keeps
what it has written.
-/

namespace ConcertTicketing.Queue

open Redis

/-- The keys of `RedisQueueStoreAdapter`. -/
inductive QueueKey where
  | queueKey (eventId : EventId)
  | seqKey (eventId : EventId)
  | activeKey (eventId : EventId)
  | tokenKey (eventId : EventId) (userId : UserId)
  deriving DecidableEq, Repr

/-- Counters and tokens are strings, `active:event:…` is a set, and
`queue:event:…` is a sorted set. -/
structure QueueStore extends Db QueueKey UserId Nat where
  zsets : QueueKey → SortedSet Nat UserId

namespace QueueStore

def empty (now : Instant) : QueueStore :=
  ⟨Db.empty now, fun _ => SortedSet.empty⟩

/-- `ZADD key score member`. -/
def zadd (db : QueueStore) (key : QueueKey) (score : Nat)
    (member : UserId) : QueueStore :=
  { db with
    zsets := Function.update db.zsets key ((db.zsets key).add score member) }

/-- `ZPOPMIN key`. -/
def zpopmin (db : QueueStore) (key : QueueKey) :
    Option (UserId × QueueStore) :=
  (db.zsets key).popMin.map fun popped =>
    (popped.1,
      { db with zsets := Function.update db.zsets key popped.2 })

end QueueStore

inductive ScriptError where
  | incrementWouldOverflow
  | invalidExpireTime
  deriving DecidableEq, Repr

/-! ## The scripts -/

/-- The reply of `JOIN_LUA`: `ZRANK` and `ZCARD`. -/
def joinReply (queue : QueueKey) (userId : UserId) (db : QueueStore) :
    Option Nat × Nat :=
  ((db.zsets queue).rank? userId, (db.zsets queue).card)

/-- `JOIN_LUA`. -/
def joinLua (seq queue : QueueKey) (userId : UserId) (db : QueueStore) :
    Except ScriptError (Option Nat × Nat) × QueueStore :=
  match (db.zsets queue).score? userId with
  | some _ => (.ok (joinReply queue userId db), db)
  | none =>
      match db.incr seq with
      | none => (.error .incrementWouldOverflow, db)
      | some (number, counted) =>
          -- a score is a double
          let joined :=
            { db with toDb := counted }.zadd queue (toDouble number) userId
          (.ok (joinReply queue userId joined), joined)

/-- The `for` loop of `ADMIT_LUA`. -/
def sweep (active : QueueKey) (token : UserId → QueueKey)
    (members : List UserId) (db : QueueStore) : QueueStore :=
  members.foldl
    (fun current member =>
      if current.existsKey (token member) then current
      else { current with toDb := current.srem active member })
    db

/-- One round of the `while` loop of `ADMIT_LUA`, unless the loop ends. -/
def admitNext (queue active : QueueKey) (token : UserId → QueueKey)
    (cap ttl : Int) (db : QueueStore) :
    Option (Except ScriptError UserId × QueueStore) :=
  if (db.scard active : Int) < cap then
    match db.zpopmin queue with
    | none => none
    | some (user, popped) =>
        match popped.setEx (token user) 1 ttl with
        | none => some (.error .invalidExpireTime, popped)
        | some written =>
            some (.ok user, { popped with toDb := written.sadd active user })
  else none

/-- The `while` loop of `ADMIT_LUA`. -/
def admitLoop (queue active : QueueKey) (token : UserId → QueueKey)
    (cap ttl : Int) :
    Nat → List UserId → QueueStore →
      Except ScriptError (List UserId) × QueueStore
  | 0, admitted, db => (.ok admitted, db)
  | fuel + 1, admitted, db =>
      match admitNext queue active token cap ttl db with
      | none => (.ok admitted, db)
      | some (.error failed, after) => (.error failed, after)
      | some (.ok user, after) =>
          admitLoop queue active token cap ttl fuel (admitted ++ [user]) after

/-- `ADMIT_LUA`; each round of its loop takes a member out of the queue. -/
def admitLua (queue active : QueueKey) (token : UserId → QueueKey)
    (cap ttl : Int) (db : QueueStore) :
    Except ScriptError (List UserId) × QueueStore :=
  let swept := sweep active token (db.smembers active) db
  admitLoop queue active token cap ttl ((swept.zsets queue).card + 1) []
    swept

/-- `STATUS_LUA`. -/
def statusLua (queue token : QueueKey) (userId : UserId) (db : QueueStore) :
    Nat × Int :=
  let ttl := db.ttl token
  if 0 < ttl then (1, ttl)
  else
    match (db.zsets queue).rank? userId with
    | none => (0, -1)
    | some rank => (0, rank)

/-! ## The adapter -/

structure JoinResult where
  rank : Nat
  total : Nat
  deriving DecidableEq, Repr

structure QueueStatus where
  admitted : Bool
  ttlSeconds : Int
  rank : Int
  deriving DecidableEq, Repr

structure AdmitInput where
  eventId : EventId
  cap : Int
  ttlSeconds : Int
  deriving DecidableEq, Repr

def join (eventId : EventId) (userId : UserId) (db : QueueStore) :
    Except ScriptError JoinResult × QueueStore :=
  let (raw, after) :=
    joinLua (.seqKey eventId) (.queueKey eventId) userId db
  -- `Number(null)` is `0`
  (raw.map fun reply => ⟨reply.1.getD 0, reply.2⟩, after)

def getStatus (eventId : EventId) (userId : UserId) (db : QueueStore) :
    QueueStatus :=
  let (flag, value) :=
    statusLua (.queueKey eventId) (.tokenKey eventId userId) userId db
  if flag = 1 then ⟨true, value, -1⟩ else ⟨false, -1, value⟩

/-- `RedisQueueStoreAdapter.admit`. -/
def admitUsers (input : AdmitInput) (db : QueueStore) :
    Except ScriptError (List UserId) × QueueStore :=
  admitLua (.queueKey input.eventId) (.activeKey input.eventId)
    (.tokenKey input.eventId) input.cap input.ttlSeconds db

def queue (db : QueueStore) (eventId : EventId) : SortedSet Nat UserId :=
  db.zsets (.queueKey eventId)

/-- The users in the queue, in rank order. -/
def waiting (db : QueueStore) (eventId : EventId) : List UserId :=
  (queue db eventId).members

/-- `active:event:{eventId}`. -/
def activeUsers (db : QueueStore) (eventId : EventId) : Finset UserId :=
  db.sets (.activeKey eventId)

/-- `queue:event:{eventId}:seq`, once it exists. -/
def seqEntry (db : QueueStore) (eventId : EventId) : Option (Entry Nat) :=
  db.find (.seqKey eventId)

def counter (db : QueueStore) (eventId : EventId) : Nat :=
  ((seqEntry db eventId).map Entry.value).getD 0

/-- The live token of a user, with its deadline. -/
def tokenEntry (db : QueueStore) (eventId : EventId) (userId : UserId) :
    Option (Entry Nat) :=
  db.find (.tokenKey eventId userId)

/-- The user holds a live token. -/
def HasToken (db : QueueStore) (eventId : EventId) (userId : UserId) :
    Prop :=
  (tokenEntry db eventId userId).isSome

instance (db : QueueStore) (eventId : EventId) :
    DecidablePred (HasToken db eventId) :=
  fun _ => inferInstanceAs (Decidable (_ = true))

/-! ## One specification for each script -/

/-- A user who is not waiting has joined, as the last one. -/
structure Joined (eventId : EventId) (userId : UserId)
    (db after : QueueStore) : Prop where
  now : after.now = db.now
  seq : ∀ other, seqEntry after other =
    if other = eventId then
      some ⟨counter db eventId + 1, (seqEntry db eventId).bind Entry.expireAt⟩
    else seqEntry db other
  queue : ∀ other, Queue.queue after other =
    if other = eventId then
      (Queue.queue db eventId).add
        (toDouble (counter db eventId + 1)) userId
    else Queue.queue db other
  token : ∀ other user, tokenEntry after other user = tokenEntry db other user
  active : ∀ other, activeUsers after other = activeUsers db other

private theorem joined_of_incr {eventId : EventId} {userId : UserId}
    {db : QueueStore} {number : Nat} {counted : Db QueueKey UserId Nat}
    (incremented : db.incr (.seqKey eventId) = some (number, counted)) :
    Joined eventId userId db
      ({ db with toDb := counted }.zadd (.queueKey eventId)
        (toDouble number) userId) := by
  obtain ⟨isNext, sameNow, sameSets, found⟩ := Db.incr_eq_some incremented
  refine ⟨sameNow, ?_, ?_, ?_, ?_⟩
  · intro other
    simp only [seqEntry, QueueStore.zadd, found, QueueKey.seqKey.injEq,
      isNext]
    rfl
  · intro other
    by_cases same : other = eventId
    · subst other
      simp only [Queue.queue, QueueStore.zadd, Function.update_self, if_true,
        isNext]
      rfl
    · have otherKey : QueueKey.queueKey other ≠ .queueKey eventId :=
        fun equal => same (QueueKey.queueKey.inj equal)
      simp only [Queue.queue, QueueStore.zadd,
        Function.update_of_ne otherKey, same, if_false]
  · intro other user
    simp only [tokenEntry, QueueStore.zadd, found, reduceCtorEq, if_false]
  · intro other
    simp only [activeUsers, QueueStore.zadd, sameSets]

/-- `JOIN_LUA` leaves a waiting user alone and adds any other one, unless the
counter overflows. -/
theorem join_cases (eventId : EventId) (userId : UserId)
    (db : QueueStore) :
    (userId ∈ waiting db eventId ∧ (join eventId userId db).2 = db) ∨
    (userId ∉ waiting db eventId ∧
      ((∃ answer, (join eventId userId db).1 = .ok answer ∧
          Joined eventId userId db (join eventId userId db).2) ∨
        ((join eventId userId db).1 = .error .incrementWouldOverflow ∧
          (join eventId userId db).2 = db))) := by
  cases known : (db.zsets (.queueKey eventId)).score? userId with
  | some score =>
      left
      constructor
      · by_contra absent
        have missing := SortedSet.score?_eq_none_iff.mpr absent
        rw [Queue.queue, known] at missing
        cases missing
      · simp only [join, joinLua, known]
  | none =>
      right
      refine ⟨SortedSet.score?_eq_none_iff.mp known, ?_⟩
      cases incremented : db.incr (.seqKey eventId) with
      | none =>
          right
          simp only [join, joinLua, known, incremented, Except.map, and_self]
      | some counted =>
          left
          simp only [join, joinLua, known, incremented, Except.map]
          exact ⟨_, rfl, joined_of_incr incremented⟩

/-- The sweep removes members without a live token, and nothing else. -/
structure Swept (eventId : EventId) (db after : QueueStore) : Prop where
  now : after.now = db.now
  find : ∀ key, after.find key = db.find key
  zsets : after.zsets = db.zsets
  active : ∀ other, activeUsers after other =
    if other = eventId then
      (activeUsers db eventId).filter (HasToken db eventId)
    else activeUsers db other

/-- The loop has come past some members. -/
structure SweptPast (eventId : EventId) (members : List UserId)
    (db after : QueueStore) : Prop where
  now : after.now = db.now
  find : ∀ key, after.find key = db.find key
  zsets : after.zsets = db.zsets
  active : ∀ other, activeUsers after other =
    if other = eventId then
      (activeUsers db eventId).filter fun user =>
        user ∉ members ∨ HasToken db eventId user
    else activeUsers db other

/-- One turn of the loop. -/
theorem sweptPast_member (eventId : EventId) (member : UserId)
    (db : QueueStore) :
    SweptPast eventId [member] db
      (sweep (.activeKey eventId) (.tokenKey eventId) [member] db) := by
  by_cases live : HasToken db eventId member
  · have kept : sweep (.activeKey eventId) (.tokenKey eventId) [member] db =
        db := by
      have there : db.existsKey (.tokenKey eventId member) = true := live
      simp only [sweep, List.foldl_cons, there, if_true, List.foldl_nil]
    rw [kept]
    refine ⟨rfl, fun _ => rfl, rfl, ?_⟩
    intro other
    by_cases same : other = eventId
    · rw [if_pos same, same]
      symm
      apply Finset.filter_true_of_mem
      intro user _
      by_cases isMember : user = member
      · rw [isMember]
        exact Or.inr live
      · exact Or.inl (mt List.mem_singleton.mp isMember)
    · rw [if_neg same]
  · have removed : sweep (.activeKey eventId) (.tokenKey eventId) [member] db =
        { db with toDb := db.srem (.activeKey eventId) member } := by
      have gone : db.existsKey (.tokenKey eventId member) = false :=
        Bool.eq_false_iff.mpr live
      simp only [sweep, List.foldl_cons, gone, Bool.false_eq_true, if_false,
        List.foldl_nil]
    rw [removed]
    refine ⟨rfl, fun _ => rfl, rfl, ?_⟩
    intro other
    simp only [activeUsers, Db.sets_srem, QueueKey.activeKey.injEq]
    by_cases same : other = eventId
    · rw [if_pos same, if_pos same]
      ext user
      by_cases isMember : user = member
      · simp [isMember, live]
      · simp [isMember]
    · rw [if_neg same, if_neg same]

theorem SweptPast.append {eventId : EventId} {front back : List UserId}
    {db middle after : QueueStore}
    (first : SweptPast eventId front db middle)
    (second : SweptPast eventId back middle after) :
    SweptPast eventId (front ++ back) db after where
  now := second.now.trans first.now
  find := fun key => (second.find key).trans (first.find key)
  zsets := second.zsets.trans first.zsets
  active := by
    intro other
    have sameToken : ∀ user,
        HasToken middle eventId user ↔ HasToken db eventId user := by
      intro user
      rw [HasToken, tokenEntry, first.find]
      rfl
    rw [second.active, first.active, first.active, if_pos rfl]
    split
    · rw [Finset.filter_filter]
      apply Finset.filter_congr
      intro user _
      rw [sameToken, List.mem_append]
      tauto
    · rfl

/-- The loop over any list of members. -/
theorem sweptPast_members (eventId : EventId) (members : List UserId)
    (db : QueueStore) :
    SweptPast eventId members db
      (sweep (.activeKey eventId) (.tokenKey eventId) members db) := by
  induction members generalizing db with
  | nil =>
      refine ⟨rfl, fun _ => rfl, rfl, ?_⟩
      intro other
      by_cases same : other = eventId
      · simp [sweep, same]
      · simp [sweep, same]
  | cons member rest inductionHypothesis =>
      have first := sweptPast_member eventId member db
      exact first.append (inductionHypothesis _)

theorem swept_smembers (eventId : EventId) (db : QueueStore) :
    Swept eventId db
      (sweep (.activeKey eventId) (.tokenKey eventId)
        (db.smembers (.activeKey eventId)) db) := by
  have all :=
    sweptPast_members eventId (db.smembers (.activeKey eventId)) db
  refine ⟨all.now, all.find, all.zsets, ?_⟩
  intro other
  rw [all.active other]
  split
  · apply Finset.filter_congr
    intro user member
    have listed : user ∈ db.smembers (.activeKey eventId) :=
      (Finset.mem_sort _).mpr member
    simp [listed]
  · rfl

/-- One round of the `while` loop for an admit. -/
def admitRound (input : AdmitInput) (db : QueueStore) :
    Option (Except ScriptError UserId × QueueStore) :=
  admitNext (.queueKey input.eventId) (.activeKey input.eventId)
    (.tokenKey input.eventId) input.cap input.ttlSeconds db

structure Popped (eventId : EventId) (userId : UserId)
    (db after : QueueStore) : Prop where
  now : after.now = db.now
  entries : ∃ score, (queue db eventId).entries =
    (score, userId) :: (queue after eventId).entries
  others : ∀ other, other ≠ eventId → queue after other = queue db other
  seq : ∀ other, seqEntry after other = seqEntry db other

structure Issued (input : AdmitInput) (userId : UserId)
    (db after : QueueStore) : Prop extends
    Popped input.eventId userId db after where
  room : ((activeUsers db input.eventId).card : Int) < input.cap
  positive : 0 < input.ttlSeconds
  token : ∀ other user, tokenEntry after other user =
    if other = input.eventId ∧ user = userId then
      some ⟨1, some (db.deadlineIn input.ttlSeconds)⟩
    else tokenEntry db other user
  active : ∀ other, activeUsers after other =
    if other = input.eventId then
      insert userId (activeUsers db input.eventId)
    else activeUsers db other

/-- A script that ends at `SET` has lost the head of the queue. -/
structure Lost (input : AdmitInput) (userId : UserId)
    (db after : QueueStore) : Prop extends
    Popped input.eventId userId db after where
  nonpositive : ¬ 0 < input.ttlSeconds
  token : ∀ other user,
    tokenEntry after other user = tokenEntry db other user
  active : ∀ other, activeUsers after other = activeUsers db other

private theorem popped_of_zpopmin {eventId : EventId} {userId : UserId}
    {db popped : QueueStore}
    (pops : db.zpopmin (.queueKey eventId) = some (userId, popped)) :
    popped.toDb = db.toDb ∧ Popped eventId userId db popped := by
  simp only [QueueStore.zpopmin, Option.map_eq_some_iff] at pops
  obtain ⟨⟨user, rest⟩, first, same⟩ := pops
  cases same
  refine ⟨rfl, rfl, ?_, ?_, fun _ => rfl⟩
  · obtain ⟨score, entries⟩ := SortedSet.entries_of_popMin first
    refine ⟨score, ?_⟩
    simpa only [queue, Function.update_self] using entries
  · intro other different
    have otherKey : QueueKey.queueKey other ≠ .queueKey eventId :=
      fun equal => different (QueueKey.queueKey.inj equal)
    simp only [queue, Function.update_of_ne otherKey]

/-- What one round of the loop does, if there is one. -/
theorem admitRound_cases {input : AdmitInput} {db after : QueueStore}
    {answer : Except ScriptError UserId}
    (round : admitRound input db = some (answer, after)) :
    ∃ userId,
      (answer = .ok userId ∧ Issued input userId db after) ∨
      (answer = .error .invalidExpireTime ∧ Lost input userId db after) := by
  unfold admitRound admitNext at round
  by_cases room :
      (db.scard (.activeKey input.eventId) : Int) < input.cap
  · rw [if_pos room] at round
    split at round
    · cases round
    · next userId popped pops =>
        obtain ⟨sameDb, shorter⟩ := popped_of_zpopmin pops
        refine ⟨userId, ?_⟩
        split at round
        · next refused =>
            cases round
            have nonpositive : ¬ 0 < input.ttlSeconds := by
              intro positive
              simp [Db.setEx, positive] at refused
            refine Or.inr ⟨rfl, shorter, nonpositive, ?_, ?_⟩
            · intro other user
              simp only [tokenEntry, sameDb]
            · intro other
              simp only [activeUsers, sameDb]
        · next written sets =>
            cases round
            obtain ⟨positive, rfl⟩ := Db.setEx_eq_some_iff.mp sets
            refine Or.inl ⟨rfl, ⟨shorter.now, shorter.entries, shorter.others, ?_⟩,
              room, positive, ?_, ?_⟩
            · intro other
              simp only [seqEntry, Db.find_sadd, Db.find_put positive,
                reduceCtorEq, if_false, sameDb]
            · intro other user
              simp only [tokenEntry, Db.find_sadd, Db.find_put positive,
                QueueKey.tokenKey.injEq, sameDb]
            · intro other
              simp only [activeUsers, Db.sets_sadd, Db.put_sets, sameDb,
                QueueKey.activeKey.injEq]
  · rw [if_neg room] at round
    cases round

/-- The loop ends without a round when the cap is reached or nobody waits. -/
theorem admitRound_eq_none_iff {input : AdmitInput} {db : QueueStore} :
    admitRound input db = none ↔
      input.cap ≤ ((activeUsers db input.eventId).card : Int) ∨
        waiting db input.eventId = [] := by
  unfold admitRound admitNext
  by_cases room :
      (db.scard (.activeKey input.eventId) : Int) < input.cap
  · have below : ¬ input.cap ≤ ((activeUsers db input.eventId).card : Int) :=
      not_le.mpr room
    rw [if_pos room, waiting, ← SortedSet.popMin_eq_none_iff]
    cases first : (queue db input.eventId).popMin with
    | none =>
        have noPop : db.zpopmin (.queueKey input.eventId) = none := by
          simp only [QueueStore.zpopmin, Option.map_eq_none_iff]
          exact first
        simp [noPop]
    | some popped =>
        obtain ⟨left, pops⟩ :
            ∃ left, db.zpopmin (.queueKey input.eventId) =
              some (popped.1, left) := by
          simp only [QueueStore.zpopmin, Option.map_eq_some_iff]
          exact ⟨_, popped, first, rfl⟩
        simp only [pops, below, reduceCtorEq, or_self, iff_false]
        split <;> exact Option.some_ne_none _
  · have reached : input.cap ≤ ((activeUsers db input.eventId).card : Int) :=
      not_lt.mp room
    rw [if_neg room]
    exact iff_of_true rfl (Or.inl reached)

/-- Rounds of the loop, with the users that they have admitted. -/
inductive Rounds (input : AdmitInput) (start : QueueStore) :
    List UserId → QueueStore → Prop
  | none : Rounds input start [] start
  | next {admitted : List UserId} {db after : QueueStore} {userId : UserId}
      (earlier : Rounds input start admitted db)
      (issued : Issued input userId db after) :
      Rounds input start (admitted ++ [userId]) after

/-- How an admit ends: the loop has come to its end, or an error has cut it
off behind a `ZPOPMIN`. -/
inductive AdmitEnds (input : AdmitInput) (swept : QueueStore) :
    Except ScriptError (List UserId) × QueueStore → Prop
  | ended (admitted : List UserId) (last : QueueStore)
      (rounds : Rounds input swept admitted last)
      (noRound : admitRound input last = Option.none) :
      AdmitEnds input swept (.ok admitted, last)
  | failed (admitted : List UserId) (last after : QueueStore)
      (userId : UserId) (rounds : Rounds input swept admitted last)
      (lost : Lost input userId last after) :
      AdmitEnds input swept (.error .invalidExpireTime, after)

theorem Popped.card {eventId : EventId} {userId : UserId}
    {db after : QueueStore} (popped : Popped eventId userId db after) :
    (queue db eventId).card = (queue after eventId).card + 1 := by
  obtain ⟨score, entries⟩ := popped.entries
  rw [SortedSet.card, entries, List.length_cons]
  rfl

theorem Popped.waiting {eventId : EventId} {userId : UserId}
    {db after : QueueStore} (popped : Popped eventId userId db after) :
    waiting db eventId = userId :: Queue.waiting after eventId := by
  obtain ⟨score, entries⟩ := popped.entries
  rw [Queue.waiting, SortedSet.members, entries, List.map_cons]
  rfl

theorem Popped.mem_waiting {eventId : EventId} {userId : UserId}
    {db after : QueueStore} (popped : Popped eventId userId db after) {other : EventId}
    {user : UserId} (still : user ∈ Queue.waiting after other) :
    user ∈ Queue.waiting db other := by
  by_cases same : other = eventId
  · subst other
    rw [popped.waiting]
    exact List.mem_cons_of_mem _ still
  · rw [Queue.waiting, ← popped.others other same]
    exact still

theorem Popped.head_mem_waiting {eventId : EventId} {userId : UserId}
    {db after : QueueStore} (popped : Popped eventId userId db after) :
    userId ∈ Queue.waiting db eventId := by
  rw [popped.waiting]
  exact List.mem_cons_self

theorem Popped.head_notMem_waiting {eventId : EventId} {userId : UserId}
    {db after : QueueStore} (popped : Popped eventId userId db after) :
    userId ∉ Queue.waiting after eventId := by
  have nodup : (Queue.waiting db eventId).Nodup := (queue db eventId).nodup
  rw [popped.waiting] at nodup
  exact (List.nodup_cons.mp nodup).1

/-- With more fuel than users in the queue the loop runs to its end. -/
theorem admitLoop_ends {input : AdmitInput} {start : QueueStore}
    (fuel : Nat) :
    ∀ (admitted : List UserId) (db : QueueStore),
      (queue db input.eventId).card < fuel →
      Rounds input start admitted db →
      AdmitEnds input start
        (admitLoop (.queueKey input.eventId) (.activeKey input.eventId)
          (.tokenKey input.eventId) input.cap input.ttlSeconds fuel admitted
          db) := by
  induction fuel with
  | zero =>
      intro admitted db enough
      exact absurd enough (Nat.not_lt_zero _)
  | succ fuel inductionHypothesis =>
      intro admitted db enough rounds
      cases round : admitRound input db with
      | none =>
          have last := round
          unfold admitRound at round
          simp only [admitLoop, round]
          exact .ended admitted db rounds last
      | some answer =>
          obtain ⟨answer, after⟩ := answer
          obtain ⟨userId, ⟨rfl, issued⟩ | ⟨rfl, lost⟩⟩ :=
            admitRound_cases round
          · unfold admitRound at round
            simp only [admitLoop, round]
            have fewer := issued.toPopped.card
            apply inductionHypothesis
            · omega
            · exact rounds.next issued
          · unfold admitRound at round
            simp only [admitLoop, round]
            exact .failed admitted db after userId rounds lost

/-- Every admit sweeps the active set, runs its rounds and ends. -/
theorem admitUsers_ends (input : AdmitInput) (db : QueueStore) :
    ∃ swept, Swept input.eventId db swept ∧
      AdmitEnds input swept (admitUsers input db) :=
  ⟨_, swept_smembers input.eventId db,
    admitLoop_ends _ [] _ (Nat.lt_succ_self _) .none⟩

/-- An admit that succeeds leaves no room, or nobody in the queue. -/
theorem full_or_noneWaiting {input : AdmitInput} {db after : QueueStore}
    {admitted : List UserId}
    (succeeded : admitUsers input db = (.ok admitted, after)) :
    input.cap ≤ ((activeUsers after input.eventId).card : Int) ∨
      waiting after input.eventId = [] := by
  obtain ⟨swept, _, ends⟩ := admitUsers_ends input db
  rw [succeeded] at ends
  cases ends with
  | ended _ _ _ noRound => exact admitRound_eq_none_iff.mp noRound

inductive QueueOp where
  | join (eventId : EventId) (userId : UserId)
  | admitUsers (input : AdmitInput)
  | getStatus (eventId : EventId) (userId : UserId)
  | tick (elapsed : Nat)
  deriving DecidableEq, Repr

namespace QueueOp

def apply (db : QueueStore) : QueueOp → QueueStore
  | .join eventId userId => (Queue.join eventId userId db).2
  | .admitUsers input => (Queue.admitUsers input db).2
  | .getStatus _ _ => db
  | .tick elapsed => { db with toDb := db.tick elapsed }

end QueueOp

def queueStep (db : QueueStore) (op : QueueOp) : Option QueueStore :=
  some (op.apply db)

end ConcertTicketing.Queue
