import ConcertTicketing.Queue.Admission
import ConcertTicketing.Queue.Fifo
import Mathlib.Data.Set.Card

/-!
# How many users an admit lets in

The sweep leaves the users with a live token in the active set, and each round
takes the head of the queue.  A head with a live token takes no slot, since it
is in the set already; so the free slots go to the first users without one.
-/

namespace ConcertTicketing.Queue

open Redis

/-- The users with a live token for the event. -/
def liveUsers (db : QueueStore) (eventId : EventId) : Set UserId :=
  {user | HasToken db eventId user}

/-- The waiting users without a live token, in queue order. -/
def waitingWithoutToken (db : QueueStore) (eventId : EventId) : List UserId :=
  (waiting db eventId).filter fun user => decide (¬ HasToken db eventId user)

/-- The users whom a step has given a token that they did not have. -/
def newTokens (eventId : EventId) (db after : QueueStore) : Set UserId :=
  liveUsers after eventId \ liveUsers db eventId

/-- The store after the `for` loop of an admit. -/
def sweptStore (input : AdmitInput) (db : QueueStore) : QueueStore :=
  sweep (.activeKey input.eventId) (.tokenKey input.eventId)
    (db.smembers (.activeKey input.eventId)) db

/-- The `while` loop of an admit after the `for` loop. -/
def runLoop (input : AdmitInput) (fuel : Nat) (db : QueueStore) :
    Except ScriptError (List UserId) × QueueStore :=
  admitLoop (.queueKey input.eventId) (.activeKey input.eventId)
    (.tokenKey input.eventId) input.cap input.ttlSeconds fuel []
    (sweptStore input db)

/-- The loop has stopped before the fuel does. -/
theorem admitLoop_eq_of_enough {input : AdmitInput} (fuel : Nat) :
    ∀ (more : Nat) (admitted : List UserId) (db : QueueStore),
      (queue db input.eventId).card < fuel →
      (queue db input.eventId).card < more →
      admitLoop (.queueKey input.eventId) (.activeKey input.eventId)
          (.tokenKey input.eventId) input.cap input.ttlSeconds fuel admitted
          db =
        admitLoop (.queueKey input.eventId) (.activeKey input.eventId)
          (.tokenKey input.eventId) input.cap input.ttlSeconds more admitted
          db := by
  induction fuel with
  | zero =>
      intro more admitted db enough
      exact absurd enough (Nat.not_lt_zero _)
  | succ fuel inductionHypothesis =>
      intro more admitted db enough enoughMore
      obtain ⟨more, rfl⟩ : ∃ fewer, more = fewer + 1 :=
        Nat.exists_eq_succ_of_ne_zero (by omega)
      cases round : admitRound input db with
      | none =>
          unfold admitRound at round
          simp only [admitLoop, round]
      | some answer =>
          obtain ⟨answer, after⟩ := answer
          obtain ⟨userId, ⟨rfl, issued⟩ | ⟨rfl, lost⟩⟩ :=
            admitRound_cases round
          · unfold admitRound at round
            simp only [admitLoop, round]
            have fewer := issued.toPopped.card
            apply inductionHypothesis
            · omega
            · omega
          · unfold admitRound at round
            simp only [admitLoop, round]

theorem sweptStore_swept (input : AdmitInput) (db : QueueStore) :
    Swept input.eventId db (sweptStore input db) :=
  swept_smembers input.eventId db

/-- With any fuel beyond the length of the queue the loop gives the result of
the admit. -/
theorem runLoop_of_enough (input : AdmitInput) (db : QueueStore) {fuel : Nat}
    (enough : (queue db input.eventId).card < fuel) :
    runLoop input fuel db = admitUsers input db := by
  have sameQueue : queue (sweptStore input db) input.eventId =
      queue db input.eventId :=
    (sweptStore_swept input db).sameQueue.queue
  apply admitLoop_eq_of_enough
  · rw [sameQueue]
    exact enough
  · exact Nat.lt_succ_self _

/-- With a positive time-to-live no script error ends the loop. -/
theorem admitUsers_rounds {input : AdmitInput} (positive : 0 < input.ttlSeconds)
    (db : QueueStore) :
    ∃ swept admitted,
      Swept input.eventId db swept ∧
      (admitUsers input db).1 = .ok admitted ∧
      Rounds input swept admitted (admitUsers input db).2 := by
  obtain ⟨swept, sweeps, ends⟩ := admitUsers_ends input db
  generalize admitUsers input db = result at ends
  cases ends with
  | ended admitted last rounds noRound =>
      exact ⟨swept, admitted, sweeps, rfl, rounds⟩
  | failed admitted last after userId rounds lost =>
      exact absurd positive lost.nonpositive

section Slots

variable {input : AdmitInput} {start db swept last : QueueStore}
  {admitted : List UserId}

/-- The rounds give a token to the users whom they take from the queue. -/
theorem Rounds.hasToken_iff (rounds : Rounds input start admitted last)
    (user : UserId) :
    HasToken last input.eventId user ↔
      user ∈ admitted ∨ HasToken start input.eventId user := by
  induction rounds with
  | none => simp
  | next _ issued inductionHypothesis =>
      rw [issued.hasToken_iff, inductionHypothesis, List.mem_append,
        List.mem_singleton]
      tauto

/-- The users taken from the queue are in the active set. -/
theorem Rounds.activeUsers_eq (rounds : Rounds input start admitted last) :
    activeUsers last input.eventId =
      activeUsers start input.eventId ∪ admitted.toFinset := by
  induction rounds with
  | none => simp
  | next _ issued inductionHypothesis =>
      rw [issued.active, if_pos rfl, inductionHypothesis,
        List.toFinset_append, ← Finset.union_assoc]
      ext user
      simp only [Finset.mem_insert, Finset.mem_union, List.mem_toFinset,
        List.mem_singleton]
      tauto

/-- After the sweep the active set consists of the users with a live token. -/
theorem TokensRecorded.mem_swept_iff (recorded : TokensRecorded db)
    (sweeps : Swept input.eventId db swept) (user : UserId) :
    user ∈ activeUsers swept input.eventId ↔
      HasToken db input.eventId user := by
  rw [sweeps.active, if_pos rfl, Finset.mem_filter]
  constructor
  · intro both
    exact both.2
  · intro token
    exact ⟨recorded _ _ token, token⟩

private theorem TokensRecorded.liveUsers_eq (recorded : TokensRecorded db)
    (sweeps : Swept input.eventId db swept) :
    liveUsers db input.eventId = ↑(activeUsers swept input.eventId) := by
  ext user
  rw [Finset.mem_coe, recorded.mem_swept_iff sweeps]
  rfl

/-- Of the users whom the rounds have taken, those without a live token. -/
def fresh (eventId : EventId) (db : QueueStore) (admitted : List UserId) :
    List UserId :=
  admitted.filter fun user => decide (¬ HasToken db eventId user)

private theorem mem_fresh {eventId : EventId} {user : UserId} :
    user ∈ fresh eventId db admitted ↔
      user ∈ admitted ∧ ¬ HasToken db eventId user := by
  rw [fresh, List.mem_filter, decide_eq_true_iff]

/-- The waiting users without a live token begin with those whom the rounds
have taken. -/
theorem TakenFrom.waitingWithoutToken_eq {eventId : EventId}
    (taken : TakenFrom eventId db admitted last) :
    waitingWithoutToken db eventId =
      fresh eventId db admitted ++ fresh eventId db (waiting last eventId) := by
  rw [waitingWithoutToken, ← taken.inOrder, List.filter_append, fresh, fresh]

private theorem TakenFrom.nodup_fresh {eventId : EventId}
    (taken : TakenFrom eventId db admitted last) :
    (fresh eventId db admitted).Nodup := by
  have distinct : (waiting db eventId).Nodup := (queue db eventId).nodup
  rw [← taken.inOrder] at distinct
  exact (distinct.of_append_left).filter _

/-- A user taken from the queue uses a slot unless he holds a live token. -/
theorem Rounds.activeUsers_card (rounds : Rounds input swept admitted last)
    (recorded : TokensRecorded db) (sweeps : Swept input.eventId db swept)
    (taken : TakenFrom input.eventId db admitted last) :
    (activeUsers last input.eventId).card =
      (liveUsers db input.eventId).ncard +
        (fresh input.eventId db admitted).length := by
  have split : activeUsers last input.eventId =
      activeUsers swept input.eventId ∪
        (fresh input.eventId db admitted).toFinset := by
    rw [rounds.activeUsers_eq]
    ext user
    simp only [Finset.mem_union, List.mem_toFinset, mem_fresh,
      recorded.mem_swept_iff sweeps]
    tauto
  have apart : Disjoint (activeUsers swept input.eventId)
      (fresh input.eventId db admitted).toFinset := by
    rw [Finset.disjoint_left]
    intro user inSet isFresh
    have token := (recorded.mem_swept_iff sweeps user).mp inSet
    exact (mem_fresh.mp (List.mem_toFinset.mp isFresh)).2 token
  rw [split, Finset.card_union_of_disjoint apart,
    List.toFinset_card_of_nodup taken.nodup_fresh,
    recorded.liveUsers_eq sweeps, Set.ncard_coe_finset]

end Slots

/-- The free slots, or all waiting users without a live token when there are
fewer of them. -/
noncomputable def refillCount (input : AdmitInput) (db : QueueStore) : Int :=
  min (max (input.cap - (liveUsers db input.eventId).ncard) 0)
    (waitingWithoutToken db input.eventId).length

/-- An admit ends by itself, and fills the free slots from the front. -/
structure Refills (input : AdmitInput) (db : QueueStore) : Prop where
  ends : ∃ admitted, ∀ fuel, (queue db input.eventId).card < fuel →
    runLoop input fuel db = (.ok admitted, (admitUsers input db).2)
  finite : (liveUsers db input.eventId).Finite
  count : ((newTokens input.eventId db (admitUsers input db).2).ncard : Int) =
    refillCount input db
  first : newTokens input.eventId db (admitUsers input db).2 =
    {user | user ∈ (waitingWithoutToken db input.eventId).take
      (refillCount input db).toNat}
  settled : input.cap ≤
      ((activeUsers (admitUsers input db).2 input.eventId).card : Int) ∨
    waiting (admitUsers input db).2 input.eventId = []

/-- The rounds stop at the cap, and go on until the cap is reached or nobody
is left. -/
theorem length_fresh {input : AdmitInput} {db swept last : QueueStore}
    {admitted : List UserId} (recorded : TokensRecorded db)
    (sweeps : Swept input.eventId db swept)
    (rounds : Rounds input swept admitted last)
    (taken : TakenFrom input.eventId db admitted last)
    (settled : input.cap ≤ ((activeUsers last input.eventId).card : Int) ∨
      waiting last input.eventId = []) :
    ((fresh input.eventId db admitted).length : Int) =
      refillCount input db := by
  have slots := rounds.activeUsers_card recorded sweeps taken
  have parts := congrArg List.length taken.waitingWithoutToken_eq
  rw [List.length_append] at parts
  have bounded : (fresh input.eventId db admitted).length = 0 ∨
      ((activeUsers last input.eventId).card : Int) ≤ input.cap := by
    rcases rounds.card_le with noRound | within
    · left
      have same : activeUsers last input.eventId =
          activeUsers swept input.eventId := by
        rw [noRound]
      rw [same, recorded.liveUsers_eq sweeps, Set.ncard_coe_finset] at slots
      omega
    · exact Or.inr within
  have exhausted : input.cap ≤ ((activeUsers last input.eventId).card : Int) ∨
      (fresh input.eventId db (waiting last input.eventId)).length = 0 := by
    rcases settled with reached | nobody
    · exact Or.inl reached
    · right
      rw [nobody]
      rfl
  unfold refillCount
  omega

/-- In every state that a run of joins, admits, status reads and lapses
reaches, an admit with any cap and a positive time-to-live gives new tokens to
as many waiting users as there are free slots, in queue order. -/
theorem refills_of_run {origin : Instant} {db : QueueStore}
    {history : List (QueueStore × QueueOp)}
    (run : Trace queueStep (QueueStore.empty origin) history db)
    (input : AdmitInput) (positive : 0 < input.ttlSeconds) :
    Refills input db := by
  have recorded : TokensRecorded db := tokensRecorded_of_run run
  obtain ⟨swept, admitted, sweeps, answer, rounds⟩ :=
    admitUsers_rounds positive db
  have result : admitUsers input db = (.ok admitted, (admitUsers input db).2) :=
    Prod.ext answer rfl
  have settled := full_or_noneWaiting result
  have succeeds : (admitUsers input db).1.isOk = true := by
    rw [answer]
    rfl
  obtain ⟨same, again, taken⟩ := admitUsers_takenFrom succeeds
  have sameList : same = admitted := by
    rw [answer] at again
    exact (Except.ok.inj again).symm
  subst sameList
  have number := length_fresh recorded sweeps rounds taken settled
  have given : newTokens input.eventId db (admitUsers input db).2 =
      {user | user ∈ fresh input.eventId db same} := by
    ext user
    have token := rounds.hasToken_iff user
    rw [sweeps.hasToken_iff] at token
    change (HasToken (admitUsers input db).2 input.eventId user ∧
      ¬ HasToken db input.eventId user) ↔ user ∈ fresh input.eventId db same
    rw [token, mem_fresh]
    tauto
  refine ⟨⟨same, ?_⟩, ?_, ?_, ?_, settled⟩
  · intro fuel enough
    rw [runLoop_of_enough input db enough]
    exact result
  · rw [recorded.liveUsers_eq sweeps]
    exact Finset.finite_toSet _
  · rw [given, ← number]
    have asFinset : {user | user ∈ fresh input.eventId db same} =
        ((fresh input.eventId db same).toFinset : Set UserId) := by
      ext user
      rw [Finset.mem_coe, List.mem_toFinset]
      rfl
    rw [asFinset, Set.ncard_coe_finset,
      List.toFinset_card_of_nodup taken.nodup_fresh]
  · rw [given, ← number, Int.toNat_natCast, taken.waitingWithoutToken_eq,
      List.take_left]

/-- User 10 has joined again and 11 has a token; one of three slots is free
after the token of 12 has lapsed, and 13 gets it behind 10. -/
def refillRejoined : List QueueOp :=
  [.join 1 12, .admitUsers ⟨1, 1, 10⟩, .join 1 10, .join 1 11,
    .admitUsers ⟨1, 3, 30⟩, .join 1 10, .join 1 13, .join 1 14, .tick 10000]

private theorem refillRejoined_enabled :
    (replay queueStep [] (QueueStore.empty 0) refillRejoined).isSome =
      true := by
  decide

theorem refills_refillRejoined :
    Refills ⟨1, 3, 30⟩
      ((replay queueStep [] (QueueStore.empty 0) refillRejoined).get
        refillRejoined_enabled).2 :=
  refills_of_run (Trace.of_replay_get refillRejoined refillRejoined_enabled)
    ⟨1, 3, 30⟩ (by decide)

end ConcertTicketing.Queue
