import ConcertTicketing.Library.Trace
import ConcertTicketing.Queue.Store

/-!
# The admission cap

Tokens lapse by themselves, and the active set is cleaned by the next admit
only.  A live token is always recorded in the set, so the guard of the loop,
which looks at the size of the set, bounds the number of live tokens.
-/

namespace ConcertTicketing.Queue

open Redis

/-- Live tokens are recorded in the active set of their event. -/
def TokensRecorded (db : QueueStore) : Prop :=
  ∀ eventId userId,
    HasToken db eventId userId → userId ∈ activeUsers db eventId

/-- No more than `bound` users hold a live token for the event. -/
def LiveAtMost (bound : Int) (eventId : EventId) (db : QueueStore) : Prop :=
  ∀ users : Finset UserId,
    (∀ userId ∈ users, HasToken db eventId userId) →
    (users.card : Int) ≤ bound

theorem TokensRecorded.liveAtMost {db : QueueStore} {bound : Int}
    {eventId : EventId} (recorded : TokensRecorded db)
    (within : ((activeUsers db eventId).card : Int) ≤ bound) :
    LiveAtMost bound eventId db := by
  intro users live
  have subset : users ⊆ activeUsers db eventId := by
    intro userId member
    exact recorded eventId userId (live userId member)
  have fewer := Finset.card_le_card subset
  omega

section Admits

variable {input : AdmitInput} {eventId : EventId} {userId : UserId}
  {db after : QueueStore}

theorem Swept.hasToken_iff {swept : QueueStore}
    (sweeps : Swept eventId db swept) (other : EventId) (user : UserId) :
    HasToken swept other user ↔ HasToken db other user := by
  rw [HasToken, tokenEntry, sweeps.find]
  rfl

theorem Issued.hasToken_iff (issued : Issued input userId db after)
    (other : EventId) (user : UserId) :
    HasToken after other user ↔
      (other = input.eventId ∧ user = userId) ∨ HasToken db other user := by
  rw [HasToken, issued.token]
  by_cases given : other = input.eventId ∧ user = userId
  · simp [given]
  · simp [given, HasToken]

theorem Lost.hasToken_iff (lost : Lost input userId db after)
    (other : EventId) (user : UserId) :
    HasToken after other user ↔ HasToken db other user := by
  rw [HasToken, lost.token]
  rfl

theorem TokensRecorded.swept {swept : QueueStore}
    (recorded : TokensRecorded db) (sweeps : Swept eventId db swept) :
    TokensRecorded swept := by
  intro other user token
  have before := (sweeps.hasToken_iff other user).mp token
  have member := recorded other user before
  rw [sweeps.active]
  by_cases same : other = eventId
  · subst other
    rw [if_pos rfl]
    exact Finset.mem_filter.mpr ⟨member, before⟩
  · rw [if_neg same]
    exact member

theorem TokensRecorded.issued (recorded : TokensRecorded db)
    (issued : Issued input userId db after) : TokensRecorded after := by
  intro other user token
  rw [issued.active]
  rcases (issued.hasToken_iff other user).mp token with
    ⟨sameEvent, sameUser⟩ | before
  · rw [if_pos sameEvent, sameUser]
    exact Finset.mem_insert_self _ _
  · have member := recorded other user before
    by_cases same : other = input.eventId
    · subst other
      rw [if_pos rfl]
      exact Finset.mem_insert_of_mem member
    · rw [if_neg same]
      exact member

theorem TokensRecorded.lost (recorded : TokensRecorded db)
    (lost : Lost input userId db after) : TokensRecorded after := by
  intro other user token
  rw [lost.active]
  exact recorded other user ((lost.hasToken_iff other user).mp token)

theorem TokensRecorded.rounds {start : QueueStore}
    {admitted : List UserId} (recorded : TokensRecorded start)
    (rounds : Rounds input start admitted db) : TokensRecorded db := by
  induction rounds with
  | none => exact recorded
  | next _ issued inductionHypothesis =>
      exact inductionHypothesis.issued issued

/-- A live token survives the rounds of an admit. -/
theorem Rounds.hasToken {start : QueueStore} {admitted : List UserId}
    (rounds : Rounds input start admitted db) {other : EventId}
    {user : UserId} (token : HasToken start other user) :
    HasToken db other user := by
  induction rounds with
  | none => exact token
  | next _ issued inductionHypothesis =>
      exact (issued.hasToken_iff other user).mpr (Or.inr inductionHypothesis)

/-- As soon as the loop has admitted somebody, the active set is within the
cap. -/
theorem Rounds.card_le {start : QueueStore} {admitted : List UserId}
    (rounds : Rounds input start admitted db) :
    db = start ∨
      ((activeUsers db input.eventId).card : Int) ≤ input.cap := by
  cases rounds with
  | none => exact Or.inl rfl
  | @next _ before _ userId _ issued =>
      right
      rw [issued.active, if_pos rfl]
      have grown :=
        Finset.card_insert_le userId (activeUsers before input.eventId)
      have room := issued.room
      omega

/-- An admit does not touch the active sets of other events. -/
theorem Rounds.activeUsers_of_ne {start : QueueStore}
    {admitted : List UserId} (rounds : Rounds input start admitted db)
    {other : EventId} (different : other ≠ input.eventId) :
    activeUsers db other = activeUsers start other := by
  induction rounds with
  | none => rfl
  | next _ issued inductionHypothesis =>
      rw [issued.active, if_neg different, inductionHypothesis]

end Admits

/-- What an admit leaves: a state after some rounds, up to the queues. -/
theorem admitUsers_tokens (input : AdmitInput) (db : QueueStore) :
    ∃ swept admitted last,
      Swept input.eventId db swept ∧ Rounds input swept admitted last ∧
      (∀ other user, tokenEntry (admitUsers input db).2 other user =
        tokenEntry last other user) ∧
      ∀ other, activeUsers (admitUsers input db).2 other =
        activeUsers last other := by
  obtain ⟨swept, sweeps, ends⟩ := admitUsers_ends input db
  generalize admitUsers input db = result at ends
  cases ends with
  | ended admitted last rounds =>
      exact ⟨swept, admitted, last, sweeps, rounds, fun _ _ => rfl,
        fun _ => rfl⟩
  | failed admitted last after userId rounds lost =>
      exact ⟨swept, admitted, last, sweeps, rounds, lost.token, lost.active⟩

theorem tokensRecorded_empty (origin : Instant) :
    TokensRecorded (QueueStore.empty origin) := by
  intro eventId userId token
  cases token

theorem TokensRecorded.congr {db after : QueueStore}
    (recorded : TokensRecorded db)
    (tokens : ∀ eventId userId,
      HasToken after eventId userId → HasToken db eventId userId)
    (active : ∀ eventId, activeUsers after eventId = activeUsers db eventId) :
    TokensRecorded after := by
  intro eventId userId token
  rw [active]
  exact recorded eventId userId (tokens eventId userId token)

/-- A token that is live later was live before. -/
theorem hasToken_of_tick {db : QueueStore} {elapsed : Nat}
    {eventId : EventId} {userId : UserId}
    (token : HasToken { db with toDb := db.tick elapsed } eventId userId) :
    HasToken db eventId userId := by
  have later : ((db.tick elapsed).find (.tokenKey eventId userId)).isSome :=
    token
  rw [Db.find_tick] at later
  obtain ⟨entry, found⟩ := Option.isSome_iff_exists.mp later
  have before := (Option.filter_eq_some_iff.mp found).1
  exact Option.isSome_iff_exists.mpr ⟨entry, before⟩

/-- A join touches neither tokens nor active sets. -/
theorem join_tokens (eventId : EventId) (userId : UserId)
    (db : QueueStore) :
    (∀ other user, tokenEntry (join eventId userId db).2 other user =
      tokenEntry db other user) ∧
    ∀ other, activeUsers (join eventId userId db).2 other =
      activeUsers db other := by
  rcases join_cases eventId userId db with
    ⟨_, same⟩ | ⟨_, ⟨_, _, joined⟩ | ⟨_, same⟩⟩
  · rw [same]
    exact ⟨fun _ _ => rfl, fun _ => rfl⟩
  · exact ⟨joined.token, joined.active⟩
  · rw [same]
    exact ⟨fun _ _ => rfl, fun _ => rfl⟩

theorem TokensRecorded.apply {db : QueueStore}
    (recorded : TokensRecorded db) (op : QueueOp) :
    TokensRecorded (op.apply db) := by
  cases op with
  | join eventId userId =>
      obtain ⟨tokens, active⟩ := join_tokens eventId userId db
      refine recorded.congr ?_ active
      intro other user token
      have entry := tokens other user
      rw [HasToken, ← entry]
      exact token
  | admitUsers input =>
      obtain ⟨swept, admitted, last, sweeps, rounds, tokens, active⟩ :=
        admitUsers_tokens input db
      refine ((recorded.swept sweeps).rounds rounds).congr ?_ active
      intro other user token
      have entry := tokens other user
      rw [HasToken, ← entry]
      exact token
  | getStatus eventId userId => exact recorded
  | tick elapsed =>
      refine recorded.congr ?_ (fun _ => rfl)
      intro other user token
      exact hasToken_of_tick token

theorem tokensRecorded_of_run {origin : Instant} {db : QueueStore}
    {history : List (QueueStore × QueueOp)}
    (run : Trace queueStep (QueueStore.empty origin) history db) :
    TokensRecorded db := by
  refine Trace.invariant TokensRecorded (tokensRecorded_empty origin) ?_ run
  intro before op after recorded stepped
  cases stepped
  exact recorded.apply op

/-- The admits of the event all have the same cap. -/
def QueueOp.CapIs (cap : Int) (eventId : EventId) : QueueOp → Prop
  | .admitUsers input => input.eventId = eventId → input.cap = cap
  | _ => True

instance (cap : Int) (eventId : EventId) :
    DecidablePred (QueueOp.CapIs cap eventId)
  | .admitUsers input =>
      inferInstanceAs (Decidable (input.eventId = eventId → input.cap = cap))
  | .join _ _ => isTrue trivial
  | .getStatus _ _ => isTrue trivial
  | .tick _ => isTrue trivial

/-- An admit leaves the active set within its cap, or as the sweep has left
it. -/
theorem activeUsers_admitUsers_card (input : AdmitInput) (db : QueueStore) :
    (activeUsers (admitUsers input db).2 input.eventId).card ≤
        (activeUsers db input.eventId).card ∨
      ((activeUsers (admitUsers input db).2 input.eventId).card : Int) ≤
        input.cap := by
  obtain ⟨swept, admitted, last, sweeps, rounds, _, active⟩ :=
    admitUsers_tokens input db
  rw [active]
  rcases rounds.card_le with same | within
  · left
    rw [same, sweeps.active, if_pos rfl]
    exact Finset.card_filter_le _ _
  · exact Or.inr within

theorem activeWithin_apply {cap : Int} {eventId : EventId}
    {db : QueueStore} {op : QueueOp}
    (within : (activeUsers db eventId).card ≤ cap.toNat)
    (fixed : op.CapIs cap eventId) :
    (activeUsers (op.apply db) eventId).card ≤ cap.toNat := by
  cases op with
  | join event userId =>
      have same := (join_tokens event userId db).2 eventId
      rw [QueueOp.apply, same]
      exact within
  | admitUsers input =>
      rw [QueueOp.apply]
      by_cases sameEvent : input.eventId = eventId
      · have sameCap : input.cap = cap := fixed sameEvent
        subst sameEvent
        rcases activeUsers_admitUsers_card input db with fewer | below
        · exact fewer.trans within
        · omega
      · obtain ⟨swept, admitted, last, sweeps, rounds, _, active⟩ :=
          admitUsers_tokens input db
        have different : eventId ≠ input.eventId := Ne.symm sameEvent
        rw [active, rounds.activeUsers_of_ne different, sweeps.active,
          if_neg different]
        exact within
  | getStatus event userId => exact within
  | tick elapsed => exact within

private theorem activeWithin_of_run {origin : Instant} {db : QueueStore}
    {history : List (QueueStore × QueueOp)} {cap : Int} {eventId : EventId}
    (run : Trace queueStep (QueueStore.empty origin) history db)
    (fixed : StepsMeet (fun _ op => op.CapIs cap eventId) history) :
    (activeUsers db eventId).card ≤ cap.toNat := by
  refine Trace.invariantUnder (fun _ op => op.CapIs cap eventId)
    (fun current => (activeUsers current eventId).card ≤ cap.toNat)
    (Nat.zero_le _) ?_ run fixed
  intro before op after within fixedHere stepped
  cases stepped
  exact activeWithin_apply within fixedHere

/-- When an admit gives a token to a user without a live one, the users with
live tokens are within its cap afterwards. -/
theorem liveAtMost_of_newToken {db : QueueStore} {input : AdmitInput}
    (recorded : TokensRecorded db) {userId : UserId}
    (without : ¬ HasToken db input.eventId userId)
    (given : HasToken (admitUsers input db).2 input.eventId userId) :
    LiveAtMost input.cap input.eventId (admitUsers input db).2 := by
  have recordedAfter : TokensRecorded (admitUsers input db).2 :=
    recorded.apply (.admitUsers input)
  obtain ⟨swept, admitted, last, sweeps, rounds, tokens, active⟩ :=
    admitUsers_tokens input db
  apply recordedAfter.liveAtMost
  rw [active]
  rcases rounds.card_le with same | within
  · rw [HasToken, tokens, same] at given
    exact absurd ((sweeps.hasToken_iff _ _).mp given) without
  · exact within

/-- A live token stays live through an admit. -/
theorem hasToken_admitUsers {db : QueueStore} (input : AdmitInput)
    {eventId : EventId} {userId : UserId}
    (token : HasToken db eventId userId) :
    HasToken (admitUsers input db).2 eventId userId := by
  obtain ⟨swept, admitted, last, sweeps, rounds, tokens, _⟩ :=
    admitUsers_tokens input db
  rw [HasToken, tokens]
  exact rounds.hasToken ((sweeps.hasToken_iff _ _).mpr token)

/-- The cap on the users with a live token, in a state that a run has
reached. -/
structure AdmissionCap (history : List (QueueStore × QueueOp))
    (db : QueueStore) : Prop where
  constantCap : ∀ eventId cap,
    StepsMeet (fun _ op => op.CapIs cap eventId) history →
    LiveAtMost cap.toNat eventId db
  atCap : ∀ (input : AdmitInput) (users : Finset UserId),
    (∀ userId ∈ users, HasToken db input.eventId userId) →
    input.cap ≤ users.card →
    ∀ userId,
      HasToken (admitUsers input db).2 input.eventId userId →
      HasToken db input.eventId userId
  newToken : ∀ (input : AdmitInput) (userId : UserId),
    ¬ HasToken db input.eventId userId →
    HasToken (admitUsers input db).2 input.eventId userId →
    LiveAtMost input.cap input.eventId (admitUsers input db).2

/-- In every run of joins, admits, status reads and lapses, with a constant
cap no more users than the cap hold a live token, and an admit with any cap
gives no new token beyond it. -/
theorem admissionCap_of_run {origin : Instant} {db : QueueStore}
    {history : List (QueueStore × QueueOp)}
    (run : Trace queueStep (QueueStore.empty origin) history db) :
    AdmissionCap history db where
  constantCap := by
    intro eventId cap fixed
    have within := activeWithin_of_run run fixed
    apply (tokensRecorded_of_run run).liveAtMost
    exact Int.ofNat_le.mpr within
  atCap := by
    intro input users live reached userId given
    by_contra without
    have bounded :=
      liveAtMost_of_newToken (tokensRecorded_of_run run) without given
    have absent : userId ∉ users := fun member => without (live userId member)
    have allLive : ∀ user ∈ insert userId users,
        HasToken (admitUsers input db).2 input.eventId user := by
      intro user member
      rcases Finset.mem_insert.mp member with rfl | old
      · exact given
      · exact hasToken_admitUsers input (live user old)
    have count := bounded (insert userId users) allLive
    rw [Finset.card_insert_of_notMem absent] at count
    omega
  newToken := by
    intro input userId without given
    exact liveAtMost_of_newToken (tokensRecorded_of_run run) without given

/-- Three users join, and two admits with a cap of 2 run, the second one
after the tokens have lapsed. -/
def admitTwice : List QueueOp :=
  [.join 1 10, .join 1 11, .join 1 12, .admitUsers ⟨1, 2, 30⟩,
    .getStatus 1 10, .join 1 10, .tick 30000, .admitUsers ⟨1, 2, 30⟩]

private theorem admitTwice_enabled :
    (replay queueStep [] (QueueStore.empty 0) admitTwice).isSome = true := by
  decide

theorem admissionCap_admitTwice :
    LiveAtMost 2 1
      ((replay queueStep [] (QueueStore.empty 0) admitTwice).get
        admitTwice_enabled).2 :=
  (admissionCap_of_run
    (Trace.of_replay_get admitTwice admitTwice_enabled)).constantCap 1 2
      (by decide)

end ConcertTicketing.Queue
