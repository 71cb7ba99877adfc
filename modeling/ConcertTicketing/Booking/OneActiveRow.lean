import ConcertTicketing.Booking.ActiveRows

/-!
# One active row for each hold

`LockSeat` and `ReleaseSeat` touch the audit table in database calls of their
own, which know the seat and the user and not the hold.  Overlapping requests
of one user can insert a second row for a hold or close the row of a hold that
goes on.  As long as a row is inserted only when it is the one row of its hold,
every live hold of a state at rest has exactly one `ACTIVE` row.
-/

namespace ConcertTicketing.Booking

open SeatLock Redis

/-- The number of `ACTIVE` rows of the seat and the user. -/
def activeRows (rows : List SeatLockRow) (seatId : SeatId) (userId : UserId) :
    Nat :=
  rows.countP fun row =>
    decide (row.seatId = seatId ∧ row.userId = userId ∧
      row.status = .active)

/-- The call is about to insert a row of the seat and the user. -/
def Inserts (seatId : SeatId) (userId : UserId) (call : LockCall) : Prop :=
  (∃ expiresAt, call.progress = .running (.recordAcquired expiresAt)) ∧
    call.input.seatId = seatId ∧ call.input.userId = userId

/-- Some lock call is about to insert a row of the seat and the user. -/
def Inserting (world : World) (seatId : SeatId) (userId : UserId) : Prop :=
  ∃ call ∈ world.lockCalls, Inserts seatId userId call

/-- Some release has gone through and is about to close the rows of the seat
and the user. -/
def Releasing (world : World) (seatId : SeatId) (userId : UserId) : Prop :=
  ∃ call ∈ world.releaseCalls, ReleaseCloses seatId userId call

instance (world : World) (seatId : SeatId) (userId : UserId) :
    Decidable (Releasing world seatId userId) :=
  inferInstanceAs (Decidable (∃ call ∈ world.releaseCalls, _))

/-- Every live hold has exactly one `ACTIVE` row. -/
def OneActiveRow (env : Environment) (world : World) : Prop :=
  ∀ seatId userId, HoldsSeat env world.redis seatId userId →
    activeRows world.seatLocks seatId userId = 1

/-- Only the clock and `LockSeat` and `ReleaseSeat` requests without failures
take steps. -/
def LocksAndReleases : Action → Prop
  | .tick _ => True
  | .lockSeat _ => True
  | .releaseSeat _ => True
  | .lockAwait _ outcome => outcome = .resolves
  | .releaseAwait _ outcome => outcome = .resolves
  | _ => False

/-- An inserted row has no other beside it, unless a release is about to
close them, and no release is about to close the row of a hold that goes
on. -/
def InsertsOnlyRow (env : Environment) (world : World)
    (input : LockSeatInput) : LockStage → Prop
  | .recordAcquired _ =>
      (env.seat input.seatId).isSome →
        (Releasing world input.seatId input.userId ∨
          activeRows world.seatLocks input.seatId input.userId = 0) ∧
        (HoldsSeat env world.redis input.seatId input.userId →
          ¬ Releasing world input.seatId input.userId)
  | _ => True

/-- A release that goes through while its user holds the seat releases that
hold, and not a lock of the seat under a foreign event id. -/
def ReleasesOwnHold (env : Environment) (world : World)
    (input : ReleaseInput) : ReleaseStage → Prop
  | .release =>
      holder world.redis input.eventId input.seatId = some input.userId →
      HoldsSeat env world.redis input.seatId input.userId →
      env.SeatOf input.eventId input.seatId
  | .recordReleased => True

/-- Rows are inserted and closed one hold at a time. -/
def AuditsInTurn (env : Environment) (world : World) : Action → Prop
  | .lockAwait index _ =>
      ∀ running ∈ Call.runningAt world.lockCalls index,
        InsertsOnlyRow env world running.1 running.2
  | .releaseAwait index _ =>
      ∀ running ∈ Call.runningAt world.releaseCalls index,
        ReleasesOwnHold env world running.1 running.2
  | _ => True

section Deciding

variable (env : Environment) (world : World)

instance : DecidablePred LocksAndReleases
  | .tick _ => isTrue trivial
  | .lockSeat _ => isTrue trivial
  | .releaseSeat _ => isTrue trivial
  | .createOrder _ => isFalse id
  | .expireOrder _ => isFalse id
  | .lockAwait _ outcome => inferInstanceAs (Decidable (outcome = _))
  | .releaseAwait _ outcome => inferInstanceAs (Decidable (outcome = _))
  | .createAwait _ _ => isFalse id
  | .expireAwait _ _ => isFalse id
  | .deadLetter _ => isFalse id
  | .deliver _ => isFalse id
  | .settle _ => isFalse id
  | .requeue _ => isFalse id

instance (input : LockSeatInput) :
    (stage : LockStage) → Decidable (InsertsOnlyRow env world input stage)
  | .acquire => isTrue trivial
  | .findActive => isTrue trivial
  | .recordAcquired _ => inferInstanceAs (Decidable (_ → _ ∧ _))

instance (input : ReleaseInput) :
    (stage : ReleaseStage) →
      Decidable (ReleasesOwnHold env world input stage)
  | .release => inferInstanceAs (Decidable (_ → _ → _))
  | .recordReleased => isTrue trivial

instance : (action : Action) → Decidable (AuditsInTurn env world action)
  | .tick _ => isTrue trivial
  | .lockSeat _ => isTrue trivial
  | .releaseSeat _ => isTrue trivial
  | .createOrder _ => isTrue trivial
  | .expireOrder _ => isTrue trivial
  | .lockAwait index _ =>
      inferInstanceAs
        (Decidable (∀ running ∈ Call.runningAt world.lockCalls index, _))
  | .releaseAwait index _ =>
      inferInstanceAs
        (Decidable (∀ running ∈ Call.runningAt world.releaseCalls index, _))
  | .createAwait _ _ => isTrue trivial
  | .expireAwait _ _ => isTrue trivial
  | .deadLetter _ => isTrue trivial
  | .deliver _ => isTrue trivial
  | .settle _ => isTrue trivial
  | .requeue _ => isTrue trivial

end Deciding

private theorem activeRows_append (rows : List SeatLockRow) (row : SeatLockRow)
    (seatId : SeatId) (userId : UserId) :
    activeRows (rows ++ [row]) seatId userId =
      activeRows rows seatId userId +
        if row.seatId = seatId ∧ row.userId = userId ∧
          row.status = .active then 1 else 0 := by
  unfold activeRows
  rw [List.countP_append, List.countP_singleton]
  simp only [decide_eq_true_iff]

/-- `recordReleased` closes the rows of its seat and user and no others. -/
theorem activeRows_recordReleased (rows : List SeatLockRow)
    (released : SeatId) (releaser : UserId) (now : Instant)
    (seatId : SeatId) (userId : UserId) :
    activeRows (recordReleased released releaser now rows) seatId userId =
      if released = seatId ∧ releaser = userId then 0
      else activeRows rows seatId userId := by
  unfold activeRows recordReleased
  induction rows with
  | nil => simp
  | cons row rest inductionHypothesis =>
      rw [List.map_cons, List.countP_cons, List.countP_cons,
        inductionHypothesis]
      by_cases same : released = seatId ∧ releaser = userId
      · obtain ⟨rfl, rfl⟩ := same
        simp only [and_self, if_true, Nat.zero_add, decide_eq_true_iff,
          SeatLockRow.settle_seatId, SeatLockRow.settle_userId]
        rw [if_neg]
        rintro ⟨sameSeat, sameUser, active⟩
        have before := SeatLockRow.active_of_settle
          SeatLockStatus.noConfusion active
        exact of_decide_eq_false before.2 ⟨sameSeat, sameUser⟩
      · rw [if_neg same, if_neg same]
        congr 1
        by_cases other : row.seatId = seatId ∧ row.userId = userId
        · have kept : row.settle .released now
              (fun row => decide (row.seatId = released ∧
                row.userId = releaser)) = row := by
            unfold SeatLockRow.settle
            rw [if_neg]
            rintro ⟨chosen, _⟩
            have chosenRow := of_decide_eq_true chosen
            exact same ⟨chosenRow.1.symm.trans other.1,
              chosenRow.2.symm.trans other.2⟩
          rw [kept]
        · simp only [SeatLockRow.settle_seatId, SeatLockRow.settle_userId,
            ← and_assoc, other, false_and]

/-- Rows and calls of one seat and one user. -/
structure RowsCounted (env : Environment) (world : World) (seatId : SeatId)
    (userId : UserId) : Prop where
  atMostOne : Releasing world seatId userId ∨
    activeRows world.seatLocks seatId userId ≤ 1
  /-- the row of a hold is there or is about to be inserted -/
  recorded : HoldsSeat env world.redis seatId userId →
    1 ≤ activeRows world.seatLocks seatId userId ∨
      Inserting world seatId userId
  /-- a hold whose rows are about to be closed gets another one -/
  again : HoldsSeat env world.redis seatId userId →
    Releasing world seatId userId →
    Inserting world seatId userId

private theorem rowsCounted_init (env : Environment) (origin : Instant)
    (seatId : SeatId) (userId : UserId) :
    RowsCounted env (World.init origin) seatId userId where
  atMostOne := Or.inr (Nat.zero_le 1)
  recorded := by
    rintro ⟨seat, _, held⟩
    cases held
  again := by
    rintro ⟨seat, _, held⟩
    cases held

section Steps

variable {env : Environment} {world next : World} {seatId : SeatId}
  {userId : UserId}

/-- A step that neither takes the seat nor touches its rows. -/
theorem RowsCounted.transfer (counted : RowsCounted env world seatId userId)
    (rows : activeRows next.seatLocks seatId userId =
      activeRows world.seatLocks seatId userId)
    (held : HoldsSeat env next.redis seatId userId →
      HoldsSeat env world.redis seatId userId)
    (releasing : Releasing next seatId userId ↔
      Releasing world seatId userId)
    (inserting : Inserting world seatId userId →
      Inserting next seatId userId) :
    RowsCounted env next seatId userId where
  atMostOne := by
    rw [releasing, rows]
    exact counted.atMostOne
  recorded := by
    intro holds
    rw [rows]
    exact (counted.recorded (held holds)).imp_right inserting
  again := by
    intro holds closing
    exact inserting (counted.again (held holds) (releasing.mp closing))

private theorem HoldsSeat.of_tick {db : SeatStore} {elapsed : Nat}
    (held : HoldsSeat env (db.tick elapsed) seatId userId) :
    HoldsSeat env db seatId userId := by
  obtain ⟨seat, found, owned⟩ := held
  exact ⟨seat, found, holder_of_holder_tick owned⟩

private theorem HoldsSeat.of_dropped {db : SeatStore} {eventId : EventId}
    {otherSeat : SeatId} {otherUser : UserId}
    (held : HoldsSeat env (dropped eventId otherSeat otherUser db) seatId
      userId) :
    HoldsSeat env db seatId userId ∧ ¬ (otherSeat = seatId ∧
      env.SeatOf eventId seatId) := by
  obtain ⟨seat, found, owned⟩ := held
  rw [holder_dropped] at owned
  split at owned
  · cases owned
  · next other =>
      refine ⟨⟨seat, found, owned⟩, ?_⟩
      rintro ⟨rfl, ofEvent⟩
      have same : (env.seat otherSeat).map Seat.eventId =
          some seat.eventId := by
        rw [found]
        rfl
      have event : seat.eventId = eventId :=
        Option.some.inj (same.symm.trans ofEvent)
      exact other ⟨event, rfl⟩

/-- A hold after an acquire was there before it, or the acquire granted
it. -/
theorem HoldsSeat.of_acquire {db : SeatStore} {input : AcquireInput}
    (held : HoldsSeat env (SeatLock.acquire input db).2 seatId userId) :
    HoldsSeat env db seatId userId ∨
      (input.seatId = seatId ∧ input.userId = userId ∧
        (SeatLock.acquire input db).1 = .ok .ok) := by
  obtain ⟨seat, found, owned⟩ := held
  have effect : SeatOp.Effect db (.acquire input)
      (SeatLock.acquire input db).2 :=
    SeatOp.effect db (.acquire input)
  rcases holder_of_effect effect owned with
    before | ⟨_, same, _, sameSeat, sameUser, granted⟩
  · exact Or.inl ⟨seat, found, before⟩
  · cases same
    exact Or.inr ⟨sameSeat, sameUser, granted⟩

private theorem releasing_set_iff {calls : List ReleaseCall} {index : Nat}
    {before changed : ReleaseCall} (found : calls[index]? = some before)
    (same : ReleaseCloses seatId userId before ↔
      ReleaseCloses seatId userId changed) :
    (∃ call ∈ calls.set index changed, ReleaseCloses seatId userId call) ↔
      ∃ call ∈ calls, ReleaseCloses seatId userId call := by
  constructor
  · rintro ⟨call, member, closes⟩
    rcases List.mem_or_eq_of_mem_set member with old | rfl
    · exact ⟨call, old, closes⟩
    · exact ⟨before, List.mem_of_getElem? found, same.mpr closes⟩
  · exact Call.exists_mem_set found same.mp

/-- An acquire that grants the seat leaves a call that inserts its row. -/
theorem rowsCounted_acquire (counted : RowsCounted env world seatId userId)
    {index : Nat} {input : LockSeatInput}
    (found : world.lockCalls[index]? = some ⟨input, .running .acquire⟩) :
    RowsCounted env
      { world with
        redis := (SeatLock.acquire (input.acquireInput env) world.redis).2
        lockCalls := world.lockCalls.set index
          ⟨input, lockAnswered env input world.now
            (SeatLock.acquire (input.acquireInput env) world.redis).1⟩ }
      seatId userId := by
  let answer := (SeatLock.acquire (input.acquireInput env) world.redis).1
  have inserting : Inserting world seatId userId →
      ∃ call ∈ world.lockCalls.set index
          ⟨input, lockAnswered env input world.now answer⟩,
        Inserts seatId userId call := by
    refine Call.exists_mem_set found ?_
    rintro ⟨⟨_, running⟩, _⟩
    cases running
  have kept : HoldsSeat env
        (SeatLock.acquire (input.acquireInput env) world.redis).2 seatId
        userId →
      HoldsSeat env world.redis seatId userId ∨
        ∃ call ∈ world.lockCalls.set index
            ⟨input, lockAnswered env input world.now answer⟩,
          Inserts seatId userId call := by
    intro holds
    rcases holds.of_acquire with before | ⟨sameSeat, sameUser, granted⟩
    · exact Or.inl before
    · refine Or.inr ⟨_, Call.mem_set_self found _, ?_, sameSeat, sameUser⟩
      have ok : answer = .ok .ok := granted
      rw [ok]
      exact ⟨_, rfl⟩
  refine ⟨counted.atMostOne, ?_, ?_⟩
  · intro holds
    rcases kept holds with before | inserts
    · exact (counted.recorded before).imp_right inserting
    · exact Or.inr inserts
  · intro holds releasing
    rcases kept holds with before | inserts
    · exact inserting (counted.again before releasing)
    · exact inserts

/-- A row is inserted for the seat and the user. -/
theorem rowsCounted_insert {rows : List SeatLockRow} {calls : List LockCall}
    {lockedAt expiresAt : Instant}
    (alone : Releasing world seatId userId ∨
      activeRows world.seatLocks seatId userId = 0)
    (notReleasing : HoldsSeat env world.redis seatId userId →
      ¬ Releasing world seatId userId)
    (inserted : rows = world.seatLocks ++
      [⟨seatId, userId, lockedAt, expiresAt, none, .active⟩]) :
    RowsCounted env { world with seatLocks := rows, lockCalls := calls }
      seatId userId := by
  have added : activeRows rows seatId userId =
      activeRows world.seatLocks seatId userId + 1 := by
    rw [inserted, activeRows_append, if_pos ⟨rfl, rfl, rfl⟩]
  refine ⟨?_, ?_, ?_⟩
  · rcases alone with releasing | none
    · exact Or.inl releasing
    · right
      have one := added.le
      rw [none] at one
      exact one
  · intro _
    left
    exact (Nat.le_add_left 1 _).trans added.ge
  · intro holds releasing
    exact absurd releasing (notReleasing holds)

private theorem rowsCounted_lockStep
    (counted : RowsCounted env world seatId userId) {index : Nat}
    {input : LockSeatInput} {stage : LockStage} {progress : LockProgress}
    {after : Stores}
    (found : world.lockCalls[index]? = some ⟨input, .running stage⟩)
    (resolved : LockResolved env input world.toStores stage after progress)
    (guarded : InsertsOnlyRow env world input stage) :
    RowsCounted env
      { world with
        toStores := after
        lockCalls := world.lockCalls.set index ⟨input, progress⟩ }
      seatId userId := by
  cases resolved with
  | answered answer redis acquired =>
      have effect :
          redis = (SeatLock.acquire (input.acquireInput env) world.redis).2 :=
        (congrArg Prod.snd acquired).symm
      have reply :
          answer = (SeatLock.acquire (input.acquireInput env) world.redis).1 :=
        (congrArg Prod.fst acquired).symm
      subst effect reply
      exact rowsCounted_acquire counted found
  | found =>
      refine counted.transfer rfl id Iff.rfl (Call.exists_mem_set found ?_)
      rintro ⟨⟨_, running⟩, _⟩
      cases running
  | notFound =>
      refine counted.transfer rfl id Iff.rfl (Call.exists_mem_set found ?_)
      rintro ⟨⟨_, running⟩, _⟩
      cases running
  | recorded expiresAt known =>
      by_cases same : input.seatId = seatId ∧ input.userId = userId
      · obtain ⟨rfl, rfl⟩ := same
        obtain ⟨alone, notReleasing⟩ := guarded known
        exact rowsCounted_insert alone notReleasing rfl
      · refine counted.transfer ?_ id Iff.rfl (Call.exists_mem_set found ?_)
        · refine (activeRows_append _ _ _ _).trans ?_
          rw [if_neg, Nat.add_zero]
          rintro ⟨sameSeat, sameUser, _⟩
          exact same ⟨sameSeat, sameUser⟩
        · rintro ⟨_, inserts⟩
          exact absurd inserts same
  | unrecorded expiresAt unknown =>
      by_cases same : input.seatId = seatId ∧ input.userId = userId
      · obtain ⟨rfl, rfl⟩ := same
        have free : ¬ HoldsSeat env world.redis input.seatId input.userId := by
          rintro ⟨seat, isSeat, _⟩
          rw [Option.mem_def.mp isSeat] at unknown
          exact unknown rfl
        exact ⟨counted.atMostOne, fun holds => absurd holds free,
          fun holds => absurd holds free⟩
      · refine counted.transfer rfl id Iff.rfl (Call.exists_mem_set found ?_)
        rintro ⟨_, inserts⟩
        exact absurd inserts same

private theorem rowsCounted_releaseStep
    (counted : RowsCounted env world seatId userId) {index : Nat}
    {input : ReleaseInput} {stage : ReleaseStage}
    {progress : Progress ReleaseStage (Except ReleaseSeatError Unit)}
    {after : Stores}
    (found : world.releaseCalls[index]? = some ⟨input, .running stage⟩)
    (resolved : ReleaseResolved input world.toStores stage after progress)
    (guarded : ReleasesOwnHold env world input stage) :
    RowsCounted env
      { world with
        toStores := after
        releaseCalls := world.releaseCalls.set index ⟨input, progress⟩ }
      seatId userId := by
  cases resolved with
  | released owned =>
      by_cases same : input.seatId = seatId ∧ input.userId = userId
      · obtain ⟨rfl, rfl⟩ := same
        have free : ¬ HoldsSeat env
            (dropped input.eventId input.seatId input.userId world.redis)
            input.seatId input.userId := by
          intro holds
          obtain ⟨before, other⟩ := holds.of_dropped
          exact other ⟨rfl, guarded owned before⟩
        refine ⟨Or.inl ?_, fun holds => absurd holds free,
          fun holds => absurd holds free⟩
        exact ⟨_, Call.mem_set_self found _, rfl, rfl, rfl⟩
      · refine counted.transfer rfl (fun holds => holds.of_dropped.1)
          (releasing_set_iff found ?_) id
        constructor
        · rintro ⟨running, _⟩
          cases running
        · rintro ⟨_, closes⟩
          exact absurd closes same
  | refused notHeld =>
      refine counted.transfer rfl id (releasing_set_iff found ?_) id
      constructor
      · rintro ⟨running, _⟩
        cases running
      · rintro ⟨running, _⟩
        cases running
  | recorded =>
      have closed := activeRows_recordReleased world.seatLocks input.seatId
        input.userId world.now seatId userId
      by_cases same : input.seatId = seatId ∧ input.userId = userId
      · rw [if_pos same] at closed
        have releasing : Releasing world seatId userId :=
          ⟨_, List.mem_of_getElem? found, rfl, same⟩
        refine ⟨Or.inr (closed.le.trans (Nat.zero_le 1)), ?_, ?_⟩
        · intro holds
          exact Or.inr (counted.again holds releasing)
        · intro holds _
          exact counted.again holds releasing
      · rw [if_neg same] at closed
        refine counted.transfer closed id (releasing_set_iff found ?_) id
        constructor
        · rintro ⟨_, closes⟩
          exact absurd closes same
        · rintro ⟨running, _⟩
          cases running

private theorem rowsCounted_step {action : Action}
    (counted : RowsCounted env world seatId userId)
    (guarded : LocksAndReleases action ∧ AuditsInTurn env world action)
    (stepped : step env world action = some next) :
    RowsCounted env next seatId userId := by
  obtain ⟨allowed, inTurn⟩ := guarded
  cases step_cases stepped with
  | ticked elapsed =>
      exact counted.transfer rfl HoldsSeat.of_tick Iff.rfl id
  | lockRequested input =>
      refine counted.transfer rfl id Iff.rfl ?_
      rintro ⟨call, member, inserts⟩
      exact ⟨call, List.mem_append_left _ member, inserts⟩
  | releaseRequested input =>
      refine counted.transfer rfl id ?_ id
      constructor
      · rintro ⟨call, member, closes⟩
        rcases List.mem_append.mp member with old | new
        · exact ⟨call, old, closes⟩
        · rw [List.mem_singleton] at new
          subst new
          cases closes.1
      · rintro ⟨call, member, closes⟩
        exact ⟨call, List.mem_append_left _ member, closes⟩
  | lockAwaited index outcome input stage progress after found awaited =>
      have resolves : outcome = .resolves := allowed
      subst resolves
      have running := Call.runningAt_eq_some.mpr found
      exact rowsCounted_lockStep counted found (lockSeat_resolved awaited)
        (inTurn _ running)
  | releaseAwaited index outcome input stage progress after found awaited =>
      have resolves : outcome = .resolves := allowed
      subst resolves
      have running := Call.runningAt_eq_some.mpr found
      exact rowsCounted_releaseStep counted found
        (releaseSeat_resolved awaited) (inTurn _ running)
  | _ => exact allowed.elim

end Steps

/-! ## Runs -/

private theorem RowsCounted.one_of_rest {env : Environment} {world : World}
    {seatId : SeatId} {userId : UserId}
    (counted : RowsCounted env world seatId userId) (rest : AtRest world)
    (holds : HoldsSeat env world.redis seatId userId) :
    activeRows world.seatLocks seatId userId = 1 := by
  have notReleasing : ¬ Releasing world seatId userId :=
    fun releasing => rest.not_closing seatId userId (Or.inl releasing)
  have notInserting : ¬ Inserting world seatId userId := by
    rintro ⟨call, member, ⟨_, running⟩, _⟩
    have ended := rest.1 call member
    rw [running] at ended
    cases ended
  have atMost := counted.atMostOne.resolve_left notReleasing
  have atLeast := (counted.recorded holds).resolve_right notInserting
  omega

/-- In every run of `LockSeat` and `ReleaseSeat` requests without failures in
which rows are inserted and closed one hold at a time, every live hold of a
state at rest has exactly one `ACTIVE` row. -/
theorem oneActiveRow_of_auditsInTurn {env : Environment} {origin : Instant}
    {history : List (World × Action)} {world : World}
    (run : Trace (step env) (World.init origin) history world)
    (guarded : StepsMeet
      (fun before action =>
        LocksAndReleases action ∧ AuditsInTurn env before action) history) :
    ∀ reached ∈ visited history world, AtRest reached →
      OneActiveRow env reached := by
  refine Trace.forall_visited _
    (fun reached => AtRest reached → OneActiveRow env reached) ?_ run guarded
  intro past current runHere guardedHere rest seatId userId holds
  have counted : RowsCounted env current seatId userId :=
    Trace.invariantUnder _
      (fun reached => RowsCounted env reached seatId userId)
      (rowsCounted_init env origin seatId userId)
      (fun _ _ _ inductionHypothesis meets stepped =>
        rowsCounted_step inductionHypothesis meets stepped)
      runHere guardedHere
  exact counted.one_of_rest rest holds

/-- User 10 takes seat 7, asks for it again, gives it up and takes it once
more. -/
def reholdInTurn : List Action :=
  lockSeatRun 0 ⟨10, 1, 7⟩ ++ lockSeatRun 1 ⟨10, 1, 7⟩ ++
    releaseSeatRun 0 ⟨1, 7, 10⟩ ++ lockSeatRun 2 ⟨10, 1, 7⟩

private theorem reholdInTurn_enabled :
    (replay (step smallVenue) [] (World.init 0) reholdInTurn).isSome =
      true := by
  decide

theorem oneActiveRow_reholdInTurn :
    OneActiveRow smallVenue
      ((replay (step smallVenue) [] (World.init 0) reholdInTurn).get
        reholdInTurn_enabled).2 :=
  oneActiveRow_of_auditsInTurn
    (Trace.of_replay_get reholdInTurn reholdInTurn_enabled)
    (by decide) _ List.mem_cons_self (by decide)

/-- A second request for the seat finds the lock but not yet its row. -/
def reholdBeforeRow : List Action :=
  [.lockSeat ⟨10, 1, 7⟩, .lockSeat ⟨10, 1, 7⟩, .lockAwait 0 .resolves,
    .lockAwait 1 .resolves, .lockAwait 1 .resolves, .lockAwait 0 .resolves,
    .lockAwait 1 .resolves]

/-- Overlapping requests of one user can leave two `ACTIVE` rows for one
hold. -/
theorem twoActiveRows_reachable :
    ¬ ∀ (env : Environment) (origin : Instant)
        (history : List (World × Action)) (world : World),
      Trace (step env) (World.init origin) history world →
      StepsMeet (fun _ action => LocksAndReleases action) history →
      AtRest world →
      OneActiveRow env world := by
  intro always
  obtain ⟨history, world, run, checked⟩ :=
    Trace.exists_of_replay (step smallVenue) (World.init 0) reholdBeforeRow
      (fun result =>
        decide (StepsMeet (fun _ action => LocksAndReleases action) result.1 ∧
          AtRest result.2 ∧
          HoldsSeat smallVenue result.2.redis 7 10 ∧
          activeRows result.2.seatLocks 7 10 = 2))
      (by decide)
  obtain ⟨allowed, rest, holds, two⟩ := of_decide_eq_true checked
  have one := always smallVenue 0 history world run allowed rest 7 10 holds
  exact absurd (two.symm.trans one) (by decide)

end ConcertTicketing.Booking
