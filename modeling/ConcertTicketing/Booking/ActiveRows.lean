import ConcertTicketing.Booking.Effects

/-!
# Active audit rows

A `seat_locks` row is written and closed after the fact: by `LockSeat` behind
its acquire, by `ReleaseSeat` behind its release and by `ExpireOrder` behind
its loop over the seats.  Nothing closes the row of a hold that lapses by its
TTL.  As long as no audited hold lapses and a row is inserted only for a hold
that is still there, every `ACTIVE` row of a state at rest is a live hold.
-/

namespace ConcertTicketing.Booking

open SeatLock Redis

/-- No request is in flight. -/
def AtRest (world : World) : Prop :=
  (∀ call ∈ world.lockCalls, call.progress.isRunning = false) ∧
  (∀ call ∈ world.releaseCalls, call.progress.isRunning = false) ∧
  (∀ call ∈ world.createCalls, call.progress.isRunning = false) ∧
  ∀ call ∈ world.expireCalls, call.progress.isRunning = false

instance : DecidablePred AtRest :=
  fun _ => inferInstanceAs (Decidable (_ ∧ _ ∧ _ ∧ _))

def Resolves : Action → Prop
  | .lockAwait _ outcome => outcome = .resolves
  | .releaseAwait _ outcome => outcome = .resolves
  | .createAwait _ outcome => outcome = .resolves
  | .expireAwait _ outcome => outcome = .resolves
  | _ => True

instance : DecidablePred Resolves
  | .tick _ => isTrue trivial
  | .lockSeat _ => isTrue trivial
  | .releaseSeat _ => isTrue trivial
  | .createOrder _ => isTrue trivial
  | .expireOrder _ => isTrue trivial
  | .lockAwait _ outcome => inferInstanceAs (Decidable (outcome = _))
  | .releaseAwait _ outcome => inferInstanceAs (Decidable (outcome = _))
  | .createAwait _ outcome => inferInstanceAs (Decidable (outcome = _))
  | .expireAwait _ outcome => inferInstanceAs (Decidable (outcome = _))
  | .deadLetter _ => isTrue trivial
  | .deliver _ => isTrue trivial
  | .settle _ => isTrue trivial
  | .requeue _ => isTrue trivial

/-- The user owns the live lock of the seat under the seat's own event. -/
def HoldsSeat (env : Environment) (db : SeatStore) (seatId : SeatId)
    (userId : UserId) : Prop :=
  ∃ seat ∈ env.seat seatId, holder db seat.eventId seatId = some userId

instance (env : Environment) (db : SeatStore) (seatId : SeatId)
    (userId : UserId) : Decidable (HoldsSeat env db seatId userId) :=
  inferInstanceAs (Decidable (∃ seat ∈ env.seat seatId, _))

/-- The release has gone through and is about to be recorded. -/
def ReleaseCloses (seatId : SeatId) (userId : UserId) (call : ReleaseCall) :
    Prop :=
  call.progress = .running .recordReleased ∧
    call.input.seatId = seatId ∧ call.input.userId = userId

/-- The order whose seats the call is releasing. -/
def expiring : ExpireProgress → Option ExpireResult
  | .running (.releaseHold result _) => some result
  | .running (.expireSeatLockAudit result) => some result
  | _ => none

/-- The expiry is on its way to the rows of the seat and the user. -/
def ExpiryCloses (seatId : SeatId) (userId : UserId) (call : ExpireCall) :
    Prop :=
  ∃ result ∈ expiring call.progress,
    seatId ∈ result.seatIds ∧ result.userId = userId

/-- Some call is about to close the rows of the seat and the user. -/
def Closing (world : World) (seatId : SeatId) (userId : UserId) : Prop :=
  (∃ call ∈ world.releaseCalls, ReleaseCloses seatId userId call) ∨
    ∃ call ∈ world.expireCalls, ExpiryCloses seatId userId call

instance (seatId : SeatId) (userId : UserId) :
    DecidablePred (ReleaseCloses seatId userId) :=
  fun _ => inferInstanceAs (Decidable (_ ∧ _ ∧ _))

instance (seatId : SeatId) (userId : UserId) :
    DecidablePred (ExpiryCloses seatId userId) :=
  fun call =>
    inferInstanceAs (Decidable (∃ result ∈ expiring call.progress, _))

instance (world : World) (seatId : SeatId) (userId : UserId) :
    Decidable (Closing world seatId userId) :=
  inferInstanceAs (Decidable (_ ∨ _))

/-- Every `ACTIVE` row is of a live hold of its user. -/
def ActiveRowsHeld (env : Environment) (world : World) : Prop :=
  ∀ row ∈ world.seatLocks, row.status = .active →
    HoldsSeat env world.redis row.seatId row.userId

/-- The same, up to the rows that are about to be closed. -/
def ActiveRowsHeldOrClosing (env : Environment) (world : World) : Prop :=
  ∀ row ∈ world.seatLocks, row.status = .active →
    HoldsSeat env world.redis row.seatId row.userId ∨
      Closing world row.seatId row.userId

/-- No audited hold lapses, unless its row is about to be closed. -/
def KeepsAuditedHolds (env : Environment) (world : World) (elapsed : Nat) :
    Prop :=
  ∀ row ∈ world.seatLocks, row.status = .active →
    HoldsSeat env world.redis row.seatId row.userId →
    HoldsSeat env (world.redis.tick elapsed) row.seatId row.userId ∨
      Closing world row.seatId row.userId

/-- A row is inserted for a hold that is still there, or in time to be closed
by the release that ended it. -/
def InsertsForHold (env : Environment) (world : World)
    (input : LockSeatInput) : LockStage → Prop
  | .recordAcquired _ =>
      (env.seat input.seatId).isSome →
        HoldsSeat env world.redis input.seatId input.userId ∨
          Closing world input.seatId input.userId
  | _ => True

/-- `EXPIRE` with a positive number of seconds renews the locks; any other
deletes them. -/
def RenewsHolds (env : Environment) : CreateStage → Prop
  | .extendHold _ => 0 < env.bookingWindowSeconds
  | _ => True

/-- Neither a lapse nor a late insert leaves an `ACTIVE` row without its
hold. -/
def AuditsLiveHolds (env : Environment) (world : World) : Action → Prop
  | .tick elapsed => KeepsAuditedHolds env world elapsed
  | .lockAwait index _ =>
      ∀ running ∈ Call.runningAt world.lockCalls index,
        InsertsForHold env world running.1 running.2
  | .createAwait index _ =>
      ∀ running ∈ Call.runningAt world.createCalls index,
        RenewsHolds env running.2
  | _ => True

section Deciding

variable (env : Environment) (world : World)

instance (elapsed : Nat) : Decidable (KeepsAuditedHolds env world elapsed) :=
  inferInstanceAs (Decidable (∀ row ∈ world.seatLocks, _ → _ → _))

instance (input : LockSeatInput) :
    (stage : LockStage) → Decidable (InsertsForHold env world input stage)
  | .acquire => isTrue trivial
  | .findActive => isTrue trivial
  | .recordAcquired _ => inferInstanceAs (Decidable (_ → _))

instance : (stage : CreateStage) → Decidable (RenewsHolds env stage)
  | .verifyHeld => isTrue trivial
  | .loadSeatPricing => isTrue trivial
  | .insertOrder _ => isTrue trivial
  | .extendHold _ => inferInstanceAs (Decidable (_ < _))
  | .commit _ => isTrue trivial
  | .publishExpiration _ => isTrue trivial
  | .findByIdempotencyKey => isTrue trivial

instance : (action : Action) → Decidable (AuditsLiveHolds env world action)
  | .tick _ => inferInstanceAs (Decidable (KeepsAuditedHolds _ _ _))
  | .lockSeat _ => isTrue trivial
  | .releaseSeat _ => isTrue trivial
  | .createOrder _ => isTrue trivial
  | .expireOrder _ => isTrue trivial
  | .lockAwait index _ =>
      inferInstanceAs
        (Decidable (∀ running ∈ Call.runningAt world.lockCalls index, _))
  | .releaseAwait _ _ => isTrue trivial
  | .createAwait index _ =>
      inferInstanceAs
        (Decidable (∀ running ∈ Call.runningAt world.createCalls index, _))
  | .expireAwait _ _ => isTrue trivial
  | .deadLetter _ => isTrue trivial
  | .deliver _ => isTrue trivial
  | .settle _ => isTrue trivial
  | .requeue _ => isTrue trivial

end Deciding

section Scripts

variable {env : Environment} {db : SeatStore} {seatId : SeatId}
  {userId : UserId}

theorem HoldsSeat.acquire (held : HoldsSeat env db seatId userId)
    (input : AcquireInput) :
    HoldsSeat env (SeatLock.acquire input db).2 seatId userId := by
  obtain ⟨seat, found, owned⟩ := held
  have effect :
      SeatOp.Effect db (.acquire input) (SeatLock.acquire input db).2 :=
    SeatOp.effect db (.acquire input)
  generalize (SeatLock.acquire input db).2 = after at effect
  cases effect with
  | unchanged => exact ⟨seat, found, owned⟩
  | granted _ free _ positive =>
      refine ⟨seat, found, ?_⟩
      rw [holder_granted positive]
      split
      · next same =>
          rw [same.1, same.2, free] at owned
          cases owned
      · exact owned
  | dropped _ _ _ _ releases =>
      rcases releases with other | other <;> cases other

/-- Dropping a lock ends no hold but that one. -/
theorem HoldsSeat.dropped_cases (held : HoldsSeat env db seatId userId)
    {eventId : EventId} {otherSeat : SeatId} {otherUser : UserId}
    (owned : holder db eventId otherSeat = some otherUser) :
    HoldsSeat env (dropped eventId otherSeat otherUser db) seatId userId ∨
      (otherSeat = seatId ∧ otherUser = userId) := by
  obtain ⟨seat, found, holds⟩ := held
  by_cases same : seat.eventId = eventId ∧ seatId = otherSeat
  · obtain ⟨rfl, rfl⟩ := same
    rw [owned] at holds
    exact Or.inr ⟨rfl, Option.some.inj holds⟩
  · refine Or.inl ⟨seat, found, ?_⟩
    rw [holder_dropped, if_neg same]
    exact holds

theorem HoldsSeat.extended (held : HoldsSeat env db seatId userId)
    {ttlSeconds : Int} (positive : 0 < ttlSeconds) (eventId : EventId)
    (seatIds : List SeatId) :
    HoldsSeat env (SeatLock.extended eventId seatIds ttlSeconds db) seatId
      userId := by
  obtain ⟨seat, found, owned⟩ := held
  refine ⟨seat, found, ?_⟩
  rw [holder_extended positive]
  exact owned

end Scripts

/-- An `ACTIVE` row after an update was there before it and was not
selected. -/
theorem mem_of_mem_settle {rows : List SeatLockRow} {status : SeatLockStatus}
    {now : Instant} {selected : SeatLockRow → Bool} {row : SeatLockRow}
    (settles : status ≠ .active)
    (member : row ∈ rows.map (SeatLockRow.settle status now selected))
    (active : row.status = .active) :
    row ∈ rows ∧ selected row = false := by
  obtain ⟨earlier, old, rfl⟩ := List.mem_map.mp member
  have before := SeatLockRow.active_of_settle settles active
  have same : earlier.settle status now selected = earlier := by
    unfold SeatLockRow.settle
    rw [if_neg]
    rintro ⟨chosen, _⟩
    rw [before.2] at chosen
    cases chosen
  rw [same]
  exact ⟨old, before.2⟩

/-- After its last release the expiry is still on its way to the rows. -/
theorem expiring_releaseFrom (result : ExpireResult) (position : Nat) :
    expiring (releaseFrom result position) = some result := by
  unfold releaseFrom
  split <;> rfl

section Steps

variable {env : Environment} {world next : World} {action : Action}
  {row : SeatLockRow}

/-- An `ACTIVE` row after a step was held or about to be closed before it. -/
theorem heldOrClosing_of_mem_next
    (sound : ActiveRowsHeldOrClosing env world)
    (audits : AuditsLiveHolds env world action)
    (stepped : step env world action = some next)
    (member : row ∈ next.seatLocks) (active : row.status = .active) :
    HoldsSeat env world.redis row.seatId row.userId ∨
      Closing world row.seatId row.userId := by
  cases step_cases stepped with
  | lockAwaited index outcome input stage progress after found awaited =>
      rcases AsyncFunction.await_cases awaited with
        ⟨resolved, performed, _⟩ | ⟨rfl, _⟩
      · cases lockSeat_resolved performed with
        | recorded expiresAt known =>
            rcases List.mem_append.mp member with old | new
            · exact sound row old active
            · rw [List.mem_singleton] at new
              subst new
              have running := Call.runningAt_eq_some.mpr found
              exact audits _ running known
        | _ => exact sound row member active
      · exact sound row member active
  | releaseAwaited index outcome input stage progress after found awaited =>
      rcases AsyncFunction.await_cases awaited with
        ⟨resolved, performed, _⟩ | ⟨rfl, _⟩
      · cases releaseSeat_resolved performed with
        | recorded =>
            have old :=
              mem_of_mem_settle SeatLockStatus.noConfusion member active
            exact sound row old.1 active
        | _ => exact sound row member active
      · exact sound row member active
  | createAwaited index outcome input stage progress after found awaited =>
      rcases AsyncFunction.await_cases awaited with
        ⟨resolved, performed, _⟩ | ⟨rfl, _⟩
      · cases createOrder_resolved performed <;>
          exact sound row member active
      · exact sound row member active
  | expireAwaited index outcome request stage progress after found awaited =>
      rcases AsyncFunction.await_cases awaited with
        ⟨resolved, performed, _⟩ | ⟨rfl, _⟩
      · cases expireOrder_resolved performed with
        | settled result =>
            simp only [expireSeatLockAudit] at member
            split at member
            · exact sound row member active
            · have old :=
                mem_of_mem_settle SeatLockStatus.noConfusion member active
              exact sound row old.1 active
        | _ => exact sound row member active
      · exact sound row member active
  | _ => exact sound row member active

/-- A row that is about to be closed still is so after a step, or the step
has closed it. -/
theorem closing_step (resolves : Resolves action)
    (stepped : step env world action = some next)
    (member : row ∈ next.seatLocks) (active : row.status = .active)
    (closing : Closing world row.seatId row.userId) :
    Closing next row.seatId row.userId := by
  cases step_cases stepped with
  | releaseRequested input =>
      rcases closing with ⟨call, old, closes⟩ | expiry
      · exact Or.inl ⟨call, List.mem_append_left _ old, closes⟩
      · exact Or.inr expiry
  | expireRequested orderId =>
      rcases closing with release | ⟨call, old, closes⟩
      · exact Or.inl release
      · exact Or.inr ⟨call, List.mem_append_left _ old, closes⟩
  | delivered index orderId queued =>
      rcases closing with release | ⟨call, old, closes⟩
      · exact Or.inl release
      · exact Or.inr ⟨call, List.mem_append_left _ old, closes⟩
  | settled index orderId progress delivery found answered =>
      rcases closing with release | expiry
      · exact Or.inl release
      · exact Or.inr (Call.exists_mem_set found id expiry)
  | requeued index orderId progress found =>
      rcases closing with release | expiry
      · exact Or.inl release
      · exact Or.inr (Call.exists_mem_set found id expiry)
  | releaseAwaited index outcome input stage progress after found awaited =>
      have resolved : outcome = .resolves := resolves
      subst resolved
      rcases closing with release | expiry
      · refine Or.inl (Call.exists_mem_set found ?_ release)
        rintro ⟨running, sameSeat, sameUser⟩
        cases running
        cases releaseSeat_resolved awaited with
        | recorded =>
            have old :=
              mem_of_mem_settle SeatLockStatus.noConfusion member active
            exact absurd ⟨sameSeat.symm, sameUser.symm⟩
              (of_decide_eq_false old.2)
      · exact Or.inr expiry
  | expireAwaited index outcome request stage progress after found awaited =>
      have resolved : outcome = .resolves := resolves
      subst resolved
      rcases closing with release | expiry
      · exact Or.inl release
      · refine Or.inr (Call.exists_mem_set found ?_ expiry)
        rintro ⟨result, running, seatMember, sameUser⟩
        cases expireOrder_resolved awaited with
        | marked => cases running
        | read => cases running
        | released _ position seatId here =>
            cases running
            exact ⟨result, expiring_releaseFrom _ _, seatMember, sameUser⟩
        | settled _ =>
            cases running
            have nonempty : result.seatIds ≠ [] :=
              List.ne_nil_of_mem seatMember
            simp only [expireSeatLockAudit, if_neg nonempty] at member
            have old :=
              mem_of_mem_settle SeatLockStatus.noConfusion member active
            exact absurd ⟨seatMember, sameUser.symm⟩
              (of_decide_eq_false old.2)
  | _ => exact closing

/-- The hold of a row survives a step, or somebody is about to close the
row. -/
theorem holdsSeat_step (audits : AuditsLiveHolds env world action)
    (resolves : Resolves action)
    (stepped : step env world action = some next)
    (member : row ∈ next.seatLocks) (active : row.status = .active)
    (held : HoldsSeat env world.redis row.seatId row.userId) :
    HoldsSeat env next.redis row.seatId row.userId ∨
      Closing next row.seatId row.userId := by
  cases step_cases stepped with
  | ticked elapsed => exact audits row member active held
  | lockAwaited index outcome input stage progress after found awaited =>
      have resolved : outcome = .resolves := resolves
      subst resolved
      left
      cases lockSeat_resolved awaited with
      | answered answer redis acquired =>
          have kept := held.acquire (input.acquireInput env)
          rw [acquired] at kept
          exact kept
      | _ => exact held
  | releaseAwaited index outcome input stage progress after found awaited =>
      have resolved : outcome = .resolves := resolves
      subst resolved
      cases releaseSeat_resolved awaited with
      | released owned =>
          rcases held.dropped_cases owned with kept | ⟨sameSeat, sameUser⟩
          · exact Or.inl kept
          · exact Or.inr (Or.inl
              ⟨_, Call.mem_set_self found _, rfl, sameSeat, sameUser⟩)
      | _ => exact Or.inl held
  | createAwaited index outcome input stage progress after found awaited =>
      have resolved : outcome = .resolves := resolves
      subst resolved
      left
      cases createOrder_resolved awaited with
      | extended order allHeld =>
          have running := Call.runningAt_eq_some.mpr found
          exact held.extended (audits _ running) _ _
      | _ => exact held
  | expireAwaited index outcome request stage progress after found awaited =>
      have resolved : outcome = .resolves := resolves
      subst resolved
      cases expireOrder_resolved awaited with
      | released result position seatId here =>
          simp only [releaseHold_eq]
          split
          · next owned =>
              rcases held.dropped_cases owned with kept | ⟨sameSeat, sameUser⟩
              · exact Or.inl kept
              · refine Or.inr (Or.inr
                  ⟨_, Call.mem_set_self found _, result,
                    expiring_releaseFrom _ _, ?_, sameUser⟩)
                rw [← sameSeat]
                exact List.mem_of_getElem? here
          · exact Or.inl held
      | _ => exact Or.inl held
  | _ => exact Or.inl held

private theorem activeRowsHeldOrClosing_step
    (sound : ActiveRowsHeldOrClosing env world)
    (guarded : Resolves action ∧ AuditsLiveHolds env world action)
    (stepped : step env world action = some next) :
    ActiveRowsHeldOrClosing env next := by
  intro row member active
  rcases heldOrClosing_of_mem_next sound guarded.2 stepped member active with
    held | closing
  · exact holdsSeat_step guarded.2 guarded.1 stepped member active held
  · exact Or.inr (closing_step guarded.1 stepped member active closing)

end Steps

/-! ## Runs -/

/-- At rest nothing is about to be closed. -/
theorem AtRest.not_closing {world : World} (rest : AtRest world)
    (seatId : SeatId) (userId : UserId) : ¬ Closing world seatId userId := by
  rintro (⟨call, member, closes⟩ | ⟨call, member, result, isExpiring, _⟩)
  · have ended := rest.2.1 call member
    rw [closes.1] at ended
    cases ended
  · have ended := rest.2.2.2 call member
    cases running : call.progress with
    | running stage =>
        rw [running] at ended
        cases ended
    | _ =>
        rw [running] at isExpiring
        cases isExpiring

/-- Every `ACTIVE` row is of a live hold, and no seat has `ACTIVE` rows of two
users. -/
structure AuditIsTrue (env : Environment) (world : World) : Prop where
  held : ActiveRowsHeld env world
  oneUser : ∀ first ∈ world.seatLocks, ∀ second ∈ world.seatLocks,
    first.status = .active → second.status = .active →
    first.seatId = second.seatId → first.userId = second.userId

private theorem ActiveRowsHeld.auditIsTrue {env : Environment} {world : World}
    (held : ActiveRowsHeld env world) : AuditIsTrue env world where
  held := held
  oneUser := by
    intro first memberFirst second memberSecond activeFirst activeSecond
      sameSeat
    obtain ⟨seat, found, ownsFirst⟩ := held first memberFirst activeFirst
    obtain ⟨twin, foundTwin, ownsSecond⟩ :=
      held second memberSecond activeSecond
    rw [← sameSeat] at foundTwin ownsSecond
    cases found.symm.trans foundTwin
    rw [ownsFirst] at ownsSecond
    exact Option.some.inj ownsSecond

/-- In every run without failures in which no audited hold lapses and rows
are inserted only for holds that are still there, every state at rest has
`ACTIVE` rows of live holds only. -/
theorem auditIsTrue_of_auditsLiveHolds {env : Environment}
    {origin : Instant} {history : List (World × Action)} {world : World}
    (run : Trace (step env) (World.init origin) history world)
    (guarded : StepsMeet
      (fun before action =>
        Resolves action ∧ AuditsLiveHolds env before action) history) :
    ∀ reached ∈ visited history world, AtRest reached →
      AuditIsTrue env reached := by
  refine Trace.forall_visited _
    (fun reached => AtRest reached → AuditIsTrue env reached) ?_ run guarded
  intro past current runHere guardedHere rest
  have sound : ActiveRowsHeldOrClosing env current := by
    refine Trace.invariantUnder _ (ActiveRowsHeldOrClosing env) ?_
      (fun _ _ _ inductionHypothesis meets stepped =>
        activeRowsHeldOrClosing_step inductionHypothesis meets stepped)
      runHere guardedHere
    intro row member
    cases member
  apply ActiveRowsHeld.auditIsTrue
  intro row member active
  rcases sound row member active with held | closing
  · exact held
  · exact absurd closing (rest.not_closing _ _)

/-- User 10 orders seat 7, the order is expired, and user 11 takes the
seat. -/
def takeAfterExpiry : List Action :=
  lockSeatRun 0 ⟨10, 1, 7⟩ ++ createOrderRun 0 ⟨10, 1, [7], "first"⟩ ++
    .expireOrder 0 :: List.replicate 4 (.expireAwait 0 .resolves) ++
      lockSeatRun 1 ⟨11, 1, 7⟩

private theorem takeAfterExpiry_enabled :
    (replay (step smallVenue) [] (World.init 0) takeAfterExpiry).isSome =
      true := by
  decide

theorem auditIsTrue_takeAfterExpiry :
    AuditIsTrue smallVenue
      ((replay (step smallVenue) [] (World.init 0) takeAfterExpiry).get
        takeAfterExpiry_enabled).2 :=
  auditIsTrue_of_auditsLiveHolds
    (Trace.of_replay_get takeAfterExpiry takeAfterExpiry_enabled)
    (by decide) _ List.mem_cons_self (by decide)

def takeAfterLapse : List Action :=
  lockSeatRun 0 ⟨10, 1, 7⟩ ++ [.tick 900000] ++ lockSeatRun 1 ⟨11, 1, 7⟩

/-- A lapsed hold leaves its row `ACTIVE`. -/
theorem activeRow_outlives_hold :
    ¬ ∀ (env : Environment) (origin : Instant)
        (history : List (World × Action)) (world : World),
      Trace (step env) (World.init origin) history world →
      StepsMeet (fun _ action => Resolves action) history →
      AtRest world →
      AuditIsTrue env world := by
  intro always
  obtain ⟨history, world, run, checked⟩ :=
    Trace.exists_of_replay (step smallVenue) (World.init 0) takeAfterLapse
      (fun result =>
        decide (StepsMeet (fun _ action => Resolves action) result.1 ∧
          AtRest result.2 ∧
          result.2.seatLocks =
            [⟨7, 10, 0, 900000, none, .active⟩,
              ⟨7, 11, 900000, 1800000, none, .active⟩]))
      (by decide)
  obtain ⟨resolves, rest, rows⟩ := of_decide_eq_true checked
  change world.seatLocks = _ at rows
  have audit := always smallVenue 0 history world run resolves rest
  have same := audit.oneUser ⟨7, 10, 0, 900000, none, .active⟩ (by simp [rows])
    ⟨7, 11, 900000, 1800000, none, .active⟩ (by simp [rows]) rfl rfl rfl
  exact absurd same (by decide)

end ConcertTicketing.Booking
