import ConcertTicketing.Accounts.System

/-!
# The email change

The stored text is an unescaped join with the new address as its first field,
so it is read back exactly when the address has no separator.  Then, with no
new request in the middle of a verification, an email becomes the address of
the last request, for the code of that request.
-/

namespace ConcertTicketing.Accounts

open Redis

/-- No stored request has an address with a separator. -/
def StoresNoBar (userId : UserId) (state : AccountState)
    (action : AccountAction) : Prop :=
  ∀ code ∈ generated? (.emailChange userId) state action, '|' ∉ code.newEmail

instance (userId : UserId) (state : AccountState) (action : AccountAction) :
    Decidable (StoresNoBar userId state action) :=
  inferInstanceAs
    (Decidable (∀ _ ∈ generated? (.emailChange userId) state action, _))

/-- A verification that has accepted the code and has not yet written the new
address: its user, the code it was given, and the address. -/
def AccountCall.changing? : AccountCall → Option (UserId × Text × Text)
  | .verifyEmailChange ⟨input, .running (.findConflict newEmail)⟩ =>
      some (input.userId, input.otp, newEmail)
  | .verifyEmailChange ⟨input, .running (.updateEmail newEmail)⟩ =>
      some (input.userId, input.otp, newEmail)
  | _ => none

/-- A verification that a new request of its user outdates: it is going to
write the old code back, or to write the old address. -/
def AccountCall.midway (userId : UserId) (call : AccountCall) : Bool :=
  match call.role? with
  | some (owner, .checks _ (.ttl _)) => decide (owner = .emailChange userId)
  | some (owner, .checks _ (.writeBack _ _)) =>
      decide (owner = .emailChange userId)
  | _ => call.changing?.any fun (owner, _, _) => decide (owner = userId)

/-- A new request is stored only when no verification of the user is
midway. -/
def StoresApart (userId : UserId) (state : AccountState)
    (action : AccountAction) : Prop :=
  (generated? (.emailChange userId) state action).isSome →
    ∀ call ∈ state.calls, call.midway userId = false

instance (userId : UserId) (state : AccountState) (action : AccountAction) :
    Decidable (StoresApart userId state action) :=
  inferInstanceAs (Decidable (_ → _))

/-- The code and the address with which a step updates the user. -/
def changes? (userId : UserId) (state : AccountState) :
    AccountAction → Option (Text × Text)
  | .await index outcome =>
      if outcome.Applies then
        match state.calls[index]? with
        | some (.verifyEmailChange ⟨input, .running (.updateEmail newEmail)⟩) =>
            if input.userId = userId then some (input.otp, newEmail) else none
        | _ => none
      else none
  | _ => none

private theorem changing?_of_changes {userId : UserId} {state : AccountState}
    {action : AccountAction} {otp newEmail : Text}
    (changes : changes? userId state action = some (otp, newEmail)) :
    ∃ call ∈ state.calls, call.changing? = some (userId, otp, newEmail) := by
  unfold changes? at changes
  split at changes
  · next index outcome =>
      simp only [Option.ite_none_right_eq_some] at changes
      obtain ⟨_, changes⟩ := changes
      split at changes
      · next input address found =>
          simp only [Option.ite_none_right_eq_some, Option.some.injEq,
            Prod.mk.injEq] at changes
          obtain ⟨rfl, rfl, rfl⟩ := changes
          exact ⟨_, List.mem_of_getElem? found, rfl⟩
      · cases changes
  · cases changes

/-- Nothing else changes the email of the user. -/
theorem changes?_of_email_changed {lib : Libraries} {userId : UserId}
    {state next : AccountState} {action : AccountAction}
    (stepped : (accountServer lib).step state action = some next)
    {before after : User} (was : before ∈ state.stores.users.rows)
    (isNow : after ∈ next.stores.users.rows) (beforeIs : before.id = userId)
    (afterIs : after.id = userId) (changed : after.email ≠ before.email) :
    ∃ otp, changes? userId state action = some (otp, after.email) := by
  have sameId : after.id = before.id := afterIs.trans beforeIs.symm
  have unchanged : next.stores.users = state.stores.users → False := by
    intro same
    rw [same] at isNow
    rw [Users.eq_of_id isNow was sameId] at changed
    exact changed rfl
  rcases Server.step_stores stepped with
    ⟨event, rfl, same⟩ | ⟨command, applied, same⟩ | ⟨_, _, same⟩
  · exact absurd (by rw [same]; rfl) unchanged
  · have users : next.stores.users =
        usersAfter command state.stores.users := by
      rw [same]
      exact users_perform lib command state.stores
    rw [users] at isNow
    rcases email_of_usersAfter was isNow sameId with equal | updates
    · exact absurd equal changed
    · subst command
      obtain ⟨index, outcome, call, pending, rfl, effective, found, waits,
        isUpdate⟩ := Server.applied_eq_some.mp applied
      cases call with
      | verifyEmailChange call =>
          obtain ⟨stage, atStage, rfl⟩ :=
            (hosts_verifyEmailChange lib).running waits
          cases stage with
          | updateEmail newEmail =>
              injection isUpdate with sameUser sameEmail
              refine ⟨call.input.otp, ?_⟩
              rw [atStage] at found
              simp only [changes?, effective, if_true, found,
                sameUser.trans beforeIs, sameEmail]
          | check stage => cases stage <;> cases isUpdate
          | _ => cases isUpdate
      | verifyOtp call =>
          obtain ⟨stage, _, rfl⟩ := (hosts_verifyOtp lib).running waits
          cases stage with
          | check stage => cases stage <;> cases isUpdate
          | _ => cases isUpdate
      | register call =>
          obtain ⟨stage, _, rfl⟩ := (hosts_register lib).running waits
          cases stage <;> cases isUpdate
      | resendOtp call =>
          obtain ⟨stage, _, rfl⟩ := (hosts_resendOtp lib).running waits
          cases stage <;> cases isUpdate
      | login call =>
          obtain ⟨stage, _, rfl⟩ := (hosts_login lib).running waits
          cases stage <;> cases isUpdate
      | requestEmailChange call =>
          obtain ⟨stage, _, rfl⟩ :=
            (hosts_requestEmailChange lib).running waits
          cases stage <;> cases isUpdate
  · exact absurd (by rw [same]) unchanged

/-- A verification that is changing the email has accepted the code. -/
theorem role_of_changing {call : AccountCall} {userId : UserId}
    {otp newEmail : Text}
    (changing : call.changing? = some (userId, otp, newEmail)) :
    call.role? = some (.emailChange userId, .accepts otp newEmail) := by
  unfold AccountCall.changing? at changing
  split at changing
  · cases changing
    rfl
  · cases changing
    rfl
  · cases changing

/-- It has just accepted the code, or it was changing the email already. -/
theorem changing_cases {lib : Libraries} {call : AccountCall}
    {pending : Awaited AccountCall} (waits : call.pending = some pending)
    {stores : AccountStores} {outcome : Await} {userId : UserId}
    {otp newEmail : Text}
    (changing : ((accountServer lib).answer call pending stores
      outcome).2.changing? = some (userId, otp, newEmail)) :
    (∃ stored,
      call.role? = some (.emailChange userId, .checks otp .getStored) ∧
      (emailChangeCheck userId).stored? stores = some stored ∧
      stored.code = some otp ∧ stored.newEmail = newEmail) ∨
    call.changing? = some (userId, otp, newEmail) := by
  obtain ⟨rfl, origin⟩ := role_cases lib waits (role_of_changing changing)
  cases origin with
  | accepted _ _ stored before found same address =>
      exact Or.inl ⟨stored, before, found, same, address⟩
  | accepting _ _ before =>
      right
      obtain ⟨input, stage, rfl, rfl⟩ :=
        AccountCall.verifyEmailChange_of_role before nofun
      cases waits
      cases stage with
      | findConflict address =>
          cases before
          rfl
      | updateEmail address =>
          cases before
          rfl
      | createAuditLog address => cases changing
      | check stage => cases before
      | delConflict => cases before
      | delChange => cases before

/-! ## The invariant -/

/-- A stored code is that of the last request, after some failures. -/
def OfLastRequest (userId : UserId) (history : AccountHistory)
    (stored : StoredCode) : Prop :=
  ∃ (code : GeneratedCode) (attempts : Nat),
    lastGenerated (.emailChange userId) history = some code ∧
    '|' ∉ code.newEmail ∧
    stored = .generated code.newEmail code.otp attempts

def RenewsChange (userId : UserId) (history : AccountHistory) :
    CheckStage → Prop
  | .ttl renewed => OfLastRequest userId history renewed
  | .writeBack renewed _ => OfLastRequest userId history renewed
  | _ => True

/-- Everything that is underway belongs to the last request. -/
structure Requested (userId : UserId) (history : AccountHistory)
    (state : AccountState) : Prop where
  stored : ∀ entry, state.stores.find (.emailChange userId) = some entry →
    ∃ stored, OfLastRequest userId history stored ∧
      entry.value = (emailChangeCheck userId).encode stored
  renews : ∀ call ∈ state.calls, ∀ given stage,
    call.role? = some (.emailChange userId, .checks given stage) →
    RenewsChange userId history stage
  changes : ∀ call ∈ state.calls, ∀ otp newEmail,
    call.changing? = some (userId, otp, newEmail) →
    ∃ code, lastGenerated (.emailChange userId) history = some code ∧
      code.newEmail = newEmail ∧ code.otp.text = otp

theorem OfLastRequest.afterFailure {userId : UserId}
    {history : AccountHistory} {stored : StoredCode}
    (ofLast : OfLastRequest userId history stored) :
    OfLastRequest userId history stored.afterFailure := by
  obtain ⟨code, attempts, last, noBar, rfl⟩ := ofLast
  exact ⟨code, attempts + 1, last, noBar, rfl⟩

/-- What belongs to the last request still does when no other one comes. -/
theorem OfLastRequest.cons {userId : UserId} {history : AccountHistory}
    {stored : StoredCode} (ofLast : OfLastRequest userId history stored)
    {state : AccountState} {action : AccountAction}
    (same : lastGenerated (.emailChange userId) ((state, action) :: history) =
      lastGenerated (.emailChange userId) history) :
    OfLastRequest userId ((state, action) :: history) stored := by
  obtain ⟨code, attempts, last, noBar, isCode⟩ := ofLast
  exact ⟨code, attempts, same.trans last, noBar, isCode⟩

namespace Requested

variable {lib : Libraries} {userId : UserId} {history : AccountHistory}
  {state next : AccountState} {action : AccountAction}

/-- The code that is read is that of the last request. -/
theorem read (holds : Requested userId history state) {stored : StoredCode}
    (found : (emailChangeCheck userId).stored? state.stores = some stored) :
    OfLastRequest userId history stored := by
  simp only [CodeCheck.stored?, Option.map_eq_some_iff] at found
  obtain ⟨entry, kept, rfl⟩ := found
  obtain ⟨stored, ofLast, text⟩ :=
    holds.stored entry (Option.filter_eq_some_iff.mp kept).1
  rw [text]
  obtain ⟨code, attempts, last, noBar, rfl⟩ := ofLast
  have readBack := (emailChangeCheck_readsBack_iff userId code.newEmail).mpr
    noBar code.otp attempts
  rw [readBack]
  exact ⟨code, attempts, last, noBar, rfl⟩

/-- No other call has come to a stage that a new request outdates. -/
theorem not_midway_after
    (stepped : (accountServer lib).step state action = some next)
    {newEmail : Text} {otp : Otp}
    (generates : applied? (.emailChange userId) state action =
      some (.generates newEmail otp))
    (apart : StoresApart userId state action) {call : AccountCall}
    (member : call ∈ next.calls) {role : CodeRole}
    (plays : call.role? = some (.emailChange userId, role))
    (noNew : ∀ newEmail otp, role ≠ .generates newEmail otp) :
    call.midway userId = false ∨ ∃ given, role = .checks given .existsLock := by
  obtain ⟨index, reached⟩ := List.mem_iff_getElem?.mp member
  have isNew : (generated? (.emailChange userId) state action).isSome = true := by
    simp only [generated?, generates, Option.isSome_some]
  cases Server.step_calls stepped reached with
  | kept _ _ found =>
      exact Or.inl (apart isNew call (List.mem_of_getElem? found))
  | accepted input _ _ accepts _ =>
      obtain ⟨_, rfl⟩ := accept_eq_some.mp accepts
      exact Or.inr (AccountCall.role?_request plays)
  | answered outcome earlier pending ran found waits =>
      obtain ⟨position, _, other, same, _, atPosition, isGenerating⟩ :=
        applied?_eq_some.mp generates
      rw [ran] at same
      cases same
      rw [found] at atPosition
      cases atPosition
      cases (role_cases lib waits plays).2 with
      | generating newEmail otp => exact absurd rfl (noNew newEmail otp)
      | checked _ _ _ before _ =>
          rw [isGenerating] at before
          cases before
      | accepted _ _ _ before _ _ _ =>
          rw [isGenerating] at before
          cases before
      | accepting _ _ before =>
          rw [isGenerating] at before
          cases before
      | consuming _ _ before =>
          rw [isGenerating] at before
          cases before

private theorem step_of_new
    (stepped : (accountServer lib).step state action = some next)
    {newEmail : Text} {otp : Otp}
    (generates : applied? (.emailChange userId) state action =
      some (.generates newEmail otp))
    (noBar : StoresNoBar userId state action)
    (apart : StoresApart userId state action) :
    Requested userId ((state, action) :: history) next := by
  have last := lastGenerated_of_generates generates history
  have plain : '|' ∉ newEmail := by
    apply noBar ⟨newEmail, otp, state.stores.now⟩
    simp only [generated?, generates, Option.mem_def]
  refine ⟨?_, ?_, ?_⟩
  · intro entry live
    rcases step_code stepped (.emailChange userId) with
      ⟨elapsed, rfl, _⟩ | ⟨role, applied, left, _⟩ | ⟨idle, _, _⟩
    · cases generates
    · rw [generates] at applied
      cases applied
      have left' : next.stores.find (.emailChange userId) =
          (CodeRole.generates newEmail otp).codeAfter (emailChangeCheck userId)
            state.stores := left
      rw [left'] at live
      cases live
      exact ⟨_, ⟨_, 0, last, plain, rfl⟩, rfl⟩
    · rw [generates] at idle
      cases idle
  · intro call member given stage plays
    rcases not_midway_after stepped generates apart member plays (by simp) with
      notMidway | ⟨_, atStart⟩
    · cases stage with
      | ttl renewed => simp [AccountCall.midway, plays] at notMidway
      | writeBack renewed ttlSeconds =>
          simp [AccountCall.midway, plays] at notMidway
      | _ => trivial
    · cases atStart
      trivial
  · intro call member given address changing
    have plays := role_of_changing changing
    rcases not_midway_after stepped generates apart member plays (by simp) with
      notMidway | ⟨_, atStart⟩
    · simp [AccountCall.midway, plays, changing] at notMidway
    · cases atStart

theorem stored_step (holds : Requested userId history state)
    (stepped : (accountServer lib).step state action = some next)
    (noNew : ∀ newEmail otp, applied? (.emailChange userId) state action ≠
      some (.generates newEmail otp)) :
    ∀ entry, next.stores.find (.emailChange userId) = some entry →
    ∃ stored, OfLastRequest userId ((state, action) :: history) stored ∧
      entry.value = (emailChangeCheck userId).encode stored := by
  have same := lastGenerated_of_other noNew history
  have unseen : ∀ {entry : Entry Text},
      state.stores.find (.emailChange userId) = some entry →
      ∃ stored, OfLastRequest userId ((state, action) :: history) stored ∧
        entry.value = (emailChangeCheck userId).encode stored := by
    intro entry live
    obtain ⟨stored, ofLast, text⟩ := holds.stored entry live
    exact ⟨stored, ofLast.cons same, text⟩
  intro entry live
  rcases step_code stepped (.emailChange userId) with
    ⟨elapsed, rfl, later⟩ | ⟨role, applied, left, _⟩ | ⟨idle, left, _⟩
  · rw [later, AccountStores.find_tick] at live
    exact unseen (Option.filter_eq_some_iff.mp live).1
  · have left' : next.stores.find (.emailChange userId) =
        role.codeAfter (emailChangeCheck userId) state.stores := left
    rw [left'] at live
    cases role with
    | generates newEmail otp => exact absurd applied (noNew newEmail otp)
    | accepts otp newEmail => exact unseen live
    | consumes otp => cases live
    | checks given stage =>
        cases stage with
        | delExhausted => cases live
        | writeBack renewed ttlSeconds =>
            obtain ⟨_, _, call, _, _, found, plays⟩ :=
              applied?_eq_some.mp applied
            have ofLast : OfLastRequest userId history renewed :=
              holds.renews call (List.mem_of_getElem? found) given _ plays
            cases live
            exact ⟨renewed, ofLast.cons same, rfl⟩
        | _ => exact unseen live
  · have left' : next.stores.find (.emailChange userId) =
        state.stores.find (.emailChange userId) := left
    rw [left'] at live
    exact unseen live

theorem renews_step (holds : Requested userId history state)
    (stepped : (accountServer lib).step state action = some next)
    (noNew : ∀ newEmail otp, applied? (.emailChange userId) state action ≠
      some (.generates newEmail otp)) :
    ∀ call ∈ next.calls, ∀ given stage,
      call.role? = some (.emailChange userId, .checks given stage) →
      RenewsChange userId ((state, action) :: history) stage := by
  have same := lastGenerated_of_other noNew history
  have keep : ∀ {stage}, RenewsChange userId history stage →
      RenewsChange userId ((state, action) :: history) stage := by
    intro stage renews
    cases stage with
    | ttl renewed => exact OfLastRequest.cons renews same
    | writeBack renewed ttlSeconds => exact OfLastRequest.cons renews same
    | _ => trivial
  intro call member given stage plays
  obtain ⟨index, reached⟩ := List.mem_iff_getElem?.mp member
  cases Server.step_calls stepped reached with
  | kept _ _ found =>
      exact keep (holds.renews call (List.mem_of_getElem? found) given stage
        plays)
  | accepted input _ _ accepts _ =>
      obtain ⟨_, rfl⟩ := accept_eq_some.mp accepts
      obtain ⟨_, atStart⟩ := AccountCall.role?_request plays
      cases atStart
      trivial
  | answered outcome earlier pending _ found waits =>
      cases (role_cases lib waits plays).2 with
      | checked _ before _ playsBefore goes =>
          cases goes with
          | failure stored read _ _ =>
              exact (holds.read read).afterFailure.cons same
          | timed renewed =>
              have renews : OfLastRequest userId history renewed :=
                holds.renews earlier (List.mem_of_getElem? found) given _
                  playsBefore
              exact renews.cons same
          | unlocked free => trivial
          | lastFailure stored read wrong isOver => trivial
          | deleted => trivial

private theorem changes_step (holds : Requested userId history state)
    (stepped : (accountServer lib).step state action = some next)
    (noNew : ∀ newEmail otp, applied? (.emailChange userId) state action ≠
      some (.generates newEmail otp)) :
    ∀ call ∈ next.calls, ∀ otp newEmail,
      call.changing? = some (userId, otp, newEmail) →
      ∃ code, lastGenerated (.emailChange userId) ((state, action) :: history) =
          some code ∧
        code.newEmail = newEmail ∧ code.otp.text = otp := by
  rw [lastGenerated_of_other noNew history]
  intro call member otp newEmail changing
  obtain ⟨index, reached⟩ := List.mem_iff_getElem?.mp member
  cases Server.step_calls stepped reached with
  | kept _ _ found =>
      exact holds.changes call (List.mem_of_getElem? found) otp newEmail
        changing
  | accepted input _ _ accepts _ =>
      obtain ⟨_, rfl⟩ := accept_eq_some.mp accepts
      obtain ⟨_, atStart⟩ :=
        AccountCall.role?_request (role_of_changing changing)
      cases atStart
  | answered outcome earlier pending _ found waits =>
      rcases changing_cases waits changing with
        ⟨stored, _, read, sameCode, address⟩ | before
      · obtain ⟨code, attempts, last, _, rfl⟩ := holds.read read
        exact ⟨code, last, address, Option.some.inj sameCode⟩
      · exact holds.changes earlier (List.mem_of_getElem? found) otp newEmail
          before

theorem step (holds : Requested userId history state)
    (stepped : (accountServer lib).step state action = some next)
    (noBar : StoresNoBar userId state action)
    (apart : StoresApart userId state action) :
    Requested userId ((state, action) :: history) next := by
  by_cases generates : ∃ newEmail otp,
      applied? (.emailChange userId) state action =
        some (.generates newEmail otp)
  · obtain ⟨newEmail, otp, generates⟩ := generates
    exact step_of_new stepped generates noBar apart
  · have noNew : ∀ newEmail otp, applied? (.emailChange userId) state action ≠
        some (.generates newEmail otp) := by
      intro newEmail otp applied
      exact generates ⟨newEmail, otp, applied⟩
    exact ⟨holds.stored_step stepped noNew, holds.renews_step stepped noNew,
      holds.changes_step stepped noNew⟩

theorem of_run {start : AccountState} (idle : start.calls = [])
    (empty : start.stores.find (.emailChange userId) = none)
    (run : Trace (accountServer lib).step start history state)
    (noBar : StepsMeet (StoresNoBar userId) history)
    (apart : StepsMeet (StoresApart userId) history) :
    Requested userId history state := by
  induction run with
  | nil =>
      refine ⟨?_, ?_, ?_⟩
      · intro entry live
        rw [empty] at live
        cases live
      · rw [idle]
        exact List.forall_mem_nil _
      · rw [idle]
        exact List.forall_mem_nil _
  | @snoc earlier before after action runBefore stepped inductionHypothesis =>
      have plain := stepsMeet_cons.mp noBar
      have alone := stepsMeet_cons.mp apart
      exact (inductionHypothesis plain.2 alone.2).step stepped plain.1 alone.1

end Requested

/-- The stored text is read back for every code and every number of attempts
exactly when the address has no `|`.  In a run that stores no other address,
and no request in the middle of a verification, a step changes the email of
the user only to the address of the last request, for a verification with the
code that was generated for it. -/
theorem emailChange_ofLastRequest {lib : Libraries} {userId : UserId}
    {start : AccountState} (idle : start.calls = [])
    (empty : start.stores.find (.emailChange userId) = none)
    {history : AccountHistory} {state : AccountState}
    (run : Trace (accountServer lib).step start history state) :
    (∀ newEmail,
      (∀ (otp : Otp) (attempts : Nat),
        (emailChangeCheck userId).decode
            ((emailChangeCheck userId).encode
              (.generated newEmail otp attempts)) =
          .generated newEmail otp attempts) ↔ '|' ∉ newEmail) ∧
    (StepsMeet (StoresNoBar userId) history →
      StepsMeet (StoresApart userId) history →
      ∀ action next, (accountServer lib).step state action = some next →
        ∀ before ∈ state.stores.users.rows,
          ∀ after ∈ next.stores.users.rows,
          before.id = userId → after.id = userId →
          after.email ≠ before.email →
          ∃ code, lastGenerated (.emailChange userId) history = some code ∧
            after.email = code.newEmail ∧
            changes? userId state action =
              some (code.otp.text, code.newEmail)) := by
  refine ⟨emailChangeCheck_readsBack_iff userId, ?_⟩
  intro noBar apart action next stepped before was after isNow beforeIs afterIs
    changed
  have holds := Requested.of_run idle empty run noBar apart
  obtain ⟨otp, changes⟩ :=
    changes?_of_email_changed stepped was isNow beforeIs afterIs changed
  obtain ⟨call, member, changing⟩ := changing?_of_changes changes
  obtain ⟨code, last, address, sameCode⟩ :=
    holds.changes call member otp after.email changing
  refine ⟨code, last, address.symm, ?_⟩
  rw [changes, sameCode, address]

/-- One active user, under the address `u@x.io`. -/
def oneUser : AccountState :=
  .init ⟨[⟨1, "u@x.io".toList, "password".toList, "U".toList, none, .active,
    [.user]⟩], by decide, by decide⟩ 0

def changeTo (newEmail otp : String) : List AccountAction :=
  [.request (.requestEmailChange ⟨1, newEmail.toList, .oneToSix⟩),
    .await 0 .resolves, .await 0 .resolves, .await 0 .resolves,
    .request (.verifyEmailChange ⟨1, otp.toList⟩),
    .await 1 .resolves, .await 1 .resolves, .await 1 .resolves]

private theorem changeTo_enabled :
    (replay (accountServer .plain).step [] oneUser
      (changeTo "b@x.io" "123456")).isSome = true := by
  decide +kernel

theorem emailChange_ofLastRequest_changeTo :
    ∃ code : GeneratedCode,
      lastGenerated (.emailChange 1)
          ((replay (accountServer .plain).step [] oneUser
            (changeTo "b@x.io" "123456")).get changeTo_enabled).1 =
        some code ∧
      "b@x.io".toList = code.newEmail := by
  obtain ⟨code, last, address, _⟩ :=
    (@emailChange_ofLastRequest .plain 1 oneUser rfl (by decide +kernel) _ _
      (Trace.of_replay_get (changeTo "b@x.io" "123456") changeTo_enabled)).2
      (by decide +kernel) (by decide +kernel) (.await 1 .resolves)
      (((accountServer .plain).step
        ((replay (accountServer .plain).step [] oneUser
          (changeTo "b@x.io" "123456")).get changeTo_enabled).2
        (.await 1 .resolves)).get (by decide +kernel))
      (Option.some_get _).symm
      ⟨1, "u@x.io".toList, "password".toList, "U".toList, none, .active,
        [.user]⟩ (by decide +kernel)
      ⟨1, "b@x.io".toList, "password".toList, "U".toList, none, .active,
        [.user]⟩ (by decide +kernel) rfl rfl (by decide +kernel)
  exact ⟨code, last, address⟩

/-- The address `a|b@x.io` is split: the six characters after its `|` pass for
the code, and the email becomes `a`. -/
theorem address_taken_for_code :
    ∃ history state,
      Trace (accountServer .plain).step oneUser history state ∧
      lastGenerated (.emailChange 1) history =
        some ⟨"a|b@x.io".toList, .oneToSix, 0⟩ ∧
      changes? 1 state (.await 1 .resolves) =
        some ("b@x.io".toList, "a".toList) ∧
      (((accountServer .plain).step state (.await 1 .resolves)).map
        fun next => next.stores.users.rows.map User.email) =
          some ["a".toList] := by
  obtain ⟨history, state, run, holds⟩ :=
    Trace.exists_of_replay (accountServer .plain).step oneUser
      (changeTo "a|b@x.io" "b@x.io")
      (fun result => decide
        (lastGenerated (.emailChange 1) result.1 =
            some ⟨"a|b@x.io".toList, .oneToSix, 0⟩ ∧
        changes? 1 result.2 (.await 1 .resolves) =
          some ("b@x.io".toList, "a".toList) ∧
        (((accountServer .plain).step result.2 (.await 1 .resolves)).map
          fun next => next.stores.users.rows.map User.email) =
            some ["a".toList]))
      (by decide +kernel)
  exact ⟨history, state, run, of_decide_eq_true holds⟩

end ConcertTicketing.Accounts
