import ConcertTicketing.Access.System

/-!
# Registered users

What the accepted requests say about every row of `users`, and about the user
that a login has in hand.  The facts are about the account services alone; who
asks for an email change comes in as an assumption on the requests.
-/

namespace ConcertTicketing.Access

open Accounts Redis

/-- The code that a request has sent to an address. -/
def sends? : AccountRequest → Option (Text × Otp)
  | .register input => some (input.email, input.otp)
  | .resendOtp input => some (input.email, input.otp)
  | _ => none

def SentTo (accounts : AccountState) (email : Text) (otp : Otp) : Prop :=
  ∃ request ∈ requests accounts, sends? request = some (email, otp)

/-- Somebody has sent back a code that went to the address. -/
def Proven (accounts : AccountState) (email : Text) : Prop :=
  ∃ otp, SentTo accounts email otp ∧
    .verifyOtp ⟨email, otp.text⟩ ∈ requests accounts

/-- The row is as `register` has made it, and is active only when the address
of the registration has been proven. -/
def RegisteredBy (lib : Libraries) (accounts : AccountState)
    (registered : RegisterInput) (row : User) : Prop :=
  .register registered ∈ requests accounts ∧
    row.passwordHash = lib.hash registered.password registered.salt ∧
    row.roles = [.user] ∧
    ((row.status = .pendingVerify ∧ row.email = registered.email) ∨
      (row.status = .active ∧ Proven accounts registered.email))

/-- The table has the user, whatever became of the address. -/
def ActiveAs (users : Users) (user : User) : Prop :=
  ∃ row ∈ users.rows, row.id = user.id ∧ row.status = .active ∧
    row.passwordHash = user.passwordHash ∧ row.roles = user.roles

def ActiveId (users : Users) (userId : UserId) : Prop :=
  ∃ row ∈ users.rows, row.id = userId ∧ row.status = .active

theorem ActiveAs.activeId {users : Users} {user : User}
    (isActive : ActiveAs users user) : ActiveId users user.id := by
  obtain ⟨row, member, sameId, active, _⟩ := isActive
  exact ⟨row, member, sameId, active⟩

/-- Rows keep their password and their roles, and stay active. -/
def Kept (before after : Users) : Prop :=
  ∀ row ∈ before.rows, ∃ later ∈ after.rows, later.id = row.id ∧
    later.passwordHash = row.passwordHash ∧ later.roles = row.roles ∧
    (row.status = .active → later.status = .active)

namespace Kept

theorem refl (users : Users) : Kept users users :=
  fun row member => ⟨row, member, rfl, rfl, rfl, id⟩

theorem usersAfter (command : AccountCommand) (users : Users) :
    Kept users (usersAfter command users) := by
  cases command with
  | createUser new =>
      simp only [Accounts.usersAfter, Users.create]
      split
      · intro row member
        exact ⟨row, List.mem_append_left _ member, rfl, rfl, rfl, id⟩
      · exact refl users
  | activateUser email =>
      intro row member
      refine ⟨Users.activated email row, List.mem_map_of_mem member,
        Users.activated_id email row, ?_, ?_, ?_⟩
      · unfold Users.activated
        split <;> rfl
      · unfold Users.activated
        split <;> rfl
      · intro active
        unfold Users.activated
        split
        · rfl
        · exact active
  | updateEmail userId newEmail =>
      simp only [Accounts.usersAfter, Users.updateEmail]
      split
      · intro row member
        refine ⟨Users.withEmail userId newEmail row,
          List.mem_map_of_mem member, Users.withEmail_id userId newEmail row,
          ?_, ?_, ?_⟩
        · unfold Users.withEmail
          split <;> rfl
        · unfold Users.withEmail
          split <;> rfl
        · intro active
          unfold Users.withEmail
          split
          · exact active
          · exact active
      · exact refl users
  | _ => exact refl users

private theorem activeAs {before after : Users} (kept : Kept before after)
    {user : User} (isActive : ActiveAs before user) : ActiveAs after user := by
  obtain ⟨row, member, sameId, active, sameHash, sameRoles⟩ := isActive
  obtain ⟨later, laterMember, laterId, laterHash, laterRoles, stays⟩ :=
    kept row member
  exact ⟨later, laterMember, laterId.trans sameId, stays active,
    laterHash.trans sameHash, laterRoles.trans sameRoles⟩

theorem activeId {before after : Users} (kept : Kept before after)
    {userId : UserId} (isActive : ActiveId before userId) :
    ActiveId after userId := by
  obtain ⟨row, member, sameId, active⟩ := isActive
  obtain ⟨later, laterMember, laterId, _, _, stays⟩ := kept row member
  exact ⟨later, laterMember, laterId.trans sameId, stays active⟩

end Kept

private theorem requests_set {accounts : AccountState} {index : Nat}
    {call changed : AccountCall} (found : accounts.calls[index]? = some call)
    (same : changed.request = call.request) :
    (accounts.calls.set index changed).map AccountCall.request =
      requests accounts := by
  obtain ⟨inside, isCall⟩ := List.getElem?_eq_some_iff.mp found
  have bound : index < (requests accounts).length := by
    simpa only [requests, List.length_map] using inside
  have atIndex : (requests accounts)[index] = changed.request := by
    simp only [requests, List.getElem_map, isCall, same]
  rw [List.map_set, ← atIndex]
  exact List.set_getElem_self bound

section Steps

variable {lib : Libraries} {state next : AccountState} {action : AccountAction}

private theorem requests_step
    (stepped : (accountServer lib).step state action = some next) :
    requests next = requests state ∨
      ∃ request, action = .request request ∧
        requests next = requests state ++ [request] := by
  cases Server.step_cases stepped with
  | external event => exact Or.inl rfl
  | requested request call accepted =>
      right
      refine ⟨request, rfl, ?_⟩
      obtain ⟨_, rfl⟩ := accept_eq_some.mp accepted
      rw [requests, List.map_append, List.map_singleton,
        AccountCall.request_call]
      rfl
  | awaited index outcome call pending found waits =>
      exact Or.inl (requests_set found (request_answer lib waits _ _))

private theorem mem_requests_step
    (stepped : (accountServer lib).step state action = some next)
    {request : AccountRequest} (member : request ∈ requests state) :
    request ∈ requests next := by
  rcases requests_step stepped with same | ⟨new, _, longer⟩
  · rw [same]
    exact member
  · rw [longer]
    exact List.mem_append_left _ member

/-- The command whose effect a step has on the table. -/
theorem users_step
    (stepped : (accountServer lib).step state action = some next) :
    next.stores.users = state.stores.users ∨
      ∃ command, (accountServer lib).applied state action = some command ∧
        next.stores.users = usersAfter command state.stores.users := by
  rcases Server.step_stores stepped with
    ⟨event, rfl, same⟩ | ⟨command, applied, same⟩ | ⟨_, _, same⟩
  · left
    cases event
    rw [same]
    rfl
  · right
    refine ⟨command, applied, ?_⟩
    rw [same]
    exact users_perform lib command state.stores
  · left
    rw [same]

theorem kept_step
    (stepped : (accountServer lib).step state action = some next) :
    Kept state.stores.users next.stores.users := by
  rcases users_step stepped with same | ⟨command, _, same⟩
  · rw [same]
    exact Kept.refl _
  · rw [same]
    exact Kept.usersAfter command _

theorem SentTo.step {email : Text} {otp : Otp}
    (sent : SentTo state email otp)
    (stepped : (accountServer lib).step state action = some next) :
    SentTo next email otp := by
  obtain ⟨request, member, isSent⟩ := sent
  exact ⟨request, mem_requests_step stepped member, isSent⟩

theorem Proven.step {email : Text} (proven : Proven state email)
    (stepped : (accountServer lib).step state action = some next) :
    Proven next email := by
  obtain ⟨otp, sent, answered⟩ := proven
  exact ⟨otp, sent.step stepped, mem_requests_step stepped answered⟩

theorem RegisteredBy.step {registered : RegisterInput} {row : User}
    (registration : RegisteredBy lib state registered row)
    (stepped : (accountServer lib).step state action = some next) :
    RegisteredBy lib next registered row := by
  obtain ⟨member, hashed, roles, standing⟩ := registration
  refine ⟨mem_requests_step stepped member, hashed, roles, ?_⟩
  exact standing.imp id fun both => ⟨both.1, both.2.step stepped⟩

end Steps

/-! ## What the calls know -/

/-- A code that has been sent, after some failed attempts. -/
def OfSent (accounts : AccountState) (email : Text) (stored : StoredCode) :
    Prop :=
  ∃ (otp : Otp) (attempts : Nat),
    SentTo accounts email otp ∧ stored = .generated [] otp attempts

/-- What a failed guess is going to write back. -/
def RenewsSent (accounts : AccountState) (email : Text) : CheckStage → Prop
  | .ttl renewed => OfSent accounts email renewed
  | .writeBack renewed _ => OfSent accounts email renewed
  | _ => True

/-- The login has read the row of an active user. -/
def LogsIn (accounts : AccountState) (input : LoginInput) (user : User) :
    Prop :=
  user.status = .active ∧ user.email = input.email ∧
    ActiveAs accounts.stores.users user

def HasPassword (lib : Libraries) (input : LoginInput) (user : User) : Prop :=
  lib.compare input.password user.passwordHash = true

def Knows (lib : Libraries) (accounts : AccountState) : AccountCall → Prop
  | .register ⟨input, .running (.createUser passwordHash)⟩ =>
      passwordHash = lib.hash input.password input.salt
  | .login ⟨input, .running (.comparePassword user)⟩ =>
      LogsIn accounts input user
  | .login ⟨input, .running (.delFail user)⟩ =>
      LogsIn accounts input user ∧ HasPassword lib input user
  | .login ⟨input, .running (.signToken user)⟩ =>
      LogsIn accounts input user ∧ HasPassword lib input user
  | _ => True

/-- Whose email a request asks to change. -/
def changer? : AccountRequest → Option UserId
  | .requestEmailChange input => some input.userId
  | .verifyEmailChange input => some input.userId
  | _ => none

structure Sound (lib : Libraries) (accounts : AccountState) : Prop where
  stored : ∀ email entry, accounts.stores.find (.otp email) = some entry →
    ∃ stored, OfSent accounts email stored ∧
      entry.value = (otpCheck email).encode stored
  renews : ∀ call ∈ accounts.calls, ∀ email given stage,
    call.role? = some (.registration email, .checks given stage) →
    RenewsSent accounts email stage
  accepts : ∀ call ∈ accounts.calls, ∀ email given newEmail,
    call.role? = some (.registration email, .accepts given newEmail) →
    Proven accounts email
  knows : ∀ call ∈ accounts.calls, Knows lib accounts call
  rows : ∀ row ∈ accounts.stores.users.rows,
    ∃ registered, RegisteredBy lib accounts registered row
  changers : ∀ call ∈ accounts.calls, ∀ userId,
    changer? call.request = some userId →
    ActiveId accounts.stores.users userId

theorem OfSent.afterFailure {accounts : AccountState} {email : Text}
    {stored : StoredCode} (ofSent : OfSent accounts email stored) :
    OfSent accounts email stored.afterFailure := by
  obtain ⟨otp, attempts, sent, rfl⟩ := ofSent
  exact ⟨otp, attempts + 1, sent, rfl⟩

inductive Writes (call : AccountCall) : AccountCommand → Prop
  | creates (input : RegisterInput) (passwordHash : Text)
      (isCall : call = .register
        ⟨input, .running (.createUser passwordHash)⟩) :
      Writes call (.createUser (input.newUser passwordHash))
  | activates (input : VerifyOtpInput)
      (isCall : call = .verifyOtp ⟨input, .running .activate⟩) :
      Writes call (.activateUser input.email)
  | changes (input : VerifyEmailChangeInput) (newEmail : Text)
      (isCall : call = .verifyEmailChange
        ⟨input, .running (.updateEmail newEmail)⟩) :
      Writes call (.updateEmail input.userId newEmail)
  | reads (command : AccountCommand)
      (same : ∀ users, usersAfter command users = users) :
      Writes call command

private theorem writes_of_pending (lib : Libraries) {call : AccountCall}
    {pending : Awaited AccountCall} (waits : call.pending = some pending) :
    Writes call pending.command := by
  cases call with
  | register call =>
      obtain ⟨stage, atStage, rfl⟩ := (hosts_register lib).running waits
      cases stage with
      | createUser passwordHash =>
          exact .creates call.input passwordHash (congrArg _ atStage)
      | _ => exact .reads _ fun _ => rfl
  | verifyOtp call =>
      obtain ⟨stage, atStage, rfl⟩ := (hosts_verifyOtp lib).running waits
      cases stage with
      | check stage => cases stage <;> exact .reads _ fun _ => rfl
      | activate => exact .activates call.input (congrArg _ atStage)
      | delOtp => exact .reads _ fun _ => rfl
  | resendOtp call =>
      obtain ⟨stage, _, rfl⟩ := (hosts_resendOtp lib).running waits
      cases stage <;> exact .reads _ fun _ => rfl
  | login call =>
      obtain ⟨stage, _, rfl⟩ := (hosts_login lib).running waits
      cases stage <;> exact .reads _ fun _ => rfl
  | requestEmailChange call =>
      obtain ⟨stage, _, rfl⟩ := (hosts_requestEmailChange lib).running waits
      cases stage <;> exact .reads _ fun _ => rfl
  | verifyEmailChange call =>
      obtain ⟨stage, atStage, rfl⟩ :=
        (hosts_verifyEmailChange lib).running waits
      cases stage with
      | check stage => cases stage <;> exact .reads _ fun _ => rfl
      | updateEmail newEmail =>
          exact .changes call.input newEmail (congrArg _ atStage)
      | _ => exact .reads _ fun _ => rfl

/-- A request that stores a code sends it. -/
theorem sends?_of_generates {call : AccountCall} {email newEmail : Text}
    {otp : Otp}
    (plays : call.role? = some (.registration email,
      .generates newEmail otp)) :
    sends? call.request = some (email, otp) := by
  unfold AccountCall.role? at plays
  split at plays
  · cases plays
    rfl
  · cases plays
    rfl
  · next input stage =>
      cases stage with
      | check stage => cases plays
      | activate => cases plays
      | delOtp => cases plays
  · cases plays
  · cases plays
  · cases plays

section Steps

variable {lib : Libraries} {state next : AccountState} {action : AccountAction}

theorem OfSent.step {email : Text} {stored : StoredCode}
    (ofSent : OfSent state email stored)
    (stepped : (accountServer lib).step state action = some next) :
    OfSent next email stored := by
  obtain ⟨otp, attempts, sent, isCode⟩ := ofSent
  exact ⟨otp, attempts, sent.step stepped, isCode⟩

theorem RenewsSent.step {email : Text} {stage : CheckStage}
    (renews : RenewsSent state email stage)
    (stepped : (accountServer lib).step state action = some next) :
    RenewsSent next email stage := by
  cases stage with
  | ttl renewed => exact OfSent.step renews stepped
  | writeBack renewed ttlSeconds => exact OfSent.step renews stepped
  | _ => trivial

theorem LogsIn.step {input : LoginInput} {user : User}
    (logsIn : LogsIn state input user)
    (stepped : (accountServer lib).step state action = some next) :
    LogsIn next input user :=
  ⟨logsIn.1, logsIn.2.1, (kept_step stepped).activeAs logsIn.2.2⟩

theorem Knows.step {call : AccountCall} (knows : Knows lib state call)
    (stepped : (accountServer lib).step state action = some next) :
    Knows lib next call := by
  unfold Knows at knows ⊢
  split at knows
  · exact knows
  · exact LogsIn.step knows stepped
  · exact ⟨LogsIn.step knows.1 stepped, knows.2⟩
  · exact ⟨LogsIn.step knows.1 stepped, knows.2⟩
  · trivial

end Steps

namespace Sound

variable {lib : Libraries} {state next : AccountState} {action : AccountAction}

theorem read (sound : Sound lib state) {email : Text} {stored : StoredCode}
    (found : (otpCheck email).stored? state.stores = some stored) :
    OfSent state email stored := by
  simp only [CodeCheck.stored?, Option.map_eq_some_iff] at found
  obtain ⟨entry, kept, rfl⟩ := found
  obtain ⟨stored, ⟨otp, attempts, sent, rfl⟩, text⟩ :=
    sound.stored email entry (Option.filter_eq_some_iff.mp kept).1
  rw [text]
  exact ⟨otp, attempts, sent, otpCheck_readsBack email otp attempts⟩

theorem stored_step (sound : Sound lib state)
    (stepped : (accountServer lib).step state action = some next)
    (email : Text) (entry : Entry Text)
    (live : next.stores.find (.otp email) = some entry) :
    ∃ stored, OfSent state email stored ∧
      entry.value = (otpCheck email).encode stored := by
  rcases step_code stepped (.registration email) with
    ⟨elapsed, rfl, later⟩ | ⟨role, applied, left, _⟩ | ⟨_, left, _⟩
  · rw [later, AccountStores.find_tick] at live
    exact sound.stored email entry (Option.filter_eq_some_iff.mp live).1
  · obtain ⟨index, outcome, call, _, _, found, plays⟩ :=
      applied?_eq_some.mp applied
    have member := List.mem_of_getElem? found
    have left' : next.stores.find (.otp email) =
        role.codeAfter (otpCheck email) state.stores := left
    rw [left'] at live
    cases role with
    | generates newEmail otp =>
        cases live
        have sent : SentTo state email otp :=
          ⟨call.request, List.mem_map_of_mem member,
            sends?_of_generates plays⟩
        exact ⟨_, ⟨otp, 0, sent, rfl⟩, rfl⟩
    | accepts otp newEmail => exact sound.stored email entry live
    | consumes otp => cases live
    | checks given stage =>
        cases stage with
        | delExhausted => cases live
        | writeBack renewed ttlSeconds =>
            have renews := sound.renews call member email given _ plays
            cases live
            exact ⟨renewed, renews, rfl⟩
        | _ => exact sound.stored email entry live
  · have left' : next.stores.find (.otp email) =
        state.stores.find (.otp email) := left
    rw [left'] at live
    exact sound.stored email entry live

theorem renews_step (sound : Sound lib state)
    (stepped : (accountServer lib).step state action = some next)
    (call : AccountCall) (member : call ∈ next.calls) (email given : Text)
    (stage : CheckStage)
    (plays : call.role? = some (.registration email, .checks given stage)) :
    RenewsSent state email stage := by
  obtain ⟨index, reached⟩ := List.mem_iff_getElem?.mp member
  cases Server.step_calls stepped reached with
  | kept _ _ found =>
      exact sound.renews call (List.mem_of_getElem? found) email given stage
        plays
  | accepted input _ _ accepts _ =>
      obtain ⟨_, rfl⟩ := accept_eq_some.mp accepts
      obtain ⟨_, same⟩ := AccountCall.role?_request plays
      cases same
      trivial
  | answered outcome earlier pending _ found waits =>
      cases (role_cases lib waits plays).2 with
      | checked _ before _ playsBefore goes =>
          cases goes with
          | failure stored read _ below => exact (sound.read read).afterFailure
          | timed renewed =>
              exact sound.renews earlier (List.mem_of_getElem? found) email
                given (.ttl renewed) playsBefore
          | unlocked free => trivial
          | lastFailure stored read wrong isOver => trivial
          | deleted => trivial

/-- The accepted code is one that has been sent. -/
theorem accepts_step (sound : Sound lib state)
    (stepped : (accountServer lib).step state action = some next)
    (call : AccountCall) (member : call ∈ next.calls)
    (email given newEmail : Text)
    (plays : call.role? =
      some (.registration email, .accepts given newEmail)) :
    Proven state email := by
  obtain ⟨index, reached⟩ := List.mem_iff_getElem?.mp member
  cases Server.step_calls stepped reached with
  | kept _ _ found =>
      exact sound.accepts call (List.mem_of_getElem? found) email given
        newEmail plays
  | accepted input _ _ accepts _ =>
      obtain ⟨_, rfl⟩ := accept_eq_some.mp accepts
      obtain ⟨_, same⟩ := AccountCall.role?_request plays
      cases same
  | answered outcome earlier pending _ found waits =>
      have earlierMember := List.mem_of_getElem? found
      cases (role_cases lib waits plays).2 with
      | accepting _ _ before =>
          exact sound.accepts earlier earlierMember email given newEmail
            before
      | accepted _ _ stored before read same _ =>
          obtain ⟨otp, attempts, sent, rfl⟩ := sound.read read
          obtain ⟨input, stage, rfl, rfl⟩ :=
            AccountCall.verifyOtp_of_role before nofun
          have typed : input.otp = otp.text := by
            cases stage with
            | check stage =>
                cases before
                exact (Option.some.inj same).symm
            | activate => cases before
            | delOtp => cases before
          refine ⟨otp, sent, ?_⟩
          rw [← typed]
          exact List.mem_map_of_mem earlierMember

/-- The row that a command leaves has been registered. -/
theorem rows_command (sound : Sound lib state) {call : AccountCall}
    (member : call ∈ state.calls) {command : AccountCommand}
    (writes : Writes call command) (row : User)
    (isRow : row ∈ (usersAfter command state.stores.users).rows) :
    ∃ registered, RegisteredBy lib state registered row := by
  cases writes with
  | reads _ same =>
      rw [same] at isRow
      exact sound.rows row isRow
  | creates input passwordHash isCall =>
      subst isCall
      simp only [usersAfter, Users.create] at isRow
      split at isRow
      · rcases List.mem_append.mp isRow with old | new
        · exact sound.rows row old
        · rw [List.mem_singleton.mp new]
          exact ⟨input, List.mem_map_of_mem member, sound.knows _ member, rfl,
            Or.inl ⟨rfl, rfl⟩⟩
      · exact sound.rows row isRow
  | activates input isCall =>
      subst isCall
      obtain ⟨before, inRows, rfl⟩ := List.mem_map.mp isRow
      obtain ⟨registered, asked, hashed, roles, standing⟩ :=
        sound.rows before inRows
      refine ⟨registered, asked, ?_⟩
      unfold Users.activated
      split
      · next activates =>
          refine ⟨hashed, roles, Or.inr ⟨rfl, ?_⟩⟩
          rcases standing with ⟨_, sameEmail⟩ | ⟨active, _⟩
          · rw [← sameEmail, activates.1]
            exact sound.accepts _ member _ _ _ rfl
          · rw [activates.2] at active
            cases active
      · exact ⟨hashed, roles, standing⟩
  | changes input newEmail isCall =>
      subst isCall
      obtain ⟨active, inTable, isUser, isActive⟩ :=
        sound.changers _ member input.userId rfl
      simp only [usersAfter, Users.updateEmail] at isRow
      split at isRow
      · obtain ⟨before, inRows, rfl⟩ := List.mem_map.mp isRow
        obtain ⟨registered, asked, hashed, roles, standing⟩ :=
          sound.rows before inRows
        refine ⟨registered, asked, ?_⟩
        unfold Users.withEmail
        split
        · next sameUser =>
            have sameRow : before = active :=
              Users.eq_of_id inRows inTable (sameUser.trans isUser.symm)
            subst sameRow
            refine ⟨hashed, roles, Or.inr ⟨isActive, ?_⟩⟩
            rcases standing with ⟨pending, _⟩ | ⟨_, proven⟩
            · rw [pending] at isActive
              cases isActive
            · exact proven
        · exact ⟨hashed, roles, standing⟩
      · exact sound.rows row isRow

theorem rows_step (sound : Sound lib state)
    (stepped : (accountServer lib).step state action = some next) (row : User)
    (isRow : row ∈ next.stores.users.rows) :
    ∃ registered, RegisteredBy lib state registered row := by
  rcases users_step stepped with same | ⟨command, applied, same⟩
  · rw [same] at isRow
    exact sound.rows row isRow
  · rw [same] at isRow
    obtain ⟨index, outcome, call, pending, _, _, found, waits, rfl⟩ :=
      Server.applied_eq_some.mp applied
    exact sound.rows_command (List.mem_of_getElem? found)
      (writes_of_pending lib waits) row isRow

/-- What a login learns from the reply that it awaits. -/
theorem login_learns (sound : Sound lib state) {input : LoginInput}
    {stage : LoginStage}
    (member : AccountCall.login ⟨input, .running stage⟩ ∈ state.calls)
    (outcome : Await) :
    Knows lib state (.login ⟨input,
      Call.goOn (accountServer lib).perform login input stage state.stores
        outcome⟩) := by
  have known := sound.knows _ member
  cases outcome with
  | rejects applied => trivial
  | stops => trivial
  | resolves =>
      cases stage with
      | getFail =>
          simp only [Call.goOn, login]
          split <;> trivial
      | findUser =>
          have reply : ((accountServer lib).perform (.findUser input.email)
              state.stores).1 =
              state.stores.users.findByEmail input.email := rfl
          simp only [Call.goOn, login]
          rw [reply]
          cases found : state.stores.users.findByEmail input.email with
          | none => trivial
          | some user =>
              obtain ⟨inRows, sameEmail⟩ :=
                Users.findByEmail_eq_some_iff.mp found
              simp only
              cases active : user.status with
              | active =>
                  exact ⟨active, sameEmail, user, inRows, rfl, active, rfl,
                    rfl⟩
              | pendingVerify => trivial
              | locked => trivial
      | comparePassword user =>
          have reply : ((accountServer lib).perform
              (.comparePassword input.password user.passwordHash)
              state.stores).1 =
              lib.compare input.password user.passwordHash := rfl
          simp only [Call.goOn, login]
          rw [reply]
          cases valid : lib.compare input.password user.passwordHash with
          | true => exact ⟨known, valid⟩
          | false => trivial
      | incrFail =>
          simp only [Call.goOn, login]
          split
          · trivial
          · split <;> trivial
      | expireFail => trivial
      | delFail user => exact known
      | signToken user => trivial
      | createAuditLog user accessToken => trivial

theorem register_learns {input : RegisterInput} {stage : RegisterStage}
    (stores : AccountStores) (outcome : Await) :
    Knows lib state (.register ⟨input,
      Call.goOn (accountServer lib).perform register input stage stores
        outcome⟩) := by
  cases outcome with
  | rejects applied => trivial
  | stops => trivial
  | resolves =>
      cases stage with
      | findUser =>
          simp only [Call.goOn, register]
          split
          · trivial
          · split <;> trivial
      | hashPassword => exact rfl
      | createUser passwordHash =>
          simp only [Call.goOn, register]
          split <;> trivial
      | storeOtp message => trivial

private theorem knows_step (sound : Sound lib state)
    (stepped : (accountServer lib).step state action = some next)
    (call : AccountCall) (member : call ∈ next.calls) :
    Knows lib state call := by
  obtain ⟨index, reached⟩ := List.mem_iff_getElem?.mp member
  cases Server.step_calls stepped reached with
  | kept _ _ found => exact sound.knows call (List.mem_of_getElem? found)
  | accepted request _ _ accepts _ =>
      obtain ⟨_, rfl⟩ := accept_eq_some.mp accepts
      cases request <;> trivial
  | answered outcome earlier pending _ found waits =>
      cases earlier with
      | register call =>
          obtain ⟨stage, atStage, rfl⟩ := (hosts_register lib).running waits
          rw [atStage, (hosts_register lib).answer]
          exact register_learns state.stores outcome
      | login call =>
          obtain ⟨stage, atStage, rfl⟩ := (hosts_login lib).running waits
          rw [atStage] at found
          rw [atStage, (hosts_login lib).answer]
          exact sound.login_learns (List.mem_of_getElem? found) outcome
      | verifyOtp call =>
          obtain ⟨stage, atStage, rfl⟩ := (hosts_verifyOtp lib).running waits
          rw [atStage, (hosts_verifyOtp lib).answer]
          trivial
      | resendOtp call =>
          obtain ⟨stage, atStage, rfl⟩ := (hosts_resendOtp lib).running waits
          rw [atStage, (hosts_resendOtp lib).answer]
          trivial
      | requestEmailChange call =>
          obtain ⟨stage, atStage, rfl⟩ :=
            (hosts_requestEmailChange lib).running waits
          rw [atStage, (hosts_requestEmailChange lib).answer]
          trivial
      | verifyEmailChange call =>
          obtain ⟨stage, atStage, rfl⟩ :=
            (hosts_verifyEmailChange lib).running waits
          rw [atStage, (hosts_verifyEmailChange lib).answer]
          trivial

/-- A call is about the account of an active user when its request is. -/
theorem changers_step (sound : Sound lib state)
    (stepped : (accountServer lib).step state action = some next)
    (allowed : ∀ request, action = .request request → ∀ userId,
      changer? request = some userId →
      ActiveId state.stores.users userId)
    (call : AccountCall) (member : call ∈ next.calls) (userId : UserId)
    (changes : changer? call.request = some userId) :
    ActiveId state.stores.users userId := by
  obtain ⟨index, reached⟩ := List.mem_iff_getElem?.mp member
  cases Server.step_calls stepped reached with
  | kept _ _ found =>
      exact sound.changers call (List.mem_of_getElem? found) userId changes
  | accepted request _ ran accepts _ =>
      obtain ⟨_, rfl⟩ := accept_eq_some.mp accepts
      rw [AccountCall.request_call] at changes
      exact allowed request ran userId changes
  | answered outcome earlier pending _ found waits =>
      rw [request_answer lib waits] at changes
      exact sound.changers earlier (List.mem_of_getElem? found) userId changes

theorem of_idle {start : AccountState} (idle : start.calls = [])
    (noCode : ∀ email, start.stores.find (.otp email) = none)
    (nobody : start.stores.users.rows = []) : Sound lib start := by
  refine ⟨?_, ?_, ?_, ?_, ?_, ?_⟩
  · intro email entry live
    rw [noCode] at live
    cases live
  · rw [idle]
    exact List.forall_mem_nil _
  · rw [idle]
    exact List.forall_mem_nil _
  · rw [idle]
    exact List.forall_mem_nil _
  · rw [nobody]
    exact List.forall_mem_nil _
  · rw [idle]
    exact List.forall_mem_nil _

/-- Everything that is known stays known. -/
theorem step (sound : Sound lib state)
    (stepped : (accountServer lib).step state action = some next)
    (allowed : ∀ request, action = .request request → ∀ userId,
      changer? request = some userId →
      ActiveId state.stores.users userId) : Sound lib next := by
  refine ⟨?_, ?_, ?_, ?_, ?_, ?_⟩
  · intro email entry live
    obtain ⟨stored, ofSent, text⟩ :=
      sound.stored_step stepped email entry live
    exact ⟨stored, ofSent.step stepped, text⟩
  · intro call member email given stage plays
    exact (sound.renews_step stepped call member email given stage
      plays).step stepped
  · intro call member email given newEmail plays
    exact (sound.accepts_step stepped call member email given newEmail
      plays).step stepped
  · intro call member
    exact (sound.knows_step stepped call member).step stepped
  · intro row isRow
    obtain ⟨registered, registration⟩ := sound.rows_step stepped row isRow
    exact ⟨registered, registration.step stepped⟩
  · intro call member userId changes
    exact (kept_step stepped).activeId
      (sound.changers_step stepped allowed call member userId changes)

end Sound

end ConcertTicketing.Access
