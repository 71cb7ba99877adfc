import ConcertTicketing.Accounts.UseCases

/-!
# The account server

The endpoints of both services over the table of users and the Redis keys, as
a server, and what is known of every step: which command it applies and what
the command leaves under each key.
-/

namespace ConcertTicketing.Accounts

open Redis

inductive AccountCall where
  | register (call : Call RegisterInput RegisterStage Answer)
  | verifyOtp (call : Call VerifyOtpInput VerifyOtpStage Answer)
  | resendOtp (call : Call ResendOtpInput ResendOtpStage Answer)
  | login (call : Call LoginInput LoginStage (Except AccountError Text))
  | requestEmailChange
      (call : Call RequestEmailChangeInput RequestStage Answer)
  | verifyEmailChange
      (call : Call VerifyEmailChangeInput VerifyChangeStage Answer)
  deriving DecidableEq

namespace AccountCall

def pending : AccountCall → Option (Awaited AccountCall)
  | .register call =>
      (call.pending Accounts.register).map (Pending.map .register)
  | .verifyOtp call =>
      (call.pending Accounts.verifyOtp).map (Pending.map .verifyOtp)
  | .resendOtp call =>
      (call.pending Accounts.resendOtp).map (Pending.map .resendOtp)
  | .login call => (call.pending Accounts.login).map (Pending.map .login)
  | .requestEmailChange call =>
      (call.pending Accounts.requestEmailChange).map
        (Pending.map .requestEmailChange)
  | .verifyEmailChange call =>
      (call.pending Accounts.verifyEmailChange).map
        (Pending.map .verifyEmailChange)

def reject : AccountCall → Bool → AccountCall
  | .register call, applied => .register (call.reject applied)
  | .verifyOtp call, applied => .verifyOtp (call.reject applied)
  | .resendOtp call, applied => .resendOtp (call.reject applied)
  | .login call, applied => .login (call.reject applied)
  | .requestEmailChange call, applied =>
      .requestEmailChange (call.reject applied)
  | .verifyEmailChange call, applied =>
      .verifyEmailChange (call.reject applied)

def stop : AccountCall → AccountCall
  | .register call => .register call.stop
  | .verifyOtp call => .verifyOtp call.stop
  | .resendOtp call => .resendOtp call.stop
  | .login call => .login call.stop
  | .requestEmailChange call => .requestEmailChange call.stop
  | .verifyEmailChange call => .verifyEmailChange call.stop

end AccountCall

inductive AccountRequest where
  | register (input : RegisterInput)
  | verifyOtp (input : VerifyOtpInput)
  | resendOtp (input : ResendOtpInput)
  | login (input : LoginInput)
  | requestEmailChange (input : RequestEmailChangeInput)
  | verifyEmailChange (input : VerifyEmailChangeInput)
  deriving DecidableEq, Repr

namespace AccountRequest

def Valid (lib : Libraries) : AccountRequest → Prop
  | .register input => input.Valid lib
  | .verifyOtp input => input.Valid lib
  | .resendOtp input => input.Valid lib
  | .login input => input.Valid lib
  | .requestEmailChange input => input.Valid lib
  | .verifyEmailChange input => input.Valid

instance (lib : Libraries) :
    (request : AccountRequest) → Decidable (request.Valid lib)
  | .register input => inferInstanceAs (Decidable (input.Valid lib))
  | .verifyOtp input => inferInstanceAs (Decidable (input.Valid lib))
  | .resendOtp input => inferInstanceAs (Decidable (input.Valid lib))
  | .login input => inferInstanceAs (Decidable (input.Valid lib))
  | .requestEmailChange input => inferInstanceAs (Decidable (input.Valid lib))
  | .verifyEmailChange input => inferInstanceAs (Decidable input.Valid)

/-- The call of the service, before its first await has ended. -/
def call : AccountRequest → AccountCall
  | .register input => .register ⟨input, .running .findUser⟩
  | .verifyOtp input => .verifyOtp ⟨input, .running (.check .existsLock)⟩
  | .resendOtp input => .resendOtp ⟨input, .running .existsLock⟩
  | .login input => .login ⟨input, .running .getFail⟩
  | .requestEmailChange input =>
      .requestEmailChange ⟨input, .running .existsLock⟩
  | .verifyEmailChange input =>
      .verifyEmailChange ⟨input, .running (.check .existsLock)⟩

end AccountRequest

/-- Nothing but time acts on the stores from outside. -/
inductive AccountEvent where
  | tick (elapsed : Nat)
  deriving DecidableEq, Repr

/-- `AuthService` and `UsersService`. -/
def accountServer (lib : Libraries) :
    Server AccountStores AccountEvent AccountRequest AccountCommand
      AccountCommand.Reply AccountCall where
  external
    | .tick elapsed, stores => stores.tick elapsed
  accept request := if request.Valid lib then some request.call else none
  perform := perform lib
  pending := AccountCall.pending
  reject := AccountCall.reject
  stop := AccountCall.stop

theorem accept_eq_some {lib : Libraries} {request : AccountRequest}
    {call : AccountCall} :
    (accountServer lib).accept request = some call ↔
      request.Valid lib ∧ request.call = call := by
  simp only [accountServer, Option.ite_none_right_eq_some, Option.some.injEq]

abbrev AccountState := ServerState AccountStores AccountCall

abbrev AccountAction := ServerAction AccountEvent AccountRequest

abbrev AccountHistory := List (AccountState × AccountAction)

namespace AccountState

def init (users : Users) (origin : Instant) : AccountState :=
  ⟨⟨users, AccountRedis.empty origin, []⟩, []⟩

end AccountState

section Hosts

variable (lib : Libraries)

theorem hosts_register : (accountServer lib).Hosts .register register :=
  ⟨fun _ => rfl, fun _ _ => rfl, fun _ => rfl⟩

theorem hosts_verifyOtp : (accountServer lib).Hosts .verifyOtp verifyOtp :=
  ⟨fun _ => rfl, fun _ _ => rfl, fun _ => rfl⟩

theorem hosts_resendOtp : (accountServer lib).Hosts .resendOtp resendOtp :=
  ⟨fun _ => rfl, fun _ _ => rfl, fun _ => rfl⟩

theorem hosts_login : (accountServer lib).Hosts .login login :=
  ⟨fun _ => rfl, fun _ _ => rfl, fun _ => rfl⟩

theorem hosts_requestEmailChange :
    (accountServer lib).Hosts .requestEmailChange requestEmailChange :=
  ⟨fun _ => rfl, fun _ _ => rfl, fun _ => rfl⟩

theorem hosts_verifyEmailChange :
    (accountServer lib).Hosts .verifyEmailChange verifyEmailChange :=
  ⟨fun _ => rfl, fun _ _ => rfl, fun _ => rfl⟩

end Hosts

/-! ## What the calls do to a code -/

inductive CodeRole where
  | generates (newEmail : Text) (otp : Otp)
  | checks (otp : Text) (stage : CheckStage)
  | accepts (otp newEmail : Text)
  | consumes (otp : Text)
  deriving DecidableEq, Repr

namespace CodeRole

/-- What is left under the key when the pending command has taken effect. -/
def codeAfter (check : CodeCheck) (stores : AccountStores) :
    CodeRole → Option (Entry Text)
  | .generates newEmail otp =>
      some ⟨check.encode (.generated newEmail otp 0),
        some (stores.now + check.codeTtl * 1000)⟩
  | .checks _ .delExhausted => none
  | .checks _ (.writeBack renewed ttlSeconds) =>
      some ⟨check.encode renewed, setDeadline stores.now (some ttlSeconds)⟩
  | .checks _ _ => stores.find check.key
  | .accepts _ _ => stores.find check.key
  | .consumes _ => none

end CodeRole

namespace AccountCall

def request : AccountCall → AccountRequest
  | .register call => .register call.input
  | .verifyOtp call => .verifyOtp call.input
  | .resendOtp call => .resendOtp call.input
  | .login call => .login call.input
  | .requestEmailChange call => .requestEmailChange call.input
  | .verifyEmailChange call => .verifyEmailChange call.input

theorem request_call (request : AccountRequest) :
    request.call.request = request := by
  cases request <;> rfl

private theorem request_reject (call : AccountCall) (applied : Bool) :
    (call.reject applied).request = call.request := by
  cases call <;> simp only [reject, request, Call.input_reject]

private theorem request_stop (call : AccountCall) :
    call.stop.request = call.request := by
  cases call <;> simp only [stop, request, Call.input_stop]

def role? : AccountCall → Option (Purpose × CodeRole)
  | .register ⟨input, .running (.storeOtp _)⟩ =>
      some (.registration input.email, .generates [] input.otp)
  | .resendOtp ⟨input, .running .storeOtp⟩ =>
      some (.registration input.email, .generates [] input.otp)
  | .verifyOtp ⟨input, .running stage⟩ =>
      some (.registration input.email,
        match stage with
        | .check stage => .checks input.otp stage
        | .activate => .accepts input.otp []
        | .delOtp => .consumes input.otp)
  | .requestEmailChange ⟨input, .running .storeChange⟩ =>
      some (.emailChange input.userId, .generates input.newEmail input.otp)
  | .verifyEmailChange ⟨input, .running stage⟩ =>
      some (.emailChange input.userId,
        match stage with
        | .check stage => .checks input.otp stage
        | .findConflict newEmail => .accepts input.otp newEmail
        | .updateEmail newEmail => .accepts input.otp newEmail
        | .createAuditLog newEmail => .accepts input.otp newEmail
        | .delConflict => .consumes input.otp
        | .delChange => .consumes input.otp)
  | _ => none

/-- A call has its role until its pending command ends. -/
theorem pending_of_role {call : AccountCall} {purpose : Purpose}
    {role : CodeRole} (plays : call.role? = some (purpose, role)) :
    ∃ pending, call.pending = some pending := by
  cases call with
  | register call =>
      obtain ⟨input, progress⟩ := call
      cases progress with
      | running stage => exact ⟨_, rfl⟩
      | _ => cases plays
  | verifyOtp call =>
      obtain ⟨input, progress⟩ := call
      cases progress with
      | running stage => exact ⟨_, rfl⟩
      | _ => cases plays
  | resendOtp call =>
      obtain ⟨input, progress⟩ := call
      cases progress with
      | running stage => exact ⟨_, rfl⟩
      | _ => cases plays
  | login call => cases plays
  | requestEmailChange call =>
      obtain ⟨input, progress⟩ := call
      cases progress with
      | running stage => exact ⟨_, rfl⟩
      | _ => cases plays
  | verifyEmailChange call =>
      obtain ⟨input, progress⟩ := call
      cases progress with
      | running stage => exact ⟨_, rfl⟩
      | _ => cases plays

theorem pending_reject (call : AccountCall) (applied : Bool) :
    (call.reject applied).pending = none := by
  cases call <;> simp only [reject, pending, Call.pending_reject,
    Option.map_none]

theorem pending_stop (call : AccountCall) : call.stop.pending = none := by
  cases call <;> simp only [stop, pending, Call.pending_stop, Option.map_none]

/-- Only `verifyOtp` does anything else with the code of a registration. -/
theorem verifyOtp_of_role {call : AccountCall} {email : Text}
    {role : CodeRole} (plays : call.role? = some (.registration email, role))
    (noNew : ∀ newEmail otp, role ≠ .generates newEmail otp) :
    ∃ input stage, call = .verifyOtp ⟨input, .running stage⟩ ∧
      input.email = email := by
  unfold role? at plays
  split at plays
  · cases plays
    exact absurd rfl (noNew _ _)
  · cases plays
    exact absurd rfl (noNew _ _)
  · next input stage =>
      cases plays
      exact ⟨input, stage, rfl, rfl⟩
  · cases plays
  · cases plays
  · cases plays

/-- Only `verifyEmailChange` does anything else with the code of an email
change. -/
theorem verifyEmailChange_of_role {call : AccountCall} {userId : UserId}
    {role : CodeRole} (plays : call.role? = some (.emailChange userId, role))
    (noNew : ∀ newEmail otp, role ≠ .generates newEmail otp) :
    ∃ input stage, call = .verifyEmailChange ⟨input, .running stage⟩ ∧
      input.userId = userId := by
  unfold role? at plays
  split at plays
  · cases plays
  · cases plays
  · cases plays
  · cases plays
    exact absurd rfl (noNew _ _)
  · next input stage =>
      cases plays
      exact ⟨input, stage, rfl, rfl⟩
  · cases plays

/-- A new call has a role only if it is a verification, which starts with the
lock. -/
theorem role?_request {request : AccountRequest} {purpose : Purpose}
    {role : CodeRole} (plays : request.call.role? = some (purpose, role)) :
    ∃ given, role = .checks given .existsLock := by
  cases request <;> cases plays <;> exact ⟨_, rfl⟩

/-- A call that awaits nothing has no role. -/
theorem role?_of_ended {call : AccountCall} (ended : call.pending = none) :
    call.role? = none := by
  cases plays : call.role? with
  | none => rfl
  | some both =>
      obtain ⟨pending, waits⟩ := pending_of_role plays
      rw [ended] at waits
      cases waits

/-- A request for a code does nothing else with it. -/
theorem generates_of_role {call : AccountCall} {purpose : Purpose}
    {role : CodeRole} (plays : call.role? = some (purpose, role))
    (notVerifyOtp : ∀ typed, call ≠ .verifyOtp typed)
    (notVerifyEmailChange : ∀ typed, call ≠ .verifyEmailChange typed) :
    ∃ newEmail otp, role = .generates newEmail otp := by
  unfold role? at plays
  split at plays
  · cases plays
    exact ⟨_, _, rfl⟩
  · cases plays
    exact ⟨_, _, rfl⟩
  · exact absurd rfl (notVerifyOtp _)
  · cases plays
    exact ⟨_, _, rfl⟩
  · exact absurd rfl (notVerifyEmailChange _)
  · cases plays

end AccountCall

/-- What a call leaves under the key of a code. -/
def codeLeft (call : AccountCall) (purpose : Purpose)
    (stores : AccountStores) : Option (Entry Text) :=
  match call.role? with
  | some (owner, role) =>
      if owner = purpose then role.codeAfter purpose.check stores
      else stores.find purpose.check.key
  | none => stores.find purpose.check.key

private theorem key_eq_iff (owner purpose : Purpose) :
    purpose.check.key = owner.check.key ↔ owner = purpose := by
  constructor
  · intro same
    exact (Purpose.key_injective same).symm
  · intro same
    rw [same]

theorem textAfter_store (owner purpose : Purpose) (newEmail : Text) (otp : Otp)
    (stores : AccountStores) :
    textAfter (owner.check.store newEmail otp) stores purpose.check.key =
      if owner = purpose then
        (CodeRole.generates newEmail otp).codeAfter purpose.check stores
      else stores.find purpose.check.key := by
  simp only [CodeCheck.store, textAfter, key_eq_iff]
  by_cases same : owner = purpose
  · subst owner
    have positive : 0 < purpose.check.codeTtl := by
      rw [Purpose.codeTtl_eq]
      decide
    simp only [if_true, setDeadline, if_pos positive, CodeRole.codeAfter]
  · rw [if_neg same, if_neg same]

theorem textAfter_step (owner purpose : Purpose) (otp : Text)
    (stage : CheckStage) (stores : AccountStores) :
    textAfter (owner.check.step otp stage).command stores purpose.check.key =
      if owner = purpose then
        (CodeRole.checks otp stage).codeAfter purpose.check stores
      else stores.find purpose.check.key := by
  cases stage with
  | delExhausted =>
      simp only [CodeCheck.step, textAfter, key_eq_iff, CodeRole.codeAfter]
  | setLock =>
      simp only [CodeCheck.step, textAfter, CodeRole.codeAfter,
        if_neg (Purpose.key_ne_lockKey purpose owner), ite_self]
  | writeBack renewed ttlSeconds =>
      simp only [CodeCheck.step, textAfter, key_eq_iff, CodeRole.codeAfter]
      by_cases same : owner = purpose
      · rw [if_pos same, if_pos same, same]
      · rw [if_neg same, if_neg same]
  | _ => simp only [CodeCheck.step, textAfter, CodeRole.codeAfter, ite_self]

private theorem textAfter_del (owner purpose : Purpose) (otp : Text)
    (stores : AccountStores) :
    textAfter (.del owner.check.key) stores purpose.check.key =
      if owner = purpose then
        (CodeRole.consumes otp).codeAfter purpose.check stores
      else stores.find purpose.check.key := by
  simp only [textAfter, key_eq_iff, CodeRole.codeAfter]

private theorem textAfter_otpLock (email : Text) (value : Text)
    (ttlSeconds : Option Int) (purpose : Purpose) (stores : AccountStores) :
    textAfter (.set (.otpLock email) value ttlSeconds) stores
      purpose.check.key = stores.find purpose.check.key := by
  have apart := Purpose.key_ne_lockKey purpose (.registration email)
  exact if_neg apart

section Steps

variable (lib : Libraries)

/-- The pending command of a call acts on a code as its role says. -/
theorem find_code {call : AccountCall} {pending : Awaited AccountCall}
    (waits : call.pending = some pending) (purpose : Purpose)
    (stores : AccountStores) :
    (perform lib pending.command stores).2.find purpose.check.key =
      codeLeft call purpose stores := by
  rw [find_perform]
  cases call with
  | register call =>
      obtain ⟨stage, atStage, rfl⟩ := (hosts_register lib).running waits
      rw [atStage]
      cases stage with
      | storeOtp message =>
          exact textAfter_store (.registration call.input.email) purpose [] _ _
      | _ => rfl
  | verifyOtp call =>
      obtain ⟨stage, atStage, rfl⟩ := (hosts_verifyOtp lib).running waits
      rw [atStage]
      cases stage with
      | check stage =>
          exact textAfter_step (.registration call.input.email) purpose _ _ _
      | activate => exact (ite_self _).symm
      | delOtp =>
          exact textAfter_del (.registration call.input.email) purpose
            call.input.otp _
  | resendOtp call =>
      obtain ⟨stage, atStage, rfl⟩ := (hosts_resendOtp lib).running waits
      rw [atStage]
      cases stage with
      | storeOtp =>
          exact textAfter_store (.registration call.input.email) purpose [] _ _
      | setLock => exact textAfter_otpLock _ _ _ purpose stores
      | _ => rfl
  | login call =>
      obtain ⟨stage, atStage, rfl⟩ := (hosts_login lib).running waits
      rw [atStage]
      cases stage <;> rfl
  | requestEmailChange call =>
      obtain ⟨stage, atStage, rfl⟩ :=
        (hosts_requestEmailChange lib).running waits
      rw [atStage]
      cases stage with
      | storeChange =>
          exact textAfter_store (.emailChange call.input.userId) purpose _ _ _
      | _ => rfl
  | verifyEmailChange call =>
      obtain ⟨stage, atStage, rfl⟩ :=
        (hosts_verifyEmailChange lib).running waits
      rw [atStage]
      cases stage with
      | check stage =>
          exact textAfter_step (.emailChange call.input.userId) purpose _ _ _
      | delConflict =>
          exact textAfter_del (.emailChange call.input.userId) purpose
            call.input.otp _
      | delChange =>
          exact textAfter_del (.emailChange call.input.userId) purpose
            call.input.otp _
      | _ => exact (ite_self _).symm

theorem request_answer {call : AccountCall} {pending : Awaited AccountCall}
    (waits : call.pending = some pending) (stores : AccountStores)
    (outcome : Await) :
    ((accountServer lib).answer call pending stores outcome).2.request =
      call.request := by
  cases outcome with
  | rejects applied =>
      cases applied <;> exact call.request_reject _
  | stops => exact call.request_stop
  | resolves =>
      cases call with
      | register call =>
          obtain ⟨stage, _, rfl⟩ := (hosts_register lib).running waits
          rfl
      | verifyOtp call =>
          obtain ⟨stage, _, rfl⟩ := (hosts_verifyOtp lib).running waits
          rfl
      | resendOtp call =>
          obtain ⟨stage, _, rfl⟩ := (hosts_resendOtp lib).running waits
          rfl
      | login call =>
          obtain ⟨stage, _, rfl⟩ := (hosts_login lib).running waits
          rfl
      | requestEmailChange call =>
          obtain ⟨stage, _, rfl⟩ :=
            (hosts_requestEmailChange lib).running waits
          rfl
      | verifyEmailChange call =>
          obtain ⟨stage, _, rfl⟩ :=
            (hosts_verifyEmailChange lib).running waits
          rfl

/-- A call that has failed awaits nothing. -/
theorem pending_of_failure (call : AccountCall) (pending : Awaited AccountCall)
    (stores : AccountStores) {outcome : Await} (fails : outcome ≠ .resolves) :
    ((accountServer lib).answer call pending stores outcome).2.pending =
      none := by
  cases outcome with
  | resolves => exact absurd rfl fails
  | rejects applied => cases applied <;> exact call.pending_reject _
  | stops => exact call.pending_stop

inductive RoleFrom (stores : AccountStores) (call : AccountCall)
    (purpose : Purpose) : CodeRole → Prop
  | generating (newEmail : Text) (otp : Otp) :
      RoleFrom stores call purpose (.generates newEmail otp)
  | checked (otp : Text) (stage later : CheckStage)
      (before : call.role? = some (purpose, .checks otp stage))
      (goes : purpose.check.Goes otp stores stage (.running later)) :
      RoleFrom stores call purpose (.checks otp later)
  | accepted (otp newEmail : Text) (stored : StoredCode)
      (before : call.role? = some (purpose, .checks otp .getStored))
      (found : purpose.check.stored? stores = some stored)
      (same : stored.code = some otp) (address : stored.newEmail = newEmail) :
      RoleFrom stores call purpose (.accepts otp newEmail)
  | accepting (otp newEmail : Text)
      (before : call.role? = some (purpose, .accepts otp newEmail)) :
      RoleFrom stores call purpose (.accepts otp newEmail)
  | consuming (otp newEmail : Text)
      (before : call.role? = some (purpose, .accepts otp newEmail)) :
      RoleFrom stores call purpose (.consumes otp)

private theorem newEmail_of_otpCheck {email : Text} {stores : AccountStores}
    {stored : StoredCode} (found : (otpCheck email).stored? stores = some stored) :
    stored.newEmail = [] := by
  simp only [CodeCheck.stored?, Option.map_eq_some_iff] at found
  obtain ⟨entry, _, rfl⟩ := found
  rfl

/-- How a verification goes on with its check. -/
def verifyOtpAfter : CheckProgress → VerifyOtpProgress
  | .running later => .running (.check later)
  | .accepted _ => .running .activate
  | .thrown error => .finished (.error error)

private theorem verifyOtp_check (input : VerifyOtpInput) (stage : CheckStage)
    (stores : AccountStores) :
    Call.goOn (accountServer lib).perform verifyOtp input (.check stage) stores
        .resolves =
      verifyOtpAfter ((otpCheck input.email).goOn lib input.otp stage stores) :=
  rfl

private theorem verifyEmailChange_check (input : VerifyEmailChangeInput)
    (stage : CheckStage) (stores : AccountStores) :
    Call.goOn (accountServer lib).perform verifyEmailChange input (.check stage)
        stores .resolves =
      match (emailChangeCheck input.userId).goOn lib input.otp stage stores with
      | .running later => .running (.check later)
      | .accepted stored => .running (.findConflict stored.newEmail)
      | .thrown error => .finished (.error error) := rfl

def checkedRole (purpose : Purpose) (otp : Text) :
    CheckProgress → Option (Purpose × CodeRole)
  | .running later => some (purpose, .checks otp later)
  | .accepted stored => some (purpose, .accepts otp stored.newEmail)
  | .thrown _ => none

theorem role?_of_check {call : AccountCall} {pending : Awaited AccountCall}
    (waits : call.pending = some pending) (stores : AccountStores)
    {purpose : Purpose} {otp : Text} {stage : CheckStage}
    (before : call.role? = some (purpose, .checks otp stage)) :
    ((accountServer lib).answer call pending stores .resolves).2.role? =
      checkedRole purpose otp (purpose.check.goOn lib otp stage stores) := by
  cases call with
  | verifyOtp call =>
      obtain ⟨at', atStage, rfl⟩ := (hosts_verifyOtp lib).running waits
      rw [atStage] at before ⊢
      rw [(hosts_verifyOtp lib).answer]
      cases at' with
      | check stage =>
          cases before
          have goes := (otpCheck call.input.email).goOn_cases lib
            call.input.otp stage stores
          have sameCheck : (Purpose.registration call.input.email).check =
              otpCheck call.input.email := rfl
          rw [verifyOtp_check, sameCheck]
          generalize (otpCheck call.input.email).goOn lib call.input.otp stage
            stores = progress at goes ⊢
          cases progress with
          | running later => rfl
          | accepted stored =>
              cases goes with
              | right _ found same =>
                  simp only [checkedRole, newEmail_of_otpCheck found]
                  rfl
          | thrown error => rfl
      | activate => cases before
      | delOtp => cases before
  | verifyEmailChange call =>
      obtain ⟨at', atStage, rfl⟩ :=
        (hosts_verifyEmailChange lib).running waits
      rw [atStage] at before ⊢
      rw [(hosts_verifyEmailChange lib).answer]
      cases at' with
      | check stage =>
          cases before
          have sameCheck : (Purpose.emailChange call.input.userId).check =
              emailChangeCheck call.input.userId := rfl
          rw [verifyEmailChange_check, sameCheck]
          generalize (emailChangeCheck call.input.userId).goOn lib
            call.input.otp stage stores = progress
          cases progress <;> rfl
      | _ => cases before
  | register call =>
      obtain ⟨_, _, generates⟩ :=
        AccountCall.generates_of_role before nofun nofun
      cases generates
  | resendOtp call =>
      obtain ⟨_, _, generates⟩ :=
        AccountCall.generates_of_role before nofun nofun
      cases generates
  | login call => cases before
  | requestEmailChange call =>
      obtain ⟨_, _, generates⟩ :=
        AccountCall.generates_of_role before nofun nofun
      cases generates

private theorem roleFrom_of_checkedRole {stores : AccountStores}
    {call : AccountCall} {owner purpose : Purpose} {otp : Text}
    {stage : CheckStage} (before : call.role? = some (owner, .checks otp stage))
    {role : CodeRole}
    (plays : checkedRole owner otp (owner.check.goOn lib otp stage stores) =
      some (purpose, role)) : RoleFrom stores call purpose role := by
  have goes := owner.check.goOn_cases lib otp stage stores
  generalize owner.check.goOn lib otp stage stores = progress at goes plays
  cases progress with
  | running later =>
      cases plays
      exact .checked otp stage later before goes
  | accepted stored =>
      cases plays
      cases goes with
      | right _ found same =>
          exact .accepted otp stored.newEmail stored before found same rfl
  | thrown error => cases plays

/-- A call has come to its role by the reply to its pending command. -/
theorem role_cases {call : AccountCall} {pending : Awaited AccountCall}
    (waits : call.pending = some pending) {stores : AccountStores}
    {outcome : Await} {purpose : Purpose} {role : CodeRole}
    (plays : ((accountServer lib).answer call pending stores outcome).2.role? =
      some (purpose, role)) :
    outcome = .resolves ∧ RoleFrom stores call purpose role := by
  have resolved : outcome = .resolves := by
    by_contra fails
    have ended := pending_of_failure lib call pending stores fails
    rw [AccountCall.role?_of_ended ended] at plays
    cases plays
  subst resolved
  refine ⟨rfl, ?_⟩
  cases call with
  | register call =>
      obtain ⟨stage, atStage, rfl⟩ := (hosts_register lib).running waits
      rw [atStage, (hosts_register lib).answer] at plays
      obtain ⟨newEmail, otp, rfl⟩ :=
        AccountCall.generates_of_role plays nofun nofun
      exact .generating newEmail otp
  | verifyOtp call =>
      obtain ⟨stage, atStage, same⟩ := (hosts_verifyOtp lib).running waits
      cases stage with
      | check stage =>
          have before : (AccountCall.verifyOtp call).role? =
              some (.registration call.input.email,
                .checks call.input.otp stage) := by
            rw [atStage]
            rfl
          rw [role?_of_check lib waits stores before] at plays
          exact roleFrom_of_checkedRole lib before plays
      | activate =>
          subst pending
          rw [atStage, (hosts_verifyOtp lib).answer] at plays
          cases plays
          exact .consuming call.input.otp [] (by rw [atStage]; rfl)
      | delOtp =>
          subst pending
          rw [atStage, (hosts_verifyOtp lib).answer] at plays
          cases plays
  | resendOtp call =>
      obtain ⟨stage, atStage, rfl⟩ := (hosts_resendOtp lib).running waits
      rw [atStage, (hosts_resendOtp lib).answer] at plays
      obtain ⟨newEmail, otp, rfl⟩ :=
        AccountCall.generates_of_role plays nofun nofun
      exact .generating newEmail otp
  | login call =>
      obtain ⟨stage, atStage, rfl⟩ := (hosts_login lib).running waits
      rw [atStage, (hosts_login lib).answer] at plays
      cases plays
  | requestEmailChange call =>
      obtain ⟨stage, atStage, rfl⟩ :=
        (hosts_requestEmailChange lib).running waits
      rw [atStage, (hosts_requestEmailChange lib).answer] at plays
      obtain ⟨newEmail, otp, rfl⟩ :=
        AccountCall.generates_of_role plays nofun nofun
      exact .generating newEmail otp
  | verifyEmailChange call =>
      obtain ⟨stage, atStage, same⟩ :=
        (hosts_verifyEmailChange lib).running waits
      have before : (AccountCall.verifyEmailChange call).role? =
          (AccountCall.verifyEmailChange
            ⟨call.input, .running stage⟩).role? := by
        rw [← atStage]
      cases stage with
      | check stage =>
          rw [role?_of_check lib waits stores before] at plays
          exact roleFrom_of_checkedRole lib before plays
      | findConflict newEmail =>
          subst pending
          rw [atStage, (hosts_verifyEmailChange lib).answer] at plays
          simp only [Call.goOn, verifyEmailChange, accountServer, perform]
            at plays
          cases taken : stores.users.findByEmail newEmail with
          | none =>
              rw [taken] at plays
              cases plays
              exact .accepting call.input.otp newEmail before
          | some other =>
              rw [taken] at plays
              cases plays
              exact .consuming call.input.otp newEmail before
      | delConflict =>
          subst pending
          rw [atStage, (hosts_verifyEmailChange lib).answer] at plays
          cases plays
      | updateEmail newEmail =>
          subst pending
          rw [atStage, (hosts_verifyEmailChange lib).answer] at plays
          simp only [Call.goOn, verifyEmailChange, accountServer] at plays
          split at plays
          · cases plays
            exact .accepting call.input.otp newEmail before
          · cases plays
      | createAuditLog newEmail =>
          subst pending
          rw [atStage, (hosts_verifyEmailChange lib).answer] at plays
          cases plays
          exact .consuming call.input.otp newEmail before
      | delChange =>
          subst pending
          rw [atStage, (hosts_verifyEmailChange lib).answer] at plays
          cases plays

theorem find_answer {call : AccountCall} {pending : Awaited AccountCall}
    (waits : call.pending = some pending) (purpose : Purpose)
    (stores : AccountStores) (outcome : Await) :
    ((accountServer lib).answer call pending stores outcome).1.find
        purpose.check.key =
      if outcome.Applies then codeLeft call purpose stores
      else stores.find purpose.check.key := by
  rw [Server.answer_stores]
  by_cases applies : outcome.Applies = true
  · rw [if_pos applies, if_pos applies]
    exact find_code lib waits purpose stores
  · rw [if_neg applies, if_neg applies]

theorem now_answer (call : AccountCall) (pending : Awaited AccountCall)
    (stores : AccountStores) (outcome : Await) :
    ((accountServer lib).answer call pending stores outcome).1.now =
      stores.now := by
  rw [Server.answer_stores]
  by_cases applies : outcome.Applies = true
  · rw [if_pos applies]
    exact perform_now lib pending.command stores
  · rw [if_neg applies]

end Steps

/-! ## What the calls do to a counter -/

inductive CounterRole where
  | increments
  | expires
  | deletes
  deriving DecidableEq, Repr

namespace CounterRole

/-- What is left in the counter when the pending command has taken effect. -/
def countAfter (key : CounterKey) (stores : AccountStores) :
    CounterRole → Option (Entry Nat)
  | .increments =>
      if stores.count key + 1 < 2 ^ 63 then
        some ⟨stores.count key + 1,
          (stores.findCount key).bind Entry.expireAt⟩
      else stores.findCount key
  | .expires =>
      (stores.findCount key).map fun entry =>
        ⟨entry.value, some (stores.now + 900000)⟩
  | .deletes => none

end CounterRole

/-- What a running call has to do with a counter. -/
def AccountCall.counter? : AccountCall → Option (CounterKey × CounterRole)
  | .resendOtp ⟨input, .running .incrResend⟩ =>
      some (.otpResend input.email, .increments)
  | .resendOtp ⟨input, .running (.expireResend _)⟩ =>
      some (.otpResend input.email, .expires)
  | .login ⟨input, .running .incrFail⟩ =>
      some (.loginFail input.email, .increments)
  | .login ⟨input, .running .expireFail⟩ =>
      some (.loginFail input.email, .expires)
  | .login ⟨input, .running (.delFail _)⟩ =>
      some (.loginFail input.email, .deletes)
  | _ => none

def countLeft (call : AccountCall) (key : CounterKey)
    (stores : AccountStores) : Option (Entry Nat) :=
  match call.counter? with
  | some (owner, role) =>
      if owner = key then role.countAfter key stores
      else stores.findCount key
  | none => stores.findCount key

private theorem countAfter_incr (owner key : CounterKey)
    (stores : AccountStores) :
    countAfter (.incr owner) stores key =
      if owner = key then CounterRole.increments.countAfter key stores
      else stores.findCount key := by
  by_cases same : owner = key
  · subst owner
    simp only [countAfter, true_and, if_true, CounterRole.countAfter]
  · have other : ¬ key = owner := fun equal => same equal.symm
    simp only [countAfter, other, false_and, if_false, same]

/-- Both services give a counter 900 seconds. -/
theorem countAfter_expire (owner key : CounterKey) (stores : AccountStores) :
    countAfter (.expire owner 900) stores key =
      if owner = key then CounterRole.expires.countAfter key stores
      else stores.findCount key := by
  by_cases same : owner = key
  · subst owner
    simp only [countAfter, if_true, CounterRole.countAfter]
    cases stores.findCount key with
    | none => rfl
    | some entry => rfl
  · have other : ¬ key = owner := fun equal => same equal.symm
    simp only [countAfter, other, if_false, same]

private theorem countAfter_delCount (owner key : CounterKey)
    (stores : AccountStores) :
    countAfter (.delCount owner) stores key =
      if owner = key then CounterRole.deletes.countAfter key stores
      else stores.findCount key := by
  simp only [countAfter, CounterRole.countAfter, eq_comm]

/-- The pending command of a call acts on a counter as its role says. -/
theorem findCount_code (lib : Libraries) {call : AccountCall}
    {pending : Awaited AccountCall} (waits : call.pending = some pending)
    (key : CounterKey) (stores : AccountStores) :
    (perform lib pending.command stores).2.findCount key =
      countLeft call key stores := by
  rw [findCount_perform]
  cases call with
  | register call =>
      obtain ⟨stage, atStage, rfl⟩ := (hosts_register lib).running waits
      cases stage <;> rfl
  | verifyOtp call =>
      obtain ⟨stage, atStage, rfl⟩ := (hosts_verifyOtp lib).running waits
      cases stage with
      | check stage => cases stage <;> rfl
      | _ => rfl
  | resendOtp call =>
      obtain ⟨stage, atStage, rfl⟩ := (hosts_resendOtp lib).running waits
      rw [atStage]
      cases stage with
      | incrResend => exact countAfter_incr _ key stores
      | expireResend number => exact countAfter_expire _ key stores
      | _ => rfl
  | login call =>
      obtain ⟨stage, atStage, rfl⟩ := (hosts_login lib).running waits
      rw [atStage]
      cases stage with
      | incrFail => exact countAfter_incr _ key stores
      | expireFail => exact countAfter_expire _ key stores
      | delFail user => exact countAfter_delCount _ key stores
      | _ => rfl
  | requestEmailChange call =>
      obtain ⟨stage, atStage, rfl⟩ :=
        (hosts_requestEmailChange lib).running waits
      cases stage <;> rfl
  | verifyEmailChange call =>
      obtain ⟨stage, atStage, rfl⟩ :=
        (hosts_verifyEmailChange lib).running waits
      cases stage with
      | check stage => cases stage <;> rfl
      | _ => rfl

theorem findCount_answer (lib : Libraries) {call : AccountCall}
    {pending : Awaited AccountCall} (waits : call.pending = some pending)
    (key : CounterKey) (stores : AccountStores) (outcome : Await) :
    ((accountServer lib).answer call pending stores outcome).1.findCount key =
      if outcome.Applies then countLeft call key stores
      else stores.findCount key := by
  rw [Server.answer_stores]
  by_cases applies : outcome.Applies = true
  · rw [if_pos applies, if_pos applies]
    exact findCount_code lib waits key stores
  · rw [if_neg applies, if_neg applies]

/-- The number that a role makes of the one in the counter. -/
def CounterRole.numberAfter (number : Nat) : CounterRole → Nat
  | .increments => if number + 1 < 2 ^ 63 then number + 1 else number
  | .expires => number
  | .deletes => 0

def numberLeft (call : AccountCall) (key : CounterKey) (number : Nat) : Nat :=
  match call.counter? with
  | some (owner, role) =>
      if owner = key then role.numberAfter number else number
  | none => number

private theorem number_countLeft (call : AccountCall) (key : CounterKey)
    (stores : AccountStores) :
    ((countLeft call key stores).map Entry.value).getD 0 =
      numberLeft call key (stores.count key) := by
  unfold countLeft numberLeft
  cases call.counter? with
  | none => rfl
  | some both =>
      obtain ⟨owner, role⟩ := both
      by_cases same : owner = key
      · simp only [if_pos same]
        cases role with
        | increments =>
            by_cases fits : stores.count key + 1 < 2 ^ 63
            · simp only [CounterRole.countAfter, CounterRole.numberAfter,
                if_pos fits, Option.map_some, Option.getD_some]
            · simp only [CounterRole.countAfter, CounterRole.numberAfter,
                if_neg fits]
              rfl
        | expires =>
            simp only [CounterRole.countAfter, CounterRole.numberAfter,
              Option.map_map, Function.comp_def]
            rfl
        | deletes => rfl
      · simp only [if_neg same]
        rfl

theorem count_answer (lib : Libraries) {call : AccountCall}
    {pending : Awaited AccountCall} (waits : call.pending = some pending)
    (key : CounterKey) (stores : AccountStores) (outcome : Await) :
    ((accountServer lib).answer call pending stores outcome).1.count key =
      if outcome.Applies then numberLeft call key (stores.count key)
      else stores.count key := by
  have left := findCount_answer lib waits key stores outcome
  unfold AccountStores.count at left ⊢
  rw [left]
  by_cases applies : outcome.Applies = true
  · simp only [if_pos applies]
    exact number_countLeft call key stores
  · simp only [if_neg applies]

/-- The role whose command a step applies to the code of a purpose. -/
def applied? (purpose : Purpose) (state : AccountState) :
    AccountAction → Option CodeRole
  | .await index outcome =>
      if outcome.Applies then
        match (state.calls[index]?).bind AccountCall.role? with
        | some (owner, role) => if owner = purpose then some role else none
        | none => none
      else none
  | _ => none

theorem applied?_eq_some {purpose : Purpose} {state : AccountState}
    {action : AccountAction} {role : CodeRole} :
    applied? purpose state action = some role ↔
      ∃ index outcome call, action = .await index outcome ∧
        outcome.Applies = true ∧ state.calls[index]? = some call ∧
        call.role? = some (purpose, role) := by
  constructor
  · intro applies
    unfold applied? at applies
    split at applies
    · next index outcome =>
        simp only [Option.ite_none_right_eq_some] at applies
        obtain ⟨effective, applies⟩ := applies
        split at applies
        · next owner other plays =>
            obtain ⟨call, found, isRole⟩ := Option.bind_eq_some_iff.mp plays
            simp only [Option.ite_none_right_eq_some,
              Option.some.injEq] at applies
            obtain ⟨rfl, rfl⟩ := applies
            exact ⟨index, outcome, call, rfl, effective, found, isRole⟩
        · cases applies
    · cases applies
  · rintro ⟨index, outcome, call, rfl, effective, found, plays⟩
    simp [applied?, effective, found, plays]

/-- What a step does to the code of a purpose. -/
theorem step_code {lib : Libraries} {state next : AccountState}
    {action : AccountAction}
    (stepped : (accountServer lib).step state action = some next)
    (purpose : Purpose) :
    (∃ elapsed, action = .external (.tick elapsed) ∧
      next.stores = state.stores.tick elapsed) ∨
    (∃ role, applied? purpose state action = some role ∧
      next.stores.find purpose.check.key =
        role.codeAfter purpose.check state.stores ∧
      next.stores.now = state.stores.now) ∨
    (applied? purpose state action = none ∧
      next.stores.find purpose.check.key =
        state.stores.find purpose.check.key ∧
      next.stores.now = state.stores.now) := by
  cases Server.step_cases stepped with
  | external event =>
      cases event with
      | tick elapsed => exact Or.inl ⟨elapsed, rfl, rfl⟩
  | requested input call accepted => exact Or.inr (Or.inr ⟨rfl, rfl, rfl⟩)
  | awaited index outcome call pending found waits =>
      right
      have left := find_answer lib waits purpose state.stores outcome
      have sameNow := now_answer lib call pending state.stores outcome
      by_cases applies : outcome.Applies = true
      · rw [if_pos applies] at left
        cases plays : call.role? with
        | none =>
            right
            refine ⟨?_, ?_, sameNow⟩
            · simp [applied?, found, plays]
            · rw [left, codeLeft, plays]
        | some both =>
            obtain ⟨owner, role⟩ := both
            by_cases same : owner = purpose
            · left
              refine ⟨role, ?_, ?_, sameNow⟩
              · simp [applied?, applies, found, plays, same]
              · simp only [left, codeLeft, plays, if_pos same]
            · right
              refine ⟨?_, ?_, sameNow⟩
              · simp [applied?, found, plays, same]
              · simp only [left, codeLeft, plays, if_neg same]
      · right
        rw [if_neg applies] at left
        refine ⟨?_, left, sameNow⟩
        simp [applied?, applies]

structure GeneratedCode where
  newEmail : Text
  otp : Otp
  storedAt : Instant
  deriving DecidableEq, Repr

/-- The code that a step stores anew. -/
def generated? (purpose : Purpose) (state : AccountState)
    (action : AccountAction) : Option GeneratedCode :=
  match applied? purpose state action with
  | some (.generates newEmail otp) => some ⟨newEmail, otp, state.stores.now⟩
  | _ => none

/-- The most recently generated code. -/
def lastGenerated (purpose : Purpose) : AccountHistory → Option GeneratedCode
  | [] => none
  | (state, action) :: older =>
      (generated? purpose state action).or (lastGenerated purpose older)

theorem lastGenerated_of_generates {purpose : Purpose} {state : AccountState}
    {action : AccountAction} {newEmail : Text} {otp : Otp}
    (generates : applied? purpose state action =
      some (.generates newEmail otp)) (history : AccountHistory) :
    lastGenerated purpose ((state, action) :: history) =
      some ⟨newEmail, otp, state.stores.now⟩ := by
  simp only [lastGenerated, generated?, generates, Option.some_or]

theorem lastGenerated_of_other {purpose : Purpose} {state : AccountState}
    {action : AccountAction}
    (other : ∀ newEmail otp,
      applied? purpose state action ≠ some (.generates newEmail otp))
    (history : AccountHistory) :
    lastGenerated purpose ((state, action) :: history) =
      lastGenerated purpose history := by
  have nothing : generated? purpose state action = none := by
    unfold generated?
    split
    · next generates => exact absurd generates (other _ _)
    · rfl
  simp only [lastGenerated, nothing, Option.none_or]

/-- The code that a step compares, and the stored one it is compared with. -/
def compared? (purpose : Purpose) (state : AccountState) :
    AccountAction → Option (Text × StoredCode)
  | .await index .resolves =>
      match (state.calls[index]?).bind AccountCall.role? with
      | some (owner, .checks otp .getStored) =>
          if owner = purpose then
            (purpose.check.stored? state.stores).map fun stored =>
              (otp, stored)
          else none
      | _ => none
  | _ => none

theorem compared?_eq_some {purpose : Purpose} {state : AccountState}
    {action : AccountAction} {otp : Text} {stored : StoredCode} :
    compared? purpose state action = some (otp, stored) ↔
      ∃ index call, action = .await index .resolves ∧
        state.calls[index]? = some call ∧
        call.role? = some (purpose, .checks otp .getStored) ∧
        purpose.check.stored? state.stores = some stored := by
  constructor
  · intro compares
    unfold compared? at compares
    split at compares
    · next index =>
        split at compares
        · next owner given plays =>
            simp only [Option.ite_none_right_eq_some,
              Option.map_eq_some_iff] at compares
            obtain ⟨same, _, found, both⟩ := compares
            cases both
            obtain ⟨call, atIndex, role⟩ := Option.bind_eq_some_iff.mp plays
            subst owner
            exact ⟨index, call, rfl, atIndex, role, found⟩
        · cases compares
    · cases compares
  · rintro ⟨index, call, rfl, atIndex, role, found⟩
    simp [compared?, atIndex, role, found]

/-- A step compares a wrong code with the stored one. -/
def comparesWrong (purpose : Purpose) (state : AccountState)
    (action : AccountAction) : Bool :=
  (compared? purpose state action).any fun (otp, stored) =>
    decide (stored.code ≠ some otp)

def wrongCompares (purpose : Purpose) (history : AccountHistory) : Nat :=
  history.countP fun (state, action) => comparesWrong purpose state action

theorem wrongCompares_cons (purpose : Purpose) (state : AccountState)
    (action : AccountAction) (history : AccountHistory) :
    wrongCompares purpose ((state, action) :: history) =
      wrongCompares purpose history +
        if comparesWrong purpose state action then 1 else 0 :=
  List.countP_cons

private theorem comparesWrong_eq_true {purpose : Purpose} {state : AccountState}
    {action : AccountAction} :
    comparesWrong purpose state action = true ↔
      ∃ otp stored, compared? purpose state action = some (otp, stored) ∧
        stored.code ≠ some otp := by
  simp only [comparesWrong, Option.any_eq_true, decide_eq_true_eq,
    Prod.exists]

/-- Only a check that has come to the stored code compares. -/
theorem comparesWrong_of_role {purpose : Purpose} {state : AccountState}
    {index : Nat} {outcome : Await} {call : AccountCall}
    (found : state.calls[index]? = some call)
    (other : ∀ otp, call.role? ≠ some (purpose, .checks otp .getStored)) :
    comparesWrong purpose state (.await index outcome) = false := by
  rw [Bool.eq_false_iff]
  intro wrong
  obtain ⟨otp, stored, compares, _⟩ := comparesWrong_eq_true.mp wrong
  obtain ⟨position, reached, same, atPosition, plays, _⟩ :=
    compared?_eq_some.mp compares
  cases same
  rw [found] at atPosition
  cases atPosition
  exact other otp plays

/-- A check that reads the right code, or none, compares no wrong one. -/
theorem comparesWrong_of_read {purpose : Purpose} {state : AccountState}
    {index : Nat} {call : AccountCall} {otp : Text}
    (found : state.calls[index]? = some call)
    (plays : call.role? = some (purpose, .checks otp .getStored))
    (right : ∀ stored, purpose.check.stored? state.stores = some stored →
      stored.code = some otp) :
    comparesWrong purpose state (.await index .resolves) = false := by
  rw [Bool.eq_false_iff]
  intro wrong
  obtain ⟨given, stored, compares, different⟩ := comparesWrong_eq_true.mp wrong
  obtain ⟨position, reached, same, atPosition, playsToo, read⟩ :=
    compared?_eq_some.mp compares
  cases same
  rw [found] at atPosition
  cases atPosition
  rw [plays] at playsToo
  cases playsToo
  exact different (right stored read)

theorem comparesWrong_of_wrong {purpose : Purpose} {state : AccountState}
    {index : Nat} {call : AccountCall} {otp : Text} {stored : StoredCode}
    (found : state.calls[index]? = some call)
    (plays : call.role? = some (purpose, .checks otp .getStored))
    (read : purpose.check.stored? state.stores = some stored)
    (wrong : stored.code ≠ some otp) :
    comparesWrong purpose state (.await index .resolves) = true :=
  comparesWrong_eq_true.mpr ⟨otp, stored,
    compared?_eq_some.mpr ⟨index, call, rfl, found, plays, read⟩, wrong⟩

end ConcertTicketing.Accounts
