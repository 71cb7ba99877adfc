import ConcertTicketing.Accounts.OtpFreshness

/-!
# The password of an account

The row of an account keeps the password of the registration that created it.
A registration that finds the account pending sends a new code and leaves the
row alone, so that a login needs the password of the first registration,
whoever asked for the code.
-/

namespace ConcertTicketing.Accounts

open Redis

/-- Nothing but requests to `AuthService`. -/
def AuthRequestsOnly (_ : AccountState) : AccountAction → Prop
  | .request (.requestEmailChange _) => False
  | .request (.verifyEmailChange _) => False
  | _ => True

instance (state : AccountState) :
    (action : AccountAction) → Decidable (AuthRequestsOnly state action)
  | .request (.requestEmailChange _) => inferInstanceAs (Decidable False)
  | .request (.verifyEmailChange _) => inferInstanceAs (Decidable False)
  | .request (.register _) => inferInstanceAs (Decidable True)
  | .request (.verifyOtp _) => inferInstanceAs (Decidable True)
  | .request (.resendOtp _) => inferInstanceAs (Decidable True)
  | .request (.login _) => inferInstanceAs (Decidable True)
  | .external _ => inferInstanceAs (Decidable True)
  | .await _ _ => inferInstanceAs (Decidable True)

/-- The registration whose row a step adds to the table. -/
def creates? (email : Text) (state : AccountState) :
    AccountAction → Option RegisterInput
  | .await index outcome =>
      match state.calls[index]? with
      | some (.register ⟨input, .running (.createUser _)⟩) =>
          if outcome.Applies = true ∧ input.email = email ∧
              state.stores.users.findByEmail email = none then some input
          else none
      | _ => none
  | _ => none

/-- The registration that has created the account. -/
def creator? (email : Text) : AccountHistory → Option RegisterInput
  | [] => none
  | (state, action) :: older =>
      (creator? email older).or (creates? email state action)

/-- The row is that of the registration, as far as a login can tell. -/
inductive RowOf (lib : Libraries) : Option RegisterInput → Option User → Prop
  | missing : RowOf lib none none
  | created (input : RegisterInput) (user : User)
      (hashed : user.passwordHash = lib.hash input.password input.salt)
      (unlocked : user.status ≠ .locked) :
      RowOf lib (some input) (some user)

private theorem RowOf.isSome_iff {lib : Libraries}
    {creator : Option RegisterInput} {row : Option User}
    (rowOf : RowOf lib creator row) :
    creator.isSome = true ↔ row.isSome = true := by
  cases rowOf with
  | missing => exact Iff.rfl
  | created => exact Iff.rfl

private theorem RowOf.creator_eq_none {lib : Libraries}
    {creator : Option RegisterInput} (rowOf : RowOf lib creator none) :
    creator = none := by
  cases rowOf with
  | missing => rfl

/-- An activation leaves the password alone. -/
theorem RowOf.activated {lib : Libraries} {creator : Option RegisterInput}
    {row : Option User} (rowOf : RowOf lib creator row) (email : Text) :
    RowOf lib creator (row.map (Users.activated email)) := by
  cases rowOf with
  | missing => exact .missing
  | created input user hashed unlocked =>
      refine .created input _ ?_ ?_
      · unfold Users.activated
        split
        · exact hashed
        · exact hashed
      · unfold Users.activated
        split
        · nofun
        · exact unlocked

inductive AccountFact where
  | known
  | hashed (input : RegisterInput) (passwordHash : Text)
  | createdBy (input : RegisterInput)
  | active

def AccountFact.Holds (lib : Libraries) (email : Text)
    (history : AccountHistory) (state : AccountState) : AccountFact → Prop
  | .known => (creator? email history).isSome = true
  | .hashed input passwordHash =>
      passwordHash = lib.hash input.password input.salt
  | .createdBy input => creator? email history = some input
  | .active =>
      (state.stores.users.findByEmail email).map User.status = some .active

def AccountCall.fact? : AccountCall → Option (Text × AccountFact)
  | .register ⟨input, .running (.createUser passwordHash)⟩ =>
      some (input.email, .hashed input passwordHash)
  | .register ⟨input, .running (.storeOtp .registered)⟩ =>
      some (input.email, .createdBy input)
  | .register ⟨input, .running (.storeOtp _)⟩ => some (input.email, .known)
  | .register ⟨input, .finished (.ok .registered)⟩ =>
      some (input.email, .createdBy input)
  | .resendOtp ⟨_, .running .existsLock⟩ => none
  | .resendOtp ⟨_, .running .findUser⟩ => none
  | .resendOtp ⟨input, .running _⟩ => some (input.email, .known)
  | .verifyOtp ⟨input, .running (.check (.ttl _))⟩ =>
      some (input.email, .known)
  | .verifyOtp ⟨input, .running (.check (.writeBack _ _))⟩ =>
      some (input.email, .known)
  | .verifyOtp ⟨input, .running .activate⟩ => some (input.email, .known)
  | .verifyOtp ⟨input, .running .delOtp⟩ => some (input.email, .active)
  | .verifyOtp ⟨input, .finished (.ok .verified)⟩ =>
      some (input.email, .active)
  | _ => none

/-- The call is one of `AuthService`. -/
def AccountRequest.IsAuth : AccountRequest → Prop
  | .requestEmailChange _ => False
  | .verifyEmailChange _ => False
  | _ => True

structure Credential (lib : Libraries) (email : Text)
    (history : AccountHistory) (state : AccountState) : Prop where
  row : RowOf lib (creator? email history)
    (state.stores.users.findByEmail email)
  code : (state.stores.find (.otp email)).isSome = true →
    (creator? email history).isSome = true
  facts : ∀ call ∈ state.calls, ∀ fact,
    call.fact? = some (email, fact) → fact.Holds lib email history state
  auth : ∀ call ∈ state.calls, call.request.IsAuth

section Steps

variable {lib : Libraries} {email : Text} {history : AccountHistory}
  {state next : AccountState} {action : AccountAction}

/-- How a step changes what a lookup finds. -/
inductive LookupStep (email : Text) (state : AccountState)
    (action : AccountAction) : Option User → Prop
  | same (nobody : creates? email state action = none) :
      LookupStep email state action (state.stores.users.findByEmail email)
  | activated (activeEmail : Text)
      (nobody : creates? email state action = none) :
      LookupStep email state action
        ((state.stores.users.findByEmail email).map
          (Users.activated activeEmail))
  | created (input : RegisterInput) (passwordHash : Text)
      (creates : creates? email state action = some input)
      (absent : state.stores.users.findByEmail email = none)
      (member : AccountCall.register
        ⟨input, .running (.createUser passwordHash)⟩ ∈ state.calls)
      (sameEmail : input.email = email) :
      LookupStep email state action
        (some (state.stores.users.newRow (input.newUser passwordHash)))

private theorem creates?_eq_some {input : RegisterInput} :
    creates? email state action = some input ↔
      ∃ index outcome passwordHash, action = .await index outcome ∧
        outcome.Applies = true ∧
        state.calls[index]? = some (AccountCall.register
          ⟨input, .running (.createUser passwordHash)⟩) ∧
        input.email = email ∧
        state.stores.users.findByEmail email = none := by
  constructor
  · intro creates
    unfold creates? at creates
    split at creates
    · next index outcome =>
        split at creates
        · next other passwordHash found =>
            simp only [Option.ite_none_right_eq_some,
              Option.some.injEq] at creates
            obtain ⟨⟨applies, sameEmail, absent⟩, rfl⟩ := creates
            exact ⟨index, outcome, passwordHash, rfl, applies, found,
              sameEmail, absent⟩
        · cases creates
    · cases creates
  · rintro ⟨index, outcome, passwordHash, rfl, applies, found, sameEmail,
      absent⟩
    simp only [creates?, found, applies, sameEmail, absent, and_self, if_true]

/-- A call that would add no row under the address creates no account. -/
theorem creates?_of_taken {index : Nat} {outcome : Await} {call : AccountCall}
    (found : state.calls[index]? = some call)
    (taken : ∀ input passwordHash,
      call = .register ⟨input, .running (.createUser passwordHash)⟩ →
      input.email = email → state.stores.users.findByEmail email ≠ none) :
    creates? email state (.await index outcome) = none := by
  rw [Option.eq_none_iff_forall_ne_some]
  intro input creates
  obtain ⟨position, _, passwordHash, same, _, foundToo, sameEmail, absent⟩ :=
    creates?_eq_some.mp creates
  cases same
  rw [found] at foundToo
  cases foundToo
  exact taken input passwordHash rfl sameEmail absent

/-- Only a registration creates an account. -/
theorem creates?_of_call {index : Nat} {outcome : Await} {call : AccountCall}
    (found : state.calls[index]? = some call)
    (other : ∀ input passwordHash,
      call ≠ .register ⟨input, .running (.createUser passwordHash)⟩) :
    creates? email state (.await index outcome) = none := by
  apply creates?_of_taken found
  intro input passwordHash same
  exact absurd same (other input passwordHash)

/-- The row that a registration is about to add. -/
theorem lookup_create {index : Nat} {outcome : Await} {input : RegisterInput}
    {passwordHash : Text} (applies : outcome.Applies = true)
    (found : state.calls[index]? = some (AccountCall.register
      ⟨input, .running (.createUser passwordHash)⟩)) :
    LookupStep email state (.await index outcome)
      ((usersAfter (.createUser (input.newUser passwordHash))
        state.stores.users).findByEmail email) := by
  have nobody : (input.email = email →
      state.stores.users.findByEmail email ≠ none) →
      creates? email state (.await index outcome) = none := by
    intro taken
    apply creates?_of_taken found
    intro other _ same sameEmail
    cases same
    exact taken sameEmail
  cases created : state.stores.users.create (input.newUser passwordHash) with
  | none =>
      have taken := Users.create_eq_none_iff.mp created
      simp only [usersAfter, created, Option.getD_none]
      refine .same (nobody ?_)
      intro sameEmail absent
      subst email
      have unknown : state.stores.users.findByEmail
          (input.newUser passwordHash).email = none := absent
      rw [unknown] at taken
      cases taken
  | some users =>
      simp only [usersAfter, created, Option.getD_some]
      rw [Users.findByEmail_create created]
      by_cases sameEmail : email = (input.newUser passwordHash).email
      · rw [if_pos sameEmail]
        have absent : state.stores.users.findByEmail email = none := by
          rw [sameEmail]
          exact Users.absent_of_create created
        exact .created input passwordHash
          (creates?_eq_some.mpr ⟨index, outcome, passwordHash, rfl, applies,
            found, sameEmail.symm, absent⟩) absent
          (List.mem_of_getElem? found) sameEmail.symm
      · rw [if_neg sameEmail]
        refine .same (nobody ?_)
        intro same
        exact absurd same.symm sameEmail

/-- The table after the pending command of a call of `AuthService`. -/
theorem lookup_call (lib : Libraries) {index : Nat} {outcome : Await}
    {call : AccountCall} {pending : Awaited AccountCall}
    (applies : outcome.Applies = true)
    (found : state.calls[index]? = some call)
    (waits : call.pending = some pending) (isAuth : call.request.IsAuth) :
    LookupStep email state (.await index outcome)
      ((usersAfter pending.command state.stores.users).findByEmail email) := by
  cases call with
  | register call =>
      obtain ⟨stage, atStage, rfl⟩ := (hosts_register lib).running waits
      rw [atStage] at found
      cases stage with
      | createUser passwordHash => exact lookup_create applies found
      | _ =>
          refine .same (creates?_of_call found ?_)
          intro input passwordHash same
          cases same
  | verifyOtp call =>
      obtain ⟨stage, atStage, rfl⟩ := (hosts_verifyOtp lib).running waits
      have nobody : creates? email state (.await index outcome) = none :=
        creates?_of_call found nofun
      cases stage with
      | activate =>
          change LookupStep email state (.await index outcome)
            ((state.stores.users.activate call.input.email).findByEmail email)
          rw [Users.findByEmail_activate]
          exact .activated _ nobody
      | check stage => cases stage <;> exact .same nobody
      | delOtp => exact .same nobody
  | resendOtp call =>
      obtain ⟨stage, atStage, rfl⟩ := (hosts_resendOtp lib).running waits
      have nobody : creates? email state (.await index outcome) = none :=
        creates?_of_call found nofun
      cases stage <;> exact .same nobody
  | login call =>
      obtain ⟨stage, atStage, rfl⟩ := (hosts_login lib).running waits
      have nobody : creates? email state (.await index outcome) = none :=
        creates?_of_call found nofun
      cases stage <;> exact .same nobody
  | requestEmailChange call => cases isAuth
  | verifyEmailChange call => cases isAuth

private theorem step_lookup (auth : ∀ call ∈ state.calls, call.request.IsAuth)
    (stepped : (accountServer lib).step state action = some next) :
    LookupStep email state action
      (next.stores.users.findByEmail email) := by
  cases Server.step_cases stepped with
  | external event =>
      cases event with
      | tick elapsed => exact .same rfl
  | requested input call accepted => exact .same rfl
  | awaited index outcome call pending found waits =>
      simp only [Server.answer_stores]
      by_cases applies : outcome.Applies = true
      · simp only [if_pos applies]
        have users : ((accountServer lib).perform pending.command
            state.stores).2.users =
              usersAfter pending.command state.stores.users :=
          users_perform lib pending.command state.stores
        rw [users]
        exact lookup_call lib applies found waits
          (auth call (List.mem_of_getElem? found))
      · simp only [if_neg applies]
        refine .same ?_
        rw [Option.eq_none_iff_forall_ne_some]
        intro input creates
        obtain ⟨_, _, _, same, effective, _⟩ := creates?_eq_some.mp creates
        cases same
        exact applies effective

/-! ## The invariant -/

/-- The creator of an account stays. -/
theorem creator?_cons {input : RegisterInput}
    (created : creator? email history = some input) :
    creator? email ((state, action) :: history) = some input := by
  rw [creator?, created, Option.some_or]

theorem RowOf.step (rowOf : RowOf lib (creator? email history)
      (state.stores.users.findByEmail email))
    (hashed : ∀ input passwordHash, AccountCall.register
        ⟨input, .running (.createUser passwordHash)⟩ ∈ state.calls →
      input.email = email →
      passwordHash = lib.hash input.password input.salt)
    {row : Option User} (steps : LookupStep email state action row) :
    RowOf lib (creator? email ((state, action) :: history)) row := by
  cases steps with
  | same nobody =>
      rw [creator?, nobody, Option.or_none]
      exact rowOf
  | activated activeEmail nobody =>
      rw [creator?, nobody, Option.or_none]
      exact rowOf.activated activeEmail
  | created input passwordHash creates absent member sameEmail =>
      have notYet : creator? email history = none := by
        rw [absent] at rowOf
        exact rowOf.creator_eq_none
      rw [creator?, notYet, creates, Option.none_or]
      have isHash := hashed input passwordHash member sameEmail
      exact .created input _ isHash nofun

/-- What a call has learned stays true. -/
theorem AccountFact.Holds.step {fact : AccountFact}
    (holds : fact.Holds lib email history state)
    (steps : LookupStep email state action
      (next.stores.users.findByEmail email)) :
    fact.Holds lib email ((state, action) :: history) next := by
  cases fact with
  | known =>
      obtain ⟨input, created⟩ := Option.isSome_iff_exists.mp holds
      have still : creator? email ((state, action) :: history) = some input :=
        creator?_cons created
      exact Option.isSome_of_eq_some still
  | hashed input passwordHash => exact holds
  | createdBy input => exact creator?_cons holds
  | active =>
      have wasActive : (state.stores.users.findByEmail email).map
          User.status = some .active := holds
      obtain ⟨user, known, active⟩ := Option.map_eq_some_iff.mp wasActive
      change (next.stores.users.findByEmail email).map User.status =
        some .active
      generalize next.stores.users.findByEmail email = row at steps
      cases steps with
      | same nobody => exact wasActive
      | activated activeEmail nobody =>
          rw [known, Option.map_some, Option.map_some, Option.some.injEq]
          unfold Users.activated
          split
          · rfl
          · exact active
      | created _ _ _ absent _ _ =>
          rw [absent] at known
          cases known

/-- A known address. -/
theorem Credential.known_of_row (credential : Credential lib email history state)
    {user : User} (known : state.stores.users.findByEmail email = some user) :
    (creator? email history).isSome = true := by
  rw [credential.row.isSome_iff, known, Option.isSome_some]

private theorem Credential.known_of_stored
    (credential : Credential lib email history state) {stored : StoredCode}
    (read : (otpCheck email).stored? state.stores = some stored) :
    (creator? email history).isSome = true := by
  simp only [CodeCheck.stored?, Option.map_eq_some_iff] at read
  obtain ⟨entry, kept, _⟩ := read
  have live : state.stores.find (.otp email) = some entry :=
    (Option.filter_eq_some_iff.mp kept).1
  exact credential.code (Option.isSome_of_eq_some live)

/-- Whoever stores a code knows the account. -/
theorem Credential.known_of_role (credential : Credential lib email history state)
    {call : AccountCall} (member : call ∈ state.calls) {role : CodeRole}
    (plays : call.role? = some (.registration email, role))
    (stores : ∀ otp stage, role = .checks otp stage →
      ∃ renewed ttlSeconds, stage = .writeBack renewed ttlSeconds)
    (keeps : ∀ otp newEmail, role ≠ .accepts otp newEmail)
    (puts : ∀ otp, role ≠ .consumes otp) :
    (creator? email history).isSome = true := by
  have facts := credential.facts call member
  unfold AccountCall.role? at plays
  split at plays
  · next input message =>
      cases plays
      cases message with
      | registered => exact Option.isSome_of_eq_some (facts _ rfl)
      | _ => exact facts .known rfl
  · cases plays
    exact facts .known rfl
  · next input stage =>
      cases plays
      cases stage with
      | check stage =>
          obtain ⟨renewed, ttlSeconds, rfl⟩ := stores _ _ rfl
          exact facts .known rfl
      | activate => exact absurd rfl (keeps _ _)
      | delOtp => exact absurd rfl (puts _)
  · cases plays
  · cases plays
  · cases plays

private theorem Credential.code_step
    (credential : Credential lib email history state)
    (stepped : (accountServer lib).step state action = some next)
    (live : (next.stores.find (.otp email)).isSome = true) :
    (creator? email history).isSome = true := by
  rcases step_code stepped (.registration email) with
    ⟨elapsed, rfl, later⟩ | ⟨role, applied, left, _⟩ | ⟨_, left, _⟩
  · rw [later, AccountStores.find_tick] at live
    obtain ⟨entry, kept⟩ := Option.isSome_iff_exists.mp live
    have before := (Option.filter_eq_some_iff.mp kept).1
    exact credential.code (Option.isSome_of_eq_some before)
  · have left' : next.stores.find (.otp email) =
        role.codeAfter (otpCheck email) state.stores := left
    rw [left'] at live
    obtain ⟨index, outcome, call, _, _, found, plays⟩ :=
      applied?_eq_some.mp applied
    have member := List.mem_of_getElem? found
    cases role with
    | generates newEmail otp =>
        exact credential.known_of_role member plays nofun nofun nofun
    | accepts otp newEmail => exact credential.code live
    | consumes otp => cases live
    | checks given stage =>
        cases stage with
        | delExhausted => cases live
        | writeBack renewed ttlSeconds =>
            refine credential.known_of_role member plays ?_ nofun nofun
            intro otp stage same
            cases same
            exact ⟨renewed, ttlSeconds, rfl⟩
        | _ => exact credential.code live
  · have left' : next.stores.find (.otp email) =
        state.stores.find (.otp email) := left
    rw [left'] at live
    exact credential.code live

/-- A call learns nothing from a failure. -/
theorem fact?_of_failure {call : AccountCall} {pending : Awaited AccountCall}
    (waits : call.pending = some pending) {stores : AccountStores}
    {outcome : Await} (fails : outcome ≠ .resolves) :
    ((accountServer lib).answer call pending stores outcome).2.fact? =
      none := by
  cases call with
  | register call =>
      obtain ⟨stage, atStage, rfl⟩ := (hosts_register lib).running waits
      rw [atStage, (hosts_register lib).answer]
      cases outcome with
      | resolves => exact absurd rfl fails
      | _ => rfl
  | verifyOtp call =>
      obtain ⟨stage, atStage, rfl⟩ := (hosts_verifyOtp lib).running waits
      rw [atStage, (hosts_verifyOtp lib).answer]
      cases outcome with
      | resolves => exact absurd rfl fails
      | _ => rfl
  | resendOtp call =>
      obtain ⟨stage, atStage, rfl⟩ := (hosts_resendOtp lib).running waits
      rw [atStage, (hosts_resendOtp lib).answer]
      cases outcome with
      | resolves => exact absurd rfl fails
      | _ => rfl
  | login call =>
      obtain ⟨stage, atStage, rfl⟩ := (hosts_login lib).running waits
      rw [atStage, (hosts_login lib).answer]
      rfl
  | requestEmailChange call =>
      obtain ⟨stage, atStage, rfl⟩ :=
        (hosts_requestEmailChange lib).running waits
      rw [atStage, (hosts_requestEmailChange lib).answer]
      rfl
  | verifyEmailChange call =>
      obtain ⟨stage, atStage, rfl⟩ :=
        (hosts_verifyEmailChange lib).running waits
      rw [atStage, (hosts_verifyEmailChange lib).answer]
      rfl

/-- What a call has learned already, it knows afterwards. -/
theorem Credential.still (credential : Credential lib email history state)
    {call : AccountCall} (member : call ∈ state.calls) {fact : AccountFact}
    (learned : call.fact? = some (email, fact))
    (steps : LookupStep email state action
      (next.stores.users.findByEmail email)) :
    fact.Holds lib email ((state, action) :: history) next :=
  (credential.facts call member fact learned).step steps

/-- A registration takes a step. -/
theorem Credential.register_learns
    (credential : Credential lib email history state) {index : Nat}
    {input : RegisterInput} {stage : RegisterStage}
    (found : state.calls[index]? =
      some (AccountCall.register ⟨input, .running stage⟩))
    {fact : AccountFact}
    (learned : (AccountCall.register ⟨input,
      (register input stage).next (perform lib
        (register input stage).command state.stores).1⟩).fact? =
          some (email, fact))
    (steps : LookupStep email state (.await index .resolves)
      (next.stores.users.findByEmail email)) :
    fact.Holds lib email ((state, .await index .resolves) :: history)
      next := by
  have member := List.mem_of_getElem? found
  cases stage with
  | findUser =>
      simp only [register, perform] at learned
      cases known : state.stores.users.findByEmail input.email with
      | none =>
          rw [known] at learned
          cases learned
      | some user =>
          rw [known] at learned
          by_cases pendingVerify : user.status = .pendingVerify
          · simp only [if_pos pendingVerify] at learned
            cases learned
            have isKnown : AccountFact.known.Holds lib input.email history
                state := credential.known_of_row known
            exact isKnown.step steps
          · simp only [if_neg pendingVerify] at learned
            cases learned
  | hashPassword =>
      cases learned
      rfl
  | createUser passwordHash =>
      simp only [register, perform] at learned
      cases created : state.stores.users.create
          (input.newUser passwordHash) with
      | none =>
          simp only [created, Bool.false_eq_true, if_false] at learned
          cases learned
      | some users =>
          simp only [created, if_true] at learned
          cases learned
          have absent : state.stores.users.findByEmail input.email = none :=
            Users.absent_of_create created
          have notYet : creator? input.email history = none := by
            have row := credential.row
            rw [absent] at row
            exact row.creator_eq_none
          have creates : creates? input.email state (.await index .resolves) =
              some input :=
            creates?_eq_some.mpr ⟨index, .resolves, passwordHash, rfl, rfl,
              found, rfl, absent⟩
          change creator? input.email ((state, .await index .resolves) ::
            history) = some input
          rw [creator?, notYet, creates, Option.none_or]
  | storeOtp message =>
      cases message with
      | registered =>
          cases learned
          exact credential.still member rfl steps
      | _ => cases learned

/-- A verification takes a step. -/
theorem Credential.verifyOtp_learns
    (credential : Credential lib email history state) {index : Nat}
    {input : VerifyOtpInput} {stage : VerifyOtpStage}
    (found : state.calls[index]? =
      some (AccountCall.verifyOtp ⟨input, .running stage⟩))
    {fact : AccountFact}
    (learned : (AccountCall.verifyOtp ⟨input,
      (verifyOtp input stage).next (perform lib
        (verifyOtp input stage).command state.stores).1⟩).fact? =
          some (email, fact))
    (users : next.stores.users =
      usersAfter (verifyOtp input stage).command state.stores.users)
    (steps : LookupStep email state (.await index .resolves)
      (next.stores.users.findByEmail email)) :
    fact.Holds lib email ((state, .await index .resolves) :: history)
      next := by
  have member := List.mem_of_getElem? found
  cases stage with
  | check stage =>
      have goes := (otpCheck input.email).goOn_cases lib input.otp stage
        state.stores
      have learnedOf : (AccountCall.verifyOtp ⟨input, verifyOtpAfter
          ((otpCheck input.email).goOn lib input.otp stage
            state.stores)⟩).fact? = some (email, fact) := learned
      generalize (otpCheck input.email).goOn lib input.otp stage
        state.stores = progress at goes learnedOf
      cases goes with
      | failure stored read wrong notYet =>
          cases learnedOf
          have isKnown : AccountFact.known.Holds lib input.email history
              state := credential.known_of_stored read
          exact isKnown.step steps
      | right stored read same =>
          cases learnedOf
          have isKnown : AccountFact.known.Holds lib input.email history
              state := credential.known_of_stored read
          exact isKnown.step steps
      | timed renewed =>
          cases learnedOf
          exact credential.still member rfl steps
      | locked live => cases learnedOf
      | unlocked free => cases learnedOf
      | missing nothing => cases learnedOf
      | lastFailure stored read wrong isOver => cases learnedOf
      | deleted => cases learnedOf
      | lockSet => cases learnedOf
      | wroteBack renewed ttlSeconds error => cases learnedOf
  | activate =>
      cases learned
      have isKnown : (creator? input.email history).isSome = true :=
        credential.facts _ member .known rfl
      have row := credential.row
      change (next.stores.users.findByEmail input.email).map User.status =
        some .active
      have lookup : next.stores.users.findByEmail input.email =
          (state.stores.users.findByEmail input.email).map
            (Users.activated input.email) := by
        rw [users]
        exact Users.findByEmail_activate _ _ _
      cases known : state.stores.users.findByEmail input.email with
      | none =>
          rw [row.isSome_iff, known] at isKnown
          cases isKnown
      | some user =>
          rw [known] at row lookup
          rw [lookup, Option.map_some, Option.map_some, Option.some.injEq]
          have sameEmail := (Users.findByEmail_eq_some_iff.mp known).2
          generalize creator? input.email history = creator at row
          cases row with
          | created other _ hashed unlocked =>
              unfold Users.activated
              cases status : user.status with
              | pendingVerify => rw [if_pos ⟨sameEmail, rfl⟩]
              | active =>
                  rw [if_neg (by simp)]
                  exact status
              | locked => exact absurd status unlocked
  | delOtp =>
      cases learned
      exact credential.still member rfl steps

/-- A resend takes a step. -/
theorem Credential.resendOtp_learns
    (credential : Credential lib email history state) {index : Nat}
    {input : ResendOtpInput} {stage : ResendOtpStage}
    (found : state.calls[index]? =
      some (AccountCall.resendOtp ⟨input, .running stage⟩))
    {fact : AccountFact}
    (learned : (AccountCall.resendOtp ⟨input,
      (resendOtp input stage).next (perform lib
        (resendOtp input stage).command state.stores).1⟩).fact? =
          some (email, fact))
    (steps : LookupStep email state (.await index .resolves)
      (next.stores.users.findByEmail email)) :
    fact.Holds lib email ((state, .await index .resolves) :: history)
      next := by
  have member := List.mem_of_getElem? found
  have isKnown : ∀ {progress : ResendOtpProgress},
      (AccountCall.resendOtp ⟨input, progress⟩).fact? = some (email, fact) →
      input.email = email ∧ fact = .known := by
    intro progress same
    cases progress with
    | running stage =>
        cases stage <;> cases same <;> exact ⟨rfl, rfl⟩
    | _ => cases same
  obtain ⟨rfl, rfl⟩ := isKnown learned
  cases stage with
  | existsLock =>
      simp only [resendOtp, perform] at learned
      split at learned <;> cases learned
  | findUser =>
      simp only [resendOtp, perform] at learned
      split at learned
      · next pendingUser =>
          obtain ⟨user, known, _⟩ := Option.map_eq_some_iff.mp pendingUser
          have isKnown : AccountFact.known.Holds lib input.email history
              state := credential.known_of_row known
          exact isKnown.step steps
      · cases learned
  | incrResend => exact credential.still member rfl steps
  | expireResend number => exact credential.still member rfl steps
  | setLock => exact credential.still member rfl steps
  | storeOtp => exact credential.still member rfl steps

/-- Whatever a call learns from the reply to its command is true. -/
theorem Credential.learns (credential : Credential lib email history state)
    {index : Nat} {outcome : Await} {call : AccountCall}
    {pending : Awaited AccountCall}
    (found : state.calls[index]? = some call)
    (waits : call.pending = some pending) {fact : AccountFact}
    (learned : ((accountServer lib).answer call pending state.stores
      outcome).2.fact? = some (email, fact))
    (stores : next.stores =
      ((accountServer lib).answer call pending state.stores outcome).1)
    (steps : LookupStep email state (.await index outcome)
      (next.stores.users.findByEmail email)) :
    fact.Holds lib email ((state, .await index outcome) :: history)
      next := by
  cases outcome with
  | rejects applied =>
      rw [fact?_of_failure waits Await.noConfusion] at learned
      cases learned
  | stops =>
      rw [fact?_of_failure waits Await.noConfusion] at learned
      cases learned
  | resolves =>
      have users : next.stores.users =
          usersAfter pending.command state.stores.users := by
        rw [stores]
        exact users_perform lib pending.command state.stores
      cases call with
      | register call =>
          obtain ⟨stage, atStage, rfl⟩ := (hosts_register lib).running waits
          rw [atStage] at found
          rw [atStage, (hosts_register lib).answer] at learned
          exact credential.register_learns found learned steps
      | verifyOtp call =>
          obtain ⟨stage, atStage, rfl⟩ := (hosts_verifyOtp lib).running waits
          rw [atStage] at found
          rw [atStage, (hosts_verifyOtp lib).answer] at learned
          exact credential.verifyOtp_learns found learned users steps
      | resendOtp call =>
          obtain ⟨stage, atStage, rfl⟩ := (hosts_resendOtp lib).running waits
          rw [atStage] at found
          rw [atStage, (hosts_resendOtp lib).answer] at learned
          exact credential.resendOtp_learns found learned steps
      | login call =>
          obtain ⟨stage, atStage, rfl⟩ := (hosts_login lib).running waits
          cases learned
      | requestEmailChange call =>
          obtain ⟨stage, atStage, rfl⟩ :=
            (hosts_requestEmailChange lib).running waits
          cases learned
      | verifyEmailChange call =>
          obtain ⟨stage, atStage, rfl⟩ :=
            (hosts_verifyEmailChange lib).running waits
          cases learned

theorem Credential.step (credential : Credential lib email history state)
    (stepped : (accountServer lib).step state action = some next)
    (authOnly : AuthRequestsOnly state action) :
    Credential lib email ((state, action) :: history) next := by
  have steps : LookupStep email state action
      (next.stores.users.findByEmail email) :=
    step_lookup credential.auth stepped
  refine ⟨credential.row.step ?_ steps, ?_, ?_, ?_⟩
  · intro input passwordHash member sameEmail
    subst email
    exact credential.facts _ member (.hashed input passwordHash) rfl
  · intro live
    have isKnown : AccountFact.known.Holds lib email history state :=
      credential.code_step stepped live
    exact isKnown.step steps
  · intro call member fact learned
    obtain ⟨index, reached⟩ := List.mem_iff_getElem?.mp member
    cases Server.step_calls stepped reached with
    | kept _ _ found =>
        exact credential.still (List.mem_of_getElem? found) learned steps
    | accepted input _ _ accepts _ =>
        obtain ⟨_, rfl⟩ := accept_eq_some.mp accepts
        cases input <;> cases learned
    | answered outcome earlier pending ran found waits =>
        subst ran
        refine credential.learns found waits learned ?_ steps
        cases Server.step_cases stepped with
        | awaited _ _ other pendingToo foundToo waitsToo =>
            rw [found] at foundToo
            cases foundToo
            rw [waits] at waitsToo
            cases waitsToo
            rfl
  · intro call member
    obtain ⟨index, reached⟩ := List.mem_iff_getElem?.mp member
    cases Server.step_calls stepped reached with
    | kept _ _ found => exact credential.auth call (List.mem_of_getElem? found)
    | accepted input _ ran accepts _ =>
        subst ran
        obtain ⟨_, rfl⟩ := accept_eq_some.mp accepts
        rw [AccountCall.request_call]
        cases input with
        | requestEmailChange input => exact authOnly
        | verifyEmailChange input => exact authOnly
        | _ => trivial
    | answered outcome earlier pending _ found waits =>
        rw [request_answer lib waits]
        exact credential.auth earlier (List.mem_of_getElem? found)

theorem Credential.of_run {start : AccountState} (idle : start.calls = [])
    (noCode : start.stores.find (.otp email) = none)
    (unregistered : start.stores.users.findByEmail email = none)
    (run : Trace (accountServer lib).step start history state)
    (authOnly : StepsMeet AuthRequestsOnly history) :
    Credential lib email history state := by
  refine Trace.invariantWith AuthRequestsOnly (Credential lib email) ?_ ?_ run
    authOnly
  · refine ⟨?_, ?_, ?_, ?_⟩
    · rw [unregistered]
      exact .missing
    · intro live
      rw [noCode] at live
      cases live
    · rw [idle]
      exact List.forall_mem_nil _
    · rw [idle]
      exact List.forall_mem_nil _
  · intro earlier before action after _ holds meets stepped
    exact holds.step stepped meets

end Steps

section Login

variable {lib : Libraries} {input : LoginInput} {stores : AccountStores}

/-- The login comes to a token, with nothing in between and no failures. -/
def TokenFrom (lib : Libraries) (input : LoginInput) (stores : AccountStores)
    (progress : LoginProgress) : Prop :=
  ∃ after accessToken, (accountServer lib).Ends (fun _ => .resolves) stores
    (.login ⟨input, progress⟩) after
    (.login ⟨input, .finished (.ok accessToken)⟩)

private theorem tokenFrom_running {stage : LoginStage} :
    TokenFrom lib input stores (.running stage) ↔
      TokenFrom lib input (perform lib (login input stage).command stores).2
        ((login input stage).next
          (perform lib (login input stage).command stores).1) := by
  unfold TokenFrom
  refine exists_congr fun after => exists_congr fun accessToken => ?_
  exact (hosts_login lib).ends_iff .resolves rfl

private theorem tokenFrom_ok {accessToken : Text} :
    TokenFrom lib input stores (.finished (.ok accessToken)) :=
  ⟨stores, accessToken, .ended rfl⟩

/-- A login that has ended without a token does not get one. -/
theorem not_tokenFrom {progress : LoginProgress}
    (isOver : ∀ stage, progress ≠ .running stage)
    (noToken : ∀ accessToken, progress ≠ .finished (.ok accessToken)) :
    ¬ TokenFrom lib input stores progress := by
  rintro ⟨after, accessToken, ends⟩
  cases ends with
  | ended _ => exact noToken accessToken rfl
  | next waits _ =>
      obtain ⟨stage, atStage, _⟩ := (hosts_login lib).running waits
      have running : progress = .running stage := congrArg Call.progress atStage
      exact isOver stage running

private theorem not_tokenFrom_incrFail :
    ¬ TokenFrom lib input stores (.running .incrFail) := by
  rw [tokenFrom_running]
  generalize (perform lib (login input .incrFail).command stores).2 = counted
  generalize (perform lib (login input .incrFail).command stores).1 = reply
  cases reply with
  | none => exact not_tokenFrom nofun nofun
  | some newCount =>
      by_cases first : newCount = 1
      · have next : (login input .incrFail).next (some newCount) =
            .running .expireFail := if_pos first
        rw [next, tokenFrom_running]
        exact not_tokenFrom nofun nofun
      · have next : (login input .incrFail).next (some newCount) =
            .finished (.error .badCredentials) := if_neg first
        rw [next]
        exact not_tokenFrom nofun nofun

private theorem tokenFrom_delFail (user : User) :
    TokenFrom lib input stores (.running (.delFail user)) := by
  rw [tokenFrom_running, login, tokenFrom_running, login, tokenFrom_running]
  exact tokenFrom_ok

/-- Without a lockout, a login to an active account passes exactly with a
password that its hash accepts. -/
theorem tokenFrom_iff {user : User}
    (known : stores.users.findByEmail input.email = some user)
    (active : user.status = .active)
    (free : stores.count (.loginFail input.email) < loginMaxFails) :
    TokenFrom lib input stores (.running .getFail) ↔
      lib.compare input.password user.passwordHash = true := by
  have counted : ¬ loginMaxFails ≤
      (stores.redis.counters.get (.loginFail input.email)).getD 0 :=
    Nat.not_le.mpr free
  have afterGet : (login input .getFail).next
      (stores.redis.counters.get (.loginFail input.email)) =
        .running .findUser := if_neg counted
  have afterFind : (login input .findUser).next (some user) =
      .running (.comparePassword user) := by
    simp only [login, active]
  rw [tokenFrom_running]
  change TokenFrom lib input stores ((login input .getFail).next
    (stores.redis.counters.get (.loginFail input.email))) ↔ _
  rw [afterGet, tokenFrom_running]
  change TokenFrom lib input stores ((login input .findUser).next
    (stores.users.findByEmail input.email)) ↔ _
  rw [known, afterFind, tokenFrom_running]
  change TokenFrom lib input stores ((login input (.comparePassword user)).next
    (lib.compare input.password user.passwordHash)) ↔ _
  cases lib.compare input.password user.passwordHash with
  | true =>
      have token : TokenFrom lib input stores (.running (.delFail user)) :=
        tokenFrom_delFail user
      exact iff_of_true token rfl
  | false =>
      have noToken : ¬ TokenFrom lib input stores (.running .incrFail) :=
        not_tokenFrom_incrFail
      exact iff_of_false noToken nofun

end Login

/-! ## The password that works -/

/-- When an address that was not registered has been verified, one
registration has created its account: the one that was answered so, if that
answer has been given.  Without a lockout, a login passes exactly with the
password of that registration. -/
theorem login_passes_iff_creator {lib : Libraries}
    (correct : lib.ComparesCorrectly) {email : Text} {users : Users}
    (unregistered : users.findByEmail email = none) {origin : Instant}
    {history : AccountHistory} {state : AccountState}
    (run : Trace (accountServer lib).step (AccountState.init users origin)
      history state)
    (authOnly : StepsMeet AuthRequestsOnly history)
    {verification : VerifyOtpInput} (sameEmail : verification.email = email)
    (verified : AccountCall.verifyOtp
      ⟨verification, .finished (.ok .verified)⟩ ∈ state.calls)
    (free : state.stores.count (.loginFail email) < loginMaxFails) :
    ∃ creator, creator? email history = some creator ∧
      (∀ input : RegisterInput, input.email = email →
        AccountCall.register ⟨input, .finished (.ok .registered)⟩ ∈
          state.calls → input.password = creator.password) ∧
      ∀ input : LoginInput, input.email = email →
        (TokenFrom lib input state.stores (.running .getFail) ↔
          input.password = creator.password) := by
  have credential : Credential lib email history state :=
    .of_run rfl rfl unregistered run authOnly
  have isActive : AccountFact.active.Holds lib email history state := by
    refine credential.facts _ verified .active ?_
    rw [← sameEmail]
    rfl
  obtain ⟨user, known, active⟩ := Option.map_eq_some_iff.mp isActive
  have row := credential.row
  rw [known] at row
  cases created : creator? email history with
  | none =>
      rw [created] at row
      cases row
  | some creator =>
      rw [created] at row
      cases row with
      | created _ _ hashed _ =>
          refine ⟨creator, rfl, ?_, ?_⟩
          · intro input isEmail member
            have isCreator : AccountFact.Holds lib email history state
                (.createdBy input) := by
              refine credential.facts _ member (.createdBy input) ?_
              rw [← isEmail]
              rfl
            have same : creator? email history = some input := isCreator
            rw [created] at same
            cases same
            rfl
          · intro input isEmail
            subst email
            rw [← isEmail] at known free
            rw [tokenFrom_iff known active free, hashed]
            exact correct creator.password creator.salt input.password

def registersAndVerifies : List AccountAction :=
  registers ++ [verifies "123456", .await 1 .resolves, .await 1 .resolves,
    .await 1 .resolves, .await 1 .resolves]

private theorem registersAndVerifies_enabled :
    (replay (accountServer .plain).step [] nobody
      registersAndVerifies).isSome = true := by
  decide +kernel

theorem login_passes_iff_creator_registersAndVerifies :
    TokenFrom .plain ⟨"a@x.io".toList, "password".toList, none, 1⟩
      ((replay (accountServer .plain).step [] nobody registersAndVerifies).get
        registersAndVerifies_enabled).2.stores (.running .getFail) := by
  obtain ⟨creator, created, _, passes⟩ :=
    @login_passes_iff_creator .plain Libraries.plain_comparesCorrectly
      "a@x.io".toList _ rfl 0 _ _
      (Trace.of_replay_get registersAndVerifies registersAndVerifies_enabled)
      (by decide +kernel) ⟨"a@x.io".toList, "123456".toList⟩ rfl
      (by decide +kernel) (by decide +kernel)
  have isCreator : (creator? "a@x.io".toList
      ((replay (accountServer .plain).step [] nobody registersAndVerifies).get
        registersAndVerifies_enabled).1).map RegisterInput.password =
          some "password".toList := by
    decide +kernel
  rw [created] at isCreator
  exact (passes _ rfl).mpr (Option.some.inj isCreator).symm

def otherRegistration : RegisterInput :=
  ⟨"a@x.io".toList, "password2".toList, "B".toList, none, [],
    ⟨654321, by decide, by decide⟩⟩

/-- Two persons register the address, and the code of the second one is
verified. -/
def registersTwice : List AccountAction :=
  registers ++ [.request (.register otherRegistration), .await 1 .resolves,
    .await 1 .resolves, verifies "654321", .await 2 .resolves,
    .await 2 .resolves, .await 2 .resolves, .await 2 .resolves]

/-- The second registration succeeds and its code is verified, but its password
does not pass: that of the first one does. -/
theorem second_password_refused :
    ∃ history state,
      Trace (accountServer .plain).step nobody history state ∧
      StepsMeet AuthRequestsOnly history ∧
      AccountCall.register ⟨otherRegistration, .finished (.ok .otpSentAgain)⟩ ∈
        state.calls ∧
      AccountCall.verifyOtp ⟨⟨"a@x.io".toList, otherRegistration.otp.text⟩,
        .finished (.ok .verified)⟩ ∈ state.calls ∧
      state.stores.count (.loginFail "a@x.io".toList) = 0 ∧
      ¬ TokenFrom .plain ⟨"a@x.io".toList, "password2".toList, none, 1⟩
        state.stores (.running .getFail) ∧
      TokenFrom .plain ⟨"a@x.io".toList, "password".toList, none, 1⟩
        state.stores (.running .getFail) := by
  obtain ⟨history, state, run, holds⟩ :=
    Trace.exists_of_replay (accountServer .plain).step nobody registersTwice
      (fun result => decide
        (StepsMeet AuthRequestsOnly result.1 ∧
        AccountCall.register
            ⟨otherRegistration, .finished (.ok .otpSentAgain)⟩ ∈
          result.2.calls ∧
        AccountCall.verifyOtp ⟨⟨"a@x.io".toList, otherRegistration.otp.text⟩,
          .finished (.ok .verified)⟩ ∈ result.2.calls ∧
        result.2.stores.count (.loginFail "a@x.io".toList) = 0 ∧
        result.2.stores.users.findByEmail "a@x.io".toList =
          some ⟨1, "a@x.io".toList, "password".toList, "A".toList, none,
            .active, [.user]⟩))
      (by decide +kernel)
  obtain ⟨authOnly, registered, verified, noFails, known⟩ :=
    of_decide_eq_true holds
  have free : state.stores.count (.loginFail "a@x.io".toList) <
      loginMaxFails := by
    rw [noFails]
    decide
  refine ⟨history, state, run, authOnly, registered, verified, noFails, ?_, ?_⟩
  · intro passes
    have accepted := (@tokenFrom_iff .plain
      ⟨"a@x.io".toList, "password2".toList, none, 1⟩ _ _ known rfl free).mp
        passes
    cases accepted
  · exact (tokenFrom_iff known rfl free).mpr rfl

end ConcertTicketing.Accounts
