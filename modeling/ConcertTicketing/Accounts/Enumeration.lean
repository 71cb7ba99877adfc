import ConcertTicketing.Accounts.System

/-!
# What a stranger learns about an address

Two systems that differ in one account only, and the same requests to both of
them, one after the other.  Failed logins are answered and counted alike for
an unregistered address and for an active account.  `resendOtp` answers alike
only while the address is locked: otherwise the message for an account that
waits for its verification is another one, and only its requests are counted.
-/

namespace ConcertTicketing.Accounts

open Redis

/-- The tables agree except that `email` is unregistered in one and belongs to
`user` in the other. -/
structure DifferAt (email : Text) (user : User)
    (unregistered registered : Users) : Prop where
  absent : unregistered.findByEmail email = none
  present : registered.findByEmail email = some user
  others : ∀ other, other ≠ email →
    unregistered.findByEmail other = registered.findByEmail other

section Login

variable {lib : Libraries} {input : LoginInput} {stores after : AccountStores}
  {last : AccountCall}

/-- Redis after `incrementLoginFail`. -/
def incrementLoginFail (email : Text) (redis : AccountRedis) : AccountRedis :=
  match redis.counters.incr (.loginFail email) with
  | none => redis
  | some (newCount, counters) =>
      let counted := redis.withCounters counters
      if newCount = 1 then
        counted.withCounters
          (counted.counters.expire (.loginFail email) loginLockTtl)
      else counted

/-- One await of a login that runs alone. -/
theorem ends_login {stage : LoginStage} {progress : LoginProgress}
    (goes : (login input stage).next
      (perform lib (login input stage).command stores).1 = progress)
    (rest : (accountServer lib).Ends (fun _ => .resolves)
      (perform lib (login input stage).command stores).2
      (.login ⟨input, progress⟩) after last) :
    (accountServer lib).Ends (fun _ => .resolves) stores
      (.login ⟨input, .running stage⟩) after last := by
  subst progress
  exact (hosts_login lib).ends_next .resolves rfl rest

private theorem login_ends_locked
    (full : loginMaxFails ≤ stores.count (.loginFail input.email)) :
    (accountServer lib).Ends (fun _ => .resolves) stores
      (.login ⟨input, .running .getFail⟩) stores
      (.login ⟨input, .finished (.error .loginLocked)⟩) := by
  refine ends_login (if_pos full) ?_
  exact .ended rfl

/-- The end of a login that counts a failure. -/
theorem login_ends_incrFail
    (below : stores.count (.loginFail input.email) < loginMaxFails) :
    (accountServer lib).Ends (fun _ => .resolves) stores
      (.login ⟨input, .running .incrFail⟩)
      { stores with redis := incrementLoginFail input.email stores.redis }
      (.login ⟨input, .finished (.error .badCredentials)⟩) := by
  have fits : (stores.redis.counters.get (.loginFail input.email)).getD 0 + 1 <
      2 ^ 63 := by
    have small : (stores.redis.counters.get (.loginFail input.email)).getD 0 <
        5 := below
    omega
  obtain ⟨number, counters, counts⟩ : ∃ number counters,
      stores.redis.counters.incr (.loginFail input.email) =
        some (number, counters) := by
    simp only [Db.incr, if_pos fits]
    exact ⟨_, _, rfl⟩
  have replied : perform lib (login input .incrFail).command stores =
      (some number,
        { stores with redis := stores.redis.withCounters counters }) := by
    simp only [login, perform, counts]
    rfl
  by_cases first : number = 1
  · have goes : (login input .incrFail).next
        (perform lib (login input .incrFail).command stores).1 =
          .running .expireFail := by
      rw [replied]
      exact if_pos first
    refine ends_login goes (ends_login rfl ?_)
    rw [replied]
    simp only [incrementLoginFail, counts, if_pos first]
    exact .ended rfl
  · have goes : (login input .incrFail).next
        (perform lib (login input .incrFail).command stores).1 =
          .finished (.error .badCredentials) := by
      rw [replied]
      exact if_neg first
    refine ends_login goes ?_
    rw [replied]
    simp only [incrementLoginFail, counts, if_neg first]
    exact .ended rfl

/-- The address is unregistered, or the password is wrong for its active
account. -/
inductive Refuses (lib : Libraries) (input : LoginInput) (users : Users) :
    Prop
  | unknown (absent : users.findByEmail input.email = none)
  | wrong (user : User) (present : users.findByEmail input.email = some user)
      (active : user.status = .active)
      (different : lib.compare input.password user.passwordHash = false)

private theorem login_ends_refused
    (below : stores.count (.loginFail input.email) < loginMaxFails)
    (refuses : Refuses lib input stores.users) :
    (accountServer lib).Ends (fun _ => .resolves) stores
      (.login ⟨input, .running .getFail⟩)
      { stores with redis := incrementLoginFail input.email stores.redis }
      (.login ⟨input, .finished (.error .badCredentials)⟩) := by
  have passes : ¬ loginMaxFails ≤ stores.count (.loginFail input.email) :=
    Nat.not_le.mpr below
  refine ends_login (if_neg passes) ?_
  cases refuses with
  | unknown absent =>
      have goes : (login input .findUser).next
          (stores.users.findByEmail input.email) = .running .incrFail := by
        rw [absent]
        rfl
      exact ends_login goes (login_ends_incrFail below)
  | wrong user present active different =>
      have goes : (login input .findUser).next
          (stores.users.findByEmail input.email) =
            .running (.comparePassword user) := by
        rw [present]
        simp only [login, active]
      have refused : (login input (.comparePassword user)).next
          (lib.compare input.password user.passwordHash) =
            .running .incrFail := by
        rw [different]
        rfl
      exact ends_login goes (ends_login refused (login_ends_incrFail below))

def refusal (email : Text) (redis : AccountRedis) : AccountError :=
  if loginMaxFails ≤ (redis.counters.get (.loginFail email)).getD 0 then
    .loginLocked
  else .badCredentials

/-- Redis after a refused login. -/
def redisAfterRefusal (email : Text) (redis : AccountRedis) : AccountRedis :=
  if loginMaxFails ≤ (redis.counters.get (.loginFail email)).getD 0 then redis
  else incrementLoginFail email redis

/-- The answer and what is left in Redis depend on Redis alone. -/
theorem login_ends (lib : Libraries) (input : LoginInput)
    (stores : AccountStores) (refuses : Refuses lib input stores.users) :
    (accountServer lib).Ends (fun _ => .resolves) stores
      (.login ⟨input, .running .getFail⟩)
      { stores with redis := redisAfterRefusal input.email stores.redis }
      (.login ⟨input,
        .finished (.error (refusal input.email stores.redis))⟩) := by
  by_cases full : loginMaxFails ≤
      (stores.redis.counters.get (.loginFail input.email)).getD 0
  · rw [refusal, redisAfterRefusal, if_pos full, if_pos full]
    exact login_ends_locked full
  · rw [refusal, redisAfterRefusal, if_neg full, if_neg full]
    exact login_ends_refused (Nat.lt_of_not_le full) refuses

def loginCalls (attempts : List (Nat × LoginInput)) :
    List (AccountEvent × AccountCall) :=
  attempts.map fun attempt =>
    (.tick attempt.1, .login ⟨attempt.2, .running .getFail⟩)

/-- A login that was answered with the generic error or the lockout. -/
def Refused (answer : AccountCall) : Prop :=
  ∃ input, answer = .login ⟨input, .finished (.error .badCredentials)⟩ ∨
    answer = .login ⟨input, .finished (.error .loginLocked)⟩

private theorem refused_refusal (input : LoginInput) (redis : AccountRedis) :
    Refused (.login
      ⟨input, .finished (.error (refusal input.email redis))⟩) := by
  refine ⟨input, ?_⟩
  unfold refusal
  split
  · exact Or.inr rfl
  · exact Or.inl rfl

/-- Refused logins have one course for every table that refuses them. -/
theorem serial_loginCalls (lib : Libraries)
    (attempts : List (Nat × LoginInput)) (redis : AccountRedis) :
    ∃ redisAfter answers,
      (∀ answer ∈ answers, Refused answer) ∧
      ∀ users logs, (∀ attempt ∈ attempts, Refuses lib attempt.2 users) →
        (accountServer lib).Serial ⟨users, redis, logs⟩ (loginCalls attempts)
          ⟨users, redisAfter, logs⟩ answers := by
  induction attempts generalizing redis with
  | nil =>
      refine ⟨redis, [], fun answer member => absurd member List.not_mem_nil,
        ?_⟩
      intro users logs _
      exact .nil
  | cons attempt attempts inductionHypothesis =>
      obtain ⟨elapsed, input⟩ := attempt
      obtain ⟨redisAfter, answers, refused, runs⟩ := inductionHypothesis
        (redisAfterRefusal input.email (redis.tick elapsed))
      refine ⟨redisAfter, .login ⟨input, .finished
        (.error (refusal input.email (redis.tick elapsed)))⟩ :: answers, ?_, ?_⟩
      · intro answer member
        rcases List.mem_cons.mp member with rfl | later
        · exact refused_refusal input (redis.tick elapsed)
        · exact refused answer later
      · intro users logs refuses
        have first := login_ends lib input
          ⟨users, redis.tick elapsed, logs⟩ (refuses _ List.mem_cons_self)
        have rest := runs users logs fun later member =>
          refuses later (List.mem_cons_of_mem _ member)
        exact .cons first rest

end Login

/-- The same calls to two systems come to their ends, and whatever the ends
are, the answers are equal refusals and the counter of failures is the same,
with its time-to-live. -/
structure FailAlike (lib : Libraries) (email : Text)
    (calls : List (AccountEvent × AccountCall))
    (first second : AccountStores) : Prop where
  ends : ∃ after afterToo answers answersToo,
    (accountServer lib).Serial first calls after answers ∧
    (accountServer lib).Serial second calls afterToo answersToo
  alike : ∀ after afterToo answers answersToo,
    (accountServer lib).Serial first calls after answers →
    (accountServer lib).Serial second calls afterToo answersToo →
    answers = answersToo ∧ (∀ answer ∈ answers, Refused answer) ∧
    after.findCount (.loginFail email) =
      afterToo.findCount (.loginFail email) ∧
    after.redis.counters.ttl (.loginFail email) =
      afterToo.redis.counters.ttl (.loginFail email)

/-- Any series of logins with passwords that are wrong for an active account
is answered and counted as if the address were unregistered. -/
theorem failedLogins_alike {lib : Libraries} {email : Text} {user : User}
    {unregistered registered : Users}
    (differ : DifferAt email user unregistered registered)
    (active : user.status = .active) {attempts : List (Nat × LoginInput)}
    (sameEmail : ∀ attempt ∈ attempts, attempt.2.email = email)
    (wrong : ∀ attempt ∈ attempts,
      lib.compare attempt.2.password user.passwordHash = false)
    (redis : AccountRedis) (logs logsToo : List AuditLog) :
    FailAlike lib email (loginCalls attempts) ⟨unregistered, redis, logs⟩
      ⟨registered, redis, logsToo⟩ := by
  obtain ⟨redisAfter, answers, refused, runs⟩ :=
    serial_loginCalls lib attempts redis
  have first := runs unregistered logs fun attempt member => by
    apply Refuses.unknown
    rw [sameEmail attempt member]
    exact differ.absent
  have second := runs registered logsToo fun attempt member => by
    refine Refuses.wrong user ?_ active (wrong attempt member)
    rw [sameEmail attempt member]
    exact differ.present
  refine ⟨⟨_, _, _, _, first, second⟩, ?_⟩
  intro after afterToo answersHere answersToo runsHere runsToo
  obtain ⟨rfl, rfl⟩ := first.unique runsHere
  obtain ⟨rfl, rfl⟩ := second.unique runsToo
  exact ⟨rfl, refused, rfl, rfl⟩

def oneAddress : Text := "a@x.io".toList

def accountOwner (status : UserStatus) : User :=
  ⟨1, oneAddress, "secret".toList, "A".toList, none, status, [.user]⟩

def oneAccount (status : UserStatus) : Users :=
  ⟨[accountOwner status], List.nodup_singleton _, List.nodup_singleton _⟩

private theorem differAt_oneAccount (status : UserStatus) :
    DifferAt oneAddress (accountOwner status) Users.empty
      (oneAccount status) where
  absent := rfl
  present := rfl
  others := by
    intro other different
    have missing : (oneAccount status).findByEmail other = none := by
      rw [Users.findByEmail_eq_none_iff]
      intro row member
      rw [List.mem_singleton.mp member]
      exact Ne.symm different
    exact missing.symm

def sixTries : List (Nat × LoginInput) :=
  List.replicate 6 (1000, ⟨oneAddress, "guess".toList, none, 1⟩)

theorem failedLogins_alike_sixTries :
    FailAlike Libraries.plain oneAddress (loginCalls sixTries)
      ⟨Users.empty, AccountRedis.empty 0, []⟩
      ⟨oneAccount .active, AccountRedis.empty 0, []⟩ := by
  have tried : ∀ attempt ∈ sixTries,
      attempt = (1000, ⟨oneAddress, "guess".toList, none, 1⟩) :=
    fun attempt member => List.eq_of_mem_replicate member
  refine failedLogins_alike (differAt_oneAccount .active) rfl ?_ ?_
    (AccountRedis.empty 0) [] []
  · intro attempt member
    rw [tried attempt member]
  · intro attempt member
    rw [tried attempt member]
    decide

/-! ## Requests for a new code -/

section Resend

variable {lib : Libraries} {input : ResendOtpInput}
  {stores after : AccountStores} {last : AccountCall}

/-- One await of a `resendOtp` that runs alone. -/
theorem ends_resendOtp {stage : ResendOtpStage} {progress : ResendOtpProgress}
    (goes : (resendOtp input stage).next
      (perform lib (resendOtp input stage).command stores).1 = progress)
    (rest : (accountServer lib).Ends (fun _ => .resolves)
      (perform lib (resendOtp input stage).command stores).2
      (.resendOtp ⟨input, progress⟩) after last) :
    (accountServer lib).Ends (fun _ => .resolves) stores
      (.resendOtp ⟨input, .running stage⟩) after last := by
  subst progress
  exact (hosts_resendOtp lib).ends_next .resolves rfl rest

/-- The codes of the address are locked. -/
def OtpLocked (email : Text) (redis : AccountRedis) : Prop :=
  (redis.find (.otpLock email)).isSome = true

instance (email : Text) (redis : AccountRedis) :
    Decidable (OtpLocked email redis) :=
  inferInstanceAs (Decidable (_ = true))

/-- There is an account that waits for its verification. -/
def PendingVerify (email : Text) (users : Users) : Prop :=
  (users.findByEmail email).map User.status = some .pendingVerify

instance (email : Text) (users : Users) :
    Decidable (PendingVerify email users) :=
  inferInstanceAs (Decidable (_ = _))

private theorem resendOtp_ends_locked
    (locked : OtpLocked input.email stores.redis) : (accountServer lib).Ends
    (fun _ => .resolves) stores
      (.resendOtp ⟨input, .running .existsLock⟩) stores
      (.resendOtp ⟨input, .finished (.error .otpLocked)⟩) :=
  ends_resendOtp (if_pos locked) (.ended rfl)

private theorem resendOtp_ends_other
    (free : ¬ OtpLocked input.email stores.redis)
    (other : ¬ PendingVerify input.email stores.users) :
    (accountServer lib).Ends (fun _ => .resolves) stores
      (.resendOtp ⟨input, .running .existsLock⟩) stores
      (.resendOtp ⟨input, .finished (.ok .otpSentIfPending)⟩) := by
  exact ends_resendOtp (if_neg free)
    (ends_resendOtp (if_neg other) (.ended rfl))

/-- What `resendOtp` does for an account that waits for its verification. -/
inductive PendingAnswer : ResendOtpProgress → Prop
  | overflow : PendingAnswer (.failed .incrResend false)
  | sent : PendingAnswer (.finished (.ok .otpSent))
  | exhausted : PendingAnswer (.finished (.error .resendExhausted))

private theorem ends_afterResendCount (lib : Libraries) (input : ResendOtpInput)
    (stores : AccountStores) (resendCount : Nat) :
    ∃ after progress, PendingAnswer progress ∧
      (accountServer lib).Ends (fun _ => .resolves) stores
        (.resendOtp ⟨input, afterResendCount resendCount⟩) after
        (.resendOtp ⟨input, progress⟩) := by
  unfold afterResendCount
  split
  · exact ⟨_, _, .exhausted, ends_resendOtp rfl (.ended rfl)⟩
  · exact ⟨_, _, .sent, ends_resendOtp rfl (.ended rfl)⟩

private theorem resendOtp_ends_pending
    (free : ¬ OtpLocked input.email stores.redis)
    (pending : PendingVerify input.email stores.users) :
    ∃ after progress, PendingAnswer progress ∧
      (accountServer lib).Ends (fun _ => .resolves) stores
        (.resendOtp ⟨input, .running .existsLock⟩) after
        (.resendOtp ⟨input, progress⟩) := by
  have counted : ∃ after progress, PendingAnswer progress ∧
      (accountServer lib).Ends (fun _ => .resolves) stores
        (.resendOtp ⟨input, .running .incrResend⟩) after
        (.resendOtp ⟨input, progress⟩) := by
    cases replied : (perform lib (resendOtp input .incrResend).command
        stores).1 with
    | none =>
        refine ⟨_, _, .overflow, ends_resendOtp ?_ (.ended rfl)⟩
        rw [replied]
        rfl
    | some resendCount =>
        by_cases first : resendCount = 1
        · obtain ⟨after, progress, answers, ends⟩ :=
            ends_afterResendCount lib input
              (perform lib (resendOtp input (.expireResend resendCount)).command
                (perform lib (resendOtp input .incrResend).command
                  stores).2).2 resendCount
          have goes : (resendOtp input .incrResend).next
              (perform lib (resendOtp input .incrResend).command stores).1 =
                .running (.expireResend resendCount) := by
            rw [replied]
            exact if_pos first
          exact ⟨after, progress, answers,
            ends_resendOtp goes (ends_resendOtp rfl ends)⟩
        · obtain ⟨after, progress, answers, ends⟩ :=
            ends_afterResendCount lib input
              (perform lib (resendOtp input .incrResend).command stores).2
              resendCount
          have goes : (resendOtp input .incrResend).next
              (perform lib (resendOtp input .incrResend).command stores).1 =
                afterResendCount resendCount := by
            rw [replied]
            exact if_neg first
          exact ⟨after, progress, answers, ends_resendOtp goes ends⟩
  obtain ⟨after, progress, answers, ends⟩ := counted
  exact ⟨after, progress, answers,
    ends_resendOtp (if_neg free) (ends_resendOtp (if_pos pending) ends)⟩

private theorem resendOtp_ends (lib : Libraries) (input : ResendOtpInput)
    (stores : AccountStores) :
    ∃ after last, (accountServer lib).Ends (fun _ => .resolves) stores
      (.resendOtp ⟨input, .running .existsLock⟩) after last := by
  by_cases locked : OtpLocked input.email stores.redis
  · exact ⟨_, _, resendOtp_ends_locked locked⟩
  · by_cases pending : PendingVerify input.email stores.users
    · obtain ⟨after, progress, _, ends⟩ :=
        resendOtp_ends_pending locked pending
      exact ⟨after, _, ends⟩
    · exact ⟨_, _, resendOtp_ends_other locked pending⟩

def resendCalls (requests : List (Nat × ResendOtpInput)) :
    List (AccountEvent × AccountCall) :=
  requests.map fun request =>
    (.tick request.1, .resendOtp ⟨request.2, .running .existsLock⟩)

private theorem serial_resendCalls (lib : Libraries)
    (requests : List (Nat × ResendOtpInput)) (stores : AccountStores) :
    ∃ after answers,
      (accountServer lib).Serial stores (resendCalls requests) after
        answers := by
  apply Server.Serial.exists_of_ends
  intro entry member stores
  obtain ⟨request, _, rfl⟩ := List.mem_map.mp member
  exact resendOtp_ends lib request.2 stores

/-- What the client sees of an answer: the message, or the status and the
message of the error. -/
def response : AccountCall → Option (Except (Nat × Text) Text)
  | .resendOtp ⟨_, .finished (.ok message)⟩ => some (.ok message.text)
  | .resendOtp ⟨_, .finished (.error error)⟩ =>
      some (.error (error.status, error.message))
  | _ => none

/-- The two messages are different texts. -/
theorem text_otpSent_ne :
    AccountMessage.otpSent.text ≠ AccountMessage.otpSentIfPending.text := by
  decide +kernel

private theorem response_ne {progress : ResendOtpProgress}
    (answers : PendingAnswer progress) (input inputToo : ResendOtpInput) :
    response (.resendOtp ⟨input, .finished (.ok .otpSentIfPending)⟩) ≠
      response (.resendOtp ⟨inputToo, progress⟩) := by
  cases answers with
  | overflow => nofun
  | sent =>
      intro same
      injection same with same
      injection same with same
      exact text_otpSent_ne same.symm
  | exhausted => nofun

/-- The lock that is there now is there at the last of the requests. -/
def LockLasts (email : Text) (requests : List (Nat × ResendOtpInput))
    (redis : AccountRedis) : Prop :=
  requests = [] ∨
    OtpLocked email (redis.tick (requests.map Prod.fst).sum)

private theorem tick_tick (redis : AccountRedis) (first second : Nat) :
    (redis.tick first).tick second = redis.tick (first + second) := by
  simp only [AccountRedis.tick, Db.tick, Int.add_assoc, Int.natCast_add]

/-- A lock that is live later is live now. -/
theorem OtpLocked.before {email : Text} {redis : AccountRedis} {elapsed : Nat}
    (later : OtpLocked email (redis.tick elapsed)) : OtpLocked email redis := by
  have live : ((redis.toDb.tick elapsed).find (.otpLock email)).isSome =
      true := later
  rw [Db.find_tick] at live
  obtain ⟨entry, found⟩ := Option.isSome_iff_exists.mp live
  have now := (Option.filter_eq_some_iff.mp found).1
  exact Option.isSome_iff_exists.mpr ⟨entry, now⟩

private theorem lockLasts_cons {email : Text} {request : Nat × ResendOtpInput}
    {requests : List (Nat × ResendOtpInput)} {redis : AccountRedis} :
    LockLasts email (request :: requests) redis ↔
      OtpLocked email (redis.tick request.1) ∧
        LockLasts email requests (redis.tick request.1) := by
  unfold LockLasts
  rw [tick_tick, List.map_cons, List.sum_cons]
  constructor
  · rintro (isNil | locked)
    · cases isNil
    · refine ⟨?_, Or.inr locked⟩
      rw [← tick_tick] at locked
      exact locked.before
  · rintro ⟨locked, rfl | lasts⟩
    · exact Or.inr locked
    · exact Or.inr lasts

end Resend

/-- The same calls to two systems, each answered in the same way by both. -/
def SameResponses (lib : Libraries)
    (calls : List (AccountEvent × AccountCall))
    (first second : AccountStores) : Prop :=
  ∃ after afterToo answers answersToo,
    (accountServer lib).Serial first calls after answers ∧
    (accountServer lib).Serial second calls afterToo answersToo ∧
    answers.map response = answersToo.map response

private theorem responses_eq_iff {lib : Libraries} {email : Text} {user : User}
    {unregistered registered : Users}
    (differ : DifferAt email user unregistered registered)
    (pending : user.status = .pendingVerify)
    {requests : List (Nat × ResendOtpInput)}
    (sameEmail : ∀ request ∈ requests, request.2.email = email)
    (redis : AccountRedis) {logs logsToo : List AuditLog}
    {after afterToo : AccountStores} {answers answersToo : List AccountCall}
    (first : (accountServer lib).Serial ⟨unregistered, redis, logs⟩
      (resendCalls requests) after answers)
    (second : (accountServer lib).Serial ⟨registered, redis, logsToo⟩
      (resendCalls requests) afterToo answersToo) :
    answers.map response = answersToo.map response ↔
      LockLasts email requests redis := by
  induction requests generalizing redis answers answersToo with
  | nil =>
      have noAnswer : answers = [] := (first.unique .nil).2
      have noneToo : answersToo = [] := (second.unique .nil).2
      rw [noAnswer, noneToo]
      exact iff_of_true rfl (Or.inl rfl)
  | cons request requests inductionHypothesis =>
      obtain ⟨elapsed, input⟩ := request
      have isEmail : input.email = email := sameEmail _ List.mem_cons_self
      have others : ∀ request ∈ requests, request.2.email = email :=
        fun later member => sameEmail later (List.mem_cons_of_mem _ member)
      rw [lockLasts_cons]
      cases first with
      | cons ends rest =>
          cases second with
          | cons endsToo restToo =>
              by_cases locked : OtpLocked email (redis.tick elapsed)
              · have lockedHere :
                    OtpLocked input.email (redis.tick elapsed) := by
                  rw [isEmail]
                  exact locked
                obtain ⟨rfl, rfl⟩ :=
                  ends.unique (resendOtp_ends_locked lockedHere)
                obtain ⟨rfl, rfl⟩ :=
                  endsToo.unique (resendOtp_ends_locked lockedHere)
                have later := inductionHypothesis others
                  (redis.tick elapsed) rest restToo
                rw [List.map_cons, List.map_cons, List.cons.injEq, later]
                exact and_congr_left fun _ => iff_of_true rfl locked
              · have free : ¬ OtpLocked input.email (redis.tick elapsed) := by
                  rw [isEmail]
                  exact locked
                have isAbsent : ¬ PendingVerify input.email unregistered := by
                  rw [PendingVerify, isEmail, differ.absent]
                  nofun
                have isPending : PendingVerify input.email registered := by
                  rw [PendingVerify, isEmail, differ.present]
                  exact congrArg some pending
                obtain ⟨rfl, rfl⟩ :=
                  ends.unique (resendOtp_ends_other free isAbsent)
                have freeToo : ¬ OtpLocked input.email
                    ((accountServer lib).external (.tick elapsed)
                      ⟨registered, redis, logsToo⟩).redis := free
                obtain ⟨middle, progress, answered, endsPending⟩ :=
                  resendOtp_ends_pending freeToo isPending
                obtain ⟨rfl, rfl⟩ := endsToo.unique endsPending
                rw [List.map_cons, List.map_cons, List.cons.injEq]
                apply iff_of_false
                · intro same
                  exact response_ne answered input input same.1
                · intro lasts
                  exact locked lasts.1

/-- Requests for a new code are answered alike for an unregistered address and
for an account that waits for its verification exactly when the address is
locked until the last of them. -/
theorem resendOtp_alike_iff {lib : Libraries} {email : Text} {user : User}
    {unregistered registered : Users}
    (differ : DifferAt email user unregistered registered)
    (pending : user.status = .pendingVerify)
    {requests : List (Nat × ResendOtpInput)}
    (sameEmail : ∀ request ∈ requests, request.2.email = email)
    (redis : AccountRedis) (logs logsToo : List AuditLog) :
    SameResponses lib (resendCalls requests) ⟨unregistered, redis, logs⟩
        ⟨registered, redis, logsToo⟩ ↔
      LockLasts email requests redis := by
  constructor
  · rintro ⟨after, afterToo, answers, answersToo, first, second, same⟩
    exact (responses_eq_iff differ pending sameEmail redis first second).mp
      same
  · intro lasts
    obtain ⟨after, answers, first⟩ := serial_resendCalls lib requests
      ⟨unregistered, redis, logs⟩
    obtain ⟨afterToo, answersToo, second⟩ := serial_resendCalls lib requests
      ⟨registered, redis, logsToo⟩
    exact ⟨after, afterToo, answers, answersToo, first, second,
      (responses_eq_iff differ pending sameEmail redis first second).mpr
        lasts⟩

def oneResend : List (Nat × ResendOtpInput) :=
  [(0, ⟨oneAddress, Otp.oneToSix⟩)]

def twoResends : List (Nat × ResendOtpInput) :=
  oneResend ++ [(1000, ⟨oneAddress, Otp.oneToSix⟩)]

private theorem email_of_oneResend :
    ∀ request ∈ oneResend, request.2.email = oneAddress := by
  decide

private theorem email_of_twoResends :
    ∀ request ∈ twoResends, request.2.email = oneAddress := by
  decide

def lockedRedis : AccountRedis :=
  { AccountRedis.empty 0 with
    toDb := (AccountRedis.empty 0).put (.otpLock oneAddress) "1".toList
      otpLockTtl }

theorem sameResponses_lockedRedis :
    SameResponses Libraries.plain (resendCalls twoResends)
      ⟨Users.empty, lockedRedis, []⟩
      ⟨oneAccount .pendingVerify, lockedRedis, []⟩ :=
  (resendOtp_alike_iff (differAt_oneAccount .pendingVerify) rfl
    email_of_twoResends lockedRedis [] []).mpr (Or.inr (by decide))

/-- A first request tells an account that waits for its verification from an
unregistered address. -/
theorem resendOtp_reveals_account :
    ¬ ∀ (lib : Libraries) (email : Text) (user : User)
        (unregistered registered : Users),
        DifferAt email user unregistered registered →
        user.status = .pendingVerify →
        ∀ requests : List (Nat × ResendOtpInput),
          (∀ request ∈ requests, request.2.email = email) →
          ∀ (redis : AccountRedis) (logs logsToo : List AuditLog),
            SameResponses lib (resendCalls requests)
              ⟨unregistered, redis, logs⟩ ⟨registered, redis, logsToo⟩ := by
  intro alike
  obtain ⟨after, afterToo, answers, answersToo, first, second, same⟩ :=
    alike Libraries.plain oneAddress (accountOwner .pendingVerify) Users.empty
      (oneAccount .pendingVerify) (differAt_oneAccount .pendingVerify) rfl
      oneResend email_of_oneResend (AccountRedis.empty 0) [] []
  have lasts := (responses_eq_iff (differAt_oneAccount .pendingVerify) rfl
    email_of_oneResend (AccountRedis.empty 0) first second).mp same
  rcases lasts with isNil | locked
  · cases isNil
  · cases locked

end ConcertTicketing.Accounts
