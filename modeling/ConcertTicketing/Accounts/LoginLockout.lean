import ConcertTicketing.Accounts.OtpFreshness

/-!
# Failed logins

A login compares the counter of failures with the limit first and increments
it last.  The bound on failed checks is kept as long as a login that passes
the comparison would pass it also with the logins counted in that are still
between the two.
-/

namespace ConcertTicketing.Accounts

open Redis

inductive LoginGoes (lib : Libraries) (input : LoginInput)
    (stores : AccountStores) : LoginStage → LoginProgress → Prop
  | lockedOut
      (full : loginMaxFails ≤ stores.count (.loginFail input.email)) :
      LoginGoes lib input stores .getFail (.finished (.error .loginLocked))
  | passed (below : stores.count (.loginFail input.email) < loginMaxFails) :
      LoginGoes lib input stores .getFail (.running .findUser)
  | unknown (nobody : stores.users.findByEmail input.email = none) :
      LoginGoes lib input stores .findUser (.running .incrFail)
  | refused (user : User)
      (known : stores.users.findByEmail input.email = some user)
      (error : AccountError) :
      LoginGoes lib input stores .findUser (.finished (.error error))
  | known (user : User)
      (known : stores.users.findByEmail input.email = some user) :
      LoginGoes lib input stores .findUser (.running (.comparePassword user))
  | right (user : User)
      (same : lib.compare input.password user.passwordHash = true) :
      LoginGoes lib input stores (.comparePassword user)
        (.running (.delFail user))
  | wrong (user : User)
      (different : lib.compare input.password user.passwordHash = false) :
      LoginGoes lib input stores (.comparePassword user) (.running .incrFail)
  | overflow
      (isOver : ¬ stores.count (.loginFail input.email) + 1 < 2 ^ 63) :
      LoginGoes lib input stores .incrFail (.failed .incrFail false)
  | first (fits : stores.count (.loginFail input.email) + 1 < 2 ^ 63)
      (isFirst : stores.count (.loginFail input.email) = 0) :
      LoginGoes lib input stores .incrFail (.running .expireFail)
  | counted (fits : stores.count (.loginFail input.email) + 1 < 2 ^ 63)
      (notFirst : stores.count (.loginFail input.email) ≠ 0) :
      LoginGoes lib input stores .incrFail
        (.finished (.error .badCredentials))
  | expired :
      LoginGoes lib input stores .expireFail
        (.finished (.error .badCredentials))
  | deleted (user : User) :
      LoginGoes lib input stores (.delFail user) (.running (.signToken user))
  | signed (user : User) (accessToken : Text) :
      LoginGoes lib input stores (.signToken user)
        (.running (.createAuditLog user accessToken))
  | logged (user : User) (accessToken : Text) :
      LoginGoes lib input stores (.createAuditLog user accessToken)
        (.finished (.ok accessToken))

private theorem login_goes (lib : Libraries) (input : LoginInput)
    (stores : AccountStores) (stage : LoginStage) :
    LoginGoes lib input stores stage
      ((login input stage).next
        (perform lib (login input stage).command stores).1) := by
  cases stage with
  | getFail =>
      have reply : (stores.redis.counters.get (.loginFail input.email)).getD
          0 = stores.count (.loginFail input.email) := rfl
      simp only [login, perform, reply]
      by_cases full : loginMaxFails ≤ stores.count (.loginFail input.email)
      · rw [if_pos full]
        exact .lockedOut full
      · rw [if_neg full]
        exact .passed (Nat.lt_of_not_le full)
  | findUser =>
      simp only [login, perform]
      cases known : stores.users.findByEmail input.email with
      | none => exact .unknown known
      | some user =>
          cases status : user.status with
          | pendingVerify =>
              simp only [status]
              exact .refused user known _
          | active =>
              simp only [status]
              exact .known user known
          | locked =>
              simp only [status]
              exact .refused user known _
  | comparePassword user =>
      simp only [login, perform]
      cases same : lib.compare input.password user.passwordHash with
      | true => exact .right user same
      | false => exact .wrong user same
  | incrFail =>
      have reply := incr_reply lib (.loginFail input.email) stores
      simp only [login, reply]
      by_cases fits : stores.count (.loginFail input.email) + 1 < 2 ^ 63
      · simp only [if_pos fits]
        by_cases isFirst : stores.count (.loginFail input.email) = 0
        · rw [if_pos (by omega)]
          exact .first fits isFirst
        · rw [if_neg (by omega)]
          exact .counted fits isFirst
      · simp only [if_neg fits]
        exact .overflow fits
  | expireFail => exact .expired
  | delFail user => exact .deleted user
  | signToken user => exact .signed user _
  | createAuditLog user accessToken => exact .logged user accessToken

/-- A login finds no account, or another password. -/
def failsCheck (lib : Libraries) (email : Text) (state : AccountState) :
    AccountAction → Bool
  | .await index .resolves =>
      match state.calls[index]? with
      | some (.login ⟨input, .running .findUser⟩) =>
          decide (input.email = email) &&
            (state.stores.users.findByEmail email).isNone
      | some (.login ⟨input, .running (.comparePassword user)⟩) =>
          decide (input.email = email) &&
            !lib.compare input.password user.passwordHash
      | _ => false
  | _ => false

def failedChecks (lib : Libraries) (email : Text) (history : AccountHistory) :
    Nat :=
  history.countP fun (state, action) => failsCheck lib email state action

private theorem failedChecks_cons (lib : Libraries) (email : Text)
    (state : AccountState) (action : AccountAction)
    (history : AccountHistory) :
    failedChecks lib email ((state, action) :: history) =
      failedChecks lib email history +
        if failsCheck lib email state action then 1 else 0 :=
  List.countP_cons

/-- A login finds the counter below the limit. -/
def passes (email : Text) (state : AccountState) : AccountAction → Bool
  | .await index .resolves =>
      match state.calls[index]? with
      | some (.login ⟨input, .running .getFail⟩) =>
          decide (input.email = email ∧
            state.stores.count (.loginFail email) < loginMaxFails)
      | _ => false
  | _ => false

/-- A login that has found the counter below the limit and may still count a
failure. -/
def passed (email : Text) : AccountCall → Nat
  | .login ⟨input, .running .findUser⟩ =>
      if input.email = email then 1 else 0
  | .login ⟨input, .running (.comparePassword _)⟩ =>
      if input.email = email then 1 else 0
  | .login ⟨input, .running .incrFail⟩ =>
      if input.email = email then 1 else 0
  | _ => 0

/-- A login that has failed and not counted it yet. -/
def failing (email : Text) : AccountCall → Nat
  | .login ⟨input, .running .incrFail⟩ =>
      if input.email = email then 1 else 0
  | _ => 0

/-- A login that finds the counter below the limit finds it below the limit
also with the logins counted in that have passed and may still fail. -/
def PassesBelow (email : Text) (state : AccountState)
    (action : AccountAction) : Prop :=
  passes email state action = true →
    state.stores.count (.loginFail email) +
      load (passed email) state.calls < loginMaxFails

instance (email : Text) (state : AccountState) (action : AccountAction) :
    Decidable (PassesBelow email state action) :=
  inferInstanceAs (Decidable (_ → _))

/-- A step neither deletes the counter nor lets it lapse. -/
def CounterStays (lib : Libraries) (key : CounterKey) (state : AccountState)
    (action : AccountAction) : Prop :=
  ∀ next ∈ (accountServer lib).step state action,
    (state.stores.findCount key).isSome = true →
      (next.stores.findCount key).isSome = true

instance (lib : Libraries) (key : CounterKey) (state : AccountState)
    (action : AccountAction) : Decidable (CounterStays lib key state action) :=
  inferInstanceAs (Decidable (∀ _ ∈ (accountServer lib).step state action, _))

private theorem failing_le_passed (email : Text) (call : AccountCall) :
    failing email call ≤ passed email call := by
  unfold failing
  split
  · exact le_refl _
  · exact Nat.zero_le _

section Steps

variable {lib : Libraries} {email : Text} {state next : AccountState}
  {action : AccountAction}

/-- A call that has ended passes and fails no more. -/
theorem passed_of_ended {call : AccountCall} (ended : call.pending = none) :
    passed email call = 0 := by
  unfold passed
  split
  · cases ended
  · cases ended
  · cases ended
  · rfl

/-- Only logins pass and fail. -/
theorem passed_of_request {call : AccountCall}
    (other : ∀ input, call.request ≠ .login input) : passed email call = 0 := by
  cases call with
  | login call => exact absurd rfl (other call.input)
  | _ => rfl

/-- Only a login that has failed makes the number larger. -/
theorem numberLeft_le (call : AccountCall) (number : Nat) :
    numberLeft call (.loginFail email) number ≤ number + failing email call := by
  unfold numberLeft
  split
  · next owner role counts =>
      by_cases same : owner = .loginFail email
      · subst owner
        rw [if_pos rfl]
        cases role with
        | expires => exact Nat.le_add_right _ _
        | deletes => exact Nat.zero_le _
        | increments =>
            have isFailing : failing email call = 1 := by
              unfold AccountCall.counter? at counts
              split at counts <;> cases counts
              exact if_pos rfl
            rw [isFailing]
            simp only [CounterRole.numberAfter]
            split
            · exact le_refl _
            · omega
      · rw [if_neg same]
        exact Nat.le_add_right _ _
  · exact Nat.le_add_right _ _

private theorem passes_eq_true {index : Nat} {outcome : Await} :
    passes email state (.await index outcome) = true ↔
      ∃ input, outcome = .resolves ∧
        state.calls[index]? =
          some (AccountCall.login ⟨input, .running .getFail⟩) ∧
        input.email = email ∧
        state.stores.count (.loginFail email) < loginMaxFails := by
  constructor
  · intro passing
    cases outcome with
    | resolves =>
        simp only [passes] at passing
        split at passing
        · next input found =>
            obtain ⟨sameEmail, below⟩ := of_decide_eq_true passing
            exact ⟨input, rfl, found, sameEmail, below⟩
        · cases passing
    | rejects applied => cases passing
    | stops => cases passing
  · rintro ⟨input, rfl, found, sameEmail, below⟩
    simp only [passes, found, sameEmail, below, and_self, decide_true]

/-- The counter and what can still be added to it do not grow, unless the
login passes the comparison. -/
theorem passed_answer (lib : Libraries) {index : Nat} {outcome : Await}
    {call : AccountCall} {pending : Awaited AccountCall}
    (found : state.calls[index]? = some call)
    (waits : call.pending = some pending)
    (noPass : passes email state (.await index outcome) = false) :
    ((accountServer lib).answer call pending state.stores outcome).1.count
        (.loginFail email) +
      passed email
        ((accountServer lib).answer call pending state.stores outcome).2 ≤
      state.stores.count (.loginFail email) + passed email call := by
  have counted : ((accountServer lib).answer call pending state.stores
      outcome).1.count (.loginFail email) ≤
        state.stores.count (.loginFail email) + failing email call := by
    rw [count_answer lib waits]
    split
    · exact numberLeft_le call _
    · exact Nat.le_add_right _ _
  have lighter := failing_le_passed email call
  have ofFailure : outcome ≠ .resolves → passed email ((accountServer
      lib).answer call pending state.stores outcome).2 = 0 := fun fails =>
    passed_of_ended (pending_of_failure lib call pending state.stores fails)
  cases outcome with
  | rejects applied =>
      have noMore := ofFailure Await.noConfusion
      omega
  | stops =>
      have noMore := ofFailure Await.noConfusion
      omega
  | resolves =>
      by_cases isLogin : ∃ input, call.request = .login input
      · cases call with
        | login call =>
            obtain ⟨stage, atStage, rfl⟩ := (hosts_login lib).running waits
            generalize call.input = input at *
            subst call
            rw [(hosts_login lib).answer]
            have goes := login_goes lib input state.stores stage
            have sameNext : Call.goOn (accountServer lib).perform login input
                stage state.stores .resolves =
                  (login input stage).next (perform lib
                    (login input stage).command state.stores).1 := rfl
            rw [sameNext]
            generalize (login input stage).next (perform lib
              (login input stage).command state.stores).1 = progress at goes ⊢
            have fewer : passed email (.login ⟨input, progress⟩) +
                failing email (.login ⟨input, .running stage⟩) ≤
                  passed email (.login ⟨input, .running stage⟩) := by
              cases goes with
              | passed below =>
                  have other : input.email ≠ email := by
                    intro same
                    subst email
                    have passing : passes input.email state
                        (.await index .resolves) = true :=
                      passes_eq_true.mpr ⟨input, rfl, found, rfl, below⟩
                    rw [noPass] at passing
                    cases passing
                  have noNext : passed email
                      (.login ⟨input, .running .findUser⟩) = 0 := if_neg other
                  rw [noNext]
                  exact le_refl _
              | unknown nobody => exact le_refl _
              | known user known => exact le_refl _
              | wrong user different => exact le_refl _
              | _ => exact (Nat.zero_add _).trans_le lighter
            omega
        | _ =>
            obtain ⟨_, same⟩ := isLogin
            cases same
      · have other : passed email ((accountServer lib).answer call pending
            state.stores .resolves).2 = 0 := by
          refine passed_of_request ?_
          rw [request_answer lib waits]
          intro input same
          exact isLogin ⟨input, same⟩
        omega

/-- A login that passes the comparison leaves the counter alone. -/
theorem passes_answer (lib : Libraries) {index : Nat} {outcome : Await}
    {call : AccountCall} {pending : Awaited AccountCall}
    (found : state.calls[index]? = some call)
    (waits : call.pending = some pending)
    (passing : passes email state (.await index outcome) = true) :
    ((accountServer lib).answer call pending state.stores outcome).1.count
        (.loginFail email) = state.stores.count (.loginFail email) ∧
      passed email
        ((accountServer lib).answer call pending state.stores outcome).2 ≤
          passed email call + 1 := by
  obtain ⟨input, rfl, foundToo, sameEmail, below⟩ := passes_eq_true.mp passing
  rw [found] at foundToo
  cases foundToo
  refine ⟨count_answer lib waits _ _ _, ?_⟩
  cases waits
  have goes := login_goes lib input state.stores .getFail
  change passed email (.login ⟨input, (login input .getFail).next
    (perform lib (login input .getFail).command state.stores).1⟩) ≤ 1
  generalize (login input .getFail).next (perform lib
    (login input .getFail).command state.stores).1 = progress at goes ⊢
  cases goes with
  | lockedOut full => exact Nat.zero_le _
  | passed below =>
      have one : passed email (.login ⟨input, .running .findUser⟩) = 1 :=
        if_pos sameEmail
      exact one.le

/-- The counter and the logins that may still count a failure stay within the
limit. -/
def WithinLimit (email : Text) (state : AccountState) : Prop :=
  state.stores.count (.loginFail email) + load (passed email) state.calls ≤
    loginMaxFails

theorem WithinLimit.step (within : WithinLimit email state)
    (stepped : (accountServer lib).step state action = some next)
    (passesBelow : PassesBelow email state action) :
    WithinLimit email next := by
  unfold WithinLimit at within ⊢
  cases Server.step_cases stepped with
  | external event =>
      cases event with
      | tick elapsed =>
          have fewer := state.stores.count_tick_le elapsed (.loginFail email)
          exact (Nat.add_le_add_right fewer _).trans within
  | requested input call accepted =>
      obtain ⟨_, rfl⟩ := accept_eq_some.mp accepted
      have none : passed email input.call = 0 := by cases input <;> rfl
      simp only [load_append, none, Nat.add_zero]
      exact within
  | awaited index outcome call pending found waits =>
      have exchanged := load_set (passed email) found
        ((accountServer lib).answer call pending state.stores outcome).2
      cases passing : passes email state (.await index outcome) with
      | false =>
          have answered := passed_answer lib found waits passing
          simp only
          omega
      | true =>
          have below := passesBelow passing
          obtain ⟨same, oneMore⟩ := passes_answer lib found waits
            passing
          simp only
          omega

theorem WithinLimit.of_run {users : Users} {origin : Instant}
    {history : AccountHistory}
    (run : Trace (accountServer lib).step (AccountState.init users origin)
      history state)
    (passesBelow : StepsMeet (PassesBelow email) history) :
    WithinLimit email state := by
  refine Trace.invariantUnder (PassesBelow email) (WithinLimit email) ?_ ?_
    run passesBelow
  · exact Nat.zero_le _
  · intro before action after within meets stepped
    exact within.step stepped meets

/-- The failures that are counted or on their way to the counter. -/
def failures (email : Text) (state : AccountState) : Nat :=
  state.stores.count (.loginFail email) + load (failing email) state.calls

private theorem failures_le (within : WithinLimit email state) :
    failures email state ≤ loginMaxFails := by
  have lighter := load_le_load (failing_le_passed email) state.calls
  unfold WithinLimit at within
  unfold failures
  omega

/-- The call is no login of the address. -/
def Elsewhere (email : Text) (call : AccountCall) : Prop :=
  ∀ input, call.request = .login input → input.email ≠ email

private theorem failing_of_elsewhere {call : AccountCall}
    (elsewhere : Elsewhere email call) : failing email call = 0 := by
  unfold failing
  split
  · exact if_neg (elsewhere _ rfl)
  · rfl

private theorem failsCheck_of_elsewhere {index : Nat} {outcome : Await}
    {call : AccountCall} (found : state.calls[index]? = some call)
    (elsewhere : Elsewhere email call) :
    failsCheck lib email state (.await index outcome) = false := by
  cases outcome with
  | resolves =>
      simp only [failsCheck, found]
      split
      · next input same =>
          cases same
          rw [decide_eq_false (elsewhere _ rfl), Bool.false_and]
      · next input user same =>
          cases same
          rw [decide_eq_false (elsewhere _ rfl), Bool.false_and]
      · rfl
  | _ => rfl

/-- A call elsewhere does nothing to the counter. -/
theorem numberLeft_of_elsewhere {call : AccountCall} {number : Nat}
    (elsewhere : Elsewhere email call) :
    numberLeft call (.loginFail email) number = number := by
  unfold numberLeft
  split
  · next owner role counts =>
      refine if_neg ?_
      intro same
      subst owner
      unfold AccountCall.counter? at counts
      split at counts <;> cases counts <;> exact elsewhere _ rfl rfl
  · rfl

/-- A failed check is a failure on its way to the counter. -/
theorem failures_login (lib : Libraries) {index : Nat} {input : LoginInput}
    {stage : LoginStage} {pending : Awaited AccountCall}
    (found : state.calls[index]? =
      some (AccountCall.login ⟨input, .running stage⟩))
    (waits : (AccountCall.login ⟨input, .running stage⟩).pending =
      some pending)
    (fits : state.stores.count (.loginFail input.email) + 1 < 2 ^ 63)
    (stays : (state.stores.findCount (.loginFail input.email)).isSome = true →
      (((accountServer lib).answer (.login ⟨input, .running stage⟩) pending
        state.stores .resolves).1.findCount
          (.loginFail input.email)).isSome = true) :
    ((accountServer lib).answer (.login ⟨input, .running stage⟩) pending
        state.stores .resolves).1.count (.loginFail input.email) +
      failing input.email ((accountServer lib).answer
        (.login ⟨input, .running stage⟩) pending state.stores .resolves).2 =
      state.stores.count (.loginFail input.email) +
        failing input.email (.login ⟨input, .running stage⟩) +
        if failsCheck lib input.email state (.await index .resolves) then 1
        else 0 := by
  have left := count_answer lib waits (.loginFail input.email) state.stores
    .resolves
  have entry := findCount_answer lib waits (.loginFail input.email)
    state.stores .resolves
  rw [left]
  rw [entry] at stays
  cases waits
  have goes := login_goes lib input state.stores stage
  change numberLeft _ _ _ + failing input.email (.login ⟨input,
    (login input stage).next (perform lib (login input stage).command
      state.stores).1⟩) = _
  generalize (login input stage).next (perform lib
    (login input stage).command state.stores).1 = progress at goes ⊢
  have one : failing input.email (.login ⟨input, .running .incrFail⟩) = 1 :=
    if_pos rfl
  cases goes with
  | lockedOut full =>
      simp only [failsCheck, found]
      rfl
  | passed below =>
      simp only [failsCheck, found]
      rfl
  | unknown nobody =>
      simp only [failsCheck, found, nobody, Option.isNone_none, one]
      rfl
  | refused user known error =>
      simp only [failsCheck, found, known, Option.isNone_some, Bool.and_false]
      rfl
  | known user known =>
      simp only [failsCheck, found, known, Option.isNone_some, Bool.and_false]
      rfl
  | right user same =>
      simp only [failsCheck, found, same, Bool.not_true, Bool.and_false]
      rfl
  | wrong user different =>
      simp only [failsCheck, found, different, Bool.not_false, one]
      rfl
  | overflow isOver => exact absurd fits isOver
  | first _ isFirst =>
      simp only [failsCheck, found, numberLeft, AccountCall.counter?,
        CounterRole.numberAfter, if_true, if_pos fits, one]
      rfl
  | counted _ notFirst =>
      simp only [failsCheck, found, numberLeft, AccountCall.counter?,
        CounterRole.numberAfter, if_true, if_pos fits, one]
      rfl
  | expired =>
      simp only [failsCheck, found, numberLeft, AccountCall.counter?,
        CounterRole.numberAfter, if_true]
      rfl
  | deleted user =>
      have absent : state.stores.findCount (.loginFail input.email) = none := by
        cases there : state.stores.findCount (.loginFail input.email) with
        | none => rfl
        | some entry =>
            have gone : countLeft (.login ⟨input, .running (.delFail user)⟩)
                (.loginFail input.email) state.stores = none := if_pos rfl
            have still := stays (Option.isSome_of_eq_some there)
            rw [gone] at still
            cases still
      have zero : state.stores.count (.loginFail input.email) = 0 := by
        simp only [AccountStores.count, absent]
        rfl
      simp only [failsCheck, found, numberLeft, AccountCall.counter?,
        CounterRole.numberAfter, if_true, zero]
      rfl
  | signed user accessToken =>
      simp only [failsCheck, found]
      rfl
  | logged user accessToken =>
      simp only [failsCheck, found]
      rfl

/-- Without failures of the services, a period in which the counter stays
adds exactly the failed checks. -/
theorem failures_step (within : WithinLimit email state)
    (stepped : (accountServer lib).step state action = some next)
    (resolves : action.Resolves)
    (stays : CounterStays lib (.loginFail email) state action) :
    failures email next = failures email state +
      if failsCheck lib email state action then 1 else 0 := by
  have still := stays next stepped
  unfold failures
  cases Server.step_cases stepped with
  | external event =>
      cases event with
      | tick elapsed =>
          have same : (state.stores.tick elapsed).count (.loginFail email) =
              state.stores.count (.loginFail email) :=
            AccountStores.count_tick_of_stays still
          exact congrArg (fun number => number +
            load (failing email) state.calls) same
  | requested input call accepted =>
      obtain ⟨_, rfl⟩ := accept_eq_some.mp accepted
      have none : failing email input.call = 0 := by cases input <;> rfl
      simp only [load_append, none]
      rfl
  | awaited index outcome call pending found waits =>
      cases resolves
      have exchanged := load_set (failing email) found
        ((accountServer lib).answer call pending state.stores .resolves).2
      have member := List.mem_of_getElem? found
      have light := le_load (failing email) member
      by_cases elsewhere : Elsewhere email call
      · have left := count_answer lib waits (.loginFail email) state.stores
          .resolves
        have sameNumber : ((accountServer lib).answer call pending state.stores
            .resolves).1.count (.loginFail email) =
              state.stores.count (.loginFail email) :=
          left.trans (numberLeft_of_elsewhere elsewhere)
        have nextElsewhere : Elsewhere email ((accountServer lib).answer call
            pending state.stores .resolves).2 := by
          intro input same
          rw [request_answer lib waits] at same
          exact elsewhere input same
        have noFailure := failing_of_elsewhere elsewhere
        have noNext := failing_of_elsewhere nextElsewhere
        rw [failsCheck_of_elsewhere found elsewhere]
        simp only [sameNumber, Bool.false_eq_true, if_false]
        omega
      · unfold Elsewhere at elsewhere
        push Not at elsewhere
        obtain ⟨input, same, rfl⟩ := elsewhere
        cases call with
        | login call =>
            obtain ⟨stage, atStage, _⟩ := (hosts_login lib).running waits
            cases same
            generalize call.input = input at *
            subst call
            have fits : state.stores.count (.loginFail input.email) + 1 <
                2 ^ 63 := by
              unfold WithinLimit at within
              simp only [loginMaxFails] at within
              omega
            have answered := failures_login lib found waits fits still
            simp only
            omega
        | _ => cases same

/-- The failed checks of a period are failures at its end. -/
theorem failedChecks_le_failures {users : Users} {origin : Instant}
    {older newer : AccountHistory} {middle : AccountState}
    (before : Trace (accountServer lib).step (AccountState.init users origin)
      older middle)
    (period : Trace (accountServer lib).step middle newer state)
    (passesBelow : StepsMeet (PassesBelow email) (newer ++ older))
    (resolve : StepsMeet (fun _ action => action.Resolves) newer)
    (stays : StepsMeet (CounterStays lib (.loginFail email)) newer) :
    failedChecks lib email newer ≤ failures email state := by
  induction period with
  | nil => exact Nat.zero_le _
  | @snoc earlier reached after action runBefore stepped inductionHypothesis =>
      obtain ⟨_, passesEarlier⟩ := stepsMeet_cons.mp passesBelow
      obtain ⟨resolves, resolveEarlier⟩ := stepsMeet_cons.mp resolve
      obtain ⟨staysHere, staysEarlier⟩ := stepsMeet_cons.mp stays
      have counted := inductionHypothesis passesEarlier resolveEarlier
        staysEarlier
      have within : WithinLimit email reached :=
        .of_run (before.append runBefore) passesEarlier
      have added := failures_step within stepped resolves staysHere
      rw [failedChecks_cons, added]
      omega

end Steps

/-! ## The lockout -/

/-- In a run in which a login passes the comparison only while the limit has
room for it and for the others that have passed, a period without failures of
the services in which the counter stays has at most five failed checks. -/
theorem failedChecks_le_maxFails {lib : Libraries} {email : Text}
    {users : Users} {origin : Instant} {older newer : AccountHistory}
    {middle state : AccountState}
    (before : Trace (accountServer lib).step (AccountState.init users origin)
      older middle)
    (period : Trace (accountServer lib).step middle newer state)
    (passesBelow : StepsMeet (PassesBelow email) (newer ++ older))
    (resolve : StepsMeet (fun _ action => action.Resolves) newer)
    (stays : StepsMeet (CounterStays lib (.loginFail email)) newer) :
    failedChecks lib email newer ≤ loginMaxFails := by
  have counted := failedChecks_le_failures before period passesBelow resolve
    stays
  have within : WithinLimit email state :=
    .of_run (before.append period) passesBelow
  exact counted.trans (failures_le within)

def guessesWith (password : String) : AccountAction :=
  .request (.login ⟨"a@x.io".toList, password.toList, none, 1⟩)

def guesses : AccountAction := guessesWith "guess"

/-- Two logins at a time with wrong passwords, and later four more, of which
the last one finds the limit reached. -/
def overlappingLogins : List AccountAction :=
  [guessesWith "first", guessesWith "second"] ++
    ((List.range 2).map fun index => .await index .resolves) ++
    ((List.range 2).map fun index => .await index .resolves) ++
    [.await 1 .resolves, .await 0 .resolves, .await 1 .resolves,
      .external (.tick 1000), guessesWith "third", guessesWith "fourth",
      guessesWith "fifth"] ++
    ((List.range 3).map fun index => .await (index + 2) .resolves) ++
    ((List.range 3).map fun index => .await (index + 2) .resolves) ++
    ((List.range 3).map fun index => .await (index + 2) .resolves) ++
    [guessesWith "sixth", .await 5 .resolves]

private theorem overlappingLogins_enabled :
    (replay (accountServer .plain).step [] nobody overlappingLogins).isSome =
      true := by
  decide +kernel

theorem failedChecks_le_maxFails_overlapping :
    failedChecks .plain "a@x.io".toList
      ((replay (accountServer .plain).step [] nobody overlappingLogins).get
        overlappingLogins_enabled).1 ≤ loginMaxFails :=
  @failedChecks_le_maxFails .plain "a@x.io".toList _ _ [] _ nobody _ Trace.nil
    (Trace.of_replay_get overlappingLogins overlappingLogins_enabled)
    (by decide +kernel) (by decide +kernel) (by decide +kernel)

/-- Six logins that compare the counter with the limit before any of them has
failed. -/
def sixGuesses : List AccountAction :=
  List.replicate 6 guesses ++
    ((List.range 6).map fun index => .await index .resolves) ++
    (List.range 6).map fun index => .await index .resolves

/-- Six checks fail in one period. -/
theorem six_checks_fail :
    ∃ history state,
      Trace (accountServer .plain).step nobody history state ∧
      StepsMeet (fun _ action => action.Resolves) history ∧
      StepsMeet (CounterStays .plain (.loginFail "a@x.io".toList)) history ∧
      failedChecks .plain "a@x.io".toList history = 6 := by
  obtain ⟨history, state, run, holds⟩ :=
    Trace.exists_of_replay (accountServer .plain).step nobody sixGuesses
      (fun result => decide
        (StepsMeet (fun (_ : AccountState) (action : AccountAction) =>
            action.Resolves) result.1 ∧
        StepsMeet (CounterStays .plain (.loginFail "a@x.io".toList)) result.1 ∧
        failedChecks .plain "a@x.io".toList result.1 = 6))
      (by decide +kernel)
  exact ⟨history, state, run, of_decide_eq_true holds⟩

end ConcertTicketing.Accounts
