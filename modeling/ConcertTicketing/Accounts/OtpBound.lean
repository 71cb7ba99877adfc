import ConcertTicketing.Accounts.OtpFreshness

/-!
# The codes of one registration

`register`, `resendOtp` and `verifyOtp` for one address, one request at a time.
Every code comes with three attempts, and a resent one takes a unit of the
resend counter; only a registration that finds the account pending stores a
code for nothing.
-/

namespace ConcertTicketing.Accounts

open Redis

def AccountRequest.otpEmail? : AccountRequest → Option Text
  | .register input => some input.email
  | .verifyOtp input => some input.email
  | .resendOtp input => some input.email
  | _ => none

/-- Nothing but these requests for the address, and no failures. -/
def OtpRequestsOnly (email : Text) (_ : AccountState) : AccountAction → Prop
  | .external _ => True
  | .request input => input.otpEmail? = some email
  | .await _ outcome => outcome = .resolves

instance (email : Text) (state : AccountState) :
    (action : AccountAction) →
      Decidable (OtpRequestsOnly email state action)
  | .external _ => inferInstanceAs (Decidable True)
  | .request _ => inferInstanceAs (Decidable (_ = _))
  | .await _ _ => inferInstanceAs (Decidable (_ = _))

/-- The account that a registration is about to look up. -/
def looksUp? (state : AccountState) : AccountAction → Option User
  | .await index _ =>
      match state.calls[index]? with
      | some (.register ⟨input, .running .findUser⟩) =>
          state.stores.users.findByEmail input.email
      | _ => none
  | _ => none

/-- No registration finds the account pending. -/
def RegistersNoPending (state : AccountState) (action : AccountAction) :
    Prop :=
  ∀ user ∈ looksUp? state action, user.status ≠ .pendingVerify

instance (state : AccountState) (action : AccountAction) :
    Decidable (RegistersNoPending state action) :=
  inferInstanceAs (Decidable (∀ _ ∈ looksUp? state action, _))

/-- A step does not let the counter lapse. -/
def KeepsCounter (key : CounterKey) (state : AccountState) :
    AccountAction → Prop
  | .external (.tick elapsed) =>
      (state.stores.findCount key).isSome →
        ((state.stores.tick elapsed).findCount key).isSome
  | _ => True

instance (key : CounterKey) (state : AccountState) :
    (action : AccountAction) → Decidable (KeepsCounter key state action)
  | .external (.tick _) => inferInstanceAs (Decidable (_ → _))
  | .request _ => inferInstanceAs (Decidable True)
  | .await _ _ => inferInstanceAs (Decidable True)

/-- The wrong codes that may still be compared with a stored code. -/
def attemptsLeft (stored : StoredCode) : Nat :=
  match stored.attempts with
  | none => 0
  | some attempts => (otpMaxAttempts - attempts).toNat

private theorem attemptsLeft_generated (otp : Otp) (attempts : Nat) :
    attemptsLeft (.generated [] otp attempts) = 3 - attempts := by
  simp only [attemptsLeft, StoredCode.generated, otpMaxAttempts]
  omega

/-- The attempts of the code that is under the key. -/
def storedBudget (email : Text) (stores : AccountStores) : Nat :=
  match stores.find (.otp email) with
  | none => 0
  | some entry => attemptsLeft ((otpCheck email).decode entry.value)

/-- The attempts of the code that a call is about to put under the key. -/
def AccountCall.codeDue : AccountCall → Option Nat
  | .register ⟨_, .running (.storeOtp _)⟩ => some 3
  | .resendOtp ⟨_, .running (.expireResend resendCount)⟩ =>
      if otpMaxResends < resendCount then none else some 3
  | .resendOtp ⟨_, .running .storeOtp⟩ => some 3
  | .verifyOtp ⟨_, .running (.check .delExhausted)⟩ => some 0
  | .verifyOtp ⟨_, .running (.check (.ttl renewed))⟩ =>
      some (attemptsLeft renewed)
  | .verifyOtp ⟨_, .running (.check (.writeBack renewed _))⟩ =>
      some (attemptsLeft renewed)
  | _ => none

/-- Three attempts for every resend that is left, and for the first code of an
unknown address, and those of the code that is due or stored. -/
def budget (email : Text) (due : Option Nat) (stores : AccountStores) : Nat :=
  3 * (otpMaxResends - stores.count (.otpResend email)) +
    (if stores.users.findByEmail email = none then 3 else 0) +
    due.getD (storedBudget email stores)

/-! ## What a call knows -/

/-- The call has seen the account, or a code for it. -/
def AccountCall.needsUser : AccountCall → Bool
  | .register ⟨_, .running (.storeOtp _)⟩ => true
  | .resendOtp ⟨_, .running stage⟩ =>
      match stage with
      | .existsLock => false
      | .findUser => false
      | _ => true
  | .verifyOtp ⟨_, .running (.check stage)⟩ =>
      match stage with
      | .existsLock => false
      | .getStored => false
      | _ => true
  | _ => false

/-- The call is on its way to store a new code. -/
def AccountCall.willStore : AccountCall → Bool
  | .register ⟨_, .running (.storeOtp _)⟩ => true
  | .resendOtp ⟨_, .running stage⟩ =>
      match stage with
      | .existsLock => false
      | .setLock => false
      | _ => true
  | _ => false

/-- An unknown address has no code and no lock, and nothing is on its way to
give it one; a call that will store a code has found no lock. -/
structure Sound (email : Text) (stores : AccountStores) (call : AccountCall) :
    Prop where
  unknown : stores.users.findByEmail email = none →
    stores.find (.otp email) = none ∧ stores.find (.otpLock email) = none ∧
      call.needsUser = false
  unlocked : call.willStore = true → stores.find (.otpLock email) = none

/-- A step keeps what a call knows, and pays for the wrong codes it
compares. -/
structure Pays (email : Text) (stores after : AccountStores)
    (call next : AccountCall) (wrong : Nat) : Prop where
  sound : Sound email after next
  within : budget email next.codeDue after + wrong ≤
    budget email call.codeDue stores

private theorem count_set (lib : Libraries) (key : TextKey) (value : Text)
    (ttlSeconds : Option Int) (stores : AccountStores) (counter : CounterKey) :
    (perform lib (.set key value ttlSeconds) stores).2.count counter =
      stores.count counter := by
  have same : (perform lib (.set key value ttlSeconds) stores).2.findCount
      counter = stores.findCount counter := findCount_perform lib _ stores _
  simp only [AccountStores.count, same]

private theorem count_expire (lib : Libraries) (key counter : CounterKey)
    (stores : AccountStores) :
    (perform lib (.expire key 900) stores).2.count counter =
      stores.count counter := by
  have left : (perform lib (.expire key 900) stores).2.findCount counter =
      countAfter (.expire key 900) stores counter :=
    findCount_perform lib _ stores _
  rw [countAfter_expire] at left
  by_cases same : key = counter
  · subst key
    simp only [AccountStores.count, left, if_true, CounterRole.countAfter]
    cases stores.findCount counter with
    | none => rfl
    | some entry => rfl
  · simp only [AccountStores.count, left, if_neg same]

private theorem storedBudget_store (lib : Libraries) (email : Text) (otp : Otp)
    (stores : AccountStores) :
    storedBudget email (perform lib ((otpCheck email).store [] otp) stores).2 =
      3 := by
  have live : (perform lib ((otpCheck email).store [] otp) stores).2.find
      (.otp email) = some ⟨(otpCheck email).encode (.generated [] otp 0),
        some (stores.now + (otpCheck email).codeTtl * 1000)⟩ := by
    rw [find_perform]
    have left := textAfter_store (.registration email) (.registration email) []
      otp stores
    rw [if_pos rfl] at left
    exact left
  have readBack := otpCheck_readsBack email otp 0
  simp only [storedBudget, live, readBack]
  exact attemptsLeft_generated otp 0

namespace Pays

variable {email : Text} {stores : AccountStores} {call next : AccountCall}

/-- The stores stay as they are. -/
theorem same (sound : Sound email stores next)
    (due : next.codeDue = call.codeDue) :
    Pays email stores stores call next 0 := by
  refine ⟨sound, ?_⟩
  simp only [budget, due, Nat.add_zero, le_refl]

end Pays

/-- A call that is on no way to store anything knows nothing special. -/
theorem Sound.forget {email : Text} {stores : AccountStores}
    {call next : AccountCall} (sound : Sound email stores call)
    (needs : next.needsUser = false) (will : next.willStore = false) :
    Sound email stores next := by
  refine ⟨?_, ?_⟩
  · intro unknown
    obtain ⟨noCode, noLock, _⟩ := sound.unknown unknown
    exact ⟨noCode, noLock, needs⟩
  · intro stores
    rw [will] at stores
    cases stores

/-- A call that needs the account has it. -/
theorem Sound.of_needs {email : Text} {stores after : AccountStores}
    {call next : AccountCall} (sound : Sound email stores call)
    (sameUsers : after.users = stores.users) (needs : call.needsUser = true)
    (will : next.willStore = false) : Sound email after next := by
  refine ⟨?_, ?_⟩
  · intro unknown
    rw [sameUsers] at unknown
    have forgets := (sound.unknown unknown).2.2
    rw [needs] at forgets
    cases forgets
  · intro stores
    rw [will] at stores
    cases stores

/-- A call that will store a code goes on, and the lock stays away. -/
theorem Sound.goes_on {email : Text} {stores after : AccountStores}
    {call next : AccountCall} (sound : Sound email stores call)
    (sameUsers : after.users = stores.users)
    (sameLock : after.find (.otpLock email) = stores.find (.otpLock email))
    (needs : call.needsUser = true) (will : call.willStore = true) :
    Sound email after next := by
  refine ⟨?_, ?_⟩
  · intro unknown
    rw [sameUsers] at unknown
    have forgets := (sound.unknown unknown).2.2
    rw [needs] at forgets
    cases forgets
  · intro _
    rw [sameLock]
    exact sound.unlocked will

private theorem storedBudget_congr {email : Text} {stores after : AccountStores}
    (same : after.find (.otp email) = stores.find (.otp email)) :
    storedBudget email after = storedBudget email stores := by
  simp only [storedBudget, same]

/-- The stores may change as long as the budget and the account do not. -/
theorem Pays.of_due {email : Text} {stores after : AccountStores}
    {call next : AccountCall} {wrong : Nat} (sound : Sound email after next)
    (sameUsers : after.users = stores.users)
    (sameCount : after.count (.otpResend email) =
      stores.count (.otpResend email))
    (due : next.codeDue.getD (storedBudget email after) + wrong ≤
      call.codeDue.getD (storedBudget email stores)) :
    Pays email stores after call next wrong := by
  refine ⟨sound, ?_⟩
  simp only [budget, sameUsers, sameCount]
  omega

/-- A new code is stored, which the call has paid for. -/
theorem pays_store {lib : Libraries} {email : Text} {otp : Otp}
    {stores : AccountStores} {call next : AccountCall}
    (sound : Sound email stores call) (needed : call.needsUser = true)
    (due : call.codeDue = some 3) (noMoreDue : next.codeDue = none)
    (will : next.willStore = false) :
    Pays email stores (perform lib ((otpCheck email).store [] otp) stores).2
      call next 0 := by
  have sameUsers : (perform lib ((otpCheck email).store [] otp)
      stores).2.users = stores.users := users_perform lib _ stores
  refine .of_due (sound.of_needs sameUsers needed will) sameUsers
    (count_set lib _ _ _ _ _) ?_
  rw [due, noMoreDue, Option.getD_some, Option.getD_none,
    storedBudget_store]

private theorem pays_register {lib : Libraries} {input : RegisterInput}
    {stage : RegisterStage} {stores : AccountStores}
    (sound : Sound input.email stores (.register ⟨input, .running stage⟩))
    (noPending : stage = .findUser →
      ∀ user ∈ stores.users.findByEmail input.email,
        user.status ≠ .pendingVerify) :
    Pays input.email stores
      (perform lib (register input stage).command stores).2
      (.register ⟨input, .running stage⟩)
      (.register ⟨input, (register input stage).next
        (perform lib (register input stage).command stores).1⟩) 0 := by
  cases stage with
  | findUser =>
      cases found : stores.users.findByEmail input.email with
      | none =>
          simp only [register, perform, found]
          exact .same (sound.forget rfl rfl) rfl
      | some user =>
          have notPending := noPending rfl user found
          simp only [register, perform, found, if_neg notPending]
          exact .same (sound.forget rfl rfl) rfl
  | hashPassword =>
      simp only [register, perform]
      exact .same (sound.forget rfl rfl) rfl
  | createUser passwordHash =>
      simp only [register, perform]
      cases created : stores.users.create (input.newUser passwordHash) with
      | none =>
          simp only [Bool.false_eq_true, if_false]
          exact .same (sound.forget rfl rfl) rfl
      | some users =>
          simp only [if_true]
          have unknown : stores.users.findByEmail input.email = none :=
            Users.absent_of_create created
          have known : users.findByEmail input.email =
              some (stores.users.newRow (input.newUser passwordHash)) := by
            rw [Users.findByEmail_create created]
            exact if_pos rfl
          refine ⟨⟨?_, ?_⟩, ?_⟩
          · intro stillUnknown
            rw [known] at stillUnknown
            cases stillUnknown
          · intro _
            exact (sound.unknown unknown).2.1
          · have sameCount : ({ stores with users := users } :
                AccountStores).count (.otpResend input.email) =
                  stores.count (.otpResend input.email) := rfl
            simp only [budget, AccountCall.codeDue, Option.getD_some,
              Option.getD_none, unknown, known, sameCount, if_true]
            simp only [reduceCtorEq, if_false]
            omega
  | storeOtp message =>
      exact pays_store sound rfl rfl rfl rfl

/-- What a resend owes after its number is known. -/
theorem codeDue_afterResendCount (input : ResendOtpInput) (resendCount : Nat) :
    (AccountCall.resendOtp ⟨input, afterResendCount resendCount⟩).codeDue =
      if otpMaxResends < resendCount then none else some 3 := by
  unfold afterResendCount
  by_cases many : otpMaxResends < resendCount
  · rw [if_pos many, if_pos many]
    rfl
  · rw [if_neg many, if_neg many]
    rfl

/-- A resend is counted, or the counter does not fit. -/
theorem pays_incrResend {lib : Libraries} {input : ResendOtpInput}
    {stores : AccountStores}
    (sound : Sound input.email stores
      (.resendOtp ⟨input, .running .incrResend⟩)) :
    Pays input.email stores
      (perform lib (resendOtp input .incrResend).command stores).2
      (.resendOtp ⟨input, .running .incrResend⟩)
      (.resendOtp ⟨input, (resendOtp input .incrResend).next
        (perform lib (resendOtp input .incrResend).command stores).1⟩) 0 := by
  have sameLock : (perform lib (.incr (.otpResend input.email)) stores).2.find
      (.otpLock input.email) = stores.find (.otpLock input.email) :=
    find_perform lib _ stores _
  have sameCode : (perform lib (.incr (.otpResend input.email)) stores).2.find
      (.otp input.email) = stores.find (.otp input.email) :=
    find_perform lib _ stores _
  have sameUsers : (perform lib (.incr (.otpResend input.email))
      stores).2.users = stores.users := users_perform lib _ stores
  have counted : (perform lib (.incr (.otpResend input.email))
      stores).2.findCount (.otpResend input.email) =
        countAfter (.incr (.otpResend input.email)) stores
          (.otpResend input.email) := findCount_perform lib _ stores _
  have reply := incr_reply lib (.otpResend input.email) stores
  simp only [resendOtp]
  generalize perform lib (.incr (.otpResend input.email)) stores = answer
    at sameLock sameCode sameUsers counted reply ⊢
  obtain ⟨answered, after⟩ := answer
  simp only at sameLock sameCode sameUsers counted reply ⊢
  subst answered
  have soundNext : ∀ next, Sound input.email after next := fun _ =>
    sound.goes_on sameUsers sameLock rfl rfl
  have sameBudget : storedBudget input.email after =
      storedBudget input.email stores := storedBudget_congr sameCode
  by_cases fits : stores.count (.otpResend input.email) + 1 < 2 ^ 63
  · have number : after.count (.otpResend input.email) =
        stores.count (.otpResend input.email) + 1 := by
      simp only [countAfter, true_and, if_pos fits] at counted
      change ((after.findCount _).map Entry.value).getD 0 = _
      rw [counted]
      rfl
    have due : ∀ next,
        next.codeDue = (if otpMaxResends <
          stores.count (.otpResend input.email) + 1 then none else some 3) →
        Pays input.email stores after
          (.resendOtp ⟨input, .running .incrResend⟩) next 0 := by
      intro next due
      refine ⟨soundNext next, ?_⟩
      have earlier : (AccountCall.resendOtp
          ⟨input, .running .incrResend⟩).codeDue = none := rfl
      simp only [budget, due, earlier, number, sameUsers, sameBudget,
        Option.getD_none]
      by_cases many : otpMaxResends <
          stores.count (.otpResend input.email) + 1
      · simp only [if_pos many, Option.getD_none]
        omega
      · simp only [if_neg many, Option.getD_some]
        omega
    simp only [if_pos fits]
    by_cases first : stores.count (.otpResend input.email) + 1 = 1
    · simp only [if_pos first]
      exact due _ rfl
    · simp only [if_neg first]
      exact due _ (codeDue_afterResendCount input _)
  · have number : after.count (.otpResend input.email) =
        stores.count (.otpResend input.email) := by
      simp only [countAfter, true_and, if_neg fits] at counted
      change ((after.findCount _).map Entry.value).getD 0 = _
      rw [counted]
      rfl
    simp only [if_neg fits]
    refine ⟨soundNext _, ?_⟩
    simp only [budget, AccountCall.codeDue, number, sameUsers, sameBudget,
      Nat.add_zero, le_refl]

private theorem pays_resendOtp {lib : Libraries} {input : ResendOtpInput}
    {stage : ResendOtpStage} {stores : AccountStores}
    (sound : Sound input.email stores (.resendOtp ⟨input, .running stage⟩)) :
    Pays input.email stores
      (perform lib (resendOtp input stage).command stores).2
      (.resendOtp ⟨input, .running stage⟩)
      (.resendOtp ⟨input, (resendOtp input stage).next
        (perform lib (resendOtp input stage).command stores).1⟩) 0 := by
  cases stage with
  | existsLock =>
      have reply : stores.redis.existsKey (.otpLock input.email) =
          (stores.find (.otpLock input.email)).isSome := rfl
      simp only [resendOtp, perform, reply]
      cases lock : stores.find (.otpLock input.email) with
      | none =>
          refine .same ⟨?_, fun _ => lock⟩ rfl
          intro unknown
          obtain ⟨noCode, noLock, _⟩ := sound.unknown unknown
          exact ⟨noCode, noLock, rfl⟩
      | some entry => exact .same (sound.forget rfl rfl) rfl
  | findUser =>
      simp only [resendOtp, perform]
      by_cases pendingUser : (stores.users.findByEmail input.email).map
          User.status = some .pendingVerify
      · rw [if_pos pendingUser]
        refine .same ⟨?_, fun _ => sound.unlocked rfl⟩ rfl
        intro unknown
        rw [unknown] at pendingUser
        cases pendingUser
      · rw [if_neg pendingUser]
        exact .same (sound.forget rfl rfl) rfl
  | incrResend => exact pays_incrResend sound
  | expireResend resendCount =>
      have sameUsers : (perform lib (.expire (.otpResend input.email)
          otpLockTtl) stores).2.users = stores.users :=
        users_perform lib _ stores
      refine .of_due (sound.goes_on sameUsers (find_perform lib _ stores _)
        rfl rfl) sameUsers (count_expire lib _ _ stores) ?_
      have due := codeDue_afterResendCount input resendCount
      have sameBudget : storedBudget input.email (perform lib
          (.expire (.otpResend input.email) otpLockTtl) stores).2 =
            storedBudget input.email stores :=
        storedBudget_congr (find_perform lib _ stores _)
      simp only [resendOtp, due, sameBudget]
      exact le_refl _
  | setLock =>
      have sameUsers : (perform lib (.set (.otpLock input.email) "1".toList
          (some otpLockTtl)) stores).2.users = stores.users :=
        users_perform lib _ stores
      refine .of_due (sound.of_needs sameUsers rfl rfl) sameUsers
        (count_set lib _ _ _ _ _) ?_
      exact (storedBudget_congr (find_perform lib _ stores _)).le
  | storeOtp => exact pays_store sound rfl rfl rfl rfl

/-- What is read is what the budget counts. -/
theorem storedBudget_of_stored {email : Text} {stores : AccountStores}
    {stored : StoredCode}
    (found : (otpCheck email).stored? stores = some stored) :
    storedBudget email stores = attemptsLeft stored ∧
      stores.find (.otp email) ≠ none := by
  simp only [CodeCheck.stored?, Option.map_eq_some_iff] at found
  obtain ⟨entry, kept, rfl⟩ := found
  have live : stores.find (.otp email) = some entry :=
    (Option.filter_eq_some_iff.mp kept).1
  refine ⟨?_, ?_⟩
  · simp only [storedBudget, live]
  · rw [live]
    exact Option.some_ne_none entry

/-- A check takes a step. -/
theorem pays_check {lib : Libraries} {state : AccountState} {index : Nat}
    {input : VerifyOtpInput} {stage : CheckStage}
    (found : state.calls[index]? =
      some (AccountCall.verifyOtp ⟨input, .running (.check stage)⟩))
    (sound : Sound input.email state.stores
      (.verifyOtp ⟨input, .running (.check stage)⟩))
    (wellStored : WellStored input.email state) :
    Pays input.email state.stores
      (perform lib ((otpCheck input.email).step input.otp stage).command
        state.stores).2
      (.verifyOtp ⟨input, .running (.check stage)⟩)
      (.verifyOtp ⟨input, verifyOtpAfter
        ((otpCheck input.email).goOn lib input.otp stage state.stores)⟩)
      (if comparesWrong (.registration input.email) state
        (.await index .resolves) then 1 else 0) := by
  have plays : (AccountCall.verifyOtp ⟨input, .running (.check stage)⟩).role? =
      some (.registration input.email, .checks input.otp stage) := rfl
  have renews := wellStored.renews _ (List.mem_of_getElem? found) _ _ plays
  have goes := (otpCheck input.email).goOn_cases lib input.otp stage
    state.stores
  have left := find_perform lib
    ((otpCheck input.email).step input.otp stage).command state.stores
    (.otp input.email)
  have written := textAfter_step (.registration input.email)
    (.registration input.email) input.otp stage state.stores
  rw [if_pos rfl] at written
  have code : (perform lib ((otpCheck input.email).step input.otp
      stage).command state.stores).2.find (.otp input.email) =
        (CodeRole.checks input.otp stage).codeAfter (otpCheck input.email)
          state.stores := left.trans written
  generalize (otpCheck input.email).goOn lib input.otp stage state.stores =
    progress at goes ⊢
  cases goes with
  | locked live =>
      rw [comparesWrong_of_role found (by rw [plays]; nofun)]
      exact .same (sound.forget rfl rfl) rfl
  | unlocked free =>
      rw [comparesWrong_of_role found (by rw [plays]; nofun)]
      exact .same (sound.forget rfl rfl) rfl
  | missing nothing =>
      rw [comparesWrong_of_read found plays]
      · exact .same (sound.forget rfl rfl) rfl
      · intro stored read
        have noRead : (otpCheck input.email).stored? state.stores =
            some stored := read
        rw [nothing] at noRead
        cases noRead
  | right stored read same =>
      rw [comparesWrong_of_read found plays]
      · exact .same (sound.forget rfl rfl) rfl
      · intro other readToo
        have sameRead : (otpCheck input.email).stored? state.stores =
            some other := readToo
        rw [read] at sameRead
        cases sameRead
        exact same
  | lastFailure stored read wrong isOver =>
      rw [comparesWrong_of_wrong found plays read wrong]
      obtain ⟨otp, attempts, rfl, below⟩ := wellStored.read read
      obtain ⟨paid, live⟩ := storedBudget_of_stored read
      refine .of_due ⟨?_, nofun⟩ rfl rfl ?_
      · intro unknown
        exact absurd (sound.unknown unknown).1 live
      · simp only [verifyOtpAfter, AccountCall.codeDue, Option.getD_some,
          Option.getD_none, paid, attemptsLeft_generated, if_true]
        omega
  | failure stored read wrong notYet =>
      rw [comparesWrong_of_wrong found plays read wrong]
      obtain ⟨otp, attempts, rfl, below⟩ := wellStored.read read
      obtain ⟨paid, live⟩ := storedBudget_of_stored read
      refine .of_due ⟨?_, nofun⟩ rfl rfl ?_
      · intro unknown
        exact absurd (sound.unknown unknown).1 live
      · simp only [verifyOtpAfter, AccountCall.codeDue, Option.getD_some,
          Option.getD_none, paid, StoredCode.afterFailure_generated,
          attemptsLeft_generated, if_true]
        omega
  | deleted =>
      rw [comparesWrong_of_role found (by rw [plays]; nofun)]
      refine .of_due (sound.of_needs rfl rfl rfl) rfl rfl ?_
      have gone : storedBudget input.email (perform lib
          ((otpCheck input.email).step input.otp .delExhausted).command
          state.stores).2 = 0 := by
        simp only [storedBudget, code]
        rfl
      rw [gone]
      exact le_refl _
  | lockSet =>
      rw [comparesWrong_of_role found (by rw [plays]; nofun)]
      refine .of_due (sound.of_needs (users_perform lib _ _) rfl rfl)
        (users_perform lib _ _) (count_set lib _ _ _ _ _) ?_
      exact (storedBudget_congr code).le
  | timed renewed =>
      rw [comparesWrong_of_role found (by rw [plays]; nofun)]
      exact .of_due (sound.of_needs rfl rfl rfl) rfl rfl (le_refl _)
  | wroteBack renewed ttlSeconds error =>
      rw [comparesWrong_of_role found (by rw [plays]; nofun)]
      refine .of_due (sound.of_needs (users_perform lib _ _) rfl rfl)
        (users_perform lib _ _) (count_set lib _ _ _ _ _) ?_
      obtain ⟨⟨otp, attempts, rfl, _⟩, _⟩ := renews
      have paid : storedBudget input.email (perform lib
          ((otpCheck input.email).step input.otp (.writeBack
            (.generated [] otp attempts) ttlSeconds)).command
          state.stores).2 = attemptsLeft (.generated [] otp attempts) := by
        simp only [storedBudget, code, CodeRole.codeAfter]
        rw [otpCheck_readsBack]
      rw [paid]
      exact le_refl _

private theorem pays_verifyOtp {lib : Libraries} {state : AccountState}
    {index : Nat} {input : VerifyOtpInput} {stage : VerifyOtpStage}
    (found : state.calls[index]? =
      some (AccountCall.verifyOtp ⟨input, .running stage⟩))
    (sound : Sound input.email state.stores
      (.verifyOtp ⟨input, .running stage⟩))
    (wellStored : WellStored input.email state) :
    Pays input.email state.stores
      (perform lib (verifyOtp input stage).command state.stores).2
      (.verifyOtp ⟨input, .running stage⟩)
      (.verifyOtp ⟨input, (verifyOtp input stage).next
        (perform lib (verifyOtp input stage).command state.stores).1⟩)
      (if comparesWrong (.registration input.email) state
        (.await index .resolves) then 1 else 0) := by
  cases stage with
  | check stage => exact pays_check found sound wellStored
  | activate =>
      rw [comparesWrong_of_role found nofun]
      have lookup : (state.stores.users.activate input.email).findByEmail
          input.email = none ↔ state.stores.users.findByEmail input.email = none := by
        rw [Users.findByEmail_activate, Option.map_eq_none_iff]
      refine ⟨⟨?_, nofun⟩, ?_⟩
      · intro unknown
        obtain ⟨noCode, noLock, _⟩ := sound.unknown (lookup.mp unknown)
        exact ⟨noCode, noLock, rfl⟩
      · have sameUnknown : (if (state.stores.users.activate input.email).findByEmail
            input.email = none then 3 else 0) =
              if state.stores.users.findByEmail input.email = none then 3 else 0 :=
          if_congr lookup rfl rfl
        exact (congrArg (fun first => 3 * (otpMaxResends -
          state.stores.count (.otpResend input.email)) + first +
            storedBudget input.email state.stores) sameUnknown).le
  | delOtp =>
      rw [comparesWrong_of_role found nofun]
      have gone : (perform lib (.del (.otp input.email))
          state.stores).2.find (.otp input.email) = none := by
        rw [find_perform]
        exact if_pos rfl
      have sameLock : (perform lib (.del (.otp input.email))
          state.stores).2.find (.otpLock input.email) =
            state.stores.find (.otpLock input.email) :=
        find_perform lib _ state.stores _
      refine .of_due ⟨?_, nofun⟩ rfl rfl ?_
      · intro unknown
        obtain ⟨_, noLock, _⟩ := sound.unknown unknown
        exact ⟨gone, sameLock.trans noLock, rfl⟩
      · have nothing : storedBudget input.email
            (perform lib (.del (.otp input.email)) state.stores).2 = 0 := by
          simp only [storedBudget, gone]
        change storedBudget input.email
          (perform lib (.del (.otp input.email)) state.stores).2 + 0 ≤
            storedBudget input.email state.stores
        rw [nothing]
        exact Nat.zero_le _

/-! ## Runs -/

/-- A call that has ended knows nothing and owes nothing. -/
theorem ended_call {call : AccountCall} (ended : call.pending = none) :
    call.needsUser = false ∧ call.willStore = false ∧ call.codeDue = none := by
  cases call with
  | register call =>
      obtain ⟨input, progress⟩ := call
      cases progress with
      | running stage => cases ended
      | _ => exact ⟨rfl, rfl, rfl⟩
  | verifyOtp call =>
      obtain ⟨input, progress⟩ := call
      cases progress with
      | running stage => cases ended
      | _ => exact ⟨rfl, rfl, rfl⟩
  | resendOtp call =>
      obtain ⟨input, progress⟩ := call
      cases progress with
      | running stage => cases ended
      | _ => exact ⟨rfl, rfl, rfl⟩
  | login call => exact ⟨rfl, rfl, rfl⟩
  | requestEmailChange call => exact ⟨rfl, rfl, rfl⟩
  | verifyEmailChange call => exact ⟨rfl, rfl, rfl⟩

/-- A new call knows nothing and owes nothing. -/
theorem new_call (request : AccountRequest) :
    request.call.needsUser = false ∧ request.call.willStore = false ∧
      request.call.codeDue = none := by
  cases request <;> exact ⟨rfl, rfl, rfl⟩

/-- What holds in every state of a run of requests for the address. -/
structure Orderly (lib : Libraries) (email : Text) (state : AccountState) :
    Prop where
  about : ∀ call ∈ state.calls, call.request.otpEmail? = some email
  unknown : state.stores.users.findByEmail email = none →
    state.stores.find (.otp email) = none ∧
      state.stores.find (.otpLock email) = none
  sound : ∀ call ∈ state.calls, Sound email state.stores call
  alone : (accountServer lib).Alone state
  wellStored : WellStored email state

section Runs

variable {lib : Libraries} {email : Text} {state next : AccountState}
  {action : AccountAction}

/-- The pending command of a call ends. -/
theorem Orderly.pays (orderly : Orderly lib email state) {index : Nat}
    {call : AccountCall} {pending : Awaited AccountCall}
    (found : state.calls[index]? = some call)
    (waits : call.pending = some pending)
    (noPending : RegistersNoPending state (.await index .resolves)) :
    Pays email state.stores
      ((accountServer lib).answer call pending state.stores .resolves).1 call
      ((accountServer lib).answer call pending state.stores .resolves).2
      (if comparesWrong (.registration email) state (.await index .resolves)
        then 1 else 0) := by
  have member := List.mem_of_getElem? found
  have about := orderly.about call member
  have sound := orderly.sound call member
  cases call with
  | register call =>
      obtain ⟨stage, atStage, rfl⟩ := (hosts_register lib).running waits
      have sameEmail : call.input.email = email := Option.some.inj about
      subst email
      generalize call.input = input at *
      subst call
      have rightCode : comparesWrong (.registration input.email) state
          (.await index .resolves) = false := by
        refine comparesWrong_of_role found ?_
        intro otp
        cases stage <;> nofun
      rw [rightCode]
      refine pays_register sound ?_
      intro atFindUser user known
      subst stage
      refine noPending user ?_
      simp only [looksUp?, found]
      exact known
  | verifyOtp call =>
      obtain ⟨stage, atStage, rfl⟩ := (hosts_verifyOtp lib).running waits
      have sameEmail : call.input.email = email := Option.some.inj about
      subst email
      generalize call.input = input at *
      subst call
      exact pays_verifyOtp found sound orderly.wellStored
  | resendOtp call =>
      obtain ⟨stage, atStage, rfl⟩ := (hosts_resendOtp lib).running waits
      have sameEmail : call.input.email = email := Option.some.inj about
      subst email
      generalize call.input = input at *
      subst call
      have rightCode : comparesWrong (.registration input.email) state
          (.await index .resolves) = false := by
        refine comparesWrong_of_role found ?_
        intro otp
        cases stage <;> nofun
      rw [rightCode]
      exact pays_resendOtp sound
  | login call => cases about
  | requestEmailChange call => cases about
  | verifyEmailChange call => cases about

/-- The call that awaits something is the only one that does. -/
theorem Orderly.others (orderly : Orderly lib email state) {index other : Nat}
    {call another : AccountCall} {pending : Awaited AccountCall}
    (found : state.calls[index]? = some call)
    (waits : call.pending = some pending)
    (foundOther : state.calls[other]? = some another)
    (elsewhere : other ≠ index) : another.pending = none := by
  cases awaits : another.pending with
  | none => rfl
  | some pendingToo =>
      have same := orderly.alone other index another call foundOther found
        (Option.isSome_of_eq_some awaits) (Option.isSome_of_eq_some waits)
      exact absurd same elsewhere

/-- When the call that awaits something has stepped, no other call awaits. -/
theorem Orderly.stepped_or_ended (orderly : Orderly lib email state)
    {index : Nat} {call changed other : AccountCall}
    {pending : Awaited AccountCall} (found : state.calls[index]? = some call)
    (waits : call.pending = some pending)
    (member : other ∈ state.calls.set index changed) :
    other = changed ∨ other.pending = none := by
  obtain ⟨position, reached⟩ := List.mem_iff_getElem?.mp member
  by_cases same : position = index
  · subst position
    rw [List.getElem?_set_self (List.getElem?_eq_some_iff.mp found).1]
      at reached
    cases reached
    exact Or.inl rfl
  · rw [List.getElem?_set_ne (Ne.symm same)] at reached
    exact Or.inr (orderly.others found waits reached same)

/-- A call that has ended fits to any state in which an unknown address has
nothing. -/
theorem Sound.of_ended {stores : AccountStores} {call : AccountCall}
    (ended : call.pending = none)
    (unknown : stores.users.findByEmail email = none →
      stores.find (.otp email) = none ∧
        stores.find (.otpLock email) = none) : Sound email stores call := by
  obtain ⟨needs, will, _⟩ := ended_call ended
  refine ⟨?_, ?_⟩
  · intro notThere
    obtain ⟨noCode, noLock⟩ := unknown notThere
    exact ⟨noCode, noLock, needs⟩
  · intro stores
    rw [will] at stores
    cases stores

theorem Sound.tick {stores : AccountStores} {call : AccountCall}
    (sound : Sound email stores call) (elapsed : Nat) :
    Sound email (stores.tick elapsed) call := by
  have stays : ∀ key, stores.find key = none →
      (stores.tick elapsed).find key = none := by
    intro key nothing
    rw [AccountStores.find_tick, nothing, Option.filter_none]
  refine ⟨?_, ?_⟩
  · intro notThere
    obtain ⟨noCode, noLock, needs⟩ := sound.unknown notThere
    exact ⟨stays _ noCode, stays _ noLock, needs⟩
  · intro stores
    exact stays _ (sound.unlocked stores)

theorem Orderly.sound_step (orderly : Orderly lib email state)
    (stepped : (accountServer lib).step state action = some next)
    (only : OtpRequestsOnly email state action)
    (noPending : RegistersNoPending state action) :
    (next.stores.users.findByEmail email = none →
      next.stores.find (.otp email) = none ∧
        next.stores.find (.otpLock email) = none) ∧
    ∀ call ∈ next.calls, Sound email next.stores call := by
  cases Server.step_cases stepped with
  | external event =>
      cases event with
      | tick elapsed =>
          refine ⟨?_, fun call member =>
            (orderly.sound call member).tick elapsed⟩
          intro notThere
          obtain ⟨noCode, noLock⟩ := orderly.unknown notThere
          have later : ∀ key, (state.stores.tick elapsed).find key =
              (state.stores.find key).filter
                (state.stores.liveLater elapsed) :=
            state.stores.find_tick elapsed
          refine ⟨(later _).trans ?_, (later _).trans ?_⟩
          · rw [noCode, Option.filter_none]
          · rw [noLock, Option.filter_none]
  | requested input call accepted =>
      refine ⟨orderly.unknown, ?_⟩
      intro other member
      rcases List.mem_append.mp member with old | new
      · exact orderly.sound other old
      · have same := List.mem_singleton.mp new
        subst other
        obtain ⟨_, rfl⟩ := accept_eq_some.mp accepted
        obtain ⟨needs, will, _⟩ := new_call input
        refine ⟨?_, ?_⟩
        · intro notThere
          obtain ⟨noCode, noLock⟩ := orderly.unknown notThere
          exact ⟨noCode, noLock, needs⟩
        · intro stores
          rw [will] at stores
          cases stores
  | awaited index outcome call pending found waits =>
      cases only
      have sound := (orderly.pays found waits noPending).sound
      have unknown : ((accountServer lib).answer call pending state.stores
          .resolves).1.users.findByEmail email = none →
            ((accountServer lib).answer call pending state.stores
              .resolves).1.find (.otp email) = none ∧
            ((accountServer lib).answer call pending state.stores
              .resolves).1.find (.otpLock email) = none := by
        intro notThere
        obtain ⟨noCode, noLock, _⟩ := sound.unknown notThere
        exact ⟨noCode, noLock⟩
      refine ⟨unknown, ?_⟩
      intro other member
      rcases orderly.stepped_or_ended found waits member with rfl | ended
      · exact sound
      · exact .of_ended ended unknown

private theorem Orderly.about_step (orderly : Orderly lib email state)
    (stepped : (accountServer lib).step state action = some next)
    (only : OtpRequestsOnly email state action) :
    ∀ call ∈ next.calls, call.request.otpEmail? = some email := by
  intro call member
  obtain ⟨index, reached⟩ := List.mem_iff_getElem?.mp member
  cases Server.step_calls stepped reached with
  | kept _ _ found => exact orderly.about call (List.mem_of_getElem? found)
  | accepted input _ ran accepts _ =>
      subst ran
      obtain ⟨_, rfl⟩ := accept_eq_some.mp accepts
      rw [AccountCall.request_call]
      exact only
  | answered outcome earlier pending _ found waits =>
      rw [request_answer lib waits]
      exact orderly.about earlier (List.mem_of_getElem? found)

theorem Orderly.step (orderly : Orderly lib email state)
    (stepped : (accountServer lib).step state action = some next)
    (only : OtpRequestsOnly email state action)
    (sequential : (accountServer lib).Sequential state action)
    (noPending : RegistersNoPending state action) :
    Orderly lib email next := by
  obtain ⟨unknown, sound⟩ := orderly.sound_step stepped only noPending
  exact
    { about := orderly.about_step stepped only
      unknown := unknown
      sound := sound
      alone := orderly.alone.step stepped sequential
      wellStored := ⟨orderly.wellStored.stored_step stepped,
        orderly.wellStored.renews_step stepped⟩ }

theorem Orderly.base {start : AccountState} (idle : start.calls = [])
    (noCode : start.stores.find (.otp email) = none)
    (noLock : start.stores.find (.otpLock email) = none) :
    Orderly lib email start := by
  refine ⟨?_, fun _ => ⟨noCode, noLock⟩, ?_, ?_, .base idle noCode⟩
  · rw [idle]
    exact List.forall_mem_nil _
  · rw [idle]
    exact List.forall_mem_nil _
  · intro first second one other found
    rw [idle] at found
    cases found

/-- No call stores a code while the lock is there. -/
theorem Orderly.unlocked (orderly : Orderly lib email state) {newEmail : Text}
    {otp : Otp} (generates : applied? (.registration email) state action =
      some (.generates newEmail otp)) :
    state.stores.find (.otpLock email) = none := by
  obtain ⟨index, outcome, call, _, _, found, plays⟩ :=
    applied?_eq_some.mp generates
  have member := List.mem_of_getElem? found
  refine (orderly.sound call member).unlocked ?_
  unfold AccountCall.role? at plays
  split at plays
  · rfl
  · rfl
  · next input stage =>
      cases stage <;> cases plays
  · cases plays
  · cases plays
  · cases plays

/-- The attempts that are due in a state. -/
inductive Due (state : AccountState) : Option Nat → Prop
  | running (call : AccountCall) (member : call ∈ state.calls)
      (waits : call.pending.isSome = true) : Due state call.codeDue
  | idle (isOver : ∀ call ∈ state.calls, call.pending = none) : Due state none

/-- At most so many wrong codes can still be compared. -/
def WithinBudget (email : Text) (limit : Nat) (state : AccountState) : Prop :=
  ∃ due, Due state due ∧ budget email due state.stores ≤ limit

private theorem budget_tick {due : Option Nat} {stores : AccountStores}
    {elapsed : Nat} (keeps : (stores.findCount (.otpResend email)).isSome →
      ((stores.tick elapsed).findCount (.otpResend email)).isSome) :
    budget email due (stores.tick elapsed) ≤ budget email due stores := by
  have sameCount : (stores.tick elapsed).count (.otpResend email) =
      stores.count (.otpResend email) :=
    AccountStores.count_tick_of_stays keeps
  have sameUsers : (stores.tick elapsed).users = stores.users := rfl
  have lessStored : storedBudget email (stores.tick elapsed) ≤
      storedBudget email stores := by
    simp only [storedBudget, AccountStores.find_tick]
    cases stores.find (.otp email) with
    | none => exact le_refl _
    | some entry =>
        by_cases live : stores.liveLater elapsed entry = true
        · rw [Option.filter_some_pos live]
        · rw [Option.filter_some_neg (Bool.eq_false_iff.mpr live)]
          exact Nat.zero_le _
  simp only [budget, sameCount, sameUsers]
  cases due with
  | none =>
      simp only [Option.getD_none]
      omega
  | some number => exact le_refl _

/-- The wrong code that a step compares is taken from the budget. -/
theorem WithinBudget.step {limit : Nat} (orderly : Orderly lib email state)
    (within : WithinBudget email limit state)
    (stepped : (accountServer lib).step state action = some next)
    (only : OtpRequestsOnly email state action)
    (sequential : (accountServer lib).Sequential state action)
    (noPending : RegistersNoPending state action)
    (keeps : KeepsCounter (.otpResend email) state action) :
    ∃ rest, WithinBudget email rest next ∧
      rest + (if comparesWrong (.registration email) state action then 1
        else 0) ≤ limit := by
  obtain ⟨due, isDue, affordable⟩ := within
  cases Server.step_cases stepped with
  | external event =>
      cases event with
      | tick elapsed =>
          refine ⟨limit, ⟨due, ?_, (budget_tick keeps).trans affordable⟩,
            le_refl _⟩
          cases isDue with
          | running call member waits => exact .running call member waits
          | idle isOver => exact .idle isOver
  | requested input call accepted =>
      obtain ⟨_, rfl⟩ := accept_eq_some.mp accepted
      obtain ⟨_, _, owes⟩ := new_call input
      have free : due = none := by
        cases isDue with
        | idle _ => rfl
        | running other member waits =>
            have isOver := sequential other member
            have awaits : ((accountServer lib).pending other).isSome = true :=
              waits
            rw [Option.isNone_iff_eq_none] at isOver
            rw [isOver] at awaits
            cases awaits
      subst due
      refine ⟨limit, ⟨input.call.codeDue, .running input.call ?_ ?_, ?_⟩,
        le_refl _⟩
      · exact List.mem_append_right _ (List.mem_singleton_self _)
      · cases input <;> rfl
      · rw [owes]
        exact affordable
  | awaited index outcome call pending found waits =>
      cases only
      have pays := orderly.pays found waits noPending
      have isCall : due = call.codeDue := by
        cases isDue with
        | idle isOver =>
            have nothing := isOver call (List.mem_of_getElem? found)
            have awaits : call.pending = some pending := waits
            rw [nothing] at awaits
            cases awaits
        | running other member awaits =>
            obtain ⟨position, atPosition⟩ := List.mem_iff_getElem?.mp member
            have same := orderly.alone position index other call atPosition
              found awaits (Option.isSome_of_eq_some waits)
            subst position
            rw [found] at atPosition
            cases atPosition
            rfl
      subst due
      have inside := (List.getElem?_eq_some_iff.mp found).1
      refine ⟨_, ⟨_, ?_, le_refl _⟩, pays.within.trans affordable⟩
      cases awaits : ((accountServer lib).answer call pending state.stores
          .resolves).2.pending with
      | some later =>
          exact .running _ (List.mem_set inside _)
            (Option.isSome_of_eq_some awaits)
      | none =>
          rw [(ended_call awaits).2.2]
          refine .idle ?_
          intro other member
          rcases orderly.stepped_or_ended found waits member with rfl | ended
          · exact awaits
          · exact ended

/-- What is due is for a known address, and not more than three attempts. -/
theorem codeDue_le (wellStored : WellStored email state) {call : AccountCall}
    (member : call ∈ state.calls)
    (about : call.request.otpEmail? = some email) {due : Nat}
    (owes : call.codeDue = some due) : call.needsUser = true ∧ due ≤ 3 := by
  unfold AccountCall.codeDue at owes
  split at owes
  · cases owes
    exact ⟨rfl, le_refl _⟩
  · split at owes
    · cases owes
    · cases owes
      exact ⟨rfl, le_refl _⟩
  · cases owes
    exact ⟨rfl, le_refl _⟩
  · cases owes
    exact ⟨rfl, Nat.zero_le _⟩
  · next input renewed =>
      have sameEmail : input.email = email := Option.some.inj about
      subst email
      obtain ⟨otp, attempts, rfl, _⟩ :=
        wellStored.renews _ member input.otp (.ttl renewed) rfl
      cases owes
      rw [attemptsLeft_generated]
      exact ⟨rfl, Nat.sub_le _ _⟩
  · next input renewed ttlSeconds =>
      have sameEmail : input.email = email := Option.some.inj about
      subst email
      obtain ⟨⟨otp, attempts, rfl, _⟩, _⟩ :=
        wellStored.renews _ member input.otp (.writeBack renewed ttlSeconds) rfl
      cases owes
      rw [attemptsLeft_generated]
      exact ⟨rfl, Nat.sub_le _ _⟩
  · cases owes

private theorem storedBudget_le (wellStored : WellStored email state) :
    storedBudget email state.stores ≤ 3 := by
  unfold storedBudget
  split
  · exact Nat.zero_le _
  · next entry live =>
      obtain ⟨stored, ⟨otp, attempts, rfl, _⟩, text⟩ :=
        wellStored.stored entry live
      rw [text, otpCheck_readsBack email otp attempts, attemptsLeft_generated]
      exact Nat.sub_le _ _

/-- No state has a budget of more than four codes. -/
theorem Orderly.withinBudget (orderly : Orderly lib email state) :
    WithinBudget email 12 state := by
  have resends : 3 * (otpMaxResends - state.stores.count (.otpResend email)) ≤
      9 := by
    simp only [otpMaxResends]
    omega
  have stored := storedBudget_le orderly.wellStored
  have unknownStored : state.stores.users.findByEmail email = none →
      storedBudget email state.stores = 0 := by
    intro notThere
    simp only [storedBudget, (orderly.unknown notThere).1]
  have free : budget email none state.stores ≤ 12 := by
    simp only [budget, Option.getD_none]
    by_cases notThere : state.stores.users.findByEmail email = none
    · rw [if_pos notThere, unknownStored notThere]
      omega
    · rw [if_neg notThere]
      omega
  by_cases isOver : ∀ call ∈ state.calls, call.pending = none
  · exact ⟨none, .idle isOver, free⟩
  · push Not at isOver
    obtain ⟨call, member, waits⟩ := isOver
    refine ⟨call.codeDue, .running call member
      (Option.isSome_iff_ne_none.mpr waits), ?_⟩
    cases owes : call.codeDue with
    | none => exact free
    | some due =>
        obtain ⟨needs, atMost⟩ := codeDue_le orderly.wellStored member
          (orderly.about call member) owes
        have known : state.stores.users.findByEmail email ≠ none := by
          intro notThere
          have forgets := ((orderly.sound call member).unknown notThere).2.2
          rw [needs] at forgets
          cases forgets
        simp only [budget, if_neg known, Option.getD_some]
        omega

/-- The conditions on every step of a run. -/
def OneByOne (lib : Libraries) (email : Text) (state : AccountState)
    (action : AccountAction) : Prop :=
  OtpRequestsOnly email state action ∧
    (accountServer lib).Sequential state action ∧
    RegistersNoPending state action

instance (lib : Libraries) (email : Text) (state : AccountState)
    (action : AccountAction) : Decidable (OneByOne lib email state action) :=
  inferInstanceAs (Decidable (_ ∧ _ ∧ _))

theorem Orderly.of_run {start : AccountState}
    (orderly : Orderly lib email start) {history : AccountHistory}
    (run : Trace (accountServer lib).step start history state)
    (meets : StepsMeet (OneByOne lib email) history) :
    Orderly lib email state := by
  refine Trace.invariantUnder (OneByOne lib email) (Orderly lib email) orderly
    ?_ run meets
  rintro before action after holds ⟨only, sequential, noPending⟩ stepped
  exact holds.step stepped only sequential noPending

/-- The wrong codes of a run and the budget that is left are at most the
budget of its start. -/
theorem WithinBudget.of_run {start : AccountState} {limit : Nat}
    (orderly : Orderly lib email start)
    (within : WithinBudget email limit start) {history : AccountHistory}
    (run : Trace (accountServer lib).step start history state)
    (meets : StepsMeet (fun before action => OneByOne lib email before action ∧
      KeepsCounter (.otpResend email) before action) history) :
    ∃ rest, WithinBudget email rest state ∧
      rest + wrongCompares (.registration email) history ≤ limit := by
  induction run with
  | nil => exact ⟨limit, within, le_refl _⟩
  | @snoc earlier before after action runBefore stepped inductionHypothesis =>
      obtain ⟨⟨oneByOne, keeps⟩, meetsBefore⟩ := stepsMeet_cons.mp meets
      obtain ⟨only, sequential, noPending⟩ := oneByOne
      obtain ⟨rest, affordable, below⟩ := inductionHypothesis meetsBefore
      have orderlyBefore := orderly.of_run runBefore
        fun entry member => (meetsBefore entry member).1
      obtain ⟨less, affordableAfter, paid⟩ := affordable.step orderlyBefore
        stepped only sequential noPending keeps
      refine ⟨less, affordableAfter, ?_⟩
      rw [wrongCompares_cons]
      omega

end Runs

/-- In a run of one request after the other in which no registration finds the
account pending, every period in which the counter of the resends does not
lapse compares at most twelve wrong codes, and no code is stored while the
lock is there. -/
theorem wrongCompares_le_resends {lib : Libraries} {email : Text}
    {users : Users} {origin : Instant} {older newer : AccountHistory}
    {middle state : AccountState}
    (before : Trace (accountServer lib).step (AccountState.init users origin)
      older middle)
    (period : Trace (accountServer lib).step middle newer state)
    (meets : StepsMeet (OneByOne lib email) (newer ++ older))
    (keeps : StepsMeet (KeepsCounter (.otpResend email)) newer) :
    (wrongCompares (.registration email) newer : Int) ≤
      (1 + otpMaxResends) * otpMaxAttempts ∧
    ∀ action newEmail otp,
      applied? (.registration email) state action =
        some (.generates newEmail otp) →
      state.stores.find (.otpLock email) = none := by
  have meetsOlder : StepsMeet (OneByOne lib email) older := by
    intro entry member
    exact meets entry (List.mem_append_right _ member)
  have meetsNewer : StepsMeet (fun before action =>
      OneByOne lib email before action ∧
        KeepsCounter (.otpResend email) before action) newer := by
    intro entry member
    exact ⟨meets entry (List.mem_append_left _ member), keeps entry member⟩
  have orderly : Orderly lib email middle :=
    (Orderly.base rfl rfl rfl).of_run before meetsOlder
  refine ⟨?_, ?_⟩
  · obtain ⟨rest, _, below⟩ :=
      orderly.withinBudget.of_run orderly period meetsNewer
    simp only [otpMaxResends, otpMaxAttempts]
    omega
  · intro action newEmail otp generates
    have orderlyNow := orderly.of_run period
      fun entry member => (meetsNewer entry member).1
    exact orderlyNow.unlocked generates

def resends : AccountAction :=
  .request (.resendOtp ⟨"a@x.io".toList, .oneToSix⟩)

/-- Wrong guesses for a fresh code and for one that is sent again, and a second
request for another code up to its last await. -/
def resentCode : List AccountAction :=
  registers ++ [verifies "000000", .await 1 .resolves, .await 1 .resolves,
    .await 1 .resolves, .await 1 .resolves, .external (.tick 1000),
    resends, .await 2 .resolves, .await 2 .resolves, .await 2 .resolves,
    .await 2 .resolves, .await 2 .resolves,
    verifies "111111", .await 3 .resolves, .await 3 .resolves,
    .await 3 .resolves, .await 3 .resolves,
    resends, .await 4 .resolves, .await 4 .resolves, .await 4 .resolves]

private theorem resentCode_enabled :
    (replay (accountServer .plain).step [] nobody resentCode).isSome = true := by
  decide +kernel

def afterResentCode : AccountHistory × AccountState :=
  (replay (accountServer .plain).step [] nobody resentCode).get
    resentCode_enabled

theorem wrongCompares_le_resends_resentCode :
    (wrongCompares (.registration "a@x.io".toList)
      afterResentCode.1 : Int) ≤ (1 + otpMaxResends) * otpMaxAttempts ∧
    afterResentCode.2.stores.find (.otpLock "a@x.io".toList) = none := by
  have bounded := @wrongCompares_le_resends .plain "a@x.io".toList _ _ [] _
    nobody _ Trace.nil (Trace.of_replay_get resentCode resentCode_enabled)
    (by decide +kernel) (by decide +kernel)
  exact ⟨bounded.1,
    bounded.2 (.await 4 .resolves) [] .oneToSix (by decide +kernel)⟩

def twoGuesses (index : Nat) : List AccountAction :=
  [verifies "000000", .await index .resolves, .await index .resolves,
    .await index .resolves, .await index .resolves,
    verifies "000000", .await (index + 1) .resolves,
    .await (index + 1) .resolves, .await (index + 1) .resolves,
    .await (index + 1) .resolves]

def registersAgain (index : Nat) : List AccountAction :=
  registers.take 1 ++ [.await index .resolves, .await index .resolves]

def sevenRounds : List AccountAction :=
  registers ++ twoGuesses 1 ++ (List.range 6).flatMap fun round =>
    registersAgain (3 * round + 3) ++ twoGuesses (3 * round + 4)

def lockedOut : List AccountAction :=
  registers ++ twoGuesses 1 ++ [verifies "000000", .await 3 .resolves,
    .await 3 .resolves, .await 3 .resolves, .await 3 .resolves] ++
    registers.take 1 ++ [.await 4 .resolves]

/-- Fourteen wrong codes are compared without a lock, and a code is stored
while the lock is there. -/
theorem registration_renews_attempts :
    (∃ history state,
      Trace (accountServer .plain).step nobody history state ∧
      StepsMeet (OtpRequestsOnly "a@x.io".toList) history ∧
      StepsMeet (accountServer .plain).Sequential history ∧
      StepsMeet (KeepsCounter (.otpResend "a@x.io".toList)) history ∧
      (∀ reached ∈ visited history state,
        reached.stores.find (.otpLock "a@x.io".toList) = none) ∧
      wrongCompares (.registration "a@x.io".toList) history = 14) ∧
    ∃ history state,
      Trace (accountServer .plain).step nobody history state ∧
      StepsMeet (OtpRequestsOnly "a@x.io".toList) history ∧
      StepsMeet (accountServer .plain).Sequential history ∧
      (state.stores.find (.otpLock "a@x.io".toList)).isSome ∧
      applied? (.registration "a@x.io".toList) state (.await 4 .resolves) =
        some (.generates [] .oneToSix) := by
  constructor
  · obtain ⟨history, state, run, holds⟩ :=
      Trace.exists_of_replay (accountServer .plain).step nobody sevenRounds
        (fun result => decide
          (StepsMeet (OtpRequestsOnly "a@x.io".toList) result.1 ∧
          StepsMeet (accountServer .plain).Sequential result.1 ∧
          StepsMeet (KeepsCounter (.otpResend "a@x.io".toList)) result.1 ∧
          (∀ reached ∈ visited result.1 result.2,
            reached.stores.find (.otpLock "a@x.io".toList) = none) ∧
          wrongCompares (.registration "a@x.io".toList) result.1 = 14))
        (by decide +kernel)
    exact ⟨history, state, run, of_decide_eq_true holds⟩
  · obtain ⟨history, state, run, holds⟩ :=
      Trace.exists_of_replay (accountServer .plain).step nobody lockedOut
        (fun result => decide
          (StepsMeet (OtpRequestsOnly "a@x.io".toList) result.1 ∧
          StepsMeet (accountServer .plain).Sequential result.1 ∧
          (result.2.stores.find (.otpLock "a@x.io".toList)).isSome ∧
          applied? (.registration "a@x.io".toList) result.2
              (.await 4 .resolves) =
            some (.generates [] .oneToSix)))
        (by decide +kernel)
    exact ⟨history, state, run, of_decide_eq_true holds⟩

end ConcertTicketing.Accounts
