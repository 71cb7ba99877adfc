import ConcertTicketing.Accounts.System

/-!
# The attempts at one code

Verification requests race for one stored code.  The attempts are a field of
the stored text, so a wrong code is counted only when its request has read the
field, and has written it back, with no other request doing the same in
between.
-/

namespace ConcertTicketing.Accounts

open Redis

/-- The check has found a wrong code, and the stored text does not say so
yet. -/
def CheckStage.Uncounted : CheckStage → Prop
  | .delExhausted => True
  | .ttl _ => True
  | .writeBack _ _ => True
  | _ => False

instance : (stage : CheckStage) → Decidable stage.Uncounted
  | .existsLock => inferInstanceAs (Decidable False)
  | .getStored => inferInstanceAs (Decidable False)
  | .delExhausted => inferInstanceAs (Decidable True)
  | .setLock => inferInstanceAs (Decidable False)
  | .ttl _ => inferInstanceAs (Decidable True)
  | .writeBack _ _ => inferInstanceAs (Decidable True)

/-- The weight of a role: an uncounted failure counts once. -/
def uncountedRole (purpose : Purpose) : Option (Purpose × CodeRole) → Nat
  | some (owner, .checks _ stage) =>
      if owner = purpose ∧ stage.Uncounted then 1 else 0
  | _ => 0

def uncounted (purpose : Purpose) (call : AccountCall) : Nat :=
  uncountedRole purpose call.role?

private theorem uncounted_checks {purpose : Purpose} {call : AccountCall}
    {otp : Text} {stage : CheckStage}
    (plays : call.role? = some (purpose, .checks otp stage)) :
    uncounted purpose call = if stage.Uncounted then 1 else 0 := by
  simp only [uncounted, plays, uncountedRole, true_and]

def AccountRequest.verifies? : AccountRequest → Option Purpose
  | .verifyOtp input => some (.registration input.email)
  | .verifyEmailChange input => some (.emailChange input.userId)
  | _ => none

/-- Nothing but verifications for the purpose, and no failures. -/
def OnlyVerifies (purpose : Purpose) (_ : AccountState) :
    AccountAction → Prop
  | .external _ => True
  | .request input => input.verifies? = some purpose
  | .await _ outcome => outcome = .resolves

instance (purpose : Purpose) (state : AccountState) :
    (action : AccountAction) →
      Decidable (OnlyVerifies purpose state action)
  | .external _ => inferInstanceAs (Decidable True)
  | .request _ => inferInstanceAs (Decidable (_ = _))
  | .await _ _ => inferInstanceAs (Decidable (_ = _))

/-- A wrong code is compared only when every earlier failure is counted. -/
def ComparesAfterCounting (purpose : Purpose) (state : AccountState)
    (action : AccountAction) : Prop :=
  comparesWrong purpose state action = true →
    load (uncounted purpose) state.calls = 0

instance (purpose : Purpose) (state : AccountState) (action : AccountAction) :
    Decidable (ComparesAfterCounting purpose state action) :=
  inferInstanceAs (Decidable (_ → _))

/-- A verification has no other role than for its purpose, and generates
nothing. -/
theorem role_of_verifies {call : AccountCall} {purpose owner : Purpose}
    {role : CodeRole} (verifies : call.request.verifies? = some purpose)
    (plays : call.role? = some (owner, role)) :
    owner = purpose ∧ ∀ newEmail otp, role ≠ .generates newEmail otp := by
  cases call with
  | verifyOtp call =>
      obtain ⟨input, progress⟩ := call
      cases verifies
      cases progress with
      | running stage => cases stage <;> cases plays <;> exact ⟨rfl, nofun⟩
      | _ => cases plays
  | verifyEmailChange call =>
      obtain ⟨input, progress⟩ := call
      cases verifies
      cases progress with
      | running stage => cases stage <;> cases plays <;> exact ⟨rfl, nofun⟩
      | _ => cases plays
  | _ => cases verifies

/-- What a failure that is not counted yet will write. -/
def Writes (newEmail : Text) (otp : Otp) (wrong : Nat) : CheckStage → Prop
  | .ttl renewed => renewed = .generated newEmail otp wrong ∧ wrong < 3
  | .writeBack renewed _ => renewed = .generated newEmail otp wrong ∧ wrong < 3
  | _ => True

/-- After some wrong codes: at most one of them is not counted yet, and the
stored text counts the others. -/
structure Attempted (purpose : Purpose) (newEmail : Text) (otp : Otp)
    (wrong : Nat) (state : AccountState) : Prop where
  bounded : wrong ≤ 3
  single : load (uncounted purpose) state.calls ≤ 1
  counted : ∀ entry, state.stores.find purpose.check.key = some entry →
    ∃ attempts : Nat,
      entry.value = purpose.check.encode (.generated newEmail otp attempts) ∧
      attempts + load (uncounted purpose) state.calls = wrong ∧ attempts < 3
  writes : ∀ call ∈ state.calls, ∀ given stage,
    call.role? = some (purpose, .checks given stage) →
    Writes newEmail otp wrong stage
  verifies : ∀ call ∈ state.calls, call.request.verifies? = some purpose

/-- A counted failure writes nothing more. -/
theorem writes_of_counted {newEmail : Text} {otp : Otp} {wrong : Nat}
    {stage : CheckStage} (counted : ¬ stage.Uncounted) :
    Writes newEmail otp wrong stage := by
  cases stage with
  | ttl renewed => exact absurd trivial counted
  | writeBack renewed ttlSeconds => exact absurd trivial counted
  | _ => trivial

private theorem uncounted_of_none {purpose : Purpose} {call : AccountCall}
    (idle : call.role? = none) : uncounted purpose call = 0 := by
  simp only [uncounted, idle, uncountedRole]

private theorem writes_of_none {purpose : Purpose} {call : AccountCall}
    {newEmail : Text} {otp : Otp} {wrong : Nat} (idle : call.role? = none) :
    ∀ given stage, call.role? = some (purpose, .checks given stage) →
      Writes newEmail otp wrong stage := by
  intro given stage plays
  rw [idle] at plays
  cases plays

private theorem writes_of_checks {purpose : Purpose} {call : AccountCall}
    {newEmail given : Text} {otp : Otp} {wrong : Nat} {stage : CheckStage}
    (plays : call.role? = some (purpose, .checks given stage))
    (writes : Writes newEmail otp wrong stage) :
    ∀ given stage, call.role? = some (purpose, .checks given stage) →
      Writes newEmail otp wrong stage := by
  intro givenToo stageToo playsToo
  rw [plays] at playsToo
  cases playsToo
  exact writes

namespace Attempted

variable {purpose : Purpose} {newEmail : Text} {otp : Otp} {wrong : Nat}
  {state : AccountState}

/-- One call is replaced, with what the invariant asks of the new one. -/
theorem replace (holds : Attempted purpose newEmail otp wrong state)
    {index : Nat} {after : AccountCall} {stores : AccountStores} {now : Nat}
    (bounded : now ≤ 3)
    (single : load (uncounted purpose) (state.calls.set index after) ≤ 1)
    (counted : ∀ entry, stores.find purpose.check.key = some entry →
      ∃ attempts : Nat,
        entry.value = purpose.check.encode (.generated newEmail otp attempts) ∧
        attempts + load (uncounted purpose) (state.calls.set index after) =
          now ∧
        attempts < 3)
    (older : ∀ call ∈ state.calls, ∀ given stage,
      call.role? = some (purpose, .checks given stage) →
      Writes newEmail otp now stage)
    (writes : ∀ given stage,
      after.role? = some (purpose, .checks given stage) →
      Writes newEmail otp now stage)
    (verifies : after.request.verifies? = some purpose) :
    Attempted purpose newEmail otp now
      ⟨stores, state.calls.set index after⟩ where
  bounded := bounded
  single := single
  counted := counted
  writes := by
    intro call member
    rcases List.mem_or_eq_of_mem_set member with old | rfl
    · exact older call old
    · exact writes
  verifies := by
    intro call member
    rcases List.mem_or_eq_of_mem_set member with old | rfl
    · exact holds.verifies call old
    · exact verifies

/-- A step that neither compares a wrong code nor counts one. -/
theorem quiet (holds : Attempted purpose newEmail otp wrong state)
    {index : Nat} {call after : AccountCall} {stores : AccountStores}
    (found : state.calls[index]? = some call)
    (sameWeight : uncounted purpose after = uncounted purpose call)
    (kept : ∀ entry, stores.find purpose.check.key = some entry →
      state.stores.find purpose.check.key = some entry)
    (writes : ∀ given stage,
      after.role? = some (purpose, .checks given stage) →
      Writes newEmail otp wrong stage)
    (verifies : after.request.verifies? = some purpose) :
    Attempted purpose newEmail otp wrong
      ⟨stores, state.calls.set index after⟩ := by
  have exchange := load_set (uncounted purpose) found after
  have sameLoad : load (uncounted purpose) (state.calls.set index after) =
      load (uncounted purpose) state.calls := by omega
  refine holds.replace holds.bounded ?_ ?_ holds.writes writes verifies
  · rw [sameLoad]
    exact holds.single
  · rw [sameLoad]
    intro entry live
    exact holds.counted entry (kept entry live)

/-- The code that is read is the one of the race, with the attempts that have
been counted. -/
theorem stored_eq (holds : Attempted purpose newEmail otp wrong state)
    (reads : purpose.check.ReadsBack newEmail) {stored : StoredCode}
    (found : purpose.check.stored? state.stores = some stored) :
    ∃ attempts : Nat, stored = .generated newEmail otp attempts ∧
      attempts + load (uncounted purpose) state.calls = wrong ∧
      attempts < 3 := by
  simp only [CodeCheck.stored?, Option.map_eq_some_iff] at found
  obtain ⟨entry, live, rfl⟩ := found
  obtain ⟨attempts, text, counted, below⟩ :=
    holds.counted entry (Option.filter_eq_some_iff.mp live).1
  refine ⟨attempts, ?_, counted, below⟩
  rw [text]
  exact reads otp attempts

/-- A wrong code is compared when no other is waiting to be counted. -/
theorem compare_wrong (holds : Attempted purpose newEmail otp wrong state)
    (reads : purpose.check.ReadsBack newEmail) {index : Nat}
    {call after : AccountCall} {stores : AccountStores}
    (found : state.calls[index]? = some call) {given : Text}
    (plays : call.role? = some (purpose, .checks given .getStored))
    {stored : StoredCode}
    (read : purpose.check.stored? state.stores = some stored)
    (idle : load (uncounted purpose) state.calls = 0) {later : CheckStage}
    (next : after.role? = some (purpose, .checks given later))
    (goes : (later = .delExhausted ∧
        atLeast purpose.check.maxAttempts stored.afterFailure.attempts =
          true) ∨
      (later = .ttl stored.afterFailure ∧
        atLeast purpose.check.maxAttempts stored.afterFailure.attempts =
          false))
    (kept : stores.find purpose.check.key =
      state.stores.find purpose.check.key)
    (verifies : after.request.verifies? = some purpose) :
    Attempted purpose newEmail otp (wrong + 1)
      ⟨stores, state.calls.set index after⟩ := by
  obtain ⟨attempts, rfl, counted, below⟩ := holds.stored_eq reads read
  have all : attempts = wrong := by omega
  subst attempts
  have limit : atLeast purpose.check.maxAttempts
      (StoredCode.generated newEmail otp wrong).afterFailure.attempts =
        decide ((3 : Int) ≤ ((wrong + 1 : Nat) : Int)) := by
    rw [StoredCode.afterFailure_generated, Purpose.maxAttempts_eq]
    rfl
  have before : uncounted purpose call = 0 := by
    rw [uncounted_checks plays]
    rfl
  have afterwards : uncounted purpose after = 1 := by
    rw [uncounted_checks next]
    rcases goes with ⟨rfl, _⟩ | ⟨rfl, _⟩ <;> rfl
  have exchange := load_set (uncounted purpose) found after
  have oneLoad : load (uncounted purpose) (state.calls.set index after) = 1 := by
    omega
  refine holds.replace (by omega) (by omega) ?_ ?_ ?_ verifies
  · intro entry live
    rw [kept] at live
    obtain ⟨earlier, text, sum, small⟩ := holds.counted entry live
    exact ⟨earlier, text, by omega, small⟩
  · intro other member given stage playsToo
    apply writes_of_counted
    intro uncountedStage
    have weight := le_load (uncounted purpose) member
    rw [uncounted_checks playsToo, if_pos uncountedStage] at weight
    omega
  · intro givenToo stage playsToo
    rw [next] at playsToo
    cases playsToo
    rcases goes with ⟨rfl, _⟩ | ⟨rfl, notYet⟩
    · trivial
    · rw [limit] at notYet
      have small := of_decide_eq_false notYet
      refine ⟨rfl, ?_⟩
      omega

/-- A failure is counted, or the code is deleted for it. -/
theorem count (holds : Attempted purpose newEmail otp wrong state)
    {index : Nat} {call after : AccountCall} {stores : AccountStores}
    (found : state.calls[index]? = some call)
    (before : uncounted purpose call = 1)
    (afterwards : uncounted purpose after = 0)
    (written : ∀ entry, stores.find purpose.check.key = some entry →
      entry.value = purpose.check.encode (.generated newEmail otp wrong) ∧
      wrong < 3)
    (writes : ∀ given stage,
      after.role? = some (purpose, .checks given stage) →
      Writes newEmail otp wrong stage)
    (verifies : after.request.verifies? = some purpose) :
    Attempted purpose newEmail otp wrong
      ⟨stores, state.calls.set index after⟩ := by
  have exchange := load_set (uncounted purpose) found after
  have single := holds.single
  have noLoad : load (uncounted purpose) (state.calls.set index after) = 0 := by
    omega
  refine holds.replace holds.bounded (by omega) ?_ holds.writes writes verifies
  intro entry live
  obtain ⟨text, small⟩ := written entry live
  exact ⟨wrong, text, by omega, small⟩

variable {lib : Libraries}

/-- A check takes a step. -/
theorem check (holds : Attempted purpose newEmail otp wrong state)
    (reads : purpose.check.ReadsBack newEmail) {index : Nat}
    {call : AccountCall} {pending : Awaited AccountCall}
    (found : state.calls[index]? = some call)
    (waits : call.pending = some pending) {given : Text} {stage : CheckStage}
    (plays : call.role? = some (purpose, .checks given stage))
    (counting : ComparesAfterCounting purpose state
      (.await index .resolves)) :
    Attempted purpose newEmail otp
      (wrong + if comparesWrong purpose state (.await index .resolves) then 1
        else 0)
      ⟨((accountServer lib).answer call pending state.stores .resolves).1,
        state.calls.set index
          ((accountServer lib).answer call pending state.stores
            .resolves).2⟩ := by
  have member := List.mem_of_getElem? found
  have verifies : ((accountServer lib).answer call pending state.stores
      .resolves).2.request.verifies? = some purpose := by
    rw [request_answer lib waits]
    exact holds.verifies call member
  have later := role?_of_check lib waits state.stores plays
  have goes := purpose.check.goOn_cases lib given stage state.stores
  have left : ((accountServer lib).answer call pending state.stores
      .resolves).1.find purpose.check.key =
        codeLeft call purpose state.stores :=
    find_answer lib waits purpose state.stores .resolves
  simp only [codeLeft, plays, if_true] at left
  have weight := uncounted_checks plays
  generalize purpose.check.goOn lib given stage state.stores = progress
    at later goes
  generalize ((accountServer lib).answer call pending state.stores
    .resolves).1 = stores at left ⊢
  generalize ((accountServer lib).answer call pending state.stores
    .resolves).2 = after at later verifies ⊢
  have quietly : comparesWrong purpose state (.await index .resolves) = false →
      uncounted purpose after = uncounted purpose call →
      stores.find purpose.check.key = state.stores.find purpose.check.key →
      (∀ given stage, after.role? = some (purpose, .checks given stage) →
        Writes newEmail otp wrong stage) →
      Attempted purpose newEmail otp
        (wrong + if comparesWrong purpose state (.await index .resolves) then 1
          else 0)
        ⟨stores, state.calls.set index after⟩ := by
    intro rightCode sameWeight kept writes
    rw [rightCode]
    exact holds.quiet found sameWeight (fun entry live => by rw [← kept, live])
      writes verifies
  cases goes with
  | locked live =>
      refine quietly ?_ ?_ left ?_
      · exact comparesWrong_of_role found (by simp [plays])
      · rw [weight, uncounted_of_none later]
        rfl
      · exact writes_of_none later
  | unlocked free =>
      refine quietly ?_ ?_ left ?_
      · exact comparesWrong_of_role found (by simp [plays])
      · rw [weight, uncounted_checks later]
        rfl
      · exact writes_of_checks later trivial
  | missing nothing =>
      refine quietly ?_ ?_ left ?_
      · exact comparesWrong_of_read found plays (by simp [nothing])
      · rw [weight, uncounted_of_none later]
        rfl
      · exact writes_of_none later
  | right stored read same =>
      refine quietly ?_ ?_ left ?_
      · apply comparesWrong_of_read found plays
        intro other readToo
        rw [read] at readToo
        cases readToo
        exact same
      · rw [weight]
        simp only [uncounted, later, checkedRole, uncountedRole]
        rfl
      · intro givenToo stage playsToo
        rw [later] at playsToo
        cases playsToo
  | lastFailure stored read wrongCode isOver =>
      have compares := comparesWrong_of_wrong found plays read wrongCode
      rw [compares]
      exact holds.compare_wrong reads found plays read (counting compares)
        later (Or.inl ⟨rfl, isOver⟩) left verifies
  | failure stored read wrongCode below =>
      have compares := comparesWrong_of_wrong found plays read wrongCode
      rw [compares]
      exact holds.compare_wrong reads found plays read (counting compares)
        later (Or.inr ⟨rfl, below⟩) left verifies
  | deleted =>
      rw [comparesWrong_of_role found (by simp [plays])]
      refine holds.count found weight ?_ ?_ ?_ verifies
      · rw [uncounted_checks later]
        rfl
      · intro entry live
        rw [left] at live
        cases live
      · exact writes_of_checks later trivial
  | lockSet =>
      refine quietly ?_ ?_ left ?_
      · exact comparesWrong_of_role found (by simp [plays])
      · rw [weight, uncounted_of_none later]
        rfl
      · exact writes_of_none later
  | timed renewed =>
      have writes := holds.writes call member given _ plays
      refine quietly ?_ ?_ left ?_
      · exact comparesWrong_of_role found (by simp [plays])
      · rw [weight, uncounted_checks later]
        rfl
      · exact writes_of_checks later writes
  | wroteBack renewed ttlSeconds error =>
      obtain ⟨text, small⟩ := holds.writes call member given _ plays
      rw [comparesWrong_of_role found (by simp [plays])]
      refine holds.count found weight (uncounted_of_none later) ?_
        (writes_of_none later) verifies
      intro entry live
      rw [left] at live
      cases live
      exact ⟨by rw [text], small⟩

/-- A call that has accepted the code, or is about to delete it. -/
theorem afterCheck (holds : Attempted purpose newEmail otp wrong state)
    {index : Nat} {call : AccountCall} {pending : Awaited AccountCall}
    (found : state.calls[index]? = some call)
    (waits : call.pending = some pending)
    (noCheck : ∀ owner given stage,
      call.role? ≠ some (owner, .checks given stage)) :
    Attempted purpose newEmail otp wrong
      ⟨((accountServer lib).answer call pending state.stores .resolves).1,
        state.calls.set index
          ((accountServer lib).answer call pending state.stores
            .resolves).2⟩ := by
  have member := List.mem_of_getElem? found
  have left : ((accountServer lib).answer call pending state.stores
      .resolves).1.find purpose.check.key =
        codeLeft call purpose state.stores :=
    find_answer lib waits purpose state.stores .resolves
  have noLaterCheck : ∀ owner given stage,
      ((accountServer lib).answer call pending state.stores
        .resolves).2.role? ≠ some (owner, .checks given stage) := by
    intro owner given stage plays
    cases (role_cases lib waits plays).2 with
    | checked _ _ _ before _ => exact noCheck _ _ _ before
  have idle : ∀ {other : AccountCall},
      (∀ owner given stage, other.role? ≠ some (owner, .checks given stage)) →
      uncounted purpose other = 0 := by
    intro other no
    unfold uncounted uncountedRole
    split
    · next plays => exact absurd plays (no _ _ _)
    · rfl
  refine holds.quiet found ?_ ?_ ?_ ?_
  · rw [idle noCheck, idle noLaterCheck]
  · intro entry live
    rw [left] at live
    unfold codeLeft at live
    split at live
    · next owner role plays =>
        obtain ⟨rfl, generates⟩ :=
          role_of_verifies (holds.verifies call member) plays
        rw [if_pos rfl] at live
        cases role with
        | generates address fresh => exact absurd rfl (generates _ _)
        | checks given stage => exact absurd plays (noCheck _ _ _)
        | accepts given address => exact live
        | consumes given => cases live
    · exact live
  · intro given stage plays
    exact absurd plays (noLaterCheck _ _ _)
  · rw [request_answer lib waits]
    exact holds.verifies call member

theorem tick (holds : Attempted purpose newEmail otp wrong state)
    (elapsed : Nat) :
    Attempted purpose newEmail otp wrong
      { state with stores := state.stores.tick elapsed } where
  bounded := holds.bounded
  single := holds.single
  counted := by
    intro entry live
    rw [AccountStores.find_tick] at live
    exact holds.counted entry (Option.filter_eq_some_iff.mp live).1
  writes := holds.writes
  verifies := holds.verifies

/-- One more verification. -/
theorem request (holds : Attempted purpose newEmail otp wrong state)
    {input : AccountRequest} (verifies : input.verifies? = some purpose) :
    Attempted purpose newEmail otp wrong
      { state with calls := state.calls ++ [input.call] } := by
  have plays : ∃ given, input.call.role? =
      some (purpose, .checks given .existsLock) := by
    cases input with
    | verifyOtp typed =>
        cases verifies
        exact ⟨typed.otp, rfl⟩
    | verifyEmailChange typed =>
        cases verifies
        exact ⟨typed.otp, rfl⟩
    | _ => cases verifies
  obtain ⟨given, plays⟩ := plays
  have sameLoad : load (uncounted purpose) (state.calls ++ [input.call]) =
      load (uncounted purpose) state.calls := by
    rw [load_append, uncounted_checks plays]
    rfl
  refine ⟨holds.bounded, ?_, ?_, ?_, ?_⟩
  · rw [sameLoad]
    exact holds.single
  · rw [sameLoad]
    exact holds.counted
  · intro call member
    rcases List.mem_append.mp member with old | new
    · exact holds.writes call old
    · rw [List.mem_singleton.mp new]
      exact writes_of_checks plays trivial
  · intro call member
    rcases List.mem_append.mp member with old | new
    · exact holds.verifies call old
    · rw [List.mem_singleton.mp new, AccountCall.request_call]
      exact verifies

theorem step (holds : Attempted purpose newEmail otp wrong state)
    (reads : purpose.check.ReadsBack newEmail) {action : AccountAction}
    {next : AccountState}
    (stepped : (accountServer lib).step state action = some next)
    (only : OnlyVerifies purpose state action)
    (counting : ComparesAfterCounting purpose state action) :
    Attempted purpose newEmail otp
      (wrong + if comparesWrong purpose state action then 1 else 0) next := by
  cases Server.step_cases stepped with
  | external event =>
      cases event with
      | tick elapsed => exact holds.tick elapsed
  | requested input call accepted =>
      obtain ⟨_, rfl⟩ := accept_eq_some.mp accepted
      exact holds.request only
  | awaited index outcome call pending found waits =>
      cases only
      by_cases checks : ∃ owner given stage,
          call.role? = some (owner, .checks given stage)
      · obtain ⟨owner, given, stage, plays⟩ := checks
        obtain ⟨rfl, _⟩ := role_of_verifies
          (holds.verifies call (List.mem_of_getElem? found)) plays
        exact holds.check reads found waits plays counting
      · have noCheck : ∀ owner given stage,
            call.role? ≠ some (owner, .checks given stage) := by
          intro owner given stage plays
          exact checks ⟨owner, given, stage, plays⟩
        rw [comparesWrong_of_role found fun given => noCheck _ _ _]
        exact holds.afterCheck found waits noCheck

/-- The race starts with a code that has just been stored. -/
theorem base {start : AccountState} {deadline : Option Instant}
    (idle : start.calls = [])
    (stored : start.stores.find purpose.check.key =
      some ⟨purpose.check.encode (.generated newEmail otp 0), deadline⟩) :
    Attempted purpose newEmail otp 0 start := by
  refine ⟨by omega, ?_, ?_, ?_, ?_⟩
  · rw [idle]
    exact Nat.zero_le 1
  · intro entry live
    rw [stored] at live
    cases live
    refine ⟨0, rfl, ?_, by omega⟩
    rw [idle]
    rfl
  · rw [idle]
    exact List.forall_mem_nil _
  · rw [idle]
    exact List.forall_mem_nil _

theorem of_run (reads : purpose.check.ReadsBack newEmail)
    {start : AccountState} (base : Attempted purpose newEmail otp 0 start)
    {history : AccountHistory}
    (run : Trace (accountServer lib).step start history state)
    (only : StepsMeet (OnlyVerifies purpose) history)
    (counting : StepsMeet (ComparesAfterCounting purpose) history) :
    Attempted purpose newEmail otp (wrongCompares purpose history) state := by
  induction run with
  | nil => exact base
  | @snoc earlier before after action runBefore stepped inductionHypothesis =>
      have verifying := stepsMeet_cons.mp only
      have counts := stepsMeet_cons.mp counting
      rw [wrongCompares_cons]
      exact (inductionHypothesis verifying.2 counts.2).step reads stepped
        verifying.1 counts.1

end Attempted

/-! ## The bound -/

/-- In a race in which a wrong code is compared only when every earlier failure
is counted, three wrong codes are compared at most; after the third, the code
is gone as soon as no failure waits to be counted. -/
theorem wrongCompares_le_maxAttempts {lib : Libraries} {purpose : Purpose}
    {newEmail : Text} {otp : Otp} {start : AccountState}
    {deadline : Option Instant} (idle : start.calls = [])
    (stored : start.stores.find purpose.check.key =
      some ⟨purpose.check.encode (.generated newEmail otp 0), deadline⟩)
    (reads : purpose.check.ReadsBack newEmail) {history : AccountHistory}
    {state : AccountState}
    (run : Trace (accountServer lib).step start history state)
    (only : StepsMeet (OnlyVerifies purpose) history)
    (counting : StepsMeet (ComparesAfterCounting purpose) history) :
    wrongCompares purpose history ≤ 3 ∧
      (wrongCompares purpose history = 3 →
        load (uncounted purpose) state.calls = 0 →
        state.stores.find purpose.check.key = none) := by
  have holds := Attempted.of_run reads (Attempted.base idle stored) run only
    counting
  refine ⟨holds.bounded, ?_⟩
  intro all settled
  cases live : state.stores.find purpose.check.key with
  | none => rfl
  | some entry =>
      obtain ⟨attempts, _, counted, below⟩ := holds.counted entry live
      omega

/-- Nobody is registered, and the code 123456 is stored for `a@x.io`. -/
def codeStored : AccountState :=
  ⟨(perform .plain ((otpCheck "a@x.io".toList).store [] .oneToSix)
      ⟨.empty, .empty 0, []⟩).2, []⟩

def guessOf (otp : String) : AccountAction :=
  .request (.verifyOtp ⟨"a@x.io".toList, otp.toList⟩)

def guess : AccountAction := guessOf "000000"

/-- Three requests at a time with three wrong codes: each compares its code
when the failure before is counted. -/
def racingGuesses : List AccountAction :=
  [guessOf "000000", guessOf "111111", .await 0 .resolves, guessOf "222222",
    .await 1 .resolves, .await 0 .resolves, .await 0 .resolves,
    .await 2 .resolves, .await 0 .resolves, .external (.tick 1000),
    .await 1 .resolves, .await 1 .resolves, .await 1 .resolves,
    .await 2 .resolves, .await 2 .resolves, .await 2 .resolves]

private theorem racingGuesses_enabled :
    (replay (accountServer .plain).step [] codeStored racingGuesses).isSome =
      true := by
  decide +kernel

def afterRacingGuesses : AccountHistory × AccountState :=
  (replay (accountServer .plain).step [] codeStored racingGuesses).get
    racingGuesses_enabled

theorem wrongCompares_racingGuesses :
    wrongCompares (.registration "a@x.io".toList) afterRacingGuesses.1 ≤ 3 ∧
      afterRacingGuesses.2.stores.find (.otp "a@x.io".toList) = none := by
  have bounded := @wrongCompares_le_maxAttempts .plain
    (.registration "a@x.io".toList) [] .oneToSix codeStored (some 300000) rfl
    (by decide +kernel) (otpCheck_readsBack _) _ _
    (Trace.of_replay_get racingGuesses racingGuesses_enabled)
    (by decide +kernel) (by decide +kernel)
  exact ⟨bounded.1, bounded.2 (by decide +kernel) (by decide +kernel)⟩

/-- Four requests come to the comparison before any of them has written the
attempts back. -/
def fourGuesses : List AccountAction :=
  [guess, guess, guess, guess,
    .await 0 .resolves, .await 1 .resolves, .await 2 .resolves,
    .await 3 .resolves, .await 0 .resolves, .await 1 .resolves,
    .await 2 .resolves, .await 3 .resolves, .await 0 .resolves,
    .await 1 .resolves, .await 2 .resolves, .await 3 .resolves,
    .await 0 .resolves, .await 1 .resolves, .await 2 .resolves,
    .await 3 .resolves]

/-- Four wrong codes are compared, one attempt is counted, and the code lives
on with no lock. -/
theorem four_guesses_count_once :
    ∃ history state,
      Trace (accountServer .plain).step codeStored history state ∧
      StepsMeet (OnlyVerifies (.registration "a@x.io".toList)) history ∧
      wrongCompares (.registration "a@x.io".toList) history = 4 ∧
      state.stores.find (.otp "a@x.io".toList) =
        some ⟨"123456:1".toList, some 300000⟩ ∧
      state.stores.find (.otpLock "a@x.io".toList) = none := by
  obtain ⟨history, state, run, holds⟩ :=
    Trace.exists_of_replay (accountServer .plain).step codeStored fourGuesses
      (fun result => decide
        (StepsMeet (OnlyVerifies (.registration "a@x.io".toList)) result.1 ∧
        wrongCompares (.registration "a@x.io".toList) result.1 = 4 ∧
        result.2.stores.find (.otp "a@x.io".toList) =
          some ⟨"123456:1".toList, some 300000⟩ ∧
        result.2.stores.find (.otpLock "a@x.io".toList) = none))
      (by decide +kernel)
  exact ⟨history, state, run, of_decide_eq_true holds⟩

end ConcertTicketing.Accounts
