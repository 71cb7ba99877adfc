import ConcertTicketing.Accounts.System

/-!
# The stored codes of a registration

Whatever the requests do to each other, the text under `otp:email` is always a
generated code with fewer failed attempts than the limit, and so is every text
that a failed guess is going to write back.
-/

namespace ConcertTicketing.Accounts

open Redis

def HasAttempts (stored : StoredCode) : Prop :=
  ∃ (otp : Otp) (attempts : Nat),
    stored = .generated [] otp attempts ∧ attempts < 3

/-- What a failed guess is going to write back. -/
def Renews : CheckStage → Prop
  | .ttl renewed => HasAttempts renewed
  | .writeBack renewed ttlSeconds => HasAttempts renewed ∧ 0 < ttlSeconds
  | _ => True

structure WellStored (email : Text) (state : AccountState) : Prop where
  stored : ∀ entry, state.stores.find (.otp email) = some entry →
    ∃ stored, HasAttempts stored ∧
      entry.value = (otpCheck email).encode stored
  renews : ∀ call ∈ state.calls, ∀ given stage,
    call.role? = some (.registration email, .checks given stage) →
    Renews stage

private theorem ttlLeft_pos (email : Text) (stores : AccountStores) :
    0 < (otpCheck email).ttlLeft stores := by
  unfold CodeCheck.ttlLeft
  split
  · next positive => exact positive
  · change (0 : Int) < 300
    decide

/-- One more failure is written back only below the limit. -/
theorem HasAttempts.afterFailure {email : Text} {stored : StoredCode}
    (has : HasAttempts stored)
    (below : atLeast (otpCheck email).maxAttempts stored.afterFailure.attempts =
      false) : HasAttempts stored.afterFailure := by
  obtain ⟨otp, attempts, rfl, _⟩ := has
  have notYet : ¬ (3 : Int) ≤ ((attempts + 1 : Nat) : Int) :=
    of_decide_eq_false below
  exact ⟨otp, attempts + 1, rfl, by omega⟩

namespace WellStored

variable {lib : Libraries} {email : Text} {state next : AccountState}
  {action : AccountAction}

theorem read (holds : WellStored email state) {stored : StoredCode}
    (found : (otpCheck email).stored? state.stores = some stored) :
    HasAttempts stored := by
  simp only [CodeCheck.stored?, Option.map_eq_some_iff] at found
  obtain ⟨entry, kept, rfl⟩ := found
  obtain ⟨stored, ⟨otp, attempts, rfl, below⟩, text⟩ :=
    holds.stored entry (Option.filter_eq_some_iff.mp kept).1
  rw [text]
  exact ⟨otp, attempts, otpCheck_readsBack email otp attempts, below⟩

/-- What a step writes back has attempts left. -/
theorem renews_applied (holds : WellStored email state) {given : Text}
    {stage : CheckStage}
    (applied : applied? (.registration email) state action =
      some (.checks given stage)) : Renews stage := by
  obtain ⟨index, outcome, call, _, _, found, plays⟩ :=
    applied?_eq_some.mp applied
  exact holds.renews call (List.mem_of_getElem? found) given stage plays

theorem stored_step (holds : WellStored email state)
    (stepped : (accountServer lib).step state action = some next) :
    ∀ entry, next.stores.find (.otp email) = some entry →
    ∃ stored, HasAttempts stored ∧
      entry.value = (otpCheck email).encode stored := by
  intro entry live
  rcases step_code stepped (.registration email) with
    ⟨elapsed, rfl, later⟩ | ⟨role, applied, left, _⟩ | ⟨_, left, _⟩
  · rw [later, AccountStores.find_tick] at live
    exact holds.stored entry (Option.filter_eq_some_iff.mp live).1
  · have left' : next.stores.find (.otp email) =
        role.codeAfter (otpCheck email) state.stores := left
    rw [left'] at live
    cases role with
    | generates newEmail otp =>
        cases live
        exact ⟨_, ⟨otp, 0, rfl, by omega⟩, rfl⟩
    | accepts otp newEmail => exact holds.stored entry live
    | consumes otp => cases live
    | checks given stage =>
        cases stage with
        | delExhausted => cases live
        | writeBack renewed ttlSeconds =>
            have renews := holds.renews_applied applied
            cases live
            exact ⟨renewed, renews.1, rfl⟩
        | _ => exact holds.stored entry live
  · have left' : next.stores.find (.otp email) =
        state.stores.find (.otp email) := left
    rw [left'] at live
    exact holds.stored entry live

theorem renews_step (holds : WellStored email state)
    (stepped : (accountServer lib).step state action = some next) :
    ∀ call ∈ next.calls, ∀ given stage,
      call.role? = some (.registration email, .checks given stage) →
      Renews stage := by
  intro call member given stage plays
  obtain ⟨index, reached⟩ := List.mem_iff_getElem?.mp member
  cases Server.step_calls stepped reached with
  | kept _ _ found =>
      exact holds.renews call (List.mem_of_getElem? found) given stage plays
  | accepted input _ _ accepts _ =>
      obtain ⟨_, rfl⟩ := accept_eq_some.mp accepts
      obtain ⟨_, same⟩ := AccountCall.role?_request plays
      cases same
      trivial
  | answered outcome earlier pending _ found waits =>
      cases (role_cases lib waits plays).2 with
      | checked _ before _ playsBefore goes =>
          cases goes with
          | failure stored read _ below =>
              exact (holds.read read).afterFailure below
          | timed renewed =>
              have renews := holds.renews earlier
                (List.mem_of_getElem? found) given _ playsBefore
              exact ⟨renews, ttlLeft_pos email _⟩
          | unlocked free => trivial
          | lastFailure stored read wrong isOver => trivial
          | deleted => trivial

theorem base {start : AccountState} (idle : start.calls = [])
    (empty : start.stores.find (.otp email) = none) :
    WellStored email start := by
  refine ⟨?_, ?_⟩
  · intro entry live
    rw [empty] at live
    cases live
  · rw [idle]
    exact List.forall_mem_nil _

theorem of_run {start : AccountState} (idle : start.calls = [])
    (empty : start.stores.find (.otp email) = none) {history : AccountHistory}
    (run : Trace (accountServer lib).step start history state) :
    WellStored email state := by
  refine Trace.invariant (WellStored email) (base idle empty) ?_ run
  intro before action after holds stepped
  exact ⟨holds.stored_step stepped, holds.renews_step stepped⟩

end WellStored

end ConcertTicketing.Accounts
