import ConcertTicketing.Accounts.LoginLockout

/-!
# The time to live of the counters

`INCR` creates a counter and a second command gives it 900 seconds.  Nobody
repairs a counter whose second command is lost: later increments do not set a
time to live, and the counter locks its address for ever.
-/

namespace ConcertTicketing.Accounts

open Redis

def ExpiresCounter (key : CounterKey) (call : AccountCall) : Prop :=
  call.counter? = some (key, .expires)

instance (key : CounterKey) (call : AccountCall) :
    Decidable (ExpiresCounter key call) :=
  inferInstanceAs (Decidable (_ = _))

/-- A counter without a time to live is left: the increment that creates it is
reported as an error, or the command that should give it one does not take
effect. -/
def losesTtl (key : CounterKey) (state : AccountState) (index : Nat)
    (outcome : Await) : Bool :=
  match (state.calls[index]?).bind AccountCall.counter? with
  | some (owner, .increments) =>
      decide (owner = key ∧ outcome = .rejects true) &&
        (state.stores.findCount key).isNone
  | some (owner, .expires) =>
      decide (owner = key ∧ outcome.Applies = false) &&
        (state.stores.findCount key).any fun entry => entry.expireAt.isNone
  | _ => false

/-- When the time to live is lost, another request is about to set it. -/
def KeepsTtl (key : CounterKey) (state : AccountState) :
    AccountAction → Prop
  | .await index outcome =>
      losesTtl key state index outcome = true →
        ∃ call ∈ state.calls.eraseIdx index, ExpiresCounter key call
  | _ => True

instance (key : CounterKey) (state : AccountState) :
    (action : AccountAction) → Decidable (KeepsTtl key state action)
  | .external _ => inferInstanceAs (Decidable True)
  | .request _ => inferInstanceAs (Decidable True)
  | .await _ _ => inferInstanceAs (Decidable (_ → ∃ _ ∈ _, _))

/-- A counter ends within 900 seconds, or a request is about to see to it. -/
structure Timed (key : CounterKey) (state : AccountState) : Prop where
  soon : ∀ entry, state.stores.findCount key = some entry →
    ∀ deadline, entry.expireAt = some deadline →
      deadline ≤ state.stores.now + 900000
  attended : ∀ entry, state.stores.findCount key = some entry →
    entry.expireAt = none → ∃ waiter ∈ state.calls, ExpiresCounter key waiter

section Steps

variable {lib : Libraries} {key : CounterKey} {state next : AccountState}
  {action : AccountAction}

/-- The request that creates a counter is the one to give it a time to live. -/
theorem expires_of_created (lib : Libraries) {call : AccountCall}
    {pending : Awaited AccountCall} (waits : call.pending = some pending)
    {stores : AccountStores}
    (increments : call.counter? = some (key, .increments))
    (absent : stores.findCount key = none) :
    ExpiresCounter key
      ((accountServer lib).answer call pending stores .resolves).2 := by
  have zero : stores.count key = 0 := by
    simp only [AccountStores.count, absent]
    rfl
  have first := incr_reply lib key stores
  rw [zero, if_pos (by omega)] at first
  unfold AccountCall.counter? at increments
  split at increments
  · next input =>
      cases increments
      cases waits
      change ExpiresCounter _ (.resendOtp ⟨input,
        (resendOtp input .incrResend).next
          (perform lib (.incr (.otpResend input.email)) stores).1⟩)
      rw [first]
      rfl
  · cases increments
  · next input =>
      cases increments
      cases waits
      change ExpiresCounter _ (.login ⟨input, (login input .incrFail).next
        (perform lib (.incr (.loginFail input.email)) stores).1⟩)
      rw [first]
      rfl
  · cases increments
  · cases increments
  · cases increments

/-- A request that is about to set the time to live still is when another call
has taken a step. -/
theorem expires_elsewhere {index : Nat} {call : AccountCall}
    (found : state.calls[index]? = some call)
    (other : ¬ ExpiresCounter key call) (changed : AccountCall)
    (waiting : ∃ call ∈ state.calls, ExpiresCounter key call) :
    ∃ call ∈ state.calls.set index changed, ExpiresCounter key call := by
  obtain ⟨waiter, member, expires⟩ := waiting
  refine ⟨waiter, ?_, expires⟩
  apply mem_set_of_mem_eraseIdx
  refine mem_eraseIdx_of_ne found member ?_
  intro same
  subst waiter
  exact other expires

/-- What a call leaves in the counter is the entry of before, one with its
deadline, a new one without deadline, or one that has just got its time. -/
inductive CounterStep (key : CounterKey) (stores : AccountStores)
    (call : AccountCall) : Entry Nat → Prop
  | same (entry : Entry Nat) (before : stores.findCount key = some entry)
      (keeps : ¬ ExpiresCounter key call) :
      CounterStep key stores call entry
  | incremented (earlier : Entry Nat) (number : Nat)
      (before : stores.findCount key = some earlier)
      (keeps : ¬ ExpiresCounter key call) :
      CounterStep key stores call ⟨number, earlier.expireAt⟩
  | created (number : Nat) (absent : stores.findCount key = none)
      (increments : call.counter? = some (key, .increments)) :
      CounterStep key stores call ⟨number, none⟩
  | expiring (number : Nat) :
      CounterStep key stores call ⟨number, some (stores.now + 900000)⟩

private theorem counterStep_of_left {call : AccountCall}
    {stores : AccountStores} {entry : Entry Nat}
    (left : countLeft call key stores = some entry) :
    CounterStep key stores call entry := by
  unfold countLeft at left
  split at left
  · next owner role counts =>
      by_cases same : owner = key
      · subst owner
        rw [if_pos rfl] at left
        cases role with
        | increments =>
            have keeps : ¬ ExpiresCounter key call := by
              unfold ExpiresCounter
              rw [counts]
              intro expires
              cases expires
            simp only [CounterRole.countAfter] at left
            split at left
            · cases before : stores.findCount key with
              | none =>
                  rw [before] at left
                  cases left
                  exact .created _ before counts
              | some earlier =>
                  rw [before] at left
                  cases left
                  exact .incremented earlier _ before keeps
            · exact .same entry left keeps
        | expires =>
            obtain ⟨earlier, _, rfl⟩ := Option.map_eq_some_iff.mp left
            exact .expiring earlier.value
        | deletes => cases left
      · rw [if_neg same] at left
        refine .same entry left ?_
        unfold ExpiresCounter
        rw [counts]
        intro expires
        cases expires
        exact same rfl
  · next counts =>
      refine .same entry left ?_
      unfold ExpiresCounter
      rw [counts]
      intro expires
      cases expires

/-- The time to live of a created counter is not lost. -/
theorem created_expires {index : Nat} {outcome : Await} {call : AccountCall}
    {pending : Awaited AccountCall}
    (found : state.calls[index]? = some call)
    (waits : call.pending = some pending)
    (keeps : KeepsTtl key state (.await index outcome))
    (applies : outcome.Applies = true)
    (increments : call.counter? = some (key, .increments))
    (absent : state.stores.findCount key = none) :
    ∃ waiter ∈ state.calls.set index
        ((accountServer lib).answer call pending state.stores outcome).2,
      ExpiresCounter key waiter := by
  cases outcome with
  | resolves =>
      refine ⟨_, List.mem_set (List.getElem?_eq_some_iff.mp found).1 _, ?_⟩
      exact expires_of_created lib waits increments absent
  | rejects applied =>
      have isApplied : applied = true := applies
      subst applied
      have loses : losesTtl key state index (.rejects true) = true := by
        simp only [losesTtl, found, Option.bind_some, increments, absent,
          Option.isNone_none, and_self, decide_true, Bool.and_self]
      obtain ⟨waiter, member, expires⟩ := keeps loses
      exact ⟨waiter, mem_set_of_mem_eraseIdx member _, expires⟩
  | stops => cases applies

/-- A command that does not take effect leaves a counter without deadline to
another request. -/
theorem missed_expires {index : Nat} {outcome : Await} {call : AccountCall}
    (found : state.calls[index]? = some call)
    (keeps : KeepsTtl key state (.await index outcome))
    (missed : ¬ outcome.Applies = true) {entry : Entry Nat}
    (live : state.stores.findCount key = some entry)
    (timeless : entry.expireAt = none)
    (waiting : ∃ waiter ∈ state.calls, ExpiresCounter key waiter)
    (changed : AccountCall) :
    ∃ waiter ∈ state.calls.set index changed, ExpiresCounter key waiter := by
  by_cases expires : ExpiresCounter key call
  · have role : call.counter? = some (key, .expires) := expires
    have loses : losesTtl key state index outcome = true := by
      simp only [losesTtl, found, Option.bind_some, role, live,
        Bool.eq_false_iff.mpr missed, and_self, decide_true, Option.any_some,
        timeless, Option.isNone_none, Bool.and_self]
    obtain ⟨waiter, member, isExpiring⟩ := keeps loses
    exact ⟨waiter, mem_set_of_mem_eraseIdx member _, isExpiring⟩
  · exact expires_elsewhere found expires changed waiting

theorem Timed.answer (timed : Timed key state) {index : Nat} {outcome : Await}
    {call : AccountCall} {pending : Awaited AccountCall}
    (found : state.calls[index]? = some call)
    (waits : call.pending = some pending)
    (keeps : KeepsTtl key state (.await index outcome)) :
    Timed key
      ⟨((accountServer lib).answer call pending state.stores outcome).1,
        state.calls.set index
          ((accountServer lib).answer call pending state.stores outcome).2⟩ := by
  have left := findCount_answer lib waits key state.stores outcome
  have sameNow := now_answer lib call pending state.stores outcome
  by_cases applies : outcome.Applies = true
  · rw [if_pos applies] at left
    refine ⟨?_, ?_⟩
    · intro entry live deadline ends
      simp only at live ⊢
      rw [left] at live
      rw [sameNow]
      cases counterStep_of_left live with
      | same _ before other => exact timed.soon entry before deadline ends
      | incremented earlier number before other =>
          exact timed.soon earlier before deadline ends
      | created number absent increments => cases ends
      | expiring number =>
          cases ends
          exact le_refl _
    · intro entry live timeless
      simp only at live ⊢
      rw [left] at live
      cases counterStep_of_left live with
      | same _ before other =>
          exact expires_elsewhere found other _
            (timed.attended entry before timeless)
      | incremented earlier number before other =>
          exact expires_elsewhere found other _
            (timed.attended earlier before timeless)
      | created number absent increments =>
          exact created_expires found waits keeps applies increments absent
      | expiring number => cases timeless
  · rw [if_neg applies] at left
    refine ⟨?_, ?_⟩
    · intro entry live deadline ends
      simp only at live ⊢
      rw [left] at live
      rw [sameNow]
      exact timed.soon entry live deadline ends
    · intro entry live timeless
      simp only at live ⊢
      rw [left] at live
      exact missed_expires found keeps applies live timeless
        (timed.attended entry live timeless) _

theorem Timed.step (timed : Timed key state)
    (stepped : (accountServer lib).step state action = some next)
    (keeps : KeepsTtl key state action) : Timed key next := by
  cases Server.step_cases stepped with
  | external event =>
      cases event with
      | tick elapsed =>
          have before : ∀ {entry},
              (state.stores.tick elapsed).findCount key = some entry →
                state.stores.findCount key = some entry := by
            intro entry live
            rw [AccountStores.findCount_tick] at live
            exact (Option.filter_eq_some_iff.mp live).1
          refine ⟨?_, ?_⟩
          · intro entry live deadline ends
            have soon := timed.soon entry (before live) deadline ends
            have later : state.stores.now ≤ (state.stores.tick elapsed).now :=
              Int.le_add_of_nonneg_right (Int.natCast_nonneg elapsed)
            exact soon.trans (Int.add_le_add_right later 900000)
          · intro entry live
            exact timed.attended entry (before live)
  | requested input call accepted =>
      refine ⟨timed.soon, ?_⟩
      intro entry live timeless
      obtain ⟨waiter, member, expires⟩ := timed.attended entry live timeless
      exact ⟨waiter, List.mem_append_left _ member, expires⟩
  | awaited index outcome call pending found waits =>
      exact timed.answer found waits keeps

theorem Timed.of_run {users : Users} {origin : Instant}
    {history : AccountHistory}
    (run : Trace (accountServer lib).step (AccountState.init users origin)
      history state)
    (keeps : StepsMeet (KeepsTtl key) history) : Timed key state := by
  refine Trace.invariantUnder (KeepsTtl key) (Timed key) ?_ ?_ run keeps
  · refine ⟨?_, ?_⟩
    · intro entry live
      cases live
    · intro entry live
      cases live
  · intro before action after timed meets stepped
    exact timed.step stepped meets

/-- A request that awaits nothing is not about to do anything. -/
theorem not_expires_of_ended {call : AccountCall}
    (ended : call.pending = none) : ¬ ExpiresCounter key call := by
  intro expires
  unfold ExpiresCounter AccountCall.counter? at expires
  split at expires
  · cases expires
  · cases ended
  · cases expires
  · cases ended
  · cases expires
  · cases expires

end Steps

/-- In a run in which no time to live is lost, a counter ends within 900
seconds whenever no request is in flight, and is gone after them. -/
theorem counter_ends {lib : Libraries} {key : CounterKey} {users : Users}
    {origin : Instant} {history : AccountHistory} {state : AccountState}
    (run : Trace (accountServer lib).step (AccountState.init users origin)
      history state)
    (keeps : StepsMeet (KeepsTtl key) history)
    (idle : ∀ call ∈ state.calls, call.pending.isNone = true) :
    (∀ entry, state.stores.findCount key = some entry →
      ∃ deadline, entry.expireAt = some deadline ∧
        deadline ≤ state.stores.now + 900000) ∧
    (state.stores.tick 900000).findCount key = none := by
  have timed : Timed key state := .of_run run keeps
  have ends : ∀ entry, state.stores.findCount key = some entry →
      ∃ deadline, entry.expireAt = some deadline ∧
        deadline ≤ state.stores.now + 900000 := by
    intro entry live
    cases deadline : entry.expireAt with
    | none =>
        obtain ⟨waiter, member, expires⟩ := timed.attended entry live deadline
        have ended := Option.isNone_iff_eq_none.mp (idle waiter member)
        exact absurd expires (not_expires_of_ended ended)
    | some time => exact ⟨time, rfl, timed.soon entry live time deadline⟩
  refine ⟨ends, ?_⟩
  rw [AccountStores.findCount_tick, Option.filter_eq_none_iff]
  intro entry live
  obtain ⟨deadline, isDeadline, soon⟩ := ends entry live
  unfold AccountStores.liveLater
  rw [decide_eq_true_iff]
  intro stillLive
  have later := stillLive deadline isDeadline
  exact absurd soon (not_le_of_gt later)

/-- One user with the password `secret`. -/
def oneCustomer : Users :=
  ⟨[⟨1, "a@x.io".toList, "secret".toList, "A".toList, none, .active,
    [.user]⟩], List.nodup_singleton _, List.nodup_singleton _⟩

/-- A login has counted its failure and comes to the `EXPIRE` when another
login deletes the counter and a third one counts again.  Then the process of
the first stops. -/
def stoppedBeforeExpire : List AccountAction :=
  [guesses, .await 0 .resolves, .await 0 .resolves, .await 0 .resolves,
    .await 0 .resolves, guessesWith "secret", .await 1 .resolves,
    .await 1 .resolves, .await 1 .resolves, .await 1 .resolves,
    .await 1 .resolves, .await 1 .resolves, guesses, .await 2 .resolves,
    .await 2 .resolves, .await 2 .resolves, .await 2 .resolves,
    .await 0 .stops, .await 2 .resolves]

private theorem stoppedBeforeExpire_enabled :
    (replay (accountServer .plain).step [] (AccountState.init oneCustomer 0)
      stoppedBeforeExpire).isSome = true := by
  decide +kernel

def afterStop : AccountHistory × AccountState :=
  (replay (accountServer .plain).step [] (AccountState.init oneCustomer 0)
    stoppedBeforeExpire).get stoppedBeforeExpire_enabled

theorem counter_ends_stoppedBeforeExpire :
    (∃ entry, afterStop.2.stores.findCount (.loginFail "a@x.io".toList) =
        some entry ∧
      ∃ deadline, entry.expireAt = some deadline ∧
        deadline ≤ afterStop.2.stores.now + 900000) ∧
    (afterStop.2.stores.tick 900000).findCount
      (.loginFail "a@x.io".toList) = none := by
  have ends := @counter_ends .plain (.loginFail "a@x.io".toList) _ _ _ _
    (Trace.of_replay_get stoppedBeforeExpire stoppedBeforeExpire_enabled)
    (by decide +kernel) (by decide +kernel)
  have counted : afterStop.2.stores.findCount (.loginFail "a@x.io".toList) =
      some ⟨1, some 900000⟩ := by
    decide +kernel
  exact ⟨⟨_, counted, ends.1 _ counted⟩, ends.2⟩

/-- A login fails, the process stops between the two commands, and four more
logins fail; a last one comes a year later. -/
def stoppedGuess : List AccountAction :=
  [guesses, .await 0 .resolves, .await 0 .resolves, .await 0 .resolves,
    .await 0 .stops] ++
  ((List.range 4).flatMap fun index =>
    [guesses, .await (index + 1) .resolves, .await (index + 1) .resolves,
      .await (index + 1) .resolves]) ++
  [.external (.tick 31536000000), guesses, .await 5 .resolves]

/-- The counter stays for ever, and with it the lockout. -/
theorem lockout_stays :
    ∃ history state,
      Trace (accountServer .plain).step nobody history state ∧
      (∀ call ∈ state.calls, call.pending.isNone = true) ∧
      state.stores.findCount (.loginFail "a@x.io".toList) = some ⟨5, none⟩ ∧
      state.calls[5]? = some (AccountCall.login
        ⟨⟨"a@x.io".toList, "guess".toList, none, 1⟩,
          .finished (.error .loginLocked)⟩) := by
  obtain ⟨history, state, run, holds⟩ :=
    Trace.exists_of_replay (accountServer .plain).step nobody stoppedGuess
      (fun result => decide
        ((∀ call ∈ result.2.calls, call.pending.isNone = true) ∧
        result.2.stores.findCount (.loginFail "a@x.io".toList) =
          some ⟨5, none⟩ ∧
        result.2.calls[5]? = some (AccountCall.login
          ⟨⟨"a@x.io".toList, "guess".toList, none, 1⟩,
            .finished (.error .loginLocked)⟩)))
      (by decide +kernel)
  exact ⟨history, state, run, of_decide_eq_true holds⟩

end ConcertTicketing.Accounts
