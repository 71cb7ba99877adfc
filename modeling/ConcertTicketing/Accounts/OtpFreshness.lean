import ConcertTicketing.Accounts.StoredCodes

/-!
# The freshness of a code

`verifyOtp` writes a code back after a wrong guess, with a time-to-live that
it has read before.  As long as that only repeats what is under the key, a code
that is accepted is the most recent one, at most 300 seconds old, and not
consumed.
-/

namespace ConcertTicketing.Accounts

open Redis

/-- The last generated code has been deleted by a verification that had
accepted a code. -/
def consumedSince (purpose : Purpose) : AccountHistory → Bool
  | [] => false
  | (state, action) :: older =>
      match applied? purpose state action with
      | some (.generates _ _) => false
      | some (.consumes _) => true
      | _ => consumedSince purpose older

private theorem consumedSince_of_other {purpose : Purpose}
    {state : AccountState} {action : AccountAction}
    (noNew : ∀ newEmail otp,
      applied? purpose state action ≠ some (.generates newEmail otp))
    (noUse : ∀ otp, applied? purpose state action ≠ some (.consumes otp))
    (history : AccountHistory) :
    consumedSince purpose ((state, action) :: history) =
      consumedSince purpose history := by
  unfold consumedSince
  split
  · next applied => exact absurd applied (noNew _ _)
  · next applied => exact absurd applied (noUse _)
  · cases history <;> rfl

/-- A step compares the right code. -/
def accepts (purpose : Purpose) (state : AccountState)
    (action : AccountAction) : Bool :=
  (compared? purpose state action).any fun (otp, stored) =>
    decide (stored.code = some otp)

/-- A code has been accepted after the last one was generated. -/
def acceptedSince (purpose : Purpose) : AccountHistory → Bool
  | [] => false
  | (state, action) :: older =>
      if (generated? purpose state action).isSome then false
      else accepts purpose state action || acceptedSince purpose older

/-- What a step writes back, and for how many seconds. -/
def writesBack? (purpose : Purpose) (state : AccountState)
    (action : AccountAction) : Option (StoredCode × Int) :=
  match applied? purpose state action with
  | some (.checks _ (.writeBack renewed ttlSeconds)) =>
      some (renewed, ttlSeconds)
  | _ => none

/-- A code is written back only while it is under the key, and for no longer
than it is there anyway. -/
def WritesBackInTime (purpose : Purpose) (state : AccountState)
    (action : AccountAction) : Prop :=
  ∀ written ∈ writesBack? purpose state action,
    ∃ entry ∈ state.stores.find purpose.check.key,
      (purpose.check.decode entry.value).code = written.1.code ∧
      ∀ deadline ∈ entry.expireAt,
        state.stores.now + written.2 * 1000 ≤ deadline

instance (purpose : Purpose) (state : AccountState) (action : AccountAction) :
    Decidable (WritesBackInTime purpose state action) :=
  inferInstanceAs (Decidable (∀ _ ∈ writesBack? purpose state action, _))

/-- The code that a verification has accepted and not yet deleted. -/
def AccountCall.accepted? (purpose : Purpose) (call : AccountCall) :
    Option Text :=
  match call.role? with
  | some (owner, .accepts otp _) => if owner = purpose then some otp else none
  | some (owner, .consumes otp) => if owner = purpose then some otp else none
  | _ => none

/-- A code is accepted only when no other verification that has accepted it
still has to delete it. -/
def AcceptsAlone (purpose : Purpose) (state : AccountState)
    (action : AccountAction) : Prop :=
  ∀ both ∈ compared? purpose state action, both.2.code = some both.1 →
    ∀ call ∈ state.calls, call.accepted? purpose ≠ some both.1

instance (purpose : Purpose) (state : AccountState) (action : AccountAction) :
    Decidable (AcceptsAlone purpose state action) :=
  inferInstanceAs (Decidable (∀ _ ∈ compared? purpose state action, _))

/-- What is under the key is the last generated code, and lapses in time. -/
def Fresh (email : Text) (history : AccountHistory) (state : AccountState) :
    Prop :=
  ∀ entry, state.stores.find (.otp email) = some entry →
    ∃ (code : GeneratedCode) (attempts : Nat) (deadline : Instant),
      lastGenerated (.registration email) history = some code ∧
      entry = ⟨(otpCheck email).encode (.generated [] code.otp attempts),
        some deadline⟩ ∧
      deadline ≤ code.storedAt + 300000 ∧
      consumedSince (.registration email) history = false

namespace Fresh

variable {email : Text} {history : AccountHistory} {state : AccountState}

/-- The code that is read is the last generated one. -/
theorem read (fresh : Fresh email history state) {stored : StoredCode}
    (found : (otpCheck email).stored? state.stores = some stored) :
    ∃ (code : GeneratedCode) (attempts : Nat),
      lastGenerated (.registration email) history = some code ∧
      stored = .generated [] code.otp attempts ∧
      state.stores.now < code.storedAt + 300000 ∧
      consumedSince (.registration email) history = false := by
  simp only [CodeCheck.stored?, Option.map_eq_some_iff] at found
  obtain ⟨entry, kept, rfl⟩ := found
  have live := (Option.filter_eq_some_iff.mp kept).1
  obtain ⟨code, attempts, deadline, last, rfl, inTime, unused⟩ :=
    fresh entry live
  have alive := of_decide_eq_true (Option.filter_eq_some_iff.mp live).2
  have beforeDeadline : state.stores.now < deadline := alive deadline rfl
  exact ⟨code, attempts, last, otpCheck_readsBack email code.otp attempts,
    lt_of_lt_of_le beforeDeadline inTime, unused⟩

/-- What is written back in time is the last generated code again. -/
theorem writeBack (fresh : Fresh email history state) {action : AccountAction}
    {given : Text} {renewed : StoredCode} {ttlSeconds : Int}
    (applied : applied? (.registration email) state action =
      some (.checks given (.writeBack renewed ttlSeconds)))
    (inTime : WritesBackInTime (.registration email) state action)
    (renews : Renews (.writeBack renewed ttlSeconds)) :
    ∃ (code : GeneratedCode) (attempts : Nat),
      lastGenerated (.registration email) history = some code ∧
      renewed = .generated [] code.otp attempts ∧
      setDeadline state.stores.now (some ttlSeconds) =
        some (state.stores.now + ttlSeconds * 1000) ∧
      state.stores.now + ttlSeconds * 1000 ≤ code.storedAt + 300000 ∧
      consumedSince (.registration email) history = false := by
  obtain ⟨⟨otp, attempts, rfl, _⟩, positive⟩ := renews
  have writes : writesBack? (.registration email) state action =
      some (.generated [] otp attempts, ttlSeconds) := by
    simp only [writesBack?, applied]
  obtain ⟨entry, live, sameCode, notLonger⟩ := inTime _ writes
  obtain ⟨code, earlier, deadline, last, rfl, early, unused⟩ :=
    fresh entry live
  have readBack : (otpCheck email).decode
      ((otpCheck email).encode (.generated [] code.otp earlier)) =
        .generated [] code.otp earlier :=
    otpCheck_readsBack email code.otp earlier
  have sameText : code.otp.text = otp.text := by
    have same : ((otpCheck email).decode
        ((otpCheck email).encode (.generated [] code.otp earlier))).code =
          some otp.text := sameCode
    rw [readBack] at same
    exact Option.some.inj same
  have bound : state.stores.now + ttlSeconds * 1000 ≤ deadline :=
    notLonger deadline rfl
  refine ⟨code, attempts, last, ?_, if_pos positive, le_trans bound early,
    unused⟩
  simp only [StoredCode.generated, sameText]

theorem step {lib : Libraries} (fresh : Fresh email history state)
    (wellStored : WellStored email state) {action : AccountAction} {next : AccountState}
    (stepped : (accountServer lib).step state action = some next)
    (inTime : WritesBackInTime (.registration email) state action) :
    Fresh email ((state, action) :: history) next := by
  have unseen : ∀ {entry : Entry Text},
      (∀ newEmail otp, applied? (.registration email) state action ≠
        some (.generates newEmail otp)) →
      (∀ otp, applied? (.registration email) state action ≠
        some (.consumes otp)) →
      state.stores.find (.otp email) = some entry →
      ∃ (code : GeneratedCode) (attempts : Nat) (deadline : Instant),
        lastGenerated (.registration email) ((state, action) :: history) =
          some code ∧
        entry = ⟨(otpCheck email).encode (.generated [] code.otp attempts),
          some deadline⟩ ∧
        deadline ≤ code.storedAt + 300000 ∧
        consumedSince (.registration email) ((state, action) :: history) =
          false := by
    intro entry noNew noUse live
    rw [lastGenerated_of_other noNew, consumedSince_of_other noNew noUse]
    exact fresh entry live
  intro entry live
  rcases step_code stepped (.registration email) with
    ⟨elapsed, rfl, later⟩ | ⟨role, applied, left, _⟩ | ⟨idle, left, _⟩
  · rw [later, AccountStores.find_tick] at live
    exact unseen nofun nofun (Option.filter_eq_some_iff.mp live).1
  · have left' : next.stores.find (.otp email) =
        role.codeAfter (otpCheck email) state.stores := left
    rw [left'] at live
    cases role with
    | generates newEmail otp =>
        cases live
        refine ⟨⟨newEmail, otp, state.stores.now⟩, 0, _,
          lastGenerated_of_generates applied history, rfl, ?_, ?_⟩
        · exact le_refl _
        · simp only [consumedSince, applied]
    | checks given stage =>
        have noNew : ∀ newEmail otp,
            applied? (.registration email) state action ≠
              some (.generates newEmail otp) := by
          rw [applied]
          nofun
        have noUse : ∀ otp, applied? (.registration email) state action ≠
            some (.consumes otp) := by
          rw [applied]
          intro otp consumes
          cases consumes
        cases stage with
        | delExhausted => cases live
        | writeBack renewed ttlSeconds =>
            obtain ⟨code, attempts, last, rfl, deadline, bound, unused⟩ :=
              fresh.writeBack applied inTime (wellStored.renews_applied applied)
            cases live
            rw [lastGenerated_of_other noNew,
              consumedSince_of_other noNew noUse, deadline]
            exact ⟨code, attempts, _, last, rfl, bound, unused⟩
        | _ => exact unseen noNew noUse live
    | accepts otp newEmail =>
        apply unseen
        · rw [applied]
          nofun
        · rw [applied]
          nofun
        · exact live
    | consumes otp => cases live
  · rw [show next.stores.find (.otp email) = state.stores.find (.otp email)
      from left] at live
    apply unseen
    · rw [idle]
      nofun
    · rw [idle]
      nofun
    · exact live

theorem base {start : AccountState}
    (empty : start.stores.find (.otp email) = none) : Fresh email [] start := by
  intro entry live
  rw [empty] at live
  cases live

theorem of_run {lib : Libraries} {start : AccountState}
    (idle : start.calls = [])
    (empty : start.stores.find (.otp email) = none)
    (run : Trace (accountServer lib).step start history state)
    (inTime : StepsMeet (WritesBackInTime (.registration email)) history) :
    Fresh email history state := by
  refine Trace.invariantWith (WritesBackInTime (.registration email))
    (Fresh email) (Fresh.base empty) ?_ run inTime
  intro earlier before action after runBefore fresh meets stepped
  exact fresh.step (WellStored.of_run idle empty runBefore) stepped meets

end Fresh

section Acceptors

variable {lib : Libraries} {email : Text} {history : AccountHistory}
  {state next : AccountState} {action : AccountAction}

/-- When the live code has been accepted before, a verification that accepted
it still has to delete it. -/
def AcceptorWaits (email : Text) (history : AccountHistory)
    (state : AccountState) : Prop :=
  ∀ entry code, state.stores.find (.otp email) = some entry →
    lastGenerated (.registration email) history = some code →
    acceptedSince (.registration email) history = true →
    ∃ call ∈ state.calls,
      call.accepted? (.registration email) = some code.otp.text

private theorem accepted?_of_accepts {call : AccountCall}
    {pending : Awaited AccountCall} (waits : call.pending = some pending)
    (stores : AccountStores) {otp newEmail : Text}
    (plays : call.role? = some (.registration email, .accepts otp newEmail)) :
    ((accountServer lib).answer call pending stores .resolves).2.accepted?
      (.registration email) = some otp := by
  obtain ⟨input, stage, rfl, rfl⟩ := AccountCall.verifyOtp_of_role plays nofun
  cases waits
  cases stage with
  | check stage => cases plays
  | activate =>
      cases plays
      exact if_pos rfl
  | delOtp => cases plays

/-- The verification that accepts the code is among those that have to delete
it. -/
theorem acceptor_of_accepts
    (stepped : (accountServer lib).step state action = some next)
    {otp : Text} {stored : StoredCode}
    (compares : compared? (.registration email) state action =
      some (otp, stored)) (same : stored.code = some otp) :
    ∃ call ∈ next.calls, call.accepted? (.registration email) = some otp := by
  obtain ⟨index, call, rfl, found, plays, read⟩ :=
    compared?_eq_some.mp compares
  cases Server.step_cases stepped with
  | awaited _ _ other pending foundToo waits =>
      rw [found] at foundToo
      cases foundToo
      have role := role?_of_check lib waits state.stores plays
      rw [CodeCheck.goOn_of_right lib read same] at role
      refine ⟨_, List.mem_set (List.getElem?_eq_some_iff.mp found).1 _, ?_⟩
      simp only [AccountCall.accepted?, role, checkedRole, if_true]

/-- A verification that has accepted the code waits until it deletes it. -/
theorem acceptor_step
    (stepped : (accountServer lib).step state action = some next)
    (resolves : action.Resolves)
    (keeps : ∀ otp, applied? (.registration email) state action ≠
      some (.consumes otp))
    {call : AccountCall} (member : call ∈ state.calls) {otp : Text}
    (accepted : call.accepted? (.registration email) = some otp) :
    ∃ later ∈ next.calls,
      later.accepted? (.registration email) = some otp := by
  cases Server.step_cases stepped with
  | external event => exact ⟨call, member, accepted⟩
  | requested input new accepts =>
      exact ⟨call, List.mem_append_left _ member, accepted⟩
  | awaited index outcome other pending found waits =>
      cases resolves
      obtain ⟨position, atPosition⟩ := List.mem_iff_getElem?.mp member
      by_cases same : position = index
      · subst position
        rw [found] at atPosition
        cases atPosition
        have inside := (List.getElem?_eq_some_iff.mp found).1
        refine ⟨_, List.mem_set inside _, ?_⟩
        unfold AccountCall.accepted? at accepted
        split at accepted
        · next owner given newEmail plays =>
            simp only [Option.ite_none_right_eq_some,
              Option.some.injEq] at accepted
            obtain ⟨rfl, rfl⟩ := accepted
            exact accepted?_of_accepts waits state.stores plays
        · next owner given plays =>
            simp only [Option.ite_none_right_eq_some,
              Option.some.injEq] at accepted
            obtain ⟨rfl, rfl⟩ := accepted
            have consumes := applied?_eq_some.mpr
              ⟨index, .resolves, call, rfl, rfl, found, plays⟩
            exact absurd consumes (keeps _)
        · cases accepted
      · have kept : (state.calls.set index
            ((accountServer lib).answer other pending state.stores
              .resolves).2)[position]? = some call := by
          rw [List.getElem?_set_ne (Ne.symm same)]
          exact atPosition
        exact ⟨call, List.mem_of_getElem? kept, accepted⟩

/-- A live code that is not new was live before the step. -/
theorem live_before
    (stepped : (accountServer lib).step state action = some next)
    (inTime : WritesBackInTime (.registration email) state action)
    (noNew : generated? (.registration email) state action = none)
    {entry : Entry Text} (live : next.stores.find (.otp email) = some entry) :
    ∃ before, state.stores.find (.otp email) = some before ∧
      ∀ otp, applied? (.registration email) state action ≠
        some (.consumes otp) := by
  rcases step_code stepped (.registration email) with
    ⟨elapsed, rfl, later⟩ | ⟨role, applied, left, _⟩ | ⟨idle, left, _⟩
  · rw [later, AccountStores.find_tick] at live
    refine ⟨entry, (Option.filter_eq_some_iff.mp live).1, ?_⟩
    intro otp consumes
    cases consumes
  · have left' : next.stores.find (.otp email) =
        role.codeAfter (otpCheck email) state.stores := left
    rw [left'] at live
    cases role with
    | generates newEmail otp =>
        rw [generated?, applied] at noNew
        cases noNew
    | consumes otp => cases live
    | accepts otp newEmail =>
        refine ⟨entry, live, ?_⟩
        rw [applied]
        intro other consumes
        cases consumes
    | checks given stage =>
        have keeps : ∀ otp, applied? (.registration email) state action ≠
            some (.consumes otp) := by
          rw [applied]
          intro otp consumes
          cases consumes
        cases stage with
        | delExhausted => cases live
        | writeBack renewed ttlSeconds =>
            have writes : writesBack? (.registration email) state action =
                some (renewed, ttlSeconds) := by
              simp only [writesBack?, applied]
            obtain ⟨before, found, _⟩ := inTime _ writes
            exact ⟨before, found, keeps⟩
        | _ => exact ⟨entry, live, keeps⟩
  · have left' : next.stores.find (.otp email) =
        state.stores.find (.otp email) := left
    rw [left'] at live
    refine ⟨entry, live, ?_⟩
    rw [idle]
    intro otp consumes
    cases consumes

private theorem accepts_eq_true {purpose : Purpose} :
    accepts purpose state action = true ↔
      ∃ otp stored, compared? purpose state action = some (otp, stored) ∧
        stored.code = some otp := by
  simp only [accepts, Option.any_eq_true, decide_eq_true_eq, Prod.exists]

theorem AcceptorWaits.step (waits : AcceptorWaits email history state)
    (fresh : Fresh email history state)
    (stepped : (accountServer lib).step state action = some next)
    (inTime : WritesBackInTime (.registration email) state action)
    (resolves : action.Resolves) :
    AcceptorWaits email ((state, action) :: history) next := by
  intro entry code live last accepted
  simp only [acceptedSince] at accepted
  split at accepted
  · cases accepted
  · next notNew =>
      have noNew : generated? (.registration email) state action = none := by
        simpa using notNew
      have lastBefore : lastGenerated (.registration email) history =
          some code := by
        rw [lastGenerated, noNew, Option.none_or] at last
        exact last
      obtain ⟨before, found, keeps⟩ := live_before stepped inTime noNew live
      rcases Bool.or_eq_true_iff.mp accepted with now | earlier
      · obtain ⟨otp, stored, compares, same⟩ := accepts_eq_true.mp now
        obtain ⟨_, _, _, _, _, read⟩ := compared?_eq_some.mp compares
        obtain ⟨other, attempts, isLast, rfl, _⟩ := fresh.read read
        rw [lastBefore] at isLast
        cases isLast
        have sameText : code.otp.text = otp := Option.some.inj same
        rw [sameText]
        exact acceptor_of_accepts stepped compares same
      · obtain ⟨call, member, holds⟩ := waits before code found lastBefore
          earlier
        exact acceptor_step stepped resolves keeps member holds

theorem AcceptorWaits.of_run {start : AccountState} (idle : start.calls = [])
    (empty : start.stores.find (.otp email) = none)
    (run : Trace (accountServer lib).step start history state)
    (inTime : StepsMeet (WritesBackInTime (.registration email)) history)
    (resolve : StepsMeet (fun _ action => action.Resolves) history) :
    AcceptorWaits email history state := by
  have both : StepsMeet (fun state action =>
      WritesBackInTime (.registration email) state action ∧
        action.Resolves) history := by
    intro entry member
    exact ⟨inTime entry member, resolve entry member⟩
  have holds : Fresh email history state ∧
      AcceptorWaits email history state := by
    refine Trace.invariantWith _
      (fun earlier current => Fresh email earlier current ∧
        AcceptorWaits email earlier current) ?_ ?_ run both
    · refine ⟨Fresh.base empty, ?_⟩
      intro entry code live
      rw [empty] at live
      cases live
    · intro earlier before action after runBefore holds meets stepped
      have wellStored := WellStored.of_run idle empty runBefore
      exact ⟨holds.1.step wellStored stepped meets.1,
        holds.2.step holds.1 stepped meets.1 meets.2⟩
  exact holds.2

end Acceptors

/-- In a run that writes codes back in time, a code that is accepted is the
most recently generated one, at most 300 seconds old, and no verification has
consumed it.  Without failures and with one acceptance at a time, nobody has
accepted it before. -/
theorem accepted_code_fresh {lib : Libraries} {email : Text}
    {start : AccountState} (idle : start.calls = [])
    (empty : start.stores.find (.otp email) = none)
    {history : AccountHistory} {state : AccountState}
    (run : Trace (accountServer lib).step start history state)
    (inTime : StepsMeet (WritesBackInTime (.registration email)) history)
    {action : AccountAction} {otp : Text} {stored : StoredCode}
    (compares : compared? (.registration email) state action =
      some (otp, stored))
    (right : stored.code = some otp) :
    (∃ code, lastGenerated (.registration email) history = some code ∧
      code.otp.text = otp ∧
      state.stores.now ≤ code.storedAt + 300000) ∧
    consumedSince (.registration email) history = false ∧
    (StepsMeet (fun _ action => action.Resolves) history →
      AcceptsAlone (.registration email) state action →
      acceptedSince (.registration email) history = false) := by
  have fresh := Fresh.of_run idle empty run inTime
  obtain ⟨_, _, _, _, _, read⟩ := compared?_eq_some.mp compares
  obtain ⟨code, attempts, last, rfl, young, unused⟩ := fresh.read read
  have sameText : code.otp.text = otp := Option.some.inj right
  refine ⟨⟨code, last, sameText, young.le⟩, unused, ?_⟩
  intro resolve alone
  rw [Bool.eq_false_iff]
  intro accepted
  have waits := AcceptorWaits.of_run idle empty run inTime resolve
  simp only [CodeCheck.stored?, Option.map_eq_some_iff] at read
  obtain ⟨entry, kept, _⟩ := read
  have live := (Option.filter_eq_some_iff.mp kept).1
  obtain ⟨call, member, holds⟩ := waits entry code live last accepted
  have notThere := alone _ compares right call member
  rw [sameText] at holds
  exact notThere holds

def nobody : AccountState :=
  .init .empty 0

/-- Somebody registers under `a@x.io` and is sent the code 123456. -/
def registers : List AccountAction :=
  [.request (.register ⟨"a@x.io".toList, "password".toList, "A".toList, none,
      [], .oneToSix⟩),
    .await 0 .resolves, .await 0 .resolves, .await 0 .resolves,
    .await 0 .resolves]

def verifies (otp : String) : AccountAction :=
  .request (.verifyOtp ⟨"a@x.io".toList, otp.toList⟩)

/-- A wrong guess is written back in time, and the next step of the third
request compares the right code. -/
def rightCode : List AccountAction :=
  registers ++ [.external (.tick 1000), verifies "000000", .await 1 .resolves,
    .await 1 .resolves, .await 1 .resolves, .await 1 .resolves,
    .external (.tick 1000), verifies "123456", .await 2 .resolves]

private theorem rightCode_enabled :
    (replay (accountServer .plain).step [] nobody rightCode).isSome = true := by
  decide +kernel

def afterRightCode : AccountHistory × AccountState :=
  (replay (accountServer .plain).step [] nobody rightCode).get
    rightCode_enabled

theorem accepted_code_fresh_rightCode :
    (∃ code, lastGenerated (.registration "a@x.io".toList)
        afterRightCode.1 = some code ∧
      code.otp.text = "123456".toList ∧
      afterRightCode.2.stores.now ≤ code.storedAt + 300000) ∧
    consumedSince (.registration "a@x.io".toList) afterRightCode.1 = false ∧
    acceptedSince (.registration "a@x.io".toList) afterRightCode.1 =
      false := by
  obtain ⟨young, unused, unaccepted⟩ :=
    @accepted_code_fresh .plain "a@x.io".toList nobody rfl (by decide +kernel)
      _ _ (Trace.of_replay_get rightCode rightCode_enabled)
      (by decide +kernel) (.await 2 .resolves) "123456".toList
      ⟨[], some "123456".toList, some 1⟩ (by decide +kernel) rfl
  exact ⟨young, unused, unaccepted (by decide +kernel) (by decide +kernel)⟩

/-- A wrong guess in the last half second of a code, and the right one 299
seconds later. -/
def lateGuess : List AccountAction :=
  registers ++ [.external (.tick 299800), verifies "000000",
    .await 1 .resolves, .await 1 .resolves, .await 1 .resolves,
    .await 1 .resolves, .external (.tick 299000), verifies "123456",
    .await 2 .resolves]

/-- The wrong guess gives the code 300 seconds more: it is accepted almost ten
minutes after it was generated. -/
theorem old_code_accepted :
    ∃ history state,
      Trace (accountServer .plain).step nobody history state ∧
      compared? (.registration "a@x.io".toList) state (.await 2 .resolves) =
        some ("123456".toList, ⟨[], some "123456".toList, some 1⟩) ∧
      lastGenerated (.registration "a@x.io".toList) history =
        some ⟨[], .oneToSix, 0⟩ ∧
      state.stores.now = 598800 := by
  obtain ⟨history, state, run, holds⟩ :=
    Trace.exists_of_replay (accountServer .plain).step nobody lateGuess
      (fun result => decide
        (compared? (.registration "a@x.io".toList) result.2
            (.await 2 .resolves) =
          some ("123456".toList, ⟨[], some "123456".toList, some 1⟩) ∧
        lastGenerated (.registration "a@x.io".toList) result.1 =
          some ⟨[], .oneToSix, 0⟩ ∧
        result.2.stores.now = 598800))
      (by decide +kernel)
  exact ⟨history, state, run, of_decide_eq_true holds⟩

end ConcertTicketing.Accounts
