import ConcertTicketing.Sessions.Logout
import Mathlib.Data.Rat.Floor

/-!
# Logged-out tokens in a running server

Logouts, guarded requests, logins and time interleave as they like.  From the
moment a logout has set the blacklist key, or has found nothing to set, the
guard rejects its token for good, and no logout touches the token of another
`jti`.
-/

namespace ConcertTicketing.Sessions

open RealTime

universe w

section

variable {𝕜 : Type w} [Field 𝕜] [LinearOrder 𝕜] [FloorRing 𝕜]

/-- The answer when nothing comes between the two lookups. -/
def Answers (stores : SessionStores 𝕜) (payload : JwtPayload)
    (result : Except AuthError JwtPayload) : Prop :=
  (sessionServer 𝕜).Ends (fun _ => .resolves) stores
    (SessionRequest.access payload).call stores
    (.access ⟨payload, .finished result⟩)

variable {stores : SessionStores 𝕜} {payload : JwtPayload}

/-- A lookup leaves the stores alone. -/
theorem access_next {stage : GuardStage} {last : SessionCall}
    (rest : (sessionServer 𝕜).Ends (fun _ => .resolves) stores
      (.access ⟨payload,
        Call.goOn perform jwtAuthGuard payload stage stores .resolves⟩)
      stores last) :
    (sessionServer 𝕜).Ends (fun _ => .resolves) stores
      (.access ⟨payload, .running stage⟩) stores last := by
  refine (hosts_access 𝕜).ends_next .resolves rfl ?_
  cases stage <;> exact rest

private theorem answers_invalid (fails : verifies stores payload = false) :
    Answers stores payload (.error .invalid) := by
  refine access_next ?_
  simp only [Call.goOn, jwtAuthGuard, perform, fails]
  exact .ended rfl

/-- The verifier lets the request through to the second lookup. -/
theorem answers_of_verified (holds : verifies stores payload = true)
    {result : Except AuthError JwtPayload}
    (looked : Call.goOn perform jwtAuthGuard payload .existsBlacklist stores
      .resolves = .finished result) : Answers stores payload result := by
  refine access_next ?_
  simp only [Call.goOn, jwtAuthGuard, perform, holds]
  refine access_next ?_
  rw [looked]
  exact .ended rfl

private theorem answers_blacklisted (holds : verifies stores payload = true)
    (blacklisted : Blacklisted stores payload) :
    Answers stores payload (.error .blacklisted) := by
  refine answers_of_verified holds ?_
  rw [Blacklisted] at blacklisted
  simp only [Call.goOn, jwtAuthGuard, perform, blacklisted]
  rfl

private theorem answers_ok (holds : verifies stores payload = true)
    (clear : ¬ Blacklisted stores payload) :
    Answers stores payload (.ok payload) := by
  refine answers_of_verified holds ?_
  rw [Blacklisted, Bool.not_eq_true] at clear
  simp only [Call.goOn, jwtAuthGuard, perform, clear]
  rfl

private theorem perform_access (payload : JwtPayload) (stage : GuardStage)
    (stores : SessionStores 𝕜) :
    (perform (jwtAuthGuard payload stage).command stores).2 = stores := by
  cases stage <;> rfl

private theorem settled_goOn {payload : JwtPayload} {stage : LogoutStage}
    (settles : LogoutProgress.settled (.running stage) = true)
    (stores : SessionStores 𝕜) (outcome : Await) :
    LogoutProgress.settled
      (Call.goOn perform logout payload stage stores outcome) = true := by
  cases stage with
  | createAuditLog => cases outcome <;> rfl
  | _ => cases settles

/-- A logout writes the key of its own token, and has then settled. -/
theorem settled_of_write {payload : JwtPayload} {jti : Text}
    {stage : LogoutStage} {stores : SessionStores 𝕜} {outcome : Await}
    (applies : outcome.Applies = true)
    (changed : (perform (logout payload stage).command stores).2.entries
      (blacklistKey jti) ≠ stores.entries (blacklistKey jti)) :
    payload.jti = jti ∧
      LogoutProgress.settled
        (Call.goOn perform logout payload stage stores outcome) = true := by
  cases stage with
  | guard stage => cases stage <;> exact absurd rfl changed
  | dateNow => exact absurd rfl changed
  | setBlacklist remainingTtl =>
      constructor
      · by_contra different
        apply changed
        exact entries_withBlacklisted stores (Ne.symm different) remainingTtl
      · cases outcome with
        | resolves => rfl
        | rejects applied => exact applies
        | stops => cases applies
  | createAuditLog => exact absurd rfl changed

/-- Only a lookup that finds nothing lets a request through. -/
theorem not_blacklisted_of_goOn {payload : JwtPayload} {stage : GuardStage}
    {stores : SessionStores 𝕜} {outcome : Await} {result : JwtPayload}
    (through : Call.goOn perform jwtAuthGuard payload stage stores outcome =
      .finished (.ok result)) : ¬ Blacklisted stores payload := by
  intro blacklisted
  rw [Blacklisted] at blacklisted
  cases outcome with
  | resolves =>
      cases stage with
      | verify =>
          simp only [Call.goOn, jwtAuthGuard] at through
          split at through <;> cases through
      | existsBlacklist =>
          simp only [Call.goOn, jwtAuthGuard, perform, blacklisted]
            at through
          cases through
  | rejects applied => cases through
  | stops => cases through

variable {state next : SessionState 𝕜}
  {action : ServerAction (SessionEvent 𝕜) SessionRequest}

/-- A logout of the `jti` has settled. -/
def LoggedOut (state : SessionState 𝕜) (jti : Text) : Prop :=
  ∃ payload progress,
    SessionCall.logout ⟨payload, progress⟩ ∈ state.calls ∧
      LogoutProgress.settled progress = true ∧ payload.jti = jti

/-- A blacklist key has been set by a logout. -/
def KeysExplained (state : SessionState 𝕜) : Prop :=
  ∀ jti entry, state.stores.entries (blacklistKey jti) = some entry →
    LoggedOut state jti

theorem LoggedOut.step {jti : Text} (loggedOut : LoggedOut state jti)
    (stepped : (sessionServer 𝕜).step state action = some next) :
    LoggedOut next jti := by
  obtain ⟨payload, progress, member, settles, sameJti⟩ := loggedOut
  cases Server.step_cases stepped with
  | external event => exact ⟨payload, progress, member, settles, sameJti⟩
  | requested input call accepted =>
      exact ⟨payload, progress, List.mem_append_left _ member, settles,
        sameJti⟩
  | awaited index outcome call pending found waits =>
      obtain ⟨position, reached⟩ := List.mem_iff_getElem?.mp member
      by_cases samePlace : position = index
      · subst position
        cases Option.some.inj (found.symm.trans reached)
        obtain ⟨stage, atStage, rfl⟩ := (hosts_logout 𝕜).running waits
        cases atStage
        rw [(hosts_logout 𝕜).answer]
        obtain ⟨inside, _⟩ := List.getElem?_eq_some_iff.mp found
        exact ⟨payload, _, List.mem_set inside _,
          settled_goOn settles state.stores outcome, sameJti⟩
      · refine ⟨payload, progress, ?_, settles, sameJti⟩
        refine List.mem_of_getElem? (i := position) ?_
        rw [List.getElem?_set_ne (Ne.symm samePlace)]
        exact reached

private theorem keysExplained_step (explained : KeysExplained state)
    (stepped : (sessionServer 𝕜).step state action = some next) :
    KeysExplained next := by
  intro jti entry stored
  have before : ∀ entry, state.stores.entries (blacklistKey jti) =
      some entry → LoggedOut next jti :=
    fun entry old => (explained jti entry old).step stepped
  cases Server.step_cases stepped with
  | external event =>
      cases event with
      | elapse duration => exact before entry stored
      | sign claims iat exp => exact before entry stored
      | write key written =>
          refine before entry ?_
          rw [← stored]
          exact (Keyspace.entries_write_of_ne _ (key.ne_blacklistKey jti)
            written).symm
  | requested input call accepted => exact before entry stored
  | awaited index outcome call pending found waits =>
      rw [Server.answer_stores] at stored
      split at stored
      · next applies =>
          cases call with
          | access call =>
              obtain ⟨stage, _, rfl⟩ := (hosts_access 𝕜).running waits
              have unchanged :=
                perform_access call.input stage state.stores
              exact before entry (unchanged ▸ stored)
          | logout call =>
              obtain ⟨stage, atStage, rfl⟩ := (hosts_logout 𝕜).running waits
              by_cases same :
                (perform (logout call.input stage).command
                  state.stores).2.entries (blacklistKey jti) =
                    state.stores.entries (blacklistKey jti)
              · exact before entry (same.symm.trans stored)
              · obtain ⟨sameJti, settles⟩ := settled_of_write applies same
                rw [atStage, (hosts_logout 𝕜).answer]
                obtain ⟨inside, _⟩ := List.getElem?_eq_some_iff.mp found
                exact ⟨call.input, _, List.mem_set inside _, settles, sameJti⟩
      · exact before entry stored

/-! ## Requests that get through -/

/-- The guard has let the request through. -/
def GotThrough (state : SessionState 𝕜) (payload : JwtPayload)
    (index : Nat) : Prop :=
  ∃ result, state.calls[index]? =
    some (.access ⟨payload, .finished (.ok result)⟩)

/-- A dead token gets through only when it has expired since its lookup by the
verifier. -/
theorem gotThrough_step {payload : JwtPayload}
    (dead : Dead state.stores payload)
    (stepped : (sessionServer 𝕜).step state action = some next) {index : Nat}
    (through : GotThrough next payload index) :
    GotThrough state payload index ∨ Expired state.stores.now payload := by
  obtain ⟨result, reached⟩ := through
  generalize same : SessionCall.access ⟨payload, .finished (.ok result)⟩ =
    call at reached
  cases Server.step_calls stepped reached with
  | kept _ _ found =>
      subst same
      exact Or.inl ⟨result, found⟩
  | accepted input _ _ accepts _ =>
      subst same
      cases input <;> cases accepts
  | answered outcome earlier pending _ _ waits =>
      right
      cases earlier with
      | access call =>
          obtain ⟨stage, atStage, rfl⟩ := (hosts_access 𝕜).running waits
          rw [atStage, (hosts_access 𝕜).answer] at same
          injection same with same
          injection same with samePayload finished
          subst samePayload
          exact dead.rejected.resolve_right
            (not_blacklisted_of_goOn finished.symm)
      | logout call =>
          obtain ⟨stage, atStage, rfl⟩ := (hosts_logout 𝕜).running waits
          rw [atStage, (hosts_logout 𝕜).answer] at same
          cases same

/-- What holds of every logout. -/
def CallsSound (state : SessionState 𝕜) : Prop :=
  ∀ payload progress, SessionCall.logout ⟨payload, progress⟩ ∈ state.calls →
    Sound state.stores payload progress

/-- What holds from the settling of a logout on. -/
structure DeadSince (settling : SessionState 𝕜) (payload : JwtPayload)
    (state : SessionState 𝕜) : Prop where
  sound : CallsSound state
  issued : payload ∈ state.stores.issued.tokens
  dead : Dead state.stores payload
  through : ∀ index, GotThrough state payload index →
    GotThrough settling payload index ∨ Expired state.stores.now payload

/-- A dead token that has not expired is found on the blacklist. -/
theorem DeadSince.answers {settling : SessionState 𝕜} {payload : JwtPayload}
    (since : DeadSince settling payload state) :
    (Expired state.stores.now payload ∧
        Answers state.stores payload (.error .invalid)) ∨
      (Blacklisted state.stores payload ∧
        Answers state.stores payload (.error .blacklisted)) := by
  by_cases expired : Expired state.stores.now payload
  · left
    refine ⟨expired, answers_invalid ?_⟩
    simp only [verifies, expired, not_true_eq_false, decide_false,
      Bool.and_false]
  · right
    have blacklisted := since.dead.rejected.resolve_left expired
    refine ⟨blacklisted, answers_blacklisted ?_ blacklisted⟩
    simp only [verifies, since.issued, expired, not_false_eq_true,
      decide_true, Bool.and_true]

variable [IsStrictOrderedRing 𝕜]

private theorem grows_external (event : SessionEvent 𝕜)
    (stores : SessionStores 𝕜) :
    Grows stores ((sessionServer 𝕜).external event stores) := by
  cases event with
  | elapse duration =>
      refine .of_entries ?_ (fun _ member => member) fun _ => rfl
      exact le_add_of_nonneg_right duration.property
  | sign claims iat exp =>
      refine .of_entries le_rfl ?_ fun _ => rfl
      exact fun _ member => Issued.mem_sign member claims iat exp
  | write key entry =>
      refine .of_entries le_rfl (fun _ member => member) fun jti => ?_
      exact Keyspace.entries_write_of_ne _ (key.ne_blacklistKey jti) entry

/-- No step revives a dead token. -/
theorem grows_of_step (sound : CallsSound state)
    (stepped : (sessionServer 𝕜).step state action = some next) :
    Grows state.stores next.stores := by
  cases Server.step_cases stepped with
  | external event => exact grows_external event state.stores
  | requested input call accepted => exact .refl state.stores
  | awaited index outcome call pending found waits =>
      rw [Server.answer_stores]
      split
      · cases call with
        | access call =>
            obtain ⟨stage, _, rfl⟩ := (hosts_access 𝕜).running waits
            have unchanged := perform_access call.input stage state.stores
            exact unchanged.symm ▸ .refl state.stores
        | logout call =>
            obtain ⟨stage, atStage, rfl⟩ := (hosts_logout 𝕜).running waits
            rw [atStage] at found
            exact grows_logout
              (sound _ _ (List.mem_of_getElem? found))
      · exact .refl state.stores

private theorem callsSound_step (sound : CallsSound state)
    (stepped : (sessionServer 𝕜).step state action = some next) :
    CallsSound next := by
  have grows := grows_of_step sound stepped
  intro payload progress member
  cases Server.step_cases stepped with
  | external event => exact (sound payload progress member).grows grows
  | requested input call accepted =>
      rcases List.mem_append.mp member with old | new
      · exact sound payload progress old
      · rw [← List.mem_singleton.mp new] at accepted
        cases input with
        | access payload => cases accepted
        | logout payload =>
            cases accepted
            exact ⟨nofun, nofun, nofun⟩
  | awaited index outcome call pending found waits =>
      rcases List.mem_or_eq_of_mem_set member with old | changed
      · exact (sound payload progress old).grows grows
      · cases call with
        | access call =>
            obtain ⟨stage, atStage, rfl⟩ := (hosts_access 𝕜).running waits
            rw [atStage, (hosts_access 𝕜).answer] at changed
            cases changed
        | logout call =>
            obtain ⟨stage, atStage, rfl⟩ := (hosts_logout 𝕜).running waits
            rw [atStage] at found
            rw [atStage, (hosts_logout 𝕜).answer] at changed
            cases changed
            rw [Server.answer_stores]
            exact sound_goOn (sound _ _ (List.mem_of_getElem? found)) outcome

private theorem callsSound_of_run {origin : 𝕜}
    {history : List (SessionState 𝕜 ×
      ServerAction (SessionEvent 𝕜) SessionRequest)}
    (run : Trace (sessionServer 𝕜).step (SessionState.init origin) history
      state) : CallsSound state :=
  run.invariant CallsSound
    (fun _ _ member => absurd member List.not_mem_nil)
    fun _ _ _ sound stepped => callsSound_step sound stepped

theorem DeadSince.step {settling : SessionState 𝕜} {payload : JwtPayload}
    (since : DeadSince settling payload state)
    (stepped : (sessionServer 𝕜).step state action = some next) :
    DeadSince settling payload next := by
  have grows := grows_of_step since.sound stepped
  refine ⟨callsSound_step since.sound stepped,
    grows.issued payload since.issued,
    grows.dead payload since.issued since.dead, ?_⟩
  intro index throughNow
  rcases gotThrough_step since.dead stepped throughNow with before | expired
  · rcases since.through index before with early | expired
    · exact Or.inl early
    · exact Or.inr (expired.later grows.now)
  · exact Or.inr (expired.later grows.now)

/-- Once a logout has settled, at every later instant the guard rejects its
token, as expired or as blacklisted; a request with it that gets through all
the same has been verified before the expiry, which comes before its second
lookup.  The guard accepts every other token that the verifier accepts. -/
theorem logged_out_stays_dead {origin : 𝕜}
    {older newer : List (SessionState 𝕜 ×
      ServerAction (SessionEvent 𝕜) SessionRequest)}
    {middle state : SessionState 𝕜}
    (first : Trace (sessionServer 𝕜).step (SessionState.init origin) older
      middle)
    (second : Trace (sessionServer 𝕜).step middle newer state) :
    (∀ payload progress,
      SessionCall.logout ⟨payload, progress⟩ ∈ middle.calls →
      LogoutProgress.settled progress = true →
      ((Expired state.stores.now payload ∧
          Answers state.stores payload (.error .invalid)) ∨
        (Blacklisted state.stores payload ∧
          Answers state.stores payload (.error .blacklisted))) ∧
      ∀ index, GotThrough state payload index →
        GotThrough middle payload index ∨
          Expired state.stores.now payload) ∧
    ∀ other, verifies state.stores other = true →
      (∀ payload progress,
        SessionCall.logout ⟨payload, progress⟩ ∈ state.calls →
        LogoutProgress.settled progress = true → payload.jti ≠ other.jti) →
      Answers state.stores other (.ok other) := by
  constructor
  · intro payload progress member settles
    have sound := callsSound_of_run first
    have known := sound payload progress member
    have since : DeadSince middle payload state := by
      refine second.invariant (DeadSince middle payload) ?_
        fun _ _ _ since stepped => since.step stepped
      exact ⟨sound,
        known.issued (LogoutProgress.verified_of_settled settles),
        known.dead settles, fun _ => Or.inl⟩
    exact ⟨since.answers, since.through⟩
  · intro other holds alone
    refine answers_ok holds fun blacklisted => ?_
    obtain ⟨entry, stored, _⟩ := Keyspace.existsKey_eq_true.mp blacklisted
    have explained : KeysExplained state := by
      refine (first.append second).invariant KeysExplained ?_
        fun _ _ _ explained stepped => keysExplained_step explained stepped
      exact fun _ _ stored => nomatch stored
    obtain ⟨payload, progress, member, settles, sameJti⟩ :=
      explained other.jti entry stored
    exact alone payload progress member settles sameJti

end

def phoneClaims : TokenClaims :=
  ⟨7, "phone".toList, "fan@concert.vn".toList, [.user], .active⟩

def laptopClaims : TokenClaims := { phoneClaims with jti := "laptop".toList }

def phoneToken : JwtPayload := ⟨phoneClaims, some 0, some 10⟩

def laptopToken : JwtPayload := ⟨laptopClaims, some 0, some 10⟩

/-- Both tokens expire at 10; the logout reads the clock at 37/4, and the key
is set at 19/2 for one second. -/
def lateLogout : List (ServerAction (SessionEvent ℚ) SessionRequest) :=
  [.external (.sign phoneClaims 0 10), .external (.sign laptopClaims 0 10),
    .external (.elapse ⟨37 / 4, by decide +kernel⟩),
    .request (.logout phoneToken), .await 0 .resolves, .await 0 .resolves,
    .await 0 .resolves, .external (.elapse ⟨1 / 4, by decide +kernel⟩),
    .await 0 .resolves, .await 0 .resolves]

private theorem lateLogout_enabled :
    (replay (sessionServer ℚ).step [] (SessionState.init 0)
      lateLogout).isSome = true := by
  decide +kernel

def afterLateLogout : SessionState ℚ :=
  ((replay (sessionServer ℚ).step [] (SessionState.init 0) lateLogout).get
    lateLogout_enabled).2

def laterOn : List (ServerAction (SessionEvent ℚ) SessionRequest) :=
  [.external (.elapse ⟨499 / 1000, by decide +kernel⟩)]

private theorem laterOn_enabled :
    (replay (sessionServer ℚ).step [] afterLateLogout laterOn).isSome =
      true := rfl

private theorem calls_afterLateLogout : afterLateLogout.calls =
    [.logout ⟨phoneToken, .finished (.ok "Đăng xuất thành công")⟩] := by
  decide +kernel

theorem logged_out_stays_dead_lateLogout :
    Answers
      ((replay (sessionServer ℚ).step [] afterLateLogout laterOn).get
        laterOn_enabled).2.stores phoneToken (.error .blacklisted) ∧
    Answers
      ((replay (sessionServer ℚ).step [] afterLateLogout laterOn).get
        laterOn_enabled).2.stores laptopToken (.ok laptopToken) := by
  have dead := logged_out_stays_dead
    (Trace.of_replay_get lateLogout lateLogout_enabled)
    (Trace.of_replay_get laterOn laterOn_enabled)
  constructor
  · have member : SessionCall.logout
        ⟨phoneToken, .finished (.ok "Đăng xuất thành công")⟩ ∈
          afterLateLogout.calls := by
      rw [calls_afterLateLogout]
      exact List.mem_cons_self
    rcases (dead.1 phoneToken _ member rfl).1 with ⟨expired, _⟩ | ⟨_, answers⟩
    · exact absurd expired (by decide +kernel)
    · exact answers
  · refine dead.2 laptopToken (by decide +kernel) ?_
    intro payload progress member _
    have settled : SessionCall.logout ⟨payload, progress⟩ ∈
        afterLateLogout.calls := member
    rw [calls_afterLateLogout, List.mem_singleton] at settled
    cases settled
    decide

end ConcertTicketing.Sessions
