import ConcertTicketing.Access.Registered
import ConcertTicketing.Accounts.EmailChange
import ConcertTicketing.Sessions.Revocation

/-!
# Who gets through the guard

From nobody and an empty Redis, in whatever order requests, replies, failures
and time come: a request that the guard lets through goes back to a login with
the password of the registration, made after a code that was sent to the
registered address had come back.  And only such a request changes an email.
-/

namespace ConcertTicketing.Access

open Accounts RealTime
open Sessions (SessionState SessionRequest SessionCall sessionServer
  hosts_access hosts_logout GotThrough jwtAuthGuard)

/-- The payload that the verifier of a guarded request has accepted. -/
def verified? : SessionCall → Option Sessions.JwtPayload
  | .access ⟨payload, .running .existsBlacklist⟩ => some payload
  | .access ⟨_, .finished (.ok payload)⟩ => some payload
  | _ => none

private theorem verified?_of_letThrough {call : SessionCall}
    {payload : Sessions.JwtPayload} (through : letThrough? call = some payload) :
    verified? call = some payload := by
  unfold letThrough? at through
  split at through
  · exact through
  · cases through

/-- `signAsync` at the given moment, for the login at the position. -/
structure Signs (site : Site) (signing : SiteState) (position : Nat)
    (login : LoginInput) (user : User) (token : Sessions.JwtPayload) :
    Prop where
  awaits : signing.accounts.calls[position]? =
    some (.login ⟨login, .running (.signToken user)⟩)
  isToken : token = ⟨site.claims (login.payload user),
    some ⌊signing.sessions.stores.now⌋,
    some (⌊signing.sessions.stores.now⌋ + site.expiresIn)⟩

/-- The tokens are of active users, and so are those that the verifier has
accepted. -/
structure Trusted (site : Site) (state : SiteState) : Prop where
  accounts : Sound site.lib state.accounts
  active : ∀ token ∈ state.sessions.stores.issued.tokens,
    ActiveId state.accounts.stores.users token.sub
  guarded : ∀ call ∈ state.sessions.calls, ∀ payload,
    verified? call = some payload →
    payload ∈ state.sessions.stores.issued.tokens

/-- Only a login has a token signed. -/
theorem login_of_signToken (lib : Libraries) {call : AccountCall}
    {pending : Awaited AccountCall} (waits : call.pending = some pending)
    {payload : Accounts.JwtPayload}
    (signs : pending.command = .signToken payload) :
    ∃ input user, call = .login ⟨input, .running (.signToken user)⟩ ∧
      payload = input.payload user := by
  cases call with
  | register call =>
      obtain ⟨stage, _, rfl⟩ := (hosts_register lib).running waits
      cases stage <;> cases signs
  | verifyOtp call =>
      obtain ⟨stage, _, rfl⟩ := (hosts_verifyOtp lib).running waits
      cases stage with
      | check stage => cases stage <;> cases signs
      | activate => cases signs
      | delOtp => cases signs
  | resendOtp call =>
      obtain ⟨stage, _, rfl⟩ := (hosts_resendOtp lib).running waits
      cases stage <;> cases signs
  | login call =>
      obtain ⟨stage, atStage, rfl⟩ := (hosts_login lib).running waits
      cases stage with
      | signToken user =>
          cases signs
          exact ⟨call.input, user, congrArg _ atStage, rfl⟩
      | _ => cases signs
  | requestEmailChange call =>
      obtain ⟨stage, _, rfl⟩ := (hosts_requestEmailChange lib).running waits
      cases stage <;> cases signs
  | verifyEmailChange call =>
      obtain ⟨stage, _, rfl⟩ := (hosts_verifyEmailChange lib).running waits
      cases stage with
      | check stage => cases stage <;> cases signs
      | _ => cases signs

section Guard

variable {state next : SessionState ℚ}
  {action : ServerAction (Sessions.SessionEvent ℚ) SessionRequest}

/-- No call of the guard touches the tokens. -/
theorem issued_step (stepped : (sessionServer ℚ).step state action = some next)
    (inside : ∀ event, action ≠ .external event) :
    next.stores.issued = state.stores.issued ∧
      next.stores.now = state.stores.now := by
  cases Server.step_cases stepped with
  | external event => exact absurd rfl (inside event)
  | requested input call accepted => exact ⟨rfl, rfl⟩
  | awaited index outcome call pending found waits =>
      rw [Server.answer_stores]
      split
      · cases call with
        | access call =>
            obtain ⟨stage, _, rfl⟩ := (hosts_access ℚ).running waits
            cases stage <;> exact ⟨rfl, rfl⟩
        | logout call =>
            obtain ⟨stage, _, rfl⟩ := (hosts_logout ℚ).running waits
            cases stage with
            | guard stage => cases stage <;> exact ⟨rfl, rfl⟩
            | dateNow => exact ⟨rfl, rfl⟩
            | createAuditLog => exact ⟨rfl, rfl⟩
            | setBlacklist remainingTtl =>
                refine ⟨rfl, ?_⟩
                change (Sessions.setText _ _ _ (some remainingTtl)).now = _
                simp only [Sessions.setText]
                split <;> rfl
      · exact ⟨rfl, rfl⟩

/-- The verifier accepts the tokens that have been signed. -/
theorem guarded_step
    (guarded : ∀ call ∈ state.calls, ∀ payload,
      verified? call = some payload → payload ∈ state.stores.issued.tokens)
    (stepped : (sessionServer ℚ).step state action = some next)
    (call : SessionCall) (member : call ∈ next.calls)
    (payload : Sessions.JwtPayload)
    (verified : verified? call = some payload) :
    payload ∈ state.stores.issued.tokens := by
  obtain ⟨index, reached⟩ := List.mem_iff_getElem?.mp member
  cases Server.step_calls stepped reached with
  | kept _ _ found =>
      exact guarded call (List.mem_of_getElem? found) payload verified
  | accepted input _ _ accepts _ =>
      cases input <;> cases accepts <;> cases verified
  | answered outcome earlier pending _ found waits =>
      cases earlier with
      | logout call =>
          obtain ⟨stage, atStage, rfl⟩ := (hosts_logout ℚ).running waits
          rw [atStage, (hosts_logout ℚ).answer] at verified
          cases verified
      | access call =>
          obtain ⟨stage, atStage, rfl⟩ := (hosts_access ℚ).running waits
          rw [atStage] at found
          rw [atStage, (hosts_access ℚ).answer] at verified
          cases outcome with
          | rejects applied => cases verified
          | stops => cases verified
          | resolves =>
              cases stage with
              | verify =>
                  have reply : ((sessionServer ℚ).perform
                      (.verifyToken call.input) state.stores).1 =
                      Sessions.verifies state.stores call.input := rfl
                  simp only [Call.goOn, jwtAuthGuard] at verified
                  rw [reply] at verified
                  split at verified
                  · next valid =>
                      cases verified
                      rw [Sessions.verifies, Bool.and_eq_true] at valid
                      exact of_decide_eq_true valid.1
                  · cases verified
              | existsBlacklist =>
                  simp only [Call.goOn, jwtAuthGuard] at verified
                  split at verified
                  · cases verified
                  · cases verified
                    exact guarded _ (List.mem_of_getElem? found) _ rfl

end Guard

private theorem changer?_public (request : PublicRequest) :
    changer? request.forService = none := by
  cases request <;> rfl

private theorem changer?_body (userId : UserId) (body : ChangeBody) :
    changer? (body.forService userId) = some userId := by
  cases body <;> rfl

private theorem letThrough_of_admitted {state : SiteState} {index : Nat}
    {payload : Sessions.JwtPayload}
    (admitted : state.admitted? index = some payload) :
    index ∉ state.handled ∧
      letThroughAt? state.sessions index = some payload := by
  unfold SiteState.admitted? at admitted
  split at admitted
  · cases admitted
  · next fresh => exact ⟨fresh, admitted⟩

/-- What `signAsync` adds is signed in the login that awaits it. -/
theorem signs_of_afterSigning {site : Site} {state : SiteState} {index : Nat}
    {outcome : Await} {token : Sessions.JwtPayload}
    (issued : token ∈
      (site.afterSigning state index outcome).stores.issued.tokens) :
    token ∈ state.sessions.stores.issued.tokens ∨
      ∃ login user, Signs site state index login user token := by
  unfold Site.afterSigning at issued
  split at issued
  · next payload applied =>
      change token ∈ (state.sessions.stores.issued.sign _ _ _).tokens at issued
      unfold Sessions.Issued.sign at issued
      split at issued
      · rcases List.mem_cons.mp issued with rfl | old
        · right
          obtain ⟨position, ended, call, pending, ran, _, found, waits, signs⟩ :=
            Server.applied_eq_some.mp applied
          injection ran with samePosition _
          subst samePosition
          obtain ⟨login, user, rfl, rfl⟩ :=
            login_of_signToken site.lib waits signs
          refine ⟨login, user, found, ?_⟩
          rw [wholeSeconds_dateNow]
        · exact Or.inl old
      · exact Or.inl issued
  · exact Or.inl issued

private theorem afterSigning_keeps (site : Site) (state : SiteState)
    (index : Nat) (outcome : Await) :
    (site.afterSigning state index outcome).calls = state.sessions.calls ∧
      ∀ token ∈ state.sessions.stores.issued.tokens,
        token ∈ (site.afterSigning state index outcome).stores.issued.tokens := by
  unfold Site.afterSigning
  split
  · exact ⟨rfl, fun token old => Sessions.Issued.mem_sign old _ _ _⟩
  · exact ⟨rfl, fun token old => old⟩

namespace Trusted

variable {site : Site} {state next : SiteState}

/-- The token of a request that got through has been signed. -/
theorem issued_of_letThrough (trusted : Trusted site state) {index : Nat}
    {payload : Sessions.JwtPayload}
    (through : letThroughAt? state.sessions index = some payload) :
    payload ∈ state.sessions.stores.issued.tokens := by
  obtain ⟨call, found, isThrough⟩ := Option.bind_eq_some_iff.mp through
  exact trusted.guarded call (List.mem_of_getElem? found) payload
    (verified?_of_letThrough isThrough)

/-- The user of a token that is being signed is active. -/
theorem active_of_signs (trusted : Trusted site state) {position : Nat}
    {login : LoginInput} {user : User} {token : Sessions.JwtPayload}
    (signs : Signs site state position login user token) :
    ActiveId state.accounts.stores.users token.sub := by
  have member := List.mem_of_getElem? signs.awaits
  obtain ⟨logsIn, _⟩ := trusted.accounts.knows _ member
  rw [signs.isToken]
  exact logsIn.2.2.activeId

/-- A step of the account services, with what it does to the tokens. -/
theorem accountStep (trusted : Trusted site state) {action : AccountAction}
    (stepped : (accountServer site.lib).step state.accounts action =
      some next.accounts)
    (calls : next.sessions.calls = state.sessions.calls)
    (keeps : ∀ token ∈ state.sessions.stores.issued.tokens,
      token ∈ next.sessions.stores.issued.tokens)
    (adds : ∀ token ∈ next.sessions.stores.issued.tokens,
      ActiveId state.accounts.stores.users token.sub)
    (asks : ∀ request, action = .request request → ∀ userId,
      changer? request = some userId →
      ActiveId state.accounts.stores.users userId) :
    Trusted site next where
  accounts := trusted.accounts.step stepped asks
  active token issued := (kept_step stepped).activeId (adds token issued)
  guarded := by
    rw [calls]
    intro call member payload verified
    exact keeps payload (trusted.guarded call member payload verified)

/-- A step of the guard leaves the account services alone. -/
theorem sessionStep (trusted : Trusted site state)
    {action : ServerAction (Sessions.SessionEvent ℚ) SessionRequest}
    (stepped : (sessionServer ℚ).step state.sessions action =
      some next.sessions)
    (inside : ∀ event, action ≠ .external event)
    (accounts : next.accounts = state.accounts) : Trusted site next := by
  obtain ⟨issued, _⟩ := issued_step stepped inside
  refine ⟨?_, ?_, ?_⟩
  · rw [accounts]
    exact trusted.accounts
  · rw [issued, accounts]
    exact trusted.active
  · rw [issued]
    exact guarded_step trusted.guarded stepped

theorem step (trusted : Trusted site state) {action : SiteAction}
    (stepped : siteStep site state action = some next) :
    Trusted site next := by
  cases siteStep_cases stepped with
  | elapsed duration =>
      have ticked : (accountServer site.lib).step state.accounts
          (.external (.tick (dateNow (state.sessions.stores.now +
            duration.val) - dateNow state.sessions.stores.now).toNat)) =
          some (state.elapse duration).accounts := rfl
      exact trusted.accountStep ticked rfl (fun _ old => old)
        trusted.active nofun
  | arrived request accounts anew taken =>
      refine trusted.accountStep taken rfl (fun _ old => old)
        trusted.active ?_
      intro asked ran userId changes
      injection ran with same
      rw [← same, changer?_public] at changes
      cases changes
  | presented request sessions taken =>
      exact trusted.sessionStep taken nofun rfl
  | handled index body payload accounts admitted taken =>
      have through := (letThrough_of_admitted admitted).2
      refine trusted.accountStep taken rfl (fun _ old => old)
        trusted.active ?_
      intro asked ran userId changes
      injection ran with same
      rw [← same, changer?_body] at changes
      cases changes
      exact trusted.active payload (trusted.issued_of_letThrough through)
  | accountAwaited index outcome accounts taken =>
      obtain ⟨calls, keeps⟩ := afterSigning_keeps site state index outcome
      refine trusted.accountStep taken calls keeps ?_ nofun
      intro token issued
      rcases signs_of_afterSigning issued with old | ⟨login, user, signs⟩
      · exact trusted.active token old
      · exact trusted.active_of_signs signs
  | sessionAwaited index outcome sessions taken =>
      exact trusted.sessionStep taken nofun rfl

theorem init (site : Site) (origin : ℚ) :
    Trusted site (SiteState.init origin) :=
  ⟨.of_idle rfl (fun _ => rfl) rfl, List.forall_mem_nil _,
    List.forall_mem_nil _⟩

theorem of_run {origin : ℚ} {history : SiteHistory}
    (run : Trace (siteStep site) (SiteState.init origin) history state) :
    Trusted site state :=
  run.invariant (Trusted site) (init site origin)
    fun _ _ _ trusted stepped => trusted.step stepped

end Trusted

def handles? : SiteAction → Option Nat
  | .handle index _ => some index
  | _ => none

/-- The token was signed in a step of the history. -/
def SignedIn (site : Site) (history : SiteHistory)
    (token : Sessions.JwtPayload) : Prop :=
  ∃ signing position outcome login user,
    (signing, .account position outcome) ∈ history ∧
      Signs site signing position login user token

/-- The call at the position is the one that a step of the history has started
for a guarded request; `older` is the history before that step. -/
structure TakenUp (history : SiteHistory) (position : Nat)
    (older : SiteHistory) (earlier : SiteState) (index : Nat)
    (body : ChangeBody) (payload : Sessions.JwtPayload) : Prop where
  taken : ∃ newer, history = newer ++ (earlier, .handle index body) :: older
  admitted : earlier.admitted? index = some payload
  starts : earlier.accounts.calls.length = position

/-- The calls that change an email have been started for guarded requests. -/
def ChangersTakenUp (history : SiteHistory) (calls : List AccountCall) :
    Prop :=
  ∀ position call, calls[position]? = some call →
    ∀ userId, changer? call.request = some userId →
    ∃ older earlier index body payload,
      TakenUp history position older earlier index body payload ∧
        call.request = body.forService payload.sub

/-- What a history tells of its last state. -/
structure Recorded (site : Site) (history : SiteHistory)
    (state : SiteState) : Prop where
  tokens : ∀ token ∈ state.sessions.stores.issued.tokens,
    SignedIn site history token
  changers : ChangersTakenUp history state.accounts.calls
  handled : state.handled = history.filterMap fun entry => handles? entry.2
  once : state.handled.Nodup

section Recorded

variable {site : Site} {history : SiteHistory} {state : SiteState}
  {entry : SiteState × SiteAction}

theorem SignedIn.later {token : Sessions.JwtPayload}
    (signed : SignedIn site history token) :
    SignedIn site (entry :: history) token := by
  obtain ⟨signing, position, outcome, login, user, member, signs⟩ := signed
  exact ⟨signing, position, outcome, login, user,
    List.mem_cons_of_mem entry member, signs⟩

theorem TakenUp.later {position index : Nat} {older : SiteHistory}
    {earlier : SiteState} {body : ChangeBody}
    {payload : Sessions.JwtPayload}
    (takenUp : TakenUp history position older earlier index body payload) :
    TakenUp (entry :: history) position older earlier index body payload := by
  obtain ⟨⟨newer, rfl⟩, admitted, starts⟩ := takenUp
  exact ⟨⟨entry :: newer, rfl⟩, admitted, starts⟩

/-- A step of the account services keeps the requests of its calls. -/
theorem ChangersTakenUp.step {accounts next : AccountState}
    (takenUp : ChangersTakenUp history accounts.calls)
    {action : AccountAction}
    (stepped : (accountServer site.lib).step accounts action = some next)
    (asks : ∀ request, action = .request request → ∀ userId,
      changer? request = some userId →
      ∃ older earlier index body payload,
        TakenUp (entry :: history) accounts.calls.length older earlier index
            body payload ∧
          request = body.forService payload.sub) :
    ChangersTakenUp (entry :: history) next.calls := by
  intro position call reached userId changes
  have earlierOn : ∀ earlierCall, accounts.calls[position]? = some earlierCall →
      earlierCall.request = call.request →
      ∃ older earlier index body payload,
        TakenUp (entry :: history) position older earlier index body payload ∧
          call.request = body.forService payload.sub := by
    intro earlierCall found same
    rw [← same] at changes ⊢
    obtain ⟨older, earlier, index, body, payload, taken, isRequest⟩ :=
      takenUp position earlierCall found userId changes
    exact ⟨older, earlier, index, body, payload, taken.later, isRequest⟩
  cases Server.step_calls stepped reached with
  | kept _ _ found => exact earlierOn call found rfl
  | accepted request _ ran accepts vacant =>
      obtain ⟨_, rfl⟩ := accept_eq_some.mp accepts
      rw [AccountCall.request_call] at changes ⊢
      rw [vacant]
      exact asks request ran userId changes
  | answered outcome earlierCall pending _ found waits =>
      exact earlierOn earlierCall found (request_answer site.lib waits _ _).symm

private theorem ChangersTakenUp.later {calls : List AccountCall}
    (takenUp : ChangersTakenUp history calls) :
    ChangersTakenUp (entry :: history) calls := by
  intro position call found userId changes
  obtain ⟨older, earlier, index, body, payload, taken, isRequest⟩ :=
    takenUp position call found userId changes
  exact ⟨older, earlier, index, body, payload, taken.later, isRequest⟩

/-- A step of the guard adds nothing to what is recorded. -/
theorem Recorded.sessionStep {next : SiteState} {action : SiteAction}
    (recorded : Recorded site history state)
    {taken : ServerAction (Sessions.SessionEvent ℚ) SessionRequest}
    (stepped : (sessionServer ℚ).step state.sessions taken =
      some next.sessions)
    (inside : ∀ event, taken ≠ .external event)
    (accounts : next.accounts = state.accounts)
    (handled : next.handled = state.handled)
    (handlesNone : handles? action = none) :
    Recorded site ((state, action) :: history) next := by
  obtain ⟨issued, _⟩ := issued_step stepped inside
  refine ⟨?_, ?_, ?_, ?_⟩
  · intro token member
    rw [issued] at member
    exact (recorded.tokens token member).later
  · rw [accounts]
    exact recorded.changers.later
  · rw [handled, recorded.handled, List.filterMap_cons]
    simp only [handlesNone]
  · rw [handled]
    exact recorded.once

theorem Recorded.step {next : SiteState} {action : SiteAction}
    (recorded : Recorded site history state)
    (stepped : siteStep site state action = some next) :
    Recorded site ((state, action) :: history) next := by
  have noneAsked : ∀ {taken : AccountAction},
      (∀ request, taken ≠ .request request) →
      ∀ request, taken = .request request → ∀ userId,
        changer? request = some userId →
        ∃ older earlier index body payload,
          TakenUp ((state, action) :: history) state.accounts.calls.length
              older earlier index body payload ∧
            request = body.forService payload.sub :=
    fun none request ran => absurd ran (none request)
  cases siteStep_cases stepped with
  | elapsed duration =>
      have ticked : (accountServer site.lib).step state.accounts
          (.external (.tick (dateNow (state.sessions.stores.now +
            duration.val) - dateNow state.sessions.stores.now).toNat)) =
          some (state.elapse duration).accounts := rfl
      exact ⟨fun token issued => (recorded.tokens token issued).later,
        recorded.changers.step ticked (noneAsked nofun),
        recorded.handled, recorded.once⟩
  | arrived request accounts anew taken =>
      refine ⟨fun token issued => (recorded.tokens token issued).later,
        recorded.changers.step taken ?_, recorded.handled, recorded.once⟩
      intro asked ran userId changes
      injection ran with same
      rw [← same, changer?_public] at changes
      cases changes
  | presented request sessions taken =>
      exact recorded.sessionStep taken nofun rfl rfl rfl
  | handled index body payload accounts admitted taken =>
      refine ⟨fun token issued => (recorded.tokens token issued).later,
        recorded.changers.step taken ?_, ?_, ?_⟩
      · intro asked ran userId changes
        injection ran with same
        exact ⟨history, state, index, body, payload,
          ⟨⟨[], rfl⟩, admitted, rfl⟩, same.symm⟩
      · exact congrArg (index :: ·) recorded.handled
      · exact List.nodup_cons.mpr
          ⟨(letThrough_of_admitted admitted).1, recorded.once⟩
  | accountAwaited index outcome accounts taken =>
      refine ⟨?_, recorded.changers.step taken (noneAsked nofun),
        recorded.handled, recorded.once⟩
      intro token issued
      rcases signs_of_afterSigning issued with old | ⟨login, user, signs⟩
      · exact (recorded.tokens token old).later
      · exact ⟨state, index, outcome, login, user, List.mem_cons_self, signs⟩
  | sessionAwaited index outcome sessions taken =>
      exact recorded.sessionStep taken nofun rfl rfl rfl

theorem Recorded.init (origin : ℚ) :
    Recorded site [] (SiteState.init origin) where
  tokens _ issued := by cases issued
  changers _ _ found := by simp [SiteState.init, AccountState.init] at found
  handled := rfl
  once := List.nodup_nil

theorem Recorded.of_run {origin : ℚ}
    (run : Trace (siteStep site) (SiteState.init origin) history state) :
    Recorded site history state :=
  run.invariantHistory (Recorded site) (Recorded.init origin)
    fun _ _ _ _ _ recorded stepped => recorded.step stepped

end Recorded

/-- The way from a registration to the token that is being signed: the code
that was sent to the address has come back, and the login has given the
password of the registration. -/
structure OwnedThrough (site : Site) (signing : SiteState)
    (payload : Sessions.JwtPayload) (registered : RegisterInput) (otp : Otp)
    (login : LoginInput) (row : User) : Prop where
  registers : .register registered ∈ requests signing.accounts
  sent : SentTo signing.accounts registered.email otp
  verifies :
    .verifyOtp ⟨registered.email, otp.text⟩ ∈ requests signing.accounts
  password : login.password = registered.password
  inTable : row ∈ signing.accounts.stores.users.rows
  hashed : row.passwordHash =
    site.lib.hash registered.password registered.salt
  active : row.status = .active
  claims : payload.toTokenClaims =
    ⟨row.id, site.jti login.jti, login.email, [.user], .active⟩

theorem Trusted.owned {site : Site} {signing : SiteState}
    (trusted : Trusted site signing) (correct : site.lib.ComparesCorrectly)
    {position : Nat} {login : LoginInput} {user : User}
    {payload : Sessions.JwtPayload}
    (signs : Signs site signing position login user payload) :
    ∃ registered otp row,
      OwnedThrough site signing payload registered otp login row := by
  have member := List.mem_of_getElem? signs.awaits
  obtain ⟨⟨userActive, sameEmail, row, inTable, sameId, active, sameHash,
    sameRoles⟩, password⟩ := trusted.accounts.knows _ member
  obtain ⟨registered, registers, hashed, roles, standing⟩ :=
    trusted.accounts.rows row inTable
  rcases standing with ⟨pending, _⟩ | ⟨_, otp, sent, verifies⟩
  · rw [pending] at active
    cases active
  · refine ⟨registered, otp, row, registers, sent, verifies, ?_, inTable,
      hashed, active, ?_⟩
    · rw [HasPassword, ← sameHash, hashed] at password
      exact (correct _ _ _).mp password
    · rw [signs.isToken]
      simp only [Site.claims, LoginInput.payload, ← sameId, ← sameRoles,
        roles, userActive, sameEmail]

/-- The token was signed in a login with the password of a registration whose
address had been verified by then. -/
def OwnedSince (site : Site) (history : SiteHistory)
    (payload : Sessions.JwtPayload) (signing : SiteState)
    (login : LoginInput) (row : User) : Prop :=
  ∃ position outcome user registered otp,
    (signing, .account position outcome) ∈ history ∧
      Signs site signing position login user payload ∧
      OwnedThrough site signing payload registered otp login row

private theorem ownedSince_of_run {site : Site}
    (correct : site.lib.ComparesCorrectly) {origin : ℚ} {history : SiteHistory}
    {state : SiteState}
    (run : Trace (siteStep site) (SiteState.init origin) history state)
    {index : Nat} {payload : Sessions.JwtPayload}
    (through : letThroughAt? state.sessions index = some payload) :
    ∃ signing login row, OwnedSince site history payload signing login row := by
  have issued := (Trusted.of_run run).issued_of_letThrough through
  obtain ⟨signing, position, outcome, login, user, member, signs⟩ :=
    (Recorded.of_run run).tokens payload issued
  have trusted : Trusted site signing :=
    run.forall_reached (fun _ _ runThere => Trusted.of_run runThere) signing
      (List.mem_cons_of_mem state (List.mem_map_of_mem member))
  obtain ⟨registered, otp, row, owned⟩ := trusted.owned correct signs
  exact ⟨signing, login, row, position, outcome, user, registered, otp,
    member, signs, owned⟩

/-- A step of the system is a step of the account services, or leaves them
alone. -/
theorem siteStep_accounts {site : Site} {state next : SiteState}
    {action : SiteAction} (stepped : siteStep site state action = some next) :
    next.accounts = state.accounts ∨
      ∃ taken, (accountServer site.lib).step state.accounts taken =
          some next.accounts ∧
        ∀ position outcome, taken = .await position outcome →
          action = .account position outcome := by
  cases siteStep_cases stepped with
  | elapsed duration =>
      exact Or.inr ⟨.external (.tick _), rfl, fun _ _ ran => by cases ran⟩
  | arrived request accounts anew taken =>
      exact Or.inr ⟨_, taken, fun _ _ ran => by cases ran⟩
  | presented request sessions taken => exact Or.inl rfl
  | handled index body payload accounts admitted taken =>
      exact Or.inr ⟨_, taken, fun _ _ ran => by cases ran⟩
  | accountAwaited index outcome accounts taken =>
      refine Or.inr ⟨_, taken, ?_⟩
      rintro position ended ran
      cases ran
      rfl
  | sessionAwaited index outcome sessions taken => exact Or.inl rfl

private theorem awaited_of_changes {userId : UserId} {accounts : AccountState}
    {action : AccountAction} {otp newEmail : Text}
    (changes : changes? userId accounts action = some (otp, newEmail)) :
    ∃ position outcome progress, action = .await position outcome ∧
      accounts.calls[position]? =
        some (.verifyEmailChange ⟨⟨userId, otp⟩, progress⟩) := by
  unfold changes? at changes
  split at changes
  · next index outcome =>
      simp only [Option.ite_none_right_eq_some] at changes
      obtain ⟨_, changes⟩ := changes
      split at changes
      · next input address found =>
          simp only [Option.ite_none_right_eq_some, Option.some.injEq,
            Prod.mk.injEq] at changes
          obtain ⟨rfl, rfl, rfl⟩ := changes
          exact ⟨index, outcome, _, rfl, found⟩
      · cases changes
  · cases changes

/-- A step that changes an email is one of a call that confirms the change for
that account. -/
theorem changer_of_email_changed {site : Site} {state next : SiteState}
    {action : SiteAction} (stepped : siteStep site state action = some next)
    {before after : User} (was : before ∈ state.accounts.stores.users.rows)
    (isNow : after ∈ next.accounts.stores.users.rows)
    (same : after.id = before.id) (changed : after.email ≠ before.email) :
    ∃ position outcome otp progress, action = .account position outcome ∧
      state.accounts.calls[position]? =
        some (.verifyEmailChange ⟨⟨before.id, otp⟩, progress⟩) := by
  rcases siteStep_accounts stepped with unchanged | ⟨taken, ran, isAwait⟩
  · rw [unchanged] at isNow
    rw [Users.eq_of_id isNow was same] at changed
    exact absurd rfl changed
  · obtain ⟨otp, changes⟩ :=
      changes?_of_email_changed ran was isNow rfl same changed
    obtain ⟨position, outcome, progress, awaits, found⟩ :=
      awaited_of_changes changes
    exact ⟨position, outcome, otp, progress, isAwait position outcome awaits,
      found⟩

/-- The password of an account stays as it is. -/
theorem sameHash_of_run {site : Site} {origin : ℚ} {history : SiteHistory}
    {state signing : SiteState}
    (run : Trace (siteStep site) (SiteState.init origin) history state)
    (reached : signing ∈ visited history state) {row before : User}
    (inTable : row ∈ signing.accounts.stores.users.rows)
    (was : before ∈ state.accounts.stores.users.rows)
    (sameId : row.id = before.id) :
    before.passwordHash = row.passwordHash := by
  obtain ⟨later, laterMember, laterId, laterHash⟩ :=
    run.persists
      (fun there => ∃ later ∈ there.accounts.stores.users.rows,
        later.id = row.id ∧ later.passwordHash = row.passwordHash)
      (by
        rintro there _ _ ⟨later, member, laterId, laterHash⟩ stepped
        rcases siteStep_accounts stepped with same | ⟨_, ran, _⟩
        · rw [same]
          exact ⟨later, member, laterId, laterHash⟩
        · obtain ⟨kept, keptMember, keptId, keptHash, _⟩ :=
            kept_step ran later member
          exact ⟨kept, keptMember, keptId.trans laterId,
            keptHash.trans laterHash⟩)
      signing reached ⟨row, inTable, rfl, rfl⟩
  rw [← laterHash, Users.eq_of_id laterMember was (laterId.trans sameId)]

def runsAccount (index steps : Nat) : List SiteAction :=
  List.replicate steps (.account index .resolves)

def fanToken : Sessions.JwtPayload :=
  ⟨⟨1, "xxxxxxx".toList, "a@x.io".toList, [.user], .active⟩, some 0,
    some 900⟩

/-- A fan registers, sends the code back and logs in; a minute later the token
is presented. -/
def firstLogin : List SiteAction :=
  [.arrive (.register ⟨"a@x.io".toList, "password".toList, "A".toList, none,
      [], .oneToSix⟩)] ++ runsAccount 0 4 ++
    [.arrive (.verifyOtp ⟨"a@x.io".toList, "123456".toList⟩)] ++
    runsAccount 1 4 ++
    [.arrive (.login ⟨"a@x.io".toList, "password".toList, none, 7⟩)] ++
    runsAccount 2 6 ++
    [.elapse ⟨60, by decide +kernel⟩, .present (.access fanToken),
      .session 0 .resolves, .session 0 .resolves]

private theorem firstLogin_enabled :
    (replay (siteStep .plain) [] (SiteState.init 0) firstLogin).isSome =
      true := by
  decide +kernel

def firstHistory : SiteHistory :=
  ((replay (siteStep .plain) [] (SiteState.init 0) firstLogin).get
    firstLogin_enabled).1

/-- Two more requests with the token ask for another address and confirm it;
the next step of the second one changes the email. -/
def changesEmail : List SiteAction :=
  firstLogin ++
    [.handle 0 (.requestEmailChange "b@x.io".toList .oneToSix)] ++
    runsAccount 3 3 ++
    [.present (.access fanToken), .session 1 .resolves, .session 1 .resolves,
      .handle 1 (.verifyEmailChange "123456".toList)] ++
    runsAccount 4 3

private theorem changesEmail_enabled :
    (replay (siteStep .plain) [] (SiteState.init 0) changesEmail).isSome =
      true := by
  decide +kernel

def beforeChange : SiteState :=
  ((replay (siteStep .plain) [] (SiteState.init 0) changesEmail).get
    changesEmail_enabled).2

def changeHistory : SiteHistory :=
  ((replay (siteStep .plain) [] (SiteState.init 0) changesEmail).get
    changesEmail_enabled).1

def fan (email : String) : User :=
  ⟨1, email.toList, "password".toList, "A".toList, none, .active, [.user]⟩

private theorem change_enabled :
    (siteStep .plain beforeChange (.account 4 .resolves)).isSome = true := by
  decide +kernel

end ConcertTicketing.Access
