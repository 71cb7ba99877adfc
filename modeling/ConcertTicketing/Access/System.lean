import ConcertTicketing.Accounts.System
import ConcertTicketing.Sessions.Service
import Mathlib.Data.Rat.Floor

/-!
# Accounts and access tokens in one system

`AuthController` and `UsersController` behind the global `JwtAuthGuard`.  The
public endpoints reach their service directly.  The endpoints of an email
change reach theirs when the guard has let the request through, with the user
of its token.  A token that `login` signs is a token that the verifier accepts
from then on, and both sides read one clock.
-/

namespace ConcertTicketing.Access

open Accounts RealTime
open Sessions (SessionState SessionRequest SessionCall sessionServer)

/-- The libraries, how the id that a login draws is written, and
`JWT_EXPIRES_IN` in seconds. -/
structure Site where
  lib : Libraries
  jti : Nat ↪ Text
  expiresIn : Int

namespace Site

/-- The claims that `login` hands to the signer. -/
def claims (site : Site) (payload : Accounts.JwtPayload) :
    Sessions.TokenClaims :=
  ⟨payload.sub, site.jti payload.jti, payload.email, payload.roles,
    payload.status⟩

/-- `JWT_EXPIRES_IN` is `15m` by default. -/
def plain : Site where
  lib := .plain
  jti := ⟨fun number => List.replicate number 'x', by
    intro first second same
    have lengths := congrArg List.length same
    rwa [List.length_replicate, List.length_replicate] at lengths⟩
  expiresIn := 900

end Site

/-- The requests of the endpoints that are `@Public()`. -/
inductive PublicRequest where
  | register (input : RegisterInput)
  | verifyOtp (input : VerifyOtpInput)
  | resendOtp (input : ResendOtpInput)
  | login (input : LoginInput)
  deriving DecidableEq, Repr

def PublicRequest.forService : PublicRequest → AccountRequest
  | .register input => .register input
  | .verifyOtp input => .verifyOtp input
  | .resendOtp input => .resendOtp input
  | .login input => .login input

/-- The bodies of `me/change-email` and `me/verify-email-change`, with the
code that the first one draws. -/
inductive ChangeBody where
  | requestEmailChange (newEmail : Text) (otp : Otp)
  | verifyEmailChange (otp : Text)
  deriving DecidableEq, Repr

/-- The controller takes the user from the token. -/
def ChangeBody.forService (userId : UserId) : ChangeBody → AccountRequest
  | .requestEmailChange newEmail otp =>
      .requestEmailChange ⟨userId, newEmail, otp⟩
  | .verifyEmailChange otp => .verifyEmailChange ⟨userId, otp⟩

def draws? : AccountRequest → Option Nat
  | .login input => some input.jti
  | _ => none

def requests (accounts : AccountState) : List AccountRequest :=
  accounts.calls.map AccountCall.request

/-- `randomUUID` does not draw an id twice. -/
def DrawsAnew (accounts : AccountState) (request : AccountRequest) : Prop :=
  ∀ jti ∈ draws? request, ∀ earlier ∈ requests accounts,
    draws? earlier ≠ some jti

instance (accounts : AccountState) (request : AccountRequest) :
    Decidable (DrawsAnew accounts request) :=
  inferInstanceAs (Decidable (∀ jti ∈ draws? request, _))

/-! ## The system -/

/-- `handled` are the guarded requests that their handler has taken up. -/
structure SiteState where
  accounts : AccountState
  sessions : SessionState ℚ
  handled : List Nat

inductive SiteAction where
  | elapse (duration : {duration : ℚ // 0 ≤ duration})
  | arrive (request : PublicRequest)
  | present (request : SessionRequest)
  | handle (index : Nat) (body : ChangeBody)
  | account (index : Nat) (outcome : Await)
  | session (index : Nat) (outcome : Await)

abbrev SiteHistory := List (SiteState × SiteAction)

/-- The payload that the guard has let through. -/
def letThrough? : SessionCall → Option Sessions.JwtPayload
  | .access ⟨_, .finished (.ok payload)⟩ => some payload
  | _ => none

def letThroughAt? (sessions : SessionState ℚ) (index : Nat) :
    Option Sessions.JwtPayload :=
  (sessions.calls[index]?).bind letThrough?

namespace SiteState

def init (origin : ℚ) : SiteState :=
  ⟨.init .empty (dateNow origin), .init origin, []⟩

/-- Time passes for Redis, for the verifier and for the services. -/
def elapse (state : SiteState)
    (duration : {duration : ℚ // 0 ≤ duration}) : SiteState :=
  let before := state.sessions.stores.now
  let milliseconds := dateNow (before + duration.val) - dateNow before
  { state with
    accounts :=
      { state.accounts with
        stores := state.accounts.stores.tick milliseconds.toNat }
    sessions :=
      { state.sessions with
        stores := (sessionServer ℚ).external (.elapse duration)
          state.sessions.stores } }

def sign (state : SiteState) (claims : Sessions.TokenClaims)
    (expiresIn : Int) : SessionState ℚ :=
  let iat := wholeSeconds (dateNow state.sessions.stores.now)
  { state.sessions with
    stores := (sessionServer ℚ).external (.sign claims iat (iat + expiresIn))
      state.sessions.stores }

/-- The token of a guarded request that waits for its handler. -/
def admitted? (state : SiteState) (index : Nat) :
    Option Sessions.JwtPayload :=
  if index ∈ state.handled then none
  else letThroughAt? state.sessions index

end SiteState

def Site.afterSigning (site : Site) (state : SiteState) (index : Nat)
    (outcome : Await) : SessionState ℚ :=
  match (accountServer site.lib).applied state.accounts
      (.await index outcome) with
  | some (.signToken payload) => state.sign (site.claims payload) site.expiresIn
  | _ => state.sessions

def siteStep (site : Site) (state : SiteState) :
    SiteAction → Option SiteState
  | .elapse duration => some (state.elapse duration)
  | .arrive request =>
      if DrawsAnew state.accounts request.forService then
        ((accountServer site.lib).step state.accounts
          (.request request.forService)).map fun accounts =>
            { state with accounts := accounts }
      else none
  | .present request =>
      ((sessionServer ℚ).step state.sessions (.request request)).map
        fun sessions => { state with sessions := sessions }
  | .handle index body =>
      (state.admitted? index).bind fun payload =>
        ((accountServer site.lib).step state.accounts
          (.request (body.forService payload.sub))).map fun accounts =>
            { state with
              accounts := accounts
              handled := index :: state.handled }
  | .account index outcome =>
      ((accountServer site.lib).step state.accounts
        (.await index outcome)).map fun accounts =>
          { state with
            accounts := accounts
            sessions := site.afterSigning state index outcome }
  | .session index outcome =>
      ((sessionServer ℚ).step state.sessions (.await index outcome)).map
        fun sessions => { state with sessions := sessions }

inductive SiteStep (site : Site) (state : SiteState) :
    SiteAction → SiteState → Prop
  | elapsed (duration : {duration : ℚ // 0 ≤ duration}) :
      SiteStep site state (.elapse duration) (state.elapse duration)
  | arrived (request : PublicRequest) (accounts : AccountState)
      (anew : DrawsAnew state.accounts request.forService)
      (taken : (accountServer site.lib).step state.accounts
        (.request request.forService) = some accounts) :
      SiteStep site state (.arrive request)
        { state with accounts := accounts }
  | presented (request : SessionRequest) (sessions : SessionState ℚ)
      (taken : (sessionServer ℚ).step state.sessions (.request request) =
        some sessions) :
      SiteStep site state (.present request)
        { state with sessions := sessions }
  | handled (index : Nat) (body : ChangeBody)
      (payload : Sessions.JwtPayload) (accounts : AccountState)
      (admitted : state.admitted? index = some payload)
      (taken : (accountServer site.lib).step state.accounts
        (.request (body.forService payload.sub)) = some accounts) :
      SiteStep site state (.handle index body)
        { state with
          accounts := accounts
          handled := index :: state.handled }
  | accountAwaited (index : Nat) (outcome : Await) (accounts : AccountState)
      (taken : (accountServer site.lib).step state.accounts
        (.await index outcome) = some accounts) :
      SiteStep site state (.account index outcome)
        { state with
          accounts := accounts
          sessions := site.afterSigning state index outcome }
  | sessionAwaited (index : Nat) (outcome : Await) (sessions : SessionState ℚ)
      (taken : (sessionServer ℚ).step state.sessions (.await index outcome) =
        some sessions) :
      SiteStep site state (.session index outcome)
        { state with sessions := sessions }

theorem siteStep_cases {site : Site} {state next : SiteState}
    {action : SiteAction} (stepped : siteStep site state action = some next) :
    SiteStep site state action next := by
  cases action with
  | elapse duration =>
      cases stepped
      exact .elapsed duration
  | arrive request =>
      simp only [siteStep, Option.ite_none_right_eq_some,
        Option.map_eq_some_iff] at stepped
      obtain ⟨anew, accounts, taken, rfl⟩ := stepped
      exact .arrived request accounts anew taken
  | present request =>
      simp only [siteStep, Option.map_eq_some_iff] at stepped
      obtain ⟨sessions, taken, rfl⟩ := stepped
      exact .presented request sessions taken
  | handle index body =>
      simp only [siteStep, Option.bind_eq_some_iff,
        Option.map_eq_some_iff] at stepped
      obtain ⟨payload, admitted, accounts, taken, rfl⟩ := stepped
      exact .handled index body payload accounts admitted taken
  | account index outcome =>
      simp only [siteStep, Option.map_eq_some_iff] at stepped
      obtain ⟨accounts, taken, rfl⟩ := stepped
      exact .accountAwaited index outcome accounts taken
  | session index outcome =>
      simp only [siteStep, Option.map_eq_some_iff] at stepped
      obtain ⟨sessions, taken, rfl⟩ := stepped
      exact .sessionAwaited index outcome sessions taken

end ConcertTicketing.Access
