import ConcertTicketing.Accounts.Stores
import ConcertTicketing.Library.RealTime
import ConcertTicketing.Library.Server

/-!
# Access tokens and their blacklist

`JwtAuthGuard` with `JwtStrategy`, which every guarded request goes through,
and `AuthService.logout` behind it.  The clock is continuous: the verifier and
`logout` round it on their own, and the blacklist key lapses a whole number of
seconds after the instant at which Redis has set it.

A token stands for its payload.  The verifier accepts the tokens that have
been signed, and each of them has a `jti` of its own, which `login` draws with
`randomUUID`, and an `exp`, which the signer adds to the payload.
-/

namespace ConcertTicketing.Sessions

open Accounts RealTime

universe w

/-- What `login` signs. -/
structure TokenClaims where
  sub : UserId
  jti : Text
  email : Text
  roles : List RoleName
  status : UserStatus
  deriving DecidableEq, Repr

/-- The times are seconds. -/
structure JwtPayload extends TokenClaims where
  iat : Option Int
  exp : Option Int
  deriving DecidableEq, Repr

structure Issued where
  tokens : List JwtPayload
  distinct : (tokens.map fun token => token.jti).Nodup
  expire : ∀ token ∈ tokens, token.exp.isSome = true

namespace Issued

def empty : Issued := ⟨[], List.nodup_nil, nofun⟩

/-- `signAsync`, for a `jti` that has not been drawn before. -/
def sign (issued : Issued) (claims : TokenClaims) (iat exp : Int) : Issued :=
  if fresh : ∀ token ∈ issued.tokens, token.jti ≠ claims.jti then
    { tokens := ⟨claims, some iat, some exp⟩ :: issued.tokens
      distinct := by
        rw [List.map_cons]
        refine List.nodup_cons.mpr ⟨?_, issued.distinct⟩
        intro member
        obtain ⟨token, old, sameJti⟩ := List.mem_map.mp member
        exact fresh token old sameJti
      expire := by
        intro token member
        rcases List.mem_cons.mp member with rfl | old
        · rfl
        · exact issued.expire token old }
  else issued

theorem mem_sign {issued : Issued} {token : JwtPayload}
    (member : token ∈ issued.tokens) (claims : TokenClaims) (iat exp : Int) :
    token ∈ (issued.sign claims iat exp).tokens := by
  unfold sign
  split
  · exact List.mem_cons_of_mem _ member
  · exact member

/-- Tokens with one `jti` are one token. -/
theorem unique {issued : Issued} {first second : JwtPayload}
    (member : first ∈ issued.tokens) (memberToo : second ∈ issued.tokens)
    (sameJti : first.jti = second.jti) : first = second :=
  List.inj_on_of_nodup_map issued.distinct member memberToo sameJti

end Issued

def blacklistPrefix : Text := "blacklist:token:".toList

def blacklistKey (jti : Text) : Text := blacklistPrefix ++ jti

theorem blacklistKey_injective : Function.Injective blacklistKey :=
  fun _ _ same => List.append_cancel_left same

/-- The name of a key that is none of the blacklist. -/
structure ForeignKey where
  name : Text
  foreign : ¬ blacklistPrefix <+: name

theorem ForeignKey.ne_blacklistKey (key : ForeignKey) (jti : Text) :
    blacklistKey jti ≠ key.name := by
  intro same
  apply key.foreign
  rw [← same]
  exact List.prefix_append _ _

structure AuditLog where
  userId : UserId
  action : String
  resource : String
  deriving DecidableEq, Repr

structure SessionStores (𝕜 : Type w) extends Keyspace Text Text 𝕜 where
  issued : Issued
  auditLogs : List AuditLog

section Stores

variable {𝕜 : Type w} [Field 𝕜] [LinearOrder 𝕜] [FloorRing 𝕜]

/-- `RedisService.set`. -/
def setText (space : Keyspace Text Text 𝕜) (key value : Text) :
    Option Int → Keyspace Text Text 𝕜
  | some ttlSeconds =>
      if 0 < ttlSeconds then space.set key value (some ttlSeconds)
      else space.set key value none
  | none => space.set key value none

/-- `exp` is reached. -/
def Expired (now : 𝕜) (payload : JwtPayload) : Prop :=
  ∃ exp ∈ payload.exp, exp ≤ ⌊now⌋

instance (now : 𝕜) (payload : JwtPayload) :
    Decidable (Expired now payload) :=
  match h : payload.exp with
  | none => isFalse (by simp [Expired, h])
  | some exp => decidable_of_iff (exp ≤ ⌊now⌋) (by simp [Expired, h])

/-- The verifier of `passport-jwt`, with `ignoreExpiration: false`. -/
def verifies (stores : SessionStores 𝕜) (payload : JwtPayload) : Bool :=
  decide (payload ∈ stores.issued.tokens) &&
    decide (¬ Expired stores.now payload)

/-- What the services await, and the two places that read the clock. -/
inductive SessionCommand where
  | verifyToken (payload : JwtPayload)
  | existsKey (key : Text)
  | dateNow
  | set (key value : Text) (ttlSeconds : Option Int)
  | createAuditLog (entry : AuditLog)
  deriving DecidableEq, Repr

abbrev Reply : SessionCommand → Type
  | .verifyToken _ => Bool
  | .existsKey _ => Bool
  | .dateNow => Int
  | .set _ _ _ => Unit
  | .createAuditLog _ => Unit

def perform :
    (command : SessionCommand) → SessionStores 𝕜 →
      Reply command × SessionStores 𝕜
  | .verifyToken payload, stores => (verifies stores payload, stores)
  | .existsKey key, stores => (stores.existsKey key, stores)
  | .dateNow, stores => (RealTime.dateNow stores.now, stores)
  | .set key value ttlSeconds, stores =>
      ((), { stores with
        toKeyspace := setText stores.toKeyspace key value ttlSeconds })
  | .createAuditLog entry, stores =>
      ((), { stores with auditLogs := stores.auditLogs ++ [entry] })

end Stores

/-! ## The guard -/

/-- The causes of an `UnauthorizedException`. -/
inductive AuthError where
  | invalid
  | blacklisted
  deriving DecidableEq, Repr

def AuthError.message : AuthError → String
  | .invalid => "Token không hợp lệ hoặc đã hết hạn"
  | .blacklisted => "Token đã bị vô hiệu hóa"

abbrev Awaited (γ : Type) := Pending SessionCommand Reply γ

inductive GuardStage where
  | verify
  | existsBlacklist
  deriving DecidableEq, Repr

abbrev GuardProgress := Progress GuardStage (Except AuthError JwtPayload)

/-- `JwtAuthGuard` with `JwtStrategy.validate`. -/
def jwtAuthGuard (payload : JwtPayload) : GuardStage → Awaited GuardProgress
  | .verify =>
      ⟨.verifyToken payload, fun (valid : Bool) =>
        if valid then .running .existsBlacklist
        else .finished (.error .invalid)⟩
  | .existsBlacklist =>
      ⟨.existsKey (blacklistKey payload.jti), fun (blacklisted : Bool) =>
        if blacklisted then .finished (.error .blacklisted)
        else .finished (.ok payload)⟩

/-! ## logout -/

inductive LogoutStage where
  | guard (stage : GuardStage)
  | dateNow
  | setBlacklist (remainingTtl : Int)
  | createAuditLog
  deriving DecidableEq, Repr

abbrev LogoutProgress := Progress LogoutStage (Except AuthError String)

/-- `if (remainingTtl > 0)`; without an `exp` the difference is `NaN`. -/
def afterClock (payload : JwtPayload) (now : Int) : LogoutProgress :=
  match payload.exp with
  | none => .running .createAuditLog
  | some exp =>
      let remainingTtl := exp - now
      if 0 < remainingTtl then .running (.setBlacklist remainingTtl)
      else .running .createAuditLog

/-- The guard and `AuthService.logout`; `validate` has returned the payload
itself. -/
def logout (payload : JwtPayload) : LogoutStage → Awaited LogoutProgress
  | .guard stage =>
      (jwtAuthGuard payload stage).map fun
        | .running later => .running (.guard later)
        | .failed failing applied => .failed (.guard failing) applied
        | .stopped stopped => .stopped (.guard stopped)
        | .finished (.ok _) => .running .dateNow
        | .finished (.error error) => .finished (.error error)
  | .dateNow =>
      ⟨.dateNow, fun (milliseconds : Int) =>
        afterClock payload (wholeSeconds milliseconds)⟩
  | .setBlacklist remainingTtl =>
      ⟨.set (blacklistKey payload.jti) "1".toList (some remainingTtl),
        fun _ => .running .createAuditLog⟩
  | .createAuditLog =>
      ⟨.createAuditLog ⟨payload.sub, "LOGOUT", "auth"⟩,
        fun _ => .finished (.ok "Đăng xuất thành công")⟩

/-! ## The server -/

inductive SessionCall where
  | access (call : Call JwtPayload GuardStage (Except AuthError JwtPayload))
  | logout (call : Call JwtPayload LogoutStage (Except AuthError String))
  deriving DecidableEq

namespace SessionCall

def pending : SessionCall → Option (Awaited SessionCall)
  | .access call => (call.pending jwtAuthGuard).map (Pending.map .access)
  | .logout call => (call.pending Sessions.logout).map (Pending.map .logout)

def reject : SessionCall → Bool → SessionCall
  | .access call, applied => .access (call.reject applied)
  | .logout call, applied => .logout (call.reject applied)

def stop : SessionCall → SessionCall
  | .access call => .access call.stop
  | .logout call => .logout call.stop

end SessionCall

inductive SessionRequest where
  | access (payload : JwtPayload)
  | logout (payload : JwtPayload)
  deriving DecidableEq, Repr

def SessionRequest.call : SessionRequest → SessionCall
  | .access payload => .access ⟨payload, .running .verify⟩
  | .logout payload => .logout ⟨payload, .running (.guard .verify)⟩

/-- Time passes, a login signs a token, or the rest of the system writes a key
of its own. -/
inductive SessionEvent (𝕜 : Type w) [Field 𝕜] [LinearOrder 𝕜] where
  | elapse (duration : {duration : 𝕜 // 0 ≤ duration})
  | sign (claims : TokenClaims) (iat exp : Int)
  | write (key : ForeignKey) (entry : Option (Entry Text 𝕜))

section Server

variable (𝕜 : Type w) [Field 𝕜] [LinearOrder 𝕜] [FloorRing 𝕜]

def sessionServer :
    Server (SessionStores 𝕜) (SessionEvent 𝕜) SessionRequest SessionCommand
      Reply SessionCall where
  external
    | .elapse duration, stores =>
        { stores with toKeyspace := stores.elapse duration.val }
    | .sign claims iat exp, stores =>
        { stores with issued := stores.issued.sign claims iat exp }
    | .write key entry, stores =>
        { stores with toKeyspace := stores.toKeyspace.write key.name entry }
  accept request := some request.call
  perform := perform
  pending := SessionCall.pending
  reject := SessionCall.reject
  stop := SessionCall.stop

theorem hosts_access : (sessionServer 𝕜).Hosts .access jwtAuthGuard :=
  ⟨fun _ => rfl, fun _ _ => rfl, fun _ => rfl⟩

theorem hosts_logout : (sessionServer 𝕜).Hosts .logout logout :=
  ⟨fun _ => rfl, fun _ _ => rfl, fun _ => rfl⟩

end Server

abbrev SessionState (𝕜 : Type w) := ServerState (SessionStores 𝕜) SessionCall

def SessionState.init {𝕜 : Type w} (origin : 𝕜) : SessionState 𝕜 :=
  ⟨⟨⟨origin, fun _ => none⟩, .empty, []⟩, []⟩

end ConcertTicketing.Sessions
