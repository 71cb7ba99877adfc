import ConcertTicketing.Sessions.Service
import Mathlib.Tactic.Linarith

/-!
# A token that has been logged out

`logout` computes the remaining time from a rounded clock and Redis counts it
from a later instant, so the key outlives the token; where nothing remains,
the token has expired at the instant that was read.  Every other `jti` has
another key.
-/

namespace ConcertTicketing.Sessions

open RealTime

universe w

section

variable {𝕜 : Type w} [Field 𝕜]

/-- The deadline that `RedisService.set` gives a key. -/
def setDeadline (now : 𝕜) : Option Int → Option 𝕜
  | some ttlSeconds =>
      if 0 < ttlSeconds then some (now + (ttlSeconds : 𝕜)) else none
  | none => none

private theorem setText_eq (space : Keyspace Text Text 𝕜) (key value : Text)
    (ttlSeconds : Option Int) :
    setText space key value ttlSeconds =
      space.write key (some ⟨value, setDeadline space.now ttlSeconds⟩) := by
  cases ttlSeconds with
  | none => rfl
  | some seconds =>
      by_cases positive : 0 < seconds
      · simp only [setText, setDeadline, if_pos positive]
        rfl
      · simp only [setText, setDeadline, if_neg positive]
        rfl

def withBlacklisted (stores : SessionStores 𝕜) (payload : JwtPayload)
    (remainingTtl : Int) : SessionStores 𝕜 :=
  { stores with
    toKeyspace :=
      setText stores.toKeyspace (blacklistKey payload.jti) "1".toList
        (some remainingTtl) }

theorem entries_withBlacklisted (stores : SessionStores 𝕜)
    {payload : JwtPayload} {jti : Text} (different : jti ≠ payload.jti)
    (remainingTtl : Int) :
    (withBlacklisted stores payload remainingTtl).entries (blacklistKey jti) =
      stores.entries (blacklistKey jti) := by
  have otherKey : blacklistKey jti ≠ blacklistKey payload.jti :=
    fun same => different (blacklistKey_injective same)
  rw [withBlacklisted, setText_eq]
  exact Keyspace.entries_write_of_ne _ otherKey _

end

section

variable {𝕜 : Type w} [Field 𝕜] [LinearOrder 𝕜]

/-- `validate` finds the token on the blacklist. -/
def Blacklisted (stores : SessionStores 𝕜) (payload : JwtPayload) : Prop :=
  stores.existsKey (blacklistKey payload.jti) = true

/-- The token has expired, or the blacklist holds it until it has. -/
def Dead (stores : SessionStores 𝕜) (payload : JwtPayload) : Prop :=
  ∃ exp ∈ payload.exp,
    (exp : 𝕜) ≤ stores.now ∨
      ∃ entry ∈ stores.entries (blacklistKey payload.jti),
        ∀ deadline ∈ entry.lapsesAt, (exp : 𝕜) ≤ deadline

/-- A key that is set from now on with the time-to-live outlives the token. -/
def Covers (stores : SessionStores 𝕜) (payload : JwtPayload)
    (ttlSeconds : Int) : Prop :=
  ∃ exp ∈ payload.exp, (exp : 𝕜) ≤ stores.now + (ttlSeconds : 𝕜)

/-- What happens to the stores leaves dead tokens dead. -/
structure Grows (before after : SessionStores 𝕜) : Prop where
  now : before.now ≤ after.now
  issued : ∀ payload ∈ before.issued.tokens, payload ∈ after.issued.tokens
  dead : ∀ payload ∈ before.issued.tokens,
    Dead before payload → Dead after payload

/-- With the same blacklist, time and new tokens do no harm. -/
theorem Grows.of_entries {before after : SessionStores 𝕜}
    (later : before.now ≤ after.now)
    (issued : ∀ payload ∈ before.issued.tokens,
      payload ∈ after.issued.tokens)
    (entries : ∀ jti, after.entries (blacklistKey jti) =
      before.entries (blacklistKey jti)) : Grows before after where
  now := later
  issued := issued
  dead payload _ dead := by
    obtain ⟨exp, expires, reached | stored⟩ := dead
    · exact ⟨exp, expires, Or.inl (reached.trans later)⟩
    · refine ⟨exp, expires, Or.inr ?_⟩
      rw [entries]
      exact stored

theorem Grows.refl (stores : SessionStores 𝕜) : Grows stores stores :=
  .of_entries le_rfl (fun _ member => member) fun _ => rfl

/-- The key outlives a token that its time-to-live covers. -/
theorem dead_withBlacklisted {stores : SessionStores 𝕜} {payload : JwtPayload}
    {remainingTtl : Int} (covers : Covers stores payload remainingTtl) :
    Dead (withBlacklisted stores payload remainingTtl) payload := by
  obtain ⟨exp, expires, outlives⟩ := covers
  refine ⟨exp, expires, Or.inr
    ⟨⟨"1".toList, setDeadline stores.now (some remainingTtl)⟩, ?_, ?_⟩⟩
  · rw [withBlacklisted, setText_eq]
    exact Keyspace.entries_write_self ..
  · intro deadline member
    by_cases positive : 0 < remainingTtl
    · simp only [setDeadline, if_pos positive, Option.mem_some_iff] at member
      rw [← member]
      exact outlives
    · simp [setDeadline, positive] at member

/-- A logout of the token that sets the key again covers it again; the key of
any other token is left alone. -/
theorem grows_withBlacklisted {stores : SessionStores 𝕜}
    {payload : JwtPayload} {remainingTtl : Int}
    (issued : payload ∈ stores.issued.tokens)
    (covers : Covers stores payload remainingTtl) :
    Grows stores (withBlacklisted stores payload remainingTtl) where
  now := by
    rw [withBlacklisted, setText_eq]
    exact le_rfl
  issued _ member := member
  dead other member dead := by
    by_cases sameJti : other.jti = payload.jti
    · rw [stores.issued.unique member issued sameJti]
      exact dead_withBlacklisted covers
    · obtain ⟨exp, expires, reached | ⟨entry, stored, outlives⟩⟩ := dead
      · refine ⟨exp, expires, Or.inl ?_⟩
        rw [withBlacklisted, setText_eq]
        exact reached
      · refine ⟨exp, expires, Or.inr ⟨entry, ?_, outlives⟩⟩
        rw [entries_withBlacklisted stores sameJti]
        exact stored

namespace LogoutProgress

/-- The verifier has accepted the token. -/
def verified : LogoutProgress → Bool
  | .running (.guard .verify) => false
  | .failed (.guard .verify) _ => false
  | .stopped (.guard .verify) => false
  | .finished (.error _) => false
  | _ => true

/-- The blacklist key is set, or need not be. -/
def settled : LogoutProgress → Bool
  | .running .createAuditLog => true
  | .failed (.setBlacklist _) applied => applied
  | .failed .createAuditLog _ => true
  | .stopped .createAuditLog => true
  | .finished (.ok _) => true
  | _ => false

theorem verified_of_settled {progress : LogoutProgress}
    (settles : settled progress = true) : verified progress = true := by
  unfold settled at settles
  unfold verified
  split at settles <;> first | rfl | cases settles

end LogoutProgress

structure Sound (stores : SessionStores 𝕜) (payload : JwtPayload)
    (progress : LogoutProgress) : Prop where
  issued : LogoutProgress.verified progress = true →
    payload ∈ stores.issued.tokens
  covers : ∀ remainingTtl, progress = .running (.setBlacklist remainingTtl) →
    Covers stores payload remainingTtl
  dead : LogoutProgress.settled progress = true → Dead stores payload

/-- A logout that ends early knows no more than before. -/
theorem Sound.ends {stores : SessionStores 𝕜} {payload : JwtPayload}
    {stage : LogoutStage} {progress : LogoutProgress}
    (sound : Sound stores payload (.running stage))
    (verified : LogoutProgress.verified progress = true →
      LogoutProgress.verified (.running stage) = true)
    (ended : progress.isRunning = false)
    (settled : LogoutProgress.settled progress = true →
      LogoutProgress.settled (.running stage) = true) :
    Sound stores payload progress where
  issued verifiedNow := sound.issued (verified verifiedNow)
  covers _ waits := by
    rw [waits] at ended
    cases ended
  dead settledNow := sound.dead (settled settledNow)

/-- The command has not been applied. -/
theorem sound_ended {payload : JwtPayload} {stores : SessionStores 𝕜}
    {stage : LogoutStage} (sound : Sound stores payload (.running stage))
    {progress : LogoutProgress}
    (ended : progress = .failed stage false ∨ progress = .stopped stage) :
    Sound stores payload progress := by
  rcases ended with rfl | rfl
  all_goals
    refine sound.ends ?_ rfl ?_
    · cases stage with
      | guard stage => cases stage <;> exact id
      | _ => exact id
    · cases stage with
      | createAuditLog => exact id
      | _ => exact nofun

variable [IsStrictOrderedRing 𝕜]

theorem Sound.grows {before after : SessionStores 𝕜} {payload : JwtPayload}
    {progress : LogoutProgress} (sound : Sound before payload progress)
    (grows : Grows before after) : Sound after payload progress where
  issued verified := grows.issued payload (sound.issued verified)
  covers remainingTtl waits := by
    obtain ⟨exp, expires, outlives⟩ := sound.covers remainingTtl waits
    refine ⟨exp, expires, outlives.trans ?_⟩
    exact add_le_add_left grows.now _
  dead settles := grows.dead payload
    (sound.issued (LogoutProgress.verified_of_settled settles))
    (sound.dead settles)

end

section

variable {𝕜 : Type w} [Field 𝕜] [LinearOrder 𝕜] [FloorRing 𝕜]

private theorem expired_iff {now : 𝕜} {payload : JwtPayload} :
    Expired now payload ↔ ∃ exp ∈ payload.exp, (exp : 𝕜) ≤ now := by
  simp only [Expired, Int.le_floor]

theorem Expired.later {payload : JwtPayload} {now later : 𝕜}
    (expired : Expired now payload) (passed : now ≤ later) :
    Expired later payload := by
  obtain ⟨exp, expires, reached⟩ := expired_iff.mp expired
  exact expired_iff.mpr ⟨exp, expires, reached.trans passed⟩

/-- There is no instant between the expiry and the end of the key. -/
theorem Dead.rejected {stores : SessionStores 𝕜} {payload : JwtPayload}
    (dead : Dead stores payload) :
    Expired stores.now payload ∨ Blacklisted stores payload := by
  obtain ⟨exp, expires, reached | ⟨entry, stored, outlives⟩⟩ := dead
  · exact Or.inl (expired_iff.mpr ⟨exp, expires, reached⟩)
  · by_cases reached : (exp : 𝕜) ≤ stores.now
    · exact Or.inl (expired_iff.mpr ⟨exp, expires, reached⟩)
    · right
      refine Keyspace.existsKey_eq_true.mpr ⟨entry, stored, ?_⟩
      intro deadline member
      exact lt_of_lt_of_le (not_le.mp reached) (outlives deadline member)

/-- The awaited command of a sound logout does no harm. -/
theorem grows_logout {payload : JwtPayload} {stores : SessionStores 𝕜}
    {stage : LogoutStage} (sound : Sound stores payload (.running stage)) :
    Grows stores (perform (logout payload stage).command stores).2 := by
  cases stage with
  | guard stage =>
      cases stage <;> exact .refl stores
  | dateNow => exact .refl stores
  | setBlacklist remainingTtl =>
      exact grows_withBlacklisted (sound.issued rfl)
        (sound.covers remainingTtl rfl)
  | createAuditLog =>
      exact .of_entries le_rfl (fun _ member => member) fun _ => rfl

/-- A token of which nothing remains has expired. -/
theorem dead_of_over {payload : JwtPayload} {stores : SessionStores 𝕜}
    (issued : payload ∈ stores.issued.tokens)
    (reached : ∀ exp ∈ payload.exp, exp ≤ ⌊stores.now⌋) :
    Dead stores payload := by
  obtain ⟨exp, expires⟩ :=
    Option.isSome_iff_exists.mp (stores.issued.expire payload issued)
  exact ⟨exp, expires, Or.inl (Int.le_floor.mp (reached exp expires))⟩

variable [IsStrictOrderedRing 𝕜]

/-- What remains at the instant that was read covers the token. -/
theorem covers_of_remaining {stores : SessionStores 𝕜} {payload : JwtPayload}
    {exp : Int} (expires : payload.exp = some exp) :
    Covers stores payload (exp - ⌊stores.now⌋) := by
  refine ⟨exp, expires, ?_⟩
  have rounded : (⌊stores.now⌋ : 𝕜) ≤ stores.now := Int.floor_le stores.now
  push_cast
  linarith

inductive LogoutGoes (payload : JwtPayload) (stores : SessionStores 𝕜) :
    LogoutStage → LogoutProgress → Prop
  | invalid (fails : verifies stores payload = false) :
      LogoutGoes payload stores (.guard .verify) (.finished (.error .invalid))
  | verified (holds : verifies stores payload = true) :
      LogoutGoes payload stores (.guard .verify)
        (.running (.guard .existsBlacklist))
  | blacklisted :
      LogoutGoes payload stores (.guard .existsBlacklist)
        (.finished (.error .blacklisted))
  | passed :
      LogoutGoes payload stores (.guard .existsBlacklist) (.running .dateNow)
  | remaining (exp : Int) (expires : payload.exp = some exp)
      (positive : 0 < exp - ⌊stores.now⌋) :
      LogoutGoes payload stores .dateNow
        (.running (.setBlacklist (exp - ⌊stores.now⌋)))
  | expired (reached : ∀ exp ∈ payload.exp, exp ≤ ⌊stores.now⌋) :
      LogoutGoes payload stores .dateNow (.running .createAuditLog)
  | stored (remainingTtl : Int) :
      LogoutGoes payload stores (.setBlacklist remainingTtl)
        (.running .createAuditLog)
  | logged (message : String) :
      LogoutGoes payload stores .createAuditLog (.finished (.ok message))

private theorem logout_goes (payload : JwtPayload) (stores : SessionStores 𝕜)
    (stage : LogoutStage) :
    LogoutGoes payload stores stage
      ((logout payload stage).next
        (perform (logout payload stage).command stores).1) := by
  cases stage with
  | guard stage =>
      cases stage with
      | verify =>
          simp only [logout, jwtAuthGuard, Pending.map, perform]
          cases holds : verifies stores payload with
          | true => exact .verified holds
          | false => exact .invalid holds
      | existsBlacklist =>
          simp only [logout, jwtAuthGuard, Pending.map, perform]
          cases stores.existsKey (blacklistKey payload.jti) with
          | true => exact .blacklisted
          | false => exact .passed
  | dateNow =>
      simp only [logout, perform, afterClock, wholeSeconds_dateNow]
      cases expires : payload.exp with
      | none =>
          refine .expired ?_
          rw [expires]
          exact nofun
      | some exp =>
          by_cases positive : 0 < exp - ⌊stores.now⌋
          · simp only [if_pos positive]
            exact .remaining exp expires positive
          · simp only [if_neg positive]
            refine .expired ?_
            rw [expires]
            rintro _ ⟨⟩
            omega
  | setBlacklist remainingTtl => exact .stored remainingTtl
  | createAuditLog => exact .logged _

private theorem sound_resolved {payload : JwtPayload} {stores : SessionStores 𝕜}
    {stage : LogoutStage} (sound : Sound stores payload (.running stage)) :
    Sound (perform (logout payload stage).command stores).2 payload
      ((logout payload stage).next
        (perform (logout payload stage).command stores).1) := by
  have later := sound.grows (grows_logout sound)
  have goes := logout_goes payload stores stage
  generalize (logout payload stage).next
    (perform (logout payload stage).command stores).1 = progress at goes
  cases goes with
  | invalid => exact ⟨nofun, nofun, nofun⟩
  | verified holds =>
      refine ⟨fun _ => ?_, nofun, nofun⟩
      simp only [verifies, Bool.and_eq_true, decide_eq_true_iff] at holds
      exact holds.1
  | blacklisted => exact ⟨nofun, nofun, nofun⟩
  | passed => exact ⟨fun _ => later.issued rfl, nofun, nofun⟩
  | remaining exp expires =>
      refine ⟨fun _ => later.issued rfl, ?_, nofun⟩
      rintro remainingTtl ⟨⟩
      exact covers_of_remaining expires
  | expired reached =>
      refine ⟨fun _ => later.issued rfl, nofun, fun _ => ?_⟩
      exact dead_of_over (sound.issued rfl) reached
  | stored remainingTtl =>
      refine ⟨fun _ => later.issued rfl, nofun, fun _ => ?_⟩
      exact dead_withBlacklisted (sound.covers remainingTtl rfl)
  | logged message =>
      exact ⟨fun _ => later.issued rfl, nofun, fun _ => later.dead rfl⟩

/-- The reply is lost, but the command has been applied. -/
theorem sound_unanswered {payload : JwtPayload} {stores : SessionStores 𝕜}
    {stage : LogoutStage} (sound : Sound stores payload (.running stage)) :
    Sound (perform (logout payload stage).command stores).2 payload
      (.failed stage true) := by
  have later := sound.grows (grows_logout sound)
  cases stage with
  | guard stage =>
      refine later.ends ?_ rfl nofun
      cases stage <;> exact id
  | dateNow => exact later.ends id rfl nofun
  | setBlacklist remainingTtl =>
      refine ⟨fun _ => later.issued rfl, nofun, fun _ => ?_⟩
      exact dead_withBlacklisted (sound.covers remainingTtl rfl)
  | createAuditLog => exact later.ends id rfl id

/-- However the pending command ends. -/
theorem sound_goOn {payload : JwtPayload} {stores : SessionStores 𝕜}
    {stage : LogoutStage} (sound : Sound stores payload (.running stage))
    (outcome : Await) :
    Sound
      (if outcome.Applies then
        (perform (logout payload stage).command stores).2
      else stores)
      payload (Call.goOn perform logout payload stage stores outcome) := by
  cases outcome with
  | resolves => exact sound_resolved sound
  | rejects applied =>
      cases applied with
      | true => exact sound_unanswered sound
      | false => exact sound_ended sound (Or.inl rfl)
  | stops => exact sound_ended sound (Or.inr rfl)

end

end ConcertTicketing.Sessions
