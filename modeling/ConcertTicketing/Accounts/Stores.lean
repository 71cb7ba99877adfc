import ConcertTicketing.Domain
import ConcertTicketing.Library.Redis
import ConcertTicketing.Library.Text
import Mathlib.Algebra.Order.BigOperators.Group.List
import Mathlib.Algebra.Order.Group.Nat
import Mathlib.Algebra.Ring.Nat

/-!
# Users and their keys

The table `users`, the Redis keys of `AuthService` and `UsersService`, and the
calls that both services await, each with its reply and its effect.
-/

namespace ConcertTicketing.Accounts

open Redis

inductive UserStatus where
  | pendingVerify
  | active
  | locked
  deriving DecidableEq, Repr

inductive RoleName where
  | user
  | organizer
  | admin
  deriving DecidableEq, Repr

structure User where
  id : UserId
  email : Text
  passwordHash : Text
  fullName : Text
  phone : Option Text
  status : UserStatus
  roles : List RoleName
  deriving DecidableEq, Repr

/-- The columns that `register` gives a new row. -/
structure NewUser where
  email : Text
  passwordHash : Text
  fullName : Text
  phone : Option Text
  deriving DecidableEq, Repr

/-- The table, with its unique columns. -/
structure Users where
  rows : List User
  uniqueIds : (rows.map User.id).Nodup
  uniqueEmails : (rows.map User.email).Nodup

namespace Users

def empty : Users := ⟨[], List.nodup_nil, List.nodup_nil⟩

/-- `user.findUnique` by email. -/
def findByEmail (users : Users) (email : Text) : Option User :=
  users.rows.find? fun row => decide (row.email = email)

def freshId (users : Users) : UserId := (users.rows.map User.id).sum + 1

private theorem freshId_notMem (users : Users) :
    users.freshId ∉ users.rows.map User.id := by
  intro member
  have below := List.single_le_sum (fun id _ => Nat.zero_le id) _ member
  unfold freshId at below
  omega

/-- The row of a new account, with the role `USER`. -/
def newRow (users : Users) (new : NewUser) : User :=
  ⟨users.freshId, new.email, new.passwordHash, new.fullName, new.phone,
    .pendingVerify, [.user]⟩

/-- The transaction of `register`; a duplicate email makes it fail. -/
def create (users : Users) (new : NewUser) : Option Users :=
  if absent : new.email ∉ users.rows.map User.email then
    some
      { rows := users.rows ++ [users.newRow new]
        uniqueIds := by
          rw [List.map_append, List.map_singleton, ← List.concat_eq_append]
          exact users.uniqueIds.concat users.freshId_notMem
        uniqueEmails := by
          rw [List.map_append, List.map_singleton, ← List.concat_eq_append]
          exact users.uniqueEmails.concat absent }
  else none

/-- `user.updateMany` of `verifyOtp`, on one row. -/
def activated (email : Text) (row : User) : User :=
  if row.email = email ∧ row.status = .pendingVerify then
    { row with status := .active }
  else row

@[simp]
theorem activated_id (email : Text) (row : User) :
    (activated email row).id = row.id := by
  unfold activated
  split <;> rfl

@[simp]
theorem activated_email (email : Text) (row : User) :
    (activated email row).email = row.email := by
  unfold activated
  split <;> rfl

def activate (users : Users) (email : Text) : Users where
  rows := users.rows.map (activated email)
  uniqueIds := by
    have sameIds : User.id ∘ activated email = User.id := by
      funext row
      exact activated_id email row
    rw [List.map_map, sameIds]
    exact users.uniqueIds
  uniqueEmails := by
    have sameEmails : User.email ∘ activated email = User.email := by
      funext row
      exact activated_email email row
    rw [List.map_map, sameEmails]
    exact users.uniqueEmails

/-- `user.update` of `verifyEmailChange`, on one row. -/
def withEmail (userId : UserId) (newEmail : Text) (row : User) : User :=
  if row.id = userId then { row with email := newEmail } else row

@[simp]
theorem withEmail_id (userId : UserId) (newEmail : Text) (row : User) :
    (withEmail userId newEmail row).id = row.id := by
  unfold withEmail
  split <;> rfl

/-- With an email that no other row has, the emails stay apart. -/
theorem withEmail_injOn (users : Users) {userId : UserId} {newEmail : Text}
    (free : ∀ row ∈ users.rows, row.email = newEmail → row.id = userId) :
    ∀ first ∈ users.rows, ∀ second ∈ users.rows,
      (withEmail userId newEmail first).email =
        (withEmail userId newEmail second).email →
      first = second := by
  intro first inFirst second inSecond same
  unfold withEmail at same
  by_cases firstIs : first.id = userId <;>
    by_cases secondIs : second.id = userId
  · exact List.inj_on_of_nodup_map users.uniqueIds inFirst inSecond
      (firstIs.trans secondIs.symm)
  · rw [if_pos firstIs, if_neg secondIs] at same
    exact absurd (free second inSecond same.symm) secondIs
  · rw [if_neg firstIs, if_pos secondIs] at same
    exact absurd (free first inFirst same) firstIs
  · rw [if_neg firstIs, if_neg secondIs] at same
    exact List.inj_on_of_nodup_map users.uniqueEmails inFirst inSecond same

/-- `user.update` by id, which fails for an unknown id and for an email that
another row has. -/
def updateEmail (users : Users) (userId : UserId) (newEmail : Text) :
    Option Users :=
  if allowed : userId ∈ users.rows.map User.id ∧
      ∀ row ∈ users.rows, row.email = newEmail → row.id = userId then
    some
      { rows := users.rows.map (withEmail userId newEmail)
        uniqueIds := by
          have sameIds : User.id ∘ withEmail userId newEmail = User.id := by
            funext row
            exact withEmail_id userId newEmail row
          rw [List.map_map, sameIds]
          exact users.uniqueIds
        uniqueEmails := by
          rw [List.map_map]
          exact List.Nodup.map_on (users.withEmail_injOn allowed.2)
            (List.Nodup.of_map _ users.uniqueIds) }
  else none

theorem findByEmail_eq_some_iff {users : Users} {email : Text} {row : User} :
    users.findByEmail email = some row ↔
      row ∈ users.rows ∧ row.email = email := by
  constructor
  · intro found
    have matched := List.find?_some found
    exact ⟨List.mem_of_find?_eq_some found, of_decide_eq_true matched⟩
  · rintro ⟨member, rfl⟩
    cases found : users.findByEmail row.email with
    | none =>
        have missing := List.find?_eq_none.mp found row member
        simp at missing
    | some other =>
        have matched := List.find?_some found
        have sameEmail : other.email = row.email := of_decide_eq_true matched
        rw [List.inj_on_of_nodup_map users.uniqueEmails
          (List.mem_of_find?_eq_some found) member sameEmail]

theorem findByEmail_eq_none_iff {users : Users} {email : Text} :
    users.findByEmail email = none ↔ ∀ row ∈ users.rows, row.email ≠ email := by
  simp only [findByEmail, List.find?_eq_none, decide_eq_true_iff, ne_eq]

private theorem findByEmail_eq_none_of_notMem {users : Users} {email : Text}
    (absent : email ∉ users.rows.map User.email) :
    users.findByEmail email = none := by
  rw [findByEmail_eq_none_iff]
  intro row member sameEmail
  apply absent
  rw [← sameEmail]
  exact List.mem_map_of_mem member

/-- A new account is found under its email, the others as before. -/
theorem findByEmail_create {users after : Users} {new : NewUser}
    (created : users.create new = some after) (email : Text) :
    after.findByEmail email =
      if email = new.email then some (users.newRow new)
      else users.findByEmail email := by
  unfold create at created
  split at created
  · next absent =>
      cases created
      unfold findByEmail
      rw [List.find?_append]
      by_cases same : email = new.email
      · subst email
        have missing := findByEmail_eq_none_of_notMem absent
        unfold findByEmail at missing
        rw [missing, if_pos rfl]
        simp [newRow]
      · have other : ¬ new.email = email := fun equal => same equal.symm
        rw [if_neg same]
        simp [newRow, other]
  · cases created

/-- A new account needs an email that is not registered. -/
theorem create_eq_none_iff {users : Users} {new : NewUser} :
    users.create new = none ↔ (users.findByEmail new.email).isSome := by
  unfold create
  by_cases absent : new.email ∉ users.rows.map User.email
  · have missing := findByEmail_eq_none_of_notMem absent
    simp [absent, missing]
  · rw [dif_neg absent, not_not] at *
    obtain ⟨row, member, sameEmail⟩ := List.mem_map.mp absent
    have found := findByEmail_eq_some_iff.mpr ⟨member, sameEmail⟩
    simp [found]

theorem absent_of_create {users after : Users} {new : NewUser}
    (created : users.create new = some after) :
    users.findByEmail new.email = none := by
  rw [← Option.not_isSome_iff_eq_none]
  intro registered
  rw [create_eq_none_iff.mpr registered] at created
  cases created

theorem findByEmail_activate (users : Users) (activeEmail email : Text) :
    (users.activate activeEmail).findByEmail email =
      (users.findByEmail email).map (activated activeEmail) := by
  unfold findByEmail activate
  rw [List.find?_map]
  congr 2
  funext row
  simp

end Users

/-! ## The Redis keys -/

inductive TextKey where
  | otp (email : Text)
  | otpLock (email : Text)
  | emailChange (userId : UserId)
  | emailChangeLock (userId : UserId)
  deriving DecidableEq, Repr

inductive CounterKey where
  | otpResend (email : Text)
  | loginFail (email : Text)
  deriving DecidableEq, Repr

/-- The texts with the clock, and the counters under the same clock. -/
structure AccountRedis extends Db TextKey Empty Text where
  counts : CounterKey → Option (Entry Nat)

namespace AccountRedis

def empty (now : Instant) : AccountRedis :=
  ⟨Db.empty now, fun _ => none⟩

def counters (redis : AccountRedis) : Db CounterKey Empty Nat :=
  ⟨redis.now, redis.counts, fun _ => ∅⟩

def withCounters (redis : AccountRedis) (counters : Db CounterKey Empty Nat) :
    AccountRedis :=
  { redis with counts := counters.strings }

def tick (redis : AccountRedis) (elapsed : Nat) : AccountRedis :=
  { redis with toDb := redis.toDb.tick elapsed }

end AccountRedis

/-- `RedisService.set`. -/
def setText (db : Db TextKey Empty Text) (key : TextKey) (value : Text) :
    Option Int → Db TextKey Empty Text
  | some ttlSeconds =>
      if 0 < ttlSeconds then db.put key value ttlSeconds
      else db.set key value
  | none => db.set key value

/-- The deadline that `RedisService.set` gives a key. -/
def setDeadline (now : Instant) : Option Int → Option Instant
  | some ttlSeconds =>
      if 0 < ttlSeconds then some (now + ttlSeconds * 1000) else none
  | none => none

private theorem find_setText (db : Db TextKey Empty Text) (key : TextKey)
    (value : Text) (ttlSeconds : Option Int) (other : TextKey) :
    (setText db key value ttlSeconds).find other =
      if other = key then some ⟨value, setDeadline db.now ttlSeconds⟩
      else db.find other := by
  cases ttlSeconds with
  | none => exact Db.find_set db key value other
  | some seconds =>
      by_cases positive : 0 < seconds
      · simp only [setText, setDeadline, if_pos positive]
        exact Db.find_put positive other
      · simp only [setText, setDeadline, if_neg positive]
        exact Db.find_set db key value other

/-- `randomInt(100000, 1000000)`. -/
structure Otp where
  value : Nat
  low : 100000 ≤ value
  high : value < 1000000
  deriving DecidableEq, Repr

namespace Otp

def oneToSix : Otp := ⟨123456, by decide, by decide⟩

/-- `toString` of the number. -/
def text (otp : Otp) : Text := Nat.toDigits 10 otp.value

/-- A code has no character that is not a digit. -/
theorem notMem_text {char : Char} (noDigit : char.isDigit = false)
    (otp : Otp) : char ∉ otp.text :=
  Text.notMem_toDigits noDigit otp.value

end Otp

structure JwtPayload where
  sub : UserId
  jti : Nat
  email : Text
  roles : List RoleName
  status : UserStatus
  deriving DecidableEq, Repr

/-- What the services use of `class-validator`, `bcrypt` and `jsonwebtoken`.
The salt of a hash is drawn by the caller. -/
structure Libraries where
  isEmail : Text → Bool
  hash : (password salt : Text) → Text
  compare : (password passwordHash : Text) → Bool
  sign : JwtPayload → Text

/-- A hash is matched by the password it was made of, and by no other one. -/
def Libraries.ComparesCorrectly (lib : Libraries) : Prop :=
  ∀ password salt other,
    lib.compare other (lib.hash password salt) = true ↔ other = password

namespace Libraries

/-- Libraries for concrete runs: an address is a text with an `@`, and a hash
is the password. -/
def plain : Libraries where
  isEmail email := email.contains '@'
  hash password _ := password
  compare password passwordHash := decide (password = passwordHash)
  sign _ := "token".toList

theorem plain_comparesCorrectly : plain.ComparesCorrectly := by
  intro password salt other
  exact decide_eq_true_iff

end Libraries

/-! ## The commands -/

/-- The actions that the modelled functions write to `audit_logs`. -/
inductive AuditAction where
  | login (ipAddress : Option Text)
  | changeEmail (newEmail : Text)
  deriving DecidableEq, Repr

structure AuditLog where
  userId : UserId
  action : AuditAction
  deriving DecidableEq, Repr

structure AccountStores where
  users : Users
  redis : AccountRedis
  auditLogs : List AuditLog

namespace AccountStores

abbrev now (stores : AccountStores) : Instant := stores.redis.now

/-- The live entry of a key. -/
def find (stores : AccountStores) (key : TextKey) : Option (Entry Text) :=
  stores.redis.find key

/-- The live entry of a counter. -/
def findCount (stores : AccountStores) (key : CounterKey) :
    Option (Entry Nat) :=
  stores.redis.counters.find key

/-- The number in a counter, `0` when there is none. -/
def count (stores : AccountStores) (key : CounterKey) : Nat :=
  ((stores.findCount key).map Entry.value).getD 0

end AccountStores

inductive AccountCommand where
  | existsKey (key : TextKey)
  | get (key : TextKey)
  | set (key : TextKey) (value : Text) (ttlSeconds : Option Int)
  | del (key : TextKey)
  | ttl (key : TextKey)
  | getCount (key : CounterKey)
  | incr (key : CounterKey)
  | expire (key : CounterKey) (ttlSeconds : Int)
  | delCount (key : CounterKey)
  | hashPassword (password salt : Text)
  | comparePassword (password passwordHash : Text)
  | signToken (payload : JwtPayload)
  | findUser (email : Text)
  | createUser (new : NewUser)
  | activateUser (email : Text)
  | updateEmail (userId : UserId) (newEmail : Text)
  | createAuditLog (entry : AuditLog)
  deriving DecidableEq, Repr

/-- `incr` is answered `none` for an error of the server; `createUser` and
`updateEmail` answer whether the database has accepted the row. -/
def AccountCommand.Reply : AccountCommand → Type
  | .existsKey _ => Bool
  | .get _ => Option Text
  | .ttl _ => Int
  | .getCount _ => Option Nat
  | .incr _ => Option Nat
  | .hashPassword _ _ => Text
  | .comparePassword _ _ => Bool
  | .signToken _ => Text
  | .findUser _ => Option User
  | .createUser _ => Bool
  | .updateEmail _ _ => Bool
  | _ => Unit

section Perform

variable (lib : Libraries)

def perform :
    (command : AccountCommand) → AccountStores → command.Reply × AccountStores
  | .existsKey key, stores => (stores.redis.existsKey key, stores)
  | .get key, stores => (stores.redis.get key, stores)
  | .set key value ttlSeconds, stores =>
      ((),
        { stores with
          redis :=
            { stores.redis with
              toDb := setText stores.redis.toDb key value ttlSeconds } })
  | .del key, stores =>
      ((),
        { stores with
          redis := { stores.redis with toDb := stores.redis.del key } })
  | .ttl key, stores => (stores.redis.ttl key, stores)
  | .getCount key, stores => (stores.redis.counters.get key, stores)
  | .incr key, stores =>
      match stores.redis.counters.incr key with
      | none => (none, stores)
      | some (number, counters) =>
          (some number,
            { stores with redis := stores.redis.withCounters counters })
  | .expire key ttlSeconds, stores =>
      ((),
        { stores with
          redis :=
            stores.redis.withCounters
              (stores.redis.counters.expire key ttlSeconds) })
  | .delCount key, stores =>
      ((),
        { stores with
          redis := stores.redis.withCounters (stores.redis.counters.del key) })
  | .hashPassword password salt, stores => (lib.hash password salt, stores)
  | .comparePassword password passwordHash, stores =>
      (lib.compare password passwordHash, stores)
  | .signToken payload, stores => (lib.sign payload, stores)
  | .findUser email, stores => (stores.users.findByEmail email, stores)
  | .createUser new, stores =>
      match stores.users.create new with
      | none => (false, stores)
      | some users => (true, { stores with users := users })
  | .activateUser email, stores =>
      ((), { stores with users := stores.users.activate email })
  | .updateEmail userId newEmail, stores =>
      match stores.users.updateEmail userId newEmail with
      | none => (false, stores)
      | some users => (true, { stores with users := users })
  | .createAuditLog entry, stores =>
      ((), { stores with auditLogs := stores.auditLogs ++ [entry] })

/-- What a command leaves under a text key. -/
def textAfter (command : AccountCommand) (stores : AccountStores)
    (key : TextKey) : Option (Entry Text) :=
  match command with
  | .set written value ttlSeconds =>
      if key = written then some ⟨value, setDeadline stores.now ttlSeconds⟩
      else stores.find key
  | .del deleted => if key = deleted then none else stores.find key
  | _ => stores.find key

/-- What a command leaves in a counter. -/
def countAfter (command : AccountCommand) (stores : AccountStores)
    (key : CounterKey) : Option (Entry Nat) :=
  match command with
  | .incr counted =>
      if key = counted ∧ stores.count key + 1 < 2 ^ 63 then
        some
          ⟨stores.count key + 1,
            (stores.findCount key).bind Entry.expireAt⟩
      else stores.findCount key
  | .expire renewed ttlSeconds =>
      if key = renewed then
        (stores.findCount key).bind
          (stores.redis.counters.renewed ttlSeconds)
      else stores.findCount key
  | .delCount deleted => if key = deleted then none else stores.findCount key
  | _ => stores.findCount key

/-- What a command makes of the table of users. -/
def usersAfter (command : AccountCommand) (users : Users) : Users :=
  match command with
  | .createUser new => (users.create new).getD users
  | .activateUser email => users.activate email
  | .updateEmail userId newEmail =>
      (users.updateEmail userId newEmail).getD users
  | _ => users

/-- Two rows of one table with one id are one row. -/
theorem Users.eq_of_id {users : Users} {first second : User}
    (inFirst : first ∈ users.rows) (inSecond : second ∈ users.rows)
    (same : first.id = second.id) : first = second :=
  List.inj_on_of_nodup_map users.uniqueIds inFirst inSecond same

/-- Only `updateEmail` changes the email of a row. -/
theorem email_of_usersAfter {command : AccountCommand} {users : Users}
    {before after : User} (was : before ∈ users.rows)
    (isNow : after ∈ (usersAfter command users).rows)
    (same : after.id = before.id) :
    after.email = before.email ∨
      command = .updateEmail before.id after.email := by
  have unchanged : after ∈ users.rows → after.email = before.email := by
    intro old
    rw [Users.eq_of_id old was same]
  cases command with
  | createUser new =>
      left
      simp only [usersAfter, Users.create] at isNow
      split at isNow
      · simp only [Option.getD_some, List.mem_append,
          List.mem_singleton] at isNow
        rcases isNow with old | rfl
        · exact unchanged old
        · have taken : users.freshId ∈ users.rows.map User.id := by
            have sameId : users.freshId = before.id := same
            rw [sameId]
            exact List.mem_map_of_mem was
          exact absurd taken users.freshId_notMem
      · exact unchanged isNow
  | activateUser email =>
      left
      obtain ⟨row, inRows, rfl⟩ := List.mem_map.mp isNow
      rw [Users.activated_id] at same
      rw [Users.activated_email, Users.eq_of_id inRows was same]
  | updateEmail userId newEmail =>
      simp only [usersAfter, Users.updateEmail] at isNow
      split at isNow
      · obtain ⟨row, inRows, rfl⟩ := List.mem_map.mp isNow
        rw [Users.withEmail_id] at same
        have sameRow := Users.eq_of_id inRows was same
        subst sameRow
        unfold Users.withEmail
        by_cases isUser : row.id = userId
        · right
          rw [if_pos isUser, isUser]
        · left
          rw [if_neg isUser]
      · exact Or.inl (unchanged isNow)
  | _ => exact Or.inl (unchanged isNow)

theorem perform_now (command : AccountCommand) (stores : AccountStores) :
    (perform lib command stores).2.now = stores.now := by
  cases command with
  | set key value ttlSeconds =>
      cases ttlSeconds with
      | none => rfl
      | some seconds =>
          by_cases positive : 0 < seconds
          · simp only [perform, setText, if_pos positive]
            rfl
          · simp only [perform, setText, if_neg positive]
            rfl
  | incr key =>
      simp only [perform]
      split <;> rfl
  | createUser new =>
      simp only [perform]
      split <;> rfl
  | updateEmail userId newEmail =>
      simp only [perform]
      split <;> rfl
  | _ => rfl

theorem find_perform (command : AccountCommand) (stores : AccountStores)
    (key : TextKey) :
    (perform lib command stores).2.find key =
      textAfter command stores key := by
  cases command with
  | set written value ttlSeconds =>
      exact find_setText stores.redis.toDb written value ttlSeconds key
  | del deleted => exact Db.find_del stores.redis.toDb deleted key
  | incr counted =>
      simp only [perform]
      split <;> rfl
  | createUser new =>
      simp only [perform]
      split <;> rfl
  | updateEmail userId newEmail =>
      simp only [perform]
      split <;> rfl
  | _ => rfl

private theorem findCount_withCounters (stores : AccountStores)
    {counters : Db CounterKey Empty Nat} (sameNow : counters.now = stores.now)
    (key : CounterKey) :
    ({ stores with redis := stores.redis.withCounters counters } :
      AccountStores).findCount key = counters.find key := by
  have clock : stores.redis.now = counters.now := sameNow.symm
  simp only [AccountStores.findCount, AccountRedis.counters,
    AccountRedis.withCounters, Db.find, clock]

private theorem findCount_incr (stores : AccountStores)
    (counted key : CounterKey) :
    (perform lib (.incr counted) stores).2.findCount key =
      countAfter (.incr counted) stores key := by
  have sameCount : (stores.redis.counters.get counted).getD 0 =
      stores.count counted := rfl
  simp only [perform, countAfter]
  cases counts : stores.redis.counters.incr counted with
  | none =>
      have overflow : ¬ stores.count counted + 1 < 2 ^ 63 := by
        intro fits
        simp only [Db.incr, sameCount, if_pos fits] at counts
        cases counts
      by_cases same : key = counted
      · subst key
        rw [if_neg fun fits => overflow fits.2]
      · rw [if_neg fun fits => same fits.1]
  | some result =>
      obtain ⟨number, counters⟩ := result
      obtain ⟨isNext, sameNow, _, found⟩ := Db.incr_eq_some counts
      have fits : stores.count counted + 1 < 2 ^ 63 := by
        by_contra overflow
        simp only [Db.incr, sameCount, if_neg overflow] at counts
        cases counts
      simp only
      rw [findCount_withCounters stores sameNow, found key, isNext, sameCount]
      by_cases same : key = counted
      · subst key
        rw [if_pos rfl, if_pos ⟨rfl, fits⟩]
        rfl
      · rw [if_neg same, if_neg fun both => same both.1]
        rfl

/-- What `INCR` answers. -/
theorem incr_reply (key : CounterKey) (stores : AccountStores) :
    (perform lib (.incr key) stores).1 =
      if stores.count key + 1 < 2 ^ 63 then some (stores.count key + 1)
      else none := by
  have sameCount : (stores.redis.counters.get key).getD 0 =
      stores.count key := rfl
  simp only [perform, Db.incr, sameCount]
  by_cases fits : stores.count key + 1 < 2 ^ 63
  · simp only [if_pos fits]
    rfl
  · simp only [if_neg fits]
    rfl

theorem findCount_perform (command : AccountCommand) (stores : AccountStores)
    (key : CounterKey) :
    (perform lib command stores).2.findCount key =
      countAfter command stores key := by
  cases command with
  | set written value ttlSeconds =>
      have clock := perform_now lib (.set written value ttlSeconds) stores
      have sameNow : (setText stores.redis.toDb written value ttlSeconds).now =
          stores.redis.now := clock
      simp only [perform, countAfter, AccountStores.findCount,
        AccountRedis.counters, sameNow]
  | incr counted => exact findCount_incr lib stores counted key
  | expire renewed ttlSeconds =>
      simp only [perform]
      rw [findCount_withCounters stores (Db.expire_now _ _ _),
        Db.find_expire]
      by_cases same : key = renewed
      · subst key
        rfl
      · simp only [countAfter, if_neg same]
        rfl
  | delCount deleted =>
      simp only [perform]
      rw [findCount_withCounters stores rfl]
      exact Db.find_del stores.redis.counters deleted key
  | createUser new =>
      simp only [perform]
      split <;> rfl
  | updateEmail userId newEmail =>
      simp only [perform]
      split <;> rfl
  | _ => rfl

theorem users_perform (command : AccountCommand) (stores : AccountStores) :
    (perform lib command stores).2.users =
      usersAfter command stores.users := by
  cases command with
  | incr counted =>
      simp only [perform]
      split <;> rfl
  | createUser new =>
      simp only [perform, usersAfter]
      split <;> simp_all
  | updateEmail userId newEmail =>
      simp only [perform, usersAfter]
      split <;> simp_all
  | _ => rfl

end Perform

namespace AccountStores

def tick (stores : AccountStores) (elapsed : Nat) : AccountStores :=
  { stores with redis := stores.redis.tick elapsed }

/-- An entry that is live in `elapsed` milliseconds from now. -/
def liveLater {ν : Type} (stores : AccountStores) (elapsed : Nat) :
    Entry ν → Bool :=
  fun entry => decide (entry.Live (stores.now + elapsed))

theorem find_tick (stores : AccountStores) (elapsed : Nat) (key : TextKey) :
    (stores.tick elapsed).find key =
      (stores.find key).filter (stores.liveLater elapsed) :=
  Db.find_tick stores.redis.toDb elapsed key

theorem findCount_tick (stores : AccountStores) (elapsed : Nat)
    (key : CounterKey) :
    (stores.tick elapsed).findCount key =
      (stores.findCount key).filter (stores.liveLater elapsed) :=
  Db.find_tick stores.redis.counters elapsed key

/-- A counter that does not lapse is the same counter. -/
theorem findCount_tick_of_stays {stores : AccountStores} {elapsed : Nat}
    {key : CounterKey}
    (stays : (stores.findCount key).isSome = true →
      ((stores.tick elapsed).findCount key).isSome = true) :
    (stores.tick elapsed).findCount key = stores.findCount key := by
  have later := stores.findCount_tick elapsed key
  cases found : stores.findCount key with
  | none => rw [later, found, Option.filter_none]
  | some entry =>
      have live := stays (Option.isSome_of_eq_some found)
      rw [later, found] at live ⊢
      obtain ⟨kept, isKept⟩ := Option.isSome_iff_exists.mp live
      have same := (Option.filter_eq_some_iff.mp isKept).1
      rw [isKept, same]

theorem count_tick_of_stays {stores : AccountStores} {elapsed : Nat}
    {key : CounterKey}
    (stays : (stores.findCount key).isSome = true →
      ((stores.tick elapsed).findCount key).isSome = true) :
    (stores.tick elapsed).count key = stores.count key := by
  simp only [count, findCount_tick_of_stays stays]

theorem count_tick_le (stores : AccountStores) (elapsed : Nat)
    (key : CounterKey) :
    (stores.tick elapsed).count key ≤ stores.count key := by
  simp only [count, findCount_tick]
  cases stores.findCount key with
  | none => exact le_refl _
  | some entry =>
      by_cases live : stores.liveLater elapsed entry = true
      · rw [Option.filter_some_pos live]
      · rw [Option.filter_some_neg (Bool.eq_false_iff.mpr live)]
        exact Nat.zero_le _

end AccountStores

end ConcertTicketing.Accounts
