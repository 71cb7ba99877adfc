import Mathlib.Data.Finset.Card
import Mathlib.Data.Finset.Sort
import Mathlib.Logic.Function.Basic

/-!
# A keyspace with expiring strings and plain sets

The part of a Redis server that scripts of strings and sets need: a clock in
milliseconds, string keys that may carry an instant at which they lapse, and
set keys that never lapse.  Expiry is lazy, as in the server: a lapsed entry
stays in the map and every command looks through it.

Every command comes with its effect on `find`, which returns a live entry with
its deadline, and on the sets.
-/

namespace ConcertTicketing.Redis

universe u v w

/-- A stored string and the instant at which it lapses, if it has one. -/
structure Entry (ν : Type w) where
  value : ν
  expireAt : Option Int
  deriving DecidableEq, Repr

namespace Entry

variable {ν : Type w}

/-- An entry is live strictly before its deadline. -/
def Live (now : Int) (entry : Entry ν) : Prop :=
  ∀ deadline ∈ entry.expireAt, now < deadline

instance (now : Int) (entry : Entry ν) : Decidable (entry.Live now) :=
  match h : entry.expireAt with
  | none => isTrue (by simp [Live, h])
  | some deadline =>
      decidable_of_iff (now < deadline) (by simp [Live, h])

theorem Live.mono {now later : Int} {entry : Entry ν}
    (live : entry.Live later) (order : now ≤ later) : entry.Live now :=
  fun deadline member => lt_of_le_of_lt order (live deadline member)

end Entry

/-- Keys `κ`, set members `μ`, string values `ν`. -/
structure Db (κ : Type u) (μ : Type v) (ν : Type w) where
  now : Int
  strings : κ → Option (Entry ν)
  sets : κ → Finset μ

namespace Db

variable {κ : Type u} {μ : Type v} {ν : Type w}

def empty (now : Int) : Db κ μ ν :=
  ⟨now, fun _ => none, fun _ => ∅⟩

/-- The live entry of a string key. -/
def find (db : Db κ μ ν) (key : κ) : Option (Entry ν) :=
  (db.strings key).filter fun entry => decide (entry.Live db.now)

/-- `GET key`. -/
def get (db : Db κ μ ν) (key : κ) : Option ν :=
  (db.find key).map Entry.value

def tick (db : Db κ μ ν) (elapsed : Nat) : Db κ μ ν :=
  { db with now := db.now + elapsed }

/-- The deadline of a key given `seconds` from now. -/
def deadlineIn (db : Db κ μ ν) (seconds : Int) : Int :=
  db.now + seconds * 1000

/-- A deadline in the future was given a positive time-to-live. -/
theorem seconds_pos_of_lt {now seconds : Int}
    (future : now < now + seconds * 1000) : 0 < seconds := by
  omega

/-- `SCARD key`. -/
def scard (db : Db κ μ ν) (key : κ) : Nat :=
  (db.sets key).card

/-- `EXISTS key` on a string key. -/
def existsKey (db : Db κ μ ν) (key : κ) : Bool :=
  (db.find key).isSome

/-- `TTL key`, in seconds, rounded to the nearest one. -/
def ttl (db : Db κ μ ν) (key : κ) : Int :=
  match db.find key with
  | none => -2
  | some entry =>
      match entry.expireAt with
      | none => -1
      | some deadline => (deadline - db.now + 500) / 1000

/-- `SMEMBERS key`, in some order. -/
def smembers [LinearOrder μ] (db : Db κ μ ν) (key : κ) : List μ :=
  (db.sets key).sort

variable [DecidableEq κ]

/-- `INCR key`, which keeps a deadline; beyond 63 bits it is an error. -/
def incr (db : Db κ μ Nat) (key : κ) : Option (Nat × Db κ μ Nat) :=
  let number := (db.get key).getD 0 + 1
  if number < 2 ^ 63 then
    some (number,
      { db with
        strings :=
          Function.update db.strings key
            (some ⟨number, (db.find key).bind Entry.expireAt⟩) })
  else none

/-- `DEL key` on a string key. -/
def del (db : Db κ μ ν) (key : κ) : Db κ μ ν :=
  { db with strings := Function.update db.strings key none }

def put (db : Db κ μ ν) (key : κ) (value : ν) (seconds : Int) : Db κ μ ν :=
  { db with
    strings :=
      Function.update db.strings key
        (some ⟨value, some (db.deadlineIn seconds)⟩) }

/-- `SET key value`, which takes a deadline away. -/
def set (db : Db κ μ ν) (key : κ) (value : ν) : Db κ μ ν :=
  { db with strings := Function.update db.strings key (some ⟨value, none⟩) }

/-- `SET key value EX seconds`; a non-positive expiry is an error. -/
def setEx (db : Db κ μ ν) (key : κ) (value : ν) (seconds : Int) :
    Option (Db κ μ ν) :=
  if 0 < seconds then some (db.put key value seconds) else none

/-- `EXPIRE key seconds`; a non-positive expiry deletes the key. -/
def expire (db : Db κ μ ν) (key : κ) (seconds : Int) : Db κ μ ν :=
  match db.find key with
  | none => db
  | some entry =>
      if 0 < seconds then db.put key entry.value seconds else db.del key

variable [DecidableEq μ]

/-- `SADD key member`. -/
def sadd (db : Db κ μ ν) (key : κ) (member : μ) : Db κ μ ν :=
  { db with sets := Function.update db.sets key (insert member (db.sets key)) }

/-- `SREM key member`. -/
def srem (db : Db κ μ ν) (key : κ) (member : μ) : Db κ μ ν :=
  { db with sets := Function.update db.sets key ((db.sets key).erase member) }

end Db

namespace Db

variable {κ : Type u} {μ : Type v} {ν : Type w}

theorem get_eq_some_iff {db : Db κ μ ν} {key : κ} {value : ν} :
    db.get key = some value ↔
      ∃ entry, db.find key = some entry ∧ entry.value = value := by
  simp only [get, Option.map_eq_some_iff]

theorem get_eq_none_iff {db : Db κ μ ν} {key : κ} :
    db.get key = none ↔ db.find key = none := by
  simp only [get, Option.map_eq_none_iff]

/-- Time only takes entries away, and only at their deadline. -/
theorem find_tick (db : Db κ μ ν) (elapsed : Nat) (key : κ) :
    (db.tick elapsed).find key =
      (db.find key).filter
        fun entry => decide (entry.Live (db.now + elapsed)) := by
  simp only [find, tick]
  cases stored : db.strings key with
  | none => rfl
  | some entry =>
      by_cases later : entry.Live (db.now + elapsed)
      · have earlier : entry.Live db.now := later.mono (by omega)
        simp [Option.filter, later, earlier]
      · by_cases earlier : entry.Live db.now <;>
          simp [Option.filter, later, earlier]

variable [DecidableEq κ]

@[simp]
theorem del_sets (db : Db κ μ ν) (key : κ) :
    (db.del key).sets = db.sets := rfl

theorem find_del (db : Db κ μ ν) (key other : κ) :
    (db.del key).find other = if other = key then none else db.find other := by
  by_cases same : other = key
  · subst other
    simp [find, del]
  · rw [if_neg same]
    simp only [find, del, Function.update_of_ne same]
    rfl

@[simp]
theorem put_sets (db : Db κ μ ν) (key : κ) (value : ν) (seconds : Int) :
    (db.put key value seconds).sets = db.sets := rfl

theorem find_put {db : Db κ μ ν} {key : κ} {value : ν} {seconds : Int}
    (positive : 0 < seconds) (other : κ) :
    (db.put key value seconds).find other =
      if other = key then some ⟨value, some (db.deadlineIn seconds)⟩
      else db.find other := by
  by_cases same : other = key
  · subst other
    have live : db.now < db.now + seconds * 1000 := by omega
    simp [find, put, Entry.Live, deadlineIn, Option.filter, live]
  · rw [if_neg same]
    simp only [find, put, Function.update_of_ne same]
    rfl

theorem find_set (db : Db κ μ ν) (key : κ) (value : ν) (other : κ) :
    (db.set key value).find other =
      if other = key then some ⟨value, none⟩ else db.find other := by
  by_cases same : other = key
  · subst other
    simp [find, set, Entry.Live, Option.filter]
  · rw [if_neg same]
    simp only [find, set, Function.update_of_ne same]
    rfl

theorem setEx_eq_some_iff {db after : Db κ μ ν} {key : κ} {value : ν}
    {seconds : Int} :
    db.setEx key value seconds = some after ↔
      0 < seconds ∧ after = db.put key value seconds := by
  unfold setEx
  by_cases positive : 0 < seconds
  · simp [positive, eq_comm]
  · simp [positive]

/-- What `INCR` leaves when it is no error. -/
theorem incr_eq_some {db after : Db κ μ Nat} {key : κ} {number : Nat}
    (counted : db.incr key = some (number, after)) :
    number = (db.get key).getD 0 + 1 ∧
      after.now = db.now ∧ after.sets = db.sets ∧
      ∀ other, after.find other =
        if other = key then
          some ⟨number, (db.find key).bind Entry.expireAt⟩
        else db.find other := by
  simp only [incr, Option.ite_none_right_eq_some, Option.some.injEq,
    Prod.mk.injEq] at counted
  obtain ⟨_, rfl, rfl⟩ := counted
  refine ⟨rfl, rfl, rfl, ?_⟩
  intro other
  by_cases same : other = key
  · subst other
    have live : (⟨(db.get key).getD 0 + 1,
        (db.find key).bind Entry.expireAt⟩ : Entry Nat).Live db.now := by
      intro deadline member
      obtain ⟨entry, found, has⟩ := Option.bind_eq_some_iff.mp member
      exact of_decide_eq_true (Option.filter_eq_some_iff.mp found).2
        deadline has
    simp only [find, Function.update_self, if_true]
    exact Option.filter_eq_some_iff.mpr ⟨rfl, decide_eq_true live⟩
  · simp only [find, Function.update_of_ne same, if_neg same]

@[simp]
theorem expire_now (db : Db κ μ ν) (key : κ) (seconds : Int) :
    (db.expire key seconds).now = db.now := by
  unfold expire
  split
  · rfl
  · split <;> rfl

@[simp]
theorem expire_sets (db : Db κ μ ν) (key : κ) (seconds : Int) :
    (db.expire key seconds).sets = db.sets := by
  unfold expire
  split
  · rfl
  · split <;> rfl

/-- What `EXPIRE` makes of a live entry. -/
def renewed (db : Db κ μ ν) (seconds : Int) (entry : Entry ν) :
    Option (Entry ν) :=
  if 0 < seconds then
    some ⟨entry.value, some (db.deadlineIn seconds)⟩
  else none

theorem find_expire (db : Db κ μ ν) (key other : κ) (seconds : Int) :
    (db.expire key seconds).find other =
      if other = key then (db.find key).bind (db.renewed seconds)
      else db.find other := by
  unfold expire
  cases found : db.find key with
  | none =>
      by_cases same : other = key
      · subst other
        simp [found]
      · simp [same]
  | some entry =>
      by_cases positive : 0 < seconds
      · simp only [if_pos positive, find_put positive, renewed,
          Option.bind_some]
      · simp only [if_neg positive, find_del, renewed, Option.bind_some]

variable [DecidableEq μ]

@[simp]
theorem find_sadd (db : Db κ μ ν) (key other : κ) (member : μ) :
    (db.sadd key member).find other = db.find other := rfl

@[simp]
theorem find_srem (db : Db κ μ ν) (key other : κ) (member : μ) :
    (db.srem key member).find other = db.find other := rfl

theorem sets_sadd (db : Db κ μ ν) (key other : κ) (member : μ) :
    (db.sadd key member).sets other =
      if other = key then insert member (db.sets key) else db.sets other := by
  by_cases same : other = key
  · subst other
    simp [sadd]
  · simp [sadd, same]

theorem sets_srem (db : Db κ μ ν) (key other : κ) (member : μ) :
    (db.srem key member).sets other =
      if other = key then (db.sets key).erase member else db.sets other := by
  by_cases same : other = key
  · subst other
    simp [srem]
  · simp [srem, same]

end Db

end ConcertTicketing.Redis
