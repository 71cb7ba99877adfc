import Mathlib.Algebra.Order.Floor.Ring
import Mathlib.Logic.Function.Basic

/-!
# Clocks and expiring keys in continuous time

Time is an ordered field with a floor, such as the rational or the real
numbers, in seconds.  A program sees it in whole milliseconds; a key that is
set with a number of seconds lapses exactly so much later.
-/

namespace ConcertTicketing.RealTime

universe u v w

section Clocks

variable {𝕜 : Type w} [Field 𝕜] [LinearOrder 𝕜] [FloorRing 𝕜]

/-- `Date.now()`. -/
def dateNow (now : 𝕜) : Int := ⌊now * 1000⌋

/-- `Math.floor(milliseconds / 1000)`. -/
def wholeSeconds (milliseconds : Int) : Int := milliseconds / 1000

/-- Rounding twice is rounding once. -/
theorem wholeSeconds_dateNow [IsStrictOrderedRing 𝕜] (now : 𝕜) :
    wholeSeconds (dateNow now) = ⌊now⌋ := by
  have rounded := Int.floor_div_natCast (now * 1000) 1000
  have thousand : now * 1000 / ((1000 : Nat) : 𝕜) = now := by
    rw [Nat.cast_ofNat]
    exact mul_div_cancel_right₀ now (OfNat.ofNat_ne_zero 1000)
  rw [thousand] at rounded
  exact rounded.symm

end Clocks

/-- A stored value and the instant at which it lapses, if it has one. -/
structure Entry (ν : Type v) (𝕜 : Type w) where
  value : ν
  lapsesAt : Option 𝕜
  deriving DecidableEq, Repr

structure Keyspace (κ : Type u) (ν : Type v) (𝕜 : Type w) where
  now : 𝕜
  entries : κ → Option (Entry ν 𝕜)

section Keys

variable {κ : Type u} {ν : Type v} {𝕜 : Type w}

namespace Keyspace

/-- What a key holds is replaced, or taken away. -/
def write [DecidableEq κ] (space : Keyspace κ ν 𝕜) (key : κ)
    (entry : Option (Entry ν 𝕜)) : Keyspace κ ν 𝕜 :=
  { space with entries := Function.update space.entries key entry }

@[simp]
theorem entries_write_self [DecidableEq κ] (space : Keyspace κ ν 𝕜) (key : κ)
    (entry : Option (Entry ν 𝕜)) :
    (space.write key entry).entries key = entry :=
  Function.update_self ..

theorem entries_write_of_ne [DecidableEq κ] (space : Keyspace κ ν 𝕜)
    {key other : κ} (different : other ≠ key) (entry : Option (Entry ν 𝕜)) :
    (space.write key entry).entries other = space.entries other :=
  Function.update_of_ne different ..

end Keyspace

variable [LinearOrder 𝕜]

/-- An entry is live strictly before its deadline. -/
def Entry.Live (now : 𝕜) (entry : Entry ν 𝕜) : Prop :=
  ∀ deadline ∈ entry.lapsesAt, now < deadline

instance (now : 𝕜) (entry : Entry ν 𝕜) : Decidable (entry.Live now) :=
  match h : entry.lapsesAt with
  | none => isTrue (by simp [Entry.Live, h])
  | some deadline => decidable_of_iff (now < deadline) (by simp [Entry.Live, h])

namespace Keyspace

/-- `EXISTS key`. -/
def existsKey (space : Keyspace κ ν 𝕜) (key : κ) : Bool :=
  (space.entries key).any fun entry => decide (entry.Live space.now)

theorem existsKey_eq_true {space : Keyspace κ ν 𝕜} {key : κ} :
    space.existsKey key = true ↔
      ∃ entry, space.entries key = some entry ∧ entry.Live space.now := by
  simp only [existsKey, Option.any_eq_true, decide_eq_true_iff]

variable [Field 𝕜]

/-- `SET key value`, and with `EX seconds`. -/
def set [DecidableEq κ] (space : Keyspace κ ν 𝕜) (key : κ) (value : ν)
    (seconds : Option Int) : Keyspace κ ν 𝕜 :=
  space.write key
    (some ⟨value, seconds.map fun (count : Int) => space.now + (count : 𝕜)⟩)

/-- Time passes. -/
def elapse (space : Keyspace κ ν 𝕜) (duration : 𝕜) : Keyspace κ ν 𝕜 :=
  { space with now := space.now + duration }

end Keyspace

end Keys

end ConcertTicketing.RealTime
