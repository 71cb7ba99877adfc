import ConcertTicketing.Library.Text
import Mathlib.Algebra.Ring.Nat

/-!
# Decimals that run together

The decimal of a positive number is a text of digits that does not begin with a
zero, and every such text is one.  Two decimals that are written one behind the
other can be read in another way only when a digit moves from one to the other.
-/

namespace ConcertTicketing

/-- A text of digits that does not begin with a zero. -/
structure Numeral (text : Text) : Prop where
  digits : ∀ char ∈ text, char.isDigit = true
  head : ∃ first ∈ text.head?, first ≠ '0'

namespace Numeral

def value (text : Text) : Nat := Nat.ofDigitChars 10 text 0

@[simp]
theorem value_toDigits (number : Nat) :
    value (Nat.toDigits 10 number) = number :=
  Nat.ofDigitChars_ten_toDigits

theorem value_append (first second : Text) :
    value (first ++ second) =
      10 ^ second.length * value first + value second := by
  rw [value, Nat.ofDigitChars_append, Nat.ofDigitChars_eq_ofDigitChars_zero]
  rfl

theorem toDigits_inj {first second : Nat}
    (same : Nat.toDigits 10 first = Nat.toDigits 10 second) :
    first = second := by
  rw [← value_toDigits first, same, value_toDigits]

theorem digit_bounds {char : Char} (digit : char.isDigit = true)
    (nonzero : char ≠ '0') : 0 < char.toNat - 48 ∧ char.toNat - 48 < 10 := by
  have range := Text.toNat_of_isDigit digit
  have notZero : char.toNat ≠ 48 := by
    intro same
    exact nonzero (Char.toNat_inj.mp same)
  omega

/-- Digits behind the decimal of a positive number. -/
theorem toDigits_append {digits : Text}
    (all : ∀ char ∈ digits, char.isDigit = true) {number : Nat}
    (positive : 0 < number) :
    Nat.toDigits 10 number ++ digits =
      Nat.toDigits 10 (Nat.ofDigitChars 10 digits number) := by
  induction digits generalizing number with
  | nil => simp
  | cons first rest inductionHypothesis =>
      have parts := List.forall_mem_cons.mp all
      have range := Text.toNat_of_isDigit parts.1
      have small : first.toNat - 48 < 10 := by omega
      have rebuilt : Nat.digitChar (first.toNat - 48) = first := by
        apply Char.toNat_inj.mp
        rw [Nat.toNat_digitChar_of_lt_ten small]
        omega
      have joined := Nat.toDigits_append_toDigits (by decide : 1 < 10)
        positive small
      rw [Nat.toDigits_of_lt_base small, rebuilt] at joined
      have later : 0 < 10 * number + (first.toNat - 48) := by omega
      calc
        Nat.toDigits 10 number ++ first :: rest
            = Nat.toDigits 10 number ++ [first] ++ rest := by simp
        _ = Nat.toDigits 10 (Nat.ofDigitChars 10 rest
              (10 * number + (first.toNat - 48))) := by
          rw [joined, inductionHypothesis parts.2 later]
        _ = Nat.toDigits 10 (Nat.ofDigitChars 10 (first :: rest) number) := by
          rw [Nat.ofDigitChars_cons]
          rfl

/-- A numeral is the decimal of its value. -/
theorem toDigits_value {text : Text} (numeral : Numeral text) :
    Nat.toDigits 10 (value text) = text := by
  obtain ⟨first, same, nonzero⟩ := numeral.head
  cases text with
  | nil => cases same
  | cons head rest =>
      cases same
      have parts := List.forall_mem_cons.mp numeral.digits
      have bounds := digit_bounds parts.1 nonzero
      have rebuilt : Nat.digitChar (first.toNat - 48) = first := by
        apply Char.toNat_inj.mp
        rw [Nat.toNat_digitChar_of_lt_ten bounds.2]
        omega
      have joined := toDigits_append parts.2 bounds.1
      rw [Nat.toDigits_of_lt_base bounds.2, rebuilt] at joined
      rw [value, Nat.ofDigitChars_cons, Nat.mul_zero, Nat.zero_add]
      exact joined.symm

theorem value_pos {text : Text} (numeral : Numeral text) :
    0 < value text := by
  apply Nat.pos_of_ne_zero
  intro zero
  obtain ⟨first, same, nonzero⟩ := numeral.head
  rw [← numeral.toDigits_value, zero] at same
  cases same
  exact nonzero rfl

theorem of_toDigits {number : Nat} (positive : 0 < number) :
    Numeral (Nat.toDigits 10 number) := by
  refine ⟨fun char member => Text.isDigit_of_mem member, ?_⟩
  induction number using Nat.strongRecOn with
  | ind number inductionHypothesis =>
      by_cases small : number < 10
      · rw [Nat.toDigits_of_lt_base small]
        refine ⟨_, rfl, ?_⟩
        intro zero
        have same := congrArg Char.toNat zero
        rw [Nat.toNat_digitChar_of_lt_ten small] at same
        have code : '0'.toNat = 48 := rfl
        omega
      · obtain ⟨first, same, nonzero⟩ :=
          inductionHypothesis (number / 10) (by omega) (by omega)
        rw [Nat.toDigits_of_base_le (by decide) (by omega)]
        refine ⟨first, ?_, nonzero⟩
        rw [List.head?_append, same]
        rfl

theorem of_append_left {whole first second : Text} (numeral : Numeral whole)
    (split : whole = first ++ second) (nonempty : first ≠ []) :
    Numeral first := by
  subst whole
  constructor
  · intro char member
    exact numeral.digits char (List.mem_append_left _ member)
  · obtain ⟨head, same, nonzero⟩ := numeral.head
    cases first with
    | nil => exact absurd rfl nonempty
    | cons other rest => exact ⟨head, same, nonzero⟩

theorem append {first second : Text} (numeral : Numeral first)
    (digits : ∀ char ∈ second, char.isDigit = true) :
    Numeral (first ++ second) := by
  constructor
  · intro char member
    rcases List.mem_append.mp member with front | back
    · exact numeral.digits char front
    · exact digits char back
  · obtain ⟨head, same, nonzero⟩ := numeral.head
    refine ⟨head, ?_, nonzero⟩
    rw [List.head?_append, same]
    rfl

section Two

variable {left right otherLeft otherRight : Nat}

/-- The text of two decimals, read as one number. -/
theorem eleven_le_value (leftPositive : 0 < left) (positive : 0 < right) :
    11 ≤ value (Nat.toDigits 10 left ++ Nat.toDigits 10 right) := by
  rw [value_append, value_toDigits, value_toDigits]
  have length : 0 < (Nat.toDigits 10 right).length := Nat.length_toDigits_pos
  have ten : 10 ≤ 10 ^ (Nat.toDigits 10 right).length :=
    Nat.le_self_pow (by omega) 10
  have shifted : 10 ^ (Nat.toDigits 10 right).length ≤
      10 ^ (Nat.toDigits 10 right).length * left :=
    Nat.le_mul_of_pos_right _ leftPositive
  omega

/-- A digit that moves from the second decimal to the first one makes both
large. -/
theorem large_of_moved {moved : Text} (leftPositive : 0 < left)
    (positive : 0 < right) (otherRightPositive : 0 < otherRight)
    (nonempty : moved ≠ [])
    (longer : Nat.toDigits 10 otherLeft = Nat.toDigits 10 left ++ moved)
    (shorter : Nat.toDigits 10 right =
      moved ++ Nat.toDigits 10 otherRight) :
    11 ≤ otherLeft ∧ 11 ≤ right := by
  have numeral : Numeral moved :=
    (of_toDigits positive).of_append_left shorter nonempty
  have movedDigits : Nat.toDigits 10 (value moved) = moved :=
    numeral.toDigits_value
  constructor
  · rw [← value_toDigits otherLeft, longer, ← movedDigits]
    exact eleven_le_value leftPositive numeral.value_pos
  · rw [← value_toDigits right, shorter, ← movedDigits]
    exact eleven_le_value numeral.value_pos otherRightPositive

/-- Two pairs of positive numbers with one text. -/
theorem pair_cases (leftPositive : 0 < left) (positive : 0 < right)
    (otherLeftPositive : 0 < otherLeft) (otherRightPositive : 0 < otherRight)
    (same : Nat.toDigits 10 left ++ Nat.toDigits 10 right =
      Nat.toDigits 10 otherLeft ++ Nat.toDigits 10 otherRight) :
    (left = otherLeft ∧ right = otherRight) ∨
      (11 ≤ otherLeft ∧ 11 ≤ right) ∨ (11 ≤ left ∧ 11 ≤ otherRight) := by
  rcases List.append_eq_append_iff.mp same with
    ⟨moved, longer, shorter⟩ | ⟨moved, longer, shorter⟩
  · by_cases empty : moved = []
    · subst moved
      rw [List.append_nil] at longer
      exact Or.inl ⟨(toDigits_inj longer).symm, toDigits_inj shorter⟩
    · exact Or.inr (Or.inl (large_of_moved leftPositive positive
        otherRightPositive empty longer shorter))
  · by_cases empty : moved = []
    · subst moved
      rw [List.append_nil] at longer
      exact Or.inl ⟨toDigits_inj longer, (toDigits_inj shorter).symm⟩
    · exact Or.inr (Or.inr (large_of_moved otherLeftPositive otherRightPositive
        positive empty longer shorter))

/-- The digits of the pair `1`, `1`. -/
def eleven : Text := "11".toList

/-- A number whose decimal ends in those of a pair of numbers is at least the
one that ends in `11` instead. -/
theorem ends_in_eleven {front : Text} (leftPositive : 0 < otherLeft)
    (otherRightPositive : 0 < otherRight) (positive : 0 < right)
    (same : Nat.toDigits 10 right = front ++
      (Nat.toDigits 10 otherLeft ++ Nat.toDigits 10 otherRight)) :
    ∃ least, 0 < least ∧ least ≤ right ∧
      Nat.toDigits 10 least = front ++ eleven := by
  have numeral : Numeral (front ++ eleven) := by
    by_cases empty : front = []
    · subst front
      exact of_toDigits (by decide : 0 < 11)
    · have frontNumeral := (of_toDigits positive).of_append_left same empty
      exact frontNumeral.append (of_toDigits (by decide : 0 < 11)).digits
  refine ⟨value (front ++ eleven), numeral.value_pos, ?_,
    numeral.toDigits_value⟩
  have pair := eleven_le_value leftPositive otherRightPositive
  have leftLength : 0 < (Nat.toDigits 10 otherLeft).length :=
    Nat.length_toDigits_pos
  have length : 0 < (Nat.toDigits 10 otherRight).length :=
    Nat.length_toDigits_pos
  have longer : 10 ^ 2 * value front ≤
      10 ^ (Nat.toDigits 10 otherLeft ++
        Nat.toDigits 10 otherRight).length * value front := by
    apply Nat.mul_le_mul_right
    apply Nat.pow_le_pow_right (by decide)
    rw [List.length_append]
    omega
  calc
    value (front ++ eleven) = 10 ^ 2 * value front + 11 := by
      rw [value_append]
      rfl
    _ ≤ value (front ++ (Nat.toDigits 10 otherLeft ++
          Nat.toDigits 10 otherRight)) := by
      rw [value_append]
      omega
    _ = right := by rw [← same, value_toDigits]

/-- A pair whose text ends in that of another pair is at least, in both
numbers, one whose text ends in `11` instead. -/
theorem pair_ends_in_eleven {front : Text} (leftPositive : 0 < left)
    (positive : 0 < right) (otherLeftPositive : 0 < otherLeft)
    (otherRightPositive : 0 < otherRight)
    (same : Nat.toDigits 10 left ++ Nat.toDigits 10 right = front ++
      (Nat.toDigits 10 otherLeft ++ Nat.toDigits 10 otherRight)) :
    ∃ leastLeft least, (0 < leastLeft ∧ leastLeft ≤ left) ∧
      (0 < least ∧ least ≤ right) ∧
      Nat.toDigits 10 leastLeft ++ Nat.toDigits 10 least =
        front ++ eleven := by
  rcases List.append_eq_append_iff.mp same with
    ⟨moved, inFront, ends⟩ | ⟨moved, inLeft, ends⟩
  · obtain ⟨least, leastPositive, small, digits⟩ :=
      ends_in_eleven otherLeftPositive otherRightPositive positive ends
    refine ⟨left, least, ⟨leftPositive, Nat.le_refl left⟩,
      ⟨leastPositive, small⟩, ?_⟩
    rw [digits, inFront, List.append_assoc]
  · by_cases empty : moved = []
    · subst moved
      rw [List.append_nil] at inLeft
      have ends' : Nat.toDigits 10 right = [] ++
          (Nat.toDigits 10 otherLeft ++ Nat.toDigits 10 otherRight) := ends.symm
      obtain ⟨least, leastPositive, small, digits⟩ :=
        ends_in_eleven otherLeftPositive otherRightPositive positive ends'
      refine ⟨left, least, ⟨leftPositive, Nat.le_refl left⟩,
        ⟨leastPositive, small⟩, ?_⟩
      rw [digits, inLeft, List.nil_append]
    · have movedNumeral : Numeral moved := by
        have pair := (of_toDigits otherLeftPositive).append
          (of_toDigits otherRightPositive).digits
        exact pair.of_append_left ends empty
      have leftNumeral : Numeral (front ++ ['1']) := by
        by_cases frontEmpty : front = []
        · subst front
          exact of_toDigits (by decide : 0 < 1)
        · have frontNumeral :=
            (of_toDigits leftPositive).of_append_left inLeft frontEmpty
          exact frontNumeral.append (of_toDigits Nat.one_pos).digits
      have length : 0 < moved.length := List.length_pos_iff.mpr empty
      have longer : 10 * value front ≤ 10 ^ moved.length * value front := by
        apply Nat.mul_le_mul_right
        exact Nat.le_self_pow (by omega) 10
      have small : value (front ++ ['1']) ≤ left := by
        have positive := movedNumeral.value_pos
        calc
          value (front ++ ['1']) = 10 * value front + 1 := by
            rw [value_append]
            rfl
          _ ≤ value (front ++ moved) := by
            rw [value_append]
            omega
          _ = left := by rw [← inLeft, value_toDigits]
      refine ⟨value (front ++ ['1']), 1, ⟨leftNumeral.value_pos, small⟩,
        ⟨Nat.one_pos, positive⟩, ?_⟩
      rw [leftNumeral.toDigits_value, List.append_assoc]
      rfl

end Two

end Numeral

end ConcertTicketing
