import Mathlib.Data.Int.Basic
import Mathlib.Data.List.Basic
import Mathlib.Data.List.TakeWhile

/-!
# Texts and the numbers in them

A text is the list of its code points.  The module has what JavaScript code
does to join fields to one text and to take them apart again: templates,
`split` at a character, `parseInt`.  A number is an integer or `NaN`.
-/

namespace ConcertTicketing

abbrev Text := List Char

/-- An integer, or `none` for `NaN`. -/
abbrev Number := Option Int

namespace Text

/-- The white space and the line terminators of the language, by their code
points. -/
def spaceCodes : List Nat :=
  [0x9, 0xA, 0xB, 0xC, 0xD, 0x20, 0xA0, 0x1680, 0x2000, 0x2001, 0x2002,
    0x2003, 0x2004, 0x2005, 0x2006, 0x2007, 0x2008, 0x2009, 0x200A, 0x2028,
    0x2029, 0x202F, 0x205F, 0x3000, 0xFEFF]

def isSpace (char : Char) : Bool := decide (char.toNat ∈ spaceCodes)

/-- The number that the leading digits denote, if there are any. -/
def leadingDigits (text : Text) : Number :=
  match text.takeWhile Char.isDigit with
  | [] => none
  | digits => some (Nat.ofDigitChars 10 digits 0)

/-- `parseInt(text, 10)`, of `undefined` too. -/
def parseInt : Option Text → Number
  | none => none
  | some text =>
      match text.dropWhile isSpace with
      | '-' :: rest => (leadingDigits rest).map fun number => -number
      | '+' :: rest => leadingDigits rest
      | rest => leadingDigits rest

def ofNumber : Number → Text
  | none => "NaN".toList
  | some (.ofNat number) => Nat.toDigits 10 number
  | some (.negSucc number) => '-' :: Nat.toDigits 10 (number + 1)

theorem ofNumber_natCast (number : Nat) :
    ofNumber (some (number : Int)) = Nat.toDigits 10 number := by
  change ofNumber (some (Int.ofNat number)) = _
  simp only [ofNumber]

/-- A text that may be `undefined` in a template. -/
def ofOption : Option Text → Text
  | none => "undefined".toList
  | some text => text

@[simp]
theorem ofOption_some (text : Text) : ofOption (some text) = text := rfl

theorem toNat_of_isDigit {char : Char} (digit : char.isDigit = true) :
    48 ≤ char.toNat ∧ char.toNat ≤ 57 := by
  simp only [Char.isDigit, Bool.and_eq_true, decide_eq_true_eq] at digit
  exact digit

theorem not_isSpace_of_isDigit {char : Char} (digit : char.isDigit = true) :
    isSpace char = false := by
  have range := toNat_of_isDigit digit
  apply decide_eq_false
  intro space
  simp only [spaceCodes, List.mem_cons, List.not_mem_nil, or_false] at space
  omega

theorem isDigit_of_mem {number : Nat} {char : Char}
    (member : char ∈ Nat.toDigits 10 number) : char.isDigit = true :=
  Nat.isDigit_of_mem_toDigits (by decide) (by decide) member

/-- A character that is no digit is not in a decimal. -/
theorem notMem_toDigits {char : Char} (noDigit : char.isDigit = false)
    (number : Nat) : char ∉ Nat.toDigits 10 number := by
  intro member
  have digit := isDigit_of_mem member
  rw [noDigit] at digit
  cases digit

theorem leadingDigits_toDigits (number : Nat) :
    leadingDigits (Nat.toDigits 10 number) = some (number : Int) := by
  have all : (Nat.toDigits 10 number).takeWhile Char.isDigit =
      Nat.toDigits 10 number := by
    apply List.takeWhile_eq_self_iff.mpr
    intro char member
    exact isDigit_of_mem member
  have value : Nat.ofDigitChars 10 (Nat.toDigits 10 number) 0 = number :=
    Nat.ofDigitChars_ten_toDigits
  rw [leadingDigits, all]
  cases digits : Nat.toDigits 10 number with
  | nil => exact absurd digits Nat.toDigits_ne_nil
  | cons first rest =>
      rw [digits] at value
      simp only [value]

/-- `parseInt` reads back what a template has written. -/
theorem parseInt_toDigits (number : Nat) :
    parseInt (some (Nat.toDigits 10 number)) = some (number : Int) := by
  have value := leadingDigits_toDigits number
  cases digits : Nat.toDigits 10 number with
  | nil => exact absurd digits Nat.toDigits_ne_nil
  | cons first rest =>
      have digit : first.isDigit = true := by
        have member : first ∈ Nat.toDigits 10 number := by
          rw [digits]
          exact List.mem_cons_self
        exact isDigit_of_mem member
      have notSpace : isSpace first = false := not_isSpace_of_isDigit digit
      rw [digits] at value
      simp only [parseInt]
      rw [List.dropWhile_cons_of_neg (by simp [notSpace])]
      split
      · next rest' same =>
          cases same
          cases digit
      · next rest' same =>
          cases same
          cases digit
      · exact value

/-- Fields without the separator are read back from their join. -/
theorem splitOn_pair {separator : Char} {first second : Text}
    (inFirst : separator ∉ first) (inSecond : separator ∉ second) :
    (first ++ separator :: second).splitOn separator = [first, second] := by
  rw [List.splitOn_append_cons_self_of_not_mem inFirst,
    List.splitOn_eq_singleton inSecond]

theorem splitOn_triple {separator : Char} {first second third : Text}
    (inFirst : separator ∉ first) (inSecond : separator ∉ second)
    (inThird : separator ∉ third) :
    (first ++ separator :: (second ++ separator :: third)).splitOn separator =
      [first, second, third] := by
  rw [List.splitOn_append_cons_self_of_not_mem inFirst,
    splitOn_pair inSecond inThird]

/-- The first field that is read back has no separator. -/
theorem notMem_of_splitOn_cons {separator : Char} {text first : Text}
    {rest : List Text} (split : text.splitOn separator = first :: rest) :
    separator ∉ first := by
  by_cases inside : separator ∈ text
  · obtain ⟨front, back, rfl, absent⟩ := List.eq_append_cons_of_mem inside
    rw [List.splitOn_append_cons_self_of_not_mem absent] at split
    rw [← (List.cons.inj split).1]
    exact absent
  · rw [List.splitOn_eq_singleton inside] at split
    rw [← (List.cons.inj split).1]
    exact inside

/-- What a template makes of a negative number is read back as that number. -/
example : parseInt (some (ofNumber (some (-4)))) = some (-4) := by decide

end Text

end ConcertTicketing
