import Mathlib.Data.List.TakeWhile

/-! Decimal numerals over ASCII bytes, and the reader of C's standard library.

`Numeral` says which strings are numerals and of which number. `atoi` takes what
it can from the front of any string; on a numeral that is its number
(`atoi_of_numeral`). -/

namespace ChatClient.Decimal

/-- `isspace`. -/
def isspace (c : UInt8) : Bool := c == 0x20 || (0x09 ≤ c && c ≤ 0x0D)

/-- `isdigit`. -/
def isdigit (c : UInt8) : Bool := 0x30 ≤ c && c ≤ 0x39

/-- The number some digits stand for. -/
def ofDigits (digits : List UInt8) : Nat :=
  digits.foldl (fun value c => 10 * value + (c.toNat - 0x30)) 0

/-- The strings that are decimal numerals, each with its number: white space, a
sign or none, and at least one digit. -/
inductive Numeral : List UInt8 → Int → Prop
  | plain {blanks digits : List UInt8} (blank : ∀ c ∈ blanks, isspace c = true)
      (present : digits ≠ []) (all : ∀ c ∈ digits, isdigit c = true) :
      Numeral (blanks ++ digits) (ofDigits digits)
  | plus {blanks digits : List UInt8} (blank : ∀ c ∈ blanks, isspace c = true)
      (present : digits ≠ []) (all : ∀ c ∈ digits, isdigit c = true) :
      Numeral (blanks ++ 0x2B :: digits) (ofDigits digits)
  | minus {blanks digits : List UInt8} (blank : ∀ c ∈ blanks, isspace c = true)
      (present : digits ≠ []) (all : ∀ c ∈ digits, isdigit c = true) :
      Numeral (blanks ++ 0x2D :: digits) (-ofDigits digits)

/-- `atoi`: the digits at the front, behind white space and a sign; 0 without
one. C leaves numbers that no `int` can hold undefined, this one goes on. -/
def atoi (string : List UInt8) : Int :=
  match string.dropWhile isspace with
  | [] => 0
  | c :: rest =>
    if c = 0x2D then -ofDigits (rest.takeWhile isdigit)
    else if c = 0x2B then ofDigits (rest.takeWhile isdigit)
    else ofDigits ((c :: rest).takeWhile isdigit)

variable {string : List UInt8} {n : Int} {c : UInt8}

theorem not_isspace_of_isdigit (digit : isdigit c = true) : isspace c = false := by
  simp only [isdigit, Bool.and_eq_true, decide_eq_true_eq, UInt8.le_iff_toNat_le] at digit
  simp only [isspace, Bool.or_eq_false_iff, beq_eq_false_iff_ne, ne_eq, Bool.and_eq_false_iff,
    decide_eq_false_iff_not, UInt8.le_iff_toNat_le]
  have low := digit.1
  constructor
  · rintro rfl
    exact absurd low (by decide)
  · right
    simp at low ⊢
    omega

/-- The reader is exact on numerals. -/
theorem atoi_of_numeral (numeral : Numeral string n) : atoi string = n := by
  unfold atoi
  cases numeral with
  | @plain blanks digits blank present all =>
    rw [List.dropWhile_append_of_pos blank]
    cases digits with
    | nil => exact absurd rfl present
    | cons first digits =>
      have digit := all first List.mem_cons_self
      have notMinus : first ≠ 0x2D := by
        rintro rfl
        exact absurd digit (by decide)
      have notPlus : first ≠ 0x2B := by
        rintro rfl
        exact absurd digit (by decide)
      have notBlank := not_isspace_of_isdigit digit
      rw [List.dropWhile_cons_of_neg (by simp [notBlank])]
      simp only [if_neg notMinus, if_neg notPlus, List.takeWhile_eq_self_iff.mpr all]
  | @plus blanks digits blank present all =>
    rw [List.dropWhile_append_of_pos blank, List.dropWhile_cons_of_neg (by decide)]
    simp [List.takeWhile_eq_self_iff.mpr all]
  | @minus blanks digits blank present all =>
    rw [List.dropWhile_append_of_pos blank, List.dropWhile_cons_of_neg (by decide)]
    simp [List.takeWhile_eq_self_iff.mpr all]

end ChatClient.Decimal
