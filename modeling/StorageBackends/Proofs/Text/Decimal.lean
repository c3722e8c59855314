import Mathlib.Algebra.Group.Nat.Defs
import Mathlib.Data.List.Basic
import Mathlib.Data.List.Induction
import StorageBackends.Text.Characters

namespace StorageBackends.Text

/-!
# Decimals

A run of digits denotes a number, and each number has one decimal. A run that
does not begin with a zero is the decimal of its number, so without leading
zeros no number is written in two ways.
-/

/-- The codes of the ten digits. -/
theorem code_of_isDigit
    {c : Char}
    (digit : isDigit c = true) :
    48 ≤ c.toNat ∧ c.toNat ≤ 57 := by
  simp only [isDigit, Bool.and_eq_true, decide_eq_true_eq] at digit
  exact ⟨UInt32.le_iff_toNat_le.1 digit.1, UInt32.le_iff_toNat_le.1 digit.2⟩

theorem digitValue_eq (c : Char) : digitValue c = c.toNat - 48 := rfl

theorem digitValue_pos
    {c : Char}
    (digit : isDigit c = true)
    (nonzero : c ≠ '0') :
    0 < digitValue c := by
  have code := code_of_isDigit digit
  have unequal : c.toNat ≠ '0'.toNat := fun same =>
    nonzero (Char.toNat_inj.1 same)
  have zero : '0'.toNat = 48 := rfl
  rw [digitValue_eq]
  omega

theorem digitValue_lt
    {c : Char}
    (digit : isDigit c = true) :
    digitValue c < 10 := by
  have code := code_of_isDigit digit
  rw [digitValue_eq]
  omega

/-- One more digit is the units of ten times the value before. -/
@[simp]
theorem decimalValue_append_singleton (digits : List Char) (c : Char) :
    decimalValue (digits ++ [c]) =
      10 * decimalValue digits + digitValue c := by
  simp [decimalValue]

theorem decimalValue_singleton (c : Char) :
    decimalValue [c] = digitValue c := by
  simp [decimalValue]

/-- A number does not get smaller by more digits. -/
theorem decimalValue_le_append (front rest : List Char) :
    decimalValue front ≤ decimalValue (front ++ rest) := by
  induction rest using List.reverseRecOn with
  | nil => simp
  | append_singleton rest c inductionHypothesis =>
      rw [← List.append_assoc, decimalValue_append_singleton]
      omega

/-- A numeral without a leading zero is at least a power of ten. -/
theorem pow_length_le_decimalValue
    {first : Char}
    (digit : isDigit first = true)
    (nonzero : first ≠ '0')
    (rest : List Char) :
    10 ^ rest.length ≤ decimalValue (first :: rest) := by
  induction rest using List.reverseRecOn with
  | nil =>
      simpa [decimalValue, Nat.one_le_iff_ne_zero, Nat.pos_iff_ne_zero]
        using digitValue_pos digit nonzero
  | append_singleton rest c inductionHypothesis =>
      rw [← List.cons_append, decimalValue_append_singleton,
        List.length_append, List.length_singleton, Nat.pow_succ]
      omega

theorem digitChar_digitValue
    {c : Char}
    (digit : isDigit c = true) :
    Nat.digitChar (digitValue c) = c := by
  have code := code_of_isDigit digit
  rw [← Char.toNat_inj, Nat.toNat_digitChar_of_lt_ten (digitValue_lt digit),
    digitValue_eq]
  omega

theorem digitValue_digitChar
    {value : Nat}
    (small : value < 10) :
    digitValue (Nat.digitChar value) = value := by
  rw [digitValue_eq, Nat.toNat_digitChar_of_lt_ten small]
  omega

theorem isDigit_digitChar
    {value : Nat}
    (small : value < 10) :
    isDigit (Nat.digitChar value) = true := by
  have code := Nat.toNat_digitChar_of_lt_ten small
  have least : '0'.toNat ≤ (Nat.digitChar value).toNat := by
    rw [code]
    exact Nat.le_add_right 48 value
  have greatest : (Nat.digitChar value).toNat ≤ '9'.toNat := by
    rw [code]
    exact Nat.add_le_add_left (Nat.le_of_lt_succ small) 48
  simp only [isDigit, Bool.and_eq_true, decide_eq_true_eq]
  exact ⟨UInt32.le_iff_toNat_le.2 least, UInt32.le_iff_toNat_le.2 greatest⟩

/-- The decimal of a larger number is a shorter decimal with one more digit. -/
theorem toDigits_eq_append
    {value : Nat}
    (large : 10 ≤ value) :
    Nat.toDigits 10 value =
      Nat.toDigits 10 (value / 10) ++ [Nat.digitChar (value % 10)] := by
  rw [← Nat.toDigits_of_lt_base (b := 10) (by omega),
    Nat.toDigits_append_toDigits (by omega) (by omega) (by omega),
    Nat.div_add_mod]

/-- A decimal denotes the number that it is the decimal of. -/
theorem decimalValue_toDigits (value : Nat) :
    decimalValue (Nat.toDigits 10 value) = value := by
  induction value using Nat.strongRecOn with
  | ind value inductionHypothesis =>
      by_cases large : 10 ≤ value
      · rw [toDigits_eq_append large, decimalValue_append_singleton,
          inductionHypothesis (value / 10) (by omega),
          digitValue_digitChar (by omega), Nat.div_add_mod]
      · rw [Nat.toDigits_of_lt_base (by omega), decimalValue_singleton,
          digitValue_digitChar (by omega)]

/-- A numeral without a leading zero is the decimal of its number. -/
theorem toDigits_decimalValue
    {first : Char}
    (nonzero : first ≠ '0')
    {rest : List Char}
    (digits : ∀ c ∈ first :: rest, isDigit c = true) :
    Nat.toDigits 10 (decimalValue (first :: rest)) = first :: rest := by
  have firstDigit : isDigit first = true := digits first (by simp)
  induction rest using List.reverseRecOn with
  | nil =>
      rw [decimalValue_singleton,
        Nat.toDigits_of_lt_base (digitValue_lt firstDigit),
        digitChar_digitValue firstDigit]
  | append_singleton rest c inductionHypothesis =>
      have earlier : ∀ other ∈ first :: rest, isDigit other = true :=
        fun other listed => digits other (by simp at listed ⊢; tauto)
      have lastDigit : isDigit c = true := digits c (by simp)
      have positive : 0 < decimalValue (first :: rest) :=
        Nat.lt_of_lt_of_le (Nat.pow_pos (by omega))
          (pow_length_le_decimalValue firstDigit nonzero rest)
      rw [← List.cons_append, decimalValue_append_singleton,
        ← Nat.toDigits_append_toDigits (by omega) positive
          (digitValue_lt lastDigit),
        inductionHypothesis earlier,
        Nat.toDigits_of_lt_base (digitValue_lt lastDigit),
        digitChar_digitValue lastDigit]

end StorageBackends.Text
