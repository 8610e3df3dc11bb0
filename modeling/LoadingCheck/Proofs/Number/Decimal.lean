import LoadingCheck.Number.Decimal
import Mathlib.Data.Int.Notation
import Mathlib.Data.Nat.Notation
import Mathlib.Tactic.Lemma

set_option relaxedAutoImplicit false
set_option autoImplicit false

/-!
# Numbers in writing

A number is written with decimal digits. Zeros may stand in front of them, and a plus in front of all; neither
changes the number. A number that keeps to a limit is read from any such writing, because what has been read
of it on the way is never more than the number itself.

## Main definitions

* `LoadingCheck.Decimal.Numeral` — a number up to a limit in writing.

## Main results

* `LoadingCheck.Decimal.readDigits_eq` — digits behind those of a number.
* `LoadingCheck.Decimal.readWord_text`, `LoadingCheck.Decimal.readSigned_text` — numerals are read as the
  numbers that they write.
-/

namespace LoadingCheck.Decimal

/-- A number up to a limit in writing: decimal digits, possibly behind a plus. -/
structure Numeral (limit : ℕ) where
  plus : Bool
  digits : List Char
  present : digits ≠ []
  isDigit : ∀ c ∈ digits, c.isDigit = true
  value_le : Nat.ofDigitChars 10 digits 0 ≤ limit

namespace Numeral

variable {limit : ℕ}

/-- The numeral as it is written. -/
def text (n : Numeral limit) : List Char :=
  if n.plus then '+' :: n.digits else n.digits

/-- The number that a numeral writes. -/
def value (n : Numeral limit) : ℕ :=
  Nat.ofDigitChars 10 n.digits 0

/-- The usual numeral of a number: no plus, and no zero in front of other digits. -/
def ofNat (n : ℕ) (h : n ≤ limit) : Numeral limit where
  plus := false
  digits := Nat.toDigits 10 n
  present := Nat.toDigits_ne_nil
  isDigit _ := Nat.isDigit_of_mem_toDigits (by omega) (by omega)
  value_le := by rwa [Nat.ofDigitChars_ten_toDigits]

/-- Every number up to the limit is that of a numeral. -/
@[simp]
lemma value_ofNat (n : ℕ) (h : n ≤ limit) : (ofNat n h).value = n :=
  Nat.ofDigitChars_ten_toDigits

end Numeral

variable {limit : ℕ} {overflow : Fault}

/-- More digits make a number no smaller. -/
lemma le_ofDigitChars (digits : List Char) (n : ℕ) : n ≤ Nat.ofDigitChars 10 digits n := by
  rw [Nat.ofDigitChars_eq_ofDigitChars_zero]
  exact Nat.le_add_right_of_le (Nat.le_mul_of_pos_left n (Nat.pow_pos (Nat.zero_lt_succ 9)))

/-- Digits behind those of a number are read if the number that they all make keeps to the limit.

**Proof sketch.** Induction on the digits. What has been read with the next digit is at most the whole number
(`le_ofDigitChars`), so it keeps to the limit too. -/
lemma readDigits_eq {digits : List Char} {n : ℕ} (isDigit : ∀ c ∈ digits, c.isDigit = true)
    (fits : Nat.ofDigitChars 10 digits n ≤ limit) :
    readDigits limit overflow n digits = .ok (Nat.ofDigitChars 10 digits n) := by
  induction digits generalizing n with
  | nil => simp [readDigits]
  | cons c rest ih =>
    have next : Nat.ofDigitChars 10 (c :: rest) n =
        Nat.ofDigitChars 10 rest (n * 10 + (c.toNat - 0x30)) := by
      rw [Nat.ofDigitChars_cons, Nat.mul_comm]
      rfl
    rw [next] at fits ⊢
    have below := Nat.le_trans (le_ofDigitChars rest _) fits
    rw [readDigits, if_pos (isDigit c List.mem_cons_self), if_neg (Nat.not_lt_of_le below)]
    exact ih (fun d mem => isDigit d (List.mem_cons_of_mem c mem)) fits

lemma readMagnitude_digits (n : Numeral limit) {bound : ℕ} (within : limit ≤ bound) (overflow : Fault) :
    readMagnitude bound overflow n.digits = .ok n.value := by
  rw [readMagnitude, if_neg n.present]
  exact readDigits_eq n.isDigit (Nat.le_trans n.value_le within)

/-- The digits of a numeral do not start with a sign. -/
lemma Numeral.exists_cons (n : Numeral limit) :
    ∃ c rest, n.digits = c :: rest ∧ c ≠ '+' ∧ c ≠ '-' := by
  obtain ⟨c, rest, digits⟩ := List.exists_cons_of_ne_nil n.present
  have digit := n.isDigit c (by rw [digits]; exact List.mem_cons_self)
  refine ⟨c, rest, digits, ?_, ?_⟩ <;> rintro rfl <;> cases digit

/-- A numeral is read as a number of 64 bits without sign. -/
theorem readWord_text (n : Numeral maxWord) : readWord n.text = .ok n.value := by
  have read := readMagnitude_digits n (Nat.le_refl maxWord) .tooLarge
  rw [Numeral.text]
  cases n.plus with
  | true => exact read
  | false =>
    obtain ⟨c, rest, digits, noPlus, _⟩ := n.exists_cons
    rw [if_neg Bool.false_ne_true, ← read, digits, readWord.eq_def]
    split <;> simp_all

/-- A numeral that keeps to 63 bits is read as a number of 64 bits with sign. -/
theorem readSigned_text (n : Numeral limit) (within : limit ≤ 0x7FFF_FFFF_FFFF_FFFF) :
    readSigned n.text = .ok (n.value : ℤ) := by
  have read := readMagnitude_digits n within .tooLarge
  rw [Numeral.text]
  cases n.plus with
  | true =>
    rw [if_pos rfl, readSigned, read]
    rfl
  | false =>
    obtain ⟨c, rest, digits, noPlus, noMinus⟩ := n.exists_cons
    rw [digits] at read
    rw [if_neg Bool.false_ne_true, digits, readSigned.eq_def]
    split
    · simp_all
    · simp_all
    · simp_all
    · rw [read]
      rfl

end LoadingCheck.Decimal
