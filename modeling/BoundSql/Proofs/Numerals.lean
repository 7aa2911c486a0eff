/-!
# Numerals

The decimal text of a natural number is a row of digits without a leading zero, and determines the
number.
-/

namespace BoundSql.Numeral

/-- The digits of a natural number. -/
def digits (n : Nat) : List Char := (toString n).toList

/-- They are the ones of its positional notation. -/
theorem digits_eq (n : Nat) : digits n = Nat.toDigits 10 n := Nat.toList_repr

/-- A numeral is not empty. -/
theorem digits_ne_nil (n : Nat) : digits n ≠ [] := by
  rw [digits_eq]
  exact Nat.toDigits_ne_nil

/-- A numeral consists of digits. -/
theorem isDigit_of_mem {n : Nat} {c : Char} (member : c ∈ digits n) : c.isDigit = true := by
  rw [digits_eq] at member
  exact Nat.isDigit_of_mem_toDigits (by decide) (by decide) member

/-- What is no digit is not in a numeral. -/
theorem not_mem_digits {c : Char} (other : c.isDigit = false) (n : Nat) : c ∉ digits n := by
  intro member
  rw [isDigit_of_mem member] at other
  cases other

/-- So nothing else begins a numeral. -/
theorem digits_ne_cons {c : Char} (other : c.isDigit = false) (n : Nat) (rest : List Char) :
    digits n ≠ c :: rest := by
  intro shape
  exact not_mem_digits other n (by rw [shape]; exact List.mem_cons_self)

/-- The value of the digits is the number. -/
theorem ofDigitChars_digits (n : Nat) : Nat.ofDigitChars 10 (digits n) 0 = n := by
  rw [digits_eq, Nat.ofDigitChars_ten_toDigits]

/-- Different numbers have different numerals. -/
theorem digits_inj {m n : Nat} (same : digits m = digits n) : m = n := by
  rw [← ofDigitChars_digits m, same, ofDigitChars_digits]

/-- Only the numeral of zero begins with the digit zero. -/
theorem tail_eq_nil_of_zero {n : Nat} {rest : List Char} (shape : digits n = '0' :: rest) :
    rest = [] := by
  induction n using Nat.strongRecOn generalizing rest with
  | ind n ih =>
    rw [digits_eq] at shape
    rcases Nat.lt_or_ge n 10 with small | large
    · rw [Nat.toDigits_of_lt_base small] at shape
      exact (List.cons.inj shape).2.symm
    · -- All but the last digit are the numeral of the tenth part, which is not zero.
      rw [Nat.toDigits_of_base_le (by decide) large, ← digits_eq] at shape
      obtain ⟨first, others, front⟩ := List.exists_cons_of_ne_nil (digits_ne_nil (n / 10))
      rw [front, List.cons_append, List.cons.injEq] at shape
      obtain ⟨rfl, -⟩ := shape
      have single := ih (n / 10) (by omega) front
      have value := ofDigitChars_digits (n / 10)
      rw [front, single] at value
      have zero : Nat.ofDigitChars 10 ['0'] 0 = 0 := by decide
      omega

end BoundSql.Numeral
