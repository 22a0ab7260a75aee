import PhiCalculus.Number.Real

/-!
# Decimals

The decimals of a number are digits that spell it, without a zero in front of others, so numbers
with the same decimals are equal.  A negative number has the decimals of its magnitude after a sign.
-/

set_option autoImplicit false

namespace PhiCalculus

/-! ## Digits -/

/-- One more digit. -/
theorem decimalValue_cons (acc : Nat) (c : Char) (rest : List Char) :
    Number.decimalValue acc (c :: rest)
      = Number.decimalValue (acc * 10 + (c.toNat - 48)) rest := by
  rfl

theorem decimalValue_eq_ofDigitChars (acc : Nat) (cs : List Char) :
    Number.decimalValue acc cs = Nat.ofDigitChars 10 cs acc := by
  induction cs generalizing acc with
  | nil => rfl
  | cons c rest ih =>
      have zero : '0'.toNat = 48 := rfl
      rw [decimalValue_cons, ih, Nat.ofDigitChars_cons, Nat.mul_comm 10 acc, zero]

theorem isDecimal_of_isDigit {c : Char} (h : c.isDigit = true) : Number.isDecimal c = true := by
  have bounds : 48 ≤ c.val ∧ c.val ≤ 57 := by simpa [Char.isDigit] using h
  have least : 48 ≤ c.toNat := UInt32.le_iff_toNat_le.mp bounds.1
  have greatest : c.toNat ≤ 57 := UInt32.le_iff_toNat_le.mp bounds.2
  simp [Number.isDecimal, least, greatest]

/-- The last digit of a number with several digits. -/
theorem toDigits_split {n : Nat} (large : 10 ≤ n) :
    Nat.toDigits 10 n = Nat.toDigits 10 (n / 10) ++ [Nat.digitChar (n % 10)] := by
  have last : Nat.toDigits 10 (n % 10) = [Nat.digitChar (n % 10)] :=
    Nat.toDigits_of_lt_base (by omega)
  rw [← last, Nat.toDigits_append_toDigits (by omega) (by omega) (by omega)]
  congr 1
  omega

theorem head_toDigits_of_pos {n : Nat} (pos : 0 < n) :
    (Nat.toDigits 10 n).head? ≠ some '0' := by
  induction n using Nat.strongRecOn with
  | ind n ih =>
      rcases Nat.lt_or_ge n 10 with small | large
      · rw [Nat.toDigits_of_lt_base small]
        have all : ∀ d < 10, 0 < d → Nat.digitChar d ≠ '0' := by decide
        simpa using all n small pos
      · rw [toDigits_split large, List.head?_append, Option.or_of_isSome (by simp)]
        exact ih (n / 10) (by omega) (by omega)

/-- Decimals have no zero in front of other digits. -/
theorem toDigits_no_leading_zero (n : Nat) :
    ¬ (1 < (Nat.toDigits 10 n).length ∧ (Nat.toDigits 10 n).head? = some '0') := by
  rintro ⟨long, zero⟩
  rcases Nat.eq_zero_or_pos n with rfl | pos
  · exact absurd long (by decide)
  · exact head_toDigits_of_pos pos zero

theorem decimalValue_toDigits (n : Nat) : Number.decimalValue 0 (Nat.toDigits 10 n) = n := by
  rw [decimalValue_eq_ofDigitChars, Nat.ofDigitChars_ten_toDigits]

theorem toDigits_cons (n : Nat) : ∃ c more, Nat.toDigits 10 n = c :: more ∧ c.isDigit = true := by
  cases digits : Nat.toDigits 10 n with
  | nil => exact absurd digits Nat.toDigits_ne_nil
  | cons c more =>
      refine ⟨c, more, rfl, ?_⟩
      exact Nat.isDigit_of_mem_toDigits (b := 10) (n := n) (by omega) (by omega) (by simp [digits])

/-! ## Numbers -/

theorem toDigits_inj {m n : Nat} (same : Nat.toDigits 10 m = Nat.toDigits 10 n) : m = n := by
  have values := congrArg (fun digits => Nat.ofDigitChars 10 digits 0) same
  simpa only [Nat.ofDigitChars_ten_toDigits] using values

/-- No number without a sign starts with one. -/
theorem toDigits_ne_minus (n : Nat) (rest : List Char) : Nat.toDigits 10 n ≠ '-' :: rest := by
  obtain ⟨c, more, digits, digit⟩ := toDigits_cons n
  intro same
  cases digits.symm.trans same
  exact absurd digit (by decide)

/-- The decimals of a number, after a sign if it is negative. -/
theorem toList_toString_int (n : Int) : (toString n).toList =
    if 0 ≤ n then Nat.toDigits 10 n.natAbs else '-' :: Nat.toDigits 10 n.natAbs := by
  cases n with
  | ofNat n => simp [Int.toString_eq_repr, Int.repr, Nat.repr_eq_ofList_toDigits]
  | negSucc n => simp [Int.toString_eq_repr, Int.repr, Nat.repr_eq_ofList_toDigits]

end PhiCalculus
