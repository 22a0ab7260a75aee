import Mathlib.Data.List.Forall2
import Mathlib.Data.Nat.Digits.Defs
import PhiCalculus.Number.Digits
import PhiCalculus.Proofs.Decimals

/-!
# Numerals

A numeral of a radix is a row of one or more digits, and its number is that of the digits, the most
significant one first (`Number.Numeral`).  The digits above nine are letters of either case.

What is read as digits are the numerals whose number does not exceed the limit
(`Number.readDigits_eq_ok`), and what is read as a number that may carry a plus sign are these
numerals with or without one (`Number.readUnsigned_eq_ok`).  How long a numeral is does not matter:
zeros in front of it do not change its number (`Number.Numeral.zeros`).
-/

set_option autoImplicit false

namespace PhiCalculus.Number

variable {radix limit n m d e acc : Nat} {excess : DigitFault} {c : Char} {cs : List Char}

/-! ## Digits -/

/-- The digits up to fifteen, with small letters. -/
def lowerDigits : List Char :=
  ['0', '1', '2', '3', '4', '5', '6', '7', '8', '9', 'a', 'b', 'c', 'd', 'e', 'f']

/-- The digits up to fifteen, with capital letters. -/
def upperDigits : List Char :=
  ['0', '1', '2', '3', '4', '5', '6', '7', '8', '9', 'A', 'B', 'C', 'D', 'E', 'F']

/-- The character is that digit of the radix. -/
def IsDigit (radix : Nat) (c : Char) (d : Nat) : Prop :=
  d < radix ∧ (lowerDigits[d]? = some c ∨ upperDigits[d]? = some c)

instance : Decidable (IsDigit radix c d) := inferInstanceAs (Decidable (_ ∧ _))

theorem digitValue_of_listed : ∀ d < 16, ∀ c,
    lowerDigits[d]? = some c ∨ upperDigits[d]? = some c → digitValue c = some d := by
  have lower : ∀ d < 16, (lowerDigits[d]?.map digitValue).getD none = some d := by decide
  have upper : ∀ d < 16, (upperDigits[d]?.map digitValue).getD none = some d := by decide
  rintro d small c (found | found)
  · simpa [found] using lower d small
  · simpa [found] using upper d small

theorem listed_of_digitValue (small : d < 16) (value : digitValue c = some d) :
    lowerDigits[d]? = some c ∨ upperDigits[d]? = some c := by
  have all : ∀ code < 103, ∀ d < 16, digitValue (Char.ofNat code) = some d →
      lowerDigits[d]? = some (Char.ofNat code) ∨ upperDigits[d]? = some (Char.ofNat code) := by
    decide +kernel
  have low : c.toNat < 103 := by
    simp only [digitValue] at value
    grind
  have listed := all c.toNat low d small
  rw [Char.ofNat_toNat] at listed
  exact listed value

namespace IsDigit

theorem lt (digit : IsDigit radix c d) : d < 16 := by
  have short : lowerDigits.length = 16 ∧ upperDigits.length = 16 := ⟨rfl, rfl⟩
  rcases digit.2 with found | found
  · exact short.1 ▸ (List.getElem?_eq_some_iff.mp found).1
  · exact short.2 ▸ (List.getElem?_eq_some_iff.mp found).1

theorem value (digit : IsDigit radix c d) : digitValue c = some d :=
  digitValue_of_listed d digit.lt c digit.2

theorem unique (digit : IsDigit radix c d) (digit' : IsDigit radix c e) : d = e := by
  have same := digit.value.symm.trans digit'.value
  exact Option.some.inj same

theorem ne_of_no_digit (digit : IsDigit radix c d) {other : Char}
    (noDigit : ∀ d < 16, digitValue other ≠ some d) : c ≠ other := by
  rintro rfl
  exact noDigit d digit.lt digit.value

end IsDigit

/-- The digits that are read are those of the radix. -/
theorem digit?_eq_some (small : radix ≤ 16) : digit? radix c = some d ↔ IsDigit radix c d := by
  constructor
  · intro read
    unfold digit? at read
    split at read
    · next e value =>
      split at read
      · next within =>
        obtain rfl : e = d := Option.some.inj read
        exact ⟨within, listed_of_digitValue (within.trans_le small) value⟩
      · cases read
    · cases read
  · intro digit
    rw [digit?, digit.value]
    exact if_pos digit.1

/-! ## Numerals -/

/-- The characters are a numeral of the radix for that number. -/
def Numeral (radix : Nat) (cs : List Char) (n : Nat) : Prop :=
  cs ≠ [] ∧ ∃ ds, List.Forall₂ (IsDigit radix) cs ds ∧ n = Nat.ofDigits radix ds.reverse

namespace Numeral

/-- A numeral has one number. -/
theorem unique (numeral : Numeral radix cs n) (numeral' : Numeral radix cs m) : n = m := by
  obtain ⟨_, ds, digits, rfl⟩ := numeral
  obtain ⟨_, es, digits', rfl⟩ := numeral'
  have one : Relator.RightUnique (IsDigit radix) := fun _ _ _ digit digit' => digit.unique digit'
  rw [List.right_unique_forall₂' one digits digits']

/-- Whatever is in a numeral is a digit. -/
theorem isDigit (numeral : Numeral radix cs n) (there : c ∈ cs) : ∃ d, IsDigit radix c d := by
  obtain ⟨_, ds, digits, _⟩ := numeral
  clear * - digits there
  induction digits with
  | nil => cases there
  | @cons _ d _ _ digit _ ih =>
      rcases List.mem_cons.mp there with rfl | there
      · exact ⟨d, digit⟩
      · exact ih there

theorem ne_nil (numeral : Numeral radix cs n) : cs ≠ [] := numeral.1

/-- There is neither a sign nor an `x` in a numeral. -/
theorem plain (numeral : Numeral radix cs n) : '+' ∉ cs ∧ '-' ∉ cs ∧ 'x' ∉ cs := by
  have out {other : Char} (noDigit : ∀ d < 16, digitValue other ≠ some d) : other ∉ cs := by
    intro there
    obtain ⟨d, digit⟩ := numeral.isDigit there
    exact digit.ne_of_no_digit noDigit rfl
  exact ⟨out (by decide), out (by decide), out (by decide)⟩

theorem single (digit : IsDigit radix c d) : Numeral radix [c] d :=
  ⟨List.cons_ne_nil c [], [d], .cons digit .nil, by simp⟩

/-- One more digit at the end. -/
theorem snoc (numeral : Numeral radix cs n) (digit : IsDigit radix c d) :
    Numeral radix (cs ++ [c]) (radix * n + d) := by
  obtain ⟨_, ds, digits, rfl⟩ := numeral
  refine ⟨by simp, ds ++ [d], List.rel_append digits (.cons digit .nil), ?_⟩
  rw [List.reverse_append, List.reverse_singleton, List.singleton_append, Nat.ofDigits_cons,
    Nat.add_comm]

/-- One more digit in front. -/
theorem cons (numeral : Numeral radix cs n) (digit : IsDigit radix c d) :
    Numeral radix (c :: cs) (n + radix ^ cs.length * d) := by
  obtain ⟨_, ds, digits, rfl⟩ := numeral
  refine ⟨List.cons_ne_nil c cs, d :: ds, .cons digit digits, ?_⟩
  rw [Nat.ofDigits_reverse_cons, digits.length_eq]

/-- **Zeros in front do not change the number.** -/
theorem zeros (numeral : Numeral radix cs n) (k : Nat) :
    Numeral radix (List.replicate k '0' ++ cs) n := by
  have zero : IsDigit radix '0' 0 := by
    obtain ⟨c, there⟩ := List.exists_mem_of_ne_nil cs numeral.1
    obtain ⟨d, digit⟩ := numeral.isDigit there
    exact ⟨Nat.zero_lt_of_lt digit.1, .inl rfl⟩
  induction k with
  | zero => exact numeral
  | succ k ih => simpa [List.replicate_succ] using ih.cons zero

/-- Decimals are a numeral for their number. -/
theorem toDigits (n : Nat) : Numeral 10 (Nat.toDigits 10 n) n := by
  have digits : ∀ d < 10, IsDigit 10 (Nat.digitChar d) d := by decide
  induction n using Nat.strongRecOn with
  | ind n ih =>
      rcases Nat.lt_or_ge n 10 with small | large
      · rw [Nat.toDigits_of_lt_base small]
        exact single (digits n small)
      · have longer := (ih (n / 10) (by omega)).snoc (digits (n % 10) (by omega))
        rwa [← toDigits_split large, show 10 * (n / 10) + n % 10 = n from by omega] at longer

end Numeral

/-! ## Reading -/

/-- What is read after a number are further digits of it. -/
theorem readFrom_eq_ok (small : radix ≤ 16) (within : acc ≤ limit) :
    readFrom radix limit excess acc cs = .ok n ↔ n ≤ limit ∧ ∃ ds,
      List.Forall₂ (IsDigit radix) cs ds ∧
        n = Nat.ofDigits radix ds.reverse + radix ^ cs.length * acc := by
  induction cs generalizing acc with
  | nil =>
      simp only [readFrom, Except.ok.injEq, List.forall₂_nil_left_iff, exists_eq_left,
        List.reverse_nil, Nat.ofDigits_nil, List.length_nil, pow_zero, one_mul, zero_add]
      constructor
      · rintro rfl
        exact ⟨within, rfl⟩
      · rintro ⟨_, rfl⟩
        rfl
  | cons c rest ih =>
      -- the number so far and the next digit together are the number that is gone on from
      have shift (d : Nat) (ds : List Nat) (digits : List.Forall₂ (IsDigit radix) rest ds) :
          Nat.ofDigits radix (d :: ds).reverse + radix ^ (rest.length + 1) * acc =
            Nat.ofDigits radix ds.reverse + radix ^ rest.length * (acc * radix + d) := by
        rw [Nat.ofDigits_reverse_cons, digits.length_eq]
        ring
      unfold readFrom
      cases read : digit? radix c with
      | none =>
          refine ⟨nofun, ?_⟩
          rintro ⟨_, _, digits, _⟩
          obtain _ | ⟨digit, _⟩ := digits
          rw [(digit?_eq_some small).mpr digit] at read
          cases read
      | some d =>
          have digit := (digit?_eq_some small).mp read
          have pos : 0 < radix := Nat.zero_lt_of_lt digit.1
          dsimp only
          split
          · next excess =>
            refine ⟨nofun, ?_⟩
            rintro ⟨bound, _, digits, rfl⟩
            obtain _ | @⟨_, d', _, ds, digit', digits⟩ := digits
            obtain rfl := digit.unique digit'
            rw [List.length_cons, shift d ds digits] at bound
            have grown : acc * radix + d ≤ radix ^ rest.length * (acc * radix + d) :=
              Nat.le_mul_of_pos_left _ (Nat.pow_pos pos)
            omega
          · next fits =>
            rw [ih (not_lt.mp fits)]
            refine and_congr_right fun _ => ?_
            constructor
            · rintro ⟨ds, digits, rfl⟩
              exact ⟨d :: ds, .cons digit digits, (shift d ds digits).symm⟩
            · rintro ⟨_, digits, rfl⟩
              obtain _ | @⟨_, d', _, ds, digit', digits⟩ := digits
              obtain rfl := digit.unique digit'
              exact ⟨ds, digits, shift d ds digits⟩

/-- **The digits that are read are the numerals up to the limit.** -/
theorem readDigits_eq_ok (small : radix ≤ 16) :
    readDigits radix limit excess cs = .ok n ↔ n ≤ limit ∧ Numeral radix cs n := by
  cases cs with
  | nil => exact ⟨nofun, fun ⟨_, numeral⟩ => absurd rfl numeral.ne_nil⟩
  | cons c rest =>
      rw [readDigits, readFrom_eq_ok small (Nat.zero_le limit)]
      · simp [Numeral]
      · exact List.cons_ne_nil c rest

/-- **A number that may carry a plus sign is a numeral up to the limit, with or without one.** -/
theorem readUnsigned_eq_ok (small : radix ≤ 16) :
    readUnsigned radix limit cs = .ok n ↔ n ≤ limit ∧ ∃ digits,
      (cs = digits ∨ cs = '+' :: digits) ∧ Numeral radix digits n := by
  unfold readUnsigned
  split
  · refine ⟨nofun, ?_⟩
    rintro ⟨_, digits, rfl | absent, numeral⟩
    · exact absurd rfl numeral.ne_nil
    · cases absent
  · next rest =>
    rw [readDigits_eq_ok small]
    refine and_congr_right fun _ => ?_
    constructor
    · intro numeral
      exact ⟨rest, .inr rfl, numeral⟩
    · rintro ⟨digits, rfl | same, numeral⟩
      · exact absurd List.mem_cons_self numeral.plain.1
      · obtain rfl := List.tail_eq_of_cons_eq same
        exact numeral
  · next noSign =>
    rw [readDigits_eq_ok small]
    refine and_congr_right fun _ => ?_
    constructor
    · intro numeral
      exact ⟨cs, .inl rfl, numeral⟩
    · rintro ⟨digits, rfl | same, numeral⟩
      · exact numeral
      · exact absurd same (noSign digits)

end PhiCalculus.Number
