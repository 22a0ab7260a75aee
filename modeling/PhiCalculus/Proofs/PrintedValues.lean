import PhiCalculus.Proofs.ByteLiterals

/-!
# Printed values

What is printed for a value is a literal of its type, and reading that literal gives the value again
(`Value.printed_values_read_back`).  Numbers are printed in decimal, as both their term and their
label; bytes are printed as pairs of capital digits with dashes between them, and no bytes as two
dashes, which have no group between them.
-/

set_option autoImplicit false

namespace PhiCalculus.Value

variable {group : List Char} {b : UInt8}

/-- The text is a literal of the value's type, and reading it gives the value. -/
def ReadsBack (text : String) (v : Value) : Prop := parse v.tag text = .ok v

/-! ## Integers -/

/-- The decimals of an integer are a text for it. -/
theorem spellsInteger_toString (n : Int) : SpellsInteger (toString n) n := by
  refine ⟨(toString n).toList, ⟨[], [], by simp, by simp⟩, ?_⟩
  have numeral := Number.Numeral.toDigits n.natAbs
  rw [toList_toString_int]
  split
  · next positive =>
    refine ⟨[], 10, 1, _, n.natAbs, .plain, numeral, rfl, ?_⟩
    omega
  · next negative =>
    refine ⟨['-'], 10, -1, _, n.natAbs, .minus, numeral, rfl, ?_⟩
    omega

theorem readsBack_integerText (n : Int64) : ReadsBack (integerText n) (.int n) :=
  parse_int_eq_ok.mpr ⟨n, rfl, spellsInteger_toString n.toInt⟩

/-! ## Bytes -/

theorem isPair_byteText (b : UInt8) : IsPair (byteText b) b := by
  have digits : ∀ n < 16,
      Number.IsDigit 16 (if n < 10 then Char.ofNat (48 + n) else Char.ofNat (55 + n)) n := by
    decide
  have bound := b.toNat_lt
  refine ⟨_, _, b.toNat / 16, b.toNat % 16, rfl, digits _ ?_, digits _ ?_, ?_⟩
  all_goals omega

theorem IsPair.isGroup (pair : IsPair group b) : IsGroup group := by
  obtain ⟨first, second, high, low, rfl, digit, digit', -⟩ := pair
  have inner {c : Char} {d : Nat} (digit : Number.IsDigit 16 c d) : isByteSeparator c = false := by
    have dash : c ≠ '-' := digit.ne_of_no_digit (by decide)
    simp [isByteSeparator, digit.not_blank, dash]
  refine ⟨List.cons_ne_nil _ _, ?_⟩
  simp [inner digit, inner digit']

/-- The pairs that bytes are printed as are the groups of their text. -/
theorem groups_bytesText (bs : List UInt8) : Groups (bytesText bs) (bs.map byteText) := by
  have dash : isByteSeparator '-' = true := by decide
  induction bs using bytesText.induct with
  | case1 => exact .skip dash (.skip dash .nil)
  | case2 b => exact .last (isPair_byteText b).isGroup
  | case3 b rest more ih =>
      rw [bytesText, List.map_cons]
      · exact .cons (isPair_byteText b).isGroup dash ih
      · exact more

theorem readsBack_bytesText (bs : List UInt8) :
    ReadsBack (String.ofList (bytesText bs)) (.bytes bs) := by
  have split : Groups (String.ofList (bytesText bs)).toList (bs.map byteText) := by
    rw [String.toList_ofList]
    exact groups_bytesText bs
  refine (parse_bytes_of_groups split).mpr ⟨bs, rfl, ?_⟩
  rw [List.forall₂_map_left_iff, List.forall₂_same]
  intro b _
  exact (isPair_iff.mp (isPair_byteText b)).2

/-! ## Characters -/

/-- One character alone is no escape. -/
theorem decodeEscapes_singleton (c : Char) : Text.decodeEscapes [c] = [c] := by
  unfold Text.decodeEscapes
  split <;> simp_all [Text.decodeEscapes]

theorem readsBack_singleton (c : Char) : ReadsBack (String.singleton c) (.char c) := by
  simp [ReadsBack, tag, parse, decodeEscapes_singleton]

/-! ## Truth values -/

/-- Both spellings of a truth value are read, the one in its term and the one in its label. -/
theorem readsBack_bool (b : Bool) :
    ReadsBack (if b then "TRUE" else "FALSE") (.bool b) ∧ ReadsBack (boolText b) (.bool b) := by
  cases b <;> exact ⟨rfl, rfl⟩

/-! ## Terms and labels -/

/-- **The terms of integers, truth values and bytes, and the labels of integers, truth values and
characters, are read as the values they were printed for.** -/
theorem printed_values_read_back (items : List String) :
    (∀ n, ReadsBack (termOf items (.int n)) (.int n)) ∧
    (∀ b, ReadsBack (termOf items (.bool b)) (.bool b)) ∧
    (∀ bs, ReadsBack (termOf items (.bytes bs)) (.bytes bs)) ∧
    (∀ n, ∃ text, label (.int n) = some text ∧ ReadsBack text (.int n)) ∧
    (∀ b, ∃ text, label (.bool b) = some text ∧ ReadsBack text (.bool b)) ∧
    ∀ c, ∃ text, label (.char c) = some text ∧ ReadsBack text (.char c) := by
  refine ⟨?_, ?_, ?_, ?_, ?_, ?_⟩
  · exact readsBack_integerText
  · intro b
    exact (readsBack_bool b).1
  · exact readsBack_bytesText
  · intro n
    exact ⟨_, rfl, readsBack_integerText n⟩
  · intro b
    exact ⟨_, rfl, (readsBack_bool b).2⟩
  · intro c
    exact ⟨_, rfl, readsBack_singleton c⟩

/-- No bytes, and a single backslash. -/
example : ReadsBack "--" (.bytes []) ∧ ReadsBack "\\" (.char '\\') := ⟨rfl, rfl⟩

end PhiCalculus.Value
