import Mathlib.Data.List.TakeWhile
import PhiCalculus.Proofs.Numerals
import PhiCalculus.Value.Literal

/-!
# Literals of integers

The text of an integer is a decimal numeral after an optional sign, or a hexadecimal numeral after
`0x` and an optional minus sign in front of that (`Number.IntegerText`).  With blanks around it, it
is read as its number if that has 64 bits, and no other text is read (`Value.integers_are_read`).
-/

set_option autoImplicit false

namespace PhiCalculus

/-! ## Blanks around a text -/

namespace Text

/-- The text is the other one with blanks around it. -/
def Surrounds (text core : List Char) : Prop :=
  ∃ before after, text = before ++ core ++ after ∧ ∀ c ∈ before ++ after, isBlank c = true

variable {text core cs before after : List Char}

theorem trimLeft_append (blank : ∀ c ∈ before, isBlank c = true) :
    trimLeft (before ++ cs) = trimLeft cs :=
  List.dropWhile_append_of_pos blank

theorem trimRight_append (blank : ∀ c ∈ after, isBlank c = true) :
    trimRight (cs ++ after) = trimRight cs := by
  rw [trimRight, List.reverse_append, List.dropWhile_append_of_pos]
  · rfl
  · simpa using blank

/-- What is trimmed off are blanks. -/
theorem surrounds_trim (text : List Char) : Surrounds text (trim text) := by
  refine ⟨text.takeWhile isBlank, ((trimLeft text).reverse.takeWhile isBlank).reverse, ?_, ?_⟩
  · have left : text.takeWhile isBlank ++ trimLeft text = text := List.takeWhile_append_dropWhile
    have right : trimRight (trimLeft text) ++
        ((trimLeft text).reverse.takeWhile isBlank).reverse = trimLeft text := by
      rw [trimRight, ← List.reverse_append, List.takeWhile_append_dropWhile, List.reverse_reverse]
    rw [trim, List.append_assoc, right, left]
  · intro c there
    rcases List.mem_append.mp there with before | after
    · exact List.mem_takeWhile_imp before
    · exact List.mem_takeWhile_imp (List.mem_reverse.mp after)

/-- What has blanks around it and neither starts nor ends with one is what trimming leaves. -/
theorem Surrounds.trim_eq (surrounds : Surrounds text core)
    (first : ∀ c ∈ core.head?, isBlank c = false) (last : ∀ c ∈ core.getLast?, isBlank c = false) :
    trim text = core := by
  obtain ⟨before, after, rfl, blank⟩ := surrounds
  have blankBefore : ∀ c ∈ before, isBlank c = true := fun c there =>
    blank c (List.mem_append_left after there)
  have blankAfter : ∀ c ∈ after, isBlank c = true := fun c there =>
    blank c (List.mem_append_right before there)
  rw [trim, List.append_assoc, trimLeft_append blankBefore]
  have own := trim_of_ends first last
  cases core with
  | nil =>
      have nothing : trimLeft after = [] := by
        rw [← List.append_nil after, trimLeft_append blankAfter]
        rfl
      rw [List.nil_append, nothing]
      rfl
  | cons c rest =>
      have start (cs : List Char) : trimLeft (c :: rest ++ cs) = c :: rest ++ cs :=
        List.dropWhile_cons_of_neg (by simp [first c (by simp)])
      rw [start, trimRight_append blankAfter]
      rw [trim, ← List.append_nil (c :: rest), start, List.append_nil] at own
      exact own

end Text

/-! ## Texts of integers -/

namespace Number

/-- What stands before the digits of an integer: it tells the radix of the digits and the sign. -/
inductive IntegerHead : List Char → Nat → Int → Prop where
  | plain : IntegerHead [] 10 1
  | plus : IntegerHead ['+'] 10 1
  | minus : IntegerHead ['-'] 10 (-1)
  | hex : IntegerHead ['0', 'x'] 16 1
  | minusHex : IntegerHead ['-', '0', 'x'] 16 (-1)

/-- The characters are a text for the integer. -/
def IntegerText (cs : List Char) (n : Int) : Prop :=
  ∃ head radix sign digits m, IntegerHead head radix sign ∧ Numeral radix digits m ∧
    cs = head ++ digits ∧ n = sign * m

/-- The integer has 64 bits. -/
def Fits (n : Int) : Prop := -2 ^ 63 ≤ n ∧ n < 2 ^ 63

variable {cs hex digits digits' head head' text : List Char} {radix radix' k m : Nat}
  {sign sign' n n' : Int} {negative : Bool}

theorem IntegerText.unique (spells : IntegerText cs n) (spells' : IntegerText cs n') : n = n' := by
  obtain ⟨head, radix, sign, digits, m, isHead, numeral, rfl, rfl⟩ := spells
  obtain ⟨head', radix', sign', digits', m', isHead', numeral', same, rfl⟩ := spells'
  have plain := numeral.plain
  have plain' := numeral'.plain
  -- one head is longer than another by a sign or an `x`, which no numeral starts with or holds
  have both : digits = digits' ∧ radix = radix' ∧ sign = sign' := by
    cases isHead <;> cases isHead' <;> simp_all <;> grind
  obtain ⟨rfl, rfl, rfl⟩ := both
  rw [numeral.unique numeral']

/-- After `0x`, a hexadecimal numeral is read as its number. -/
theorem readHex_eq_ok : readHex text negative hex = .ok n ↔ Fits n ∧
    ∃ m : Nat, Numeral 16 hex m ∧ n = if negative then -(m : Int) else m := by
  have fits (m : Nat) : Fits (if negative then -(m : Int) else m) ↔
      if negative then m ≤ integerBound else m < integerBound := by
    cases negative
    · simp only [Fits, integerBound, Bool.false_eq_true, if_false]
      omega
    · simp only [Fits, integerBound, if_true]
      omega
  have below {m : Nat} (is : Fits (if negative then -(m : Int) else m)) : m ≤ hexLimit := by
    rw [fits, integerBound] at is
    rw [hexLimit]
    split at is <;> omega
  unfold readHex
  split
  · refine ⟨nofun, ?_⟩
    rintro ⟨_, m, numeral, _⟩
    exact absurd List.mem_cons_self numeral.plain.1
  · refine ⟨nofun, ?_⟩
    rintro ⟨_, m, numeral, _⟩
    exact absurd List.mem_cons_self numeral.plain.2.1
  · refine ⟨nofun, ?_⟩
    rintro ⟨_, m, numeral, _⟩
    exact absurd rfl numeral.ne_nil
  · cases read : readDigits 16 hexLimit .tooLarge hex with
    | error fault =>
        refine ⟨nofun, ?_⟩
        rintro ⟨is, m, numeral, rfl⟩
        cases read.symm.trans ((readDigits_eq_ok (by decide)).mpr ⟨below is, numeral⟩)
    | ok m =>
        obtain ⟨_, numeral⟩ := (readDigits_eq_ok (by decide)).mp read
        have given : (∃ m' : Nat, Numeral 16 hex m' ∧ n = if negative then -(m' : Int) else m') ↔
            n = if negative then -(m : Int) else m := by
          constructor
          · rintro ⟨m', numeral', rfl⟩
            rw [numeral.unique numeral']
          · rintro rfl
            exact ⟨m, numeral, rfl⟩
        rw [given, and_comm, and_congr_right fun is => is ▸ fits m]
        cases negative
        · by_cases small : m < integerBound <;> simp [small, eq_comm]
        · by_cases small : m ≤ integerBound <;> simp [small, eq_comm]

/-- The characters are a decimal numeral after an optional sign. -/
def DecimalText (cs : List Char) (n : Int) : Prop :=
  ∃ head sign digits, ∃ m : Nat, IntegerHead head 10 sign ∧ Numeral 10 digits m ∧
    cs = head ++ digits ∧ n = sign * m

theorem decimalText_append (isHead : IntegerHead head 10 sign)
    (noSign : head = [] → ∀ rest, cs ≠ '+' :: rest ∧ cs ≠ '-' :: rest) :
    DecimalText (head ++ cs) n ↔ ∃ m : Nat, Numeral 10 cs m ∧ n = sign * m := by
  constructor
  · rintro ⟨head', sign', digits, m, isHead', numeral, same, rfl⟩
    have plain := numeral.plain
    have both : digits = cs ∧ sign' = sign := by
      cases isHead <;> cases isHead' <;> simp_all <;> grind
    obtain ⟨rfl, rfl⟩ := both
    exact ⟨m, numeral, rfl⟩
  · rintro ⟨m, numeral, rfl⟩
    exact ⟨head, sign, cs, m, isHead, numeral, rfl, rfl⟩

theorem signed_eq_ok {limit : Nat} {excess : DigitFault} {signed : Nat → Int}
    (fits : ∀ m, Fits (signed m) ↔ m ≤ limit) :
    (match readDigits 10 limit excess cs with
      | .ok m => .ok (signed m)
      | .error fault => .error (.digits fault) : Except IntegerFault Int) = .ok n ↔
    Fits n ∧ ∃ m, Numeral 10 cs m ∧ n = signed m := by
  cases read : readDigits 10 limit excess cs with
  | error fault =>
      refine ⟨nofun, ?_⟩
      rintro ⟨is, m, numeral, rfl⟩
      cases read.symm.trans ((readDigits_eq_ok (by decide)).mpr ⟨(fits m).mp is, numeral⟩)
  | ok m =>
      obtain ⟨within, numeral⟩ := (readDigits_eq_ok (by decide)).mp read
      constructor
      · rintro ⟨⟩
        exact ⟨(fits m).mpr within, m, numeral, rfl⟩
      · rintro ⟨_, m', numeral', rfl⟩
        rw [numeral.unique numeral']

/-- A decimal numeral after an optional sign is read as its number. -/
theorem readDecimal_eq_ok : readDecimal cs = .ok n ↔ Fits n ∧ DecimalText cs n := by
  have negative (m : Nat) : Fits (-(m : Int)) ↔ m ≤ integerBound := by
    simp only [Fits, integerBound]
    omega
  have positive (m : Nat) : Fits m ↔ m ≤ integerBound - 1 := by
    simp only [Fits, integerBound]
    omega
  unfold readDecimal
  split
  · refine ⟨nofun, ?_⟩
    rintro ⟨_, head, sign, digits, m, _, numeral, nothing, _⟩
    exact absurd (List.append_eq_nil_iff.mp nothing.symm).2 numeral.ne_nil
  · next rest =>
    refine (signed_eq_ok negative).trans (and_congr_right fun _ => ?_)
    refine Iff.trans ?_ (decimalText_append .minus nofun).symm
    simp
  · next rest =>
    refine (signed_eq_ok positive).trans (and_congr_right fun _ => ?_)
    refine Iff.trans ?_ (decimalText_append .plus nofun).symm
    simp
  · next noMinus noPlus =>
    refine (signed_eq_ok positive).trans (and_congr_right fun _ => ?_)
    refine Iff.trans ?_ (decimalText_append .plain fun _ rest => ⟨noPlus rest, noMinus rest⟩).symm
    simp

theorem integerText_hex (isHead : IntegerHead head 16 sign) :
    IntegerText (head ++ hex) n ↔ ∃ m : Nat, Numeral 16 hex m ∧ n = sign * m := by
  constructor
  · rintro ⟨head', radix', sign', digits, m, isHead', numeral, same, rfl⟩
    have plain := numeral.plain
    have both : digits = hex ∧ radix' = 16 ∧ sign' = sign := by
      cases isHead <;> cases isHead' <;> simp_all <;> grind
    obtain ⟨rfl, rfl, rfl⟩ := both
    exact ⟨m, numeral, rfl⟩
  · rintro ⟨m, numeral, rfl⟩
    exact ⟨head, 16, sign, hex, m, isHead, numeral, rfl, rfl⟩

theorem readInteger_eq_ok : readInteger cs = .ok n ↔ Fits n ∧ IntegerText cs n := by
  unfold readInteger
  split
  · next hex =>
    rw [readHex_eq_ok]
    refine and_congr_right fun _ => (Iff.trans ?_ (integerText_hex .minusHex).symm)
    simp
  · next hex =>
    rw [readHex_eq_ok]
    refine and_congr_right fun _ => (Iff.trans ?_ (integerText_hex .hex).symm)
    simp
  · next noMinusHex noHex =>
    rw [readDecimal_eq_ok]
    refine and_congr_right fun _ => ?_
    constructor
    · rintro ⟨head, sign, digits, m, isHead, numeral, is⟩
      exact ⟨head, 10, sign, digits, m, isHead, numeral, is⟩
    · rintro ⟨head, radix, sign, digits, m, isHead, numeral, rfl, rfl⟩
      cases isHead with
      | hex => exact absurd rfl (noHex digits)
      | minusHex => exact absurd rfl (noMinusHex digits)
      | plain => exact ⟨_, _, digits, m, .plain, numeral, rfl, rfl⟩
      | plus => exact ⟨_, _, digits, m, .plus, numeral, rfl, rfl⟩
      | minus => exact ⟨_, _, digits, m, .minus, numeral, rfl, rfl⟩

theorem IsDigit.not_blank {c : Char} {d : Nat} (digit : IsDigit radix c d) :
    Text.isBlank c = false := by
  have lower : ∀ c ∈ lowerDigits, Text.isBlank c = false := by simp [lowerDigits, Text.isBlank]
  have upper : ∀ c ∈ upperDigits, Text.isBlank c = false := by simp [upperDigits, Text.isBlank]
  rcases digit.2 with found | found
  · exact lower c (List.mem_of_getElem? found)
  · exact upper c (List.mem_of_getElem? found)

theorem IntegerText.not_blank (spells : IntegerText cs n) : ∀ c ∈ cs, Text.isBlank c = false := by
  obtain ⟨head, radix, sign, digits, m, isHead, numeral, rfl, rfl⟩ := spells
  intro c there
  rcases List.mem_append.mp there with there | there
  · have all : ∀ c ∈ ['+', '-', '0', 'x'], Text.isBlank c = false := by simp [Text.isBlank]
    apply all
    cases isHead <;> simp_all
  · obtain ⟨d, digit⟩ := numeral.isDigit there
    exact digit.not_blank

theorem IntegerText.zeros {k : Nat} (isHead : IntegerHead head radix sign)
    (numeral : Numeral radix digits m) :
    IntegerText (head ++ (List.replicate k '0' ++ digits)) (sign * m) :=
  ⟨head, radix, sign, _, m, isHead, numeral.zeros k, rfl, rfl⟩

end Number

/-! ## Integers -/

namespace Value

/-- The text is one for the integer, with blanks around it. -/
def SpellsInteger (text : String) (n : Int) : Prop :=
  ∃ literal, Text.Surrounds text.toList literal ∧ Number.IntegerText literal n

variable {text : String} {n : Int} {v : Value}

theorem spellsInteger_iff : SpellsInteger text n ↔ Number.IntegerText (Text.trim text.toList) n := by
  constructor
  · rintro ⟨literal, around, spells⟩
    rw [around.trim_eq]
    · exact spells
    · intro c first
      exact spells.not_blank c (List.mem_of_head? first)
    · intro c last
      exact spells.not_blank c (List.mem_of_getLast? last)
  · intro spells
    exact ⟨Text.trim text.toList, Text.surrounds_trim text.toList, spells⟩

theorem SpellsInteger.unique {n' : Int} (spells : SpellsInteger text n)
    (spells' : SpellsInteger text n') : n = n' :=
  (spellsInteger_iff.mp spells).unique (spellsInteger_iff.mp spells')

theorem fits_toInt (z : Int64) : Number.Fits z.toInt :=
  ⟨Int64.le_toInt z, Int64.toInt_lt z⟩

/-- What the text of an integer is read as. -/
theorem parse_int_eq_ok : parse .int text = .ok v ↔
    ∃ z : Int64, v = .int z ∧ SpellsInteger text z.toInt := by
  rw [parse]
  cases read : Number.readInteger (Text.trim text.toList) with
  | error fault =>
      refine ⟨nofun, ?_⟩
      rintro ⟨z, -, spells⟩
      have same := Number.readInteger_eq_ok.mpr ⟨fits_toInt z, spellsInteger_iff.mp spells⟩
      cases read.symm.trans same
  | ok n =>
      obtain ⟨fits, spells⟩ := Number.readInteger_eq_ok.mp read
      have back : (Int64.ofInt n).toInt = n := Int64.toInt_ofInt_of_le fits.1 fits.2
      have spells := spellsInteger_iff.mpr spells
      constructor
      · rintro ⟨⟩
        exact ⟨Int64.ofInt n, rfl, back.symm ▸ spells⟩
      · rintro ⟨z, rfl, spells'⟩
        obtain rfl := spells.unique spells'
        simp only [Int64.ofInt_toInt]

/-- No text is read as an integer but one for a number that has 64 bits. -/
theorem parse_int_eq_error : (∃ fault, parse .int text = .error fault) ↔
    ∀ n, SpellsInteger text n → n < -2 ^ 63 ∨ 2 ^ 63 ≤ n := by
  constructor
  · rintro ⟨fault, refused⟩ n spells
    by_contra within
    have fits : Number.Fits n := by
      simp only [Number.Fits]
      omega
    have back : (Int64.ofInt n).toInt = n := Int64.toInt_ofInt_of_le fits.1 fits.2
    cases refused.symm.trans (parse_int_eq_ok.mpr ⟨Int64.ofInt n, rfl, back.symm ▸ spells⟩)
  · intro outside
    cases read : parse .int text with
    | error fault => exact ⟨fault, rfl⟩
    | ok v =>
        obtain ⟨z, rfl, spells⟩ := parse_int_eq_ok.mp read
        have fits := fits_toInt z
        rcases outside z.toInt spells with less | greater
        · exact absurd fits.1 (by omega)
        · exact absurd fits.2 (by omega)

/-- **A text is read as an integer if it is a decimal numeral after an optional sign, or a
hexadecimal one after `0x` and an optional minus sign, blanks around it apart, and its number has
64 bits.  Every other text is refused, and zeros in front of the digits make no difference.** -/
theorem integers_are_read :
    (∀ text v, parse .int text = .ok v ↔
      ∃ z : Int64, v = .int z ∧ SpellsInteger text z.toInt) ∧
    (∀ text, (∃ fault, parse .int text = .error fault) ↔
      ∀ n, SpellsInteger text n → n < -2 ^ 63 ∨ 2 ^ 63 ≤ n) ∧
    ∀ (before after head digits : List Char) (radix m k : Nat) (sign : Int),
      (∀ c ∈ before ++ after, Text.isBlank c = true) → Number.IntegerHead head radix sign →
      Number.Numeral radix digits m → ∀ v,
        parse .int (String.ofList (before ++ (head ++ (List.replicate k '0' ++ digits)) ++ after)) =
          .ok v ↔
        parse .int (String.ofList (before ++ (head ++ digits) ++ after)) = .ok v := by
  refine ⟨fun text v => parse_int_eq_ok, fun text => parse_int_eq_error, ?_⟩
  intro before after head digits radix m k sign blank isHead numeral v
  -- both texts are those of one integer
  have spells (k : Nat) : SpellsInteger
      (String.ofList (before ++ (head ++ (List.replicate k '0' ++ digits)) ++ after)) (sign * m) :=
    ⟨_, ⟨before, after, String.toList_ofList, blank⟩, .zeros isHead numeral⟩
  have same (n : Int) : SpellsInteger
        (String.ofList (before ++ (head ++ (List.replicate k '0' ++ digits)) ++ after)) n ↔
      SpellsInteger (String.ofList (before ++ (head ++ digits) ++ after)) n := by
    constructor
    · intro spells'
      exact spells'.unique (spells k) ▸ spells 0
    · intro spells'
      exact spells'.unique (spells 0) ▸ spells k
  simp only [parse_int_eq_ok, same]

/-- The least integer, in hexadecimal with zeros in front and blanks around, and one more, which is
refused. -/
theorem least_integer_is_read :
    parse .int "\t-0x0008000000000000000 " = .ok (.int Int64.minValue) ∧
      ∃ fault, parse .int "0x8000000000000000" = .error fault := by
  have digits : Number.Numeral 16 "8000000000000000".toList (2 ^ 63) :=
    ⟨by decide, [8, 0, 0, 0, 0, 0, 0, 0, 0, 0, 0, 0, 0, 0, 0, 0], by decide, by decide⟩
  have blank : ∀ c ∈ ['\t'] ++ [' '], Text.isBlank c = true := by simp [Text.isBlank]
  have plain : parse .int "\t-0x8000000000000000 " = .ok (.int Int64.minValue) :=
    (integers_are_read.1 _ _).mpr ⟨Int64.minValue, rfl, "-0x8000000000000000".toList,
      ⟨['\t'], [' '], rfl, blank⟩, _, 16, -1, _, 2 ^ 63, .minusHex, digits, rfl, by decide⟩
  have zeros := integers_are_read.2.2 ['\t'] [' '] _ _ 16 (2 ^ 63) 3 (-1) blank .minusHex
    digits (.int Int64.minValue)
  refine ⟨zeros.mpr plain, (integers_are_read.2.1 _).mpr fun n spells => ?_⟩
  have is : SpellsInteger "0x8000000000000000" (1 * (2 ^ 63 : Nat)) :=
    ⟨_, ⟨[], [], by simp, by simp⟩, _, 16, 1, _, 2 ^ 63, .hex, digits, rfl, rfl⟩
  rw [spells.unique is]
  decide

end Value

end PhiCalculus
