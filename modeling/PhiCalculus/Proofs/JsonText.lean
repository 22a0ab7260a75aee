import PhiCalculus.Json.Reader
import PhiCalculus.Json.Writer
import PhiCalculus.Proofs.Decimals

/-!
# Texts of JSON values

The text of a value reads back as the value, whatever follows that may stand after a value.  Real
numbers are left out, and whole numbers must be of a size that reading keeps (`Json.Exact`); what is
read never has a natural number above that size (`Json.Sized`).

Reading counts how many values may still be nested, so the text of a value is read only where its
arrays and objects fit (`Json.nesting`).  It also needs fuel, for which the length of the text is
enough.
-/

set_option autoImplicit false

namespace PhiCalculus.Json

/-! ## Values by their parts -/

/-- A value that holds no others. -/
def isScalar : Json → Bool
  | array _ => false
  | object _ => false
  | _ => true

/-- All scalars in a value are of a kind. -/
inductive Built (ok : Json → Prop) : Json → Prop where
  | scalar {v : Json} : v.isScalar = true → ok v → Built ok v
  | array {items : List Json} : (∀ v ∈ items, Built ok v) → Built ok (.array items)
  | object {members : List (String × Json)} : (∀ m ∈ members, Built ok m.2) →
      Built ok (.object members)

/-- A scalar that reads back from its text. -/
def Exact : Json → Prop
  | natural n => n ≤ wholeLimit
  | negative n => n < 0 ∧ -0x8000000000000000 ≤ n
  | real _ => False
  | _ => True

/-- A natural number that is no greater than reading keeps without rounding, or no natural
number. -/
def Sized : Json → Prop
  | natural n => n ≤ wholeLimit
  | _ => True

mutual

/-- The greatest number of arrays and objects nested in one another. -/
def nesting : Json → Nat
  | array items => nestings items + 1
  | object members => memberNestings members + 1
  | _ => 0

def nestings : List Json → Nat
  | [] => 0
  | v :: rest => max v.nesting (nestings rest)

def memberNestings : List (String × Json) → Nat
  | [] => 0
  | (_, v) :: rest => max v.nesting (memberNestings rest)

end

/-! ## What may follow a value -/

/-- Where a value ends: at the end of the text, at a comma or at a closing bracket. -/
def Ends (rest : List Char) : Prop := ∀ c ∈ rest.head?, c = ',' ∨ c = ']' ∨ c = '\x7d'

theorem Ends.cons {c : Char} {rest : List Char} (h : c = ',' ∨ c = ']' ∨ c = '\x7d') :
    Ends (c :: rest) := by
  intro d mem
  cases mem
  exact h

/-! ## Numbers -/

theorem readDigits_toDigits (n : Nat) {rest : List Char} (ends : Ends rest) :
    readDigits (Nat.toDigits 10 n ++ rest) = some (Nat.toDigits 10 n, rest) := by
  have decimal : ∀ c ∈ Nat.toDigits 10 n, Number.isDecimal c = true := by
    intro c mem
    exact isDecimal_of_isDigit (Nat.isDigit_of_mem_toDigits (by omega) (by omega) mem)
  have none_taken : rest.takeWhile Number.isDecimal = [] := by
    cases rest with
    | nil => rfl
    | cons c more => rcases ends c rfl with rfl | rfl | rfl <;> rfl
  have none_dropped : rest.dropWhile Number.isDecimal = rest := by
    cases rest with
    | nil => rfl
    | cons c more => rcases ends c rfl with rfl | rfl | rfl <;> rfl
  have taken : (Nat.toDigits 10 n ++ rest).takeWhile Number.isDecimal = Nat.toDigits 10 n := by
    rw [List.takeWhile_append_of_pos decimal, none_taken, List.append_nil]
  have dropped : (Nat.toDigits 10 n ++ rest).dropWhile Number.isDecimal = rest := by
    rw [List.dropWhile_append_of_pos decimal, none_dropped]
  rw [readDigits, taken, dropped]
  cases digits : Nat.toDigits 10 n with
  | nil => exact absurd digits Nat.toDigits_ne_nil
  | cons d ds => rfl

theorem readFraction_of_ends {rest : List Char} (ends : Ends rest) :
    readFraction rest = some (none, rest) := by
  cases rest with
  | nil => rfl
  | cons c more => rcases ends c rfl with rfl | rfl | rfl <;> rfl

theorem readExponent_of_ends {rest : List Char} (ends : Ends rest) :
    readExponent rest = some (none, rest) := by
  cases rest with
  | nil => rfl
  | cons c more => rcases ends c rfl with rfl | rfl | rfl <;> rfl

theorem numberOf_natural {n : Nat} (small : n ≤ wholeLimit) :
    numberOf false false (Nat.toDigits 10 n) none none = some (.natural n) := by
  rw [numberOf, decimalValue_toDigits]
  exact if_pos (decide_eq_true small)

theorem numberOf_negative {n : Int} (below : n < 0) (small : -0x8000000000000000 ≤ n) :
    numberOf false true (Nat.toDigits 10 n.natAbs) none none = some (.negative n) := by
  have pos : 0 < n.natAbs := by omega
  have kept : n.natAbs ≤ 0x8000000000000000 := by omega
  have magnitude : -(n.natAbs : Int) = n := by omega
  rw [numberOf, decimalValue_toDigits, decide_eq_true pos, decide_eq_true kept]
  exact congrArg (fun m => some (Json.negative m)) magnitude

theorem readNumber_natural {n : Nat} (small : n ≤ wholeLimit) {rest : List Char}
    (ends : Ends rest) :
    readNumber false (Nat.toDigits 10 n ++ rest) = some (.natural n, rest) := by
  have no_sign : ∀ more, Nat.toDigits 10 n ++ rest ≠ '-' :: more := by
    obtain ⟨c, others, digits, digit⟩ := toDigits_cons n
    intro more sign
    rw [digits] at sign
    cases sign
    exact absurd digit (by decide)
  unfold readNumber
  split
  next minus cs shape =>
    split at shape
    · next more sign => exact absurd sign (no_sign more)
    · cases shape
      simp [readDigits_toDigits n ends, readFraction_of_ends ends, readExponent_of_ends ends,
        numberOf_natural small]
      simpa using toDigits_no_leading_zero n

theorem readNumber_negative {n : Int} (below : n < 0) (small : -0x8000000000000000 ≤ n)
    {rest : List Char} (ends : Ends rest) :
    readNumber false ((toString n).toList ++ rest) = some (.negative n, rest) := by
  have text : (toString n).toList = '-' :: Nat.toDigits 10 n.natAbs := by
    rw [toList_toString_int, if_neg (Int.not_le.mpr below)]
  rw [text, List.cons_append]
  simp [readNumber, readDigits_toDigits n.natAbs ends, readFraction_of_ends ends,
    readExponent_of_ends ends, numberOf_negative below small]
  simpa using toDigits_no_leading_zero n.natAbs

/-! ## Strings -/

theorem foldl_push (out : String) (cs : List Char) :
    (cs.foldl String.push out).toList = out.toList ++ cs := by
  induction cs generalizing out with
  | nil => simp
  | cons c rest ih => simp [ih]

theorem toList_writeString (s : String) :
    (writeString s).toList = '"' :: s.toList.flatMap escaped ++ ['"'] := by
  have inner : ∀ (cs : List Char) (out : String),
      (cs.foldl (fun out c => (escaped c).foldl String.push out) out).toList
        = out.toList ++ cs.flatMap escaped := by
    intro cs
    induction cs with
    | nil =>
        intro out
        simp
    | cons c rest ih =>
        intro out
        simp [ih, foldl_push]
  simp [writeString, String.foldl_eq_foldl_toList, inner]

theorem digit?_hexDigit {n : Nat} (small : n < 16) : Number.digit? 16 (hexDigit n) = some n := by
  have all : ∀ n < 16, Number.digit? 16 (hexDigit n) = some n := by decide
  exact all n small

/-- A character below the blank is spelled by its number. -/
theorem readNumbered_hexDigits {c : Char} (control : c.toNat < 0x20) (rest : List Char) :
    readNumbered false ('0' :: '0' :: hexDigit (c.toNat / 16) :: hexDigit (c.toNat % 16) :: rest)
      = some (c, rest) := by
  have high : Number.digit? 16 (hexDigit (c.toNat / 16)) = some (c.toNat / 16) :=
    digit?_hexDigit (by omega)
  have low : Number.digit? 16 (hexDigit (c.toNat % 16)) = some (c.toNat % 16) :=
    digit?_hexDigit (by omega)
  have zero : Number.digit? 16 '0' = some 0 := by decide
  have number : c.toNat / 16 * 16 + c.toNat % 16 = c.toNat := by omega
  have char : charOf? c.toNat = some c := by
    have valid : c.toNat.isValidChar := c.valid
    rw [charOf?, dif_pos valid]
    rfl
  have alone : ¬ (0xD800 ≤ c.toNat ∧ c.toNat < 0xDC00) := by omega
  simp [readNumbered, readHex4, high, low, zero, number, char, alone]

/-- A character is read back from the way it is written inside a string. -/
theorem readString_escaped (c : Char) (read rest : List Char) (fuel : Nat) :
    readString false read (fuel + 1) (escaped c ++ rest)
      = readString false (c :: read) fuel rest := by
  by_cases special : c ∈ ['"', '\\', '\n', '\r', '\t', '\x08', '\x0c']
  · simp only [List.mem_cons, List.not_mem_nil, or_false] at special
    rcases special with rfl | rfl | rfl | rfl | rfl | rfl | rfl <;>
      rfl
  · simp only [List.mem_cons, List.not_mem_nil, or_false, not_or] at special
    obtain ⟨quote, backslash, newline, carriage, tab, back, feed⟩ := special
    by_cases control : c.toNat < 0x20
    · have written : escaped c
          = ['\\', 'u', '0', '0', hexDigit (c.toNat / 16), hexDigit (c.toNat % 16)] := by
        simp [escaped, quote, backslash, newline, carriage, tab, back, feed, control]
      have spelled := readNumbered_hexDigits control rest
      simp [written, readString, readEscape, spelled]
    · have written : escaped c = [c] := by
        simp [escaped, quote, backslash, newline, carriage, tab, back, feed, control]
      simp [written, readString, quote, backslash, control]

theorem readString_flatMap (cs read rest : List Char) {fuel : Nat} (enough : cs.length < fuel) :
    readString false read fuel (cs.flatMap escaped ++ '"' :: rest)
      = some (String.ofList (read.reverse ++ cs), rest) := by
  induction cs generalizing read fuel with
  | nil =>
      cases fuel with
      | zero => cases enough
      | succ fuel => simp [readString]
  | cons c more ih =>
      cases fuel with
      | zero => cases enough
      | succ fuel =>
          have left : more.length < fuel := Nat.lt_of_succ_lt_succ enough
          rw [List.flatMap_cons, List.append_assoc, readString_escaped, ih (c :: read) left]
          simp

/-- The escapes of a character are not shorter than the character. -/
theorem length_le_flatMap_escaped (cs : List Char) : cs.length ≤ (cs.flatMap escaped).length := by
  induction cs with
  | nil => exact Nat.le_refl 0
  | cons c rest ih =>
      have one : 1 ≤ (escaped c).length := by
        unfold escaped
        repeat' split
        all_goals simp
      simp only [List.flatMap_cons, List.length_append, List.length_cons]
      omega

/-- A string reads back from its text after the opening quote. -/
theorem readString_writeString (s : String) (rest : List Char) :
    readString false [] ((s.toList.flatMap escaped ++ '"' :: rest).length + 1)
        (s.toList.flatMap escaped ++ '"' :: rest) = some (s, rest) := by
  have enough : s.toList.length < (s.toList.flatMap escaped ++ '"' :: rest).length + 1 := by
    have := length_le_flatMap_escaped s.toList
    simp only [List.length_append, List.length_cons]
    omega
  rw [readString_flatMap s.toList [] rest enough]
  simp

/-! ## Values -/

/-- What is measured in a list is no greater than the greatest in the list. -/
theorem le_greatest {α : Type} {measure : α → Nat} {greatest : List α → Nat}
    (greatest_cons : ∀ a rest, greatest (a :: rest) = max (measure a) (greatest rest)) {a : α}
    {items : List α} (mem : a ∈ items) : measure a ≤ greatest items := by
  induction mem with
  | head rest =>
      rw [greatest_cons]
      exact Nat.le_max_left _ _
  | tail b _ ih =>
      rw [greatest_cons]
      exact Nat.le_trans ih (Nat.le_max_right _ _)

theorem nesting_le_nestings {v : Json} {items : List Json} (mem : v ∈ items) :
    v.nesting ≤ nestings items :=
  le_greatest (fun _ _ => rfl) mem

theorem nesting_le_memberNestings {m : String × Json} {members : List (String × Json)}
    (mem : m ∈ members) : m.2.nesting ≤ memberNestings members :=
  @le_greatest _ (fun m => m.2.nesting) _ (fun _ _ => rfl) m members mem

theorem skipBlanks_cons {c : Char} (shown : isBlank c = false) (rest : List Char) :
    skipBlanks (c :: rest) = c :: rest := by
  simp [skipBlanks, shown]

/-- A text that starts with a character of a value. -/
def Opens (cs : List Char) : Prop :=
  ∃ c rest, cs = c :: rest ∧ isBlank c = false ∧ c ≠ ']'

theorem Opens.append {cs : List Char} (opens : Opens cs) (rest : List Char) :
    Opens (cs ++ rest) := by
  obtain ⟨c, more, rfl, shown, other⟩ := opens
  exact ⟨c, more ++ rest, rfl, shown, other⟩

/-- The first character of a number is a digit or a sign, with which no other value starts. -/
theorem number_start {c : Char} (start : c.isDigit = true ∨ c = '-') :
    isBlank c = false ∧ c ≠ ']' ∧ c ≠ 'n' ∧ c ≠ 't' ∧ c ≠ 'f' ∧ c ≠ '"' ∧ c ≠ '[' ∧ c ≠ '\x7b' := by
  rcases start with digit | rfl
  · refine ⟨?_, ?_, ?_, ?_, ?_, ?_, ?_, ?_⟩
    · have apart : ∀ d : Char, d.isDigit = false → (c == d) = false := by
        intro d none
        refine beq_eq_false_iff_ne.mpr ?_
        rintro rfl
        rw [digit] at none
        cases none
      simp [isBlank, apart ' ' rfl, apart '\n' rfl, apart '\t' rfl, apart '\r' rfl]
    all_goals
      rintro rfl
      exact absurd digit (by decide)
  · decide

/-- A value reads back from its text, with that much room and at least as much fuel as its text is
long. -/
def ReadsBack (room : Nat) (v : Json) : Prop :=
  ∀ (fuel : Nat) (rest : List Char), (write v).toList.length ≤ fuel → Ends rest →
    readValue false fuel room ((write v).toList ++ rest) = some (v, rest)

theorem readValue_number {c : Char} (start : c.isDigit = true ∨ c = '-') (fuel room : Nat)
    (rest : List Char) :
    readValue false (fuel + 1) room (c :: rest) = readNumber false (c :: rest) := by
  obtain ⟨shown, _, n, t, f, quote, bracket, brace⟩ := number_start start
  rw [readValue, skipBlanks_cons shown]
  simp

/-! ### Scalars -/

theorem toList_write_natural (n : Nat) : (write (.natural n)).toList = Nat.toDigits 10 n := by
  simp [write]

/-- The text of a negative number starts with the sign. -/
theorem toList_write_negative {n : Int} (below : n < 0) :
    (write (.negative n)).toList = '-' :: Nat.toDigits 10 n.natAbs := by
  rw [write, toList_toString_int, if_neg (Int.not_le.mpr below)]

theorem readsBack_of_scalar {v : Json} (scalar : v.isScalar = true) (exact : v.Exact)
    (room : Nat) : ReadsBack room v := by
  intro fuel rest enough ends
  cases fuel with
  | zero =>
      -- no text of a scalar is empty
      cases v with
      | null => simp [write] at enough
      | bool b => cases b <;> simp [write] at enough
      | natural n =>
          rw [toList_write_natural] at enough
          exact absurd enough (Nat.not_le_of_lt Nat.length_toDigits_pos)
      | negative n =>
          simp [toList_write_negative exact.1] at enough
      | real x => exact absurd exact id
      | string s => simp [write, toList_writeString] at enough
      | array items => cases scalar
      | object members => cases scalar
  | succ fuel =>
      cases v with
      | null => rfl
      | bool b => cases b <;> rfl
      | natural n =>
          obtain ⟨c, more, digits, digit⟩ := toDigits_cons n
          have number := readNumber_natural exact ends
          rw [toList_write_natural, digits, List.cons_append, readValue_number (.inl digit),
            ← List.cons_append, ← digits, number]
      | negative n =>
          have text := toList_write_negative exact.1
          have number := readNumber_negative exact.1 exact.2 ends
          have same : (toString n).toList = (write (.negative n)).toList := by simp [write]
          rw [text, List.cons_append, readValue_number (.inr rfl), ← List.cons_append, ← text,
            ← same, number]
      | real x => exact absurd exact id
      | string s =>
          have string := readString_writeString s rest
          have shown : isBlank '"' = false := rfl
          simp only [write, toList_writeString, List.cons_append, List.append_assoc,
            List.nil_append]
          rw [readValue, skipBlanks_cons shown]
          simp only [string, Option.map_some]
      | array items => cases scalar
      | object members => cases scalar

/-! ### Arrays and objects -/

theorem write_opens {v : Json} (built : Built Exact v) : Opens (write v).toList := by
  cases built with
  | scalar scalar exact =>
      cases v with
      | null => exact ⟨'n', _, rfl, rfl, by decide⟩
      | bool b =>
          cases b with
          | false => exact ⟨'f', _, rfl, rfl, by decide⟩
          | true => exact ⟨'t', _, rfl, rfl, by decide⟩
      | natural n =>
          obtain ⟨c, more, digits, digit⟩ := toDigits_cons n
          obtain ⟨shown, other, _⟩ := number_start (.inl digit)
          exact ⟨c, more, by rw [toList_write_natural, digits], shown, other⟩
      | negative n =>
          exact ⟨'-', _, toList_write_negative exact.1, rfl, by decide⟩
      | real x => exact absurd exact id
      | string s => exact ⟨'"', _, by rw [write, toList_writeString]; rfl, rfl, by decide⟩
      | array items => cases scalar
      | object members => cases scalar
  | array _ => exact ⟨'[', _, by simp [write]; rfl, rfl, by decide⟩
  | object _ => exact ⟨'\x7b', _, by simp [write]; rfl, rfl, by decide⟩

theorem toList_writeItems_cons_cons (v w : Json) (rest : List Json) :
    (writeItems (v :: w :: rest)).toList
      = (write v).toList ++ ',' :: (writeItems (w :: rest)).toList := by
  simp [writeItems]

theorem writeItems_opens {v : Json} (built : Built Exact v) (rest : List Json) :
    Opens (writeItems (v :: rest)).toList := by
  cases rest with
  | nil => exact write_opens built
  | cons w more =>
      rw [toList_writeItems_cons_cons]
      exact (write_opens built).append _

/-- The elements of an array read back from their texts up to the closing bracket. -/
theorem readItems_writeItems {room : Nat} (v : Json) (items : List Json)
    (back : ∀ w ∈ v :: items, ReadsBack room w) (fuel : Nat) (rest : List Char)
    (enough : (writeItems (v :: items)).toList.length < fuel) :
    readItems false fuel room ((writeItems (v :: items)).toList ++ ']' :: rest)
      = some (v :: items, rest) := by
  have bracket : isBlank ']' = false := rfl
  have comma : isBlank ',' = false := rfl
  induction items generalizing v fuel with
  | nil =>
      cases fuel with
      | zero => cases enough
      | succ fuel =>
          have value := back v (by simp) fuel (']' :: rest) (Nat.le_of_lt_succ enough)
            (Ends.cons (by simp))
          rw [writeItems, readItems, value]
          simp only [skipBlanks_cons bracket]
  | cons w more ih =>
      cases fuel with
      | zero => cases enough
      | succ fuel =>
          rw [toList_writeItems_cons_cons] at enough ⊢
          simp only [List.length_append, List.length_cons] at enough
          have value := back v (by simp) fuel
            (',' :: (writeItems (w :: more)).toList ++ ']' :: rest) (by omega) (Ends.cons (by simp))
          have others := ih w (fun u mem => back u (List.mem_cons_of_mem v mem)) fuel (by omega)
          rw [List.append_assoc, readItems, value]
          simp only [List.cons_append, skipBlanks_cons comma, others, Option.map_some]

theorem readsBack_array {items : List Json} {room : Nat} (fits : 1 < room)
    (built : ∀ v ∈ items, Built Exact v) (back : ∀ v ∈ items, ReadsBack (room - 1) v) :
    ReadsBack room (.array items) := by
  intro fuel rest enough ends
  have opening : isBlank '[' = false := rfl
  have closing : isBlank ']' = false := rfl
  have roomy : ¬ room ≤ 1 := by omega
  cases items with
  | nil =>
      cases fuel with
      | zero => simp [write] at enough
      | succ fuel =>
          have text : (write (.array [])).toList = ['[', ']'] := rfl
          rw [text, List.cons_append, readValue, skipBlanks_cons opening]
          simp [roomy, skipBlanks_cons closing]
  | cons v more =>
      have text : (write (.array (v :: more))).toList
          = '[' :: (writeItems (v :: more)).toList ++ [']'] := by
        simp [write]
      rw [text] at enough ⊢
      simp only [List.length_append, List.length_cons, List.length_nil] at enough
      cases fuel with
      | zero => omega
      | succ fuel =>
          have items := readItems_writeItems v more back fuel rest (by omega)
          obtain ⟨c, others, start, shown, other⟩ :=
            (writeItems_opens (built v (by simp)) more).append (']' :: rest)
          rw [List.append_assoc, List.singleton_append, List.cons_append, readValue,
            skipBlanks_cons opening]
          simp only [Bool.not_false, Bool.true_and, decide_eq_true_eq, roomy, if_false]
          rw [start] at items ⊢
          rw [skipBlanks_cons shown]
          split
          · next shape =>
              cases shape
              exact absurd rfl other
          · rw [items]
            rfl

theorem toList_writeMembers_cons_cons (m n : String × Json) (rest : List (String × Json)) :
    (writeMembers (m :: n :: rest)).toList
      = (writeString m.1).toList ++ ':' :: (write m.2).toList ++
        ',' :: (writeMembers (n :: rest)).toList := by
  obtain ⟨name, v⟩ := m
  simp [writeMembers]

theorem toList_writeMembers_singleton (m : String × Json) :
    (writeMembers [m]).toList = (writeString m.1).toList ++ ':' :: (write m.2).toList := by
  obtain ⟨name, v⟩ := m
  simp [writeMembers]

/-- The texts of members start with the quote of the first name. -/
theorem writeMembers_start (m : String × Json) (rest : List (String × Json)) :
    ∃ more, (writeMembers (m :: rest)).toList = '"' :: more := by
  cases rest with
  | nil => exact ⟨_, by rw [toList_writeMembers_singleton, toList_writeString]; rfl⟩
  | cons n rest => exact ⟨_, by rw [toList_writeMembers_cons_cons, toList_writeString]; rfl⟩

/-- One member reads back from its text; it is the last one before a closing brace, and reading goes
on after a comma. -/
theorem readMembers_writeMember {wanted : String → Bool} {m : String × Json} {room : Nat}
    (use : wanted m.1 = true) (back : ReadsBack room m.2) (fuel : Nat) (rest : List Char)
    (ends : Ends rest) (enough : (write m.2).toList.length ≤ fuel) :
    (∀ more, skipBlanks rest = '\x7d' :: more →
      readMembers false wanted (fuel + 1) room
        ((writeString m.1).toList ++ ':' :: (write m.2).toList ++ rest) = some ([m], more)) ∧
    ∀ more, skipBlanks rest = ',' :: more →
      readMembers false wanted (fuel + 1) room
        ((writeString m.1).toList ++ ':' :: (write m.2).toList ++ rest) =
          (readMembers false wanted fuel room more).map fun (ms, rest) => (m :: ms, rest) := by
  have quote : isBlank '"' = false := rfl
  have colon : isBlank ':' = false := rfl
  have name := readString_writeString m.1 (':' :: (write m.2).toList ++ rest)
  have value := back fuel rest enough ends
  simp only [List.cons_append] at name
  simp only [toList_writeString, List.cons_append, List.append_assoc, List.nil_append]
  rw [readMembers, skipBlanks_cons quote]
  simp only [name, skipBlanks_cons colon, use, Bool.not_true, Bool.or_false, value, if_true]
  constructor
  · intro more closing
    simp only [closing]
  · intro more comma
    simp only [comma, List.cons_append, List.nil_append]

/-- The members of an object read back from their texts up to the closing brace, where all of them
are wanted. -/
theorem readMembers_writeMembers {wanted : String → Bool} {room : Nat} (m : String × Json)
    (members : List (String × Json)) (use : ∀ n ∈ m :: members, wanted n.1 = true)
    (back : ∀ n ∈ m :: members, ReadsBack room n.2) (fuel : Nat) (rest : List Char)
    (enough : (writeMembers (m :: members)).toList.length < fuel) :
    readMembers false wanted fuel room ((writeMembers (m :: members)).toList ++ '\x7d' :: rest)
      = some (m :: members, rest) := by
  have brace : isBlank '\x7d' = false := rfl
  have comma : isBlank ',' = false := rfl
  induction members generalizing m fuel with
  | nil =>
      cases fuel with
      | zero => cases enough
      | succ fuel =>
          rw [toList_writeMembers_singleton] at enough ⊢
          simp only [List.length_append, List.length_cons] at enough
          have one := readMembers_writeMember (use m (by simp)) (back m (by simp)) fuel
            ('\x7d' :: rest) (Ends.cons (by simp)) (by omega)
          exact one.1 rest (skipBlanks_cons brace rest)
  | cons n more ih =>
      cases fuel with
      | zero => cases enough
      | succ fuel =>
          rw [toList_writeMembers_cons_cons] at enough ⊢
          simp only [List.length_append, List.length_cons] at enough
          have one := readMembers_writeMember (use m (by simp)) (back m (by simp)) fuel
            (',' :: ((writeMembers (n :: more)).toList ++ '\x7d' :: rest))
            (Ends.cons (by simp)) (by omega)
          have others := ih n (fun u mem => use u (List.mem_cons_of_mem m mem))
            (fun u mem => back u (List.mem_cons_of_mem m mem)) fuel (by omega)
          rw [List.append_assoc _ (',' :: _), List.cons_append, one.2 _ (skipBlanks_cons comma _),
            others]
          rfl

/-- What follows the opening brace of an object that reads back. -/
theorem readMembers_of_braces (wanted : String → Bool) {room : Nat}
    (members : List (String × Json)) (use : ∀ n ∈ members, wanted n.1 = true)
    (back : ∀ n ∈ members, ReadsBack room n.2) (fuel : Nat) (rest : List Char)
    (enough : (writeMembers members).toList.length < fuel) :
    (match skipBlanks ((writeMembers members).toList ++ '\x7d' :: rest) with
      | '\x7d' :: rest => some (Json.object [], rest)
      | rest => (readMembers false wanted fuel room rest).map fun (ms, rest) => (.object ms, rest))
      = some (.object members, rest) := by
  cases members with
  | nil =>
      have brace : isBlank '\x7d' = false := rfl
      have text : (writeMembers []).toList = [] := rfl
      rw [text, List.nil_append, skipBlanks_cons brace]
      rfl
  | cons m more =>
      have quote : isBlank '"' = false := rfl
      have members := readMembers_writeMembers m more use back fuel rest enough
      obtain ⟨others, start⟩ := writeMembers_start m more
      rw [start, List.cons_append] at members ⊢
      rw [skipBlanks_cons quote]
      exact congrArg (Option.map fun read => (Json.object read.1, read.2)) members

theorem toList_write_object (members : List (String × Json)) :
    (write (.object members)).toList = '\x7b' :: (writeMembers members).toList ++ ['\x7d'] := by
  simp [write]

theorem readsBack_object {members : List (String × Json)} {room : Nat} (fits : 1 < room)
    (back : ∀ m ∈ members, ReadsBack (room - 1) m.2) : ReadsBack room (.object members) := by
  intro fuel rest enough ends
  have opening : isBlank '\x7b' = false := rfl
  have roomy : ¬ room ≤ 1 := by omega
  rw [toList_write_object] at enough ⊢
  simp only [List.length_append, List.length_cons, List.length_nil] at enough
  cases fuel with
  | zero => omega
  | succ fuel =>
      have inside := readMembers_of_braces (fun _ => true) members (fun _ _ => rfl) back fuel rest
        (by omega)
      rw [List.append_assoc, List.singleton_append, List.cons_append, readValue,
        skipBlanks_cons opening]
      simp only [Bool.not_false, Bool.true_and, decide_eq_true_eq, roomy, if_false]
      exact inside

/-- A value whose arrays and objects fit into the room reads back from its text. -/
theorem readsBack_of_built {v : Json} (built : Built Exact v) {room : Nat}
    (fits : v.nesting < room) : ReadsBack room v := by
  induction built generalizing room with
  | scalar scalar exact => exact readsBack_of_scalar scalar exact room
  | @array items built ih =>
      simp only [nesting] at fits
      apply readsBack_array (by omega) built
      intro v mem
      have := nesting_le_nestings mem
      exact ih v mem (by omega)
  | @object members built ih =>
      simp only [nesting] at fits
      apply readsBack_object (by omega)
      intro m mem
      have := nesting_le_memberNestings mem
      exact ih m mem (by omega)

/-- A document that is an object of wanted members reads back from its text. -/
theorem readDocument_write {wanted : String → Bool} {members : List (String × Json)}
    (use : ∀ m ∈ members, wanted m.1 = true) (built : Built Exact (.object members))
    (fits : (Json.object members).nesting < nestLimit) :
    readDocument wanted (write (.object members)) = some (.object members) := by
  have opening : isBlank '\x7b' = false := rfl
  have back : ∀ m ∈ members, ReadsBack (nestLimit - 1) m.2 := by
    intro m mem
    cases built with
    | scalar scalar _ => cases scalar
    | object built =>
        have := nesting_le_memberNestings mem
        simp only [nesting] at fits
        exact readsBack_of_built (built m mem) (by omega)
  have enough : (writeMembers members).toList.length
      < (write (.object members)).toList.length + 1 := by
    rw [toList_write_object]
    simp only [List.length_append, List.length_cons, List.length_nil]
    omega
  have inside := readMembers_of_braces wanted members use back _ [] enough
  rw [toList_write_object] at inside
  rw [readDocument, toList_write_object, List.cons_append, skipBlanks_cons opening]
  exact congrArg (fun read : Option (Json × List Char) =>
    match read with
    | some (v, rest) => if (skipBlanks rest).isEmpty then some v else none
    | none => none) inside

/-! ## What is read -/

theorem numberOf_sized {lenient minus : Bool} {whole : List Char} {fraction : Option (List Char)}
    {exponent : Option Int} {v : Json}
    (h : numberOf lenient minus whole fraction exponent = some v) : Built Sized v := by
  unfold numberOf at h
  simp only at h
  split at h
  · next fits =>
      cases h
      simp only [Bool.and_eq_true, decide_eq_true_eq] at fits
      exact .scalar rfl fits.2
  · split at h
    · cases h
      exact .scalar rfl trivial
    · split at h
      · cases h
        exact .scalar rfl trivial
      · split at h
        · cases h
          exact .scalar rfl trivial
        · cases h

theorem readNumber_sized {lenient : Bool} {cs rest : List Char} {v : Json}
    (h : readNumber lenient cs = some (v, rest)) : Built Sized v := by
  unfold readNumber at h
  simp only [Option.bind_eq_bind, Option.bind_eq_some_iff] at h
  obtain ⟨⟨whole, afterWhole⟩, _, h⟩ := h
  simp only at h
  split at h
  · cases h
  · simp only [Option.bind_eq_some_iff] at h
    obtain ⟨⟨fraction, afterFraction⟩, _, ⟨exponent, afterExponent⟩, _, n, number, last⟩ := h
    cases last
    exact numberOf_sized number

/-- What is read with that much fuel has no natural numbers that are too great. -/
structure ReadsSized (fuel : Nat) : Prop where
  value : ∀ {lenient : Bool} {room : Nat} {cs rest : List Char} {v : Json},
    readValue lenient fuel room cs = some (v, rest) → Built Sized v
  items : ∀ {lenient : Bool} {room : Nat} {cs rest : List Char} {items : List Json},
    readItems lenient fuel room cs = some (items, rest) → ∀ v ∈ items, Built Sized v
  members : ∀ {lenient : Bool} {wanted : String → Bool} {room : Nat} {cs rest : List Char}
    {members : List (String × Json)},
      readMembers lenient wanted fuel room cs = some (members, rest) →
        ∀ m ∈ members, Built Sized m.2

theorem readValue_sized_succ {fuel : Nat} (below : ReadsSized fuel) {lenient : Bool} {room : Nat}
    {cs rest : List Char} {v : Json} (h : readValue lenient (fuel + 1) room cs = some (v, rest)) :
    Built Sized v := by
  rw [readValue] at h
  split at h
  · cases h
  · split at h
    · obtain ⟨_, _, last⟩ := Option.map_eq_some_iff.mp h
      cases last
      exact .scalar rfl trivial
    · obtain ⟨_, _, last⟩ := Option.map_eq_some_iff.mp h
      cases last
      exact .scalar rfl trivial
    · obtain ⟨_, _, last⟩ := Option.map_eq_some_iff.mp h
      cases last
      exact .scalar rfl trivial
    · obtain ⟨⟨s, more⟩, _, last⟩ := Option.map_eq_some_iff.mp h
      cases last
      exact .scalar rfl trivial
    · split at h
      · cases h
      · split at h
        · cases h
          exact .array (by simp)
        · obtain ⟨⟨items, more⟩, read, last⟩ := Option.map_eq_some_iff.mp h
          cases last
          exact .array (below.items read)
    · split at h
      · cases h
      · split at h
        · cases h
          exact .object (by simp)
        · obtain ⟨⟨members, more⟩, read, last⟩ := Option.map_eq_some_iff.mp h
          cases last
          exact .object (below.members read)
    · exact readNumber_sized h

theorem readItems_sized_succ {fuel : Nat} (below : ReadsSized fuel) {lenient : Bool} {room : Nat}
    {cs rest : List Char} {items : List Json}
    (h : readItems lenient (fuel + 1) room cs = some (items, rest)) :
    ∀ v ∈ items, Built Sized v := by
  rw [readItems] at h
  split at h
  · cases h
  · next item _ value =>
      have first : Built Sized item := below.value value
      split at h
      · cases h
        intro v mem
        rw [List.mem_singleton] at mem
        exact mem ▸ first
      · obtain ⟨⟨others, more⟩, read, last⟩ := Option.map_eq_some_iff.mp h
        cases last
        intro v mem
        rcases List.mem_cons.mp mem with rfl | later
        · exact first
        · exact below.items read v later
      · cases h

theorem readMembers_sized_succ {fuel : Nat} (below : ReadsSized fuel) {lenient : Bool}
    {wanted : String → Bool} {room : Nat} {cs rest : List Char} {members : List (String × Json)}
    (h : readMembers lenient wanted (fuel + 1) room cs = some (members, rest)) :
    ∀ m ∈ members, Built Sized m.2 := by
  rw [readMembers] at h
  split at h
  · split at h
    · cases h
    · next name _ _ =>
        split at h
        · split at h
          · cases h
          · next v _ value =>
              have first : ∀ m ∈ if wanted name then [(name, v)] else [], Built Sized m.2 := by
                intro m mem
                split at mem
                · rw [List.mem_singleton] at mem
                  exact mem ▸ below.value value
                · cases mem
              simp only at h
              split at h
              · cases h
                exact first
              · obtain ⟨⟨others, more⟩, read, last⟩ := Option.map_eq_some_iff.mp h
                cases last
                intro m mem
                rcases List.mem_append.mp mem with now | later
                · exact first m now
                · exact below.members read m later
              · cases h
        · cases h
  · cases h

theorem readsSized (fuel : Nat) : ReadsSized fuel := by
  induction fuel with
  | zero =>
      constructor <;>
      · intros
        simp_all [readValue, readItems, readMembers]
  | succ fuel ih =>
      exact ⟨readValue_sized_succ ih, readItems_sized_succ ih, readMembers_sized_succ ih⟩

theorem readDocument_sized {wanted : String → Bool} {text : String} {v : Json}
    (h : readDocument wanted text = some v) : Built Sized v := by
  unfold readDocument at h
  simp only at h
  split at h
  · next w rest read =>
      split at h
      · cases h
        split at read
        · split at read
          · cases read
            exact .object (by simp)
          · obtain ⟨⟨members, more⟩, inside, last⟩ := Option.map_eq_some_iff.mp read
            cases last
            exact .object ((readsSized _).members inside)
        · exact (readsSized _).value read
      · cases h
  · cases h

end PhiCalculus.Json
