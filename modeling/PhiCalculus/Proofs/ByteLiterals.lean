import PhiCalculus.Proofs.IntegerLiterals

/-!
# Literals of bytes

Bytes are written in groups with separators before, between and after them, dashes and blanks.  The
groups of a text are a relation of their own (`Value.Groups`), and reading gives one byte for each
of them, in order (`Value.bytes_are_read`).

A group should be a pair of hexadecimal digits, and every text of such pairs is read.  But the
groups are read as numbers, so one digit alone, more than two of them and a plus sign in front pass
as well, as long as the number is that of a byte (`Value.signed_digit_is_a_byte`).
-/

set_option autoImplicit false

namespace PhiCalculus.Value

variable {text core group part gap rest : List Char} {groups groups' : List (List Char)} {c : Char}
  {b : UInt8} {bs : List UInt8} {v : Value}

/-! ## Groups -/

/-- What stands between separators: one or more characters, and no separator among them. -/
def IsGroup (group : List Char) : Prop :=
  group ≠ [] ∧ ∀ c ∈ group, isByteSeparator c = false

/-- The groups of a text: the groups with the separators around them make up the text, and two
groups always have a separator between them. -/
inductive Groups : List Char → List (List Char) → Prop where
  | nil : Groups [] []
  | skip {c : Char} {rest : List Char} {groups : List (List Char)} :
      isByteSeparator c = true → Groups rest groups → Groups (c :: rest) groups
  | last {group : List Char} : IsGroup group → Groups group [group]
  | cons {c : Char} {group rest : List Char} {groups : List (List Char)} : IsGroup group →
      isByteSeparator c = true → Groups rest groups →
      Groups (group ++ c :: rest) (group :: groups)

theorem byteParts_separator (separator : isByteSeparator c = true) (within : part ≠ []) :
    byteParts part (c :: rest) = part.reverse :: byteParts [] rest := by
  rw [byteParts, if_pos separator, if_neg]
  simpa using within

theorem byteParts_skip (separator : isByteSeparator c = true) :
    byteParts [] (c :: rest) = byteParts [] rest := by
  rw [byteParts, if_pos separator]
  rfl

/-- Reading a group adds it to the part that is being read. -/
theorem byteParts_append (inside : ∀ c ∈ group, isByteSeparator c = false) :
    byteParts part (group ++ rest) = byteParts (group.reverse ++ part) rest := by
  induction group generalizing part with
  | nil => rfl
  | cons c group ih =>
      have first : isByteSeparator c = false := inside c List.mem_cons_self
      rw [List.cons_append, byteParts, first]
      refine (ih fun c there => inside c (List.mem_cons_of_mem _ there)).trans ?_
      rw [List.reverse_cons, List.append_assoc]
      rfl

theorem byteParts_group (is : IsGroup group) :
    byteParts [] (group ++ rest) = byteParts group.reverse rest := by
  rw [byteParts_append is.2, List.append_nil]

theorem Groups.byteParts_eq (split : Groups text groups) : byteParts [] text = groups := by
  induction split with
  | nil => rfl
  | skip separator _ ih => rw [byteParts_skip separator, ih]
  | @last group is =>
      rw [← List.append_nil group, byteParts_group is, byteParts, List.append_nil,
        List.reverse_reverse, if_neg]
      simpa using is.1
  | cons is separator _ ih =>
      rw [byteParts_group is, byteParts_separator separator, List.reverse_reverse, ih]
      simpa using is.1

/-- The parts are the groups, the part that is being read among them. -/
theorem groups_byteParts (inside : ∀ c ∈ part, isByteSeparator c = false) :
    Groups (part.reverse ++ text) (byteParts part text) := by
  induction text generalizing part with
  | nil =>
      rw [List.append_nil, byteParts]
      split
      · next none =>
        obtain rfl : part = [] := by simpa using none
        exact .nil
      · next some => exact .last ⟨by simpa using some, by simpa using inside⟩
  | cons c rest ih =>
      rw [byteParts]
      split
      · next separator =>
        have others : Groups rest (byteParts [] rest) := @ih [] (by simp)
        split
        · next none =>
          obtain rfl : part = [] := by simpa using none
          exact .skip separator others
        · next some => exact .cons ⟨by simpa using some, by simpa using inside⟩ separator others
      · next inner =>
        have within : ∀ d ∈ c :: part, isByteSeparator d = false := by simpa [inner] using inside
        simpa using ih within

/-- **The parts of a text are its groups.** -/
theorem byteParts_eq_iff : byteParts [] text = groups ↔ Groups text groups := by
  constructor
  · rintro rfl
    exact @groups_byteParts text [] (by simp)
  · exact Groups.byteParts_eq

/-- Separators in front of a text do not change its parts, -/
theorem byteParts_leading (separators : ∀ c ∈ gap, isByteSeparator c = true) :
    byteParts [] (gap ++ rest) = byteParts [] rest := by
  induction gap with
  | nil => rfl
  | cons c gap ih =>
      rw [List.cons_append, byteParts_skip (separators c List.mem_cons_self)]
      exact ih fun c there => separators c (List.mem_cons_of_mem _ there)

/-- and neither do separators after it. -/
theorem byteParts_trailing (separators : ∀ c ∈ gap, isByteSeparator c = true) :
    byteParts part (text ++ gap) = byteParts part text := by
  have none : byteParts [] gap = [] := by
    rw [← List.append_nil gap, byteParts_leading separators]
    rfl
  induction text generalizing part with
  | nil =>
      cases gap with
      | nil => rfl
      | cons c gap =>
          have separator := separators c List.mem_cons_self
          rcases eq_or_ne part [] with rfl | within
          · exact none
          · rw [byteParts_skip separator] at none
            rw [List.nil_append, byteParts_separator separator within, none, byteParts, if_neg]
            simpa using within
  | cons c text ih => simp only [List.cons_append, byteParts, ih]

/-- Blanks around a text are separators, so they do not change its groups. -/
theorem byteParts_surrounds (around : Text.Surrounds text core) :
    byteParts [] text = byteParts [] core := by
  obtain ⟨before, after, rfl, blank⟩ := around
  have separators : ∀ c ∈ before ++ after, isByteSeparator c = true := by
    intro c there
    simp [isByteSeparator, blank c there]
  rw [List.append_assoc,
    byteParts_leading fun c there => separators c (List.mem_append_left after there),
    byteParts_trailing fun c there => separators c (List.mem_append_right before there)]

/-! ## Bytes -/

/-- The group is read as the byte: a hexadecimal numeral for its number, after an optional plus
sign. -/
def ReadsByte (group : List Char) (b : UInt8) : Prop :=
  ∃ digits, (group = digits ∨ group = '+' :: digits) ∧ Number.Numeral 16 digits b.toNat

/-- The group is the pair of hexadecimal digits for the byte. -/
def IsPair (group : List Char) (b : UInt8) : Prop :=
  ∃ first second high low, group = [first, second] ∧ Number.IsDigit 16 first high ∧
    Number.IsDigit 16 second low ∧ b.toNat = 16 * high + low

theorem readByte_eq_ok : readByte group = .ok b ↔ ReadsByte group b := by
  have byte : b.toNat ≤ 255 := by
    have bound := b.toNat_lt
    omega
  rw [readByte]
  cases read : Number.readUnsigned 16 255 group with
  | error fault =>
      refine ⟨nofun, fun reads => ?_⟩
      cases read.symm.trans ((Number.readUnsigned_eq_ok (by decide)).mpr ⟨byte, reads⟩)
  | ok n =>
      obtain ⟨within, digits, shape, numeral⟩ :=
        (Number.readUnsigned_eq_ok (by decide)).mp read
      have back : (UInt8.ofNat n).toNat = n := UInt8.toNat_ofNat_of_lt' (Nat.lt_succ_of_le within)
      constructor
      · rintro ⟨⟩
        exact ⟨digits, shape, back.symm ▸ numeral⟩
      · intro reads
        have other := (Number.readUnsigned_eq_ok (by decide)).mpr ⟨byte, reads⟩
        have same : n = b.toNat := Except.ok.inj (read.symm.trans other)
        simp [same]

/-- What has been read is the only thing that can be. -/
theorem reads_iff_eq {α : Type} {read : Except LiteralFault α} {Reads : α → Prop} {a a' : α}
    (eq_ok : ∀ {a}, read = .ok a ↔ Reads a) (is : read = .ok a) : Reads a' ↔ a' = a := by
  rw [← eq_ok, is, Except.ok.injEq]
  exact eq_comm

theorem readBytes_eq_ok : readBytes groups = .ok bs ↔ List.Forall₂ ReadsByte groups bs := by
  induction groups generalizing bs with
  | nil =>
      rw [readBytes, List.forall₂_nil_left_iff, Except.ok.injEq]
      exact eq_comm
  | cons group groups ih =>
      rw [readBytes, List.forall₂_cons_left_iff]
      cases first : readByte group with
      | error fault =>
          refine ⟨nofun, ?_⟩
          rintro ⟨b, bs, reads, -, -⟩
          cases first.symm.trans (readByte_eq_ok.mpr reads)
      | ok b =>
          have one (b' : UInt8) : ReadsByte group b' ↔ b' = b := reads_iff_eq readByte_eq_ok first
          dsimp only
          cases others : readBytes groups with
          | error fault =>
              refine ⟨nofun, ?_⟩
              rintro ⟨_, bs', _, more, -⟩
              cases others.symm.trans (ih.mpr more)
          | ok bs' =>
              have rest (bs'' : List UInt8) : List.Forall₂ ReadsByte groups bs'' ↔ bs'' = bs' :=
                reads_iff_eq ih others
              simp [one, rest, eq_comm]

/-- The pairs of digits are the groups of two characters without a sign that are read. -/
theorem isPair_iff : IsPair group b ↔ (group.length = 2 ∧ '+' ∉ group) ∧ ReadsByte group b := by
  constructor
  · rintro ⟨first, second, high, low, rfl, digit, digit', value⟩
    have numeral := (Number.Numeral.single digit).snoc digit'
    rw [← value] at numeral
    exact ⟨⟨rfl, numeral.plain.1⟩, _, .inl rfl, numeral⟩
  · rintro ⟨⟨two, plain⟩, digits, rfl | rfl, numeral⟩
    · obtain ⟨first, second, rfl⟩ := List.length_eq_two.mp two
      obtain ⟨-, ds, digits, value⟩ := numeral
      obtain _ | @⟨_, high, _, _, digit, _ | @⟨_, low, _, _, digit', _ | _⟩⟩ := digits
      refine ⟨first, second, high, low, rfl, digit, digit', ?_⟩
      rw [value]
      simp [Nat.ofDigits]
      omega
    · exact absurd List.mem_cons_self plain

theorem forall_isPair_iff : List.Forall₂ IsPair groups bs ↔
    (∀ group ∈ groups, group.length = 2 ∧ '+' ∉ group) ∧ List.Forall₂ ReadsByte groups bs := by
  rw [← List.forall₂_and_left]
  simp only [← isPair_iff]

/-- What a text is read as that has these groups. -/
theorem parse_bytes_of_groups {text : String} (split : Groups text.toList groups) :
    parse .bytes text = .ok v ↔ ∃ bs, v = .bytes bs ∧ List.Forall₂ ReadsByte groups bs := by
  have parts : byteParts [] (Text.trim text.toList) = groups := by
    rw [← byteParts_surrounds (Text.surrounds_trim text.toList), split.byteParts_eq]
  rw [parse, parts]
  cases read : readBytes groups with
  | error fault =>
      constructor
      · rintro ⟨⟩
      · rintro ⟨bs, -, reads⟩
        cases read.symm.trans (readBytes_eq_ok.mpr reads)
  | ok bs =>
      have one (bs' : List UInt8) : List.Forall₂ ReadsByte groups bs' ↔ bs' = bs :=
        reads_iff_eq readBytes_eq_ok read
      simp [one, Except.map, eq_comm]

/-- **A text of groups that are each read as a byte gives these bytes, and no other text is read.**
So only pairs of digits are read just if a text that is read has no group of another length and none
with a sign. -/
theorem bytes_are_read (text : String) :
    (∀ v, parse .bytes text = .ok v ↔ ∃ groups bs, v = .bytes bs ∧
      Groups text.toList groups ∧ List.Forall₂ ReadsByte groups bs) ∧
    ∀ groups : List (List Char), Groups text.toList groups →
      ((∀ v, parse .bytes text = .ok v ↔ ∃ bs, v = .bytes bs ∧ List.Forall₂ IsPair groups bs) ↔
        ((∃ bs, List.Forall₂ ReadsByte groups bs) →
          ∀ group ∈ groups, group.length = 2 ∧ '+' ∉ group)) := by
  constructor
  · intro v
    have split := byteParts_eq_iff.mp (rfl : byteParts [] text.toList = _)
    rw [parse_bytes_of_groups split]
    constructor
    · rintro ⟨bs, rfl, reads⟩
      exact ⟨_, bs, rfl, split, reads⟩
    · rintro ⟨groups, bs, rfl, split', reads⟩
      rw [← split'.byteParts_eq] at reads
      exact ⟨bs, rfl, reads⟩
  · intro groups split
    constructor
    · rintro pairs ⟨bs, reads⟩
      have read := (parse_bytes_of_groups split).mpr ⟨bs, rfl, reads⟩
      obtain ⟨_, _, paired⟩ := (pairs _).mp read
      exact (forall_isPair_iff.mp paired).1
    · intro two v
      rw [parse_bytes_of_groups split]
      constructor
      · rintro ⟨bs, rfl, reads⟩
        exact ⟨bs, rfl, forall_isPair_iff.mpr ⟨two ⟨bs, reads⟩, reads⟩⟩
      · rintro ⟨bs, rfl, paired⟩
        exact ⟨bs, rfl, (forall_isPair_iff.mp paired).2⟩

/-- Three pairs, with dashes and blanks before, between and after them. -/
theorem three_pairs_are_read : parse .bytes "--Ca -FE\t0a " = .ok (.bytes [0xCA, 0xFE, 0x0A]) := by
  have split : Groups "--Ca -FE\t0a ".toList [['C', 'a'], ['F', 'E'], ['0', 'a']] :=
    byteParts_eq_iff.mp (by decide)
  have pairs := ((bytes_are_read _).2 _ split).mpr fun _ => by decide
  refine (pairs _).mpr ⟨_, rfl, ?_⟩
  refine .cons ⟨_, _, 12, 10, rfl, ?_⟩ (.cons ⟨_, _, 15, 14, rfl, ?_⟩
    (.cons ⟨_, _, 0, 10, rfl, ?_⟩ .nil))
  all_goals decide

/-- A sign and a single digit are no pair, and they are read as a byte. -/
theorem signed_digit_is_a_byte : ¬ ∀ text v, parse .bytes text = .ok v ↔ ∃ groups bs,
    v = .bytes bs ∧ Groups (Text.trim text.toList) groups ∧ List.Forall₂ IsPair groups bs := by
  intro documented
  have read : parse .bytes "+F" = .ok (.bytes [0x0F]) := rfl
  obtain ⟨groups, bs, -, split, pairs⟩ := (documented "+F" _).mp read
  have one : byteParts [] (Text.trim "+F".toList) = [['+', 'F']] := by decide
  obtain rfl := one.symm.trans split.byteParts_eq
  exact absurd ((forall_isPair_iff.mp pairs).1 _ List.mem_cons_self).2 (by decide)

end PhiCalculus.Value
