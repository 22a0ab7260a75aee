import Mathlib.Data.List.Chain
import Mathlib.Order.Basic
import Mathlib.Tactic.SplitIfs
import PhiCalculus.Proofs.Decimals
import PhiCalculus.Value

/-!
# Line breaks in values

A number, a truth value and bytes are written in letters, digits and signs.  Between quotes a line
feed and a carriage return are written as escapes, and all other line breaks belong to the
characters that are written by number (`Text.unshown_of_endsLine`), so strings and characters stand
on one line, too.  Only two kinds of values may have a term that does not: a pattern is shown as it
was written, and an array shows its elements (`Value.mem_termOf`).
-/

set_option autoImplicit false

namespace PhiCalculus

/-! ## Line breaks -/

namespace Text

/-- The characters that end a line: line feed, vertical tab, form feed, carriage return, next line,
line separator and paragraph separator. -/
def endsLine (c : Char) : Bool :=
  (0x0A ≤ c.toNat && c.toNat ≤ 0x0D) || c.toNat == 0x85 || c.toNat == 0x2028 || c.toNat == 0x2029

/-- The text stands on one line. -/
def Unbroken (cs : List Char) : Prop := ∀ c ∈ cs, endsLine c = false

instance (cs : List Char) : Decidable (Unbroken cs) :=
  List.decidableBAll (fun c => endsLine c = false) cs

variable {cs ds : List Char} {c : Char}

@[simp] theorem unbroken_nil : Unbroken [] := nofun

@[simp] theorem unbroken_cons : Unbroken (c :: cs) ↔ endsLine c = false ∧ Unbroken cs :=
  List.forall_mem_cons

@[simp] theorem unbroken_append : Unbroken (cs ++ ds) ↔ Unbroken cs ∧ Unbroken ds :=
  List.forall_mem_append

theorem Unbroken.subset (unbroken : Unbroken cs) (part : ds ⊆ cs) : Unbroken ds :=
  fun c there => unbroken c (part there)

theorem unbroken_replicate (n : Nat) (plain : endsLine c = false) :
    Unbroken (List.replicate n c) := by
  intro d there
  rw [List.eq_of_mem_replicate there]
  exact plain

theorem Unbroken.not_mem (unbroken : Unbroken cs) (ends : endsLine c = true) : c ∉ cs :=
  fun there => Bool.false_ne_true ((unbroken c there).symm.trans ends)

/-! ## Numbers -/

theorem endsLine_digitChar (d : Nat) : endsLine d.digitChar = false := by
  have digits : ∀ d < 16, endsLine d.digitChar = false := by decide
  by_cases digit : d < 16
  · exact digits d digit
  · have other : d.digitChar = '*' := by
      unfold Nat.digitChar
      repeat rw [if_neg (by omega)]
    rw [other]
    rfl

theorem unbroken_toDigitsCore (base fuel n : Nat) (rest : Unbroken cs) :
    Unbroken (Nat.toDigitsCore base fuel n cs) := by
  induction fuel generalizing n cs with
  | zero => exact rest
  | succ fuel ih =>
      have more := unbroken_cons.mpr ⟨endsLine_digitChar (n % base), rest⟩
      rw [Nat.toDigitsCore]
      split
      · exact more
      · exact ih _ more

theorem unbroken_toDigits (base n : Nat) : Unbroken (Nat.toDigits base n) :=
  unbroken_toDigitsCore base _ n unbroken_nil

theorem unbroken_int (n : Int) : Unbroken (toString n).toList := by
  rw [toList_toString_int]
  split
  · exact unbroken_toDigits 10 _
  · exact unbroken_cons.mpr ⟨rfl, unbroken_toDigits 10 _⟩

theorem unbroken_dropZeros (unbroken : Unbroken cs) : Unbroken (Number.dropZeros cs) := by
  refine unbroken.subset fun c there => ?_
  have kept := (List.dropWhile_sublist _).subset (List.mem_reverse.mp there)
  exact List.mem_reverse.mp kept

theorem unbroken_shortest (b : Number.Binary) : Unbroken (Number.shortest b).digits :=
  unbroken_dropZeros (unbroken_toDigits 10 _)

theorem unbroken_positional {d : Number.Decimal} (digits : Unbroken d.digits) :
    Unbroken (Number.positional d) := by
  have zeros (n : Nat) : Unbroken (List.replicate n '0') := unbroken_replicate n rfl
  rw [Number.positional]
  dsimp only
  split
  · simp [zeros, digits, endsLine]
  · split
    · simp [zeros, digits, endsLine]
    · have whole := digits.subset (List.take_subset d.point.toNat _)
      have fraction := digits.subset (List.drop_subset d.point.toNat _)
      simp [whole, fraction, endsLine]

theorem unbroken_scientific {d : Number.Decimal} (digits : Unbroken d.digits) :
    Unbroken (Number.scientific d) := by
  have first := digits.subset (List.take_subset 1 _)
  have rest := digits.subset (List.drop_subset 1 _)
  have exponent := unbroken_int (d.point - 1)
  have mark : Unbroken ['e'] := by decide
  rw [Number.scientific]
  refine unbroken_append.mpr ⟨unbroken_append.mpr ⟨unbroken_append.mpr ⟨first, ?_⟩, mark⟩, exponent⟩
  split
  · exact unbroken_nil
  · exact unbroken_cons.mpr ⟨rfl, rest⟩

theorem unbroken_writeReal (x : Float) : Unbroken (Number.writeReal x).toList := by
  have digits := unbroken_shortest (.ofFloat x)
  rw [Number.writeReal]
  split
  · decide
  · simp only [String.toList_ofList, unbroken_append]
    constructor
    · split <;> decide
    · split
      · decide
      · split
        · decide
        · split
          · exact unbroken_positional digits
          · exact unbroken_scientific digits

theorem unbroken_byteText (b : UInt8) : Unbroken (Value.byteText b) := by
  have digits : ∀ d < 16,
      Unbroken [if d < 10 then Char.ofNat (48 + d) else Char.ofNat (55 + d)] := by decide
  have small := b.toNat_lt
  have first := digits (b.toNat / 16) (by omega)
  have second := digits (b.toNat % 16) (by omega)
  exact unbroken_append.mpr ⟨first, second⟩

theorem unbroken_bytesText (bs : List UInt8) : Unbroken (Value.bytesText bs) := by
  fun_induction Value.bytesText bs with
  | case1 => decide
  | case2 b => exact unbroken_byteText b
  | case3 b rest _ ih =>
      exact unbroken_append.mpr ⟨unbroken_byteText b, unbroken_cons.mpr ⟨rfl, ih⟩⟩

/-! ## Sets of characters -/

/-- The one range ends before the other begins. -/
def Before (r r' : Nat × Nat) : Prop := r.1 ≤ r.2 ∧ r.2 < r'.1

instance (r r' : Nat × Nat) : Decidable (Before r r') :=
  inferInstanceAs (Decidable (r.1 ≤ r.2 ∧ r.2 < r'.1))

instance : IsTrans (Nat × Nat) Before :=
  ⟨fun _ _ _ first second => ⟨first.1, first.2.trans_le (second.1.trans second.2.le)⟩⟩

/-- Halving finds the range that holds a code point. -/
theorem search_of_mem {ranges : Array (Nat × Nat)} (ascending : ranges.toList.IsChain Before)
    {k n low high : Nat} (known : k < ranges.size) (holds : ranges[k].1 ≤ n ∧ n ≤ ranges[k].2)
    (above : low ≤ k) (below : k < high) (inside : high ≤ ranges.size) :
    CodeSet.search ranges n low high = true := by
  have order {i j : Nat} (first : i < ranges.size) (second : j < ranges.size) (before : i < j) :
      Before ranges[i] ranges[j] :=
    List.pairwise_iff_getElem.mp (List.isChain_iff_pairwise.mp ascending) i j first second before
  -- the range that holds the code point cannot lie in the half that is left out
  fun_induction CodeSet.search ranges n low high with
  | case1 low high more middle out =>
      have out := Array.getElem?_eq_none_iff.mp out
      omega
  | case2 low high more middle lo hi found small ih =>
      obtain ⟨there, found⟩ := Array.getElem?_eq_some_iff.mp found
      refine ih above ?_ (by omega)
      rcases lt_trichotomy k middle with less | same | later
      · exact less
      · subst same
        rw [found] at holds
        omega
      · obtain ⟨proper, follows⟩ := order there known later
        rw [found] at proper follows
        omega
  | case3 low high more middle lo hi found notSmall large ih =>
      obtain ⟨there, found⟩ := Array.getElem?_eq_some_iff.mp found
      refine ih ?_ below inside
      rcases lt_trichotomy k middle with less | same | later
      · obtain ⟨_, follows⟩ := order known there less
        rw [found] at follows
        omega
      · subst same
        rw [found] at holds
        omega
      · exact later
  | case4 => rfl
  | case5 low high less => omega

theorem contains_of_mem {s : CodeSet} (ascending : s.toList.IsChain Before) {r : Nat × Nat}
    (there : r ∈ s.toList) {n : Nat} (holds : r.1 ≤ n ∧ n ≤ r.2) : s.contains n = true := by
  obtain ⟨k, known, rfl⟩ := List.getElem_of_mem there
  exact search_of_mem ascending known holds k.zero_le known le_rfl

/-- The characters of a text that is spelled out. -/
theorem toList_of_eq {s : String} (spelled : s = String.ofList cs) : s.toList = cs := by
  rw [spelled, String.toList_ofList]

set_option maxRecDepth 2000 in
/-- The ranges that are not shown as themselves are in order, and some of them hold line breaks. -/
theorem unshown_ranges : unshown.toList.IsChain Before ∧
    ∀ r ∈ [(0, 0x1F), (0x7F, 0xA0), (0x2028, 0x202F)], r ∈ unshown.toList := by
  rw [unshown, CodeSet.ofTable, unshownTable, toList_of_eq rfl]
  decide +kernel

/-! ## Quoted text -/

theorem unshown_of_endsLine (ends : endsLine c = true) : unshown.contains c.toNat = true := by
  have found {r : Nat × Nat} (listed : r ∈ [(0, 0x1F), (0x7F, 0xA0), (0x2028, 0x202F)])
      (holds : r.1 ≤ c.toNat ∧ c.toNat ≤ r.2) : unshown.contains c.toNat = true :=
    contains_of_mem unshown_ranges.1 (unshown_ranges.2 r listed) holds
  simp only [endsLine, Bool.or_eq_true, Bool.and_eq_true, decide_eq_true_eq, beq_iff_eq] at ends
  rcases ends with ((low | next) | line) | paragraph
  · exact found (r := (0, 0x1F)) (by simp) (by omega)
  · exact found (r := (0x7F, 0xA0)) (by simp) (by omega)
  · exact found (r := (0x2028, 0x202F)) (by simp) (by omega)
  · exact found (r := (0x2028, 0x202F)) (by simp) (by omega)

theorem unbroken_byNumber (c : Char) : Unbroken (byNumber c) := by
  have opening : Unbroken ['\\', 'u', '\x7b'] := by decide
  have closing : Unbroken ['\x7d'] := by decide
  exact unbroken_append.mpr ⟨unbroken_append.mpr ⟨opening, unbroken_toDigits 16 _⟩, closing⟩

/-- No line break is shown as itself between quotes. -/
theorem unbroken_quotedChar {quote : Char} (plain : endsLine quote = false) (c : Char) :
    Unbroken (quotedChar quote c) := by
  rw [quotedChar]
  split_ifs with feed tab carriage null self visible unseen
  · decide
  · decide
  · decide
  · decide
  · rw [Bool.or_eq_true, beq_iff_eq, beq_iff_eq] at self
    rcases self with rfl | rfl
    · decide
    · exact unbroken_cons.mpr ⟨rfl, unbroken_cons.mpr ⟨plain, unbroken_nil⟩⟩
  · simp only [Bool.and_eq_true, decide_eq_true_eq] at visible
    refine unbroken_cons.mpr ⟨?_, unbroken_nil⟩
    simp only [endsLine, Bool.or_eq_false_iff, Bool.and_eq_false_iff, decide_eq_false_iff_not,
      beq_eq_false_iff_ne]
    omega
  · exact unbroken_byNumber c
  · refine unbroken_cons.mpr ⟨?_, unbroken_nil⟩
    exact Bool.eq_false_iff.mpr fun ends => unseen (unshown_of_endsLine ends)

theorem unbroken_quoted {quote : Char} (plain : endsLine quote = false) (cs : List Char) :
    Unbroken (quoted quote cs).toList := by
  have mark : Unbroken [quote] := unbroken_cons.mpr ⟨plain, unbroken_nil⟩
  have inner : Unbroken (cs.flatMap (quotedChar quote)) := by
    intro d there
    obtain ⟨c, -, shown⟩ := List.mem_flatMap.mp there
    exact unbroken_quotedChar plain c d shown
  rw [quoted, String.toList_ofList]
  exact unbroken_append.mpr ⟨unbroken_append.mpr ⟨mark, inner⟩, mark⟩

end Text

/-! ## Values -/

namespace Value

open Text

variable {c : Char}

/-- The texts that the term of a value has as they are: that of a pattern. -/
def texts : Value → List String
  | regex p => [p.text]
  | _ => []

theorem mem_commas (ends : endsLine c = true) {texts : List String} :
    c ∈ (commas texts).toList ↔ ∃ text ∈ texts, c ∈ text.toList := by
  have comma : c ∉ ", ".toList := Unbroken.not_mem (by decide) ends
  rw [commas]
  induction texts with
  | nil => simp
  | cons text rest ih =>
      cases rest with
      | nil => simp
      | cons next rest =>
          rw [String.intercalate_cons_cons, String.toList_append, String.toList_append,
            List.mem_append, List.mem_append, iff_false_intro comma, or_false]
          exact (or_congr_right ih).trans (by simp)

theorem mem_arrayTerm (ends : endsLine c = true) {texts : List String} :
    c ∈ (arrayTerm texts).toList ↔ ∃ text ∈ texts, c ∈ text.toList := by
  have opening : c ∉ "*(".toList := Unbroken.not_mem (by decide) ends
  have closing : c ∉ ")".toList := Unbroken.not_mem (by decide) ends
  rw [arrayTerm, String.toList_append, String.toList_append, List.mem_append, List.mem_append,
    mem_commas ends, iff_false_intro opening, iff_false_intro closing, false_or, or_false]

theorem unbroken_truth (b : Bool) : Unbroken (if b then "TRUE" else "FALSE").toList := by
  cases b <;> decide

/-- **A line break in the term of a value comes from a pattern or from an element of an array.** -/
theorem mem_termOf (ends : endsLine c = true) (v : Value) {items : List String}
    (elements : v.items = [] → items = []) :
    c ∈ (v.termOf items).toList ↔
      (∃ text ∈ v.texts, c ∈ text.toList) ∨ ∃ text ∈ items, c ∈ text.toList := by
  have plain {cs : List Char} (unbroken : Unbroken cs) (none : items = []) :
      c ∈ cs ↔ (∃ text ∈ ([] : List String), c ∈ text.toList) ∨
        ∃ text ∈ items, c ∈ text.toList := by
    simp [unbroken.not_mem ends, none]
  cases v with
  | int n => exact plain (unbroken_int n.toInt) (elements rfl)
  | float x => exact plain (unbroken_writeReal x) (elements rfl)
  | bool b => exact plain (unbroken_truth b) (elements rfl)
  | char c => exact plain (unbroken_quoted rfl [c]) (elements rfl)
  | string s => exact plain (unbroken_quoted rfl s.toList) (elements rfl)
  | bytes bs =>
      have unbroken := unbroken_bytesText bs
      rw [← String.toList_ofList (l := bytesText bs)] at unbroken
      exact plain unbroken (elements rfl)
  | regex p =>
      have slash : c ∉ "/".toList := Unbroken.not_mem (by decide) ends
      rw [termOf, String.toList_append, String.toList_append, List.mem_append, List.mem_append,
        iff_false_intro slash, elements rfl]
      simp [texts]
  | array refs =>
      rw [termOf, mem_arrayTerm ends]
      simp [texts]

end Value

end PhiCalculus
