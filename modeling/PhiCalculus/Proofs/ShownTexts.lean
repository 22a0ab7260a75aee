import PhiCalculus.Eval.Dataize
import PhiCalculus.Proofs.LineBreaks
import PhiCalculus.Proofs.Rendering

/-!
# Line breaks in terms

The term of an object is made of the terms of other objects and of a few texts that it has as they
are: the form of the object and the names of its slots, the name or the key of a view, the text of a
pattern (`Heap.texts`).  What stands between them has no line break.  So a line break in the term of
an object comes from such a text, of the object itself or of one that is shown on the way
(`Heap.mem_term?`), and so does one in the term of a value (`Heap.mem_valueTerm?`).

A line of the trace has the term of an object without line feeds and tabs, and the term of a value
as it is (`mem_traceLine`).
-/

set_option autoImplicit false

namespace PhiCalculus

open Relation Text

variable {c : Char}

/-! ## Texts that are shown -/

/-- The texts that the term of a view has as they are. -/
def View.texts : View → List String
  | bind _ key _ => [key.text]
  | method _ name => [name]
  | copy _ => []
  | unvar _ => []

/-- The texts that the term of an object has as they are, besides the terms that it is made of. -/
def Kind.texts : Kind → List String
  | table t => t.form :: t.slots.names
  | data v => v.texts
  | view v none => v.texts
  | view _ (some _) => []

namespace Heap

variable (h : Heap)

/-- The texts that the term of an object at a depth has as they are. -/
def texts (p : Nat × Ref) : List String :=
  if termDepth < p.1 then [] else (h.cell p.2).kind.texts

/-- The character is in a text that the term of the object at the depth leads to. -/
def Bears (c : Char) (p : Nat × Ref) : Prop :=
  ∃ q, ReflTransGen h.Shows p q ∧ ∃ text ∈ h.texts q, c ∈ text.toList

variable {h} {fuel depth : Nat} {r : Ref} {text : String}

/-- A character comes from the object itself or from one that it shows. -/
theorem bears_iff {p : Nat × Ref} :
    h.Bears c p ↔ (∃ text ∈ h.texts p, c ∈ text.toList) ∨ ∃ q ∈ h.parts p, h.Bears c q := by
  constructor
  · rintro ⟨q, leads, there⟩
    rcases ReflTransGen.cases_head leads with rfl | ⟨o, shows, leads⟩
    · exact .inl there
    · exact .inr ⟨o, shows, q, leads, there⟩
  · rintro (there | ⟨o, shows, q, leads, there⟩)
    · exact ⟨p, .refl, there⟩
    · exact ⟨q, .head shows leads, there⟩

theorem not_bears_of_deep (deep : termDepth < depth) : ¬ h.Bears c (depth, r) := by
  rw [bears_iff, texts, parts, if_pos deep, if_pos deep]
  simp

section

variable (shallow : ¬ termDepth < depth)
include shallow

theorem bears_data {v : Value} (kind : (h.cell r).kind = .data v) :
    h.Bears c (depth, r) ↔
      (∃ text ∈ v.texts, c ∈ text.toList) ∨ ∃ item ∈ v.items, h.Bears c (0, item) := by
  rw [bears_iff, texts, parts, if_neg shallow, if_neg shallow]
  simp [kind, Kind.texts]

theorem bears_result {v : View} {result : Ref} (kind : (h.cell r).kind = .view v (some result)) :
    h.Bears c (depth, r) ↔ h.Bears c (depth, result) := by
  rw [bears_iff, texts, parts, if_neg shallow, if_neg shallow]
  simp [kind, Kind.texts]

theorem bears_view {v : View} (kind : (h.cell r).kind = .view v none) :
    h.Bears c (depth, r) ↔
      (∃ text ∈ v.texts, c ∈ text.toList) ∨ ∃ base ∈ v.refs, h.Bears c (depth + 1, base) := by
  rw [bears_iff, texts, parts, if_neg shallow, if_neg shallow]
  simp [kind, Kind.texts]

theorem bears_table {t : Table} (kind : (h.cell r).kind = .table t) :
    h.Bears c (depth, r) ↔
      c ∈ t.form.toList ∨ ∃ s ∈ t.slots, c ∈ s.1.toList ∨
        ¬ termDepth < depth + 1 ∧ ∃ x ∈ s.2.shown, h.Bears c (depth + 2, x) := by
  rw [bears_iff, texts, parts, if_neg shallow, if_neg shallow]
  simp only [kind, Kind.texts, Slots.names, List.exists_mem_cons_iff, or_assoc, and_or_left,
    exists_or]
  refine or_congr_right (or_congr (by simp) ?_)
  split
  · next out => simp [out]
  · next room =>
    simp only [List.mem_flatMap, List.mem_map, room, not_false_eq_true, true_and]
    constructor
    · rintro ⟨_, ⟨s, declared, x, shown, rfl⟩, bears⟩
      exact ⟨s, declared, x, shown, bears⟩
    · rintro ⟨s, declared, x, shown, bears⟩
      exact ⟨_, ⟨s, declared, x, shown, rfl⟩, bears⟩

end

/-! ## One rendering -/

/-- What some result has, one of the arguments has, if each has what its result has. -/
theorem exists_mem_mapM_iff {α β : Type} {f : α → Option β} {as : List α} {bs : List β}
    (results : as.mapM f = some bs) {P : β → Prop} {Q : α → Prop}
    (same : ∀ a ∈ as, ∀ b, f a = some b → (P b ↔ Q a)) : (∃ b ∈ bs, P b) ↔ ∃ a ∈ as, Q a := by
  induction as generalizing bs with
  | nil =>
      cases results
      simp
  | cons a rest ih =>
      rw [List.mapM_cons] at results
      simp only [Option.bind_eq_bind, Option.bind_eq_some_iff] at results
      obtain ⟨b, first, others, more, last⟩ := results
      cases last
      rw [List.exists_mem_cons_iff, List.exists_mem_cons_iff, same a List.mem_cons_self b first,
        ih more fun a there => same a (List.mem_cons_of_mem _ there)]

/-- Without arguments there are no results. -/
theorem results_nil {α β : Type} {f : α → Option β} {as : List α} {bs : List β}
    (results : as.mapM f = some bs) (none : as = []) : bs = [] := by
  subst none
  cases results
  rfl

section

variable (ends : endsLine c = true)
include ends

/-- The term of a slot has the character if the terms of the objects in it do. -/
theorem mem_slotTermAt {s : Slot} (shown : h.slotTermAt (fuel + 1) depth s = some text)
    (inner : ∀ r text, h.termAt fuel (depth + 1) r = some text →
      (c ∈ text.toList ↔ h.Bears c (depth + 1, r))) :
    c ∈ text.toList ↔ ¬ termDepth < depth ∧ ∃ r ∈ s.shown, h.Bears c (depth + 1, r) := by
  rw [slotTermAt] at shown
  split at shown
  · next deep =>
    cases shown
    have plain : c ∉ leftOut.toList := Unbroken.not_mem (by decide) ends
    simp [plain, deep]
  · next shallow =>
    have nothing {sign : String} (unbroken : Unbroken sign.toList) (same : some sign = some text) :
        c ∉ text.toList := by
      cases same
      exact unbroken.not_mem ends
    rcases s with (_ | content) | ⟨origin, _ | kept⟩ | items | origin
    · simp [Slot.shown, nothing (by decide) shown]
    · simp [Slot.shown, shallow, inner content text shown]
    · simp [Slot.shown, nothing (by decide) shown]
    · simp [Slot.shown, shallow, inner kept text shown]
    · obtain ⟨texts, results, rfl⟩ := Option.map_eq_some_iff.mp shown
      rw [Value.mem_arrayTerm ends, exists_mem_mapM_iff results fun r _ => inner r]
      simp [Slot.shown, shallow]
    · simp [Slot.shown, nothing (by decide) shown]

theorem mem_tableTerm {form : String} {slots : List String} :
    c ∈ (tableTerm form slots).toList ↔ c ∈ form.toList ∨ ∃ slot ∈ slots, c ∈ slot.toList := by
  have opening : c ∉ "⟦".toList := Unbroken.not_mem (by decide) ends
  have closing : c ∉ "⟧".toList := Unbroken.not_mem (by decide) ends
  simp only [tableTerm, String.toList_append, List.mem_append, opening, closing, or_false,
    Value.mem_commas ends]

section

variable (inner : ∀ less ≤ fuel, ∀ depth r text, h.termAt less depth r = some text →
  (c ∈ text.toList ↔ h.Bears c (depth, r)))
variable (shallow : ¬ termDepth < depth) (shown : h.termAt (fuel + 1) depth r = some text)
include inner shallow shown

theorem mem_dataTermAt {v : Value} (kind : (h.cell r).kind = .data v) :
    c ∈ text.toList ↔ h.Bears c (depth, r) := by
  simp only [termAt, shallow, if_false, kind, Option.map_eq_some_iff] at shown
  obtain ⟨texts, results, rfl⟩ := shown
  rw [bears_data shallow kind, v.mem_termOf ends (results_nil results),
    exists_mem_mapM_iff results fun r _ => inner fuel le_rfl 0 r]

theorem mem_viewTermAt {v : View} (kind : (h.cell r).kind = .view v none) :
    c ∈ text.toList ↔ h.Bears c (depth, r) := by
  have base {r : Ref} {term : String} (shown : h.termAt fuel (depth + 1) r = some term) :
      c ∈ term.toList ↔ h.Bears c (depth + 1, r) := inner fuel le_rfl _ r term shown
  rw [bears_view shallow kind]
  simp only [termAt, shallow, if_false, kind] at shown
  cases v with
  | bind r key value =>
      have opening : c ∉ "(".toList := Unbroken.not_mem (by decide) ends
      have arrow : c ∉ " ↦ ".toList := Unbroken.not_mem (by decide) ends
      have closing : c ∉ ")".toList := Unbroken.not_mem (by decide) ends
      simp only [Option.bind_eq_bind, Option.bind_eq_some_iff] at shown
      obtain ⟨term, first, term', second, last⟩ := shown
      cases last
      simp only [String.toList_append, List.mem_append, opening, arrow, closing, or_false,
        base first, base second]
      simp [View.texts, View.refs, or_left_comm, or_assoc]
  | method r name =>
      have dot : c ∉ ".".toList := Unbroken.not_mem (by decide) ends
      obtain ⟨term, first, rfl⟩ := Option.map_eq_some_iff.mp shown
      simp only [String.toList_append, List.mem_append, dot, or_false, base first]
      simp [View.texts, View.refs, or_comm]
  | copy r =>
      have prime : c ∉ "′".toList := Unbroken.not_mem (by decide) ends
      obtain ⟨term, first, rfl⟩ := Option.map_eq_some_iff.mp shown
      simp only [String.toList_append, List.mem_append, prime, or_false, base first]
      simp [View.texts, View.refs]
  | unvar r =>
      have dots : c ∉ "...".toList := Unbroken.not_mem (by decide) ends
      obtain ⟨term, first, rfl⟩ := Option.map_eq_some_iff.mp shown
      simp only [String.toList_append, List.mem_append, dots, or_false, base first]
      simp [View.texts, View.refs]

theorem mem_tableTermAt {t : Table} (kind : (h.cell r).kind = .table t) :
    c ∈ text.toList ↔ h.Bears c (depth, r) := by
  simp only [termAt, shallow, if_false, kind, Option.map_eq_some_iff] at shown
  obtain ⟨texts, results, rfl⟩ := shown
  rw [bears_table shallow kind, mem_tableTerm ends]
  refine or_congr_right (exists_mem_mapM_iff results fun s _ text slot => ?_)
  obtain ⟨content, inside, rfl⟩ := Option.map_eq_some_iff.mp slot
  have arrow : c ∉ " ↦ ".toList := Unbroken.not_mem (by decide) ends
  simp only [String.toList_append, List.mem_append, arrow, or_false]
  refine or_congr_right ?_
  cases fuel with
  | zero => cases inside
  | succ fuel =>
      exact mem_slotTermAt ends inside fun r text => inner fuel (Nat.le_succ fuel) _ r text

end

/-- **The term of an object has a line break if the object bears it.** -/
theorem mem_termAt (shown : h.termAt fuel depth r = some text) :
    c ∈ text.toList ↔ h.Bears c (depth, r) := by
  -- a slot takes a step of its own, so an object in it has two steps fewer
  induction fuel using Nat.strong_induction_on generalizing depth r text with
  | h fuel ih =>
      cases fuel with
      | zero => cases shown
      | succ fuel =>
          have inner (less : Nat) (le : less ≤ fuel) (depth : Nat) (r : Ref) (text : String)
              (shown : h.termAt less depth r = some text) :
              c ∈ text.toList ↔ h.Bears c (depth, r) := ih less (Nat.lt_succ_of_le le) shown
          by_cases deep : termDepth < depth
          · rw [termAt, if_pos deep] at shown
            cases shown
            have plain : c ∉ leftOut.toList := Unbroken.not_mem (by decide) ends
            exact iff_of_false plain (not_bears_of_deep deep)
          · cases kind : (h.cell r).kind with
            | data v => exact mem_dataTermAt ends inner deep shown kind
            | table t => exact mem_tableTermAt ends inner deep shown kind
            | view v result =>
                cases result with
                | none => exact mem_viewTermAt ends inner deep shown kind
                | some result =>
                    simp only [termAt, deep, if_false, kind] at shown
                    rw [bears_result deep kind]
                    exact inner fuel le_rfl depth result text shown

/-- **A line break in the term of an object comes from a text that the term leads to.** -/
theorem mem_term? (shown : h.term? r = some text) : c ∈ text.toList ↔ h.Bears c (0, r) :=
  mem_termAt ends shown

end

/-- The character is in a text that the term of the value has as it is, or that the term of an
element leads to. -/
def ValueBears (h : Heap) (c : Char) (v : Value) : Prop :=
  (∃ text ∈ v.texts, c ∈ text.toList) ∨ ∃ item ∈ v.items, h.Bears c (0, item)

theorem mem_valueTerm? (ends : endsLine c = true) {v : Value} (shown : h.valueTerm? v = some text) :
    c ∈ text.toList ↔ h.ValueBears c v := by
  obtain ⟨texts, results, rfl⟩ := Option.map_eq_some_iff.mp shown
  rw [ValueBears, v.mem_termOf ends (results_nil results),
    exists_mem_mapM_iff results fun r _ text => mem_term? ends]

end Heap

/-! ## Lines of the trace -/

theorem mem_oneLine {term : String} :
    c ∈ (oneLine term).toList ↔ c ∈ term.toList ∧ c ≠ '\n' ∧ c ≠ '\t' := by
  simp [oneLine]

/-- **A line of the trace has the line breaks of the value, and those of the object but for line
feeds.** -/
theorem mem_traceLine (ends : endsLine c = true) {depth : Nat} {term value : String} :
    c ∈ (traceLine depth term value).toList ↔
      c ∈ value.toList ∨ c ≠ '\n' ∧ c ∈ term.toList := by
  have dots : c ∉ (String.ofList (List.replicate depth '·')).toList := by
    rw [String.toList_ofList]
    exact (unbroken_replicate depth (by decide)).not_mem ends
  have opening : c ∉ "𝔻( ".toList := Unbroken.not_mem (by decide) ends
  have arrow : c ∉ " ) ➜ ".toList := Unbroken.not_mem (by decide) ends
  have noTab : c ≠ '\t' := by
    rintro rfl
    cases ends
  simp only [traceLine, String.toList_append, List.mem_append, dots, opening, arrow, false_or,
    or_false, mem_oneLine]
  tauto

end PhiCalculus
