import PhiCalculus.Eval.Expression
import PhiCalculus.Proofs.Decimals

/-!
# Labels of values

The label of a value is the text that its vertex is handed out for.  Two values other than real
numbers and arrays are equal exactly if they have one type and one label
(`Value.same_iff_label`), so every label spells its value: integers in decimal, bytes in decimal
between commas, patterns by their text.

A literal is made with the label of the value that its text spells, however the text spells it, so
it is made as the value itself would be (`literal_eq_data`).
-/

set_option autoImplicit false

namespace PhiCalculus

/-! ## Lists of texts -/

/-- Up to the first comma there is one text, and after it another. -/
theorem eq_of_append_comma {x y rest rest' : List Char} (plain : ',' ∉ x) (plain' : ',' ∉ y)
    (same : x ++ ',' :: rest = y ++ ',' :: rest') : x = y ∧ rest = rest' := by
  induction x generalizing y with
  | nil =>
      cases y with
      | nil => exact ⟨rfl, (List.cons.inj same).2⟩
      | cons c more =>
          have first : ',' = c := (List.cons.inj same).1
          exact absurd (first ▸ List.mem_cons_self) plain'
  | cons c more ih =>
      cases y with
      | nil =>
          have first : c = ',' := (List.cons.inj same).1
          exact absurd (first ▸ List.mem_cons_self) plain
      | cons d others =>
          obtain ⟨head, tail⟩ := List.cons.inj same
          have left : ',' ∉ more := fun mem => plain (List.mem_cons_of_mem c mem)
          have right : ',' ∉ others := fun mem => plain' (List.mem_cons_of_mem d mem)
          obtain ⟨texts, rests⟩ := ih left right tail
          exact ⟨by rw [head, texts], rests⟩

/-- A text that may stand between commas. -/
def IsPart (text : List Char) : Prop := text ≠ [] ∧ ',' ∉ text

/-- Texts are told apart when commas are put between them. -/
theorem intercalate_comma_inj {xs ys : List (List Char)} (parts : ∀ x ∈ xs, IsPart x)
    (parts' : ∀ y ∈ ys, IsPart y)
    (same : [',', ' '].intercalate xs = [',', ' '].intercalate ys) : xs = ys := by
  induction xs generalizing ys with
  | nil =>
      cases ys with
      | nil => rfl
      | cons y more =>
          have shown := (parts' y List.mem_cons_self).1
          cases more with
          | nil =>
              rw [List.intercalate_nil, List.intercalate_singleton] at same
              exact absurd same.symm shown
          | cons z more =>
              rw [List.intercalate_nil, List.intercalate_cons_cons] at same
              simp at same
  | cons x rest ih =>
      have shown := (parts x List.mem_cons_self).1
      have plain := (parts x List.mem_cons_self).2
      cases ys with
      | nil =>
          cases rest with
          | nil =>
              rw [List.intercalate_nil, List.intercalate_singleton] at same
              exact absurd same shown
          | cons z more =>
              rw [List.intercalate_nil, List.intercalate_cons_cons] at same
              simp at same
      | cons y others =>
          have plain' := (parts' y List.mem_cons_self).2
          have left : ∀ z ∈ rest, IsPart z := fun z mem => parts z (List.mem_cons_of_mem x mem)
          have right : ∀ z ∈ others, IsPart z := fun z mem => parts' z (List.mem_cons_of_mem y mem)
          cases rest with
          | nil =>
              cases others with
              | nil =>
                  rw [List.intercalate_singleton, List.intercalate_singleton] at same
                  rw [same]
              | cons w more =>
                  rw [List.intercalate_singleton, List.intercalate_cons_cons] at same
                  exact absurd (same ▸ by simp) plain
          | cons z more =>
              cases others with
              | nil =>
                  rw [List.intercalate_singleton, List.intercalate_cons_cons] at same
                  exact absurd (same ▸ by simp) plain'
              | cons w others =>
                  rw [List.intercalate_cons_cons, List.intercalate_cons_cons, List.append_assoc,
                    List.append_assoc] at same
                  obtain ⟨first, tail⟩ := eq_of_append_comma plain plain' same
                  rw [first, ih left right (List.cons.inj tail).2]

/-! ## Values by their labels -/

namespace Value

/-- A value that equals those of its type and label only: no real number, of which one may differ
from itself, and no array, which has no label. -/
def Discrete (v : Value) : Prop := v.tag ≠ .float ∧ v.tag ≠ .array

theorem integerText_inj {m n : Int64} (same : integerText m = integerText n) : m = n := by
  have texts := congrArg String.toList same
  rw [integerText, integerText, toList_toString_int, toList_toString_int] at texts
  apply Int64.toInt_inj.mp
  split at texts <;> split at texts
  · have := toDigits_inj texts
    omega
  · exact absurd texts (toDigits_ne_minus _ _)
  · exact absurd texts.symm (toDigits_ne_minus _ _)
  · have := toDigits_inj (List.cons.inj texts).2
    omega

theorem boolText_inj {b c : Bool} (same : boolText b = boolText c) : b = c := by
  cases b <;> cases c <;> simp_all [boolText]

/-- A byte in decimal has no comma. -/
theorem isPart_byte (b : UInt8) : IsPart (toString b.toNat).toList := by
  rw [Nat.toString_eq_ofList_toDigits, String.toList_ofList]
  refine ⟨Nat.toDigits_ne_nil, ?_⟩
  intro mem
  have digit : (',' : Char).isDigit = true :=
    Nat.isDigit_of_mem_toDigits (by omega) (by omega) mem
  exact absurd digit (by decide)

theorem byteText_inj {b c : UInt8} (same : (toString b.toNat).toList = (toString c.toNat).toList) :
    b = c := by
  simp only [Nat.toString_eq_ofList_toDigits, String.toList_ofList] at same
  exact UInt8.toNat_inj.mp (toDigits_inj same)

/-- Bytes are told apart by their label. -/
theorem bytesLabel_inj {bs cs : List UInt8}
    (same : "[" ++ commas (bs.map fun b => toString b.toNat) ++ "]"
      = "[" ++ commas (cs.map fun b => toString b.toNat) ++ "]") : bs = cs := by
  have inner : commas (bs.map fun b => toString b.toNat)
      = commas (cs.map fun b => toString b.toNat) := by
    have texts := congrArg String.toList same
    simp only [String.toList_append, List.append_assoc] at texts
    have tails := List.append_cancel_left texts
    exact String.toList_inj.mp (List.append_cancel_right tails)
  have lists := congrArg String.toList inner
  simp only [commas, String.toList_intercalate, List.map_map] at lists
  have parts : ∀ (bs : List UInt8),
      ∀ x ∈ bs.map (String.toList ∘ fun b => toString b.toNat), IsPart x := by
    intro bs x mem
    obtain ⟨b, _, rfl⟩ := List.mem_map.mp mem
    exact isPart_byte b
  have each := intercalate_comma_inj (parts bs) (parts cs) lists
  exact (List.map_inj_right fun b c here => byteText_inj here).mp each

/-- **Values are equal exactly if they have one type and one label.** -/
theorem same_iff_label {v w : Value} (vertex : Ref → Vertex) (discrete : v.Discrete)
    (discrete' : w.Discrete) :
    same vertex v w = true ↔ v.tag = w.tag ∧ v.label = w.label := by
  by_cases tags : v.tag = w.tag
  · rw [and_iff_right tags]
    cases v with
    | int n =>
        cases w with
        | int m =>
            simp only [same, label, beq_iff_eq, Option.some.injEq]
            exact ⟨congrArg integerText, integerText_inj⟩
        | _ => cases tags
    | float x => exact absurd rfl discrete.1
    | bool b =>
        cases w with
        | bool c =>
            simp only [same, label, beq_iff_eq, Option.some.injEq]
            exact ⟨congrArg boolText, boolText_inj⟩
        | _ => cases tags
    | char c =>
        cases w with
        | char d =>
            simp only [same, label, beq_iff_eq, Option.some.injEq]
            exact String.singleton_inj.symm
        | _ => cases tags
    | string s =>
        cases w with
        | string t => simp only [same, label, beq_iff_eq, Option.some.injEq]
        | _ => cases tags
    | bytes bs =>
        cases w with
        | bytes cs =>
            simp only [same, label, beq_iff_eq, Option.some.injEq]
            refine ⟨?_, bytesLabel_inj⟩
            rintro rfl
            rfl
        | _ => cases tags
    | regex p =>
        cases w with
        | regex q => simp only [same, label, beq_iff_eq, Option.some.injEq]
        | _ => cases tags
    | array items => exact absurd rfl discrete.2
  · refine iff_of_false ?_ fun both => tags both.1
    intro equal
    cases v <;> cases w <;> first | exact tags rfl | cases equal

end Value

/-! ## Literals -/

/-- What a text of some type spells is of that type, and no array. -/
theorem Value.tag_of_parse {tag : TypeTag} {text : String} {v : Value}
    (read : Value.parse tag text = .ok v) : v.tag = tag ∧ tag ≠ .array := by
  unfold Value.parse at read
  cases tag with
  | int =>
      simp only at read
      split at read
      · cases read
        exact ⟨rfl, nofun⟩
      · cases read
  | float =>
      simp only at read
      split at read
      · cases read
        exact ⟨rfl, nofun⟩
      · cases read
  | bool =>
      simp only at read
      split at read
      case h_5 => cases read
      all_goals
        cases read
        exact ⟨rfl, nofun⟩
  | char =>
      simp only at read
      split at read
      · cases read
        exact ⟨rfl, nofun⟩
      · cases read
  | string =>
      cases read
      exact ⟨rfl, nofun⟩
  | bytes =>
      simp only at read
      cases bytes : Value.readBytes (Value.byteParts [] (Text.trim text.toList)) with
      | error fault =>
          rw [bytes] at read
          cases read
      | ok bs =>
          rw [bytes] at read
          cases read
          exact ⟨rfl, nofun⟩
  | regex =>
      simp only at read
      split at read
      · cases read
        exact ⟨rfl, nofun⟩
      · cases read
  | array => cases read

/-- A literal refers to nothing. -/
theorem Value.items_of_parse {tag : TypeTag} {text : String} {v : Value}
    (read : Value.parse tag text = .ok v) : v.items = [] := by
  obtain ⟨rfl, other⟩ := Value.tag_of_parse read
  cases v with
  | array items => exact absurd rfl other
  | _ => rfl

/-- Every value but an array has a label. -/
theorem Value.label_of_not_array {v : Value} (other : v.tag ≠ .array) :
    ∃ text, v.label = some text := by
  cases v with
  | array items => exact absurd rfl other
  | _ => exact ⟨_, rfl⟩

/-- The vertex for the name of a type and a label is that of a value of that type and label. -/
theorem Registry.bestOf_eq_best (g : Registry) {type text : String} {v : Value}
    (known : TypeTag.ofName? type = some v.tag) (labelled : v.label = some text) :
    g.bestOf type text = (.ok (g.best v).1, (g.best v).2) := by
  have other : v.tag ≠ .array := by
    intro array
    cases v with
    | array items => cases labelled
    | _ => cases array
  rw [bestOf, known, best, labelled]
  cases tag : v.tag with
  | array => exact absurd tag other
  | _ => rfl

/-- **A literal is made as the value that its text spells.** -/
theorem literal_eq_data {type text : String} {tag : TypeTag} {v : Value}
    (known : TypeTag.ofName? type = some tag) (read : Value.parse tag text = .ok v) :
    literal type text = Action.data v := by
  obtain ⟨rfl, other⟩ := Value.tag_of_parse read
  obtain ⟨label, labelled⟩ := Value.label_of_not_array other
  funext frame s
  simp only [literal, known, read, labelled, Action.labelled, Action.data, State.allocData,
    s.registry.bestOf_eq_best known labelled]

/-- A literal is made as such a value, or its type or its text is refused. -/
theorem literal_cases (type text : String) :
    (∃ tag v, TypeTag.ofName? type = some tag ∧ Value.parse tag text = .ok v ∧
        literal type text = Action.data v) ∨
      literal type text = Action.fail (.unsupportedType type) ∨
      ∃ fault, literal type text = Action.fail (.badLiteral type text fault) := by
  cases known : TypeTag.ofName? type with
  | none =>
      refine .inr (.inl ?_)
      rw [literal, known]
  | some tag =>
      cases read : Value.parse tag text with
      | error fault =>
          refine .inr (.inr ⟨fault, ?_⟩)
          rw [literal, known]
          dsimp only
          rw [read]
      | ok v => exact .inl ⟨tag, v, rfl, read, literal_eq_data known read⟩

end PhiCalculus
