import PhiCalculus.Proofs.Labels
import PhiCalculus.Proofs.Roles
import PhiCalculus.Proofs.ShownTexts

/-!
# Texts that come from a program

The texts of an object are its form and the names of its slots, the name or the key of a view and
the text of a pattern, along with the texts that the expressions in its slots will give to other
objects (`Kind.words`).  A program has such texts in its names and in its literals for patterns
(`Program.words`).

A set of texts that has the few texts that the evaluator writes on its own is a `Vocabulary`.  If it
has the texts of a program, it has those of the expressions that the program is translated to
(`Node.covers_expr`) and those of the objects that a run begins with (`Program.within_base`).
-/

set_option autoImplicit false

namespace PhiCalculus

/-! ## Texts of expressions and objects -/

mutual

/-- The texts that an expression may give to objects: names, forms and patterns. -/
def Expr.words : Expr → List String
  | .data v => v.texts
  | .literal type text => if type == TypeTag.regex.name then [text] else []
  | .array items => Expr.wordsOf items
  | .name n => [n]
  | .get e _ => e.words
  | .method e name => name :: e.words
  | .bind e key value => key.text :: (e.words ++ value.words)
  | .copied e => e.words
  | .unvar e => e.words
  | .copy e => e.words
  | .resolved e => e.words
  | .force e => e.words
  | .raise target payload => target.words ++ payload.words
  | .count _ e => e.words
  | .build form home attrs =>
    form :: ((match home with
      | some e => e.words
      | none => []) ++ SlotExpr.wordsOf attrs)
  | _ => []

def Expr.wordsOf : List Expr → List String
  | [] => []
  | e :: rest => e.words ++ Expr.wordsOf rest

def SlotExpr.words : SlotExpr → List String
  | .free => []
  | .vararg => []
  | .bound e => e.words
  | .once e => e.words
  | .composite e => e.words

def SlotExpr.wordsOf : List (String × SlotExpr) → List String
  | [] => []
  | (name, slot) :: rest => name :: (slot.words ++ SlotExpr.wordsOf rest)

end

/-- The texts of what a slot computes. -/
def Slot.words : Slot → List String
  | once origin _ => origin.words
  | composite origin => origin.words
  | _ => []

/-- The names of slots and the texts of what they compute. -/
def Slots.words (slots : Slots) : List String := slots.flatMap fun s => s.1 :: s.2.words

/-- The texts of an object, and those that what it computes may give to others. -/
def Kind.words : Kind → List String
  | table t => t.form :: t.slots.words
  | data v => v.texts
  | view v _ => v.texts

/-- What the term of an object has as it is are texts of the object. -/
theorem Kind.texts_subset_words (k : Kind) : k.texts ⊆ k.words := by
  rintro text there
  cases k with
  | table t =>
      rcases List.mem_cons.mp there with rfl | there
      · exact List.mem_cons_self
      · obtain ⟨s, declared, rfl⟩ := List.mem_map.mp there
        exact List.mem_cons_of_mem _ (List.mem_flatMap.mpr ⟨s, declared, List.mem_cons_self⟩)
  | data v => exact there
  | view v result =>
      cases result with
      | none => exact there
      | some r => cases there

/-! ## Texts of programs -/

/-- The name that an application starts from. -/
def Base.words : Base → List String
  | ref name => [name]
  | method name => [name]
  | _ => []

mutual

/-- The names in a tree, and the texts of its literals for patterns. -/
def Node.words : Node → List String
  | .abstraction name _ params attrs =>
    name.toList ++ params.map Parameter.name ++ Node.wordsOf attrs
  | .application name _ base args _ _ => name.toList ++ base.words ++ Node.wordsOf args
  | .data name _ type value =>
    name.toList ++ if type == TypeTag.regex.name then [value] else []

def Node.wordsOf : List Node → List String
  | [] => []
  | n :: rest => n.words ++ Node.wordsOf rest

end

/-- The names in a program, and the texts of its literals for patterns. -/
def Program.words (p : Program) : List String := Node.wordsOf p.objects

/-! ## Vocabularies -/

/-- A set of texts that has what the evaluator writes on its own: what stands in for missing names,
the sign of the decorated object, the position of an argument, the texts of attempts, of what raises
in them and of methods, and the lines that objects and values with its texts leave in the trace. -/
structure Vocabulary where
  Has : String → Prop
  unnamed : Has ""
  anonymous : Has "[]"
  phi : Has PhiCalculus.phi
  position : Has (Key.position 0).text
  attempt : ∀ text ∈ (Kind.table attemptTable).words, Has text
  signal : ∀ r, ∀ text ∈ (Kind.table (signalTable r)).words, Has text
  method : ∀ r tag name m, Method.ofName? tag name = some m →
    ∀ text ∈ (Kind.table (methodTable r tag name m)).words, Has text
  line : ∀ (h : Heap) r v depth term value,
    (∀ o, ∀ text ∈ (h.cell o).kind.words, Has text) → (∀ text ∈ v.texts, Has text) →
      h.term? r = some term → h.valueTerm? v = some value → Has (traceLine depth term value)

namespace Vocabulary

variable (V : Vocabulary)

/-- All the texts belong to the vocabulary. -/
def Covers (texts : List String) : Prop := ∀ text ∈ texts, V.Has text

variable {V} {texts texts' : List String} {name text : String}

@[simp] theorem covers_nil : V.Covers [] := nofun

@[simp] theorem covers_cons : V.Covers (text :: texts) ↔ V.Has text ∧ V.Covers texts :=
  List.forall_mem_cons

@[simp] theorem covers_append : V.Covers (texts ++ texts') ↔ V.Covers texts ∧ V.Covers texts' :=
  List.forall_mem_append

theorem has_attrName (has : V.Has name) : V.Has (attrName name) := by
  rw [attrName]
  split
  · exact V.phi
  · exact has

/-- A parsed literal is a pattern with the text of the literal, or has no text. -/
theorem covers_of_parse {type : String} {tag : TypeTag} {v : Value}
    (covers : V.Covers (Expr.literal type text).words) (known : TypeTag.ofName? type = some tag)
    (read : Value.parse tag text = .ok v) : V.Covers v.texts := by
  cases v with
  | regex p =>
      obtain ⟨rfl, -⟩ := Value.tag_of_parse read
      have same : type = TypeTag.regex.name := by
        unfold TypeTag.ofName? at known
        split at known <;> cases known
        rfl
      have has : V.Has text := by
        rw [Expr.words, same] at covers
        exact covers text List.mem_cons_self
      simp only [Value.parse, Value.tag] at read
      split at read
      · next p' spelled =>
        cases read
        rw [Value.texts, Pattern.text_ofText? spelled]
        exact covers_cons.mpr ⟨has, covers_nil⟩
      · cases read
  | _ => exact covers_nil

/-! ## Slots -/

theorem covers_slots {slots : Slots} :
    V.Covers slots.words ↔ ∀ name s, (name, s) ∈ slots → V.Has name ∧ V.Covers s.words := by
  constructor
  · intro covers name s declared
    refine covers_cons.mp fun text there => covers text ?_
    exact List.mem_flatMap.mpr ⟨(name, s), declared, there⟩
  · intro covers text there
    obtain ⟨⟨name, s⟩, declared, there⟩ := List.mem_flatMap.mp there
    exact covers_cons.mpr (covers name s declared) text there

variable {slots : Slots} {s : Slot}

theorem covers_declare (covers : V.Covers slots.words) (has : V.Has name)
    (slot : V.Covers s.words) : V.Covers (slots.declare name s).words := by
  rw [covers_slots] at covers ⊢
  intro n s' there
  rcases Slots.mem_declare there with there | ⟨rfl, rfl⟩
  · exact covers n s' there
  · exact ⟨has, slot⟩

theorem covers_set (covers : V.Covers slots.words) (has : V.Has name)
    (slot : V.Covers s.words) : V.Covers (slots.set name s).words := by
  rw [covers_slots] at covers ⊢
  intro n s' there
  rcases Slots.mem_set there with there | ⟨rfl, rfl⟩
  · exact covers n s' there
  · exact ⟨has, slot⟩

theorem covers_copy (covers : V.Covers slots.words) : V.Covers slots.copy.words := by
  rw [covers_slots] at covers ⊢
  intro n s' there
  obtain ⟨⟨name, s⟩, declared, same⟩ := List.mem_map.mp there
  cases same
  obtain ⟨has, slot⟩ := covers name s declared
  refine ⟨has, ?_⟩
  cases s <;> exact slot

theorem covers_find? (covers : V.Covers slots.words) (found : slots.find? name = some s) :
    V.Has name ∧ V.Covers s.words :=
  covers_slots.mp covers name s (Slots.mem_of_find? found)

theorem covers_declareAll {attrs : List (String × SlotExpr)} (covers : V.Covers slots.words)
    (more : V.Covers (SlotExpr.wordsOf attrs)) : V.Covers (declareAll slots attrs).words := by
  induction attrs generalizing slots with
  | nil => exact covers
  | cons attr rest ih =>
      obtain ⟨name, e⟩ := attr
      rw [SlotExpr.wordsOf, covers_cons, covers_append] at more
      obtain ⟨has, slot, more⟩ := more
      cases e with
      | bound e => exact ih covers more
      | _ => exact ih (covers_declare covers has slot) more

/-! ## Trees -/

theorem covers_bindAll {base : Expr} {args : List (Key × Expr)} (covers : V.Covers base.words)
    (arguments : ∀ arg ∈ args, V.Has arg.1.text ∧ V.Covers arg.2.words) :
    V.Covers (bindAll base args).words := by
  induction args generalizing base with
  | nil => exact covers
  | cons arg rest ih =>
      obtain ⟨⟨key, argument⟩, more⟩ := List.forall_mem_cons.mp arguments
      refine ih ?_ more
      rw [Expr.words, covers_cons, covers_append]
      exact ⟨key, covers, argument⟩

theorem covers_wordsOf {es : List Expr} (covers : ∀ e ∈ es, V.Covers e.words) :
    V.Covers (Expr.wordsOf es) := by
  induction es with
  | nil => exact covers_nil
  | cons e rest ih =>
      obtain ⟨first, more⟩ := List.forall_mem_cons.mp covers
      exact covers_append.mpr ⟨first, ih more⟩

theorem covers_applied {line : Nat} {base : Base} {copy : Bool} {args : List (Key × Expr)}
    (names : V.Covers base.words)
    (arguments : ∀ arg ∈ args, V.Has arg.1.text ∧ V.Covers arg.2.words) :
    V.Covers (applied line base copy args).words := by
  have start {e : Expr} (covers : V.Covers e.words) :
      V.Covers (if copy then Expr.copied e else e).words := by
    cases copy <;> exact covers
  cases base with
  | ref name =>
      have has := has_attrName (names name List.mem_cons_self)
      exact covers_bindAll (start (covers_cons.mpr ⟨has, covers_nil⟩)) arguments
  | method name =>
      have has := has_attrName (names name List.mem_cons_self)
      cases args with
      | nil => exact covers_nil
      | cons receiver rest =>
          obtain ⟨⟨-, receiver⟩, more⟩ := List.forall_mem_cons.mp arguments
          exact covers_bindAll (start (covers_cons.mpr ⟨has, receiver⟩)) more
  | xi => exact covers_bindAll (start covers_nil) arguments
  | rho => exact covers_bindAll (start covers_nil) arguments
  | sigma => exact covers_bindAll (start covers_nil) arguments
  | array =>
      refine start (covers_wordsOf fun e there => ?_)
      obtain ⟨arg, given, rfl⟩ := List.mem_map.mp there
      exact (arguments arg given).2

theorem covers_slotsOfParams {params : List Parameter}
    (names : V.Covers (params.map Parameter.name)) :
    V.Covers (SlotExpr.wordsOf (Parameter.slots params)) := by
  induction params with
  | nil => exact covers_nil
  | cons p rest ih =>
      obtain ⟨has, more⟩ := covers_cons.mp names
      have slot : V.Covers (if p.vararg then SlotExpr.vararg else .free).words := by
        cases p.vararg <;> exact covers_nil
      exact covers_cons.mpr ⟨has, covers_append.mpr ⟨slot, ih more⟩⟩

theorem covers_wordsOf_append {attrs attrs' : List (String × SlotExpr)} :
    V.Covers (SlotExpr.wordsOf (attrs ++ attrs')) ↔
      V.Covers (SlotExpr.wordsOf attrs) ∧ V.Covers (SlotExpr.wordsOf attrs') := by
  induction attrs with
  | nil => simp [SlotExpr.wordsOf]
  | cons attr rest ih => simp [SlotExpr.wordsOf, ih, and_assoc]

theorem covers_name {n : Node} (covers : V.Covers n.words) : V.Covers n.name.toList := by
  cases n with
  | abstraction name line params attrs =>
      rw [Node.words, covers_append, covers_append] at covers
      exact covers.1.1
  | application name line base args copy unvar =>
      rw [Node.words, covers_append, covers_append] at covers
      exact covers.1.1
  | data name line type value =>
      rw [Node.words, covers_append] at covers
      exact covers.1

theorem has_getD {own : Option String} (covers : V.Covers own.toList) (has : V.Has name) :
    V.Has (own.getD name) := by
  cases own with
  | none => exact has
  | some text => exact covers text List.mem_cons_self

end Vocabulary

variable {V : Vocabulary}

open Vocabulary

mutual

/-- **The expression of a tree has no texts but those of the tree.** -/
theorem Node.covers_expr : ∀ n : Node, V.Covers n.words → V.Covers n.expr.words
  | .abstraction name _ params attrs, covers => by
      rw [Node.words, covers_append, covers_append] at covers
      obtain ⟨⟨own, names⟩, inside⟩ := covers
      rw [Node.expr, Expr.words, covers_cons, covers_append, covers_wordsOf_append]
      exact ⟨has_getD own V.anonymous, covers_nil, covers_slotsOfParams names,
        Node.covers_attrSlots attrs inside⟩
  | .application name line base args copy unvar, covers => by
      rw [Node.words, covers_append, covers_append] at covers
      obtain ⟨⟨-, names⟩, inside⟩ := covers
      have covers : V.Covers (applied line base copy (Node.arguments args)).words :=
        covers_applied names (Node.covers_arguments args inside)
      cases unvar <;> exact covers
  | .data name _ type value, covers => by
      rw [Node.words, covers_append] at covers
      exact covers.2

theorem Node.covers_attrSlots : ∀ attrs : List Node,
    V.Covers (Node.wordsOf attrs) → V.Covers (SlotExpr.wordsOf (Node.attrSlots attrs))
  | [], _ => covers_nil
  | n :: rest, covers => by
      rw [Node.wordsOf, covers_append] at covers
      obtain ⟨node, more⟩ := covers
      rw [Node.attrSlots, SlotExpr.wordsOf, covers_cons, covers_append]
      exact ⟨has_attrName (has_getD (covers_name node) V.unnamed), Node.covers_expr n node,
        Node.covers_attrSlots rest more⟩

theorem Node.covers_arguments : ∀ args : List Node, V.Covers (Node.wordsOf args) →
    ∀ arg ∈ Node.arguments args, V.Has arg.1.text ∧ V.Covers arg.2.words
  | [], _ => nofun
  | n :: rest, covers => by
      rw [Node.wordsOf, covers_append] at covers
      obtain ⟨node, more⟩ := covers
      rw [Node.arguments]
      refine List.forall_mem_cons.mpr ⟨⟨?_, Node.covers_expr n node⟩,
        Node.covers_arguments rest more⟩
      have own := covers_name node
      cases named : n.name with
      | none => exact V.position
      | some name =>
          rw [named] at own
          exact has_attrName (own name List.mem_cons_self)

end

/-! ## States -/

/-- The texts of all objects belong to the vocabulary. -/
def Heap.Within (V : Vocabulary) (h : Heap) : Prop := ∀ r, V.Covers (h.cell r).kind.words

/-- The texts of all objects and all lines of the trace belong to the vocabulary. -/
structure State.Within (V : Vocabulary) (s : State) : Prop where
  heap : s.heap.Within V
  trace : V.Covers s.trace

namespace Heap.Within

variable {h : Heap} {r : Ref} {name : String}

theorem slot (within : h.Within V) {s : Slot} (found : h.slot? r name = some s) :
    V.Has name ∧ V.Covers s.words := by
  have covers := within r
  rw [Heap.slot?, Cell.slots] at found
  cases kind : (h.cell r).kind with
  | table t =>
      rw [kind] at found covers
      exact covers_find? (covers_cons.mp covers).2 found
  | _ =>
      rw [kind] at found
      cases found

theorem default : V.Covers (default : Cell).kind.words := covers_cons.mpr ⟨V.unnamed, covers_nil⟩

theorem alloc (within : h.Within V) {c : Cell} (covers : V.Covers c.kind.words) :
    (h.alloc c).2.Within V := by
  intro o
  rcases h.cell_alloc_cases c o with ⟨-, same⟩ | ⟨-, same⟩ | ⟨-, same⟩ <;> rw [same]
  · exact within o
  · exact covers
  · exact default

theorem update (within : h.Within V) {f : Kind → Kind}
    (covers : ∀ k : Kind, V.Covers k.words → V.Covers (f k).words) : (h.update r f).Within V := by
  intro o
  by_cases same : o = r
  · subst same
    by_cases exist : o.index < h.size
    · rw [h.cell_update_self exist]
      exact covers _ (within o)
    · rw [cell_of_ge _ (by simpa using exist)]
      exact default
  · rw [h.cell_update_of_ne same]
    exact within o

theorem setSlot (within : h.Within V) (has : V.Has name) {s : Slot} (slot : V.Covers s.words) :
    (h.setSlot r name s).Within V := by
  refine within.update fun k covers => ?_
  cases k with
  | table t =>
      obtain ⟨form, slots⟩ := covers_cons.mp covers
      exact covers_cons.mpr ⟨form, covers_set slots has slot⟩
  | data v => exact covers
  | view v result => exact covers

theorem setOwner (within : h.Within V) (owner : Ref) : (h.setOwner r owner).Within V :=
  within.update fun k covers => by cases k <;> exact covers

theorem setResult (within : h.Within V) (result : Ref) : (h.setResult r result).Within V :=
  within.update fun k covers => by cases k <;> exact covers

end Heap.Within

namespace State.Within

variable {s : State}

theorem alloc (within : s.Within V) {k : Kind} (covers : V.Covers k.words) :
    (s.alloc k).2.Within V :=
  ⟨within.heap.alloc covers, within.trace⟩

theorem allocData (within : s.Within V) {v : Value} (covers : V.Covers v.texts) :
    (s.allocData v).2.Within V :=
  ⟨within.heap.alloc covers, within.trace⟩

end State.Within

/-! ## The objects that a run begins with -/

theorem State.within_initial : State.initial.Within V := by
  have empty : ({} : State).Within V := ⟨fun _ => Heap.Within.default, covers_nil⟩
  exact ⟨(empty.alloc V.attempt).heap, covers_nil⟩

theorem State.Within.installNode {s : State} (within : s.Within V) {n : Node}
    (covers : V.Covers n.words) : (s.installNode n).Within V := by
  cases n with
  | abstraction name line params attrs =>
      cases name with
      | none => exact within
      | some name =>
          rw [Node.words, covers_append, covers_append] at covers
          obtain ⟨⟨own, names⟩, inside⟩ := covers
          have slots : V.Covers (declareAll [] (Parameter.slots params ++
              Node.attrSlots attrs)).words :=
            covers_declareAll covers_nil (covers_wordsOf_append.mpr
              ⟨covers_slotsOfParams names, Node.covers_attrSlots attrs inside⟩)
          have table : V.Covers (Kind.table (Node.prototype name params attrs)).words :=
            covers_cons.mpr ⟨own name List.mem_cons_self, slots⟩
          exact ⟨(within.alloc table).heap, within.trace⟩
  | application _ _ _ _ _ _ => exact within
  | data _ _ _ _ => exact within

theorem State.Within.install {s : State} (within : s.Within V) {objects : List Node}
    (covers : V.Covers (Node.wordsOf objects)) : (objects.foldl State.installNode s).Within V := by
  induction objects generalizing s with
  | nil => exact within
  | cons n rest ih =>
      obtain ⟨node, more⟩ := covers_append.mp covers
      exact ih (within.installNode node) more

/-- **The objects that a run begins with have no texts but those of the program.** -/
theorem Program.within_base {p : Program} (covers : V.Covers p.words) : p.base.Within V :=
  State.within_initial.install covers

end PhiCalculus
