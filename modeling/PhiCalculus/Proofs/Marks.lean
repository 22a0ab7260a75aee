import PhiCalculus.Proofs.Matching
import PhiCalculus.Proofs.Resolution

/-!
# What is to be spread

An array is to be spread if it comes from a node with the flag for spreading.  Such an array may be
given to a parameter, or be what an attribute is, and it is kept in the slot as it is.  So a node
without the flag gives an array to be spread as well, but only if it is nothing but a name and the
object itself declares it (`Node.isUnvar_iff`): a name of an enclosing object is a view of its
attribute, and every other node makes an object or gives one that is no view.
-/

set_option autoImplicit false

namespace PhiCalculus

open PhiCalculus.Action

/-! ## Nodes -/

/-- Whether the node has the flag for spreading. -/
def Node.unvar : Node → Bool
  | .application _ _ _ _ _ unvar => unvar
  | _ => false

/-- The name, if the node is nothing but a name. -/
def Node.bare? : Node → Option String
  | .application _ _ (.ref name) [] false false => some (attrName name)
  | _ => none

/-- The expression is of a form that gives no array to be spread. -/
inductive Expr.Single : Expr → Prop where
  | self : Single .self
  | owner : Single (.get .self rho)
  | home : Single (.get .self sigma)
  | literal (type text : String) : Single (.literal type text)
  | array (items : List Expr) : Single (.array items)
  | method (e : Expr) (name : String) : Single (.method e name)
  | bind (base : Expr) (key : Key) (value : Expr) : Single (.bind base key value)
  | copied (e : Expr) : Single (.copied e)
  | build (form : String) (home : Option Expr) (attrs : List (String × SlotExpr)) :
      Single (.build form home attrs)
  | fail (message : String) : Single (.fail message)

theorem Expr.Single.bindAll {e : Expr} (single : e.Single) (args : List (Key × Expr)) :
    (PhiCalculus.bindAll e args).Single := by
  induction args generalizing e with
  | nil => exact single
  | cons arg rest ih => exact ih (.bind e arg.1 arg.2)

/-- What becomes of a node: it has the flag, it is nothing but a name, or it is of another form. -/
inductive Node.Form (n : Node) : Prop where
  | flagged {e : Expr} : n.unvar = true → n.expr = .unvar e → Form n
  | name {name : String} : n.unvar = false → n.bare? = some name → n.expr = .name name → Form n
  | single : n.unvar = false → n.bare? = none → n.expr.Single → Form n

/-- **Every node is of some form.** -/
theorem Node.form_of (n : Node) : n.Form := by
  cases n with
  | abstraction name line params attrs => exact .single rfl rfl (.build _ _ _)
  | data name line type value => exact .single rfl rfl (.literal type value)
  | application name line base args copy unvar =>
      cases unvar with
      | true => exact .flagged rfl rfl
      | false =>
          have started {e : Expr} (single : e.Single) :
              (if copy then Expr.copied e else e).Single := by
            split
            · exact .copied e
            · exact single
          cases base with
          | ref n =>
              cases args with
              | nil =>
                  cases copy with
                  | false => exact .name rfl rfl rfl
                  | true => exact .single rfl rfl (.copied _)
              | cons arg rest => exact .single rfl rfl ((Expr.Single.bind _ _ _).bindAll _)
          | method n =>
              cases args with
              | nil => exact .single rfl rfl (.fail _)
              | cons arg rest => exact .single rfl rfl ((started (.method _ _)).bindAll _)
          | xi => exact .single rfl rfl ((started .self).bindAll _)
          | rho => exact .single rfl rfl ((started .owner).bindAll _)
          | sigma => exact .single rfl rfl ((started .home).bindAll _)
          | array => exact .single rfl rfl (started (.array _))

/-! ## What expressions give -/

theorem Cell.isUnvar_of_concrete {c : Cell} (concrete : c.isView = false) : c.isUnvar = false := by
  rw [Cell.isUnvar]
  rw [Cell.isView] at concrete
  cases kind : c.kind with
  | view v result => simp [kind] at concrete
  | _ => rfl

/-- The object is a table, and neither its owner nor its home is a view. -/
structure Heap.Grounded (h : Heap) (r : Ref) : Prop where
  table : ∃ t, (h.cell r).kind = .table t
  owner : ∀ o, (h.cell r).owner? = some o → (h.cell o).isView = false
  home : ∀ o, (h.cell r).home? = some o → (h.cell o).isView = false

section

variable {s t : State} {frame : Frame} {self r : Ref} {steps : Nat}

theorem eval_self (ends : answerWithin steps (.eval .self self) frame s = .answer r t) :
    r = self ∧ t = s := by
  cases steps with
  | zero => cases ends
  | succ steps =>
      cases ends
      exact ⟨rfl, rfl⟩

/-- What is got of an object is read from a place where its name is found. -/
theorem eval_get {e : Expr} {name : String}
    (ends : answerWithin (steps + 1) (.eval (.get e name) self) frame s = .answer r t) :
    ∃ o s₁ p s₂ around around', answerWithin steps (.eval e self) (frame.holding [self]) s =
        .answer o s₁ ∧
      answerWithin steps (.find o name) around s₁ = .answer p s₂ ∧
        answerWithin steps (.read p) around' s₂ = .answer r t := by
  have evaluated : evalExpr (answerWithin steps) self (.get e name) (frame.holding [self]) s =
      .answer r t := ends
  obtain ⟨o, s₁, first, rest⟩ := bind_eq_answer.mp evaluated
  obtain ⟨p, s₂, found, read⟩ := bind_eq_answer.mp rest
  exact ⟨o, s₁, p, s₂, _, _, first, found, read⟩

/-- A new object is what it was made. -/
theorem kind_of_alloc {k : Kind} (made : Action.alloc k frame s = .answer r t) :
    (t.heap.cell r).kind = k := by
  injection (alloc_apply k frame s).symm.trans made with here there
  rw [← here, ← there]
  exact s.kind_alloc k

theorem grows_of_alloc {k : Kind} (made : Action.alloc k frame s = .answer r t) :
    s.heap.Grows t.heap := by
  injection (alloc_apply k frame s).symm.trans made with here there
  rw [← there]
  exact s.grows_alloc k

theorem kind_of_data {v : Value} (made : Action.data v frame s = .answer r t) :
    (t.heap.cell r).kind = .data v := by
  injection (data_apply v frame s).symm.trans made with here there
  rw [← here, ← there]
  exact s.kind_allocData v

theorem kind_of_literal {type text : String} (made : literal type text frame s = .answer r t) :
    ∃ v, (t.heap.cell r).kind = .data v := by
  rcases literal_cases type text with ⟨tag, v, -, -, same⟩ | refused | ⟨fault, refused⟩
  · rw [same] at made
    exact ⟨v, kind_of_data made⟩
  · rw [refused] at made
    cases made
  · rw [refused] at made
    cases made

/-- What the owner of an object is read as. -/
theorem read_owner {table : Table} (kind : (s.heap.cell self).kind = .table table)
    (ends : answerWithin (steps + 1) (.eval (.get .self rho) self) frame s = .answer r t) :
    (s.heap.cell self).owner? = some r ∧ t = s := by
  obtain ⟨o, s₁, p, s₂, around, around', first, found, read⟩ := eval_get ends
  obtain ⟨rfl, rfl⟩ := eval_self first
  cases steps with
  | zero => cases first
  | succ steps =>
      have place : findPlace (answerWithin steps) o rho (around.holding [o]) s₁ =
          .answer (.owner o) s₁ := by
        rw [findPlace, bind_of_answer (cell_apply o _ s₁), kind]
        rfl
      cases place.symm.trans found
      have content : readPlace (answerWithin steps) (.owner o) (around'.holding [o]) s₁ =
          .answer r t := read
      rw [readPlace, bind_of_answer (cell_apply o _ s₁)] at content
      cases owned : (s₁.heap.cell o).owner? with
      | some owner =>
          rw [owned] at content
          cases content
          exact ⟨rfl, rfl⟩
      | none =>
          rw [owned] at content
          cases content

/-- What the home of an object is read as. -/
theorem read_home {table : Table} (kind : (s.heap.cell self).kind = .table table)
    (ends : answerWithin (steps + 1) (.eval (.get .self sigma) self) frame s = .answer r t) :
    (s.heap.cell self).home? = some r ∧ t = s := by
  obtain ⟨o, s₁, p, s₂, around, around', first, found, read⟩ := eval_get ends
  obtain ⟨rfl, rfl⟩ := eval_self first
  cases steps with
  | zero => cases first
  | succ steps =>
      have place : findHome o (around.holding [o]) s₁ = .answer p s₂ := by
        have found : findPlace (answerWithin steps) o sigma (around.holding [o]) s₁ = _ := found
        rw [findPlace, bind_of_answer (cell_apply o _ s₁), kind] at found
        exact found
      rw [findHome, bind_of_answer (frame_apply _ s₁), bind_of_answer (cell_apply o _ s₁)] at place
      cases homed : (s₁.heap.cell o).home? with
      | none =>
          rw [homed] at place
          cases place
      | some home =>
          rw [homed] at place
          dsimp only at place
          rw [bind_of_answer (asks_apply _ _ s₁)] at place
          cases present : s₁.home? (around.holding [o]).held o with
          | none =>
              rw [present] at place
              cases place
          | some home' =>
              rw [present] at place
              cases place
              cases (read : readPlace (answerWithin steps) (.fixed o sigma home')
                (around'.holding [o, home']) s₁ = _)
              exact ⟨homed.symm.trans (State.home?_eq present), rfl⟩

/-- Expressions of such forms give nothing to be spread. -/
theorem Expr.Single.answered {e : Expr} (single : e.Single) (grounded : s.heap.Grounded self)
    (ends : answerWithin steps (.eval e self) frame s = .answer r t) :
    (t.heap.cell r).isUnvar = false := by
  obtain ⟨⟨table, kind⟩, owners, homes⟩ := grounded
  cases steps with
  | zero => cases ends
  | succ steps =>
      have evaluated : evalExpr (answerWithin steps) self e (frame.holding [self]) s =
          .answer r t := ends
      have viewed {around : Frame} {u : State} {v : View}
          (plain : ∀ x : Vertex, (⟨x, .view v none⟩ : Cell).isUnvar = false)
          (made : Action.view v around u = .answer r t) : (t.heap.cell r).isUnvar = false := by
        rw [Cell.isUnvar, kind_of_alloc made]
        exact plain ⟨0⟩
      have built {around : Frame} {u : State} {table : Table}
          (made : Action.alloc (.table table) around u = .answer r t) :
          (t.heap.cell r).isUnvar = false :=
        Cell.isUnvar_of_concrete (isView_of_table (kind_of_alloc made))
      cases single with
      | self =>
          obtain ⟨rfl, rfl⟩ := eval_self ends
          exact Cell.isUnvar_of_concrete (isView_of_table kind)
      | owner =>
          obtain ⟨owned, rfl⟩ := read_owner kind ends
          exact Cell.isUnvar_of_concrete (owners r owned)
      | home =>
          obtain ⟨homed, rfl⟩ := read_home kind ends
          exact Cell.isUnvar_of_concrete (homes r homed)
      | literal type text =>
          obtain ⟨v, kind⟩ := kind_of_literal evaluated
          exact Cell.isUnvar_of_concrete (isView_of_data kind)
      | array items =>
          obtain ⟨refs, u, -, last⟩ := bind_eq_answer.mp evaluated
          exact Cell.isUnvar_of_concrete (isView_of_data (kind_of_data last))
      | method e name =>
          obtain ⟨b, u, -, last⟩ := bind_eq_answer.mp evaluated
          exact viewed (fun _ => rfl) last
      | bind base key value =>
          obtain ⟨b, u, -, rest⟩ := bind_eq_answer.mp evaluated
          obtain ⟨x, u, -, last⟩ := bind_eq_answer.mp rest
          exact viewed (fun _ => rfl) last
      | copied e =>
          obtain ⟨b, u, -, last⟩ := bind_eq_answer.mp evaluated
          exact viewed (fun _ => rfl) last
      | build form home attrs =>
          cases home with
          | none =>
              obtain ⟨slots, u, -, last⟩ := bind_eq_answer.mp evaluated
              exact built last
          | some e =>
              obtain ⟨home, u, -, rest⟩ := bind_eq_answer.mp evaluated
              obtain ⟨slots, u, -, last⟩ := bind_eq_answer.mp rest
              exact built last
      | fail message => cases evaluated

/-! ## Names -/

/-- The object is in the slot of that name, whether it was written there or computed. -/
def Heap.Stores (h : Heap) (r : Ref) (name : String) (x : Ref) : Prop :=
  h.slot? r name = some (.free (some x)) ∨ ∃ origin, h.slot? r name = some (.once origin (some x))

theorem Heap.Stores.grows {h h' : Heap} {x : Ref} {name : String} (stores : h.Stores r name x)
    (grown : h.Grows h') : h'.Stores r name x := by
  rcases stores with found | ⟨origin, found⟩
  · obtain ⟨content, found', stays⟩ := grown.free found
    rw [stays x rfl] at found'
    exact .inl found'
  · obtain ⟨cache, found', stays⟩ := grown.once found
    rw [stays x rfl] at found'
    exact .inr ⟨origin, found'⟩

theorem Heap.Stores.unique {h : Heap} {x y : Ref} {name : String} (stores : h.Stores r name x)
    (stores' : h.Stores r name y) : x = y := by
  rcases stores with found | ⟨origin, found⟩ <;> rcases stores' with found' | ⟨origin', found'⟩ <;>
    cases found.symm.trans found' <;> rfl

/-- A slot that is not declared stores nothing later on. -/
theorem Heap.Grows.not_stores {h h' : Heap} {x : Ref} {name : String} (grown : h.Grows h')
    (exist : r.index < h.size) (none : h.slot? r name = none) : ¬ h'.Stores r name x := by
  intro stores
  have declared : ((h'.cell r).slots.find? name).isSome = true := by
    rcases stores with found | ⟨origin, found⟩ <;> exact Option.isSome_of_eq_some found
  rw [Slots.isSome_find?_iff, (grown.cell r exist).slots.names,
    ← Slots.isSome_find?_iff] at declared
  have before : (h.slot? r name).isSome = true := declared
  rw [none] at before
  cases before

/-- What is computed for a slot is in it then. -/
theorem keep_stores {name : String} {origin : Expr} {cache : Option Ref} {computed : Ref}
    (once : s.heap.slot? self name = some (.once origin cache))
    (ends : keep self name computed frame s = .answer r t) : t.heap.Stores self name r :=
  .inr ⟨origin, keep_once once ends⟩

/-- A name of which the object has no slot gives a new view, which has no flag. -/
theorem isUnvar_of_lookUp {name : String} (own : s.heap.slot? self name = none)
    (looked : lookUp (answerWithin steps) self name (frame.holding [self]) s = .answer r t) :
    (t.heap.cell r).isUnvar = false := by
  have none : (s.heap.slot? self name).isSome = false := by rw [own]; rfl
  cases around : s.enclosing? (self :: frame.held) name (self.index + 1) self with
  | some outer =>
      rw [lookUp_of_enclosing _ none around] at looked
      rw [Cell.isUnvar, kind_of_alloc looked]
  | none =>
      rw [lookUp_of_global _ none around] at looked
      cases global : s.global? name with
      | some g =>
          rw [global] at looked
          rw [Cell.isUnvar, kind_of_alloc looked]
      | none =>
          rw [global] at looked
          cases looked

/-- What is read from a slot is in it from then on, unless the slot takes any number of arguments:
then an array is read, which has no flag. -/
theorem slot_answered {name : String} {slot : Slot} (own : s.heap.slot? self name = some slot)
    (plain : ∀ origin, slot ≠ .composite origin)
    (read : readPlace (answerWithin steps) (.slot self name) frame s = .answer r t) :
    t.heap.Stores self name r ∨ (t.heap.cell r).isUnvar = false ∧ ∃ items, slot = .vararg items := by
  rw [readPlace, bind_of_answer (asks_apply _ _ s), own] at read
  cases slot with
  | free content =>
      cases content with
      | none => cases read
      | some x =>
          cases read
          exact .inl (.inl own)
  | once origin cache =>
      cases cache with
      | some x =>
          cases read
          exact .inl (.inr ⟨origin, own⟩)
      | none =>
          obtain ⟨computed, u, evaluated, kept⟩ := bind_eq_answer.mp read
          have before := Custody.grows_answerWithin steps (.eval origin self) frame s
          rw [evaluated] at before
          obtain ⟨cache, found, -⟩ := before.once own
          exact .inl (keep_stores found kept)
  | vararg items =>
      exact .inr ⟨Cell.isUnvar_of_concrete (isView_of_data (kind_of_data read)), items, rfl⟩
  | composite origin => exact absurd rfl (plain origin)

/-- **A name gives what is in an own slot, or nothing to be spread.**  In the second case nothing is
ever in such a slot. -/
theorem name_answered {name : String} (exist : self.index < s.heap.size)
    (plain : ∀ origin, s.heap.slot? self name ≠ some (.composite origin))
    (ends : answerWithin steps (.eval (.name name) self) frame s = .answer r t) :
    t.heap.Stores self name r ∨ (t.heap.cell r).isUnvar = false ∧
      ∀ h x, t.heap.Grows h → ¬ h.Stores self name x := by
  have grown := Custody.grows_answerWithin steps (.eval (.name name) self) frame s
  rw [ends] at grown
  cases steps with
  | zero => cases ends
  | succ steps =>
      have looked : lookUp (answerWithin steps) self name (frame.holding [self]) s =
          .answer r t := ends
      cases own : s.heap.slot? self name with
      | none =>
          exact .inr ⟨isUnvar_of_lookUp own looked,
            fun h x later => (grown.trans later).not_stores exist own⟩
      | some slot =>
          rw [lookUp_of_own (by rw [own]; rfl)] at looked
          cases steps with
          | zero => cases looked
          | succ steps =>
              refine (slot_answered own (fun origin is => plain origin (own.trans (congrArg some is)))
                looked).imp id fun ⟨single, items, is⟩ => ⟨single, fun h x later stores => ?_⟩
              subst is
              obtain ⟨items', found, -⟩ := (grown.trans later).vararg own
              rcases stores with stored | ⟨origin, stored⟩ <;> cases found.symm.trans stored

/-! ## What is to be spread -/

/-- The node has the flag for spreading, or it is nothing but a name, and what is in the own slot of
that name is an array to be spread. -/
def Heap.Spreads (h : Heap) (self : Ref) (n : Node) : Prop :=
  n.unvar = true ∨
    ∃ name x, n.bare? = some name ∧ h.Stores self name x ∧ (h.cell x).isUnvar = true

/-- **What nodes give to be spread**: nothing else hands on an array that is to be spread. -/
theorem Node.isUnvar_iff {n : Node} (exist : self.index < s.heap.size)
    (grounded : s.heap.Grounded self)
    (plain : ∀ name origin, s.heap.slot? self name ≠ some (.composite origin))
    (ends : answerWithin steps (.eval n.expr self) frame s = .answer r t)
    (there : r.index < t.heap.size) {h : Heap} (later : t.heap.Grows h) :
    (h.cell r).isUnvar = true ↔ h.Spreads self n := by
  have same : (h.cell r).isUnvar = (t.heap.cell r).isUnvar := (later.cell r there).isUnvar
  cases n.form_of with
  | @flagged e flag is =>
      refine iff_of_true ?_ (.inl flag)
      rw [is] at ends
      cases steps with
      | zero => cases ends
      | succ steps =>
          have evaluated : evalExpr (answerWithin steps) self (.unvar e) (frame.holding [self]) s =
              .answer r t := ends
          obtain ⟨b, u, -, last⟩ := bind_eq_answer.mp evaluated
          rw [same, Cell.isUnvar, kind_of_alloc last]
  | @name name flag bare is =>
      rw [is] at ends
      rcases name_answered exist (plain name) ends with stores | ⟨single, nothing⟩
      · refine ⟨fun marked => .inr ⟨name, r, bare, stores.grows later, marked⟩, ?_⟩
        rintro (flagged | ⟨name', x, bare', stores', marked⟩)
        · exact absurd (flag.symm.trans flagged) Bool.false_ne_true
        · cases bare.symm.trans bare'
          rwa [(stores.grows later).unique stores']
      · refine iff_of_false (by rw [same, single]; exact Bool.false_ne_true) ?_
        rintro (flagged | ⟨name', x, bare', stores', marked⟩)
        · exact absurd (flag.symm.trans flagged) Bool.false_ne_true
        · cases bare.symm.trans bare'
          exact nothing h x later stores'
  | single flag bare single =>
      refine iff_of_false (by rw [same, single.answered grounded ends]; exact Bool.false_ne_true) ?_
      rintro (flagged | ⟨name, x, bare', -⟩)
      · exact absurd (flag.symm.trans flagged) Bool.false_ne_true
      · cases bare.symm.trans bare'

end

end PhiCalculus
