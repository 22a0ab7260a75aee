import PhiCalculus.Session

/-!
# The expressions of checked programs

A program that passes its check is made of few kinds of expressions: literals that can be read,
names, attributes, methods, arguments, copies, arrays and objects built around their self
(`Expr.Written`).  It refers to no object beforehand, fails or raises nowhere on purpose, and every
slot of an object that it builds is empty or computed once, under a name that is not reserved.

An abstraction stands in scopes: its own declarations, and around them those of the abstractions
that it is written in, up to the top level (`Program.Scopes`).  What a slot computes is evaluated
part by part for one and the same self (`Expr.Part`).  So whatever is evaluated for an object is a
part of something that the object declares, and it is such an expression
(`Program.Scopes.written`).
-/

set_option autoImplicit false

namespace PhiCalculus

/-- Slots under their names, as an abstraction or a computation declares them. -/
abbrev Declared := List (String × SlotExpr)

/-! ## Expressions -/

/-- The declarations of an abstraction: no name is reserved, and every slot is empty at first, and
written by an argument or computed once. -/
structure Declared.Plain (decl : Declared) : Prop where
  unreserved : ∀ name slot, (name, slot) ∈ decl → name ∉ reserved
  kinds : ∀ name slot, (name, slot) ∈ decl →
    slot = .free ∨ slot = .vararg ∨ ∃ origin, slot = .once origin

/-- The expressions that checked programs are made of. -/
inductive Expr.Written : Expr → Prop where
  | self : Written .self
  | literal {type text : String} {tag : TypeTag} {v : Value} : TypeTag.ofName? type = some tag →
      Value.parse tag text = .ok v → Written (.literal type text)
  | array {items : List Expr} : (∀ e ∈ items, Written e) → Written (.array items)
  | name (n : String) : Written (.name n)
  | get {e : Expr} (name : String) : Written e → Written (.get e name)
  | method {e : Expr} (name : String) : Written e → Written (.method e name)
  | bind {base value : Expr} (key : Key) : Written base → Written value →
      Written (.bind base key value)
  | copied {e : Expr} : Written e → Written (.copied e)
  | unvar {e : Expr} : Written e → Written (.unvar e)
  | build {form : String} {decl : Declared} : decl.Plain →
      (∀ name origin, (name, .once origin) ∈ decl → Written origin) →
        Written (.build form (some .self) decl)

/-- The parts of an expression that are evaluated for the same self.  The slots of a new object are
not among them: they are evaluated for that object. -/
inductive Expr.Part (whole : Expr) : Expr → Prop where
  | whole : Part whole whole
  | item {items : List Expr} {e : Expr} : Part whole (.array items) → e ∈ items → Part whole e
  | get {e : Expr} {name : String} : Part whole (.get e name) → Part whole e
  | method {e : Expr} {name : String} : Part whole (.method e name) → Part whole e
  | base {base value : Expr} {key : Key} : Part whole (.bind base key value) → Part whole base
  | argument {base value : Expr} {key : Key} : Part whole (.bind base key value) →
      Part whole value
  | copied {e : Expr} : Part whole (.copied e) → Part whole e
  | unvar {e : Expr} : Part whole (.unvar e) → Part whole e
  | home {form : String} {e : Expr} {decl : Declared} : Part whole (.build form (some e) decl) →
      Part whole e

theorem Expr.Part.written {whole e : Expr} (part : Part whole e) (h : whole.Written) :
    e.Written := by
  induction part with
  | whole => exact h
  | item _ there ih =>
      cases ih with
      | array items => exact items _ there
  | get _ ih =>
      cases ih with
      | get _ inner => exact inner
  | method _ ih =>
      cases ih with
      | method _ inner => exact inner
  | base _ ih =>
      cases ih with
      | bind _ base _ => exact base
  | argument _ ih =>
      cases ih with
      | bind _ _ value => exact value
  | copied _ ih =>
      cases ih with
      | copied inner => exact inner
  | unvar _ ih =>
      cases ih with
      | unvar inner => exact inner
  | home _ ih =>
      cases ih with
      | build _ _ => exact .self

theorem Expr.refsOf_eq_nil {items : List Expr} (none : ∀ e ∈ items, e.refs = []) :
    Expr.refsOf items = [] := by
  induction items with
  | nil => rfl
  | cons e rest ih =>
      obtain ⟨first, others⟩ := List.forall_mem_cons.mp none
      rw [Expr.refsOf, first, ih others]
      rfl

theorem SlotExpr.refsOf_eq_nil {decl : Declared}
    (none : ∀ name slot, (name, slot) ∈ decl → slot.refs = []) : SlotExpr.refsOf decl = [] := by
  induction decl with
  | nil => rfl
  | cons a rest ih =>
      rw [SlotExpr.refsOf, none a.1 a.2 List.mem_cons_self,
        ih fun name slot there => none name slot (List.mem_cons_of_mem _ there)]
      rfl

/-- Slots whose computations refer to no object refer to none. -/
theorem Declared.Plain.refs {decl : Declared} (plain : decl.Plain)
    (none : ∀ name origin, (name, .once origin) ∈ decl → origin.refs = []) {name : String}
    {slot : SlotExpr} (there : (name, slot) ∈ decl) : slot.refs = [] := by
  rcases plain.kinds name slot there with rfl | rfl | ⟨origin, rfl⟩
  · rfl
  · rfl
  · exact none name origin there

/-- Checked programs refer to no object beforehand. -/
theorem Expr.Written.refs {e : Expr} (written : e.Written) : e.refs = [] := by
  induction written with
  | array _ ih => exact Expr.refsOf_eq_nil ih
  | bind _ _ _ base value => rw [Expr.refs, base, value]; rfl
  | build plain _ ih =>
      rw [Expr.refs, SlotExpr.refsOf_eq_nil fun _ _ there => plain.refs ih there]
      rfl
  | _ => first | rfl | assumption

theorem Expr.written_bindAll {base : Expr} {args : List (Key × Expr)} (start : base.Written)
    (values : ∀ key value, (key, value) ∈ args → value.Written) :
    (bindAll base args).Written := by
  induction args generalizing base with
  | nil => exact start
  | cons arg rest ih =>
      obtain ⟨key, value⟩ := arg
      have bound := start.bind key (values key value List.mem_cons_self)
      exact ih bound fun key value there => values key value (List.mem_cons_of_mem _ there)

/-- An application of checked arguments is made of such expressions, if a method has something to be
a method of. -/
theorem Expr.written_applied {line : Nat} {base : Base} {copy : Bool} {args : List (Key × Expr)}
    (receiver : ∀ name, base = .method name → args ≠ [])
    (values : ∀ key value, (key, value) ∈ args → value.Written) :
    (applied line base copy args).Written := by
  have started {e : Expr} (h : e.Written) : (if copy then Expr.copied e else e).Written := by
    split
    · exact h.copied
    · exact h
  cases base with
  | ref name => exact written_bindAll (started (.name _)) values
  | method name =>
      cases args with
      | nil => exact absurd rfl (receiver name rfl)
      | cons arg rest =>
          have first := values arg.1 arg.2 List.mem_cons_self
          exact written_bindAll (started (first.method _)) fun key value there =>
            values key value (List.mem_cons_of_mem _ there)
  | xi => exact written_bindAll (started .self) values
  | rho => exact written_bindAll (started (.get _ .self)) values
  | sigma => exact written_bindAll (started (.get _ .self)) values
  | array =>
      refine started (.array fun e value => ?_)
      obtain ⟨arg, there, rfl⟩ := List.mem_map.mp value
      exact values arg.1 arg.2 there

/-! ## What the check lets pass -/

/-- A check in two steps passes where both do. -/
theorem ok_of_bind {ε α β : Type} {x : Except ε α} {f : α → Except ε β} {b : β}
    (ok : x >>= f = .ok b) : ∃ a, x = .ok a ∧ f a = .ok b := by
  cases x with
  | error e => cases ok
  | ok a => exact ⟨a, rfl, ok⟩

theorem unreserved_of_checkName {name : String} {line : Nat} (ok : checkName name line = .ok ()) :
    name ∉ reserved := by
  intro there
  rw [checkName, if_pos (List.contains_iff_mem.mpr there)] at ok
  cases ok

theorem attrName_unreserved {name : String} (plain : name ∉ reserved) :
    attrName name ∉ reserved := by
  rw [attrName]
  split
  · decide
  · exact plain

theorem unreserved_of_checkParams {object : String} {line : Nat} {params : List Parameter}
    {seen names : List String} (ok : checkParams object line seen params = .ok names) :
    ∀ p ∈ params, p.name ∉ reserved := by
  induction params generalizing seen with
  | nil => simp
  | cons p rest ih =>
      obtain ⟨_, named, ok⟩ := ok_of_bind ok
      split at ok
      · cases ok
      · split at ok
        · cases ok
        · exact List.forall_mem_cons.mpr ⟨unreserved_of_checkName named, ih ok⟩

/-- Slots of attributes that are computed by such expressions. -/
structure Declared.Written (decl : Declared) : Prop where
  plain : decl.Plain
  computed : ∀ name origin, (name, .once origin) ∈ decl → origin.Written

theorem Declared.written_params {params : List Parameter}
    (unreserved : ∀ p ∈ params, p.name ∉ reserved) :
    Declared.Written (Parameter.slots params) where
  plain := by
    constructor <;> intro name slot there <;> obtain ⟨p, declared, same⟩ := List.mem_map.mp there
    · cases same
      exact unreserved p declared
    · cases same
      split
      · exact .inr (.inl rfl)
      · exact .inl rfl
  computed := by
    intro name origin there
    obtain ⟨p, -, same⟩ := List.mem_map.mp there
    rcases p with ⟨_, _ | _⟩ <;> simp at same

theorem Declared.Written.append {first second : Declared} (h : first.Written)
    (h' : second.Written) : Declared.Written (first ++ second) where
  plain := {
    unreserved := fun name slot there => (List.mem_append.mp there).elim
      (h.plain.unreserved name slot) (h'.plain.unreserved name slot)
    kinds := fun name slot there => (List.mem_append.mp there).elim
      (h.plain.kinds name slot) (h'.plain.kinds name slot) }
  computed := fun name origin there => (List.mem_append.mp there).elim
    (h.computed name origin) (h'.computed name origin)

theorem Declared.Written.cons {name : String} {origin : Expr} {rest : Declared}
    (plain : name ∉ reserved) (written : origin.Written) (h : rest.Written) :
    Declared.Written ((name, .once origin) :: rest) where
  plain := by
    constructor <;> intro n slot there <;> rcases List.mem_cons.mp there with same | there
    · cases same
      exact plain
    · exact h.plain.unreserved n slot there
    · cases same
      exact .inr (.inr ⟨origin, rfl⟩)
    · exact h.plain.kinds n slot there
  computed := by
    intro n e there
    rcases List.mem_cons.mp there with same | there
    · cases same
      exact written
    · exact h.computed n e there

mutual

/-- **The expression of a checked node is written.** -/
theorem Node.written_of_check : ∀ n : Node, n.check = .ok () → n.expr.Written
  | .abstraction name line params attrs, ok => by
      rw [Node.check] at ok
      obtain ⟨seen, checked, ok⟩ := ok_of_bind ok
      have decl := (Declared.written_params (unreserved_of_checkParams checked)).append
        (Node.written_of_checkAttrs _ seen attrs ok)
      rw [Node.expr]
      exact .build decl.plain decl.computed
  | .application name line base args copy unvar, ok => by
      rw [Node.check] at ok
      obtain ⟨_, received, ok⟩ := ok_of_bind ok
      have values := Node.written_of_checkArgs args ok
      have applied : (applied line base copy (Node.arguments args)).Written := by
        refine Expr.written_applied (fun name method none => ?_) values
        subst method
        cases args with
        | nil => cases received
        | cons n rest => simp [Node.arguments] at none
      rw [Node.expr]
      split
      · exact applied.unvar
      · exact applied
  | .data name line type value, ok => by
      rw [Node.check, checkLiteral] at ok
      rw [Node.expr]
      cases known : TypeTag.ofName? type with
      | none => simp [known] at ok
      | some tag =>
          simp only [known] at ok
          cases read : Value.parse tag value with
          | error fault => simp [read] at ok
          | ok v => exact .literal known read

theorem Node.written_of_checkAttrs : ∀ (object : String) (seen : List String) (attrs : List Node),
    Node.checkAttrs object seen attrs = .ok () → Declared.Written (Node.attrSlots attrs)
  | _, _, [], _ => by
      rw [Node.attrSlots]
      exact ⟨⟨by simp, by simp⟩, by simp⟩
  | object, seen, n :: rest, ok => by
      rw [Node.checkAttrs] at ok
      cases named : n.name with
      | none => simp [named] at ok
      | some name =>
          rw [named] at ok
          obtain ⟨_, plain, ok⟩ := ok_of_bind ok
          split at ok
          · cases ok
          · obtain ⟨_, checked, ok⟩ := ok_of_bind ok
            rw [Node.attrSlots, named]
            exact .cons (attrName_unreserved (unreserved_of_checkName plain))
              (Node.written_of_check n checked) (Node.written_of_checkAttrs _ _ rest ok)

theorem Node.written_of_checkArgs : ∀ args : List Node, Node.checkArgs args = .ok () →
    ∀ key value, (key, value) ∈ Node.arguments args → value.Written
  | [], _ => by
      rw [Node.arguments]
      simp
  | n :: rest, ok => by
      rw [Node.checkArgs] at ok
      have ok : (n.check >>= fun _ => Node.checkArgs rest) = .ok () := by
        cases named : n.name with
        | none => rwa [named] at ok
        | some name =>
            rw [named] at ok
            exact (ok_of_bind ok).choose_spec.2
      obtain ⟨_, checked, ok⟩ := ok_of_bind ok
      intro key value there
      rw [Node.arguments] at there
      rcases List.mem_cons.mp there with same | there
      · cases same
        exact Node.written_of_check n checked
      · exact Node.written_of_checkArgs rest ok key value there

end

/-! ## Top-level objects -/

/-- What the check of a program says of its objects: each is an abstraction with a name, and it is
written. -/
theorem checked_objects {program : String} {seen : List String} {objects : List Node}
    (ok : checkObjects program seen objects = .ok ()) :
    ∀ n ∈ objects, ∃ name line params attrs, n = .abstraction (some name) line params attrs ∧
      Declared.Written (Parameter.slots params ++ Node.attrSlots attrs) := by
  induction objects generalizing seen with
  | nil => simp
  | cons n rest ih =>
      rw [checkObjects] at ok
      cases named : n.name with
      | none => simp [named] at ok
      | some name =>
          simp only [named] at ok
          split at ok
          · cases ok
          · next isAbstraction =>
            split at ok
            · cases ok
            · obtain ⟨_, checked, ok⟩ := ok_of_bind ok
              refine List.forall_mem_cons.mpr ⟨?_, ih ok⟩
              cases n with
              | abstraction own line params attrs =>
                  cases named
                  have written := Node.written_of_check _ checked
                  rw [Node.expr] at written
                  cases written with
                  | build plain computed => exact ⟨name, line, params, attrs, rfl, plain, computed⟩
              | application | data => simp [Node.isAbstraction] at isAbstraction

/-! ## Scopes -/

/-- What abstractions of a program declare, from the inside to the outside: the abstraction itself
and all that it is written in. -/
inductive Program.Scopes (p : Program) : List Declared → Prop where
  | top {name : Option String} {line : Nat} {params : List Parameter} {attrs : List Node} :
      .abstraction name line params attrs ∈ p.objects →
        Scopes p [Parameter.slots params ++ Node.attrSlots attrs]
  | inner {decl inner : Declared} {outer : List Declared} {name form : String}
      {origin : Expr} {home : Option Expr} : Scopes p (decl :: outer) →
        (name, .once origin) ∈ decl → origin.Part (.build form home inner) →
          Scopes p (inner :: decl :: outer)

/-- **In a checked program every abstraction declares slots of written expressions.** -/
theorem Program.Scopes.written {p : Program} (ok : p.check = .ok ()) {decl : Declared}
    {outer : List Declared} (scopes : p.Scopes (decl :: outer)) : decl.Written := by
  generalize all : decl :: outer = ctx at scopes
  induction scopes generalizing decl outer with
  | top there =>
      cases all
      obtain ⟨name, line, params, attrs, same, written⟩ := checked_objects ok _ there
      cases same
      exact written
  | inner _ declared part ih =>
      cases all
      have around := ih rfl
      have built := part.written (around.computed _ _ declared)
      cases built with
      | build plain computed => exact ⟨plain, computed⟩

end PhiCalculus
