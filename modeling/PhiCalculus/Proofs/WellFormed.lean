import Mathlib.Data.List.Induction
import Mathlib.Data.List.Nodup
import PhiCalculus.Tree.Check

/-!
# Well-formed programs

The rules for programs are told apart from the walk that checks them.  A node keeps the rules
(`Node.Lawful`) or it does not, and a program is well-formed if each of its objects is a named
abstraction, no two have one name, and every node keeps the rules (`Program.WellFormed`).

A place in a tree is the list of the numbers of the children on the way to it, where parameters are
numbered before attributes.  What breaks a rule does so at a place (`Node.Violates`).  Places are
ordered as lists are, so a node comes before what is below it and that before its later siblings,
and at one place some rules are looked at before others (`Precedes`).

The check passes the well-formed programs and no others, and what it reports is the first fault in
that order, with the line where it is (`Program.check_reports_first`).  This is shown for one
sibling after the other (`Reports.first`, `Reports.inside`, `Reports.later`) and then by recursion
on the tree (`Node.check_reports`).
-/

set_option autoImplicit false

namespace PhiCalculus

/-! ## The rules -/

/-- The name under which an attribute is declared: the sign `@` is read as `φ`. -/
def Node.slotName (n : Node) : Option String := n.name.map attrName

/-- The rules for what an abstraction declares. -/
structure LawfulDeclarations (params : List Parameter) (attrs : List Node) : Prop where
  params_free : ∀ p ∈ params, p.name ∉ reserved
  only_last_vararg : ∀ p ∈ params.dropLast, p.vararg = false
  attrs_named : ∀ n ∈ attrs, ∃ name, n.name = some name ∧ name ∉ reserved
  distinct : (params.map Parameter.name ++ attrs.filterMap Node.slotName).Nodup

/-- A node keeps the rules, whatever is below it. -/
inductive Node.Lawful : Node → Prop where
  | abstraction {name : Option String} {line : Nat} {params : List Parameter} {attrs : List Node} :
      LawfulDeclarations params attrs → Lawful (.abstraction name line params attrs)
  | application {name : Option String} {line : Nat} {base : Base} {args : List Node}
      {copy unvar : Bool} : (∀ method, base = .method method → args ≠ []) →
        (∀ n ∈ args, ∀ own, n.name = some own → own ∉ reserved) →
          Lawful (.application name line base args copy unvar)
  | data {name : Option String} {line : Nat} {type value : String} {tag : TypeTag} {v : Value} :
      TypeTag.ofName? type = some tag → Value.parse tag value = .ok v →
        Lawful (.data name line type value)

/-- The nodes right below a node: its attributes or its arguments. -/
def Node.children : Node → List Node
  | .abstraction _ _ _ attrs => attrs
  | .application _ _ _ args _ _ => args
  | .data _ _ _ _ => []

/-- A node of the tree: its root or one below it. -/
inductive Node.Within (root : Node) : Node → Prop where
  | root : Within root root
  | child {n m : Node} : Within root n → m ∈ n.children → Within root m

/-- A program keeps all rules. -/
structure Program.WellFormed (p : Program) : Prop where
  objects : ∀ n ∈ p.objects, n.name.isSome = true ∧ n.isAbstraction = true
  distinct : (p.objects.filterMap Node.name).Nodup
  nodes : ∀ root ∈ p.objects, ∀ n, root.Within n → n.Lawful

/-! ## What breaks a rule -/

/-- The numbers of the children on the way to a place in a tree. -/
abbrev Address := List Nat

/-- What is wrong with a parameter that stands between others in an abstraction on that line. -/
inductive Parameter.Breaks (object : String) (line : Nat) (before : List Parameter) (p : Parameter)
    (after : List Parameter) : TreeFault → Prop where
  | reserved : p.name ∈ PhiCalculus.reserved →
      Breaks object line before p after (.reservedName p.name line)
  | misplaced : p.vararg = true → after ≠ [] →
      Breaks object line before p after (.misplacedVararg p.name line)
  | repeated : p.name ∈ before.map Parameter.name →
      Breaks object line before p after (.duplicateAttribute object p.name line)

/-- What is wrong with a node as an attribute of an object that declares those names before it. -/
inductive Node.BreaksAsAttribute (object : String) (declared : List String) (n : Node) :
    TreeFault → Prop where
  | unnamed : n.name = none → BreaksAsAttribute object declared n (.unnamedAttribute n.line)
  | reserved {name : String} : n.name = some name → name ∈ PhiCalculus.reserved →
      BreaksAsAttribute object declared n (.reservedName name n.line)
  | repeated {name : String} : n.name = some name → attrName name ∈ declared →
      BreaksAsAttribute object declared n (.duplicateAttribute object name n.line)

/-- What is wrong with a node as an argument. -/
inductive Node.BreaksAsArgument (n : Node) : TreeFault → Prop where
  | reserved {name : String} : n.name = some name → name ∈ PhiCalculus.reserved →
      BreaksAsArgument n (.reservedName name n.line)

/-- What is wrong with a node as an object of a program that has those names before it. -/
inductive Node.BreaksAsObject (program : String) (taken : List String) (n : Node) :
    TreeFault → Prop where
  | unnamed : n.name = none → BreaksAsObject program taken n (.unnamedObject n.line)
  | notAnAbstraction {name : String} : n.name = some name → n.isAbstraction = false →
      BreaksAsObject program taken n (.notAnAbstraction name n.line)
  | repeated {name : String} : n.name = some name → name ∈ taken →
      BreaksAsObject program taken n (.duplicateAttribute program name n.line)

/-- A rule is broken at a place of the tree. -/
inductive Node.Violates : Node → Address → TreeFault → Prop where
  | parameter {name : Option String} {line : Nat} {params before after : List Parameter}
      {p : Parameter} {attrs : List Node} {f : TreeFault} : params = before ++ p :: after →
        p.Breaks (name.getD "[]") line before after f →
          Violates (.abstraction name line params attrs) [before.length] f
  | asAttribute {name : Option String} {line : Nat} {params : List Parameter}
      {attrs before after : List Node} {n : Node} {f : TreeFault} : attrs = before ++ n :: after →
        n.BreaksAsAttribute (name.getD "[]")
          (params.map Parameter.name ++ before.filterMap Node.slotName) f →
          Violates (.abstraction name line params attrs) [params.length + before.length] f
  | inAttribute {name : Option String} {line : Nat} {params : List Parameter}
      {attrs before after : List Node} {n : Node} {a : Address} {f : TreeFault} :
        attrs = before ++ n :: after → Violates n a f →
          Violates (.abstraction name line params attrs) ((params.length + before.length) :: a) f
  | receiver {name : Option String} {line : Nat} {method : String} {copy unvar : Bool} :
      Violates (.application name line (.method method) [] copy unvar) []
        (.missingReceiver method line)
  | asArgument {name : Option String} {line : Nat} {base : Base} {args before after : List Node}
      {n : Node} {copy unvar : Bool} {f : TreeFault} : args = before ++ n :: after →
        n.BreaksAsArgument f →
          Violates (.application name line base args copy unvar) [before.length] f
  | inArgument {name : Option String} {line : Nat} {base : Base} {args before after : List Node}
      {n : Node} {copy unvar : Bool} {a : Address} {f : TreeFault} : args = before ++ n :: after →
        Violates n a f →
          Violates (.application name line base args copy unvar) (before.length :: a) f
  | unknownType {name : Option String} {line : Nat} {type value : String} :
      TypeTag.ofName? type = none →
        Violates (.data name line type value) [] (.unknownType type line)
  | literal {name : Option String} {line : Nat} {type value : String} {tag : TypeTag}
      {fault : LiteralFault} : TypeTag.ofName? type = some tag →
        Value.parse tag value = .error fault →
          Violates (.data name line type value) [] (.invalidLiteral type value fault line)

/-- A rule is broken at a place of the program, where its objects are numbered. -/
inductive Program.Violates (p : Program) : Address → TreeFault → Prop where
  | asObject {before after : List Node} {n : Node} {f : TreeFault} :
      p.objects = before ++ n :: after →
        n.BreaksAsObject p.name (before.filterMap Node.name) f → Violates p [before.length] f
  | inObject {before after : List Node} {n : Node} {a : Address} {f : TreeFault} :
      p.objects = before ++ n :: after → n.Violates a f → Violates p (before.length :: a) f

/-! ## The order of the walk -/

/-- The order in which rules are looked at in one place: names first, whether there is one, whether
it may be given, whether it is given already; then what is named. -/
def TreeFault.rank : TreeFault → Nat
  | unnamedObject _ | unnamedAttribute _ => 0
  | notAnAbstraction _ _ | reservedName _ _ => 1
  | misplacedVararg _ _ => 2
  | duplicateAttribute _ _ _ => 3
  | missingReceiver _ _ | unknownType _ _ | invalidLiteral _ _ _ _ => 4
  | missingRoot _ => 5

/-- In one place the first fault is looked for before the second, or they are the same. -/
def TreeFault.Leads (f f' : TreeFault) : Prop := f.rank < f'.rank ∨ f = f'

/-- The walk meets the first fault before the second, or they are the same. -/
def Precedes (a : Address) (f : TreeFault) (a' : Address) (f' : TreeFault) : Prop :=
  a < a' ∨ a = a' ∧ f.Leads f'

/-- A fault that the walk meets before all others. -/
def Program.FirstFault (p : Program) (a : Address) (f : TreeFault) : Prop :=
  p.Violates a f ∧ ∀ a' f', p.Violates a' f' → Precedes a f a' f'

theorem TreeFault.Leads.refl (f : TreeFault) : f.Leads f := .inr rfl

/-- Faults that precede each other are the same. -/
theorem Precedes.antisymm {a a' : Address} {f f' : TreeFault} (h : Precedes a f a' f')
    (h' : Precedes a' f' a f) : f = f' := by
  rcases h with less | ⟨rfl, ranks | same⟩
  · rcases h' with less' | ⟨rfl, -⟩
    · exact absurd less (List.lt_asymm less')
    · exact absurd less (List.lt_irrefl _)
  · rcases h' with less' | ⟨-, ranks' | same⟩
    · exact absurd less' (List.lt_irrefl _)
    · omega
    · exact same.symm
  · exact same

/-! ## Lines -/

/-- What stands at a place is on that line; a parameter is on the line of its abstraction. -/
inductive Node.LineAt : Node → Address → Nat → Prop where
  | here (n : Node) : LineAt n [] n.line
  | parameter {name : Option String} {line : Nat} {params : List Parameter} {attrs : List Node}
      {i : Nat} : i < params.length → LineAt (.abstraction name line params attrs) [i] line
  | inAttribute {name : Option String} {line : Nat} {params : List Parameter}
      {attrs before after : List Node} {n : Node} {a : Address} {l : Nat} :
        attrs = before ++ n :: after → LineAt n a l →
          LineAt (.abstraction name line params attrs) ((params.length + before.length) :: a) l
  | inArgument {name : Option String} {line : Nat} {base : Base} {args before after : List Node}
      {n : Node} {copy unvar : Bool} {a : Address} {l : Nat} : args = before ++ n :: after →
        LineAt n a l → LineAt (.application name line base args copy unvar) (before.length :: a) l

/-- What stands at a place of the program is on that line. -/
def Program.LineAt (p : Program) (a : Address) (l : Nat) : Prop :=
  ∃ before n after a', p.objects = before ++ n :: after ∧ a = before.length :: a' ∧ n.LineAt a' l

/-- A fault has the line of the place where it is. -/
theorem Node.Violates.line {n : Node} {a : Address} {f : TreeFault} (h : n.Violates a f) :
    ∃ l, f.line = some l ∧ n.LineAt a l := by
  induction h with
  | parameter here breaks =>
      refine ⟨_, ?_, .parameter (by simp [here])⟩
      cases breaks <;> rfl
  | @asAttribute name line params attrs before after n f here breaks =>
      refine ⟨n.line, ?_, .inAttribute here (.here n)⟩
      cases breaks <;> rfl
  | inAttribute here _ ih =>
      obtain ⟨l, same, there⟩ := ih
      exact ⟨l, same, .inAttribute here there⟩
  | receiver => exact ⟨_, rfl, .here _⟩
  | @asArgument name line base args before after n copy unvar f here breaks =>
      refine ⟨n.line, ?_, .inArgument here (.here n)⟩
      cases breaks
      rfl
  | inArgument here _ ih =>
      obtain ⟨l, same, there⟩ := ih
      exact ⟨l, same, .inArgument here there⟩
  | unknownType => exact ⟨_, rfl, .here _⟩
  | literal => exact ⟨_, rfl, .here _⟩

theorem Program.Violates.line {p : Program} {a : Address} {f : TreeFault} (h : p.Violates a f) :
    ∃ l, f.line = some l ∧ p.LineAt a l := by
  cases h with
  | @asObject before after n f here breaks =>
      refine ⟨n.line, ?_, before, n, after, [], here, rfl, .here n⟩
      cases breaks <;> rfl
  | @inObject before after n a f here inside =>
      obtain ⟨l, same, there⟩ := inside.line
      exact ⟨l, same, before, n, after, a, here, rfl, there⟩

/-! ## One sibling after the other -/

/-- A check reports the first of the faults, or it passes if there is none. -/
def Reports {α : Type} (x : Except TreeFault α) (faults : Address → TreeFault → Prop) : Prop :=
  match x with
  | .ok _ => ∀ a f, ¬ faults a f
  | .error f => ∃ a, faults a f ∧ ∀ a' f', faults a' f' → Precedes a f a' f'

/-- The faults of siblings, the first of which has that number.  What is wrong with one of them, or
below it, may depend on those before and after it. -/
def Among {α : Type} (one : List α → α → List α → Address → TreeFault → Prop) (number : Nat)
    (before siblings : List α) (a : Address) (f : TreeFault) : Prop :=
  ∃ passed x after a', siblings = passed ++ x :: after ∧ a = (number + passed.length) :: a' ∧
    one (before ++ passed) x after a' f

section

variable {α β γ : Type} {one : List α → α → List α → Address → TreeFault → Prop} {number : Nat}
  {before rest : List α} {x : α}

theorem among_nil {a : Address} {f : TreeFault} : ¬ Among one number before [] a f := by
  rintro ⟨passed, x, after, a', none, -, -⟩
  simp at none

/-- A fault of siblings is one of the first of them or one of those after it. -/
theorem among_cons {a : Address} {f : TreeFault} : Among one number before (x :: rest) a f ↔
    (∃ a', a = number :: a' ∧ one before x rest a' f) ∨
      Among one (number + 1) (before ++ [x]) rest a f := by
  constructor
  · rintro ⟨passed, y, after, a', here, rfl, breaks⟩
    cases passed with
    | nil =>
        obtain ⟨rfl, rfl⟩ := List.cons.inj here
        refine .inl ⟨a', by simp, ?_⟩
        simpa using breaks
    | cons z passed =>
        obtain ⟨rfl, rfl⟩ := List.cons.inj here
        refine .inr ⟨passed, y, after, a', rfl, ?_, ?_⟩
        · simp only [List.length_cons, List.cons.injEq, and_true]
          omega
        · simpa using breaks
  · rintro (⟨a', rfl, breaks⟩ | ⟨passed, y, after, a', rfl, rfl, breaks⟩)
    · exact ⟨[], x, rest, a', rfl, by simp, by simpa using breaks⟩
    · refine ⟨x :: passed, y, after, a', rfl, ?_, ?_⟩
      · simp only [List.length_cons, List.cons.injEq, and_true]
        omega
      · simpa using breaks

/-- Faults of later siblings come after all that is wrong with an earlier one. -/
theorem Among.later {a a' : Address} {f f' : TreeFault}
    (h : Among one (number + 1) before rest a' f') : Precedes (number :: a) f a' f' := by
  obtain ⟨passed, y, after, a'', -, rfl, -⟩ := h
  refine .inl (List.cons_lt_cons_iff.mpr (.inl ?_))
  omega

namespace Reports

theorem congr {y : Except TreeFault β} {faults faults' : Address → TreeFault → Prop}
    (h : Reports y faults) (same : ∀ a f, faults a f ↔ faults' a f) : Reports y faults' := by
  have equal : faults = faults' := by
    funext a f
    exact propext (same a f)
  rwa [equal] at h

/-- A check in two parts, where the faults of the second come after those of the first. -/
theorem bind {y : Except TreeFault β} {k : β → Except TreeFault γ}
    {faults later : Address → TreeFault → Prop} (first : Reports y faults)
    (second : ∀ b, y = .ok b → Reports (k b) later)
    (order : ∀ a f a' f', faults a f → later a' f' → Precedes a f a' f') :
    Reports (y >>= k) fun a f => faults a f ∨ later a f := by
  cases y with
  | error f =>
      obtain ⟨a, here, least⟩ := first
      refine ⟨a, .inl here, ?_⟩
      rintro a' f' (there | there)
      · exact least a' f' there
      · exact order a f a' f' here there
  | ok b =>
      have rest := second b rfl
      refine rest.congr fun a f => ?_
      simp [first a f]

/-- The first of the siblings breaks a rule itself, and none that is looked at earlier. -/
theorem first {f : TreeFault} (here : one before x rest [] f)
    (least : ∀ f', one before x rest [] f' → f.Leads f') :
    Reports (.error f : Except TreeFault β) (Among one number before (x :: rest)) := by
  refine ⟨[number], among_cons.mpr (.inl ⟨[], rfl, here⟩), ?_⟩
  intro a' f' there
  rcases among_cons.mp there with ⟨a'', rfl, own⟩ | others
  · cases a'' with
    | nil => exact .inr ⟨rfl, least f' own⟩
    | cons i a'' => exact .inl (List.cons_lt_cons_iff.mpr (.inr ⟨rfl, List.nil_lt_cons i a''⟩))
  · exact others.later

/-- What is wrong with the first of the siblings is found by a check of its own. -/
theorem inside {y : Except TreeFault β} {k : β → Except TreeFault γ}
    (own : Reports y (one before x rest))
    (others : ∀ b, y = .ok b → Reports (k b) (Among one (number + 1) (before ++ [x]) rest)) :
    Reports (y >>= k) (Among one number before (x :: rest)) := by
  have lifted : Reports y fun a f => ∃ a', a = number :: a' ∧ one before x rest a' f := by
    cases y with
    | ok b =>
        rintro a f ⟨a', -, there⟩
        exact own a' f there
    | error f =>
        obtain ⟨a, here, least⟩ := own
        refine ⟨number :: a, ⟨a, rfl, here⟩, ?_⟩
        rintro a' f' ⟨a'', rfl, there⟩
        rcases least a'' f' there with before | ⟨rfl, rank⟩
        · exact .inl (List.cons_lt_cons_iff.mpr (.inr ⟨rfl, before⟩))
        · exact .inr ⟨rfl, rank⟩
  refine (lifted.bind others ?_).congr fun a f => among_cons.symm
  rintro a f a' f' ⟨a'', rfl, -⟩ there
  exact there.later

/-- Nothing is wrong with the first of the siblings. -/
theorem later {y : Except TreeFault β} (none : ∀ a f, ¬ one before x rest a f)
    (others : Reports y (Among one (number + 1) (before ++ [x]) rest)) :
    Reports y (Among one number before (x :: rest)) := by
  refine others.congr fun a f => ?_
  rw [among_cons]
  simp [none]

end Reports

end

/-! ## The checks of siblings -/

/-- What is wrong with a parameter between others. -/
def paramFaults (object : String) (line : Nat) (before : List Parameter) (p : Parameter)
    (after : List Parameter) (a : Address) (f : TreeFault) : Prop :=
  a = [] ∧ p.Breaks object line before after f

/-- What is wrong with an attribute after others, or below it. -/
def attrFaults (object : String) (params : List Parameter) (before : List Node) (n : Node)
    (_ : List Node) (a : Address) (f : TreeFault) : Prop :=
  a = [] ∧ n.BreaksAsAttribute object
      (params.map Parameter.name ++ before.filterMap Node.slotName) f ∨ n.Violates a f

/-- What is wrong with an argument, or below it. -/
def argFaults (_ : List Node) (n : Node) (_ : List Node) (a : Address) (f : TreeFault) : Prop :=
  a = [] ∧ n.BreaksAsArgument f ∨ n.Violates a f

/-- What is wrong with an object of a program after others, or below it. -/
def objectFaults (program : String) (before : List Node) (n : Node) (_ : List Node) (a : Address)
    (f : TreeFault) : Prop :=
  a = [] ∧ n.BreaksAsObject program (before.filterMap Node.name) f ∨ n.Violates a f

theorem checkName_eq (name : String) (line : Nat) : checkName name line =
    if name ∈ reserved then .error (.reservedName name line) else .ok () := by
  simp [checkName]

/-- The check of parameters reports the first fault among them. -/
theorem checkParams_reports (object : String) (line number : Nat) (before params : List Parameter)
    (seen : List String) (known : ∀ name, name ∈ seen ↔ name ∈ before.map Parameter.name) :
    Reports (checkParams object line seen params)
      (Among (paramFaults object line) number before params) := by
  induction params generalizing before seen number with
  | nil => exact fun a f => among_nil
  | cons p rest ih =>
      rw [checkParams, checkName_eq]
      by_cases isReserved : p.name ∈ reserved
      · rw [if_pos isReserved]
        refine Reports.first ⟨rfl, .reserved isReserved⟩ ?_
        rintro f' ⟨-, breaks⟩
        cases breaks with
        | reserved => exact .refl _
        | misplaced => exact .inl (by simp [TreeFault.rank])
        | repeated => exact .inl (by simp [TreeFault.rank])
      rw [if_neg isReserved]
      show Reports (if _ then _ else _) _
      by_cases misplaced : p.vararg = true ∧ rest ≠ []
      · rw [if_pos (by simpa using misplaced)]
        refine Reports.first ⟨rfl, .misplaced misplaced.1 misplaced.2⟩ ?_
        rintro f' ⟨-, breaks⟩
        cases breaks with
        | reserved there => exact absurd there isReserved
        | misplaced => exact .refl _
        | repeated => exact .inl (by simp [TreeFault.rank])
      rw [if_neg (by simpa using misplaced)]
      by_cases repeated : p.name ∈ before.map Parameter.name
      · rw [if_pos (by simpa [known] using repeated)]
        refine Reports.first ⟨rfl, .repeated repeated⟩ ?_
        rintro f' ⟨-, breaks⟩
        cases breaks with
        | reserved there => exact absurd there isReserved
        | misplaced vararg last => exact absurd ⟨vararg, last⟩ misplaced
        | repeated => exact .refl _
      rw [if_neg (by simpa [known] using repeated)]
      refine Reports.later ?_ (ih (number + 1) (before ++ [p]) (p.name :: seen) ?_)
      · rintro a f ⟨-, breaks⟩
        cases breaks with
        | reserved there => exact isReserved there
        | misplaced vararg last => exact misplaced ⟨vararg, last⟩
        | repeated there => exact repeated there
      · intro name
        simp [known, or_comm]

/-- The names that are known after the check of parameters. -/
theorem mem_of_checkParams {object : String} {line : Nat} {params : List Parameter}
    {seen names : List String} (ok : checkParams object line seen params = .ok names)
    (name : String) : name ∈ names ↔ name ∈ seen ∨ name ∈ params.map Parameter.name := by
  induction params generalizing seen with
  | nil =>
      cases ok
      simp
  | cons p rest ih =>
      rw [checkParams, checkName_eq] at ok
      split at ok
      · cases ok
      · change (if _ then _ else if _ then _ else _) = _ at ok
        split at ok
        · cases ok
        · split at ok
          · cases ok
          · rw [ih ok, List.mem_cons, List.map_cons, List.mem_cons]
            tauto

/-! ## Faults by kinds of nodes -/

section

variable {name : Option String} {line : Nat} {a : Address} {f : TreeFault}

theorem Node.violates_abstraction {params : List Parameter} {attrs : List Node} :
    (Node.abstraction name line params attrs).Violates a f ↔
      Among (paramFaults (name.getD "[]") line) 0 [] params a f ∨
        Among (attrFaults (name.getD "[]") params) params.length [] attrs a f := by
  constructor
  · intro h
    cases h with
    | parameter here breaks => exact .inl ⟨_, _, _, [], here, by simp, rfl, breaks⟩
    | asAttribute here breaks => exact .inr ⟨_, _, _, [], here, rfl, .inl ⟨rfl, breaks⟩⟩
    | inAttribute here inside => exact .inr ⟨_, _, _, _, here, rfl, .inr inside⟩
  · rintro (⟨before, p, after, a', here, rfl, rfl, breaks⟩ |
      ⟨before, n, after, a', here, rfl, ⟨rfl, breaks⟩ | inside⟩)
    · rw [Nat.zero_add]
      exact .parameter here breaks
    · exact .asAttribute here breaks
    · exact .inAttribute here inside

theorem Node.violates_application {base : Base} {args : List Node} {copy unvar : Bool} :
    (Node.application name line base args copy unvar).Violates a f ↔
      (a = [] ∧ ∃ method, base = .method method ∧ args = [] ∧ f = .missingReceiver method line) ∨
        Among argFaults 0 [] args a f := by
  constructor
  · intro h
    cases h with
    | receiver => exact .inl ⟨rfl, _, rfl, rfl, rfl⟩
    | asArgument here breaks => exact .inr ⟨_, _, _, [], here, by simp, .inl ⟨rfl, breaks⟩⟩
    | inArgument here inside => exact .inr ⟨_, _, _, _, here, by simp, .inr inside⟩
  · rintro (⟨rfl, method, rfl, rfl, rfl⟩ |
      ⟨before, n, after, a', here, rfl, ⟨rfl, breaks⟩ | inside⟩)
    · exact .receiver
    · rw [Nat.zero_add]
      exact .asArgument here breaks
    · rw [Nat.zero_add]
      exact .inArgument here inside

theorem Program.violates_iff {p : Program} :
    p.Violates a f ↔ Among (objectFaults p.name) 0 [] p.objects a f := by
  constructor
  · intro h
    cases h with
    | asObject here breaks => exact ⟨_, _, _, [], here, by simp, .inl ⟨rfl, breaks⟩⟩
    | inObject here inside => exact ⟨_, _, _, _, here, by simp, .inr inside⟩
  · rintro ⟨before, n, after, a', here, rfl, ⟨rfl, breaks⟩ | inside⟩
    · rw [Nat.zero_add]
      exact .asObject here breaks
    · rw [Nat.zero_add]
      exact .inObject here inside

/-- What is wrong with a node in its own place is looked at after its name. -/
theorem Node.Violates.rank {n : Node} (h : n.Violates [] f) : f.rank = 4 := by
  cases h <;> rfl

/-- What is wrong with a node as a sibling comes before what is wrong with it otherwise. -/
theorem Node.leads_of_rank {n : Node} {own : TreeFault → Prop} (early : f.rank < 4)
    (least : ∀ f', own f' → f.Leads f') (f' : TreeFault)
    (wrong : ([] : Address) = [] ∧ own f' ∨ n.Violates [] f') : f.Leads f' := by
  rcases wrong with ⟨-, wrong⟩ | inside
  · exact least f' wrong
  · exact .inl (by rwa [inside.rank])

/-! ## Faults of nodes with a name -/

section

variable {n : Node} {name object program : String} {declared taken : List String}

theorem Node.breaksAsAttribute_named (named : n.name = some name) :
    n.BreaksAsAttribute object declared f ↔
      (name ∈ reserved ∧ f = .reservedName name n.line) ∨
        (attrName name ∈ declared ∧ f = .duplicateAttribute object name n.line) := by
  constructor
  · rintro (unnamed | ⟨named', there⟩ | ⟨named', there⟩)
    · cases named.symm.trans unnamed
    · cases named.symm.trans named'
      exact .inl ⟨there, rfl⟩
    · cases named.symm.trans named'
      exact .inr ⟨there, rfl⟩
  · rintro (⟨there, rfl⟩ | ⟨there, rfl⟩)
    · exact .reserved named there
    · exact .repeated named there

theorem Node.breaksAsObject_named (named : n.name = some name) :
    n.BreaksAsObject program taken f ↔
      (n.isAbstraction = false ∧ f = .notAnAbstraction name n.line) ∨
        (name ∈ taken ∧ f = .duplicateAttribute program name n.line) := by
  constructor
  · rintro (unnamed | ⟨named', other⟩ | ⟨named', there⟩)
    · cases named.symm.trans unnamed
    · cases named.symm.trans named'
      exact .inl ⟨other, rfl⟩
    · cases named.symm.trans named'
      exact .inr ⟨there, rfl⟩
  · rintro (⟨other, rfl⟩ | ⟨there, rfl⟩)
    · exact .notAnAbstraction named other
    · exact .repeated named there

end

end

/-! ## The check of a tree -/

/-- The check of a literal reports what is wrong with it. -/
theorem checkLiteral_reports (name : Option String) (line : Nat) (type value : String) :
    Reports (checkLiteral line type value) (Node.data name line type value).Violates := by
  rw [checkLiteral]
  cases known : TypeTag.ofName? type with
  | none =>
      refine ⟨[], .unknownType known, ?_⟩
      intro a f h
      cases h with
      | unknownType => exact .inr ⟨rfl, .refl _⟩
      | literal known' => cases known.symm.trans known'
  | some tag =>
      dsimp only
      cases read : Value.parse tag value with
      | error fault =>
          refine ⟨[], .literal known read, ?_⟩
          intro a f h
          cases h with
          | unknownType unknown => cases known.symm.trans unknown
          | literal known' read' =>
              cases known.symm.trans known'
              cases read.symm.trans read'
              exact .inr ⟨rfl, .refl _⟩
      | ok v =>
          intro a f h
          cases h with
          | unknownType unknown => cases known.symm.trans unknown
          | literal known' read' =>
              cases known.symm.trans known'
              cases read.symm.trans read'

/-- The check for a receiver reports that it is missing. -/
theorem checkReceiver_reports (line : Nat) (base : Base) (args : List Node) :
    Reports (checkReceiver line base args) fun a f =>
      a = [] ∧ ∃ method, base = .method method ∧ args = [] ∧ f = .missingReceiver method line := by
  unfold checkReceiver
  split
  · next method =>
    refine ⟨[], ⟨rfl, method, rfl, rfl, rfl⟩, ?_⟩
    rintro a f ⟨rfl, method', same, -, rfl⟩
    cases same
    exact .inr ⟨rfl, .refl _⟩
  · next other =>
    rintro a f ⟨-, method, rfl, rfl, -⟩
    exact other method rfl rfl

mutual

/-- **The check of a node reports the first fault in it.** -/
theorem Node.check_reports : ∀ n : Node, Reports n.check n.Violates
  | .abstraction name line params attrs => by
      rw [Node.check]
      have first := checkParams_reports (name.getD "[]") line 0 [] params [] (by simp)
      refine Reports.congr (first.bind (fun seen ok => ?_) ?_) fun a f =>
        Node.violates_abstraction.symm
      · refine Node.checkAttrs_reports (name.getD "[]") params params.length [] seen attrs ?_
        intro declared
        rw [mem_of_checkParams ok]
        simp
      · rintro a f a' f' ⟨before, p, after, b, rfl, rfl, -⟩ ⟨passed, n, after', b', -, rfl, -⟩
        refine .inl (List.cons_lt_cons_iff.mpr (.inl ?_))
        simp only [List.length_append, List.length_cons]
        omega
  | .application name line base args copy unvar => by
      rw [Node.check]
      refine Reports.congr ((checkReceiver_reports line base args).bind
        (fun _ _ => Node.checkArgs_reports 0 [] args) ?_) fun a f => Node.violates_application.symm
      rintro a f a' f' ⟨rfl, -⟩ ⟨passed, n, after, b, -, rfl, -⟩
      exact .inl (List.nil_lt_cons _ _)
  | .data name line type value => by
      rw [Node.check]
      exact checkLiteral_reports name line type value

/-- The check of attributes reports the first fault among them and below them. -/
theorem Node.checkAttrs_reports : ∀ (object : String) (params : List Parameter) (number : Nat)
    (before : List Node) (seen : List String) (attrs : List Node),
    (∀ name, name ∈ seen ↔
      name ∈ params.map Parameter.name ++ before.filterMap Node.slotName) →
    Reports (Node.checkAttrs object seen attrs)
      (Among (attrFaults object params) number before attrs)
  | _, _, _, _, _, [], _ => by
      rw [Node.checkAttrs]
      exact fun a f => among_nil
  | object, params, number, before, seen, n :: rest, known => by
      rw [Node.checkAttrs]
      cases named : n.name with
      | none =>
          refine Reports.first (.inl ⟨rfl, .unnamed named⟩)
            (Node.leads_of_rank (Nat.zero_lt_succ _) fun f' breaks => ?_)
          cases breaks with
          | unnamed => exact .refl _
          | reserved named' => cases named.symm.trans named'
          | repeated named' => cases named.symm.trans named'
      | some name =>
          have breaks_iff {f : TreeFault} : n.BreaksAsAttribute object
              (params.map Parameter.name ++ before.filterMap Node.slotName) f ↔ _ :=
            Node.breaksAsAttribute_named named
          dsimp only
          rw [checkName_eq]
          by_cases isReserved : name ∈ reserved
          · rw [if_pos isReserved]
            refine Reports.first (.inl ⟨rfl, .reserved named isReserved⟩)
              (Node.leads_of_rank (by simp [TreeFault.rank]) fun f' breaks => ?_)
            rcases breaks_iff.mp breaks with ⟨-, rfl⟩ | ⟨-, rfl⟩
            · exact .refl _
            · exact .inl (by simp [TreeFault.rank])
          rw [if_neg isReserved]
          show Reports (if _ then _ else _) _
          by_cases repeated :
              attrName name ∈ params.map Parameter.name ++ before.filterMap Node.slotName
          · rw [if_pos (by simpa [known] using repeated)]
            refine Reports.first (.inl ⟨rfl, .repeated named repeated⟩)
              (Node.leads_of_rank (by simp [TreeFault.rank]) fun f' breaks => ?_)
            rcases breaks_iff.mp breaks with ⟨there, -⟩ | ⟨-, rfl⟩
            · exact absurd there isReserved
            · exact .refl _
          rw [if_neg (by simpa [known] using repeated)]
          refine Reports.inside ((Node.check_reports n).congr fun a f => (or_iff_right ?_).symm)
            fun _ _ => ?_
          · rintro ⟨-, breaks⟩
            rcases breaks_iff.mp breaks with ⟨there, -⟩ | ⟨there, -⟩
            · exact isReserved there
            · exact repeated there
          · refine Node.checkAttrs_reports object params (number + 1) (before ++ [n])
              (attrName name :: seen) rest ?_
            intro declared
            simp only [List.mem_cons, known, List.filterMap_append, List.filterMap_cons,
              List.filterMap_nil, Node.slotName, named, Option.map_some, List.mem_append,
              List.not_mem_nil, or_false]
            tauto

/-- The check of arguments reports the first fault among them and below them. -/
theorem Node.checkArgs_reports : ∀ (number : Nat) (before args : List Node),
    Reports (Node.checkArgs args) (Among argFaults number before args)
  | _, _, [] => by
      rw [Node.checkArgs]
      exact fun a f => among_nil
  | number, before, n :: rest => by
      rw [Node.checkArgs]
      have rest' := Node.checkArgs_reports (number + 1) (before ++ [n]) rest
      have plain (free : ∀ name, n.name = some name → name ∉ reserved) :
          Reports (n.check >>= fun _ => Node.checkArgs rest)
            (Among argFaults number before (n :: rest)) := by
        refine Reports.inside ((Node.check_reports n).congr fun a f => ?_) fun _ _ => rest'
        refine (or_iff_right ?_).symm
        rintro ⟨-, named, there⟩
        exact free _ named there
      cases named : n.name with
      | none =>
          refine plain ?_
          simp [named]
      | some name =>
          dsimp only
          rw [checkName_eq]
          by_cases isReserved : name ∈ reserved
          · rw [if_pos isReserved]
            refine Reports.first (.inl ⟨rfl, .reserved named isReserved⟩)
              (Node.leads_of_rank (by simp [TreeFault.rank]) fun f' breaks => ?_)
            cases breaks with
            | reserved named' =>
                cases named.symm.trans named'
                exact .refl _
          · rw [if_neg isReserved]
            refine plain ?_
            simpa [named] using isReserved

end

/-- The check of objects reports the first fault among them and below them. -/
theorem checkObjects_reports (program : String) (number : Nat) (before objects : List Node)
    (seen : List String) (known : ∀ name, name ∈ seen ↔ name ∈ before.filterMap Node.name) :
    Reports (checkObjects program seen objects)
      (Among (objectFaults program) number before objects) := by
  induction objects generalizing number before seen with
  | nil => exact fun a f => among_nil
  | cons n rest ih =>
      rw [checkObjects]
      cases named : n.name with
      | none =>
          refine Reports.first (.inl ⟨rfl, .unnamed named⟩)
            (Node.leads_of_rank (Nat.zero_lt_succ _) fun f' breaks => ?_)
          cases breaks with
          | unnamed => exact .refl _
          | notAnAbstraction named' => cases named.symm.trans named'
          | repeated named' => cases named.symm.trans named'
      | some name =>
          have breaks_iff {f : TreeFault} :
              n.BreaksAsObject program (before.filterMap Node.name) f ↔ _ :=
            Node.breaksAsObject_named named
          dsimp only
          by_cases other : n.isAbstraction = false
          · rw [if_pos (by simp [other])]
            refine Reports.first (.inl ⟨rfl, .notAnAbstraction named other⟩)
              (Node.leads_of_rank (by simp [TreeFault.rank]) fun f' breaks => ?_)
            rcases breaks_iff.mp breaks with ⟨-, rfl⟩ | ⟨-, rfl⟩
            · exact .refl _
            · exact .inl (by simp [TreeFault.rank])
          rw [if_neg (by simpa using other)]
          by_cases repeated : name ∈ before.filterMap Node.name
          · rw [if_pos (by simpa [known] using repeated)]
            refine Reports.first (.inl ⟨rfl, .repeated named repeated⟩)
              (Node.leads_of_rank (by simp [TreeFault.rank]) fun f' breaks => ?_)
            rcases breaks_iff.mp breaks with ⟨there, -⟩ | ⟨-, rfl⟩
            · exact absurd there other
            · exact .refl _
          rw [if_neg (by simpa [known] using repeated)]
          refine Reports.inside (n.check_reports.congr fun a f => (or_iff_right ?_).symm)
            fun _ _ => ?_
          · rintro ⟨-, breaks⟩
            rcases breaks_iff.mp breaks with ⟨there, -⟩ | ⟨there, -⟩
            · exact other there
            · exact repeated there
          · refine ih (number + 1) (before ++ [n]) (name :: seen) ?_
            intro other
            simp [known, named, or_comm]

/-- **The check of a program reports the first fault in it.** -/
theorem Program.check_reports (p : Program) : Reports p.check p.Violates :=
  (checkObjects_reports p.name 0 [] p.objects [] (by simp)).congr fun _ _ =>
    Program.violates_iff.symm

/-! ## Programs without faults -/

/-- Among names that are distinct, each is new where it comes. -/
theorem new_of_nodup {α β : Type} {name : α → Option β} (known : List β) {before after : List α}
    {x : α} {b : β} (distinct : (known ++ (before ++ x :: after).filterMap name).Nodup)
    (named : name x = some b) : b ∉ known ++ before.filterMap name := by
  rw [List.filterMap_append, List.filterMap_cons_some named, ← List.append_assoc,
    List.nodup_middle, List.nodup_cons] at distinct
  intro there
  exact distinct.1 (List.mem_append_left _ there)

/-- Names of which each is new where it comes are distinct. -/
theorem nodup_of_new {α β : Type} {name : α → Option β} (known : List β) {l : List α}
    (distinct : known.Nodup) (new : ∀ before x after b, l = before ++ x :: after →
      name x = some b → b ∉ known ++ before.filterMap name) :
    (known ++ l.filterMap name).Nodup := by
  induction l using List.reverseRecOn with
  | nil => simpa using distinct
  | append_singleton l y ih =>
      have earlier := ih fun before x after b here named =>
        new before x (after ++ [y]) b (by rw [here, List.append_assoc, List.cons_append]) named
      rw [List.filterMap_append, ← List.append_assoc]
      cases named : name y with
      | none => simpa [named] using earlier
      | some b =>
          have fresh := new l y [] b rfl named
          rw [List.filterMap_cons_some named, List.filterMap_nil, List.nodup_append_comm,
            List.singleton_append, List.nodup_cons]
          exact ⟨fresh, earlier⟩

/-- What is in a list without its last element stands before another element. -/
theorem mem_dropLast_iff {α : Type} {l : List α} {x : α} :
    x ∈ l.dropLast ↔ ∃ before after, l = before ++ x :: after ∧ after ≠ [] := by
  constructor
  · intro there
    have some : l ≠ [] := by
      rintro rfl
      cases there
    obtain ⟨before, after, here⟩ := List.mem_iff_append.mp there
    refine ⟨before, after ++ [l.getLast some], ?_, by simp⟩
    have whole := List.dropLast_concat_getLast some
    rw [here] at whole
    exact whole.symm.trans (by rw [List.append_assoc, List.cons_append])
  · rintro ⟨before, after, rfl, some⟩
    rw [List.dropLast_append_of_ne_nil (by simp), List.dropLast_cons_of_ne_nil some]
    simp

/-- Where nothing is wrong with an abstraction, it keeps the rules. -/
theorem lawfulDeclarations_of_no_fault {name : Option String} {line : Nat}
    {params : List Parameter} {attrs : List Node}
    (none : ∀ a f, ¬ (Node.abstraction name line params attrs).Violates a f) :
    LawfulDeclarations params attrs where
  params_free := by
    intro p there isReserved
    obtain ⟨before, after, here⟩ := List.mem_iff_append.mp there
    exact none _ _ (.parameter here (.reserved isReserved))
  only_last_vararg := by
    intro p there
    obtain ⟨before, after, here, others⟩ := mem_dropLast_iff.mp there
    cases vararg : p.vararg with
    | false => rfl
    | true => exact absurd (.parameter here (.misplaced vararg others)) (none _ _)
  attrs_named := by
    intro n there
    obtain ⟨before, after, here⟩ := List.mem_iff_append.mp there
    cases named : n.name with
    | none => exact absurd (.asAttribute here (.unnamed named)) (none _ _)
    | some own =>
        refine ⟨own, rfl, fun isReserved => ?_⟩
        exact none _ _ (.asAttribute here (.reserved named isReserved))
  distinct := by
    have params_distinct : (params.map Parameter.name).Nodup := by
      have all : ([] ++ params.filterMap fun p : Parameter => some p.name).Nodup := by
        refine nodup_of_new _ List.nodup_nil ?_
        rintro before p after b here ⟨⟩ repeated
        refine none _ _ (.parameter here (.repeated ?_))
        simpa using repeated
      simpa using all
    refine nodup_of_new _ params_distinct ?_
    intro before n after declared here same repeated
    obtain ⟨own, named, rfl⟩ := Option.map_eq_some_iff.mp same
    exact none _ _ (.asAttribute here (.repeated named repeated))

/-- A node in which nothing is wrong keeps the rules. -/
theorem Node.lawful_of_no_fault {n : Node} (none : ∀ a f, ¬ n.Violates a f) : n.Lawful := by
  cases n with
  | abstraction name line params attrs => exact .abstraction (lawfulDeclarations_of_no_fault none)
  | application name line base args copy unvar =>
      refine .application ?_ ?_
      · rintro method rfl rfl
        exact none _ _ .receiver
      · intro n there own named isReserved
        obtain ⟨before, after, here⟩ := List.mem_iff_append.mp there
        exact none _ _ (.asArgument here (.reserved named isReserved))
  | data name line type value =>
      cases known : TypeTag.ofName? type with
      | none => exact absurd (.unknownType known) (none _ _)
      | some tag =>
          cases read : Value.parse tag value with
          | error fault => exact absurd (.literal known read) (none _ _)
          | ok v => exact .data known read

/-- Where nothing is wrong with a node, nothing is wrong below it. -/
theorem Node.no_fault_of_child {n m : Node} (none : ∀ a f, ¬ n.Violates a f)
    (child : m ∈ n.children) : ∀ a f, ¬ m.Violates a f := by
  intro a f inside
  obtain ⟨before, after, here⟩ := List.mem_iff_append.mp child
  cases n with
  | abstraction name line params attrs => exact none _ _ (.inAttribute here inside)
  | application name line base args copy unvar => exact none _ _ (.inArgument here inside)
  | data name line type value => cases child

/-- What is a node of a subtree is one of the tree. -/
theorem Node.Within.of_child {n m o : Node} (child : m ∈ n.children) (within : m.Within o) :
    n.Within o := by
  induction within with
  | root => exact .child .root child
  | child _ there ih => exact .child ih there

/-- What is wrong with a parameter is not lawful. -/
theorem Parameter.Breaks.not_lawful {object : String} {line : Nat} {before after : List Parameter}
    {p : Parameter} {attrs : List Node} {f : TreeFault}
    (breaks : p.Breaks object line before after f) :
    ¬ LawfulDeclarations (before ++ p :: after) attrs := by
  intro lawful
  cases breaks with
  | reserved isReserved => exact lawful.params_free p (by simp) isReserved
  | misplaced vararg others =>
      have single := lawful.only_last_vararg p (mem_dropLast_iff.mpr ⟨_, _, rfl, others⟩)
      rw [vararg] at single
      cases single
  | repeated there =>
      have distinct := (List.nodup_append.mp lawful.distinct).1
      rw [List.map_append, List.map_cons, List.nodup_middle, List.nodup_cons] at distinct
      exact distinct.1 (List.mem_append_left _ there)

/-- What is wrong with an attribute is not lawful. -/
theorem Node.BreaksAsAttribute.not_lawful {object : String} {params : List Parameter}
    {before after : List Node} {n : Node} {f : TreeFault} (breaks : n.BreaksAsAttribute object
      (params.map Parameter.name ++ before.filterMap Node.slotName) f) :
    ¬ LawfulDeclarations params (before ++ n :: after) := by
  intro lawful
  obtain ⟨own, named, free⟩ := lawful.attrs_named n (by simp)
  rcases (Node.breaksAsAttribute_named named).mp breaks with ⟨isReserved, -⟩ | ⟨there, -⟩
  · exact free isReserved
  · exact new_of_nodup _ lawful.distinct (by rw [Node.slotName, named]; rfl) there

/-- Where something is wrong, a node of the tree breaks the rules. -/
theorem Node.Violates.not_lawful {n : Node} {a : Address} {f : TreeFault} (h : n.Violates a f) :
    ∃ m, n.Within m ∧ ¬ m.Lawful := by
  have below {n m : Node} (child : m ∈ n.children) (h : ∃ o, m.Within o ∧ ¬ o.Lawful) :
      ∃ o, n.Within o ∧ ¬ o.Lawful := by
    obtain ⟨o, within, broken⟩ := h
    exact ⟨o, within.of_child child, broken⟩
  induction h with
  | parameter here breaks =>
      refine ⟨_, .root, ?_⟩
      rintro (lawful | - | -)
      subst here
      exact breaks.not_lawful lawful
  | asAttribute here breaks =>
      refine ⟨_, .root, ?_⟩
      rintro (lawful | - | -)
      subst here
      exact breaks.not_lawful lawful
  | inAttribute here _ ih =>
      subst here
      exact below (by simp [Node.children]) ih
  | receiver =>
      refine ⟨_, .root, ?_⟩
      rintro (- | ⟨received, -⟩ | -)
      exact received _ rfl rfl
  | asArgument here breaks =>
      refine ⟨_, .root, ?_⟩
      rintro (- | ⟨-, free⟩ | -)
      subst here
      cases breaks with
      | reserved named isReserved => exact free _ (by simp) _ named isReserved
  | inArgument here _ ih =>
      subst here
      exact below (by simp [Node.children]) ih
  | unknownType unknown =>
      refine ⟨_, .root, ?_⟩
      rintro (- | - | ⟨known, -⟩)
      cases unknown.symm.trans known
  | literal known broken =>
      refine ⟨_, .root, ?_⟩
      rintro (- | - | ⟨known', read⟩)
      cases known.symm.trans known'
      cases broken.symm.trans read

/-- **Well-formed programs are those in which nothing is wrong.** -/
theorem Program.wellFormed_iff {p : Program} : p.WellFormed ↔ ∀ a f, ¬ p.Violates a f := by
  constructor
  · rintro wellFormed a f (⟨here, breaks⟩ | ⟨here, inside⟩)
    · have there := wellFormed.objects _ (here ▸ List.mem_append_right _ List.mem_cons_self)
      cases breaks with
      | unnamed none => simp [none] at there
      | notAnAbstraction _ other => simp [other] at there
      | repeated named taken =>
          have distinct := wellFormed.distinct
          rw [here] at distinct
          exact new_of_nodup [] distinct named taken
    · obtain ⟨m, within, broken⟩ := inside.not_lawful
      refine broken (wellFormed.nodes _ ?_ m within)
      rw [here]
      exact List.mem_append_right _ List.mem_cons_self
  · intro none
    constructor
    · intro n there
      obtain ⟨before, after, here⟩ := List.mem_iff_append.mp there
      cases named : n.name with
      | none => exact absurd (.asObject here (.unnamed named)) (none _ _)
      | some name =>
          refine ⟨rfl, ?_⟩
          cases other : n.isAbstraction with
          | true => rfl
          | false => exact absurd (.asObject here (.notAnAbstraction named other)) (none _ _)
    · refine nodup_of_new [] List.nodup_nil ?_
      intro before n after name here named taken
      exact none _ _ (.asObject here (.repeated named taken))
    · intro root there n within
      obtain ⟨before, after, here⟩ := List.mem_iff_append.mp there
      refine Node.lawful_of_no_fault ?_
      induction within with
      | root => exact fun a f inside => none _ _ (.inObject here inside)
      | child _ child ih => exact Node.no_fault_of_child ih child

/-- **The check passes the well-formed programs and no others.  Otherwise it reports the first
fault on the walk, with the line of the place where it is.** -/
theorem Program.check_reports_first (p : Program) :
    (p.check = .ok () ↔ p.WellFormed) ∧
      (∀ f, p.check = .error f ↔ ∃ a, p.FirstFault a f) ∧
        ∀ a f, p.FirstFault a f → ∃ l, f.line = some l ∧ p.LineAt a l := by
  have reports := p.check_reports
  rw [Program.wellFormed_iff]
  refine ⟨?_, ?_, fun a f first => first.1.line⟩
  · cases checked : p.check with
    | ok _ =>
        rw [checked] at reports
        exact iff_of_true rfl reports
    | error f =>
        rw [checked] at reports
        obtain ⟨a, there, -⟩ := reports
        exact iff_of_false nofun fun none => none a f there
  · intro f
    cases checked : p.check with
    | ok _ =>
        rw [checked] at reports
        exact iff_of_false nofun fun ⟨a, there, _⟩ => reports a f there
    | error g =>
        rw [checked] at reports
        obtain ⟨a, there, first⟩ := reports
        constructor
        · rintro ⟨⟩
          exact ⟨a, there, first⟩
        · rintro ⟨a', there', first'⟩
          rw [(first a' f there').antisymm (first' a g there)]

/-- A program with two faults: an argument whose type is unknown, and an attribute after it that has
no name. -/
def Program.faulty : Program where
  name := "app"
  objects := [.abstraction (some "app") 1 [⟨"x", false⟩] [
    .application (some "a") 2 (.method "neg") [.data none 3 "number" "1"] false false,
    .data none 4 "int" "1"]]

/-- The argument is reported. -/
theorem Program.argument_is_first_fault :
    let f : TreeFault := .unknownType "number" 3
    Program.check .faulty = .error f ∧
      ∃ a, Program.FirstFault .faulty a f ∧ ∃ l, f.line = some l ∧ Program.LineAt .faulty a l := by
  intro f
  have rejected : Program.check .faulty = .error f := by rfl
  obtain ⟨-, reported, line⟩ := Program.check_reports_first .faulty
  obtain ⟨a, first⟩ := (reported f).mp rejected
  exact ⟨rejected, a, first, line a f first⟩

end PhiCalculus
