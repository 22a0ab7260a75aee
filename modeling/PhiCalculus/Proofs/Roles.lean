import PhiCalculus.Proofs.Growth
import PhiCalculus.Proofs.Scopes

/-!
# The objects of a run

While a program runs, every table plays a role: it is an instance of one of the abstractions of the
program, an attempt, an object that raises, or a method of a value (`Role`).  The role says which
slots the object was made with, and what its home is: an instance has as its home an instance of the
abstraction that it is written in, and a method has a value that has this method.  An object keeps
its role while the heap grows, and its copies have the same role (`Heap.Plays.grows`,
`Heap.Plays.of_copy`).

The prototypes from which a run starts are never written and never referred to by slots.  Everything
else refers only to such ordinary objects, except that a view can be a copy of a prototype, and what
views result in is no view (`State.Fits`).  Whatever is evaluated for an object belongs to its role
(`Role.Computes`).
-/

set_option autoImplicit false

namespace PhiCalculus

/-! ## Slots and their declarations -/

/-- The slot is one that was declared so. -/
inductive Slot.Of : Slot → SlotExpr → Prop where
  | free (content : Option Ref) : Of (.free content) .free
  | vararg (items : List Ref) : Of (.vararg items) .vararg
  | once (origin : Expr) (cache : Option Ref) : Of (.once origin cache) (.once origin)
  | composite (origin : Expr) : Of (.composite origin) (.composite origin)

theorem Slot.Of.grows {s s' : Slot} {e : SlotExpr} (h : s.Of e) (grown : s.Grows s') : s'.Of e := by
  cases grown with
  | free _ =>
      cases h with
      | free _ => exact .free _
  | once _ =>
      cases h with
      | once _ _ => exact .once _ _
  | vararg _ =>
      cases h with
      | vararg _ => exact .vararg _
  | composite origin => exact h

theorem Slot.Of.copy {s : Slot} {e : SlotExpr} (h : s.Of e) : s.copy.Of e := by
  cases h with
  | free content => exact .free content
  | vararg items => exact .vararg items
  | once origin _ => exact .once origin none
  | composite origin => exact .composite origin

namespace Slots

theorem mem_of_find? {slots : Slots} {name : String} {s : Slot}
    (found : slots.find? name = some s) : (name, s) ∈ slots := by
  induction slots with
  | nil => cases found
  | cons a rest ih =>
      obtain ⟨n, old⟩ := a
      rw [find?_cons] at found
      split at found
      · next same =>
        cases found
        rw [beq_iff_eq.mp same]
        exact List.mem_cons_self
      · exact List.mem_cons_of_mem _ (ih found)

theorem isSome_find?_iff {slots : Slots} {name : String} :
    (slots.find? name).isSome = true ↔ name ∈ slots.names := by
  induction slots with
  | nil => simp [find?, names]
  | cons a rest ih =>
      obtain ⟨n, s⟩ := a
      rw [find?_cons, names, List.map_cons, List.mem_cons]
      split
      · next same => simp [beq_iff_eq.mp same]
      · next other =>
        have ne : name ≠ n := fun h => other (beq_iff_eq.mpr h)
        simp only [ne, false_or]
        exact ih

theorem find?_of_open {slots : Slots} {position : Nat} {name : String}
    (isOpen : slots.openNames[position]? = some name) : ∃ s, slots.find? name = some s := by
  obtain ⟨s, there, rfl⟩ := List.mem_map.mp (List.mem_of_getElem? isOpen)
  refine Option.isSome_iff_exists.mp (isSome_find?_iff.mpr ?_)
  exact List.mem_map.mpr ⟨s, (List.mem_filter.mp there).1, rfl⟩

theorem mem_set {slots : Slots} {name n : String} {s s' : Slot}
    (there : (n, s') ∈ slots.set name s) : (n, s') ∈ slots ∨ (n = name ∧ s' = s) := by
  induction slots with
  | nil => cases there
  | cons a rest ih =>
      obtain ⟨m, old⟩ := a
      simp only [set] at there
      split at there
      · next same =>
        rcases List.mem_cons.mp there with here | there
        · cases here
          exact .inr ⟨beq_iff_eq.mp same, rfl⟩
        · exact .inl (List.mem_cons_of_mem _ there)
      · rcases List.mem_cons.mp there with here | there
        · exact .inl (here ▸ List.mem_cons_self)
        · exact (ih there).imp (List.mem_cons_of_mem _) id

/-- A slot with a name of its own comes last. -/
theorem declare_new {slots : Slots} {name : String} {slot : Slot} (new : name ∉ slots.names) :
    slots.declare name slot = slots ++ [(name, slot)] := by
  induction slots with
  | nil => rfl
  | cons first rest ih =>
      obtain ⟨n, old⟩ := first
      rw [names, List.map_cons, List.mem_cons, not_or] at new
      have other : (n == name) = false := beq_false_of_ne fun same => new.1 same.symm
      rw [declare, other]
      exact congrArg ((n, old) :: ·) (ih new.2)

/-- Any other one replaces the slot of that name. -/
theorem declare_known {slots : Slots} {name : String} {slot : Slot} (known : name ∈ slots.names) :
    slots.declare name slot = slots.set name slot := by
  induction slots with
  | nil => cases known
  | cons first rest ih =>
      obtain ⟨n, old⟩ := first
      rw [declare, set]
      split
      · rfl
      · next other =>
        have later : name ∈ names rest := (List.mem_cons.mp known).resolve_left fun same =>
          other (beq_iff_eq.mpr same.symm)
        rw [ih later]

theorem mem_declare {slots : Slots} {name n : String} {s s' : Slot}
    (there : (n, s') ∈ slots.declare name s) : (n, s') ∈ slots ∨ (n = name ∧ s' = s) := by
  by_cases known : name ∈ slots.names
  · rw [declare_known known] at there
    exact mem_set there
  · rw [declare_new known, List.mem_append, List.mem_singleton, Prod.mk.injEq] at there
    exact there

theorem mem_names_declare {slots : Slots} {name n : String} {s : Slot} :
    n ∈ (slots.declare name s).names ↔ n ∈ slots.names ∨ n = name := by
  by_cases known : name ∈ slots.names
  · rw [declare_known known, names_set]
    exact ⟨.inl, fun there => there.elim id fun same => same ▸ known⟩
  · rw [declare_new known]
    simp [names]

theorem Grows.mem {before after : Slots} (h : Slots.Grows before after) {name : String} {s' : Slot}
    (there : (name, s') ∈ after) : ∃ s, (name, s) ∈ before ∧ s.Grows s' := by
  induction h with
  | nil => cases there
  | @cons a b _ _ head _ ih =>
      rcases List.mem_cons.mp there with here | there
      · subst here
        obtain ⟨n, s⟩ := a
        obtain ⟨rfl, grown⟩ := head
        exact ⟨s, List.mem_cons_self, grown⟩
      · obtain ⟨s, before, grown⟩ := ih there
        exact ⟨s, List.mem_cons_of_mem _ before, grown⟩

/-- The slots are those that were declared. -/
structure Of (slots : Slots) (decl : Declared) : Prop where
  sound : ∀ name s, (name, s) ∈ slots → ∃ e, (name, e) ∈ decl ∧ s.Of e
  complete : ∀ name e, (name, e) ∈ decl → name ∈ slots.names

namespace Of

variable {slots slots' : Slots} {decl : Declared}

/-- Slots that were declared one by one. -/
theorem of_forall₂ (h : List.Forall₂ (fun s d => s.1 = d.1 ∧ s.2.Of d.2) slots decl) :
    slots.Of decl := by
  induction h with
  | nil => exact ⟨by simp, by simp⟩
  | @cons s d rest rest' head _ ih =>
      obtain ⟨name, slot⟩ := s
      obtain ⟨name', e⟩ := d
      obtain ⟨rfl, made⟩ := head
      constructor
      · intro n s' there
        rcases List.mem_cons.mp there with here | there
        · cases here
          exact ⟨e, List.mem_cons_self, made⟩
        · obtain ⟨e', declared, made'⟩ := ih.sound n s' there
          exact ⟨e', List.mem_cons_of_mem _ declared, made'⟩
      · intro n e' declared
        rcases List.mem_cons.mp declared with here | declared
        · cases here
          exact List.mem_cons_self
        · exact List.mem_cons_of_mem _ (ih.complete n e' declared)

theorem nil : Slots.Of [] [] := of_forall₂ .nil

theorem grows (h : slots.Of decl) (grown : Slots.Grows slots slots') : slots'.Of decl where
  sound := by
    intro name s' there
    obtain ⟨s, there, grown⟩ := grown.mem there
    obtain ⟨e, declared, made⟩ := h.sound name s there
    exact ⟨e, declared, made.grows grown⟩
  complete := by
    rw [grown.names]
    exact h.complete

theorem copy (h : slots.Of decl) : slots.copy.Of decl where
  sound := by
    intro name s copied
    obtain ⟨old, there, same⟩ := List.mem_map.mp copied
    cases same
    obtain ⟨e, declared, made⟩ := h.sound old.1 old.2 there
    exact ⟨e, declared, made.copy⟩
  complete := by
    intro name e declared
    obtain ⟨old, there, rfl⟩ := List.mem_map.mp (h.complete name e declared)
    exact List.mem_map.mpr ⟨(old.1, old.2.copy), List.mem_map.mpr ⟨old, there, rfl⟩, rfl⟩

theorem declare {name : String} {s : Slot} {e : SlotExpr} (h : slots.Of decl) (made : s.Of e) :
    (slots.declare name s).Of (decl ++ [(name, e)]) where
  sound := by
    intro n s' there
    rcases mem_declare there with there | ⟨rfl, rfl⟩
    · obtain ⟨e', declared, made'⟩ := h.sound n s' there
      exact ⟨e', List.mem_append_left _ declared, made'⟩
    · exact ⟨e, List.mem_append_right _ List.mem_cons_self, made⟩
  complete := by
    intro n e' declared
    rw [mem_names_declare]
    rcases List.mem_append.mp declared with declared | here
    · exact .inl (h.complete n e' declared)
    · cases List.mem_singleton.mp here
      exact .inr rfl

/-- A table declares just the names that were declared. -/
theorem isSome_find?_iff (h : slots.Of decl) {name : String} :
    (slots.find? name).isSome = true ↔ name ∈ decl.map (·.1) := by
  rw [Slots.isSome_find?_iff]
  constructor
  · intro named
    obtain ⟨⟨n, s⟩, there, rfl⟩ := List.mem_map.mp named
    obtain ⟨e, declared, -⟩ := h.sound n s there
    exact List.mem_map.mpr ⟨(n, e), declared, rfl⟩
  · intro named
    obtain ⟨⟨n, e⟩, declared, rfl⟩ := List.mem_map.mp named
    exact h.complete n e declared

end Of

end Slots

/-! ## Roles -/

/-- What a table of a run is. -/
inductive Role where
  /-- An instance of the abstraction that stands in these scopes. -/
  | abstraction (scopes : List Declared)
  | attempt
  /-- An object that raises. -/
  | signal
  | method (m : Method)

namespace Role

/-- The slots that an object of the role is made with. -/
def declared : Role → Declared
  | abstraction scopes => scopes.headD []
  | attempt => [("main", .free), ("catch", .free), ("finally", .free),
      (phi, .composite (.native .attempt))]
  | signal => [("ex", .free), (phi, .composite (.native .signal))]
  | method m => m.params.map (·, .free) ++ [(phi, .composite (.native (.method m)))]

/-- The expression is evaluated for objects of the role: it is a part of what a slot computes. -/
def Computes (role : Role) (e : Expr) : Prop :=
  ∃ name origin, origin.Part e ∧
    ((name, .once origin) ∈ role.declared ∨ (name, .composite origin) ∈ role.declared)

/-- What an attempt, an object that raises or a method computes as a whole. -/
def native? : Role → Option Native
  | abstraction _ => none
  | attempt => some .attempt
  | signal => some .signal
  | method m => some (.method m)

theorem unreserved_params (m : Method) : ∀ name ∈ m.params, name ∉ reserved := by
  cases m with
  | int op => cases op <;> decide
  | float op => cases op <;> decide
  | _ => decide

/-- What computes something as a whole declares that, under a name that is not reserved, and apart
from it slots that are empty at first. -/
theorem declared_native {role : Role} {n : Native} (whole : role.native? = some n) {name : String}
    {e : SlotExpr} (declared : (name, e) ∈ role.declared) :
    name ∉ reserved ∧ (e = .free ∨ e = .composite (.native n)) := by
  cases role with
  | abstraction scopes => cases whole
  | attempt =>
      cases whole
      simp only [Role.declared, List.mem_cons, Prod.mk.injEq, List.not_mem_nil, or_false]
        at declared
      rcases declared with ⟨rfl, rfl⟩ | ⟨rfl, rfl⟩ | ⟨rfl, rfl⟩ | ⟨rfl, rfl⟩ <;>
        exact ⟨by decide, by simp⟩
  | signal =>
      cases whole
      simp only [Role.declared, List.mem_cons, Prod.mk.injEq, List.not_mem_nil, or_false]
        at declared
      rcases declared with ⟨rfl, rfl⟩ | ⟨rfl, rfl⟩ <;> exact ⟨by decide, by simp⟩
  | method m =>
      cases whole
      rcases List.mem_append.mp declared with param | result
      · obtain ⟨param, there, same⟩ := List.mem_map.mp param
        cases same
        exact ⟨unreserved_params m _ there, .inl rfl⟩
      · cases List.mem_singleton.mp result
        exact ⟨show phi ∉ reserved by decide, .inr rfl⟩

theorem computes_native {role : Role} {n : Native} (whole : role.native? = some n) {e : Expr}
    (computes : role.Computes e) : e = .native n := by
  obtain ⟨name, origin, part, declared⟩ := computes
  have is : origin = .native n := by
    rcases declared with once | composite
    · rcases (declared_native whole once).2 with same | same <;> cases same
    · rcases (declared_native whole composite).2 with same | same <;> cases same
      rfl
  subst is
  clear declared
  induction part with
  | whole => rfl
  | _ => simp_all

theorem declared_attempt : attemptTable.slots.Of attempt.declared :=
  .of_forall₂ (.cons ⟨rfl, .free _⟩ (.cons ⟨rfl, .free _⟩ (.cons ⟨rfl, .free _⟩
    (.cons ⟨rfl, .composite _⟩ .nil))))

theorem declared_signal (target : Ref) : (signalTable target).slots.Of signal.declared :=
  .of_forall₂ (.cons ⟨rfl, .free _⟩ (.cons ⟨rfl, .composite _⟩ .nil))

theorem declared_method (receiver : Ref) (tag : TypeTag) (name : String) (m : Method) :
    (methodTable receiver tag name m).slots.Of (method m).declared := by
  refine .of_forall₂ (List.rel_append ?_ (.cons ⟨rfl, .composite _⟩ .nil))
  rw [List.forall₂_map_left_iff, List.forall₂_map_right_iff]
  exact List.forall₂_same.mpr fun name _ => ⟨rfl, .free none⟩

end Role

/-! ## Objects and their roles -/

/-- The state in which a program begins to run. -/
abbrev Program.base (p : Program) : State := State.initial.install p

namespace Heap

variable (p : Program) (h : Heap)

/-- The object exists and is no prototype. -/
structure Ordinary (r : Ref) : Prop where
  late : p.base.heap.size ≤ r.index
  exist : r.index < h.size

/-- The object is a table that has that home and was made with these slots. -/
def MadeWith (home : Option Ref) (decl : Declared) (r : Ref) : Prop :=
  ∃ t, (h.cell r).kind = .table t ∧ t.home = home ∧ t.slots.Of decl

/-- The object plays the role: it has the slots and the home that go with it. -/
inductive Plays : Role → Ref → Prop where
  | top {decl : Declared} {r : Ref} : h.MadeWith none decl r → p.Scopes [decl] →
      Plays (.abstraction [decl]) r
  | inner {decl : Declared} {outer : List Declared} {home r : Ref} :
      h.MadeWith (some home) decl r → p.Scopes (decl :: outer) → h.Ordinary p home →
        home.index < r.index → Plays (.abstraction outer) home →
          Plays (.abstraction (decl :: outer)) r
  | attempt {r : Ref} : h.MadeWith none Role.attempt.declared r → Plays .attempt r
  | signal {home r : Ref} : h.MadeWith (some home) Role.signal.declared r → h.Ordinary p home →
      Plays .signal r
  | method {m : Method} {name : String} {v : Value} {home r : Ref} :
      h.MadeWith (some home) (Role.method m).declared r → h.Ordinary p home →
        (h.cell home).kind = .data v → Method.ofName? v.tag name = some m → Plays (.method m) r

variable {p h} {h' : Heap} {r : Ref}

theorem Ordinary.grows (o : h.Ordinary p r) (grown : h.Grows h') : h'.Ordinary p r :=
  ⟨o.late, Nat.lt_of_lt_of_le o.exist grown.size⟩

theorem MadeWith.grows {home : Option Ref} {decl : Declared} (m : h.MadeWith home decl r)
    (exist : r.index < h.size) (grown : h.Grows h') : h'.MadeWith home decl r := by
  obtain ⟨t, kind, homed, slots⟩ := m
  have kept := (grown.cell r exist).kind
  rw [kind] at kept
  generalize kind' : (h'.cell r).kind = k at kept
  cases kept with
  | @table _ t' _ home' _ grown' => exact ⟨t', kind', home'.trans homed, slots.grows grown'⟩

theorem kind_data_of_grows {v : Value} (kind : (h.cell r).kind = .data v) (exist : r.index < h.size)
    (grown : h.Grows h') : (h'.cell r).kind = .data v := by
  have kept := (grown.cell r exist).kind
  rw [kind] at kept
  generalize (h'.cell r).kind = k at kept ⊢
  cases kept
  rfl

theorem kind_of_value? {v : Value} (value : (h.cell r).value? = some v) :
    (h.cell r).kind = .data v := by
  rw [Cell.value?] at value
  split at value
  · next kind => rw [kind, Option.some.inj value]
  · cases value

/-- A value has always been one. -/
theorem kind_data_before {v : Value} (kind : (h'.cell r).kind = .data v) (exist : r.index < h.size)
    (grown : h.Grows h') : (h.cell r).kind = .data v := by
  refine kind_of_value? ((grown.cell r exist).value?.symm.trans ?_)
  rw [Cell.value?, kind]

/-- **Objects keep their roles.** -/
theorem Plays.grows {role : Role} (plays : h.Plays p role r) (exist : r.index < h.size)
    (grown : h.Grows h') : h'.Plays p role r := by
  induction plays with
  | top made scopes => exact .top (made.grows exist grown) scopes
  | inner made scopes home older _ ih =>
      exact .inner (made.grows exist grown) scopes (home.grows grown) older (ih home.exist)
  | attempt made => exact .attempt (made.grows exist grown)
  | signal made home => exact .signal (made.grows exist grown) (home.grows grown)
  | method made home data named =>
      exact .method (made.grows exist grown) (home.grows grown)
        (kind_data_of_grows data home.exist grown) named

/-- **A younger table with the same home and slots declared so plays the same role.** -/
theorem Plays.of_copy {role : Role} (plays : h.Plays p role r) {t t' : Table} {c : Ref}
    (kind : (h.cell r).kind = .table t) (kind' : (h.cell c).kind = .table t')
    (home : t'.home = t.home) (slots : ∀ decl, t.slots.Of decl → t'.slots.Of decl)
    (younger : r.index ≤ c.index) : h.Plays p role c := by
  have copied {home' : Option Ref} {decl : Declared} (made : h.MadeWith home' decl r) :
      h.MadeWith home' decl c := by
    obtain ⟨t₀, kind₀, homed, declared⟩ := made
    cases kind.symm.trans kind₀
    exact ⟨t', kind', home.trans homed, slots decl declared⟩
  cases plays with
  | top made scopes => exact .top (copied made) scopes
  | inner made scopes ordinary older outer =>
      exact .inner (copied made) scopes ordinary (Nat.lt_of_lt_of_le older younger) outer
  | attempt made => exact .attempt (copied made)
  | signal made ordinary => exact .signal (copied made) ordinary
  | method made ordinary data named => exact .method (copied made) ordinary data named

theorem Plays.made {role : Role} (plays : h.Plays p role r) :
    ∃ home, h.MadeWith home role.declared r := by
  cases plays with
  | top made => exact ⟨_, made⟩
  | inner made => exact ⟨_, made⟩
  | attempt made => exact ⟨_, made⟩
  | signal made => exact ⟨_, made⟩
  | method made => exact ⟨_, made⟩

/-- The home of an object that plays a role is an ordinary object. -/
theorem Plays.home {role : Role} (plays : h.Plays p role r) {home : Ref}
    (homed : (h.cell r).home? = some home) : h.Ordinary p home := by
  have same {home' : Option Ref} {decl : Declared} (made : h.MadeWith home' decl r) :
      home' = some home := by
    obtain ⟨t, kind, rfl, -⟩ := made
    rwa [Cell.home?, kind] at homed
  cases plays with
  | top made => cases same made
  | attempt made => cases same made
  | inner made _ ordinary => exact Option.some.inj (same made) ▸ ordinary
  | signal made ordinary => exact Option.some.inj (same made) ▸ ordinary
  | method made ordinary => exact Option.some.inj (same made) ▸ ordinary

end Heap

end PhiCalculus
