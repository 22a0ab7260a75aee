import PhiCalculus.Proofs.AlikeLookup
import PhiCalculus.Proofs.Levels

/-!
# Names along decoration

A name that an object does not declare is looked up on the object that it decorates, and so on.
Where the object is a view, the object behind it is asked.  The objects on the way are not there
beforehand: each is computed in the surroundings and in the state in which the one before it has
been asked, and computing it may change the state (`Link`).  So the chain of decoration is a
relation (`Link.Chain`), and it tells for each object that is reached in which state it is reached.

Asking the first object of a chain for a name is asking any later one, as long as the objects in
between leave the name to what they decorate (`Link.finds_behind`, `Link.finds_decorated`).  The
names of the owner, the home and the object itself are never left to another object.

How many steps may nest does not matter here: a request ends in a result if it does so with some
number of steps, and then it does with every greater one (`Computations.Ends`).
-/

set_option autoImplicit false

namespace PhiCalculus

open PhiCalculus.Action

variable {α β : Type} {c : Computations}

/-! ## Whatever number of steps may nest -/

namespace Computations

/-- What is made of answers ends in that result and state, if enough steps may nest in them. -/
def Runs (c : Computations) (x : Answerer → Action α) (frame : Frame) (s : State)
    (result : Except Failure α) (t : State) : Prop :=
  ∃ steps, (x (answered c steps)).Ends frame s result t

/-- The request ends in that result and state, if enough steps may nest in it. -/
abbrev Ends (c : Computations) (q : Request α) (frame : Frame) (s : State)
    (result : Except Failure α) (t : State) : Prop :=
  c.Runs (fun ask => ask q) frame s result t

end Computations

section

variable {R : State → State → Prop} {catching : Prop} {x y : Answerer → Action α}
  {f : α → Answerer → Action β} {frame : Frame} {s t t' : State}
  {result result' : Except Failure α}

/-- What is not cut short ends as it does with more steps. -/
theorem Action.Ends.of_upto {x x' : Action α} (upto : (x frame s).Upto R (x' frame s))
    (ends : x.Ends frame s result t) : x'.Ends frame s result t := by
  generalize ending : x frame s = o at upto
  generalize ending' : x' frame s = o' at upto
  cases upto with
  | same => cases result <;> exact ending'.trans (ending.symm.trans ends)
  | short => cases result <;> cases ending.symm.trans ends

theorem ends_of_more (made : Stepwise R catching x) {steps more : Nat} (le : steps ≤ more)
    (ends : (x (answered c steps)).Ends frame s result t) :
    (x (answered c more)).Ends frame s result t := by
  have free : Stepwise (fun _ _ => True) catching x := made.mono fun _ _ _ => trivial
  have upto : Answerer.Upto (fun _ _ => True) (answered c steps) (answered c more) :=
    upto_answeredUntil (fun _ => trivial) (fun _ _ _ _ _ => trivial) (fun _ _ _ => trivial) c
      (fun _ h => h) le
  exact ends.of_upto (free.upto (fun _ _ _ _ _ => trivial) (fun _ _ _ => trivial) upto frame s)

theorem Action.Ends.unique {x : Action α} (ends : x.Ends frame s result t)
    (ends' : x.Ends frame s result' t') : result' = result ∧ t' = t := by
  cases result <;> cases result' <;> cases ends.symm.trans ends' <;> exact ⟨rfl, rfl⟩

/-- **A run ends in one result and one state.** -/
theorem Computations.Runs.unique (made : Stepwise R catching x)
    (runs : c.Runs x frame s result t) (runs' : c.Runs x frame s result' t') :
    result' = result ∧ t' = t := by
  obtain ⟨steps, ends⟩ := runs
  obtain ⟨steps', ends'⟩ := runs'
  exact (ends_of_more made (Nat.le_max_left steps steps') ends).unique
    (ends_of_more made (Nat.le_max_right steps steps') ends')

theorem runs_request {q : Request α} :
    c.Ends q frame s result t ↔ c.Runs (fun ask => answerBy c ask q) frame s result t := by
  have next (steps : Nat) : Action.Ends (answered c (steps + 1) q) frame s result t ↔
      Action.Ends (answerBy c (answered c steps) q) frame s result t := by rw [answered_succ]
  constructor
  · rintro ⟨_ | steps, ends⟩
    · cases result <;> cases ends
    · exact ⟨steps, (next steps).mp ends⟩
  · rintro ⟨steps, ends⟩
    exact ⟨steps + 1, (next steps).mpr ends⟩

theorem runs_nothing {x : Action α} :
    c.Runs (fun _ => x) frame s result t ↔ x.Ends frame s result t :=
  ⟨fun ⟨_, ends⟩ => ends, fun ends => ⟨0, ends⟩⟩

theorem runs_congr (same : ∀ ask : Answerer, x ask frame s = y ask frame s) :
    c.Runs x frame s result t ↔ c.Runs y frame s result t := by
  refine exists_congr fun steps => ?_
  cases result <;> simp only [Ends, same]

theorem runs_hold (refs : List Ref) :
    c.Runs (fun ask => hold refs (x @ask)) frame s result t ↔
      c.Runs x (frame.holding refs) s result t :=
  exists_congr fun _ => ends_hold

/-- A sequence ends where its first part fails, or as its second part does. -/
theorem runs_bind {result : Except Failure β} (made : Stepwise R catching x)
    (rest : ∀ a, Stepwise R catching (f a)) :
    c.Runs (fun ask => x @ask >>= fun a => f a @ask) frame s result t ↔
      (∃ e, c.Runs x frame s (.error e) t ∧ result = .error e) ∨
        ∃ a u, c.Runs x frame s (.ok a) u ∧ c.Runs (f a) frame u result t := by
  constructor
  · rintro ⟨steps, ends⟩
    rcases ends_bind.mp ends with ⟨e, failed, same⟩ | ⟨a, u, first, last⟩
    · exact .inl ⟨e, ⟨steps, failed⟩, same⟩
    · exact .inr ⟨a, u, ⟨steps, first⟩, ⟨steps, last⟩⟩
  · rintro (⟨e, ⟨steps, failed⟩, same⟩ | ⟨a, u, ⟨steps, first⟩, ⟨steps', last⟩⟩)
    · exact ⟨steps, ends_bind.mpr (.inl ⟨e, failed, same⟩)⟩
    · have first := ends_of_more made (Nat.le_max_left steps steps') first
      have last := ends_of_more (rest a) (Nat.le_max_right steps steps') last
      exact ⟨max steps steps', ends_bind.mpr (.inr ⟨a, u, first, last⟩)⟩

/-- When its first part is known to end in an answer, a sequence ends as its second part does. -/
theorem runs_bind_of_ok {result : Except Failure β} (made : Stepwise R catching x)
    (rest : ∀ a, Stepwise R catching (f a)) {a : α} (first : c.Runs x frame s (.ok a) t') :
    c.Runs (fun ask => x @ask >>= fun a => f a @ask) frame s result t ↔
      c.Runs (f a) frame t' result t := by
  rw [runs_bind made rest]
  constructor
  · rintro (⟨e, failed, _⟩ | ⟨b, u, first', last⟩)
    · cases (first.unique made failed).1
    · obtain ⟨same, rfl⟩ := first.unique made first'
      cases same
      exact last
  · exact fun last => .inr ⟨a, t', first, last⟩

/-- When its first part is known to fail, so does a sequence. -/
theorem runs_bind_of_error {result : Except Failure β} (made : Stepwise R catching x)
    (rest : ∀ a, Stepwise R catching (f a)) {e : Failure} (first : c.Runs x frame s (.error e) t') :
    c.Runs (fun ask => x @ask >>= fun a => f a @ask) frame s result t ↔
      result = .error e ∧ t = t' := by
  rw [runs_bind made rest]
  constructor
  · rintro (⟨e', failed, rfl⟩ | ⟨b, u, first', _⟩)
    · obtain ⟨same, rfl⟩ := first.unique made failed
      cases same
      exact ⟨rfl, rfl⟩
    · cases (first.unique made first').1
  · rintro ⟨rfl, rfl⟩
    exact .inl ⟨e, first, rfl⟩

end

/-! ## Objects as they are reached -/

/-- An object as it is asked: in which surroundings, and in which state. -/
@[ext]
structure Link where
  object : Ref
  frame : Frame
  state : State

namespace Link

/-- What surrounds what the object is asked; it is in use itself then. -/
def inside (a : Link) : Frame := a.frame.holding [a.object]

/-- How messages show the object. -/
def subject (a : Link) : Subject := a.state.heap.subject a.object

/-- The object declares the name itself. -/
def Declares (a : Link) (name : String) : Prop := (a.state.heap.slot? a.object name).isSome = true

/-- The first one is a view, and the second one is the object behind it. -/
structure Behind (c : Computations) (a b : Link) : Prop where
  view : (a.state.heap.cell a.object).isView = true
  frame : b.frame = a.inside
  resolves : c.Ends (.resolve a.object) a.inside a.state (.ok b.object) b.state

/-- The first one decorates the second one: reading its `φ` gives it. -/
structure Decorates (c : Computations) (a b : Link) : Prop where
  declares : a.Declares phi
  frame : b.frame = a.inside
  reads : c.Ends (.read (.slot a.object phi)) a.inside a.state (.ok b.object) b.state

/-- These objects decorate each other, from the object on or from the one behind it; whether the
last one decorates another is left open. -/
inductive Chain (c : Computations) : Link → List Link → Prop where
  | here {a : Link} : (a.state.heap.cell a.object).isView = false → Chain c a [a]
  | behind {a b : Link} {path : List Link} : a.Behind c b → Chain c b path → Chain c a path
  | decorated {a b : Link} {path : List Link} : a.Decorates c b → Chain c b path →
      Chain c a (a :: path)

/-- Asking the object for the name ends in that result and state. -/
abbrev Finds (c : Computations) (a : Link) (name : String) (result : Except Failure Place)
    (t : State) : Prop :=
  c.Ends (.find a.object name) a.frame a.state result t

variable {a b : Link} {name : String} {result : Except Failure Place} {t : State}

theorem Declares.isView (declares : a.Declares name) :
    (a.state.heap.cell a.object).isView = false := by
  obtain ⟨slot, found⟩ := Option.isSome_iff_exists.mp declares
  obtain ⟨table, kind, _⟩ := table_of_slot? found
  exact isView_of_table kind

/-! ## Asking the next object -/

theorem stepwise_ask (q : Request α) : Stepwise State.Changes True fun ask => ask q := .request q

/-- An object is asked as it is looked up. -/
theorem finds_iff : a.Finds c name result t ↔
    c.Runs (fun ask => findPlace ask a.object name) a.inside a.state result t :=
  runs_request.trans (runs_hold [a.object])

/-- Asks for an object, and then asks that one for the name. -/
def askNext (q : Request Ref) (name : String) (ask : Answerer) : Action Place :=
  ask q >>= fun o => ask (.find o name)

/-- How a view is asked. -/
theorem findPlace_view {ask : Answerer} {frame : Frame} {r : Ref} {s : State}
    (isView : (s.heap.cell r).isView = true) :
    findPlace ask r name frame s = askNext (.resolve r) name ask frame s := by
  rw [findPlace, bind_of_answer (cell_apply r _ _)]
  cases kind : (s.heap.cell r).kind with
  | view v result => rfl
  | table t => simp [Cell.isView, kind] at isView
  | data v => simp [Cell.isView, kind] at isView

theorem finds_view (isView : (a.state.heap.cell a.object).isView = true) :
    a.Finds c name result t ↔
      c.Runs (askNext (.resolve a.object) name) a.inside a.state result t :=
  finds_iff.trans (runs_congr fun _ => findPlace_view isView)

/-- Asking a view is asking the object behind it. -/
theorem finds_behind (behind : a.Behind c b) :
    a.Finds c name result t ↔ b.Finds c name result t := by
  rw [finds_view behind.view, Finds, behind.frame]
  exact runs_bind_of_ok (stepwise_ask _) (fun _ => stepwise_ask _) behind.resolves

/-- How a table is asked. -/
theorem findPlace_table {ask : Answerer} {table : Table} {frame : Frame} {r : Ref} {s : State}
    (kind : (s.heap.cell r).kind = .table table) :
    findPlace ask r name frame s =
      (if name == rho then pure (.owner r)
      else if name == xi then pure (.fixed r xi r)
      else if name == sigma then findHome r
      else if (table.slots.find? name).isSome then pure (.slot r name)
      else if (table.slots.find? phi).isSome then
        ask (.read (.slot r phi)) >>= fun decorated => ask (.find decorated name)
      else noSuchAttribute name r : Action Place) frame s := by
  rw [findPlace, bind_of_answer (cell_apply r _ _), kind]

/-- How a table is asked for a name that is not reserved. -/
theorem findPlace_plain {ask : Answerer} {table : Table} {frame : Frame} {r : Ref} {s : State}
    (kind : (s.heap.cell r).kind = .table table) (plain : name ∉ reserved) :
    findPlace ask r name frame s =
      (if (table.slots.find? name).isSome then pure (.slot r name)
      else if (table.slots.find? phi).isSome then
        ask (.read (.slot r phi)) >>= fun decorated => ask (.find decorated name)
      else noSuchAttribute name r : Action Place) frame s := by
  simp only [reserved, List.mem_cons, List.not_mem_nil, or_false, not_or] at plain
  obtain ⟨noOwner, noHome, noSelf⟩ := plain
  rw [findPlace_table kind]
  simp [noOwner, noHome, noSelf]

theorem undeclared_of_none (none : a.state.heap.slot? a.object name = none) :
    ¬ a.Declares name := by
  rw [Declares, none]
  exact Bool.false_ne_true

theorem Declares.table (declares : a.Declares name) : ∃ table,
    (a.state.heap.cell a.object).kind = .table table ∧ (table.slots.find? name).isSome = true := by
  obtain ⟨slot, found⟩ := Option.isSome_iff_exists.mp declares
  obtain ⟨table, kind, declared⟩ := table_of_slot? found
  exact ⟨table, kind, by rw [declared]; rfl⟩

theorem declares_iff {table : Table} (kind : (a.state.heap.cell a.object).kind = .table table) :
    a.Declares name ↔ (table.slots.find? name).isSome = true := by
  rw [Declares, Heap.slot?, Cell.slots, kind]

/-- How an object is asked for a name that it leaves to what it decorates. -/
theorem findPlace_decorating {ask : Answerer} (decorates : a.Declares phi)
    (plain : name ∉ reserved) (undeclared : ¬ a.Declares name) :
    findPlace ask a.object name a.inside a.state =
      askNext (.read (.slot a.object phi)) name ask a.inside a.state := by
  obtain ⟨table, kind, some⟩ := decorates.table
  rw [declares_iff kind] at undeclared
  rw [findPlace_plain kind plain, if_neg undeclared, if_pos some]
  rfl

theorem finds_decorating (decorates : a.Declares phi) (plain : name ∉ reserved)
    (undeclared : ¬ a.Declares name) : a.Finds c name result t ↔
      c.Runs (askNext (.read (.slot a.object phi)) name) a.inside a.state result t :=
  finds_iff.trans (runs_congr fun _ => findPlace_decorating decorates plain undeclared)

/-- Asking an object for a name that it does not declare is asking the object that it decorates. -/
theorem finds_decorated (decorates : a.Decorates c b) (plain : name ∉ reserved)
    (undeclared : ¬ a.Declares name) : a.Finds c name result t ↔ b.Finds c name result t := by
  rw [finds_decorating decorates.declares plain undeclared, Finds, decorates.frame]
  exact runs_bind_of_ok (stepwise_ask _) (fun _ => stepwise_ask _) decorates.reads

/-- An object that declares the name answers itself. -/
theorem finds_declared (declares : a.Declares name) (plain : name ∉ reserved) :
    a.Finds c name (.ok (.slot a.object name)) a.state := by
  obtain ⟨table, kind, some⟩ := declares.table
  refine finds_iff.mpr ⟨0, ?_⟩
  show findPlace _ a.object name a.inside a.state = _
  rw [findPlace_plain kind plain, if_pos some]
  rfl

/-! ## What an object answers itself -/

/-- The object is a value. -/
def IsValue (a : Link) (v : Value) : Prop := (a.state.heap.cell a.object).kind = .data v

/-- The object is neither a view nor a value, and decorates no other. -/
def IsBare (a : Link) : Prop :=
  ∃ table, (a.state.heap.cell a.object).kind = .table table ∧ table.slots.find? phi = none

/-- How an object that is no view answers the names of the owner, the home and the object itself. -/
inductive AnswersReserved (a : Link) : String → Except Failure Place → Prop where
  | owner {table : Table} : (a.state.heap.cell a.object).kind = .table table →
      AnswersReserved a rho (.ok (.owner a.object))
  | itself : AnswersReserved a xi (.ok (.fixed a.object xi a.object))
  | home {home : Ref} : a.state.home? a.inside.held a.object = some home →
      AnswersReserved a sigma (.ok (.fixed a.object sigma home))
  | gone {home : Ref} : (a.state.heap.cell a.object).home? = some home →
      a.state.home? a.inside.held a.object = none →
        AnswersReserved a sigma (.error (.homeGone a.subject))
  | homeless : (a.state.heap.cell a.object).home? = none →
      AnswersReserved a sigma (.error (.noSuchAttribute sigma a.subject))
  | ownerless {v : Value} : a.IsValue v →
      AnswersReserved a rho (.error (.noSuchAttribute rho a.subject))

/-- How a value answers a name that is not reserved. -/
inductive AnswersAsValue (a : Link) (v : Value) (name : String) :
    Except Failure Place → State → Prop where
  | itself : name = delta → AnswersAsValue a v name (.ok (.fixed a.object delta a.object)) a.state
  | element {items : List Ref} {i : Nat} {item : Ref} : name ≠ delta → v = .array items →
      indexOf? name = some i → items[i]? = some item →
        AnswersAsValue a v name (.ok (.fixed a.object (toString i) item)) a.state
  | beyond {items : List Ref} {i : Nat} : name ≠ delta → v = .array items →
      indexOf? name = some i → items[i]? = none →
        AnswersAsValue a v name (.error (.noSuchAttribute name a.subject)) a.state
  | method {m : Method} : name ≠ delta → (∀ items, v = .array items → indexOf? name = none) →
      Method.ofName? v.tag name = some m →
        AnswersAsValue a v name
          (.ok (.fixed a.object name
            (a.state.alloc (.table (methodTable a.object v.tag name m))).1))
          (a.state.alloc (.table (methodTable a.object v.tag name m))).2
  | unknown : name ≠ delta → (∀ items, v = .array items → indexOf? name = none) →
      Method.ofName? v.tag name = none →
        AnswersAsValue a v name (.error (.noSuchAttribute name a.subject)) a.state

/-- An object that neither declares the name nor decorates another has no such attribute. -/
theorem finds_bare (bare : a.IsBare) (plain : name ∉ reserved) (undeclared : ¬ a.Declares name) :
    a.Finds c name (.error (.noSuchAttribute name a.subject)) a.state := by
  obtain ⟨table, kind, last⟩ := bare
  rw [declares_iff kind] at undeclared
  refine finds_iff.mpr ⟨0, ?_⟩
  show findPlace _ a.object name a.inside a.state = _
  rw [findPlace_plain kind plain, if_neg undeclared, last]
  rfl

theorem finds_of_findOnValue {v : Value} (value : a.IsValue v)
    (ends : (findOnValue a.object v name).Ends a.inside a.state result t) :
    a.Finds c name result t := by
  refine finds_iff.mpr ⟨0, ?_⟩
  refine (ends_bind_of_answer (cell_apply a.object _ _)).mpr ?_
  rw [value]
  exact ends

/-- A value answers itself. -/
theorem AnswersAsValue.finds {v : Value} (answers : a.AnswersAsValue v name result t)
    (value : a.IsValue v) (plain : name ∉ reserved) : a.Finds c name result t := by
  have noSelf : name ≠ xi := fun same => plain (by simp [reserved, same])
  refine finds_of_findOnValue value ?_
  cases answers with
  | itself isDelta =>
      subst isDelta
      unfold findOnValue
      rfl
  | element isDelta is index found =>
      subst is
      rw [Likeness.findOnValue_element (by simp [isDelta, noSelf]) index, found]
      rfl
  | beyond isDelta is index found =>
      subst is
      rw [Likeness.findOnValue_element (by simp [isDelta, noSelf]) index, found]
      rfl
  | method isDelta unindexed known =>
      rw [Likeness.findOnValue_method (by simp [isDelta, noSelf])
        fun items i is => by simp [unindexed items is], known]
      rfl
  | unknown isDelta unindexed unknown =>
      rw [Likeness.findOnValue_method (by simp [isDelta, noSelf])
        fun items i is => by simp [unindexed items is], unknown]
      rfl

/-- A value has an answer to every name. -/
theorem exists_answersAsValue (a : Link) (v : Value) (name : String) :
    ∃ result t, a.AnswersAsValue v name result t := by
  by_cases isDelta : name = delta
  · exact ⟨_, _, .itself isDelta⟩
  by_cases indexed : ∃ items i, v = .array items ∧ indexOf? name = some i
  · obtain ⟨items, i, is, index⟩ := indexed
    cases found : items[i]? with
    | some item => exact ⟨_, _, .element isDelta is index found⟩
    | none => exact ⟨_, _, .beyond isDelta is index found⟩
  · have unindexed (items : List Ref) (is : v = .array items) : indexOf? name = none :=
      Option.eq_none_iff_forall_ne_some.mpr fun i index => indexed ⟨items, i, is, index⟩
    cases known : Method.ofName? v.tag name with
    | some m => exact ⟨_, _, .method isDelta unindexed known⟩
    | none => exact ⟨_, _, .unknown isDelta unindexed known⟩

/-- No value has an owner or a home. -/
theorem findOnValue_unowned {r : Ref} {v : Value} (special : name = rho ∨ name = sigma) :
    findOnValue r v name = noSuchAttribute name r := by
  have other : (name == delta || name == xi) = false := by rcases special with rfl | rfl <;> decide
  have unindexed : indexOf? name = none := by rcases special with rfl | rfl <;> decide
  have unknown (tag : TypeTag) : Method.ofName? tag name = none := by
    rcases special with rfl | rfl <;> cases tag <;> decide
  rw [Likeness.findOnValue_method other fun items i _ index => by simp [unindexed] at index,
    unknown]

/-- How the home is asked for, on any object that is no view. -/
theorem finds_sigma (concrete : (a.state.heap.cell a.object).isView = false)
    (ends : (findHome a.object).Ends a.inside a.state result t) : a.Finds c sigma result t := by
  cases kind : (a.state.heap.cell a.object).kind with
  | table table =>
      refine finds_iff.mpr ⟨0, ?_⟩
      have home : findPlace (answered c 0) a.object sigma a.inside a.state =
          findHome a.object a.inside a.state := (findPlace_table kind).trans rfl
      cases result <;> exact home.trans ends
  | data v =>
      have homeless : (a.state.heap.cell a.object).home? = none := by rw [Cell.home?, kind]
      have home : findOnValue a.object v sigma a.inside a.state =
          findHome a.object a.inside a.state := by
        rw [findOnValue_unowned (.inr rfl), findHome_apply, homeless]
        rfl
      refine finds_of_findOnValue kind ?_
      cases result <;> exact home.trans ends
  | view v result => simp [Cell.isView, kind] at concrete

/-- An object that is no view answers the reserved names itself. -/
theorem AnswersReserved.finds (answers : a.AnswersReserved name result)
    (concrete : (a.state.heap.cell a.object).isView = false) : a.Finds c name result a.state := by
  cases answers with
  | owner kind => exact finds_iff.mpr ⟨0, (findPlace_table kind).trans rfl⟩
  | itself =>
      cases kind : (a.state.heap.cell a.object).kind with
      | table table => exact finds_iff.mpr ⟨0, (findPlace_table kind).trans rfl⟩
      | data v =>
          refine finds_of_findOnValue kind ?_
          unfold findOnValue
          rfl
      | view v result => simp [Cell.isView, kind] at concrete
  | home there =>
      refine finds_sigma concrete ?_
      have ends := findHome_apply a.object a.inside a.state
      rw [State.home?_eq there, there] at ends
      exact ends
  | gone declared there =>
      refine finds_sigma concrete ?_
      have ends := findHome_apply a.object a.inside a.state
      rw [declared, there] at ends
      exact ends
  | homeless undeclared =>
      refine finds_sigma concrete ?_
      have ends := findHome_apply a.object a.inside a.state
      rw [undeclared] at ends
      exact ends
  | ownerless value =>
      refine finds_of_findOnValue value ?_
      rw [findOnValue_unowned (.inl rfl)]
      rfl

/-- An object that is no view has an answer to every reserved name. -/
theorem exists_answersReserved (concrete : (a.state.heap.cell a.object).isView = false)
    (special : name ∈ reserved) : ∃ result, a.AnswersReserved name result := by
  simp only [reserved, List.mem_cons, List.not_mem_nil, or_false] at special
  rcases special with rfl | rfl | rfl
  · cases kind : (a.state.heap.cell a.object).kind with
    | table table => exact ⟨_, .owner kind⟩
    | data v => exact ⟨_, .ownerless kind⟩
    | view v result => simp [Cell.isView, kind] at concrete
  · cases declared : (a.state.heap.cell a.object).home? with
    | none => exact ⟨_, .homeless declared⟩
    | some home =>
        cases there : a.state.home? a.inside.held a.object with
        | none => exact ⟨_, .gone declared there⟩
        | some home => exact ⟨_, .home there⟩
  · exact ⟨_, .itself⟩

/-! ## Names along a chain -/

theorem Chain.isView {path : List Link} (chain : a.Chain c path) (there : b ∈ path) :
    (b.state.heap.cell b.object).isView = false := by
  induction chain with
  | here concrete => rwa [List.mem_singleton.mp there]
  | behind _ _ ih => exact ih there
  | decorated decorates _ ih =>
      rcases List.mem_cons.mp there with rfl | later
      · exact decorates.declares.isView
      · exact ih later

/-- Asking an object is asking the first one of its chain. -/
theorem Chain.finds_first {path : List Link} (chain : a.Chain c path) {rest : List Link}
    (starts : path = b :: rest) : a.Finds c name result t ↔ b.Finds c name result t := by
  induction chain with
  | here _ =>
      cases starts
      exact Iff.rfl
  | behind behind _ ih => exact (finds_behind behind).trans (ih starts)
  | decorated _ _ _ =>
      cases starts
      exact Iff.rfl

/-- Asking an object for a name that the objects before another one do not declare is asking that
other one. -/
theorem Chain.finds_along {path : List Link} (chain : a.Chain c path) (plain : name ∉ reserved)
    {before after : List Link} (splits : path = before ++ b :: after)
    (undeclared : ∀ d ∈ before, ¬ d.Declares name) :
    a.Finds c name result t ↔ b.Finds c name result t := by
  induction chain generalizing before with
  | here concrete =>
      cases before with
      | nil => exact (Chain.here concrete).finds_first splits
      | cons d rest => cases rest <;> simp at splits
  | behind behind _ ih => exact (finds_behind behind).trans (ih splits undeclared)
  | decorated decorates onward ih =>
      cases before with
      | nil => exact (Chain.decorated decorates onward).finds_first splits
      | cons d rest =>
          obtain ⟨rfl, later⟩ := List.cons.inj splits
          refine (finds_decorated decorates plain (undeclared _ List.mem_cons_self)).trans ?_
          exact ih later fun d there => undeclared d (List.mem_cons_of_mem _ there)

/-- The answer of a chain of objects to a name, and the state that it leaves.  Whoever answers does
so in the state in which it has been reached. -/
inductive Answered (name : String) : List Link → Except Failure Place → State → Prop where
  | reserved {o : Link} {rest : List Link} {result : Except Failure Place} :
      name ∈ reserved → o.AnswersReserved name result → Answered name (o :: rest) result o.state
  | declared {before after : List Link} {b : Link} : name ∉ reserved →
      (∀ d ∈ before, ¬ d.Declares name) → b.Declares name →
        Answered name (before ++ b :: after) (.ok (.slot b.object name)) b.state
  | value {before : List Link} {b : Link} {v : Value} {result : Except Failure Place} {t : State} :
      name ∉ reserved → (∀ d ∈ before, ¬ d.Declares name) → b.IsValue v →
        b.AnswersAsValue v name result t → Answered name (before ++ [b]) result t
  | nobody {before : List Link} {b : Link} : name ∉ reserved →
      (∀ d ∈ before, ¬ d.Declares name) → ¬ b.Declares name → b.IsBare →
        Answered name (before ++ [b]) (.error (.noSuchAttribute name b.subject)) b.state

/-- The chain ends in a value or in an object that decorates no other. -/
def Complete (path : List Link) : Prop :=
  ∃ before b, path = before ++ [b] ∧ (b.IsBare ∨ ∃ v, b.IsValue v)

theorem Chain.ne_nil {path : List Link} (chain : a.Chain c path) : path ≠ [] := by
  induction chain with
  | here _ => exact List.cons_ne_nil _ _
  | behind _ _ ih => exact ih
  | decorated _ _ _ => exact List.cons_ne_nil _ _

theorem IsValue.undeclared {v : Value} (value : a.IsValue v) : ¬ a.Declares name := by
  intro declares
  obtain ⟨table, kind, _⟩ := declares.table
  cases kind.symm.trans value

/-- What answers in a chain answers the object that is asked. -/
theorem Chain.finds_answered {path : List Link} (chain : a.Chain c path)
    (answered : Answered name path result t) : a.Finds c name result t := by
  cases answered with
  | reserved special answers =>
      have concrete := chain.isView List.mem_cons_self
      exact (chain.finds_first rfl).mpr (answers.finds concrete)
  | declared plain undeclared declares =>
      exact (chain.finds_along plain rfl undeclared).mpr (finds_declared declares plain)
  | value plain undeclared value answers =>
      exact (chain.finds_along plain rfl undeclared).mpr (answers.finds value plain)
  | nobody plain undeclared last bare =>
      exact (chain.finds_along plain rfl undeclared).mpr (finds_bare bare plain last)

/-- A chain that is complete has an answer to every name. -/
theorem Complete.exists_answered {path : List Link} (complete : Complete path)
    (chain : a.Chain c path) (name : String) : ∃ result t, Answered name path result t := by
  by_cases special : name ∈ reserved
  · obtain ⟨o, rest, rfl⟩ := List.exists_cons_of_ne_nil chain.ne_nil
    obtain ⟨result, answers⟩ := exists_answersReserved (chain.isView List.mem_cons_self) special
    exact ⟨result, o.state, .reserved special answers⟩
  cases first : path.find? fun d => (d.state.heap.slot? d.object name).isSome with
  | some b =>
      obtain ⟨declares, before, after, rfl, undeclared⟩ := List.find?_eq_some_iff_append.mp first
      refine ⟨_, _, .declared special (fun d there declares => ?_) declares⟩
      simpa [show _ = true from declares] using undeclared d there
  | none =>
      have undeclared (d : Link) (there : d ∈ path) : ¬ d.Declares name :=
        List.find?_eq_none.mp first d there
      obtain ⟨before, b, rfl, last⟩ := complete
      have earlier (d : Link) (there : d ∈ before) : ¬ d.Declares name :=
        undeclared d (List.mem_append_left _ there)
      rcases last with bare | ⟨v, value⟩
      · exact ⟨_, _, .nobody special earlier (undeclared b (by simp)) bare⟩
      · obtain ⟨result, t, answers⟩ := b.exists_answersAsValue v name
        exact ⟨result, t, .value special earlier value answers⟩

/-- Asks an object for a name and reads what it finds. -/
def get (r : Ref) (name : String) (ask : Answerer) : Action Ref :=
  ask (.find r name) >>= fun p => ask (.read p)

/-- Getting the name from the first object computes the slot of the second one: its expression is
evaluated with that one as its self, in the state in which that one is reached, and what it gives is
kept in the slot if this is computed once. -/
structure Computes (c : Computations) (a b : Link) (name : String) : Prop where
  composite {e : Expr} : b.state.heap.slot? b.object name = some (.composite e) →
    ∀ {result t}, c.Runs (get a.object name) a.frame a.state result t ↔
      c.Ends (.eval e b.object) (a.frame.holding [b.object]) b.state result t
  once {e : Expr} : b.state.heap.slot? b.object name = some (.once e none) →
    ∀ {result t}, c.Runs (get a.object name) a.frame a.state result t ↔
      c.Runs (fun ask => ask (.eval e b.object) >>= keep b.object name)
        (a.frame.holding [b.object]) b.state result t

theorem computes_of_finds (finds : a.Finds c name (.ok (.slot b.object name)) b.state) :
    a.Computes c b name := by
  have reads {result : Except Failure Ref} {t : State} :
      c.Runs (get a.object name) a.frame a.state result t ↔
        c.Runs (fun ask => readPlace ask (.slot b.object name)) (a.frame.holding [b.object])
          b.state result t := by
    refine (runs_bind_of_ok (stepwise_ask _) (fun _ => stepwise_ask _) finds).trans ?_
    exact runs_request.trans (runs_hold [b.object])
  constructor
  case composite =>
    intro e computed result t
    refine reads.trans (runs_congr fun ask => ?_)
    rw [readPlace, bind_of_answer (asks_apply _ _ b.state), computed]
  case once =>
    intro e uncomputed result t
    refine reads.trans (runs_congr fun ask => ?_)
    rw [readPlace, bind_of_answer (asks_apply _ _ b.state), uncomputed]

/-- **Who answers a name.**  Let objects decorate each other.  The names of the owner, the home and
the object itself are answered by the first of them; any other name is answered by the first one
that declares it, and getting it computes the slot for that one; the value at the end answers what
no object declares, and without a value there is no such attribute of the last one.

The one that answers does so in the state in which it is reached, so the objects after it have no
part in this; the chain need not even go on.  If it does, down to a value or to an object that
decorates no other, then every name is answered like this, and in no other way. -/
theorem names_along_decoration {path : List Link} (chain : a.Chain c path) (name : String) :
    (∀ result t, Answered name path result t → a.Finds c name result t) ∧
    (Complete path → (∃ result t, Answered name path result t) ∧
      ∀ result t, a.Finds c name result t → Answered name path result t) ∧
    ∀ before b after, path = before ++ b :: after → name ∉ reserved →
      (∀ d ∈ before, ¬ d.Declares name) → b.Declares name → a.Computes c b name := by
  refine ⟨fun result t => chain.finds_answered, fun complete => ?_, ?_⟩
  · obtain ⟨result, t, answered⟩ := complete.exists_answered chain name
    refine ⟨⟨result, t, answered⟩, fun result' t' finds => ?_⟩
    obtain ⟨rfl, rfl⟩ := (chain.finds_answered answered).unique (stepwise_ask _) finds
    exact answered
  · rintro before b after rfl plain undeclared declares
    exact computes_of_finds (chain.finds_answered (.declared plain undeclared declares))

end Link

/-- A child decorates a view of a parent, and the parent decorates a number.  The parent has a slot
that is computed from its self. -/
def State.withChild : State :=
  let five := State.initial.allocData (.int 5)
  let parent := five.2.alloc (.table
    { form := "parent", slots := [("me", .composite .self), (phi, .free (some five.1))] })
  let mask := parent.2.alloc (.view (.unvar parent.1) none)
  (mask.2.alloc (.table { form := "child", slots := [(phi, .free (some mask.1))] })).2

namespace State.withChild

/-! The objects as they are reached from the child. -/

def child (frame : Frame) : Link := ⟨⟨4⟩, frame, State.withChild⟩

def mask (frame : Frame) : Link := ⟨⟨3⟩, (child frame).inside, State.withChild⟩

def parent (frame : Frame) : Link :=
  ⟨⟨2⟩, (mask frame).inside,
    (answered .ofExpressions 2 (.resolve ⟨3⟩) (mask frame).inside State.withChild).state⟩

def five (frame : Frame) : Link := ⟨⟨1⟩, (parent frame).inside, (parent frame).state⟩

theorem chain (frame : Frame) :
    (child frame).Chain .ofExpressions [child frame, parent frame, five frame] :=
  have first : (child frame).Decorates .ofExpressions (mask frame) := ⟨rfl, rfl, 1, rfl⟩
  have behind : (mask frame).Behind .ofExpressions (parent frame) := ⟨rfl, rfl, 2, rfl⟩
  have second : (parent frame).Decorates .ofExpressions (five frame) := ⟨rfl, rfl, 1, rfl⟩
  .decorated first (.behind behind (.decorated second (.here rfl)))

end State.withChild

/-- The child leaves a name to its parent, which answers for itself, and another one to the number,
which has no such attribute. -/
theorem child_asks_parent :
    let c := Computations.ofExpressions
    let child := State.withChild.child {}
    let parent := State.withChild.parent {}
    let five := State.withChild.five {}
    child.Chain c [child, parent, five] ∧
      c.Runs (Link.get child.object "me") {} State.withChild (.ok parent.object) parent.state ∧
      child.Finds c "size" (.error (.noSuchAttribute "size" five.subject)) five.state := by
  intro c child parent five
  have chain : child.Chain c [child, parent, five] := State.withChild.chain {}
  refine ⟨chain, ?_, ?_⟩
  · obtain ⟨_, _, computes⟩ := Link.names_along_decoration chain "me"
    refine ((computes [child] parent [five] rfl (by decide) ?_ rfl).composite rfl).mpr ⟨1, rfl⟩
    exact fun d there => by rw [List.mem_singleton.mp there]; exact Link.undeclared_of_none rfl
  · obtain ⟨finds, _⟩ := Link.names_along_decoration chain "size"
    have earlier : ∀ d ∈ [child, parent], ¬ d.Declares "size" := by
      simp only [List.mem_cons, List.not_mem_nil, or_false]
      rintro d (rfl | rfl) <;> exact Link.undeclared_of_none rfl
    have unindexed (items : List Ref) (is : Value.int 5 = .array items) :
        indexOf? "size" = none := by cases is
    have unknown : five.AnswersAsValue (.int 5) "size" _ _ :=
      .unknown (by decide) unindexed rfl
    have answered : Link.Answered "size" ([child, parent] ++ [five]) _ _ :=
      .value (by decide) earlier rfl unknown
    exact finds _ _ answered

end PhiCalculus
