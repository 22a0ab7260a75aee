import PhiCalculus.Proofs.MethodObjects

/-!
# Methods that select

The object of a choice decorates the argument that its receiver chooses, and the object of an access
to an array decorates the element at the index (`Link.decorates_chosen`, `Link.decorates_element`).
Neither argument nor element is dataized on the way, but dataizing the object goes on with looking
for the value of what it decorates (`Link.forces_decorated`).

The methods `and` and `or` dataize both operands, the receiver first (`Link.forces_joined`).
-/

set_option autoImplicit false

namespace PhiCalculus

open PhiCalculus.Action

variable {c : Computations} {frame : Frame} {s t u w : State} {o r r' x y : Ref} {v : Value}
  {f : Failure} {found : Except Failure Value}

/-! ## Looking for the value of one object for another -/

/-- The value of the second object is the value of the first one, or that one has no data.  For one
object in its own place this is `forceValue`. -/
def forceFor (ask : Answerer) (r x : Ref) : Action Value :=
  cell x >>= fun c =>
    match c.value? with
    | some v => pure v
    | none => findData ask x >>= fun p => ask (.read p) >>= takeFor r

theorem stepwise_forceFor (r x : Ref) :
    Stepwise State.Creates True fun ask => forceFor ask r x := by
  refine .bind (Stepwise.act (.cell x)) fun c => ?_
  cases c.value? with
  | some v => exact Stepwise.act (.pure v)
  | none => exact .bind (stepwise_findData x) fun p => Link.stepwise_rest r p

theorem ends_takeFor : (takeFor r x).Ends frame s found u ↔ found = s.valueFor r x ∧ u = s := by
  refine ⟨(takeFor_ends r x).unique, ?_⟩
  rintro ⟨rfl, rfl⟩
  exact takeFor_ends r x

theorem runs_findData {result : Except Failure Place} :
    c.Runs (fun ask => findData ask r) frame s result t ↔
      ∃ given, c.Ends (.find r delta) frame s given t ∧
        result = given.mapError Failure.ofMissing := by
  constructor
  · rintro ⟨steps, ends⟩
    generalize asked : answered c steps (.find r delta) frame s = o
    have looked := findData_apply (answered c steps) r frame s
    rw [asked] at looked
    cases o with
    | answer p u =>
        obtain ⟨rfl, rfl⟩ := (ends_of_answer looked).mp ends
        exact ⟨.ok p, ⟨steps, asked⟩, rfl⟩
    | failure f u =>
        obtain ⟨rfl, rfl⟩ := (ends_of_failure looked).mp ends
        exact ⟨.error f, ⟨steps, asked⟩, rfl⟩
    | unfinished => exact absurd ends (not_ends_of_unfinished looked)
  · rintro ⟨_ | p, ends, rfl⟩
    · exact runs_findData_error ends
    · exact runs_findData_ok.mpr ends

/-- A value is found at once. -/
theorem runs_forceFor_value (kind : (s.heap.cell x).kind = .data v) :
    c.Runs (fun ask => forceFor ask r x) frame s found u ↔ found = .ok v ∧ u = s := by
  have value : (s.heap.cell x).value? = some v := by rw [Cell.value?, kind]
  have gives (ask : Answerer) : forceFor ask r x frame s = (pure v : Action Value) frame s := by
    rw [forceFor, bind_of_answer (cell_apply x frame s), value]
  exact (runs_congr gives).trans (runs_nothing.trans (ends_of_answer (pure_apply v frame s)))

/-- Anything else is asked for its `Δ`. -/
theorem runs_forceFor_other (other : (s.heap.cell x).value? = none) :
    c.Runs (fun ask => forceFor ask r x) frame s found u ↔
      c.Runs (fun ask => findData ask x >>= fun p => ask (.read p) >>= takeFor r) frame s
        found u := by
  refine runs_congr fun ask => ?_
  rw [forceFor, bind_of_answer (cell_apply x frame s), other]

/-- What is found is the same, but maybe it is another object that is said to have no data. -/
inductive Failure.Akin : Except Failure Value → Except Failure Value → Prop where
  | same (found : Except Failure Value) : Akin found found
  | dataless (o o' : Subject) (d : NoData) : Akin (.error (.notData o d)) (.error (.notData o' d))

theorem Failure.Akin.symm {found found' : Except Failure Value} (akin : Failure.Akin found found') :
    Failure.Akin found' found := by
  cases akin with
  | same => exact .same _
  | dataless => exact .dataless _ _ _

theorem State.valueFor_akin (s : State) (r r' x : Ref) :
    Failure.Akin (s.valueFor r x) (s.valueFor r' x) := by
  rw [State.valueFor, State.valueFor]
  cases (s.heap.cell x).value? with
  | some v => exact .same _
  | none => exact .dataless _ _ _

/-- For which object the value is looked for does not matter. -/
theorem runs_forceFor_akin (runs : c.Runs (fun ask => forceFor ask r x) frame s found u)
    (r' : Ref) : ∃ found', c.Runs (fun ask => forceFor ask r' x) frame s found' u ∧
      Failure.Akin found found' := by
  cases kind : (s.heap.cell x).kind with
  | data v =>
      obtain ⟨rfl, rfl⟩ := (runs_forceFor_value kind).mp runs
      exact ⟨.ok v, (runs_forceFor_value kind).mpr ⟨rfl, rfl⟩, .same _⟩
  | _ =>
      have other : (s.heap.cell x).value? = none := by rw [Cell.value?, kind]
      rw [runs_forceFor_other other, runs_bind (stepwise_findData x) (Link.stepwise_rest r)] at runs
      simp only [runs_forceFor_other other]
      rcases runs with ⟨e, fails, rfl⟩ | ⟨p, w, finds, rest⟩
      · refine ⟨.error e, ?_, .same _⟩
        exact (runs_bind_of_error (stepwise_findData x) (Link.stepwise_rest r') fails).mpr
          ⟨rfl, rfl⟩
      simp only [runs_bind_of_ok (stepwise_findData x) (Link.stepwise_rest r') finds]
      rw [runs_bind (Stepwise.request _) (stepwise_takeFor r)] at rest
      rcases rest with ⟨e, fails, rfl⟩ | ⟨y, w', reads, takes⟩
      · refine ⟨.error e, ?_, .same _⟩
        exact (runs_bind_of_error (Stepwise.request _) (stepwise_takeFor r') fails).mpr ⟨rfl, rfl⟩
      obtain ⟨rfl, rfl⟩ := ends_takeFor.mp (runs_nothing.mp takes)
      refine ⟨_, ?_, State.valueFor_akin _ r r' y⟩
      exact (runs_bind_of_ok (Stepwise.request _) (stepwise_takeFor r') reads).mpr
        (runs_nothing.mpr (takeFor_ends r' y))

namespace Link

variable {a b : Link} {i : MethodCall} {bound : String → Option Ref}

/-- **Looking for the value of an object is looking for that of the object it decorates,** in its
place. -/
theorem forces_decorated (level : c.Level) (decorates : a.Decorates c b)
    (inUse : a.object ∈ a.frame.held) (dataless : ¬ a.Declares delta) :
    a.Forces c found u ↔
      c.Runs (fun ask => forceFor ask a.object b.object) b.frame b.state found u := by
  have other : (a.state.heap.cell a.object).value? = none := by
    obtain ⟨table, kind, _⟩ := decorates.declares.table
    rw [Cell.value?, kind]
  -- the object is in use already
  have alike : a.frame.Alike b.frame := by
    rw [decorates.frame]
    refine ⟨rfl, rfl, fun x => ?_⟩
    show x ∈ a.frame.held ↔ x ∈ a.object :: a.frame.held
    rw [List.mem_cons]
    exact ⟨.inr, fun there => there.elim (fun is => is ▸ inUse) id⟩
  have looks {result : Except Failure Place} {t : State} :
      c.Runs (fun ask => findData ask a.object) a.frame a.state result t ↔
        c.Runs (fun ask => findData ask b.object) b.frame b.state result t := by
    simp only [runs_findData]
    exact exists_congr fun _ => and_congr_left fun _ =>
      finds_decorated decorates (by decide) dataless
  have reads {p : Place} {t : State} :
      c.Runs (fun ask => ask (.read p) >>= takeFor a.object) a.frame t found u ↔
        c.Runs (fun ask => ask (.read p) >>= takeFor a.object) b.frame t found u := by
    have made : Stepwise State.Creates True fun ask => ask (.read p) := Stepwise.request _
    rw [runs_bind made (stepwise_takeFor _), runs_bind made (stepwise_takeFor _)]
    refine or_congr (exists_congr fun _ => and_congr_left fun _ => ends_alike level alike)
      (exists_congr fun y => exists_congr fun w => and_congr (ends_alike level alike) ?_)
    simp only [runs_nothing, ends_takeFor]
  have along : a.Forces c found u ↔ c.Runs (fun ask => findData ask b.object >>= fun p =>
      ask (.read p) >>= takeFor a.object) b.frame b.state found u := by
    rw [forces_iff other, runs_bind (stepwise_findData _) (stepwise_rest _),
      runs_bind (stepwise_findData _) (stepwise_rest _)]
    simp only [looks, reads]
  cases kind : (b.state.heap.cell b.object).kind with
  | data v =>
      have finds : b.Finds c delta (.ok (.fixed b.object delta b.object)) b.state :=
        IsValue.finds (v := v) kind
      have value : b.state.valueFor a.object b.object = .ok v := State.valueFor_eq_ok.mpr (by
        rw [Cell.value?, kind])
      rw [runs_forceFor_value kind, along, runs_bind_of_ok (stepwise_findData _) (stepwise_rest _)
        (runs_findData_ok.mpr finds), runs_bind_of_ok (Stepwise.request _) (stepwise_takeFor _)
        ends_fixed, runs_nothing, ends_takeFor, value]
  | _ =>
      have other : (b.state.heap.cell b.object).value? = none := by rw [Cell.value?, kind]
      rw [along, runs_forceFor_other other]

/-! ## What has ended before -/

/-- Where a sequence ends, its first part does. -/
theorem exists_first {α β : Type} {x : Answerer → Action α} {rest : α → Answerer → Action β}
    {result : Except Failure β}
    (runs : c.Runs (fun ask => x @ask >>= fun a => rest a @ask) frame s result t) :
    ∃ first u, c.Runs x frame s first u := by
  obtain ⟨steps, ends⟩ := runs
  rcases ends_bind.mp ends with ⟨e, failed, _⟩ | ⟨a, u, ended, _⟩
  · exact ⟨_, _, steps, failed⟩
  · exact ⟨_, _, steps, ended⟩

/-- Where looking for the value of the object of a method ends, the method has ended. -/
theorem exists_method {i : MethodCall} (is : b.state.Embodies b.object i bound)
    (computes : c.ComputesMethods) (forces : b.Forces c found t) :
    ∃ result u, c.Runs (fun ask => methodResult ask i.method b.object) b.working b.state
      result u := by
  obtain ⟨owner, kind⟩ := is.kind
  have other : (b.state.heap.cell b.object).value? = none := by rw [Cell.value?, kind]
  have declares : b.Declares phi := by rw [Declares, is.body]; rfl
  obtain ⟨_, _, looked⟩ := exists_first ((forces_iff other).mp forces)
  obtain ⟨_, finds, _⟩ := runs_findData.mp looked
  obtain ⟨_, _, reads⟩ := exists_first
    ((finds_decorating declares (by decide) (undeclared_of_none is.dataless)).mp finds)
  exact ⟨_, _, (reads_method is computes).mp reads⟩

/-- Where a method with one argument has ended, the argument has been dataized. -/
theorem exists_argument {α β : Type} {i : MethodCall} {attr : String} {tag tag' : TypeTag}
    {part : Value → Option α} {part' : Value → Option β} {p : α} {items : α → List Ref}
    (is : b.state.Embodies b.object i bound) (tagged : i.value.tag = tag)
    (has : part i.value = some p) (receives : b.Receives i w) (same : items p = i.value.items)
    (param : attr ∈ i.method.params) (given : bound attr = some x)
    {rest : α → β → Answerer → Action Ref}
    (made : ∀ a z, Stepwise State.Creates True (rest a z)) {result : Except Failure Ref}
    (runs : c.Runs (fun ask => fetchAs ask b.object sigma tag part >>= fun a =>
        hold (items a) (fetchAs ask b.object attr tag' part') >>= fun z => rest a z ask)
      b.working b.state result t) :
    ∃ argument u, c.Ends (.dataize x) (b.asking i) w argument u := by
  have onward (a : α) : Stepwise State.Creates True fun ask =>
      hold (items a) (fetchAs ask b.object attr tag' part') >>= fun z => rest a z ask :=
    .bind (.hold _ (straight_fetchAs _ _ _ _).stepwise) (made a)
  obtain ⟨_, u, fetched⟩ := exists_first ((runs_unary is tagged has receives onward).mp runs)
  rw [runs_hold, same, runs_fetchAs] at fetched
  obtain ⟨argument, fetched, _⟩ := fetched
  exact ⟨argument, u, (receives.argument_iff is param given).mp fetched⟩

/-! ## Choices -/

/-- The argument that a boolean chooses. -/
def branchOf (chooses : Bool) : String := if chooses then "t" else "f"

end Link

/-- A boolean and its method `if`. -/
def MethodCall.choosing (r : Ref) (chooses : Bool) : MethodCall where
  receiver := r
  value := .bool chooses
  name := "if"
  method := .choose
  named := rfl

namespace Link

variable {a b : Link} {bound : String → Option Ref} {chooses : Bool} {n : Int64} {j : Ref}
  {items : List Ref}

theorem branchOf_param : branchOf chooses ∈ Method.choose.params := by cases chooses <;> decide

/-- A choice reads the argument that is chosen. -/
theorem runs_choose (is : b.state.Embodies b.object (.choosing r chooses) bound)
    (receives : b.Receives (.choosing r chooses) w) {result : Except Failure Ref} :
    c.Runs (fun ask => methodResult ask .choose b.object) b.working b.state result t ↔
      c.Ends (.read (.slot b.object (branchOf chooses))) b.working w result t := by
  have made (chooses : Bool) : Stepwise State.Creates True fun ask =>
      ask (.find b.object (branchOf chooses)) >>= fun branch => ask (.read branch) :=
    .bind (Stepwise.request _) fun _ => Stepwise.request _
  have declares : Declares ⟨b.object, b.working, w⟩ (branchOf chooses) := by
    rw [Declares, receives.heap, is.argument branchOf_param]
    rfl
  have finds := finds_declared (c := c) declares (Method.param_plain branchOf_param).2.2
  refine (runs_unary (a := chooses) is rfl rfl receives made).trans ?_
  exact runs_bind_of_ok (stepwise_ask _) (fun _ => stepwise_ask _) finds

/-- **The object of a choice decorates the argument that is chosen.** -/
theorem decorates_chosen (is : b.state.Embodies b.object (.choosing r chooses) bound)
    (computes : c.ComputesMethods) (receives : b.Receives (.choosing r chooses) w)
    (given : bound (branchOf chooses) = some x) : b.Decorates c ⟨x, b.inside, w⟩ := by
  refine decorates_method is computes ((runs_choose is receives).mpr (ends_read_free ?_))
  rw [receives.heap, is.argument branchOf_param, given]

/-- If the argument that is chosen has not been given, there is no value. -/
theorem forces_unchosen (is : b.state.Embodies b.object (.choosing r chooses) bound)
    (computes : c.ComputesMethods) (receives : b.Receives (.choosing r chooses) w)
    (missing : bound (branchOf chooses) = none) :
    b.Forces c (.error (.notYetBound (branchOf chooses) b.subject)) w := by
  have empty : w.heap.slot? b.object (branchOf chooses) = some (.free none) := by
    rw [receives.heap, is.argument branchOf_param, missing]
  have same : w.heap.subject b.object = b.subject := by rw [receives.heap]; rfl
  have fails : c.Ends (.read (.slot b.object (branchOf chooses))) b.working w
      (.error (.notYetBound (branchOf chooses) b.subject)) w := by
    refine runs_request.mpr ⟨0, ?_⟩
    show readPlace _ (.slot b.object (branchOf chooses)) (b.working.holding [b.object]) w = _
    rw [readPlace, bind_of_answer (asks_apply _ _ w), empty, ← same]
    rfl
  exact (ComesTo.refl is.concrete).forces_failure is computes ((runs_choose is receives).mpr fails)

end Link

/-! ## Elements -/

/-- An array and its method `at`. -/
def MethodCall.picking (r : Ref) (items : List Ref) : MethodCall where
  receiver := r
  value := .array items
  name := "at"
  method := .element
  named := rfl

/-- The element at the index that has been found, if it is one. -/
def elementOf (items : List Ref) (index : Except Failure Value) : Except Failure Ref :=
  (index.bind (demand "i" .int fun
    | .int n => some n
    | _ => none)).bind (elementAt items)

/-- The array has been dataized and then the index, which has ended in that. -/
structure Link.Indexes (c : Computations) (b : Link) (r : Ref) (items : List Ref) (j : Ref)
    (w : State) (index : Except Failure Value) (u : State) : Prop where
  receives : b.Receives (.picking r items) w
  ends : c.Ends (.dataize j) (b.asking (.picking r items)) w index u

namespace Link

variable {a b : Link} {bound : String → Option Ref} {j : Ref} {items : List Ref}
  {index : Except Failure Value}

section

variable (is : b.state.Embodies b.object (.picking r items) bound) (computes : c.ComputesMethods)
  (given : bound "i" = some j) (indexes : b.Indexes c r items j w index u)
include is given indexes

/-- An access to an array dataizes the index. -/
theorem runs_element {result : Except Failure Ref} :
    c.Runs (fun ask => methodResult ask .element b.object) b.working b.state result t ↔
      result = elementOf items index ∧ t = u := by
  have made (items : List Ref) (n : Int64) : Stepwise State.Creates True fun _ =>
      conclude (elementAt items n) := Stepwise.conclude _
  refine (runs_binary (a := items) is rfl rfl indexes.receives rfl List.mem_cons_self given
    indexes.ends made).trans ?_
  rw [runs_nothing]
  cases tested : index.bind (demand "i" .int fun
    | .int n => some n
    | _ => none) with
  | error f =>
      rw [elementOf, tested]
      exact ends_of_failure rfl
  | ok n =>
      rw [elementOf, tested]
      exact ends_conclude

include computes

/-- **The object of an access to an array decorates the element at the index.** -/
theorem decorates_element (chosen : elementOf items index = .ok x) :
    b.Decorates c ⟨x, b.inside, u⟩ :=
  decorates_method is computes ((runs_element is given indexes).mpr ⟨chosen.symm, rfl⟩)

/-- If there is no such element, there is no value. -/
theorem forces_no_element (missing : elementOf items index = .error f) :
    b.Forces c (.error f.ofMissing) u :=
  (ComesTo.refl is.concrete).forces_failure is computes
    ((runs_element is given indexes).mpr ⟨missing.symm, rfl⟩)

end

/-- Where looking for the value ends, the index has been dataized. -/
theorem exists_index (is : b.state.Embodies b.object (.picking r items) bound)
    (computes : c.ComputesMethods) (receives : b.Receives (.picking r items) w)
    (given : bound "i" = some j) (forces : b.Forces c found t) :
    ∃ index u, b.Indexes c r items j w index u := by
  obtain ⟨result, u, runs⟩ := exists_method is computes forces
  have made (items : List Ref) (n : Int64) : Stepwise State.Creates True fun _ =>
      conclude (elementAt items n) := Stepwise.conclude _
  obtain ⟨index, u, ends⟩ := exists_argument (p := items) is rfl rfl receives rfl List.mem_cons_self
    given made runs
  exact ⟨index, u, receives, ends⟩

end Link

/-! ## Conjunction and disjunction -/

/-- The two methods of booleans that have an argument and give a boolean. -/
inductive Connective where
  | and
  | or

namespace Connective

def name : Connective → String
  | and => "and"
  | or => "or"

def method : Connective → Method
  | and => .conjunction
  | or => .disjunction

def apply : Connective → Bool → Bool → Bool
  | and => Bool.and
  | or => Bool.or

/-- What is found, if the argument has been found to be that: its failure if it has failed. -/
def of (k : Connective) (a : Bool) (argument : Except Failure Value) : Except Failure Value :=
  (argument.bind (demand "x" .bool fun
    | .bool b => some b
    | _ => none)).map fun b => .bool (k.apply a b)

end Connective

/-- A boolean and one of its methods `and` and `or`. -/
def MethodCall.joining (k : Connective) (r : Ref) (a : Bool) : MethodCall where
  receiver := r
  value := .bool a
  name := k.name
  method := k.method
  named := by cases k <;> rfl

/-- A failed dataization does not report that an attribute is missing: it has added a term. -/
theorem ofMissing_of_dataize (fails : c.Ends (.dataize x) frame s (.error f) u) :
    f.ofMissing = f := by
  obtain ⟨found, w, _, ends⟩ := Link.dataize_iff.mp fails
  cases found with
  | ok v => cases (ends_endTake_ok.mp ends).1
  | error e =>
      obtain ⟨_, e', same, places⟩ := ends_endTake_error.mp ends
      cases same
      cases places with
      | passes passes => cases f <;> first | rfl | cases passes
      | adds => rfl

namespace Link

variable {a b : Link} {bound : String → Option Ref} {k : Connective} {z : Bool}

/-- **A conjunction or disjunction dataizes the receiver and then the argument,** whichever value
the receiver has. -/
theorem forces_joined (is : b.state.Embodies b.object (.joining k r z) bound)
    (computes : c.ComputesMethods) (receives : b.Receives (.joining k r z) w)
    (given : bound "x" = some x) {argument : Except Failure Value}
    (ends : c.Ends (.dataize x) (b.asking (.joining k r z)) w argument u) :
    b.Forces c (k.of z argument) (u.withMade (k.of z argument)) := by
  have missing (e : Failure) (is : k.of z argument = .error e) : e.ofMissing = e := by
    cases argument with
    | error e' =>
        cases is
        exact ofMissing_of_dataize ends
    | ok v => cases v <;> cases is <;> rfl
  refine (ComesTo.refl is.concrete).forces_made is computes missing fun result t => ?_
  have made (a b : Bool) : Stepwise State.Creates True fun _ => data (.bool (k.apply a b)) :=
    Stepwise.act (.data _)
  have param : "x" ∈ k.method.params := by cases k <;> exact List.mem_cons_self
  have runs : c.Runs (fun ask => fetchBool ask b.object sigma >>= fun a =>
      hold [] (fetchBool ask b.object "x") >>= fun b => data (.bool (k.apply a b)))
        b.working b.state result t ↔
          (conclude (k.of z argument) >>= data).Ends b.working u result t :=
    (runs_binary (a := z) is rfl rfl receives rfl param given ends made).trans
      (runs_nothing.trans ?_)
  refine Iff.trans ?_ runs
  · cases k <;> exact Iff.rfl
  · cases argument with
    | error e => exact Iff.rfl
    | ok v => cases v <;> exact Iff.rfl

/-- **A conjunction or disjunction always dataizes both operands,** the receiver first, and what the
argument ends in decides along with the value of the receiver. -/
theorem forces_joined_iff (is : b.state.Embodies b.object (.joining k r z) bound)
    (computes : c.ComputesMethods) (receives : b.Receives (.joining k r z) w)
    (given : bound "x" = some x) :
    b.Forces c found t ↔ ∃ argument u,
      c.Ends (.dataize x) (b.asking (.joining k r z)) w argument u ∧
      found = k.of z argument ∧ t = u.withMade (k.of z argument) := by
  constructor
  · intro forces
    have param : "x" ∈ k.method.params := by cases k <;> exact List.mem_cons_self
    obtain ⟨result, u, runs⟩ := exists_method is computes forces
    have made (a b : Bool) : Stepwise State.Creates True fun _ => data (.bool (k.apply a b)) :=
      Stepwise.act (.data _)
    have runs : c.Runs (fun ask => fetchBool ask b.object sigma >>= fun a =>
        hold [] (fetchBool ask b.object "x") >>= fun b => data (.bool (k.apply a b))) b.working
          b.state result u := by
      cases k <;> exact runs
    obtain ⟨argument, u, ends⟩ :=
      exists_argument (p := z) is rfl rfl receives rfl param given made runs
    obtain ⟨rfl, rfl⟩ := (forces_joined is computes receives given ends).unique forces
    exact ⟨argument, _, ends, rfl, rfl⟩
  · rintro ⟨argument, u, ends, rfl, rfl⟩
    exact forces_joined is computes receives given ends

end Link

end PhiCalculus
