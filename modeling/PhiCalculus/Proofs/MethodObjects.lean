import PhiCalculus.Proofs.AlikeRequests
import PhiCalculus.Proofs.Dataization
import PhiCalculus.Proofs.Memoization

/-!
# Objects of methods

An object of a method has its receiver as its home, its arguments in slots, and decorates what the
method computes (`Link.Embodies`).  Dataizing it, or an object whose chain of decoration comes to it
(`Link.ComesTo`), runs the method: the receiver is dataized first, which is a value already, and
then the argument, if the method has one that it dataizes (`Link.Receives`, `Link.asking`).  What
the method computes decides: a value is the value of the object, and a failure is its failure.

What is fetched from a slot must have a certain type.  The test is a function of the value alone
(`demand`), so that fetching a value of a type is fetching a value and putting it to the test
(`runs_fetchAs`).
-/

set_option autoImplicit false

namespace PhiCalculus

open PhiCalculus.Action

/-- The computations of methods are among them, as they are. -/
def Computations.ComputesMethods (c : Computations) : Prop :=
  ∀ (ask : Answerer) (r : Ref) (m : Method), c.run ask r (.native (.method m)) = methodResult ask m r

theorem computesMethods_ofExpressions : Computations.ofExpressions.ComputesMethods :=
  fun _ _ _ => rfl

variable {α β : Type} {c : Computations} {frame : Frame} {s t u w : State} {o r x y : Ref}
  {v : Value} {f : Failure} {p : Place} {attr : String} {tag : TypeTag} {m : Method}

/-! ## Ends of dataizations -/

/-- How a dataization ends that has found a value or a failure: the value is told, and the failure
may get the term of the object. -/
inductive Concludes (q : Ref) (frame : Frame) (u : State) :
    Except Failure Value → Except Failure Value → State → Prop where
  | value {z : Value} {t : State} : u.Tells (frame.holding [q]) q z t →
      Concludes q frame u (.ok z) (.ok z) t
  | failure {f e : Failure} : u.Places q f e → Concludes q frame u (.error f) (.error e) u

theorem concludes_iff {q : Ref} {found result : Except Failure Value} :
    (endTake (frame.holding [q]) q found).Ends (frame.holding [q]) u result t ↔
      Concludes q frame u found result t := by
  cases found with
  | ok z =>
      rw [ends_endTake_ok]
      constructor
      · rintro ⟨rfl, tells⟩
        exact .value tells
      · rintro ⟨tells⟩
        exact ⟨rfl, tells⟩
  | error f =>
      rw [ends_endTake_error]
      constructor
      · rintro ⟨rfl, e, rfl, places⟩
        exact .failure places
      · rintro ⟨⟩
        next e places => exact ⟨rfl, e, rfl, places⟩

/-- A dataization ends as what has been looked for says. -/
theorem dataize_of_forces {q : Ref} {found result : Except Failure Value}
    (forces : (Link.taken q frame s).Forces c found u) :
    c.Ends (.dataize q) frame s result t ↔ Concludes q frame u found result t := by
  rw [Link.dataize_iff, ← concludes_iff]
  constructor
  · rintro ⟨found', u', forces', ends⟩
    obtain ⟨rfl, rfl⟩ := forces.unique forces'
    exact ends
  · exact fun ends => ⟨_, u, forces, ends⟩

theorem concludes_ok {q : Ref} {result : Except Failure Value} :
    Concludes q frame u (.ok v) result t ↔ result = .ok v ∧ u.Tells (frame.holding [q]) q v t :=
  concludes_iff.symm.trans ends_endTake_ok

/-- Dataizing a value gives it. -/
theorem dataize_data (kind : (s.heap.cell r).kind = .data v) {result : Except Failure Value} :
    c.Ends (.dataize r) frame s result t ↔
      result = .ok v ∧ s.Tells (frame.holding [r]) r v t := by
  have value : (Link.taken r frame s).IsValue v := kind
  exact (dataize_of_forces (Link.forces_value value)).trans concludes_ok

/-! ## Fetching -/

/-- The part that only values of the type have, or the complaint about a value of another type. -/
def demand (attr : String) (tag : TypeTag) (part : Value → Option α) (v : Value) :
    Except Failure α :=
  if v.tag = tag then
    match part v with
    | some a => .ok a
    | none => .error (.typeMismatch attr tag v.tag)
  else .error (.typeMismatch attr tag v.tag)

theorem demand_of_part {part : Value → Option α} {a : α} (tagged : v.tag = tag)
    (has : part v = some a) : demand attr tag part v = .ok a := by
  rw [demand, if_pos tagged, has]

theorem demand_of_other (part : Value → Option α) (other : v.tag ≠ tag) :
    demand attr tag part v = .error (.typeMismatch attr tag v.tag) := if_neg other

/-- A value of a type is fetched by fetching a value and putting it to the test. -/
theorem fetchAs_eq (ask : Answerer) (r : Ref) (attr : String) (tag : TypeTag)
    (part : Value → Option α) :
    fetchAs ask r attr tag part =
      fetch ask r attr >>= fun v => conclude (demand attr tag part v) := by
  funext frame s
  rw [fetchAs, fetchTyped, bind_apply, bind_apply, bind_apply]
  cases fetch ask r attr frame s with
  | answer v t =>
      dsimp only
      by_cases tagged : v.tag = tag
      · rw [if_pos (beq_iff_eq.mpr tagged), demand, if_pos tagged]
        have read (given : Option α) :
            (match given with
              | some a => pure a
              | none => Action.fail (.typeMismatch attr tag v.tag)) frame t =
            conclude (match given with
              | some a => .ok a
              | none => .error (.typeMismatch attr tag v.tag)) frame t := by
          cases given <;> rfl
        exact read (part v)
      · rw [if_neg fun same => tagged (beq_iff_eq.mp same), demand_of_other part tagged]
        rfl
  | failure f t => rfl
  | unfinished => rfl

theorem ends_conclude {result : Except Failure α} {given : Except Failure α} :
    (conclude given).Ends frame s result t ↔ result = given ∧ t = s := by
  cases given with
  | ok a => exact ends_of_answer (pure_apply a frame s)
  | error f => exact ends_of_failure (fail_apply f frame s)

/-- A sequence goes on with what its first part ends in. -/
theorem runs_bind_of_ends {x : Answerer → Action α} {rest : α → Answerer → Action β}
    {found : Except Failure α} {result : Except Failure β}
    (made : Stepwise State.Creates True x) (onward : ∀ a, Stepwise State.Creates True (rest a))
    (first : c.Runs x frame s found u) :
    c.Runs (fun ask => x ask >>= fun a => rest a ask) frame s result t ↔
      c.Runs (fun ask => conclude found >>= fun a => rest a ask) frame u result t := by
  have again : c.Runs (fun _ => conclude found) frame u found u :=
    runs_nothing.mpr (ends_conclude.mpr ⟨rfl, rfl⟩)
  have concludes : Stepwise State.Creates True fun _ => conclude found := Stepwise.conclude found
  cases found with
  | ok a =>
      exact (runs_bind_of_ok made onward first).trans (runs_bind_of_ok concludes onward again).symm
  | error e =>
      exact (runs_bind_of_error made onward first).trans
        (runs_bind_of_error concludes onward again).symm

theorem runs_fetchAs {part : Value → Option α} {result : Except Failure α} :
    c.Runs (fun ask => fetchAs ask r attr tag part) frame s result t ↔
      ∃ found, c.Runs (fun ask => fetch ask r attr) frame s found t ∧
        result = found.bind (demand attr tag part) := by
  simp only [fetchAs_eq]
  have made : Stepwise State.Creates True fun ask => fetch ask r attr :=
    (straight_fetch r attr).stepwise
  rw [runs_bind made fun v => Stepwise.conclude _]
  constructor
  · rintro (⟨e, failed, rfl⟩ | ⟨v, u, fetched, tested⟩)
    · exact ⟨_, failed, rfl⟩
    · obtain ⟨rfl, rfl⟩ := ends_conclude.mp (runs_nothing.mp tested)
      exact ⟨_, fetched, rfl⟩
  · rintro ⟨e | v, fetched, rfl⟩
    · exact .inl ⟨e, fetched, rfl⟩
    · exact .inr ⟨v, t, fetched, runs_nothing.mpr (ends_conclude.mpr ⟨rfl, rfl⟩)⟩

/-- What is at the place that is found is dataized. -/
theorem runs_fetch {result : Except Failure Value} (finds : c.Ends (.find r attr) frame s (.ok p) w)
    (reads : c.Ends (.read p) (frame.holding p.refs) w (.ok x) u) :
    c.Runs (fun ask => fetch ask r attr) frame s result t ↔
      c.Ends (.dataize x) (frame.holding p.refs) u result t := by
  have held (p : Place) : Stepwise State.Creates True fun ask =>
      hold p.refs (ask (.read p) >>= fun x => ask (.dataize x)) :=
    .hold p.refs (.bind (Stepwise.request _) fun _ => Stepwise.request _)
  have read : Stepwise State.Creates True fun ask => ask (.read p) := Stepwise.request _
  refine (runs_bind_of_ok (Stepwise.request _) held finds).trans ((runs_hold p.refs).trans ?_)
  exact runs_bind_of_ok read (fun _ => Stepwise.request _) reads

theorem State.Tells.heap {around : Frame} (tells : s.Tells around r v t) : t.heap = s.heap := by
  cases tells <;> rfl

/-- What has been written is read. -/
theorem ends_read_free (written : s.heap.slot? r attr = some (.free (some x))) :
    c.Ends (.read (.slot r attr)) frame s (.ok x) s := by
  refine runs_request.mpr ⟨0, ?_⟩
  show readPlace _ (.slot r attr) (frame.holding [r]) s = _
  rw [readPlace, bind_of_answer (asks_apply _ _ s), written]
  rfl

theorem State.home?_of_data {held : List Ref} (homed : (s.heap.cell o).home? = some r)
    (kind : (s.heap.cell r).kind = .data v) : s.home? held o = some r := by
  have isData : (s.heap.cell r).isData = true := by rw [Cell.isData, Cell.value?, kind]; rfl
  rw [State.home?, homed]
  simp [isData]

/-- The state in which a value has been made an object; nothing is made of a failure. -/
def State.withMade (s : State) : Except Failure Value → State
  | .ok z => (s.allocData z).2
  | .error _ => s

/-! ## Objects of methods -/

/-- A value, and a method that values of its type have. -/
structure MethodCall where
  receiver : Ref
  value : Value
  name : String
  method : Method
  named : Method.ofName? value.tag name = some method

/-- The slots of an object of the method, with those arguments. -/
def Method.slots (m : Method) (bound : String → Option Ref) : Slots :=
  m.params.map (fun p => (p, .free (bound p))) ++ [(phi, .composite (.native (.method m)))]

/-- An object of the method, with that owner and those arguments. -/
def MethodCall.table (i : MethodCall) (owner : Option Ref) (bound : String → Option Ref) : Table where
  form := i.value.tag.name ++ "." ++ i.name
  home := some i.receiver
  owner := owner
  slots := i.method.slots bound

/-- The object is one of the method, for that value and with those arguments. -/
structure State.Embodies (s : State) (o : Ref) (i : MethodCall) (bound : String → Option Ref) :
    Prop where
  receiver : (s.heap.cell i.receiver).kind = .data i.value
  kind : ∃ owner, (s.heap.cell o).kind = .table (i.table owner bound)

namespace Method

theorem param_plain {m : Method} {p : String} (param : p ∈ m.params) :
    p ≠ phi ∧ p ≠ delta ∧ p ∉ reserved := by
  have all : ∀ p ∈ m.params, p ≠ phi ∧ p ≠ delta ∧ p ∉ reserved := by
    rcases m with _ | op | op | _ <;> try cases op
    all_goals decide
  exact all p param

theorem find?_params (params : List String) (bound : String → Option Ref) (rest : Slots)
    (name : String) :
    Slots.find? (params.map (fun p => (p, .free (bound p))) ++ rest) name =
      if name ∈ params then some (.free (bound name)) else rest.find? name := by
  induction params with
  | nil => rfl
  | cons p params ih =>
      rw [List.map_cons, List.cons_append, Slots.find?_cons]
      by_cases same : name = p
      · simp [same]
      · rw [if_neg (by simpa using same), ih]
        simp [same]

variable {m : Method} {bound : String → Option Ref} {p : String}

theorem find?_param (param : p ∈ m.params) : (m.slots bound).find? p = some (.free (bound p)) := by
  rw [slots, find?_params, if_pos param]

theorem find?_phi : (m.slots bound).find? phi = some (.composite (.native (.method m))) := by
  rw [slots, find?_params, if_neg fun param => (param_plain param).1 rfl]
  rfl

theorem find?_delta : (m.slots bound).find? delta = none := by
  rw [slots, find?_params, if_neg fun param => (param_plain param).2.1 rfl]
  rfl

end Method

namespace State.Embodies

variable {i : MethodCall} {bound : String → Option Ref} (is : s.Embodies o i bound)
include is

theorem slots : (s.heap.cell o).slots = i.method.slots bound := by
  obtain ⟨owner, kind⟩ := is.kind
  rw [Cell.slots, kind]
  rfl

theorem home : (s.heap.cell o).home? = some i.receiver := by
  obtain ⟨owner, kind⟩ := is.kind
  rw [Cell.home?, kind]
  rfl

theorem concrete : (s.heap.cell o).isView = false := by
  obtain ⟨owner, kind⟩ := is.kind
  exact isView_of_table kind

theorem body : s.heap.slot? o phi = some (.composite (.native (.method i.method))) := by
  rw [Heap.slot?, is.slots, Method.find?_phi]

theorem dataless : s.heap.slot? o delta = none := by
  rw [Heap.slot?, is.slots, Method.find?_delta]

theorem argument (param : attr ∈ i.method.params) :
    s.heap.slot? o attr = some (.free (bound attr)) := by
  rw [Heap.slot?, is.slots, Method.find?_param param]

end State.Embodies

/-- The value has the type that the method is of. -/
theorem MethodCall.has (i : MethodCall) (expected : i.method.receiver = some tag) :
    i.value.tag = tag := Method.receiver_of_name i.named tag expected

namespace Link

variable {a b : Link} {name : String} {i : MethodCall} {bound : String → Option Ref}

/-- The object is asked for its value by asking the other one: its chain comes to that one, and
nobody before declares a `Δ`. -/
def ComesTo (c : Computations) (a b : Link) : Prop :=
  ∃ before after, a.Chain c (before ++ b :: after) ∧ ∀ d ∈ before, ¬ d.Declares delta

theorem ComesTo.finds (comes : a.ComesTo c b) {result : Except Failure Place} :
    a.Finds c delta result t ↔ b.Finds c delta result t := by
  obtain ⟨before, after, chain, earlier⟩ := comes
  exact chain.finds_along (by decide) rfl earlier

theorem ComesTo.refl (concrete : (a.state.heap.cell a.object).isView = false) : a.ComesTo c a :=
  ⟨[], [], .here concrete, nofun⟩

theorem ComesTo.of_behind (behind : a.Behind c b)
    (concrete : (b.state.heap.cell b.object).isView = false) : a.ComesTo c b :=
  ⟨[], [], .behind behind (.here concrete), nofun⟩

/-- What surrounds the method of the object. -/
def working (b : Link) : Frame := (b.inside.holding [b.object]).holding [b.object]

/-- The receiver has been dataized, with whatever this leaves in the trace. -/
def Receives (b : Link) (i : MethodCall) (w : State) : Prop :=
  b.state.Tells ((b.working.holding [b.object, i.receiver]).holding [i.receiver]) i.receiver
    i.value w

/-- What surrounds the dataization of the argument; the elements of an array are in use then. -/
def asking (b : Link) (i : MethodCall) : Frame :=
  (b.working.holding i.value.items).holding [b.object]

/-- Reading what the object decorates is evaluating its method. -/
theorem reads_native (is : s.Embodies o i bound) {result : Except Failure Ref} :
    c.Ends (.read (.slot o phi)) frame s result t ↔
      c.Ends (.eval (.native (.method i.method)) o) (frame.holding [o]) s result t := by
  refine runs_request.trans ((runs_hold [o]).trans (runs_congr fun ask => ?_))
  show readPlace ask (.slot o phi) (frame.holding [o]) s = _
  rw [readPlace, bind_of_answer (asks_apply _ _ s), is.body]

section

variable (is : b.state.Embodies b.object i bound)
include is

/-- Reading what the object decorates is running its method. -/
theorem reads_method (computes : c.ComputesMethods) {result : Except Failure Ref} :
    c.Ends (.read (.slot b.object phi)) b.inside b.state result t ↔
      c.Runs (fun ask => methodResult ask i.method b.object) b.working b.state result t := by
  refine (reads_native is).trans (runs_request.trans ?_)
  refine (runs_hold [b.object]).trans (runs_congr fun ask => ?_)
  rw [computes ask b.object i.method]

/-- What the method gives is what the object decorates. -/
theorem decorates_method (computes : c.ComputesMethods)
    (gives : c.Runs (fun ask => methodResult ask i.method b.object) b.working b.state (.ok y) u) :
    b.Decorates c ⟨y, b.inside, u⟩ where
  declares := by rw [Declares, is.body]; rfl
  frame := rfl
  reads := (reads_method is computes).mpr gives

/-- A failure of the method is met when the object is asked for its data. -/
theorem finds_of_failure (computes : c.ComputesMethods)
    (fails : c.Runs (fun ask => methodResult ask i.method b.object) b.working b.state (.error f) u) :
    b.Finds c delta (.error f) u := by
  have declares : b.Declares phi := by rw [Declares, is.body]; rfl
  rw [finds_decorating declares (by decide) (undeclared_of_none is.dataless)]
  have read := (reads_method is computes).mpr fails
  exact (runs_bind_of_error (stepwise_ask _) (fun _ => stepwise_ask _) read).mpr ⟨rfl, rfl⟩

/-- **The receiver is dataized first.** -/
theorem receives_iff {result : Except Failure Value} :
    c.Runs (fun ask => fetch ask b.object sigma) b.working b.state result w ↔
      result = .ok i.value ∧ b.Receives i w := by
  have home : b.state.home? ((⟨b.object, b.working, b.state⟩ : Link).inside).held b.object =
      some i.receiver := State.home?_of_data is.home is.receiver
  have finds : c.Ends (.find b.object sigma) b.working b.state
      (.ok (.fixed b.object sigma i.receiver)) b.state :=
    (AnswersReserved.home (a := ⟨b.object, b.working, b.state⟩) home).finds is.concrete
  exact (runs_fetch finds ends_fixed).trans (dataize_data is.receiver)

end

/-- **An argument that has been given is dataized.** -/
theorem Receives.argument_iff (receives : b.Receives i w)
    (is : b.state.Embodies b.object i bound) (param : attr ∈ i.method.params)
    (given : bound attr = some x) {result : Except Failure Value} :
    c.Runs (fun ask => fetch ask b.object attr) (b.working.holding i.value.items) w result t ↔
      c.Ends (.dataize x) (b.asking i) w result t := by
  have written : w.heap.slot? b.object attr = some (.free (some x)) := by
    rw [receives.heap, is.argument param, given]
  have declares : Declares ⟨b.object, b.working.holding i.value.items, w⟩ attr := by
    rw [Declares, written]; rfl
  exact runs_fetch (finds_declared declares (Method.param_plain param).2.2)
    (ends_read_free written)

/-! ## Methods of one value, and of two -/

section

variable {part : Value → Option α} {part' : Value → Option β} {tag' : TypeTag} {a : α}
  {found : Except Failure Value} {result : Except Failure Ref}

/-- The part of the receiver that its method works on is there. -/
theorem runs_receiver (is : b.state.Embodies b.object i bound) (tagged : i.value.tag = tag)
    (has : part i.value = some a) (receives : b.Receives i w) :
    c.Runs (fun ask => fetchAs ask b.object sigma tag part) b.working b.state (.ok a) w := by
  refine runs_fetchAs.mpr ⟨.ok i.value, (receives_iff is).mpr ⟨rfl, receives⟩, ?_⟩
  exact (demand_of_part tagged has).symm

/-- A method without arguments goes on with the receiver. -/
theorem runs_unary (is : b.state.Embodies b.object i bound) (tagged : i.value.tag = tag)
    (has : part i.value = some a) (receives : b.Receives i w) {rest : α → Answerer → Action Ref}
    (made : ∀ a, Stepwise State.Creates True (rest a)) :
    c.Runs (fun ask => fetchAs ask b.object sigma tag part >>= fun a => rest a ask) b.working
      b.state result t ↔ c.Runs (rest a) b.working w result t :=
  runs_bind_of_ok (straight_fetchAs _ _ _ _).stepwise made (runs_receiver is tagged has receives)

/-- A method with one argument goes on with what the argument is found to be, put to the test. -/
theorem runs_binary (is : b.state.Embodies b.object i bound) (tagged : i.value.tag = tag)
    (has : part i.value = some a) (receives : b.Receives i w) {items : α → List Ref}
    (same : items a = i.value.items) (param : attr ∈ i.method.params) (given : bound attr = some x)
    (argument : c.Ends (.dataize x) (b.asking i) w found u) {rest : α → β → Answerer → Action Ref}
    (made : ∀ a z, Stepwise State.Creates True (rest a z)) :
    c.Runs (fun ask => fetchAs ask b.object sigma tag part >>= fun a =>
        hold (items a) (fetchAs ask b.object attr tag' part') >>= fun z => rest a z ask)
      b.working b.state result t ↔
    c.Runs (fun ask => conclude (found.bind (demand attr tag' part')) >>= fun z => rest a z ask)
      b.working u result t := by
  have tested : c.Runs (fun ask => hold (items a) (fetchAs ask b.object attr tag' part')) b.working w
      (found.bind (demand attr tag' part')) u := by
    rw [runs_hold, same]
    exact runs_fetchAs.mpr ⟨found, (receives.argument_iff is param given).mpr argument, rfl⟩
  have stepwise (a : α) : Stepwise State.Creates True fun ask =>
      hold (items a) (fetchAs ask b.object attr tag' part') :=
    .hold _ (straight_fetchAs _ _ _ _).stepwise
  refine (runs_bind_of_ok (straight_fetchAs _ _ _ _).stepwise (fun a => .bind (stepwise a) (made a))
    (runs_receiver is tagged has receives)).trans ?_
  exact runs_bind_of_ends (stepwise a) (made a) tested

end

/-! ## What the method gives -/

/-- **A value that the method gives is the value of the object.** -/
theorem ComesTo.forces_value (comes : a.ComesTo c b) (is : b.state.Embodies b.object i bound)
    (computes : c.ComputesMethods)
    (gives : c.Runs (fun ask => methodResult ask i.method b.object) b.working b.state (.ok y) u)
    {z : Value} (value : (u.heap.cell y).kind = .data z) : a.Forces c (.ok z) u := by
  have found : a.Finds c delta (.ok (.fixed y delta y)) u := by
    rw [comes.finds, finds_decorated (decorates_method is computes gives) (by decide)
      (undeclared_of_none is.dataless)]
    exact IsValue.finds (a := ⟨y, b.inside, u⟩) value
  have isSome : (u.heap.cell y).value? = some z := by rw [Cell.value?, value]
  cases own : (a.state.heap.cell a.object).value? with
  | some z' =>
      obtain ⟨same, rfl⟩ := (IsValue.finds (c := c) (isValue_iff.mpr own)).unique
        (stepwise_ask _) found
      cases same
      cases own.symm.trans isSome
      exact Link.forces_value (isValue_iff.mpr own)
  | none =>
      have forces := forces_of_found own found ends_fixed
      rwa [State.valueFor, isSome] at forces

/-- **A failure of the method is that of the object.** -/
theorem ComesTo.forces_failure (comes : a.ComesTo c b) (is : b.state.Embodies b.object i bound)
    (computes : c.ComputesMethods)
    (fails : c.Runs (fun ask => methodResult ask i.method b.object) b.working b.state (.error f) u) :
    a.Forces c (.error f.ofMissing) u :=
  forces_of_not_found (comes.finds.mpr (finds_of_failure is computes fails))

/-- **A method that makes an object of a value, or fails, decides what is found.** -/
theorem ComesTo.forces_made (comes : a.ComesTo c b) (is : b.state.Embodies b.object i bound)
    (computes : c.ComputesMethods) {given : Except Failure Value}
    (other : ∀ f, given = .error f → f.ofMissing = f)
    (runs : ∀ result t, c.Runs (fun ask => methodResult ask i.method b.object) b.working b.state
      result t ↔ (conclude given >>= data).Ends b.working u result t) :
    a.Forces c given (u.withMade given) := by
  cases given with
  | ok z =>
      have made : c.Runs (fun ask => methodResult ask i.method b.object) b.working b.state
          (.ok (u.allocData z).1) (u.allocData z).2 := (runs _ _).mpr rfl
      exact comes.forces_value is computes made (u.kind_allocData z)
  | error f =>
      have fails : c.Runs (fun ask => methodResult ask i.method b.object) b.working b.state
          (.error f) u := (runs _ _).mpr rfl
      have forces := comes.forces_failure is computes fails
      rwa [other f rfl] at forces

end Link

end PhiCalculus
