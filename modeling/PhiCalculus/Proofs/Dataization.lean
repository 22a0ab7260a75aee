import PhiCalculus.Proofs.Decoration
import PhiCalculus.Proofs.Soundness

/-!
# Dataization along decoration

Dataizing an object looks for its value one level deeper (`Link.taken`, `Link.Forces`), and then
adds the line or the term.  An object that is no value is asked for its `Δ`.  If no object of the
chain of decoration declares one (`Link.Leaves`), only a value at the end of the chain has it, and
this is the value of the object (`Link.forces_iff_endsIn`).  Otherwise the chain ends in an object
that decorates no other, or it breaks (`Link.Breaks`), or it does not end at all.

When an object is dataized itself, the objects in use are listed otherwise than when it is reached
along a chain, although they are the same ones.  That is why chains in alike surroundings are
compared (`Link.Chain.alike`).

Where a `Δ` is declared, what it gives must be data itself; nothing looks behind a view.
-/

set_option autoImplicit false

namespace PhiCalculus

open PhiCalculus.Action

variable {c : Computations} {a b : Link} {found : Except Failure Value} {p : Place} {x : Ref}
  {f : Failure} {v : Value} {s t u w : State} {frame : Frame}

/-! ## Looking for the value -/

/-- What a failure to find a `Δ` is reported as. -/
def Failure.ofMissing : Failure → Failure
  | noSuchAttribute attr object =>
    if attr == delta then notData object .missing else noSuchAttribute attr object
  | f => f

theorem findData_apply (ask : Answerer) (r : Ref) (frame : Frame) (s : State) :
    findData ask r frame s =
      match ask (.find r delta) frame s with
      | .answer p t => .answer p t
      | .failure f t => .failure f.ofMissing t
      | @Outcome.unfinished _ t => @Outcome.unfinished _ t := by
  rw [findData, bind_apply, observe]
  rcases ask (.find r delta) frame s with ⟨p, t⟩ | ⟨f, t⟩ | t
  · rfl
  · cases f with
    | noSuchAttribute attr object =>
        dsimp only [Failure.ofMissing]
        cases attr == delta <;> rfl
    | _ => rfl
  · rfl

theorem runs_findData_ok {r : Ref} : c.Runs (fun ask => findData ask r) frame s (.ok p) t ↔
    c.Ends (.find r delta) frame s (.ok p) t := by
  refine exists_congr fun steps => ?_
  simp only [Ends, findData_apply]
  cases answered c steps (.find r delta) frame s <;> simp

theorem runs_findData_error {r : Ref} (fails : c.Ends (.find r delta) frame s (.error f) t) :
    c.Runs (fun ask => findData ask r) frame s (.error f.ofMissing) t := by
  obtain ⟨steps, ends⟩ := fails
  refine ⟨steps, ?_⟩
  simp only [Ends] at ends ⊢
  rw [findData_apply, ends]

/-- The value that an object is; if it is none, the other object has no data. -/
def State.valueFor (s : State) (r x : Ref) : Except Failure Value :=
  match (s.heap.cell x).value? with
  | some v => .ok v
  | none => .error (.notData (s.heap.subject r) (.holds (s.heap.subject x)))

theorem State.valueFor_eq_ok {r x : Ref} :
    s.valueFor r x = .ok v ↔ (s.heap.cell x).value? = some v := by
  rw [State.valueFor]
  cases (s.heap.cell x).value? <;> simp

/-- Takes the value that the second object is for the first one. -/
def takeFor (r x : Ref) : Action Value := do
  match (← cell x).value? with
  | some v => pure v
  | none => do fail (.notData (← subject r) (.holds (← subject x)))

theorem takeFor_ends (r x : Ref) : (takeFor r x).Ends frame s (s.valueFor r x) s := by
  refine (ends_bind_of_answer (cell_apply x frame s)).mpr ?_
  rw [State.valueFor]
  cases (s.heap.cell x).value? <;> rfl

theorem stepwise_takeFor (r x : Ref) : Stepwise State.Creates True fun _ => takeFor r x := by
  refine .bind (Stepwise.act (.cell x)) fun cell => ?_
  cases cell.value? with
  | some v => exact Stepwise.act (.pure v)
  | none =>
      exact .bind (Stepwise.act (.subject r)) fun _ => .bind (Stepwise.act (.subject x)) fun _ =>
        Stepwise.fail _

namespace Link

variable {name : String}

/-- Looking for the value of the object ends in that. -/
def Forces (c : Computations) (a : Link) (found : Except Failure Value) (u : State) : Prop :=
  c.Runs (fun ask => forceValue ask a.object) a.frame a.state found u

theorem Forces.unique {found' : Except Failure Value} {u' : State} (forces : a.Forces c found u)
    (forces' : a.Forces c found' u') : found' = found ∧ u' = u :=
  have made : Stepwise State.Creates True fun ask => forceValue ask a.object :=
    stepwise_forceValue a.object
  Computations.Runs.unique made forces forces'

theorem isValue_iff : a.IsValue v ↔ (a.state.heap.cell a.object).value? = some v := by
  rw [IsValue, Cell.value?]
  cases (a.state.heap.cell a.object).kind <;> simp

/-- A value need not be looked for. -/
theorem forces_value (value : a.IsValue v) : a.Forces c (.ok v) a.state := by
  refine ⟨0, (ends_bind_of_answer (cell_apply a.object _ _)).mpr ?_⟩
  rw [isValue_iff.mp value]
  rfl

/-- The value of any other object is looked for at its `Δ`. -/
theorem forces_iff (other : (a.state.heap.cell a.object).value? = none) :
    a.Forces c found u ↔ c.Runs (fun ask => findData ask a.object >>= fun p =>
      ask (.read p) >>= takeFor a.object) a.frame a.state found u := by
  refine runs_congr fun ask => ?_
  rw [forceValue, bind_of_answer (cell_apply a.object _ _), other]
  rfl

theorem stepwise_rest (r : Ref) (p : Place) :
    Stepwise State.Creates True fun ask => ask (.read p) >>= takeFor r :=
  .bind (Stepwise.request _) (stepwise_takeFor r)

/-- A value is its own `Δ`. -/
theorem IsValue.finds (value : a.IsValue v) :
    a.Finds c delta (.ok (.fixed a.object delta a.object)) a.state :=
  (AnswersAsValue.itself rfl).finds value (by decide)

/-- What has another `Δ` than itself is no value. -/
theorem value?_of_finds {result : Except Failure Place} (finds : a.Finds c delta result u)
    (other : result ≠ .ok (.fixed a.object delta a.object)) :
    (a.state.heap.cell a.object).value? = none := by
  by_contra isSome
  obtain ⟨v, value⟩ := Option.ne_none_iff_exists'.mp isSome
  have itself := IsValue.finds (c := c) (isValue_iff.mpr value)
  exact other (itself.unique (stepwise_ask _) finds).1

/-- What is at the `Δ` decides. -/
theorem forces_of_found (other : (a.state.heap.cell a.object).value? = none)
    (finds : a.Finds c delta (.ok p) w) (reads : c.Ends (.read p) a.frame w (.ok x) u) :
    a.Forces c (u.valueFor a.object x) u := by
  rw [forces_iff other]
  refine (runs_bind_of_ok (stepwise_findData _) (stepwise_rest _)
    (runs_findData_ok.mpr finds)).mpr ?_
  refine (runs_bind_of_ok (Stepwise.request _) (stepwise_takeFor _) reads).mpr ?_
  exact runs_nothing.mpr (takeFor_ends _ _)

/-- Without a `Δ` there is no value. -/
theorem forces_of_not_found (finds : a.Finds c delta (.error f) u) :
    a.Forces c (.error f.ofMissing) u := by
  rw [forces_iff (value?_of_finds finds nofun)]
  exact (runs_bind_of_error (stepwise_findData _) (stepwise_rest _)
    (runs_findData_error finds)).mpr ⟨rfl, rfl⟩

/-- Where there is a value, it has been found at the `Δ`. -/
theorem exists_found_of_forces (other : (a.state.heap.cell a.object).value? = none)
    (forces : a.Forces c (.ok v) u) : ∃ p w x, a.Finds c delta (.ok p) w ∧
      c.Ends (.read p) a.frame w (.ok x) u ∧ (u.heap.cell x).value? = some v := by
  rw [forces_iff other, runs_bind (stepwise_findData _) (stepwise_rest _)] at forces
  rcases forces with ⟨_, _, same⟩ | ⟨p, w, finds, rest⟩
  · cases same
  rw [runs_bind (Stepwise.request _) (stepwise_takeFor _)] at rest
  rcases rest with ⟨_, _, same⟩ | ⟨x, u', reads, takes⟩
  · cases same
  have ends := runs_nothing.mp takes
  obtain ⟨same, rfl⟩ := (takeFor_ends a.object x).unique ends
  exact ⟨p, w, x, runs_findData_ok.mp finds, reads, State.valueFor_eq_ok.mp same.symm⟩

/-! ## Dataizing -/

/-- The object as a dataization asks it: one level deeper, and in use. -/
def taken (r : Ref) (frame : Frame) (s : State) : Link :=
  ⟨r, { frame.holding [r] with depth := frame.depth + 1 }, s⟩

theorem dataizeObject_ends {r : Ref} {steps : Nat} {result : Except Failure Value} :
    (dataizeObject (answered c steps) r).Ends (frame.holding [r]) s result t ↔
      ∃ found u, (forceValue (answered c steps) r).Ends (taken r frame s).frame s found u ∧
        (endTake (frame.holding [r]) r found).Ends (frame.holding [r]) u result t := by
  have same : (dataizeObject (answered c steps) r).Ends (frame.holding [r]) s result t ↔
      (observe (deeper (forceValue (answered c steps) r)) >>= endTake (frame.holding [r]) r).Ends
        (frame.holding [r]) s result t := by
    cases result <;> simp only [Ends, dataizeObject_apply]
  rw [same, ends_bind]
  constructor
  · rintro (⟨e, failed, _⟩ | ⟨found, u, looked, rest⟩)
    · obtain ⟨_, same, _⟩ := ends_observe.mp failed
      cases same
    · obtain ⟨seen, same, forces⟩ := ends_observe.mp looked
      cases same
      refine ⟨found, u, ?_, rest⟩
      cases found <;> exact forces
  · rintro ⟨found, u, forces, rest⟩
    refine .inr ⟨found, u, ends_observe.mpr ⟨found, rfl, ?_⟩, rest⟩
    cases found <;> exact forces

/-- A dataization looks for the value and then ends accordingly. -/
theorem dataize_iff {r : Ref} {result : Except Failure Value} :
    c.Ends (.dataize r) frame s result t ↔ ∃ found u, (taken r frame s).Forces c found u ∧
      (endTake (frame.holding [r]) r found).Ends (frame.holding [r]) u result t := by
  have dataizes : c.Ends (.dataize r) frame s result t ↔
      c.Runs (fun ask => dataizeObject ask r) (frame.holding [r]) s result t :=
    runs_request.trans (runs_hold [r])
  rw [dataizes]
  constructor
  · rintro ⟨steps, ends⟩
    obtain ⟨found, u, forces, rest⟩ := dataizeObject_ends.mp ends
    exact ⟨found, u, ⟨steps, forces⟩, rest⟩
  · rintro ⟨found, u, ⟨steps, forces⟩, rest⟩
    exact ⟨steps, dataizeObject_ends.mpr ⟨found, u, forces, rest⟩⟩

/-- A dataization gives a value just where looking for it does. -/
theorem dataize_gives {r : Ref} : c.Ends (.dataize r) frame s (.ok v) t ↔
    ∃ u, (taken r frame s).Forces c (.ok v) u ∧ u.Tells (frame.holding [r]) r v t := by
  rw [dataize_iff]
  constructor
  · rintro ⟨found, u, forces, ends⟩
    cases found with
    | ok v' =>
        obtain ⟨same, tells⟩ := ends_endTake_ok.mp ends
        cases same
        exact ⟨u, forces, tells⟩
    | error f =>
        obtain ⟨_, e, same, _⟩ := ends_endTake_error.mp ends
        cases same
  · rintro ⟨u, forces, tells⟩
    exact ⟨_, u, forces, ends_endTake_ok.mpr ⟨rfl, tells⟩⟩

/-- A dataization fails where looking for the value does. -/
theorem dataize_fails {r : Ref} (forces : (taken r frame s).Forces c (.error f) u)
    {result : Except Failure Value} : c.Ends (.dataize r) frame s result t ↔
      t = u ∧ ∃ e, result = .error e ∧ u.Places r f e := by
  rw [dataize_iff, ← ends_endTake_error]
  constructor
  · rintro ⟨found, u', forces', ends⟩
    obtain ⟨same, same'⟩ := forces.unique forces'
    rwa [same, same'] at ends
  · exact fun ends => ⟨_, u, forces, ends⟩

/-! ## The value at the end of a chain -/

/-- The chain of the object ends in that value, which is reached in that state. -/
def EndsIn (c : Computations) (a : Link) (v : Value) (u : State) : Prop :=
  ∃ path b, a.Chain c (path ++ [b]) ∧ b.IsValue v ∧ b.state = u

/-- No object of the chain, as far as it goes, declares the name. -/
def Leaves (c : Computations) (a : Link) (name : String) : Prop :=
  ∀ path, a.Chain c path → ∀ d ∈ path, ¬ d.Declares name

theorem Leaves.behind (leaves : a.Leaves c name) (behind : a.Behind c b) : b.Leaves c name :=
  fun path chain => leaves path (.behind behind chain)

theorem Leaves.decorated (leaves : a.Leaves c name) (decorates : a.Decorates c b) :
    b.Leaves c name :=
  fun _ chain d there => leaves _ (.decorated decorates chain) d (List.mem_cons_of_mem _ there)

theorem Leaves.undeclared (leaves : a.Leaves c name) : ¬ a.Declares name :=
  fun declares => leaves [a] (.here declares.isView) a List.mem_cons_self declares

theorem IsValue.isView (value : a.IsValue v) : (a.state.heap.cell a.object).isView = false := by
  rw [Cell.isView, value]

theorem IsValue.endsIn (value : a.IsValue v) : a.EndsIn c v a.state :=
  ⟨[], a, .here value.isView, value, rfl⟩

theorem EndsIn.of_behind (behind : a.Behind c b) (ends : b.EndsIn c v u) : a.EndsIn c v u := by
  obtain ⟨path, d, chain, value, state⟩ := ends
  exact ⟨path, d, .behind behind chain, value, state⟩

theorem EndsIn.of_decorated (decorates : a.Decorates c b) (ends : b.EndsIn c v u) :
    a.EndsIn c v u := by
  obtain ⟨path, d, chain, value, state⟩ := ends
  exact ⟨a :: path, d, .decorated decorates chain, value, state⟩

/-- The chain of a value goes no further. -/
theorem EndsIn.of_value {v' : Value} (value : a.IsValue v') (ends : a.EndsIn c v u) :
    v = v' ∧ u = a.state := by
  obtain ⟨path, d, chain, value', rfl⟩ := ends
  generalize split : path ++ [d] = whole at chain
  cases chain with
  | here _ =>
      obtain rfl : d = a := by simpa using congrArg List.getLast? split
      cases value.symm.trans value'
      exact ⟨rfl, rfl⟩
  | behind behind _ => cases value.isView.symm.trans behind.view
  | decorated decorates _ => exact absurd decorates.declares value.undeclared

/-- What a chain that leaves it to a value has as its `Δ`. -/
theorem EndsIn.finds (leaves : a.Leaves c delta) (ends : a.EndsIn c v u) : ∃ x,
    a.Finds c delta (.ok (.fixed x delta x)) u ∧ (u.heap.cell x).value? = some v := by
  obtain ⟨path, d, chain, value, rfl⟩ := ends
  have plain : delta ∉ reserved := by decide
  have earlier (o : Link) (there : o ∈ path) : ¬ o.Declares delta :=
    leaves _ chain o (List.mem_append_left _ there)
  exact ⟨d.object, chain.finds_answered (.value plain earlier value (.itself rfl)),
    isValue_iff.mp value⟩

/-- What is found on the next object is found there in as many steps. -/
theorem exists_next {q : Request Ref} {steps : Nat}
    (ends : (askNext q name (answered c steps)).Ends a.inside a.state (.ok p) u) :
    ∃ b : Link, b.frame = a.inside ∧ c.Ends q a.inside a.state (.ok b.object) b.state ∧
      (answered c steps (.find b.object name)).Ends b.frame b.state (.ok p) u := by
  rcases ends_bind.mp ends with ⟨_, _, same⟩ | ⟨o, w, asked, rest⟩
  · cases same
  · exact ⟨⟨o, a.inside, w⟩, rfl, ⟨steps, asked⟩, rest⟩

/-- What is found on an object is found where its chain ends in a value, if no object of the chain
declares the `Δ`. -/
theorem endsIn_of_finds {steps : Nat} {a : Link} (leaves : a.Leaves c delta)
    (finds : (answered c steps (.find a.object delta)).Ends a.frame a.state (.ok p) u) :
    ∃ x v, p = .fixed x delta x ∧ (u.heap.cell x).value? = some v ∧ a.EndsIn c v u := by
  induction steps generalizing a with
  | zero => cases finds
  | succ steps ih =>
      have plain : delta ∉ reserved := by decide
      have found :
          (findPlace (answered c steps) a.object delta).Ends a.inside a.state (.ok p) u := by
        rw [answered_succ] at finds
        exact ends_hold.mp finds
      cases kind : (a.state.heap.cell a.object).kind with
      | view view kept =>
          have isView : (a.state.heap.cell a.object).isView = true := by rw [Cell.isView, kind]
          obtain ⟨b, frame, resolves, rest⟩ :=
            exists_next ((findPlace_view isView).symm.trans found)
          have behind : a.Behind c b := ⟨isView, frame, resolves⟩
          obtain ⟨x, v, place, value, ends⟩ := ih (leaves.behind behind) rest
          exact ⟨x, v, place, value, ends.of_behind behind⟩
      | data v =>
          have value : a.IsValue v := kind
          obtain ⟨same, rfl⟩ := value.finds.unique (stepwise_ask _) ⟨steps + 1, finds⟩
          cases same
          exact ⟨a.object, v, rfl, isValue_iff.mp value, value.endsIn⟩
      | table table =>
          by_cases declares : a.Declares phi
          · have next : findPlace (answered c steps) a.object delta a.inside a.state = _ :=
              findPlace_decorating declares plain leaves.undeclared
            obtain ⟨b, frame, reads, rest⟩ := exists_next (next.symm.trans found)
            have decorates : a.Decorates c b := ⟨declares, frame, reads⟩
            obtain ⟨x, v, place, value, ends⟩ := ih (leaves.decorated decorates) rest
            exact ⟨x, v, place, value, ends.of_decorated decorates⟩
          · rw [declares_iff kind, Option.not_isSome_iff_eq_none] at declares
            have fails : a.Finds c delta (.error (.noSuchAttribute delta a.subject)) a.state :=
              finds_bare ⟨table, kind, declares⟩ plain leaves.undeclared
            cases (fails.unique (stepwise_ask _) ⟨steps + 1, finds⟩).1

theorem ends_fixed {r : Ref} : c.Ends (.read (.fixed r name x)) frame s (.ok x) s :=
  ⟨1, rfl⟩

/-- **Looking for a value follows the chain,** if no object of it declares the `Δ`. -/
theorem forces_iff_endsIn (leaves : a.Leaves c delta) :
    a.Forces c (.ok v) u ↔ a.EndsIn c v u := by
  cases value : (a.state.heap.cell a.object).value? with
  | some v' =>
      have isValue : a.IsValue v' := isValue_iff.mpr value
      constructor
      · intro forces
        obtain ⟨same, rfl⟩ := (forces_value isValue).unique forces
        cases same
        exact isValue.endsIn
      · intro ends
        obtain ⟨rfl, rfl⟩ := ends.of_value isValue
        exact forces_value isValue
  | none =>
      constructor
      · intro forces
        obtain ⟨p, w, x, ⟨steps, finds⟩, reads, found⟩ := exists_found_of_forces value forces
        obtain ⟨y, v', rfl, isValue, ends⟩ := endsIn_of_finds leaves finds
        obtain ⟨same, rfl⟩ := ends_fixed.unique (stepwise_ask _) reads
        cases same
        cases found.symm.trans isValue
        exact ends
      · intro ends
        obtain ⟨x, finds, found⟩ := ends.finds leaves
        have forces := forces_of_found value finds ends_fixed
        rwa [State.valueFor_eq_ok.mpr found] at forces

/-! ## Chains that end otherwise -/

/-- Following the chain fails: an object behind a view, or one that is decorated, cannot be had. -/
inductive Breaks (c : Computations) : Link → Failure → State → Prop where
  | resolving {a : Link} {f : Failure} {u : State} :
      (a.state.heap.cell a.object).isView = true →
        c.Ends (.resolve a.object) a.inside a.state (.error f) u → Breaks c a f u
  | reading {a : Link} {f : Failure} {u : State} : a.Declares phi →
      c.Ends (.read (.slot a.object phi)) a.inside a.state (.error f) u → Breaks c a f u
  | behind {a b : Link} {f : Failure} {u : State} : a.Behind c b → Breaks c b f u → Breaks c a f u
  | decorated {a b : Link} {f : Failure} {u : State} : a.Decorates c b → Breaks c b f u →
      Breaks c a f u

/-- Where the chain breaks, so does every search for a name along it. -/
theorem Breaks.finds (breaks : Breaks c a f u) (plain : name ∉ reserved)
    (leaves : a.Leaves c name) : a.Finds c name (.error f) u := by
  induction breaks with
  | resolving isView fails =>
      rw [finds_view isView]
      exact (runs_bind_of_error (stepwise_ask _) (fun _ => stepwise_ask _) fails).mpr ⟨rfl, rfl⟩
  | reading declares fails =>
      rw [finds_decorating declares plain leaves.undeclared]
      exact (runs_bind_of_error (stepwise_ask _) (fun _ => stepwise_ask _) fails).mpr ⟨rfl, rfl⟩
  | behind behind _ ih => exact (finds_behind behind).mpr (ih (leaves.behind behind))
  | decorated decorates _ ih =>
      exact (finds_decorated decorates plain leaves.undeclared).mpr
        (ih (leaves.decorated decorates))

/-! ## Alike surroundings -/

/-- The same object in the same state; what surrounds what it is asked is alike. -/
structure Alike (a b : Link) : Prop where
  object : b.object = a.object
  inside : a.inside.Alike b.inside
  state : b.state = a.state

theorem ends_alike (level : c.Level) {α : Type} {q : Request α} {frame frame' : Frame}
    (alike : frame.Alike frame') {result : Except Failure α} :
    c.Ends q frame s result t ↔ c.Ends q frame' s result t := by
  refine exists_congr fun steps => ?_
  have same := even_answered level steps q s alike
  cases result <;> simp only [Ends, same]

theorem Alike.of_frame {frame frame' : Frame} (alike : frame.Alike frame')
    (same : a.frame = frame) : a.Alike ⟨a.object, frame', a.state⟩ where
  object := rfl
  inside := by
    subst same
    exact alike.holding _
  state := rfl

theorem Alike.declares (alike : a.Alike b) : b.Declares name ↔ a.Declares name := by
  rw [Declares, Declares, alike.object, alike.state]

theorem Alike.isValue (alike : a.Alike b) : b.IsValue v ↔ a.IsValue v := by
  rw [IsValue, IsValue, alike.object, alike.state]

theorem Alike.symm (alike : a.Alike b) : b.Alike a where
  object := alike.object.symm
  inside := alike.inside.symm
  state := alike.state.symm

variable {a' : Link}

theorem Behind.alike (level : c.Level) (behind : a.Behind c b) (alike : a.Alike a') :
    ∃ b', b.Alike b' ∧ a'.Behind c b' := by
  have resolves := (ends_alike level alike.inside).mp behind.resolves
  have view := behind.view
  rw [← alike.object, ← alike.state] at resolves view
  exact ⟨⟨b.object, a'.inside, b.state⟩, .of_frame alike.inside behind.frame, view, rfl, resolves⟩

theorem Decorates.alike (level : c.Level) (decorates : a.Decorates c b) (alike : a.Alike a') :
    ∃ b', b.Alike b' ∧ a'.Decorates c b' := by
  have reads := (ends_alike level alike.inside).mp decorates.reads
  rw [← alike.object, ← alike.state] at reads
  exact ⟨⟨b.object, a'.inside, b.state⟩, .of_frame alike.inside decorates.frame,
    alike.declares.mpr decorates.declares, rfl, reads⟩

/-- Chains do not depend on how the objects in use are listed. -/
theorem Chain.alike (level : c.Level) {path : List Link} (chain : a.Chain c path)
    (alike : a.Alike a') : ∃ path', a'.Chain c path' ∧ List.Forall₂ Alike path path' := by
  induction chain generalizing a' with
  | here concrete =>
      rw [← alike.object, ← alike.state] at concrete
      exact ⟨[a'], .here concrete, .cons alike .nil⟩
  | behind behind _ ih =>
      obtain ⟨b', next, behind'⟩ := behind.alike level alike
      obtain ⟨path', chain, pairs⟩ := ih next
      exact ⟨path', .behind behind' chain, pairs⟩
  | decorated decorates _ ih =>
      obtain ⟨b', next, decorates'⟩ := decorates.alike level alike
      obtain ⟨path', chain, pairs⟩ := ih next
      exact ⟨a' :: path', .decorated decorates' chain, .cons alike pairs⟩

theorem exists_alike_of_mem {path path' : List Link} (pairs : List.Forall₂ Alike path path')
    (there : a ∈ path) : ∃ b ∈ path', a.Alike b := by
  induction pairs with
  | nil => cases there
  | cons same _ ih =>
      rcases List.mem_cons.mp there with rfl | later
      · exact ⟨_, List.mem_cons_self, same⟩
      · obtain ⟨b, there, same⟩ := ih later
        exact ⟨b, List.mem_cons_of_mem _ there, same⟩

theorem Leaves.alike (level : c.Level) (leaves : a.Leaves c name) (alike : a.Alike a') :
    a'.Leaves c name := by
  intro path' chain' d' there declares
  obtain ⟨path, chain, pairs⟩ := chain'.alike level alike.symm
  obtain ⟨d, there, same⟩ := exists_alike_of_mem pairs there
  exact leaves path chain d there (same.declares.mpr declares)

theorem EndsIn.alike (level : c.Level) (ends : a.EndsIn c v u) (alike : a.Alike a') :
    a'.EndsIn c v u := by
  obtain ⟨path, d, chain, value, rfl⟩ := ends
  obtain ⟨path', chain', pairs⟩ := chain.alike level alike
  have last := List.forall₂_drop_append path' path [d] pairs.flip
  generalize ends : path'.drop path.length = rest at last
  cases last with
  | @cons d' _ _ _ same nothing =>
      cases nothing
      have split : path'.take path.length ++ [d'] = path' := by
        rw [← ends, List.take_append_drop]
      exact ⟨_, d', split ▸ chain', same.isValue.mpr value, same.state⟩

theorem Behind.unique (behind : a.Behind c b) {b' : Link} (behind' : a.Behind c b') : b' = b := by
  obtain ⟨object, state⟩ := behind.resolves.unique (stepwise_ask _) behind'.resolves
  exact Link.ext (Except.ok.inj object) (behind'.frame.trans behind.frame.symm) state

theorem Decorates.unique (decorates : a.Decorates c b) {b' : Link}
    (decorates' : a.Decorates c b') : b' = b := by
  obtain ⟨object, state⟩ := decorates.reads.unique (stepwise_ask _) decorates'.reads
  exact Link.ext (Except.ok.inj object) (decorates'.frame.trans decorates.frame.symm) state

/-- The object behind a view ends in what the view ends in. -/
theorem endsIn_behind (behind : a.Behind c b) : a.EndsIn c v u ↔ b.EndsIn c v u := by
  refine ⟨?_, EndsIn.of_behind behind⟩
  rintro ⟨path, d, chain, value, state⟩
  generalize split : path ++ [d] = whole at chain
  cases chain with
  | here concrete => cases behind.view.symm.trans concrete
  | behind behind' rest =>
      rw [behind.unique behind', ← split] at rest
      exact ⟨path, d, rest, value, state⟩
  | decorated decorates _ => cases behind.view.symm.trans decorates.declares.isView

/-- An object ends in what the object that it decorates ends in. -/
theorem endsIn_decorated (decorates : a.Decorates c b) : a.EndsIn c v u ↔ b.EndsIn c v u := by
  refine ⟨?_, EndsIn.of_decorated decorates⟩
  rintro ⟨path, d, chain, value, rfl⟩
  generalize split : path ++ [d] = whole at chain
  cases chain with
  | here _ =>
      obtain rfl : d = a := by simpa using congrArg List.getLast? split
      exact absurd decorates.declares value.undeclared
  | behind behind _ => cases decorates.declares.isView.symm.trans behind.view
  | decorated decorates' rest =>
      rw [decorates.unique decorates'] at rest
      cases path with
      | nil =>
          cases split
          exact absurd rfl rest.ne_nil
      | cons _ path =>
          cases split
          exact ⟨path, d, rest, value, rfl⟩

theorem IsBare.undeclared (bare : a.IsBare) : ¬ a.Declares phi := by
  obtain ⟨table, kind, last⟩ := bare
  rw [declares_iff kind, last]
  exact Bool.false_ne_true

/-- Every chain is the beginning of one that is complete. -/
theorem Chain.subset {path whole : List Link} (all : a.Chain c whole) (complete : Complete whole)
    (chain : a.Chain c path) : path ⊆ whole := by
  induction all generalizing path with
  | @here a concrete =>
      have last : ¬ a.Declares phi := by
        obtain ⟨before, b, split, last⟩ := complete
        obtain rfl : a = b := by simpa using congrArg List.getLast? split
        exact last.elim IsBare.undeclared fun ⟨v, value⟩ => value.undeclared
      cases chain with
      | here _ => exact List.Subset.refl _
      | behind behind _ => cases concrete.symm.trans behind.view
      | decorated decorates _ => exact absurd decorates.declares last
  | behind behind _ ih =>
      cases chain with
      | here concrete => cases concrete.symm.trans behind.view
      | behind behind' rest => exact ih complete (behind.unique behind' ▸ rest)
      | decorated decorates _ => cases decorates.declares.isView.symm.trans behind.view
  | @decorated a b whole decorates rest ih =>
      have later : Complete whole := by
        obtain ⟨before, d, split, last⟩ := complete
        cases before with
        | nil =>
            cases split
            exact absurd rfl rest.ne_nil
        | cons _ before =>
            cases split
            exact ⟨before, d, rfl, last⟩
      cases chain with
      | here _ => exact List.cons_subset_cons _ (List.nil_subset _)
      | behind behind _ => cases decorates.declares.isView.symm.trans behind.view
      | decorated decorates' rest' =>
          exact List.cons_subset_cons _ (ih later (decorates.unique decorates' ▸ rest'))

theorem Chain.leaves {path : List Link} (chain : a.Chain c path) (complete : Complete path)
    (undeclared : ∀ d ∈ path, ¬ d.Declares name) : a.Leaves c name :=
  fun _ other d there => undeclared d (chain.subset complete other there)

/-- An object is taken on its own as it is asked by a dataization of the one before it. -/
theorem alike_taken {r : Ref} (there : b.frame = (taken r frame s).inside) :
    b.Alike (taken b.object (frame.holding [r]) b.state) where
  object := rfl
  inside := by
    rw [inside, there]
    refine ⟨rfl, rfl, fun x => ?_⟩
    show x ∈ [b.object, r, r] ++ frame.held ↔ x ∈ [b.object, b.object, r] ++ frame.held
    simp
  state := rfl

/-- Whether it is taken on its own or not, it ends in what the one before it ends in. -/
theorem endsIn_taken (level : c.Level) {r : Ref}
    (next : (taken r frame s).Behind c b ∨ (taken r frame s).Decorates c b) :
    (taken b.object (frame.holding [r]) b.state).EndsIn c v u ↔
      (taken r frame s).EndsIn c v u := by
  have alike : b.Alike (taken b.object (frame.holding [r]) b.state) :=
    alike_taken (next.elim Behind.frame Decorates.frame)
  have onward : (taken r frame s).EndsIn c v u ↔ b.EndsIn c v u :=
    next.elim endsIn_behind endsIn_decorated
  exact ⟨fun ends => onward.mpr (ends.alike level alike.symm),
    fun ends => (onward.mp ends).alike level alike⟩

end Link

/-! ## What dataizations end in -/

theorem Failure.ofMissing_of_ne (other : ∀ object, f ≠ .noSuchAttribute delta object) :
    f.ofMissing = f := by
  cases f with
  | noSuchAttribute attr object =>
      refine if_neg fun same => other object ?_
      rw [eq_of_beq same]
  | _ => rfl

theorem State.Places.kind {r : Ref} {e : Failure} (places : s.Places r f e) :
    e.kind = f.kind := by
  cases places <;> rfl

/-- **Dataization follows decoration.**  Let no object of the chain of an object, as far as it goes,
declare a `Δ`.  The object has a value just where the chain ends in that value.  If the chain ends
in an object that decorates no other, that one is reported to have no data.  If following the chain
fails, then so does the dataization, for the same reason, unless that is a missing `Δ`.

So the object behind a view has the value of the view, and what an object decorates has the value of
that object.

A value that is found is told in the trace, if there is one, and a failure that is no raise and has
no term gets that of the object; only there it matters whether terms come to an end. -/
theorem dataization_follows_decoration (level : c.Level) {r : Ref} {frame : Frame} {s : State}
    (leaves : (Link.taken r frame s).Leaves c delta) :
    let a := Link.taken r frame s
    (∀ v t, c.Ends (.dataize r) frame s (.ok v) t ↔
      ∃ u, a.EndsIn c v u ∧ u.Tells (frame.holding [r]) r v t) ∧
    (∀ path b, a.Chain c (path ++ [b]) → b.IsBare → ∀ result t,
      c.Ends (.dataize r) frame s result t ↔ t = b.state ∧
        ∃ e, result = .error e ∧ b.state.Places r (.notData b.subject .missing) e) ∧
    (∀ f u, a.Breaks c f u → (∀ object, f ≠ .noSuchAttribute delta object) → ∀ result t,
      c.Ends (.dataize r) frame s result t ↔ t = u ∧
        ∃ e, result = .error e ∧ u.Places r f e ∧ e.kind = f.kind) ∧
    (∀ b, a.Behind c b ∨ a.Decorates c b → ∀ v t,
      c.Ends (.dataize b.object) (frame.holding [r]) b.state (.ok v) t ↔
        ∃ u, a.EndsIn c v u ∧ u.Tells ((frame.holding [r]).holding [b.object]) b.object v t) := by
  intro a
  refine ⟨fun v t => ?_, fun path b chain bare result t => ?_, fun f u breaks other result t => ?_,
    fun b next v t => ?_⟩
  · simp only [Link.dataize_gives, Link.forces_iff_endsIn leaves]
    rfl
  · have earlier (d : Link) (there : d ∈ path) : ¬ d.Declares delta :=
      leaves _ chain d (List.mem_append_left _ there)
    have last : ¬ b.Declares delta := leaves _ chain b (by simp)
    have finds := chain.finds_answered (.nobody (by decide) earlier last bare)
    exact Link.dataize_fails (Link.forces_of_not_found finds)
  · have forces := Link.forces_of_not_found (breaks.finds (by decide) leaves)
    rw [Failure.ofMissing_of_ne other] at forces
    rw [Link.dataize_fails forces]
    refine and_congr_right fun _ => exists_congr fun e => and_congr_right fun _ => ?_
    exact ⟨fun places => ⟨places, places.kind⟩, And.left⟩
  · have leaves' : b.Leaves c delta := next.elim leaves.behind leaves.decorated
    have alike : b.Alike (Link.taken b.object (frame.holding [r]) b.state) :=
      Link.alike_taken (next.elim Link.Behind.frame Link.Decorates.frame)
    simp only [Link.dataize_gives, Link.forces_iff_endsIn (leaves'.alike level alike),
      Link.endsIn_taken level next]
    rfl

/-- The child has the value that its parent decorates, and so has the view of the parent. -/
theorem child_has_value :
    (∃ t, Computations.ofExpressions.Ends (.dataize ⟨4⟩) {} State.withChild (.ok (.int 5)) t) ∧
      ∃ t, Computations.ofExpressions.Ends (.dataize ⟨3⟩) (Frame.holding {} [⟨4⟩])
        State.withChild (.ok (.int 5)) t := by
  let frame : Frame := (Link.taken ⟨4⟩ {} State.withChild).frame
  have chain := State.withChild.chain frame
  have complete : Link.Complete [State.withChild.child frame, State.withChild.parent frame,
      State.withChild.five frame] :=
    ⟨[_, _], _, rfl, .inr ⟨.int 5, rfl⟩⟩
  have undeclared : ∀ d ∈ [State.withChild.child frame, State.withChild.parent frame,
      State.withChild.five frame], ¬ d.Declares delta := by
    simp only [List.mem_cons, List.not_mem_nil, or_false]
    rintro d (rfl | rfl | rfl) <;> exact Link.undeclared_of_none rfl
  have leaves : (Link.taken ⟨4⟩ {} State.withChild).Leaves .ofExpressions delta :=
    chain.leaves complete undeclared
  obtain ⟨gives, _, _, next⟩ := dataization_follows_decoration level_ofExpressions leaves
  have ends : (Link.taken ⟨4⟩ {} State.withChild).EndsIn .ofExpressions (.int 5)
      (State.withChild.five frame).state :=
    ⟨[_, _], State.withChild.five frame, chain, rfl, rfl⟩
  have decorates : (Link.taken ⟨4⟩ {} State.withChild).Decorates .ofExpressions
      (State.withChild.mask frame) := ⟨rfl, rfl, 1, rfl⟩
  exact ⟨⟨_, (gives _ _).mpr ⟨_, ends, .nothing rfl⟩⟩,
    ⟨_, (next _ (.inr decorates) _ _).mpr ⟨_, ends, .nothing rfl⟩⟩⟩

/-! ## Declared data -/

/-- **A declared `Δ` must be data itself.**  Let the first object of a chain that declares a `Δ`
have one that can be read.  What is read decides: if it is a value, this is the value of the object
at the start of the chain, and anything else is refused.  So a view is refused, also where there is
a value behind it. -/
theorem declared_data_decides {r : Ref} {frame : Frame} {s u : State} {b : Link} {x : Ref}
    {before after : List Link} (chain : (Link.taken r frame s).Chain c (before ++ b :: after))
    (earlier : ∀ d ∈ before, ¬ d.Declares delta) (declares : b.Declares delta)
    (reads : c.Ends (.read (.slot b.object delta)) (Link.taken r frame s).frame b.state (.ok x) u) :
    (∀ v t, c.Ends (.dataize r) frame s (.ok v) t ↔
      (u.heap.cell x).kind = .data v ∧ u.Tells (frame.holding [r]) r v t) ∧
    ((∀ v, (u.heap.cell x).kind ≠ .data v) → ∀ result t, c.Ends (.dataize r) frame s result t ↔
      t = u ∧ ∃ e, result = .error e ∧
        u.Places r (.notData (u.heap.subject r) (.holds (u.heap.subject x))) e) := by
  have finds := chain.finds_answered (.declared (by decide) earlier declares)
  have forces : (Link.taken r frame s).Forces c (u.valueFor r x) u :=
    Link.forces_of_found (Link.value?_of_finds finds nofun) finds reads
  have value {v : Value} : u.valueFor r x = .ok v ↔ (u.heap.cell x).kind = .data v :=
    State.valueFor_eq_ok.trans (Link.isValue_iff (a := ⟨x, frame, u⟩)).symm
  constructor
  · intro v t
    rw [Link.dataize_gives]
    constructor
    · rintro ⟨u', gives, tells⟩
      obtain ⟨same, rfl⟩ := forces.unique gives
      exact ⟨value.mp same.symm, tells⟩
    · rintro ⟨kind, tells⟩
      exact ⟨u, value.mpr kind ▸ forces, tells⟩
  · intro other result t
    have none : (u.heap.cell x).value? = none := by
      cases found : (u.heap.cell x).value? with
      | none => rfl
      | some v => exact absurd (value.mp (State.valueFor_eq_ok.mpr found)) (other v)
    rw [State.valueFor, none] at forces
    exact Link.dataize_fails forces

/-- The `Δ` of an object is a view of a number. -/
def State.withLoan : State :=
  let five := State.initial.allocData (.int 5)
  let view := five.2.alloc (.view (.copy five.1) none)
  (view.2.alloc (.table { form := "debtor", slots := [(delta, .free (some view.1))] })).2

/-- The view is refused. -/
theorem loan_is_refused : ∃ e t, e.kind = .notData ∧
    Computations.ofExpressions.Ends (.dataize ⟨3⟩) {} State.withLoan (.error e) t := by
  let a := Link.taken ⟨3⟩ {} State.withLoan
  have chain : a.Chain .ofExpressions ([] ++ [a]) := .here rfl
  obtain ⟨_, refuses⟩ := declared_data_decides (x := ⟨2⟩) chain nofun rfl ⟨1, rfl⟩
  have term : State.withLoan.heap.term? ⟨3⟩ = some _ := rfl
  exact ⟨_, _, rfl, (refuses nofun _ _).mpr ⟨rfl, _, rfl, .adds rfl term⟩⟩

/-- The expectation that a `Δ` may also be a view of a value: that the object behind it decides. -/
def Computations.LooksBehindData (c : Computations) : Prop :=
  ∀ (r : Ref) (frame : Frame) (s : State) (b : Link) (x o : Ref) (u w : State) (v : Value),
    (Link.taken r frame s).Chain c [b] → b.Declares delta →
      c.Ends (.read (.slot b.object delta)) (Link.taken r frame s).frame b.state (.ok x) u →
        c.Ends (.resolve x) (Link.taken r frame s).frame u (.ok o) w →
          (w.heap.cell o).kind = .data v → ∃ t, c.Ends (.dataize r) frame s (.ok v) t

/-- The number that an evaluation ended in. -/
def Outcome.int? : Outcome Value → Option Int64
  | answer (.int n) _ => some n
  | _ => none

/-- A program that dataizes an object within another one.  The outer object declares a number, and
the inner one has that node as its `Δ`. -/
def Program.lending (declared : Node) : Program where
  name := "app"
  objects := [.abstraction (some "app") 1 [] [.data (some "five") 2 "int" "5",
    .abstraction (some "inner") 3 [] [declared],
    .application (some "@") 5 (.ref "inner") [] false false]]

/-- A number is accepted, and a reference to the same number around is not: this is a view, and
nothing looks behind it. -/
theorem Program.borrowed_data_is_refused :
    let own := Program.lending (.data (some "Δ") 4 "int" "5")
    let borrowed := Program.lending (.application (some "Δ") 4 (.ref "five") [] false false)
    own.check = .ok () ∧ borrowed.check = .ok () ∧
      (own.run none false).toOption.bind Outcome.int? = some 5 ∧
      ((borrowed.run none false).toOption.bind Outcome.failure?).map Failure.kind =
        some .notData ∧
      ¬ Computations.ofExpressions.LooksBehindData := by
  refine ⟨by decide, by decide, by decide +kernel, by decide +kernel, fun looks => ?_⟩
  let a := Link.taken ⟨3⟩ {} State.withLoan
  have resolves : Computations.ofExpressions.Ends (.resolve ⟨2⟩) a.frame a.state (.ok ⟨1⟩) _ :=
    ⟨2, rfl⟩
  obtain ⟨t, gives⟩ := looks ⟨3⟩ {} State.withLoan a ⟨2⟩ ⟨1⟩ _ _ (.int 5) (.here rfl) rfl
    ⟨1, rfl⟩ resolves rfl
  have fails : Computations.ofExpressions.Ends (.dataize ⟨3⟩) {} State.withLoan (.error _) _ :=
    ⟨3, rfl⟩
  cases (gives.unique (Link.stepwise_ask _) fails).1

end PhiCalculus
