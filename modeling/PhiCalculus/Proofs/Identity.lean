import PhiCalculus.Proofs.AlikeLookup
import PhiCalculus.Proofs.Labels
import PhiCalculus.Proofs.Monotone
import PhiCalculus.Proofs.Numbering

/-!
# Identity of values

Values are compared by what they are, objects by their vertices, and the elements of arrays are
objects.  The two agree: however a state came about (`State.Arises`), two values in it other than
real numbers and arrays have one vertex exactly if they are equal, and exactly if they have one type
and one label (`State.values_are_identified`).  So arrays of such values are equal exactly if their
values are.

A value gets the vertex of its label when it is made, and what happens later changes neither its
vertex nor what the vertex was handed out for (`State.Labelled`).
-/

set_option autoImplicit false

namespace PhiCalculus

open PhiCalculus.Action

/-! ## Values have the vertices of their labels -/

/-- Vertices are apart, and every value that has a label has the vertex of its label. -/
structure State.Labelled (s : State) : Prop extends State.Numbered s where
  data : ∀ {r : Ref} {v : Value} {key : TypeTag × String}, (s.heap.cell r).kind = .data v →
    v.key? = some key → s.registry.Labels key (s.heap.vertex r)

theorem Heap.lt_size_of_kind {h : Heap} {r : Ref} {v : Value} (kind : (h.cell r).kind = .data v) :
    r.index < h.size := by
  refine lt_size_of_isData ?_
  rw [Cell.isData, Cell.value?, kind]
  rfl

namespace State.Labelled

variable {s t : State}

/-- An object is added with a vertex that the registry hands out, which is that of its label if it
is a value. -/
theorem add (n : s.Labelled) {key : Option (TypeTag × String)} {v : Vertex} {g : Registry}
    (hands : s.registry.Hands key v g) {k : Kind} (plain : ∀ t, k = .table t → key = none)
    (labelled : ∀ w, k = .data w → w.key? = key) :
    State.Labelled { s with heap := (s.heap.alloc ⟨v, k⟩).2, registry := g } := by
  refine ⟨n.toNumbered.add hands plain, ?_⟩
  intro r w key' kind here
  rcases s.heap.lt_size_alloc.mp (Heap.lt_size_of_kind kind) with old | rfl
  · have same : (s.heap.alloc ⟨v, k⟩).2.cell r = s.heap.cell r := s.heap.cell_alloc_of_lt _ old
    simp only [same] at kind
    simp only [Heap.vertex, same]
    exact (hands.labels_of_used n.registry (n.used r old)).mpr (n.data kind here)
  · have same : (s.heap.alloc ⟨v, k⟩).2.cell ⟨s.heap.size⟩ = ⟨v, k⟩ := s.heap.cell_alloc_self _
    simp only [same] at kind
    simp only [Heap.vertex, same]
    exact (hands.labels_iff n.registry).mpr ((labelled w kind).symm.trans here)

theorem alloc (n : s.Labelled) {k : Kind} (plain : ∀ v, k ≠ .data v) : (s.alloc k).2.Labelled :=
  n.add .next (fun _ _ => rfl) fun w is => absurd is (plain w)

theorem allocData (n : s.Labelled) (v : Value) : (s.allocData v).2.Labelled := by
  refine n.add (s.registry.hands_best v) nofun ?_
  rintro w ⟨⟩
  rfl

/-- A change of an object that leaves tables tables, and values what they are. -/
structure Harmless (f : Kind → Kind) : Prop where
  table : ∀ k t, f k = .table t → ∃ t', k = .table t'
  data : ∀ k v, f k = .data v → k = .data v

/-- What is in a table or in a view does not matter. -/
theorem update (n : s.Labelled) (r : Ref) {f : Kind → Kind} (harmless : Harmless f) :
    State.Labelled { s with heap := s.heap.update r f } := by
  refine ⟨n.toNumbered.update r harmless.table, ?_⟩
  intro o v key kind here
  have there := Heap.lt_size_of_kind kind
  rw [Heap.size_update] at there
  rw [Heap.vertex_update]
  by_cases same : o = r
  · subst same
    rw [s.heap.cell_update_self there] at kind
    exact n.data (harmless.data _ v kind) here
  · rw [s.heap.cell_update_of_ne same] at kind
    exact n.data kind here

theorem setSlot (n : s.Labelled) (r : Ref) (name : String) (slot : Slot) :
    State.Labelled { s with heap := s.heap.setSlot r name slot } := by
  apply n.update
  constructor <;>
  · intro k
    cases k <;> simp

theorem setOwner (n : s.Labelled) (r owner : Ref) :
    State.Labelled { s with heap := s.heap.setOwner r owner } := by
  apply n.update
  constructor <;>
  · intro k
    cases k <;> simp

theorem setResult (n : s.Labelled) (r result : Ref) :
    State.Labelled { s with heap := s.heap.setResult r result } := by
  apply n.update
  constructor <;>
  · intro k
    cases k <;> simp

theorem of_heap (n : s.Labelled) (heap : t.heap = s.heap) (registry : t.registry = s.registry) :
    t.Labelled := by
  refine ⟨n.toNumbered.of_heap heap registry, ?_⟩
  rw [heap, registry]
  exact n.data

/-- The registry may hand out vertices for nothing. -/
theorem hands (n : s.Labelled) {key : Option (TypeTag × String)} {v : Vertex} {g : Registry}
    (hands : s.registry.Hands key v g) : State.Labelled { s with registry := g } := by
  have labels {r : Ref} (there : r.index < s.heap.size) {key : TypeTag × String} :
      g.Labels key (s.heap.vertex r) ↔ s.registry.Labels key (s.heap.vertex r) :=
    hands.labels_of_used n.registry (n.used r there)
  constructor
  · constructor
    · exact hands.sound n.registry
    · intro r there
      exact Nat.le_trans (n.used r there) (hands.size n.registry)
    · intro a b there there' same
      refine (n.alone a b there there' same).imp id ?_
      rintro ⟨key, known⟩
      exact ⟨key, (labels there).mpr known⟩
    · intro r t there kind key known
      exact n.table r t there kind key ((labels there).mp known)
  · intro r v key kind here
    exact (labels (Heap.lt_size_of_kind kind)).mpr (n.data kind here)

end State.Labelled

/-- **Whatever changes keeps values labelled.** -/
theorem State.Changes.labelled ⦃s t : State⦄ (h : s.Changes t) (n : s.Labelled) : t.Labelled := by
  cases h with
  | fills h =>
      cases h with
      | creates h =>
          cases h with
          | observed heap registry => exact n.of_heap heap registry
          | alloc k plain => exact n.alloc plain
          | data v => exact n.allocData v
      | cache computed => exact n.setSlot _ _ _
      | result derived => exact n.setResult _ _
  | write value => exact n.setSlot _ _ _
  | append items => exact n.setSlot _ _ _
  | own owner => exact n.setOwner _ _

/-! ## States that come about -/

/-- A state that came about: from nothing, by operations or in the midst of them, by making objects
global, or by asking the registry for vertices. -/
inductive State.Arises (c : Computations) : State → Prop where
  | empty : Arises c {}
  | defined {s : State} (name : String) (r : Ref) : Arises c s → Arises c (s.define name r)
  | asked {s : State} (q : Registry.Query) : Arises c s →
      Arises c { s with registry := (s.registry.ask q).2 }
  | performed {s : State} {α : Type} {x : Answerer → Action α} (performs : Performs True x)
      (stop : State → Bool) (steps : Nat) (frame : Frame) : Arises c s →
        Arises c (x (answeredUntil c stop steps) frame s).state

variable {c : Computations} {s t u : State}

theorem Performs.labelled {α : Type} {x : Answerer → Action α} (performs : Performs True x)
    (stop : State → Bool) (steps : Nat) (frame : Frame) (n : s.Labelled) :
    (x (answeredUntil c stop steps) frame s).state.Labelled := by
  have trans : ∀ ⦃s t u : State⦄, (s.Labelled → t.Labelled) → (t.Labelled → u.Labelled) →
      s.Labelled → u.Labelled := fun _ _ _ first second n => second (first n)
  have answers : Answerer.Moves (fun s t => s.Labelled → t.Labelled) (answeredUntil c stop steps) :=
    moves_of_changes (fun _ => id) trans State.Changes.labelled c stop steps
  exact (performs.stepwise.mono State.Changes.labelled).moves trans answers frame s n

/-- **However a state came about, its values are labelled.** -/
theorem State.Arises.labelled (arises : s.Arises c) : s.Labelled := by
  induction arises with
  | empty =>
      constructor
      · exact ⟨Registry.sound_empty, nofun, nofun, nofun⟩
      · intro r v key kind
        cases Nat.not_lt_zero _ (Heap.lt_size_of_kind kind)
  | defined name r _ ih => exact ih.of_heap rfl rfl
  | @asked s q _ ih =>
      rcases s.registry.ask_cases q with ⟨_, f, rejected⟩ | ⟨_, v, g, answered, hands⟩
      · rw [rejected]
        exact ih
      · rw [answered]
        exact ih.hands hands
  | performed performs stop steps frame _ ih => exact performs.labelled stop steps frame ih

/-! ## Equal values -/

/-- The object is a value of a type whose values equal those of their label only. -/
def Heap.IsDiscrete (h : Heap) (r : Ref) (v : Value) : Prop :=
  (h.cell r).kind = .data v ∧ v.Discrete

theorem State.Labelled.labels (n : s.Labelled) {r : Ref} {v : Value} (is : s.heap.IsDiscrete r v) :
    ∃ text, v.label = some text ∧ s.registry.Labels (v.tag, text) (s.heap.vertex r) := by
  obtain ⟨text, labelled⟩ := Value.label_of_not_array is.2.2
  refine ⟨text, labelled, n.data is.1 ?_⟩
  rw [Value.key?, labelled]
  rfl

/-- Values have one vertex exactly if they have one type and one label. -/
theorem State.Labelled.vertex_iff_label (n : s.Labelled) {a b : Ref} {v w : Value}
    (is : s.heap.IsDiscrete a v) (is' : s.heap.IsDiscrete b w) :
    s.heap.vertex a = s.heap.vertex b ↔ v.tag = w.tag ∧ v.label = w.label := by
  obtain ⟨text, label, known⟩ := n.labels is
  obtain ⟨text', label', known'⟩ := n.labels is'
  rw [label, label']
  constructor
  · intro same
    rw [← same] at known'
    have keys := Prod.mk.inj (n.registry.label_unique known known')
    exact ⟨keys.1, congrArg some keys.2⟩
  · rintro ⟨tags, texts⟩
    rw [← tags, ← Option.some.inj texts] at known'
    exact Option.some.inj (known.symm.trans known')

/-- Values have one vertex exactly if they are equal. -/
theorem State.Labelled.vertex_iff_same (n : s.Labelled) (vertex : Ref → Vertex) {a b : Ref}
    {v w : Value} (is : s.heap.IsDiscrete a v) (is' : s.heap.IsDiscrete b w) :
    s.heap.vertex a = s.heap.vertex b ↔ Value.same vertex v w = true :=
  (n.vertex_iff_label is is').trans (Value.same_iff_label vertex is.2 is'.2).symm

/-- Two lists of values are equal: they have one length and the values are equal one by one. -/
def SameValues (vertex : Ref → Vertex) (vs ws : List Value) : Prop :=
  List.Forall₂ (fun v w => Value.same vertex v w = true) vs ws

/-- Lists of values have the same vertices exactly if they are equal. -/
theorem State.Labelled.vertices_iff (n : s.Labelled) (vertex : Ref → Vertex) {xs ys : List Ref}
    {vs ws : List Value} (are : List.Forall₂ s.heap.IsDiscrete xs vs)
    (are' : List.Forall₂ s.heap.IsDiscrete ys ws) :
    xs.map s.heap.vertex = ys.map s.heap.vertex ↔ SameValues vertex vs ws := by
  rw [SameValues]
  induction are generalizing ys ws with
  | nil =>
      cases are' with
      | nil => simp
      | cons _ _ => simp
  | cons is _ ih =>
      cases are' with
      | nil => simp
      | cons is' rest' =>
          rw [List.map_cons, List.map_cons, List.cons.injEq, List.forall₂_cons,
            n.vertex_iff_same vertex is is', ih rest']

/-! ## Equal arrays -/

/-- Where the receiver and the argument of `eq` are arrays of values, the result is true exactly if
the values are equal one by one. -/
theorem methodResult_eq_arrays (labelled : u.Labelled) (vertex : Ref → Vertex) {ask : Answerer}
    {frame : Frame} {r : Ref} {xs ys : List Ref} {vs ws : List Value}
    (receiver : fetch ask r sigma frame s = .answer (.array xs) t)
    (argument : hold xs (fetch ask r "x") frame t = .answer (.array ys) u)
    (are : List.Forall₂ u.heap.IsDiscrete xs vs) (are' : List.Forall₂ u.heap.IsDiscrete ys ws) :
    ∃ b, methodResult ask .eq r frame s = data (.bool b) frame u ∧
      (b = true ↔ SameValues vertex vs ws) := by
  refine ⟨Value.same u.heap.vertex (.array xs) (.array ys), ?_, ?_⟩
  · rw [methodResult, bind_of_answer receiver]
    exact bind_of_answer argument _
  · rw [Value.same, beq_iff_eq]
    exact labelled.vertices_iff vertex are are'

/-- After the receiver and the argument of a method were fetched, values are labelled. -/
theorem State.Arises.labelled_of_fetched (arises : s.Arises c) {stop : State → Bool} {steps : Nat}
    {frame : Frame} {r : Ref} {v w : Value}
    (receiver : fetch (answeredUntil c stop steps) r sigma frame s = .answer v t)
    (argument : hold v.items (fetch (answeredUntil c stop steps) r "x") frame t = .answer w u) :
    u.Labelled := by
  have fetched (attr : String) : Performs True fun ask => fetch ask r attr :=
    Performs.of_creates (straight_fetch r attr).stepwise
  have first := arises.performed (fetched sigma) stop steps frame
  rw [receiver] at first
  have reached := (first.performed (.hold v.items (fetched "x")) stop steps frame).labelled
  simp only [Outcome.state] at reached
  rwa [argument] at reached

/-! ## Asking arrays whether they are equal -/

/-- Asks an object for its method `eq`, gives that the other object, and takes the value. -/
def askEqual (ask : Answerer) (a b : Ref) : Action Value := do
  let place ← ask (.find a "eq")
  let method ← ask (.read place)
  let parameter ← placeAt ask method 0
  write ask parameter b
  ask (.dataize method)

/-- The method `eq` of an array with its argument. -/
def comparison (a b : Ref) : Table :=
  { form := "array.eq"
    home := some a
    slots := [("x", .free (some b)), (phi, .composite (.native (.method .eq)))] }

section Comparison

variable {frame : Frame} {a b r : Ref} {v : Value}

/-- Where nothing is traced, a dataization ends in the value that is found. -/
theorem dataize_of_forced {steps : Nat}
    (forced : deeper (forceValue (answerWithin steps) r) (frame.holding [r]) s = .answer v t)
    (untraced : frame.tracing = false) :
    answerWithin (steps + 1) (.dataize r) frame s = .answer v t := by
  have value : dataizeObject (answerWithin steps) r (frame.holding [r]) s = .answer v t := by
    rw [dataizeObject, bind_of_answer (frame_apply _ s), bind_of_answer (observe_of_answer forced)]
    simp [Frame.holding, untraced]
  exact value

theorem dataize_value (kind : (s.heap.cell r).kind = .data v) (untraced : frame.tracing = false)
    (steps : Nat) : answerWithin (steps + 1) (.dataize r) frame s = .answer v s := by
  have found : (s.heap.cell r).value? = some v := by rw [Cell.value?, kind]
  refine dataize_of_forced ?_ untraced
  rw [deeper_apply, forceValue, bind_of_answer (cell_apply r _ s), found]
  rfl

theorem find_receiver {o : Table} (kind : (s.heap.cell r).kind = .table o)
    (home : o.home = some a) (value : (s.heap.cell a).isData = true) (steps : Nat) :
    answerWithin (steps + 1) (.find r sigma) frame s = .answer (.fixed r sigma a) s := by
  have at_home : (s.heap.cell r).home? = some a := by
    rw [Cell.home?, kind]
    exact home
  have alive (held : List Ref) : s.home? held r = some a := by
    rw [State.home?, at_home]
    simp [value]
  have place : findPlace (answerWithin steps) r sigma (frame.holding [r]) s =
      .answer (.fixed r sigma a) s := by
    rw [findPlace, bind_of_answer (cell_apply r _ s), kind]
    have found : findHome r (frame.holding [r]) s = .answer (.fixed r sigma a) s := by
      rw [findHome, bind_of_answer (frame_apply _ s), bind_of_answer (cell_apply r _ s), at_home]
      simp only
      rw [bind_of_answer (asks_apply _ _ s), alive]
      rfl
    exact found
  exact place

theorem read_fixed (name : String) (content : Ref) (steps : Nat) :
    answerWithin (steps + 1) (.read (.fixed r name content)) frame s = .answer content s := rfl

/-- A value is fetched from a place without changing anything. -/
theorem fetch_value {attr : String} {place : Place} {steps : Nat} {content : Ref}
    (found : answerWithin (steps + 1) (.find r attr) frame s = .answer place s)
    (held : ∀ frame, answerWithin (steps + 1) (.read place) frame s = .answer content s)
    (kind : (s.heap.cell content).kind = .data v) (untraced : frame.tracing = false) :
    fetch (answerWithin (steps + 1)) r attr frame s = .answer v s := by
  rw [fetch, bind_of_answer found, hold_apply, bind_of_answer (held _)]
  refine dataize_value kind ?_ steps
  exact untraced

/-- A value is where its own value is read. -/
theorem find_value (kind : (s.heap.cell r).kind = .data v) (steps : Nat) :
    answerWithin (steps + 1) (.find r delta) frame s = .answer (.fixed r delta r) s := by
  have place : findPlace (answerWithin steps) r delta (frame.holding [r]) s =
      .answer (.fixed r delta r) s := by
    rw [findPlace, bind_of_answer (cell_apply r _ s), kind]
    rfl
  exact place

/-- The value of an object that has none of its own is looked for on what it decorates. -/
theorem find_decorated {o : Table} {steps : Nat} {origin : Expr} {decorated : Ref} {place : Place}
    {u : State} (kind : (s.heap.cell r).kind = .table o) (undeclared : o.slots.find? delta = none)
    (decorates : o.slots.find? phi = some (.composite origin))
    (read : answerWithin steps (.read (.slot r phi)) (frame.holding [r]) s = .answer decorated t)
    (found : answerWithin steps (.find decorated delta) (frame.holding [r]) t = .answer place u) :
    answerWithin (steps + 1) (.find r delta) frame s = .answer place u := by
  have names : (delta == rho) = false ∧ (delta == xi) = false ∧ (delta == sigma) = false := by
    decide
  have place : findPlace (answerWithin steps) r delta (frame.holding [r]) s = .answer place u := by
    rw [findPlace, bind_of_answer (cell_apply _ _ _), kind]
    simp only [names.1, names.2.1, names.2.2, undeclared, decorates, Option.isSome_none,
      Option.isSome_some, if_false, if_true, Bool.false_eq_true]
    exact (bind_of_answer read _).trans found
  exact place

/-- An object that decorates what makes a value dataizes to that value. -/
theorem dataize_decorating {o : Table} {origin : Expr} {Good : Value → Prop} {steps : Nat}
    (kind : (s.heap.cell r).kind = .table o) (undeclared : o.slots.find? delta = none)
    (decorates : o.slots.find? phi = some (.composite origin))
    (made : ∀ frame : Frame, frame.tracing = false → ∃ v, Good v ∧
      answerWithin (steps + 1) (.eval origin r) frame s = data v frame s)
    (untraced : frame.tracing = false) :
    ∃ v, Good v ∧
      answerWithin (steps + 4) (.dataize r) frame s = .answer v (s.allocData v).2 := by
  let inside : Frame := { frame.holding [r] with depth := frame.depth + 1 }
  obtain ⟨v, good, evaluated⟩ := made (((inside.holding [r]).holding [r])) untraced
  refine ⟨v, good, dataize_of_forced ?_ untraced⟩
  have slot : s.heap.slot? r phi = some (.composite origin) := by
    rw [Heap.slot?, Cell.slots, kind]
    exact decorates
  have read : answerWithin (steps + 2) (.read (.slot r phi)) (inside.holding [r]) s =
      .answer (s.allocData v).1 (s.allocData v).2 :=
    (read_composite slot (steps + 1)).trans evaluated
  have value : ((s.allocData v).2.heap.cell (s.allocData v).1).kind = .data v :=
    congrArg Cell.kind (s.heap.cell_alloc_self _)
  have found : findData (answerWithin (steps + 3)) r inside s =
      .answer (.fixed (s.allocData v).1 delta (s.allocData v).1) (s.allocData v).2 :=
    bind_of_answer (observe_of_answer (find_decorated kind undeclared decorates read
      (find_value value (steps + 1)))) _
  have noValue : (s.heap.cell r).value? = none := by rw [Cell.value?, kind]
  have value' : ((s.allocData v).2.heap.cell (s.allocData v).1).value? = some v := by
    rw [Cell.value?, value]
  rw [deeper_apply, forceValue, bind_of_answer (cell_apply r _ s), noValue]
  simp only
  refine (bind_of_answer found _).trans ?_
  rw [bind_of_answer (read_fixed _ _ _), bind_of_answer (cell_apply _ _ _), value']
  rfl

/-- The state in which the argument was given. -/
def State.comparing (s : State) (a b : Ref) : State := (s.alloc (.table (comparison a b))).2

theorem comparing_kind (s : State) (a b : Ref) :
    ((s.comparing a b).heap.cell ⟨s.heap.size⟩).kind = .table (comparison a b) :=
  congrArg Cell.kind (s.heap.cell_alloc_self _)

theorem comparing_old (s : State) (a b : Ref) (kind : (s.heap.cell r).kind = .data v) :
    (s.comparing a b).heap.cell r = s.heap.cell r :=
  s.heap.cell_alloc_of_lt _ (Heap.lt_size_of_kind kind)

/-- The argument is written where it was still missing. -/
theorem setSlot_comparing (s : State) (a b : Ref) :
    (s.alloc (.table (methodTable a .array "eq" .eq))).2.heap.setSlot ⟨s.heap.size⟩ "x"
      (.free (some b)) = (s.comparing a b).heap := by
  rw [Heap.setSlot]
  exact s.heap.update_alloc _ _

/-- Giving an array its argument makes the comparison, and its value is taken next. -/
theorem askEqual_array {xs : List Ref} (kind : (s.heap.cell a).kind = .data (.array xs))
    (b : Ref) (steps : Nat) :
    askEqual (answerWithin (steps + 1)) a b frame s =
      answerWithin (steps + 1) (.dataize ⟨s.heap.size⟩) frame (s.comparing a b) := by
  have found : answerWithin (steps + 1) (.find a "eq") frame s =
      .answer (.fixed a "eq" ⟨s.heap.size⟩)
        (s.alloc (.table (methodTable a .array "eq" .eq))).2 := by
    have place : findPlace (answerWithin steps) a "eq" (frame.holding [a]) s =
        .answer (.fixed a "eq" ⟨s.heap.size⟩)
          (s.alloc (.table (methodTable a .array "eq" .eq))).2 := by
      have other : ∀ items i, Value.array xs = .array items → indexOf? "eq" ≠ some i := by
        intro items i _
        have none : indexOf? "eq" = none := by decide
        rw [none]
        nofun
      rw [findPlace, bind_of_answer (cell_apply a _ s), kind]
      simp only
      rw [Likeness.findOnValue_method (by decide) other]
      rfl
    exact place
  have method : ((s.alloc (.table (methodTable a .array "eq" .eq))).2.heap.cell
      ⟨s.heap.size⟩).kind = .table (methodTable a .array "eq" .eq) :=
    congrArg Cell.kind (s.heap.cell_alloc_self _)
  have concrete := isView_of_table method
  have open_first : ((s.alloc (.table (methodTable a .array "eq" .eq))).2.heap.cell
      ⟨s.heap.size⟩).slots.openNames[0]? = some "x" := by
    rw [Cell.slots, method]
    rfl
  have empty : (s.alloc (.table (methodTable a .array "eq" .eq))).2.heap.slot? ⟨s.heap.size⟩ "x"
      = some (.free none) := by
    rw [Heap.slot?, Cell.slots, method]
    rfl
  rw [askEqual, bind_of_answer found, bind_of_answer (read_fixed _ _ steps),
    bind_of_answer (placeAt_open concrete open_first),
    bind_of_answer ((write_free empty b).trans (fill_empty empty b)), setSlot_comparing]
  rfl

theorem State.Labelled.comparing (labelled : s.Labelled) (a b : Ref) :
    (s.comparing a b).Labelled :=
  labelled.alloc nofun

theorem comparing_values (s : State) (a b : Ref) {xs : List Ref} {vs : List Value}
    (are : List.Forall₂ s.heap.IsDiscrete xs vs) :
    List.Forall₂ (s.comparing a b).heap.IsDiscrete xs vs := by
  refine are.imp ?_
  rintro x v ⟨kind, discrete⟩
  refine ⟨?_, discrete⟩
  rw [comparing_old s a b kind]
  exact kind

/-- The comparison of two arrays of values ends in whether they are equal. -/
theorem dataize_comparison (labelled : s.Labelled) (vertex : Ref → Vertex) {xs ys : List Ref}
    {vs ws : List Value} (kind : (s.heap.cell a).kind = .data (.array xs))
    (kind' : (s.heap.cell b).kind = .data (.array ys))
    (are : List.Forall₂ s.heap.IsDiscrete xs vs) (are' : List.Forall₂ s.heap.IsDiscrete ys ws)
    (untraced : frame.tracing = false) (steps : Nat) :
    ∃ e t, answerWithin (steps + 5) (.dataize ⟨s.heap.size⟩) frame (s.comparing a b) =
      .answer (.bool e) t ∧ (e = true ↔ SameValues vertex vs ws) := by
  have table := comparing_kind s a b
  have kindA : ((s.comparing a b).heap.cell a).kind = .data (.array xs) := by
    rw [comparing_old s a b kind]
    exact kind
  have kindB : ((s.comparing a b).heap.cell b).kind = .data (.array ys) := by
    rw [comparing_old s a b kind']
    exact kind'
  have argument_slot : (s.comparing a b).heap.slot? ⟨s.heap.size⟩ "x" =
      some (.free (some b)) := by
    rw [Heap.slot?, Cell.slots, table]
    rfl
  have value : ((s.comparing a b).heap.cell a).isData = true := by
    rw [Cell.isData, Cell.value?, kindA]
    rfl
  -- the method fetches both arrays and compares them
  have computed (frame : Frame) (untraced : frame.tracing = false) :
      ∃ v, (∃ e, v = .bool e ∧ (e = true ↔ SameValues vertex vs ws)) ∧
        answerWithin (steps + 2) (.eval (.native (.method .eq)) ⟨s.heap.size⟩) frame
          (s.comparing a b) = data v frame (s.comparing a b) := by
    have receiver : fetch (answerWithin (steps + 1)) ⟨s.heap.size⟩ sigma
        (frame.holding [⟨s.heap.size⟩]) (s.comparing a b) =
          .answer (.array xs) (s.comparing a b) :=
      fetch_value (find_receiver table rfl value steps) (fun _ => read_fixed _ _ steps) kindA
        untraced
    have argument : hold xs (fetch (answerWithin (steps + 1)) ⟨s.heap.size⟩ "x")
        (frame.holding [⟨s.heap.size⟩]) (s.comparing a b) =
          .answer (.array ys) (s.comparing a b) := by
      rw [hold_apply]
      refine fetch_value (find_declared argument_slot (by decide) steps)
        (fun _ => read_bound argument_slot steps) kindB ?_
      exact untraced
    obtain ⟨e, compared, equal⟩ := methodResult_eq_arrays (labelled.comparing a b) vertex receiver
      argument (comparing_values s a b are) (comparing_values s a b are')
    exact ⟨.bool e, ⟨e, rfl, equal⟩, compared⟩
  obtain ⟨v, ⟨e, rfl, equal⟩, ends⟩ := dataize_decorating table rfl rfl computed untraced
  exact ⟨e, _, ends, equal⟩

end Comparison

/-! ## Identity -/

/-- What making a value answers. -/
theorem data_makes (v : Value) (frame : Frame) (s : State) :
    ∃ r t, data v frame s = .answer r t ∧ (t.heap.cell r).kind = .data v ∧
      t.heap.vertex r = (s.registry.best v).1 := by
  have cell : (s.allocData v).2.heap.cell (s.allocData v).1 = ⟨(s.registry.best v).1, .data v⟩ :=
    s.heap.cell_alloc_self _
  exact ⟨(s.allocData v).1, (s.allocData v).2, rfl, congrArg Cell.kind cell,
    congrArg Cell.vertex cell⟩

/-- **Values are identified by their vertices.**  However a state came about, two values in it other
than real numbers and arrays have one vertex exactly if they are equal, and exactly if they have one
type and one label.  A literal is made as the value that it spells is, with the same vertex.  Hence
`eq` of arrays of such values is true exactly if the arrays have one length and equal values, for
any objects that are dataized to the arrays, and in particular for two arrays that are asked
directly, which always ends. -/
theorem State.values_are_identified (arises : s.Arises c) :
    (∀ {a b : Ref} {v w : Value}, s.heap.IsDiscrete a v → s.heap.IsDiscrete b w →
      (s.heap.vertex a = s.heap.vertex b ↔ Value.same s.heap.vertex v w = true) ∧
        (s.heap.vertex a = s.heap.vertex b ↔ v.tag = w.tag ∧ v.label = w.label)) ∧
    (∀ {type text : String} {tag : TypeTag} {v : Value}, TypeTag.ofName? type = some tag →
      Value.parse tag text = .ok v → ∀ frame, ∃ r t, literal type text frame s = .answer r t ∧
        data v frame s = .answer r t ∧ (t.heap.cell r).kind = .data v ∧
          t.heap.vertex r = (s.registry.best v).1) ∧
    (∀ {stop : State → Bool} {steps : Nat} {frame : Frame} {r : Ref} {xs ys : List Ref}
      {vs ws : List Value} {t u : State},
      fetch (answeredUntil c stop steps) r sigma frame s = .answer (.array xs) t →
      hold xs (fetch (answeredUntil c stop steps) r "x") frame t = .answer (.array ys) u →
      List.Forall₂ u.heap.IsDiscrete xs vs → List.Forall₂ u.heap.IsDiscrete ys ws →
        ∃ e, methodResult (answeredUntil c stop steps) .eq r frame s = data (.bool e) frame u ∧
          (e = true ↔ SameValues u.heap.vertex vs ws)) ∧
    (∀ {a b : Ref} {xs ys : List Ref} {vs ws : List Value},
      (s.heap.cell a).kind = .data (.array xs) → (s.heap.cell b).kind = .data (.array ys) →
      List.Forall₂ s.heap.IsDiscrete xs vs → List.Forall₂ s.heap.IsDiscrete ys ws →
      ∀ (frame : Frame) (steps : Nat), frame.tracing = false →
        ∃ e t, askEqual (answerWithin (steps + 5)) a b frame s = .answer (.bool e) t ∧
          (e = true ↔ SameValues s.heap.vertex vs ws)) := by
  have labelled := arises.labelled
  refine ⟨?_, ?_, ?_, ?_⟩
  · intro a b v w is is'
    exact ⟨labelled.vertex_iff_same _ is is', labelled.vertex_iff_label is is'⟩
  · intro type text tag v known read frame
    obtain ⟨r, t, made, kind, vertex⟩ := data_makes v frame s
    exact ⟨r, t, by rw [literal_eq_data known read, made], made, kind, vertex⟩
  · intro stop steps frame r xs ys vs ws t u receiver argument are are'
    have after : u.Labelled := arises.labelled_of_fetched receiver argument
    exact methodResult_eq_arrays after u.heap.vertex receiver argument are are'
  · intro a b xs ys vs ws kind kind' are are' frame steps untraced
    rw [askEqual_array kind b (steps + 4)]
    exact dataize_comparison labelled s.heap.vertex kind kind' are are' untraced steps

/-- Spells a number twice and puts each spelling into an array. -/
def spellTwice : Action Unit := do
  let hexadecimal ← literal "int" "0x2A"
  let signed ← literal "int" "+42"
  let _ ← data (.array [hexadecimal])
  let _ ← data (.array [signed])

/-- The state in which a number was spelled twice. -/
def State.spelledTwice : State := (spellTwice {} {}).state

theorem performs_spellTwice : Performs True fun _ => spellTwice := by
  have spelled (type text : String) : Performs True fun _ => literal type text :=
    Performs.operation (.literal type text)
  have made (v : Value) : Performs True fun _ => data v := Performs.operation (.data v)
  refine .bind (spelled _ _) fun hexadecimal => .bind (spelled _ _) fun signed => ?_
  refine .bind (made _) fun _ => .bind (made _) fun _ => ?_
  exact Performs.of_creates (Stepwise.act (.pure ()))

/-- Both spellings are one object, and the arrays of them are equal. -/
theorem State.spellings_are_identified :
    State.spelledTwice.heap.vertex ⟨0⟩ = State.spelledTwice.heap.vertex ⟨1⟩ ∧
      ∃ t, askEqual (answerWithin 5) ⟨2⟩ ⟨3⟩ {} State.spelledTwice = .answer (.bool true) t := by
  have arises : State.spelledTwice.Arises .ofExpressions :=
    .performed performs_spellTwice (fun _ => false) 0 {} .empty
  obtain ⟨identified, _, _, compared⟩ := State.values_are_identified arises
  have first : State.spelledTwice.heap.IsDiscrete ⟨0⟩ (.int 42) := ⟨by rfl, nofun, nofun⟩
  have second : State.spelledTwice.heap.IsDiscrete ⟨1⟩ (.int 42) := ⟨by rfl, nofun, nofun⟩
  have equal : Value.same State.spelledTwice.heap.vertex (.int 42) (.int 42) = true := by rfl
  refine ⟨(identified first second).1.mpr equal, ?_⟩
  obtain ⟨e, t, ends, same⟩ := compared (a := ⟨2⟩) (b := ⟨3⟩) (by rfl) (by rfl)
    (.cons first .nil) (.cons second .nil) {} 0 rfl
  obtain rfl : e = true := same.mpr (.cons equal .nil)
  exact ⟨t, ends⟩

end PhiCalculus
