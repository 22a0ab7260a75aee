import PhiCalculus.Proofs.Views

/-!
# Views of methods

A method is what an attribute of a base gives, made to belong to the base.  The name is looked up on
the object behind the base, and what is read where it is found may be a value, which is the method
itself, or any other object, of which the method is a new copy.  The owner of the copy is the object
behind the base, wherever the name was found and whoever owns what was read (`GivesMethod`).

A view of a method finds it when the view is used for the first time.  If the lookup uses the same
view again, with success, the view has kept a method already when the lookup comes to its end, and
gives that one, which another lookup has led to (`method_views`).
-/

set_option autoImplicit false

namespace PhiCalculus

open PhiCalculus.Action

variable {c : Computations} {ask : Answerer} {s t u : State} {frame : Frame} {f : Failure}
  {o p d r base : Ref} {name : String}

/-! ## What an attribute gives as a method -/

/-- The object behind the base, and what its attribute is. -/
def attributeOf (ask : Answerer) (base : Ref) (name : String) : Action (Ref × Ref) := do
  let o ← settle ask base
  hold [o] do
    let place ← ask (.find o name)
    let p ← ask (.read place)
    pure (o, p)

/-- Where the attribute cannot be read, there is no method. -/
theorem methodOf_of_unread (unread : attributeOf ask base name frame s = .failure f t) :
    methodOf ask base name frame s = .failure f t := by
  have ends : (attributeOf ask base name).Ends frame s (.error f) t := unread
  rcases ends_bind.mp ends with ⟨e, unsettled, same⟩ | ⟨o, u, settled, rest⟩
  · cases same
    exact bind_of_failure unsettled _
  · refine (bind_of_answer settled _).trans ?_
    rcases ends_bind.mp (ends_hold.mp rest) with ⟨e, unfound, same⟩ | ⟨place, w, found, rest⟩
    · cases same
      exact bind_of_failure unfound _
    · refine (bind_of_answer found _).trans ?_
      rcases ends_bind.mp rest with ⟨e, unread, same⟩ | ⟨p, w', _, ends⟩
      · cases same
        exact bind_of_failure unread _
      · cases ends

/-- A method is made from what is read. -/
theorem methodOf_of_read (read : attributeOf ask base name frame s = .answer (o, p) u) :
    methodOf ask base name frame s = methodFrom ask o p (frame.holding [o]) u := by
  obtain ⟨o', w, settled, rest⟩ := bind_eq_answer.mp read
  rw [hold_apply] at rest
  obtain ⟨place, w', found, rest⟩ := bind_eq_answer.mp rest
  obtain ⟨p', u', reads, ends⟩ := bind_eq_answer.mp rest
  cases ends
  exact (bind_of_answer settled _).trans ((bind_of_answer found _).trans (bind_of_answer reads _))

/-- What is read and is no value is copied, and the copy is owned. -/
theorem methodFrom_of_object (object : (u.heap.cell p).isData = false) :
    methodFrom ask o p frame u =
      (copyOf ask p >>= fun method => moveTo ask method o >>= fun _ => pure method)
        (frame.holding [p]) u := by
  rw [methodFrom, bind_of_answer (cell_apply p frame u), object]
  rfl

/-- What cannot be looked behind is no value. -/
theorem methodFrom_unresolved (unsettled : settle ask p (frame.holding [p]) u = .failure f t) :
    methodFrom ask o p frame u = .failure f t := by
  cases object : (u.heap.cell p).isData with
  | true =>
      cases (settle_of_concrete (Cell.isView_of_isData object)).symm.trans unsettled
  | false =>
      rw [methodFrom_of_object object]
      exact bind_of_failure (bind_of_failure unsettled _) _

/-- The method is the value that was read, or that a view stands for that was read. -/
theorem methodFrom_value {value : Value}
    (settled : settle ask p (frame.holding [p]) u = .answer d t)
    (kind : (t.heap.cell d).kind = .data value) : methodFrom ask o p frame u = .answer d t := by
  cases object : (u.heap.cell p).isData with
  | true =>
      cases (settle_of_concrete (Cell.isView_of_isData object)).symm.trans settled
      rw [methodFrom, bind_of_answer (cell_apply p frame _), object]
      rfl
  | false =>
      have copied : copyOf ask p (frame.holding [p]) u = .answer d t :=
        (copyOf_of_settled settled (isView_of_data kind)).trans (copyOf_data kind)
      rw [methodFrom_of_object object, bind_of_answer copied, bind_of_answer (moveTo_value kind o)]
      rfl

/-- Any other object is copied, and the copy is owned. -/
theorem methodFrom_table {table : Table}
    (settled : settle ask p (frame.holding [p]) u = .answer d t)
    (kind : (t.heap.cell d).kind = .table table) :
    methodFrom ask o p frame u = .answer (t.ownedCopy table o).1 (t.ownedCopy table o).2 := by
  have object : (u.heap.cell p).isData = false := by
    by_contra isData
    have concrete := Cell.isView_of_isData (Bool.eq_true_of_not_eq_false isData)
    cases (settle_of_concrete concrete).symm.trans settled
    simp [Cell.isData, Cell.value?, kind] at isData
  have copied : copyOf ask p (frame.holding [p]) u =
      .answer (t.copyTable table).1 (t.copyTable table).2 :=
    (copyOf_of_settled settled (isView_of_table kind)).trans (copyOf_table kind)
  rw [methodFrom_of_object object, bind_of_answer copied, bind_of_answer moveTo_copyTable]
  rfl

/-- What comes of an attribute that is to be a method.  It is read first, and what is read is looked
behind, if it is a view. -/
structure GivesMethod (ask : Answerer) (base : Ref) (name : String) (frame : Frame) (s : State) :
    Prop where
  unread : ∀ {f t}, attributeOf ask base name frame s = .failure f t →
    methodOf ask base name frame s = .failure f t
  unresolved : ∀ {o p u f t}, attributeOf ask base name frame s = .answer (o, p) u →
    settle ask p ((frame.holding [o]).holding [p]) u = .failure f t →
      methodOf ask base name frame s = .failure f t
  /-- A value is the method itself. -/
  value : ∀ {o p u d t value}, attributeOf ask base name frame s = .answer (o, p) u →
    settle ask p ((frame.holding [o]).holding [p]) u = .answer d t →
      (t.heap.cell d).value? = some value → methodOf ask base name frame s = .answer d t
  /-- Of any other object the method is a new copy, which belongs to the object behind the base. -/
  copied : ∀ {o p u d t}, attributeOf ask base name frame s = .answer (o, p) u →
    settle ask p ((frame.holding [o]).holding [p]) u = .answer d t →
      (t.heap.cell d).value? = none → ∃ method w,
        methodOf ask base name frame s = .answer method w ∧ t.Copied d (some o) method w

/-- **What an attribute gives as a method.** -/
theorem givesMethod (settles : ask.Settles) (base : Ref) (name : String) (frame : Frame)
    (s : State) : GivesMethod ask base name frame s where
  unread := methodOf_of_unread
  unresolved read unsettled := (methodOf_of_read read).trans (methodFrom_unresolved unsettled)
  value read settled value :=
    (methodOf_of_read read).trans (methodFrom_value settled (Heap.kind_of_value? value))
  copied {o p u d t} read settled object := by
    have concrete := settles.settle settled
    cases kind : (t.heap.cell d).kind with
    | table table =>
        exact ⟨_, _, (methodOf_of_read read).trans (methodFrom_table settled kind),
          State.copied_alloc kind (some o)⟩
    | data v => simp [Cell.value?, kind] at object
    | view v result => simp [Cell.isView, kind] at concrete

/-! ## What is left alone -/

/-- Where the name has been found, what is there is read, and a method is made from it. -/
theorem methodOf_of_found {place : Place} (settled : settle ask base frame s = .answer o u)
    (found : ask (.find o name) (frame.holding [o]) u = .answer place t) :
    methodOf ask base name frame s =
      (ask (.read place) >>= methodFrom ask o) (frame.holding [o]) t :=
  (bind_of_answer settled _).trans (bind_of_answer found _)

/-- To make a method leaves alone what exists.  That goes for what exists when it begins, such as
the base, for what exists when the name has been found, such as the object that it was found on, and
for what exists when that has been read, such as what was read. -/
structure MethodSpares (c : Computations) (base : Ref) (name : String) : Prop where
  whole : LeavesAlone c fun ask => methodOf ask base name
  found : ∀ o place, (LeavesAlone c fun ask => ask (.read place) >>= methodFrom ask o) ∧
    ∀ {ask : Answerer} {frame s u t}, settle ask base frame s = .answer o u →
      ask (.find o name) (frame.holding [o]) u = .answer place t →
        methodOf ask base name frame s =
          (ask (.read place) >>= methodFrom ask o) (frame.holding [o]) t
  read : ∀ o p, (LeavesAlone c fun ask => methodFrom ask o p) ∧
    ∀ {ask : Answerer} {frame s u}, attributeOf ask base name frame s = .answer (o, p) u →
      methodOf ask base name frame s = methodFrom ask o p (frame.holding [o]) u

theorem methodSpares (c : Computations) (base : Ref) (name : String) :
    MethodSpares c base name where
  whole := leavesAlone c (.method base name)
  found o place := by
    have made : Stepwise State.Edits True fun ask => ask (.read place) >>= methodFrom ask o :=
      .bind (Stepwise.request _) fun p => (straight_methodFrom o p).stepwise
    have obeys (S : Sparing) (ask : Answerer) (moves : ask.Moves S.Spares) (settles : ask.Settles) :
        Obeys S (fun _ => True) (ask (.read place) >>= methodFrom ask o) fun method =>
          Disposable S.first method :=
      (obeys_of_creates moves (Stepwise.request (.read place))).bind fun p =>
        obeys_methodFrom moves settles o p
    exact ⟨.of_obeys (made.mono State.Edits.changes) obeys, methodOf_of_found⟩
  read o p := by
    have made : Stepwise State.Edits True fun ask => methodFrom ask o p :=
      (straight_methodFrom o p).stepwise
    exact ⟨.of_obeys (made.mono State.Edits.changes) fun S ask moves settles =>
      obeys_methodFrom moves settles o p, methodOf_of_read⟩

/-! ## What comes of views of methods -/

/-- What comes of uses, made in a state, of a view of a method. -/
structure MethodView (c : Computations) (r base : Ref) (name : String) (s : State) : Prop where
  /-- Where there is no method, the use fails in the same way. -/
  fails : ∀ {steps frame f t}, methodOf (answered c steps) base name (frame.holding [r]) s =
    .failure f t → (Query.resolving r steps frame s).outcome c = .failure f t
  /-- Otherwise it gives the method, which the view keeps, unless the view has kept one by then.
  This is what the use gives in that case, and a use in its midst has found it. -/
  gives : ∀ {steps frame x t}, methodOf (answered c steps) base name (frame.holding [r]) s =
    .answer x t →
      ((t.heap.cell r).kind = .view (.method base name) none ∧
        (Query.resolving r steps frame s).outcome c =
          .answer x { t with heap := t.heap.setResult r x }) ∨
      ∃ y, (t.heap.cell r).kind = .view (.method base name) (some y) ∧
        (Query.resolving r steps frame s).outcome c = .answer y t ∧
          ∃ steps' < steps, ∃ frame' s' t',
            (Query.resolving r steps frame s).Within c (.resolving r steps' frame' s') ∧
              (s'.heap.cell r).kind = .view (.method base name) none ∧
                methodOf (answered c steps') base name (frame'.holding [r]) s' = .answer y t'

theorem methodView (unresolved : (s.heap.cell r).kind = .view (.method base name) none) :
    MethodView c r base name s where
  fails {steps frame f t} fails := by
    refine (resolve_unresolved unresolved c (answered c steps) frame).trans ?_
    exact bind_of_failure fails _
  gives {steps frame x t} derives := by
    have derived : derivedBy (answered c steps) (.method base name) (frame.holding [r]) s =
      .answer x t := derives
    have grown := derivedBy_grows c (.method base name) steps (frame.holding [r]) s
    rw [derived] at grown
    obtain ⟨result, kind, _⟩ := (grown.cell r (Heap.lt_size_of_view unresolved)).view unresolved
    cases result with
    | none => exact .inl ⟨kind, Resolution.answers ⟨unresolved, derives, kind⟩⟩
    | some y =>
        obtain ⟨answers, steps', fewer, frame', s', t', within, resolution⟩ :=
          Query.resolving_kept unresolved nofun derives kind
        exact .inr ⟨y, kind, answers, steps', fewer, frame', s', t', within,
          resolution.unresolved, resolution.derives⟩

/-- **Views of methods.**  Let a view of a method have kept nothing.  If the name cannot be looked
up on the object behind the base, or what is there cannot be read or looked behind, then a use of
the view fails in the same way.  Otherwise what was read, or what it stands for if it is a view, is
the method if it is a value, and of any other object the method is a new copy whose owner is the
object behind the base.  That is what a use of the view gives, unless the view is used in the midst
of it with success: then it gives the method that this use has found.

While the method is made, those objects that exist by then gain nothing but caches and results,
unless a computation in the midst of it does more to them; where slots compute expressions, none
does. -/
theorem method_views (unresolved : (s.heap.cell r).kind = .view (.method base name) none) :
    MethodView c r base name s ∧
    (∀ steps frame s, GivesMethod (answered c steps) base name frame s) ∧
    MethodSpares c base name :=
  ⟨methodView unresolved,
    fun steps frame s => givesMethod (settles_answered c steps) base name frame s,
    methodSpares c base name⟩

/-- A parent has a part that belongs to it, and a child that decorates the parent.  A view is there
of the part as a method of the child. -/
def State.withHeir : State :=
  [Deed.mk (.build "part" none []) 0 {}, ⟨.build "parent" none [("run", .free none)], 0, {}⟩,
    ⟨.moveTo ⟨1⟩ ⟨2⟩, 0, {}⟩, ⟨.put (.slot ⟨2⟩ "run") ⟨1⟩, 0, {}⟩,
    ⟨.build "child" none [(phi, .free none)], 0, {}⟩, ⟨.put (.slot ⟨3⟩ phi) ⟨2⟩, 0, {}⟩,
    ⟨.view (.method ⟨3⟩ "run"), 0, {}⟩].foldl (Deed.after .ofExpressions) .initial

/-- The method of the child is a copy that belongs to the child, not to the parent. -/
theorem inherited_method_belongs_to_heir : ∃ method t,
    (Query.resolving ⟨4⟩ 3 {} State.withHeir).outcome .ofExpressions = .answer method t ∧
      (t.heap.cell method).owner? = some ⟨3⟩ ∧ (t.heap.cell ⟨1⟩).owner? = some ⟨2⟩ := by
  have unresolved : (State.withHeir.heap.cell ⟨4⟩).kind = .view (.method ⟨3⟩ "run") none := rfl
  obtain ⟨view, gives, _⟩ := method_views (c := .ofExpressions) unresolved
  have read : attributeOf (answered .ofExpressions 3) ⟨3⟩ "run" (Frame.holding {} [⟨4⟩])
      State.withHeir = .answer (⟨3⟩, ⟨1⟩) State.withHeir := rfl
  obtain ⟨method, t, derives, copied⟩ := (gives 3 _ _).copied read rfl rfl
  have still : (t.heap.cell ⟨4⟩).kind = .view (.method ⟨3⟩ "run") none :=
    (congrArg Cell.kind (copied.others ⟨4⟩ (by decide))).trans unresolved
  have old {r : Ref} (old : r.index < State.withHeir.heap.size) : r ≠ method := by
    rintro rfl
    exact Nat.ne_of_lt old copied.new
  rcases view.gives derives with ⟨_, answers⟩ | ⟨y, kept, _⟩
  · refine ⟨method, _, answers, ?_, ?_⟩
    · rw [Heap.setResult, t.heap.cell_update_of_ne (old (by decide)).symm]
      exact copied.owned
    · rw [Heap.setResult, t.heap.cell_update_of_ne (by decide), copied.others ⟨1⟩ (by decide)]
      rfl
  · cases still.symm.trans kept

/-! ## A use in the midst of another -/

theorem Outcome.of_isInt {outcome : Outcome Ref} {n : Int64} (given : outcome.isInt n = true) :
    ∃ y t, outcome = .answer y t ∧ (t.heap.cell y).value? = some (.int n) := by
  cases outcome with
  | answer y t =>
      refine ⟨y, t, rfl, ?_⟩
      rw [isInt] at given
      split at given
      · next value => rw [value, eq_of_beq given]
      · cases given
  | _ => cases given

/-- What the object picks is what it gives for `outer`, which uses the view again, with success, and
is the value 9 then.  So 9 is looked up and read when the view is used, and is the method that is
made.  But the view has kept what the other use has found, the value 5, and gives that. -/
theorem view_gives_what_was_kept :
    let s := State.withPicker (.get (.array [.viewed, .data (.int 9)]) "1")
    Later .ofExpressions .initial s ∧
      (s.heap.cell ⟨2⟩).kind = .view (.method ⟨1⟩ "picked") none ∧
        (∃ p u, ((·.2) <$> attributeOf (answered .ofExpressions 24) ⟨1⟩ "picked")
          (Frame.holding {} [⟨2⟩]) s = .answer p u ∧ (u.heap.cell p).value? = some (.int 9)) ∧
        ∃ y t, (Query.resolving ⟨2⟩ 24 {} s).outcome .ofExpressions = .answer y t ∧
          (t.heap.cell y).value? = some (.int 5) := by
  intro s
  have read : (((·.2) <$> attributeOf (answered .ofExpressions 24) ⟨1⟩ "picked")
      (Frame.holding {} [⟨2⟩]) s).isInt 9 = true := by decide +kernel
  have given : ((Query.resolving ⟨2⟩ 24 {} s).outcome .ofExpressions).isInt 5 = true := by
    decide +kernel
  exact ⟨Deed.later_foldl _ _, rfl, Outcome.of_isInt read, Outcome.of_isInt given⟩

end PhiCalculus
