import PhiCalculus.Proofs.RunState

/-!
# Runs that are alike

Two runs of a program may go the same way although their objects are at different places and have
different vertices.  A likeness says which states correspond and where each object of the first run
is in the second one (`Likeness`): it has the same kind there, renamed, and the two states agree on
which vertices are equal, on which objects still exist and on terms; and what the first run does to
its objects, the second one can do to the objects that correspond.

Two actions end alike (`Likeness.Ends`) if both answer, both fail or both are cut short, in states
that correspond, with answers that correspond or for reasons that do (`Likeness.Fails`).  The first
state also stays one of a run (`State.Fits`), so that this says what a run of a checked program can
end in.  The rules of this module follow how actions are put together.

The second run may be a silent one, which leaves no trace.  Then the first run may also be cut short
alone, by a term that has no end.

With states that correspond only to themselves, actions that end alike end in the very same way.
-/

set_option autoImplicit false

namespace PhiCalculus

open PhiCalculus.Action

/-! ## Likeness -/

/-- A correspondence between the states of two runs. -/
structure Likeness (p : Program) where
  /-- Where an object of the first run is in the second one. -/
  place : Ref → Ref
  /-- Which states correspond. -/
  alike : State → State → Prop
  /-- What else is in use in the first run. -/
  kept : List Ref
  /-- What else is in use in the second run. -/
  kept' : List Ref
  /-- Whether only the first run leaves a trace. -/
  silent : Bool
  kind : ∀ {s s' r}, alike s s' → s.Fits p → r.index < s.heap.size →
    (s'.heap.cell (place r)).kind = (s.heap.cell r).kind.rename place
  exist : ∀ {s s' r}, alike s s' → r.index < s.heap.size → (place r).index < s'.heap.size
  later : ∀ r : Ref, p.base.heap.size ≤ r.index → r.index ≤ (place r).index
  vertex : ∀ {s s' a b}, alike s s' → a.index < s.heap.size → b.index < s.heap.size →
    (s'.heap.vertex (place a) = s'.heap.vertex (place b) ↔ s.heap.vertex a = s.heap.vertex b)
  global? : ∀ {s s'} name, alike s s' → s'.global? name = (s.global? name).map place
  isAlive : ∀ {s s' held r}, alike s s' → s.Fits p → (∀ x ∈ held, x.index < s.heap.size) →
    s.heap.Ordinary p r →
      s'.isAlive (held.map place ++ kept') (place r) = s.isAlive (held ++ kept) r
  term? : ∀ {s s' r}, alike s s' → s.Fits p → r.index < s.heap.size →
    s'.heap.term? (place r) = s.heap.term? r
  alloc : ∀ {s s'} k, alike s s' → (s'.alloc (k.rename place)).1 = place (s.alloc k).1 ∧
    alike (s.alloc k).2 (s'.alloc (k.rename place)).2
  allocData : ∀ {s s'} v, alike s s' →
    (s'.allocData (v.rename place)).1 = place (s.allocData v).1 ∧
      alike (s.allocData v).2 (s'.allocData (v.rename place)).2
  setSlot : ∀ {s s' r} name slot, alike s s' → s.heap.Ordinary p r →
    alike { s with heap := s.heap.setSlot r name slot }
      { s' with heap := s'.heap.setSlot (place r) name (slot.rename place) }
  setOwner : ∀ {s s' r} owner, alike s s' → s.heap.Ordinary p r →
    alike { s with heap := s.heap.setOwner r owner }
      { s' with heap := s'.heap.setOwner (place r) (place owner) }
  setResult : ∀ {s s' r} result, alike s s' → s.heap.Ordinary p r →
    alike { s with heap := s.heap.setResult r result }
      { s' with heap := s'.heap.setResult (place r) (place result) }
  trace : ∀ {s s'} line, alike s s' → alike { s with trace := line :: s.trace }
    (bif silent then s' else { s' with trace := line :: s'.trace })

namespace Likeness

variable {p : Program} (L : Likeness p)

/-! ## Where two runs are -/

/-- Two runs are alike where they are, and so is what surrounds them. -/
structure At (frame frame' : Frame) (s s' : State) : Prop where
  alike : L.alike s s'
  fits : s.Fits p
  depth : frame'.depth = frame.depth
  tracing : frame'.tracing = (frame.tracing && !L.silent)
  held : ∃ refs, (∀ r ∈ refs, r.index < s.heap.size) ∧ frame.held = refs ++ L.kept ∧
    frame'.held = refs.map L.place ++ L.kept'

/-- Two runs have gone on from states to states that are alike. -/
structure Then (s s' t t' : State) : Prop where
  alike : L.alike t t'
  fits : t.Fits p
  grows : s.heap.Grows t.heap
  grows' : s'.heap.Grows t'.heap

variable {L} {frame frame' : Frame} {s s' t t' u u' : State}

theorem Then.trans (first : L.Then s s' t t') (second : L.Then t t' u u') : L.Then s s' u u' where
  alike := second.alike
  fits := second.fits
  grows := first.grows.trans second.grows
  grows' := first.grows'.trans second.grows'

theorem At.stay (here : L.At frame frame' s s') : L.Then s s' s s' :=
  ⟨here.alike, here.fits, Heap.Grows.refl _, Heap.Grows.refl _⟩

theorem At.go (here : L.At frame frame' s s') (next : L.Then s s' t t') :
    L.At frame frame' t t' where
  alike := next.alike
  fits := next.fits
  depth := here.depth
  tracing := here.tracing
  held := by
    obtain ⟨refs, exist, held, held'⟩ := here.held
    exact ⟨refs, fun r there => Nat.lt_of_lt_of_le (exist r there) next.grows.size, held, held'⟩

theorem At.holding (here : L.At frame frame' s s') {refs : List Ref}
    (exist : ∀ r ∈ refs, r.index < s.heap.size) :
    L.At (frame.holding refs) (frame'.holding (refs.map L.place)) s s' where
  alike := here.alike
  fits := here.fits
  depth := here.depth
  tracing := here.tracing
  held := by
    obtain ⟨more, exist', held, held'⟩ := here.held
    refine ⟨refs ++ more, ?_, ?_, ?_⟩
    · exact fun r there => (List.mem_append.mp there).elim (exist r) (exist' r)
    · rw [Frame.holding, held, List.append_assoc]
    · rw [Frame.holding, held', List.map_append, List.append_assoc]

theorem At.deeper (here : L.At frame frame' s s') :
    L.At { frame with depth := frame.depth + 1 } { frame' with depth := frame'.depth + 1 }
      s s' where
  alike := here.alike
  fits := here.fits
  depth := congrArg (· + 1) here.depth
  tracing := here.tracing
  held := here.held

/-! ## Failures -/

variable (L)

/-- The vertices are those of one object, where it is in the one run and in the other. -/
def SameVertex (s s' : State) (v v' : Vertex) : Prop :=
  ∃ r : Ref, r.index < s.heap.size ∧ s.heap.vertex r = v ∧ s'.heap.vertex (L.place r) = v'

/-- The subjects are one object. -/
inductive SameSubject (s s' : State) : Subject → Subject → Prop where
  | object {v v' : Vertex} (form : String) : L.SameVertex s s' v v' →
      SameSubject s s' (.object v form) (.object v' form)

inductive SameReason (s s' : State) : NoData → NoData → Prop where
  | missing : SameReason s s' .missing .missing
  | holds {o o' : Subject} : L.SameSubject s s' o o' → SameReason s s' (.holds o) (.holds o')

/-- The runs fail for the same reason, and it is one for which a run of a checked program can
fail. -/
inductive Fails (s s' : State) : Failure → Failure → Prop where
  | notYetBound {attr : String} {o o' : Subject} : L.SameSubject s s' o o' →
      Fails s s' (.notYetBound attr o) (.notYetBound attr o')
  | alreadyBound {attr : String} {o o' : Subject} : attr ≠ rho → L.SameSubject s s' o o' →
      Fails s s' (.alreadyBound attr o) (.alreadyBound attr o')
  | noSuchAttribute {attr : String} {o o' : Subject} : L.SameSubject s s' o o' →
      Fails s s' (.noSuchAttribute attr o) (.noSuchAttribute attr o')
  | notData {o o' : Subject} {reason reason' : NoData} : L.SameSubject s s' o o' →
      L.SameReason s s' reason reason' → Fails s s' (.notData o reason) (.notData o' reason')
  | typeMismatch {attr : String} (expected found : TypeTag) : attr ≠ sigma →
      Fails s s' (.typeMismatch attr expected found) (.typeMismatch attr expected found)
  | raise {v v' : Vertex} {payload : Ref} : L.SameVertex s s' v v' → s.heap.Ordinary p payload →
      Fails s s' (.raise v payload) (.raise v' (L.place payload))
  | divisionByZero (n : Int64) : Fails s s' (.divisionByZero n) (.divisionByZero n)
  | outOfBounds (index : Int64) (size : Nat) :
      Fails s s' (.outOfBounds index size) (.outOfBounds index size)
  | homeGone {o o' : Subject} : L.SameSubject s s' o o' → Fails s s' (.homeGone o) (.homeGone o')
  | during {f f' : Failure} (term : String) : Fails s s' f f' →
      Fails s s' (.during term f) (.during term f')

variable {L}

theorem SameVertex.grows {v v' : Vertex} (same : L.SameVertex s s' v v') (alike : L.alike s s')
    (next : L.Then s s' t t') : L.SameVertex t t' v v' := by
  obtain ⟨r, exist, vertex, vertex'⟩ := same
  exact ⟨r, Nat.lt_of_lt_of_le exist next.grows.size, (next.grows.vertex exist).trans vertex,
    (next.grows'.vertex (L.exist alike exist)).trans vertex'⟩

theorem SameSubject.grows {o o' : Subject} (same : L.SameSubject s s' o o') (alike : L.alike s s')
    (next : L.Then s s' t t') : L.SameSubject t t' o o' := by
  cases same with
  | object form same => exact .object form (same.grows alike next)

/-- The reason of a failure stays the same while the runs go on. -/
theorem Fails.grows {f f' : Failure} (fails : L.Fails s s' f f') (alike : L.alike s s')
    (next : L.Then s s' t t') : L.Fails t t' f f' := by
  induction fails with
  | notYetBound same => exact .notYetBound (same.grows alike next)
  | alreadyBound plain same => exact .alreadyBound plain (same.grows alike next)
  | noSuchAttribute same => exact .noSuchAttribute (same.grows alike next)
  | notData same reason =>
      refine .notData (same.grows alike next) ?_
      cases reason with
      | missing => exact .missing
      | holds found => exact .holds (found.grows alike next)
  | typeMismatch expected found plain => exact .typeMismatch expected found plain
  | raise same payload => exact .raise (same.grows alike next) (payload.grows next.grows)
  | divisionByZero n => exact .divisionByZero n
  | outOfBounds index size => exact .outOfBounds index size
  | homeGone same => exact .homeGone (same.grows alike next)
  | during term _ ih => exact .during term ih

theorem Fails.isRaise {f f' : Failure} (fails : L.Fails s s' f f') : f'.isRaise = f.isRaise := by
  cases fails <;> rfl

theorem Fails.isPlaced {f f' : Failure} (fails : L.Fails s s' f f') : f'.isPlaced = f.isPlaced := by
  cases fails <;> rfl

/-- Where objects have the same places and vertices, runs fail alike in the same failure only. -/
theorem Fails.eq {f f' : Failure} (fails : L.Fails s s' f f') (place : ∀ r, L.place r = r)
    (heap : s'.heap = s.heap) : f' = f := by
  have vertex {v v' : Vertex} (same : L.SameVertex s s' v v') : v' = v := by
    obtain ⟨r, -, rfl, rfl⟩ := same
    rw [heap, place]
  have subject {o o' : Subject} (same : L.SameSubject s s' o o') : o' = o := by
    cases same with
    | object form same => rw [vertex same]
  induction fails with
  | notYetBound same => rw [subject same]
  | alreadyBound _ same => rw [subject same]
  | noSuchAttribute same => rw [subject same]
  | notData same reason =>
      rw [subject same]
      cases reason with
      | missing => rfl
      | holds same => rw [subject same]
  | raise same _ => rw [vertex same, place]
  | homeGone same => rw [subject same]
  | during _ _ ih => rw [ih]
  | _ => rfl

theorem sameVertex {r : Ref} (exist : r.index < s.heap.size) :
    L.SameVertex s s' (s.heap.vertex r) (s'.heap.vertex (L.place r)) := ⟨r, exist, rfl, rfl⟩

/-! ## What is seen of objects that are alike -/

section

variable (here : L.At frame frame' s s') {r : Ref} (exist : r.index < s.heap.size)
include here exist

theorem At.kind : (s'.heap.cell (L.place r)).kind = (s.heap.cell r).kind.rename L.place :=
  L.kind here.alike here.fits exist

theorem At.slot? (name : String) :
    s'.heap.slot? (L.place r) name = (s.heap.slot? r name).map (Slot.rename L.place) := by
  rw [Heap.slot?, Cell.slots_of_rename (here.kind exist), Slots.find?_rename]
  rfl

theorem At.subject : L.SameSubject s s' (s.heap.subject r) (s'.heap.subject (L.place r)) := by
  rw [Heap.subject, Heap.subject, Cell.subject, Cell.subject,
    Cell.form_of_rename (here.kind exist)]
  exact .object _ (sameVertex exist)

end

/-! ## Actions that end alike -/

variable (L)

/-- The outcomes are alike, and what is said of answers holds of them. -/
inductive Ends {α : Type} (post : α → α → State → State → Prop) (s s' : State) :
    Outcome α → Outcome α → Prop where
  | answer {a a' : α} {t t' : State} : L.Then s s' t t' → post a a' t t' →
      Ends post s s' (.answer a t) (.answer a' t')
  | failure {f f' : Failure} {t t' : State} : L.Then s s' t t' → L.Fails t t' f f' →
      Ends post s s' (.failure f t) (.failure f' t')
  | unfinished {t t' : State} : L.Then s s' t t' →
      Ends post s s' (@Outcome.unfinished α t) (@Outcome.unfinished α t')
  /-- The first run is cut short where the second one leaves no trace. -/
  | cut {t : State} {o' : Outcome α} : L.silent = true → t.Fits p →
      Ends post s s' (@Outcome.unfinished α t) o'

/-- Two observations are of answers of which something holds, or of failures for the same reason. -/
inductive Seen {α : Type} (post : α → α → State → State → Prop) :
    Except Failure α → Except Failure α → State → State → Prop where
  | ok {a a' : α} {t t' : State} : post a a' t t' → Seen post (.ok a) (.ok a') t t'
  | error {f f' : Failure} {t t' : State} : L.Fails t t' f f' →
      Seen post (.error f) (.error f') t t'

variable {L} {α β : Type}

theorem Ends.after {post : α → α → State → State → Prop} {o o' : Outcome α}
    (ends : L.Ends post t t' o o') (before : L.Then s s' t t') : L.Ends post s s' o o' := by
  cases ends with
  | answer next holds => exact .answer (before.trans next) holds
  | failure next fails => exact .failure (before.trans next) fails
  | unfinished next => exact .unfinished (before.trans next)
  | cut silent fits => exact .cut silent fits

theorem Ends.weaken {post post' : α → α → State → State → Prop} {o o' : Outcome α}
    (ends : L.Ends post s s' o o')
    (weaker : ∀ {a a' t t'}, L.Then s s' t t' → post a a' t t' → post' a a' t t') :
    L.Ends post' s s' o o' := by
  cases ends with
  | answer next holds => exact .answer next (weaker next holds)
  | failure next fails => exact .failure next fails
  | unfinished next => exact .unfinished next
  | cut silent fits => exact .cut silent fits

theorem Ends.of_answer {post : α → α → State → State → Prop} {o o' : Outcome α} {a : α}
    (ends : L.Ends post s s' o o') (is : o = .answer a t) :
    ∃ a' t', L.Then s s' t t' ∧ post a a' t t' := by
  cases ends with
  | @answer a a' t t' next holds =>
      cases is
      exact ⟨a', t', next, holds⟩
  | _ => cases is

theorem Ends.of_failure {post : α → α → State → State → Prop} {o o' : Outcome α} {f : Failure}
    (ends : L.Ends post s s' o o') (is : o = .failure f t) :
    ∃ f' t', L.Then s s' t t' ∧ L.Fails t t' f f' := by
  cases ends with
  | @failure f f' t t' next fails =>
      cases is
      exact ⟨f', t', next, fails⟩
  | _ => cases is

theorem At.answer (here : L.At frame frame' s s') {post : α → α → State → State → Prop} {a a' : α}
    (holds : post a a' s s') : L.Ends post s s' (.answer a s) (.answer a' s') :=
  .answer here.stay holds

theorem At.failure (here : L.At frame frame' s s') {post : α → α → State → State → Prop}
    {f f' : Failure} (fails : L.Fails s s' f f') :
    L.Ends post s s' (.failure f s) (.failure f' s') :=
  .failure here.stay fails

/-- What only looks at the states leaves the runs where they are. -/
theorem Ends.reads {post : β → β → State → State → Prop} {x x' : Action α} {a a' : α}
    {k k' : α → Action β} (first : x frame s = .answer a s) (second : x' frame' s' = .answer a' s')
    (rest : L.Ends post s s' (k a frame s) (k' a' frame' s')) :
    L.Ends post s s' ((x >>= k) frame s) ((x' >>= k') frame' s') := by
  rwa [bind_of_answer first, bind_of_answer second]

/-- What goes on alike from answers that are alike ends alike. -/
theorem At.bind (here : L.At frame frame' s s') {mid : α → α → State → State → Prop}
    {post : β → β → State → State → Prop} {x x' : Action α} {k k' : α → Action β}
    (first : L.Ends mid s s' (x frame s) (x' frame' s'))
    (rest : ∀ {a a' t t'}, L.At frame frame' t t' → L.Then s s' t t' → mid a a' t t' →
      L.Ends post t t' (k a frame t) (k' a' frame' t')) :
    L.Ends post s s' ((x >>= k) frame s) ((x' >>= k') frame' s') := by
  rw [bind_apply, bind_apply]
  generalize x frame s = o at first ⊢
  generalize x' frame' s' = o' at first ⊢
  cases first with
  | answer next holds => exact (rest (here.go next) next holds).after next
  | failure next fails => exact .failure next fails
  | unfinished next => exact .unfinished next
  | cut silent fits => exact .cut silent fits

/-- What goes on alike from observations that are alike ends alike. -/
theorem At.recover (here : L.At frame frame' s s') {mid : α → α → State → State → Prop}
    {post : β → β → State → State → Prop} {x x' : Action α} {k k' : Except Failure α → Action β}
    (first : L.Ends mid s s' (x frame s) (x' frame' s'))
    (rest : ∀ {e e' t t'}, L.At frame frame' t t' → L.Then s s' t t' → L.Seen mid e e' t t' →
      L.Ends post t t' (k e frame t) (k' e' frame' t')) :
    L.Ends post s s' ((observe x >>= k) frame s) ((observe x' >>= k') frame' s') := by
  rw [bind_apply, bind_apply, observe, observe]
  generalize x frame s = o at first ⊢
  generalize x' frame' s' = o' at first ⊢
  cases first with
  | answer next holds => exact (rest (here.go next) next (.ok holds)).after next
  | failure next fails => exact (rest (here.go next) next (.error fails)).after next
  | unfinished next => exact .unfinished next
  | cut silent fits => exact .cut silent fits

/-- What keeps objects in use that correspond ends alike if it does with them in use. -/
theorem At.hold (here : L.At frame frame' s s') {refs refs' : List Ref}
    (exist : ∀ r ∈ refs, r.index < s.heap.size) (same : refs' = refs.map L.place)
    {post : α → α → State → State → Prop} {x x' : Action α}
    (rest : ∀ {frame frame'}, L.At frame frame' s s' →
      L.Ends post s s' (x frame s) (x' frame' s')) :
    L.Ends post s s' (hold refs x frame s) (hold refs' x' frame' s') := by
  subst same
  exact rest (here.holding exist)

theorem At.observe (here : L.At frame frame' s s') {mid : α → α → State → State → Prop}
    {x x' : Action α} (ends : L.Ends mid s s' (x frame s) (x' frame' s')) :
    L.Ends (L.Seen mid) s s' (observe x frame s) (observe x' frame' s') := by
  rw [← bind_pure_self (Action.observe x), ← bind_pure_self (Action.observe x')]
  exact here.recover ends fun here _ seen => here.answer seen

theorem At.conclude (here : L.At frame frame' s s') {post : α → α → State → State → Prop}
    {e e' : Except Failure α} (seen : L.Seen post e e' s s') :
    L.Ends post s s' (conclude e frame s) (conclude e' frame' s') := by
  cases seen with
  | ok holds => exact here.answer holds
  | error fails => exact here.failure fails

end Likeness

end PhiCalculus
