import PhiCalculus.Proofs.Calls

/-!
# The trace only observes

A run may leave a line in the trace for every dataization that succeeds.  To write that line, terms
of objects are rendered in the midst of the run, so they must not change what they show: rendering
leaves everything but the trace as it is (`rendering_only_looks`).  So a run that leaves a trace
ends as it would without one, in the same value or failure and with the same objects and vertices,
unless a term that has no end cuts it short (`Program.trace_only_observes`).
-/

set_option autoImplicit false

namespace PhiCalculus

open PhiCalculus.Action

/-! ## Without the trace -/

/-- A state but for its trace. -/
def State.untraced (s : State) : State := { s with trace := [] }

/-- An outcome but for the trace of its state. -/
def Outcome.untraced {α : Type} : Outcome α → Outcome α
  | answer a t => answer a t.untraced
  | failure f t => failure f t.untraced
  | @unfinished _ t => @unfinished _ t.untraced

theorem State.eq_of_untraced {s s' : State} (same : s'.untraced = s.untraced) :
    s' = { s with trace := s'.trace } := by
  obtain ⟨heap, registry, globals, counters, trace⟩ := s
  obtain ⟨heap', registry', globals', counters', trace'⟩ := s'
  cases same
  rfl

/-- A run, and the same run without a trace. -/
def Likeness.untraced (p : Program) (kept : List Ref) : Likeness p where
  place := id
  alike s s' := s'.untraced = s.untraced
  kept := kept
  kept' := kept
  silent := true
  kind same _ _ := by rw [State.eq_of_untraced same, Kind.rename_id]; rfl
  exist same exist := by rw [State.eq_of_untraced same]; exact exist
  later := later_id p
  vertex same _ _ := by rw [State.eq_of_untraced same]; rfl
  global? name same := by rw [State.eq_of_untraced same, Option.map_id]; rfl
  isAlive same _ _ _ := by rw [State.eq_of_untraced same, List.map_id]; rfl
  term? same _ _ := by rw [State.eq_of_untraced same]; rfl
  alloc k same := by rw [State.eq_of_untraced same, Kind.rename_id]; exact ⟨rfl, rfl⟩
  allocData v same := by rw [State.eq_of_untraced same, Value.rename_id]; exact ⟨rfl, rfl⟩
  setSlot name slot same _ := by rw [State.eq_of_untraced same, Slot.rename_id]; rfl
  setOwner owner same _ := by rw [State.eq_of_untraced same]; rfl
  setResult result same _ := by rw [State.eq_of_untraced same]; rfl
  trace line same := same

variable {p : Program} {s : State}

/-- A run that leaves a trace ends as it does without one, or it is cut short. -/
theorem dataizeGlobal_untraced (fits : s.Fits p) (name : String) (frame : Frame) :
    (∃ t, dataizeGlobal name { frame with tracing := true } s = @Outcome.unfinished _ t) ∨
      (dataizeGlobal name { frame with tracing := false } s).untraced =
        (dataizeGlobal name { frame with tracing := true } s).untraced := by
  cases global : s.global? name with
  | none =>
      rw [dataizeGlobal_of_unknown global, dataizeGlobal_of_unknown global]
      exact .inr rfl
  | some root =>
      have here : (Likeness.untraced p frame.held).At { frame with tracing := true }
          { frame with tracing := false } s s := ⟨rfl, fits, rfl, rfl, [], nofun, rfl, rfl⟩
      have ends := Likeness.alike_globalValue
        ((Likeness.untraced p frame.held).asks_answerWithin stepLimit) here
        (fits.isSome_global? global)
      unfold dataizeGlobal evaluate
      generalize globalValue _ name { frame with tracing := true } s = o at ends ⊢
      generalize globalValue _ name { frame with tracing := false } s = o' at ends ⊢
      cases ends with
      | @answer v v' t t' next same =>
          have value : v' = v := same.1.trans v.rename_id
          have state : t'.untraced = t.untraced := next.alike
          exact .inr (by rw [Outcome.untraced, Outcome.untraced, value, state])
      | @failure f f' t t' next fails =>
          have state : t'.untraced = t.untraced := next.alike
          have heap : t'.heap = t.heap := by rw [State.eq_of_untraced state]
          have failure : f' = f := fails.eq (fun _ => rfl) heap
          exact .inr (by rw [Outcome.untraced, Outcome.untraced, failure, state])
      | unfinished => exact .inl ⟨_, rfl⟩
      | cut => exact .inl ⟨_, rfl⟩

/-! ## Rendering -/

/-- Nothing but the trace is another one in the second state: the objects with what is in them, the
vertices, the global objects and the counters are the same. -/
def State.SameButTrace (s t : State) : Prop := t.untraced = s.untraced

namespace Action

variable {α β : Type}

/-- The action changes nothing but the trace, whatever it ends in. -/
abbrev OnlyTraces (x : Action α) : Prop := x.Moves State.SameButTrace

theorem OnlyTraces.of_state {x : Action α} (same : ∀ frame s, (x frame s).state = s) :
    x.OnlyTraces :=
  fun frame s => congrArg State.untraced (same frame s)

theorem OnlyTraces.bind {x : Action α} {f : α → Action β} (first : x.OnlyTraces)
    (rest : ∀ a, (f a).OnlyTraces) : OnlyTraces (x >>= f) :=
  Moves.bind (fun _ _ _ one two => two.trans one) first rest

/-- A term is rendered, or the action is cut short. -/
theorem onlyTraces_finite (f : State → Option α) : (finite f).OnlyTraces :=
  .of_state fun _ s => by
    rw [finite]
    cases f s <;> rfl

end Action

open PhiCalculus.Action

theorem onlyTraces_leaveLine (depth : Nat) (r : Ref) (v : Value) :
    (leaveLine depth r v).OnlyTraces :=
  (onlyTraces_finite _).bind fun _ => (onlyTraces_finite _).bind fun _ _ _ => rfl

theorem onlyTraces_place (r : Ref) (f : Failure) : (place r f).OnlyTraces := by
  rw [place]
  split
  · exact .of_state fun _ _ => rfl
  · exact (onlyTraces_finite _).bind fun _ => .of_state fun _ _ => rfl

theorem onlyTraces_shownValue (v : Value) : (shownValue v).OnlyTraces :=
  (onlyTraces_finite _).bind fun _ => .of_state fun _ _ => rfl

theorem onlyTraces_describeObject (r : Ref) : (describeObject r).OnlyTraces :=
  OnlyTraces.bind (.of_state fun _ _ => rfl) fun _ =>
    (onlyTraces_finite _).bind fun _ => .of_state fun _ _ => rfl

/-- **The trace only observes.**  A checked program that is run with a trace has the same fault as
without one, or ends in the same value or failure with the same objects, vertices and global
objects, unless the run with a trace does not end.  All that renders terms, for a line of the trace,
for a failure or for a reader, changes nothing but the trace. -/
theorem Program.trace_only_observes (checked : p.check = .ok ()) (root : Option String) :
    ((∃ t, p.run root true = .ok (@Outcome.unfinished _ t)) ∨
      (p.run root false).map Outcome.untraced = (p.run root true).map Outcome.untraced) ∧
    (∀ depth r v, (leaveLine depth r v).OnlyTraces) ∧ (∀ r f, (place r f).OnlyTraces) ∧
    (∀ v, (shownValue v).OnlyTraces) ∧ ∀ r, (describeObject r).OnlyTraces := by
  refine ⟨?_, onlyTraces_leaveLine, onlyTraces_place, onlyTraces_shownValue,
    onlyTraces_describeObject⟩
  rw [run_of_checked checked, run_of_checked checked]
  cases p.root root with
  | error fault => exact .inr rfl
  | ok name =>
      rcases dataizeGlobal_untraced (p.fits_base checked) name {} with ⟨t, cut⟩ | same
      · exact .inl ⟨t, congrArg Except.ok cut⟩
      · exact .inr (congrArg Except.ok same)

/-- The division fails in the same failure with and without a trace. -/
theorem Program.dividing_fails_untraced :
    (Program.dividing.run none false).toOption.bind Outcome.failure? =
      (Program.dividing.run none true).toOption.bind Outcome.failure? := by
  have failure {o : Except TreeFault (Outcome Value)} :
      (o.map Outcome.untraced).toOption.bind Outcome.failure? =
        o.toOption.bind Outcome.failure? := by
    rcases o with fault | ⟨v, t⟩ | ⟨f, t⟩ | t <;> rfl
  rcases (Program.dividing.trace_only_observes (by decide) none).1 with ⟨t, cut⟩ | same
  · have fails : ((Program.dividing.run none true).toOption.bind Outcome.failure?).isSome = true :=
      by decide +kernel
    rw [cut] at fails
    cases fails
  · rw [← failure, same, failure]

end PhiCalculus
