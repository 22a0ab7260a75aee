import PhiCalculus.Proofs.Reaching
import PhiCalculus.Proofs.Soundness

/-!
# Calls in runs of checked programs

A run that is alike to itself ends in one way only, so what is done in a run depends on no request
that could not be made in one (`Call.Fits.of_dependsOn`).  From call to call, everything that is
done while a checked program runs is then about ordinary objects, in a state of the run
(`Call.Inside.fits`).
-/

set_option autoImplicit false

namespace PhiCalculus

open PhiCalculus.Action

/-! ## What is done in a run -/

namespace Likeness

variable {p : Program} {kept : List Ref} {s t : State}

/-- A run is alike to itself only where it is. -/
theorem At.eq {frame frame' : Frame} (here : (Likeness.same p kept).At frame frame' s t) :
    frame' = frame ∧ t = s := by
  obtain ⟨refs, -, held, held'⟩ := here.held
  refine ⟨?_, here.alike⟩
  obtain ⟨depth, tracing, more⟩ := frame
  obtain ⟨depth', tracing', more'⟩ := frame'
  cases here.depth
  cases here.tracing.trans (Bool.and_true _)
  rw [show refs.map (Likeness.same p kept).place = refs from List.map_id refs] at held'
  exact congrArg (Frame.mk _ _) (held'.trans held.symm)

/-- A run that is alike to itself ends in the same way. -/
theorem Ends.eq {α : Type} {post : α → α → State → State → Prop} {o o' : Outcome α}
    (ends : (Likeness.same p kept).Ends post s s o o')
    (same : ∀ {a a' t}, post a a' t t → a' = a) : o' = o := by
  cases ends with
  | answer next holds =>
      cases next.alike
      rw [same holds]
  | failure next fails =>
      cases next.alike
      rw [fails.eq (fun _ => rfl) rfl]
  | unfinished next =>
      cases next.alike
      rfl
  | cut silent _ => cases silent

end Likeness

/-- What is done is about ordinary objects, as in a run of the program. -/
def Activity.Fits {α : Type} (p : Program) (h : Heap) : Activity α → Prop
  | .operation (.global _) => True
  | .operation _ => False
  | .request q => q.Fits p h
  | .main r => h.Ordinary p r
  | .handler r payload => h.Ordinary p r ∧ h.Ordinary p payload
  | .final r => h.Ordinary p r

/-- The call is made in a run of the program. -/
structure Call.Fits (p : Program) (c : Call) : Prop where
  state : c.state.Fits p
  activity : c.activity.Fits p c.state.heap

section

variable {p : Program} {frame around : Frame} {s t : State}

/-- What is done in a run ends in the same way, if requests that can be made in a run do. -/
theorem Activity.run_eq {α : Type} {a : Activity α} (fits : s.Fits p) (about : a.Fits p s.heap)
    {ask ask' : Answerer} (asked : (Likeness.same p frame.held).Asks ask ask') :
    a.run ask' frame s = a.run ask frame s := by
  have here := Likeness.at_same fits frame
  have value {v v' : Value} {t : State} (same : (Likeness.same p frame.held).SameValue v v' t) :
      v' = v := same.1.trans v.rename_id
  cases a with
  | operation op =>
      cases op with
      | global name =>
          cases global : s.global? name with
          | none =>
              show (asks _ >>= _) frame s = (asks _ >>= _) frame s
              rw [bind_of_answer (asks_apply _ _ _), bind_of_answer (asks_apply _ _ _), global]
          | some root =>
              exact (Likeness.alike_globalValue asked here (fits.isSome_global? global)).eq value
      | _ => cases about
  | request q =>
      have ends := Likeness.alike_answer asked q here about
      rw [show q.rename (Likeness.same p frame.held).place = q from q.rename_id] at ends
      refine ends.eq fun {a a' t} same => ?_
      cases q with
      | find r name => exact same.1.trans a.rename_id
      | read place => exact same.1.1
      | resolve r => exact same.1.1
      | dataize r => exact value same.1
      | eval e self => exact same.1.1
  | main r => exact (Likeness.alike_runMain asked here about).eq value
  | handler r payload => exact (Likeness.alike_runCatch asked here about.1 about.2).eq value
  | final r => exact (Likeness.alike_runFinally asked here about).eq fun _ => rfl

/-- A request on which something in a run depends can be made in a run. -/
theorem Call.Fits.of_dependsOn {α β : Type} {a : Activity α} {steps : Nat} {q : Request β}
    (fits : s.Fits p) (about : a.Fits p s.heap)
    (depends : DependsOn (fun ask => a.run ask) (answerWithin steps) frame s q around t) :
    t.Fits p ∧ q.Fits p t.heap := by
  obtain ⟨ask', same, differs⟩ := depends
  by_contra out
  refine differs (Activity.run_eq fits about ?_)
  -- the two ways to answer only differ where nothing in a run is asked
  intro γ q' around' around'' t' t'' here fits'
  have alike := (Likeness.same p frame.held).asks_answerWithin steps q' here fits'
  obtain ⟨rfl, rfl⟩ := here.eq
  have agrees : ask' q' around'' t'' = answerWithin steps q' around'' t'' := by
    refine same q' around'' t'' fun there => ?_
    cases there
    exact out ⟨here.fits, fits'⟩
  rw [show q'.rename (Likeness.same p frame.held).place = q' from q'.rename_id] at alike ⊢
  show Likeness.Ends _ _ _ _ _ (ask' q' around'' t'')
  rw [agrees]
  exact alike

theorem Likeness.asks_same (p : Program) (kept : List Ref) (steps : Nat) :
    (Likeness.same p kept).Asks (answerWithin steps) (answerWithin steps) :=
  (Likeness.same p kept).asks_answerWithin steps

/-- **What is done right inside a call of a run is done in the run.** -/
theorem Call.Makes.fits {c d : Call} (makes : c.Makes d) (fits : c.Fits p) : d.Fits p := by
  cases makes with
  | request other depends =>
      obtain ⟨state, activity⟩ := Call.Fits.of_dependsOn fits.state fits.activity depends
      exact ⟨state, activity⟩
  | main => exact ⟨fits.state, fits.activity.1⟩
  | @handler r payload steps frame s t mainRaised =>
      have state : s.Fits p := fits.state
      have ordinary : s.heap.Ordinary p r := fits.activity.1
      have here := Likeness.at_same state (frame.holding [r])
      have mains := Likeness.alike_runMain (Likeness.asks_same p _ steps) here ordinary
      obtain ⟨f', t', next, fails⟩ := mains.of_failure mainRaised
      cases fails with
      | raise _ payload => exact ⟨next.fits, ordinary.grows next.grows, payload⟩
  | @final r steps frame s s₁ s₂ main outcome mainEnds handled =>
      have state : s.Fits p := fits.state
      have ordinary : s.heap.Ordinary p r := fits.activity.1
      have here := Likeness.at_same state (frame.holding [r])
      have mains := Likeness.alike_runMain (Likeness.asks_same p _ steps) here ordinary
      obtain ⟨main', t', next, seen⟩ :=
        (here.observe mains).of_answer (ends_observe.mpr ⟨main, rfl, mainEnds⟩)
      have ordinary := ordinary.grows next.grows
      have handles :=
        Likeness.alike_handle (Likeness.asks_same p _ steps) (here.go next) ordinary seen
      obtain ⟨outcome', u', next', -⟩ := handles.of_answer handled
      exact ⟨next'.fits, ordinary.grows next'.grows⟩

/-- **What is done inside a call of a run is done in the run.** -/
theorem Call.Inside.fits {c d : Call} (inside : c.Inside d) (fits : c.Fits p) : d.Fits p := by
  induction inside with
  | refl => exact fits
  | tail _ makes ih => exact makes.fits ih

/-! ## Runs one after the other -/

theorem Likeness.Ends.fits {L : Likeness p} {α : Type} {post : α → α → State → State → Prop}
    {s' : State} {o o' : Outcome α} (ends : L.Ends post s s' o o') : o.state.Fits p := by
  cases ends with
  | answer next _ => exact next.fits
  | failure next _ => exact next.fits
  | unfinished next => exact next.fits
  | cut _ fits => exact fits

theorem globalValue_of_unknown {name : String} (unknown : s.global? name = none) (ask : Answerer)
    (frame : Frame) :
    globalValue ask name frame s = .failure (.noSuchAttribute name .globals) s := by
  show (asks _ >>= _) frame s = _
  rw [bind_of_answer (asks_apply _ _ _), unknown]
  rfl

theorem dataizeGlobal_of_unknown {name : String} (unknown : s.global? name = none)
    (frame : Frame) : dataizeGlobal name frame s = .failure (.noSuchAttribute name .globals) s :=
  globalValue_of_unknown unknown evaluate frame

/-- Dataizing a global object, or a name that is not global, leads to another state of a run, if
requests are answered as in a run. -/
theorem State.Fits.globalValue (fits : s.Fits p) {ask : Answerer}
    (asked : (Likeness.same p frame.held).Asks ask ask) (name : String) :
    (globalValue ask name frame s).state.Fits p := by
  cases global : s.global? name with
  | none =>
      rw [globalValue_of_unknown global]
      exact fits
  | some root =>
      exact (Likeness.alike_globalValue asked (Likeness.at_same fits frame)
        (fits.isSome_global? global)).fits

theorem State.Fits.dataizeGlobal (fits : s.Fits p) (name : String) (frame : Frame) :
    (dataizeGlobal name frame s).state.Fits p :=
  fits.globalValue (Likeness.asks_same p frame.held stepLimit) name

/-- **However many global objects are dataized, the state stays one of a run.** -/
theorem State.Fits.dataizing (fits : s.Fits p) (frame : Frame) (names : List String) :
    (s.dataizing frame names).Fits p := by
  induction names generalizing s with
  | nil => exact fits
  | cons name rest ih => exact ih (fits.dataizeGlobal name frame)

/-- The run of a global object, after runs of others. -/
def Program.runOf (p : Program) (earlier : List String) (frame : Frame) (root : String)
    (steps : Nat) : Call :=
  ⟨.operation (.global root), steps, frame, p.base.dataizing frame earlier⟩

/-- In every call of a run of a checked program, the state is one of a run. -/
theorem Program.fits_of_inside (checked : p.check = .ok ()) {earlier : List String}
    {root : String} {steps : Nat} {c : Call}
    (inside : (p.runOf earlier frame root steps).Inside c) : c.Fits p :=
  Call.Inside.fits inside ⟨(p.fits_base checked).dataizing frame earlier, trivial⟩

/-! ## Terms in runs -/

/-- In a run, what a view results in is no view. -/
theorem State.Fits.settled (fits : s.Fits p) : s.heap.Settled :=
  fun _ _ x kind => ((fits.view kind).2 x rfl).2

/-- **Terms end unless they are circular.**  At any moment of any run of a checked program, the term
of an object ends if and only if nothing in it is shown within itself.  A circle leads through an
array.  Where no more than `k` arrays lie one within the other, fewer than `20 * (k + 1)` renderings
are nested. -/
theorem Program.terms_end_unless_circular (checked : p.check = .ok ()) {earlier : List String}
    {root : String} {steps : Nat} {c : Call}
    (inside : (p.runOf earlier frame root steps).Inside c) (r : Ref) :
    ((c.state.heap.term? r).isSome = true ↔ ¬ c.state.heap.Circular r) ∧
      (∀ q, c.state.heap.Loops q → ∃ q', Relation.ReflTransGen c.state.heap.Shows q q' ∧
        Relation.ReflTransGen c.state.heap.Shows q' q ∧ c.state.heap.IsArray q'.2) ∧
      ∀ k, c.state.heap.Nests k (0, r) →
        (c.state.heap.termAt (20 * (k + 1)) 0 r).isSome = true := by
  have settled := (Program.fits_of_inside checked inside).state.settled
  exact ⟨Heap.isSome_term?_iff, fun _ loops => loops.array settled,
    fun _ nests => nests.isSome_termAt settled⟩

end

/-- A program whose value is an array that contains the object of which it is the value. -/
def Program.circular : Program where
  name := "app"
  objects := [.abstraction (some "app") 1 []
    [.application (some "@") 2 .array [.application none 3 .xi [] false false] false false]]

/-- Whether the answer is a value that has no term. -/
def Outcome.isEndless : Outcome Value → Bool
  | answer v t => (t.heap.valueTerm? v).isNone
  | _ => false

/-- The program passes its check and runs, but its value has no term. -/
theorem Program.circular_has_no_term : Program.circular.check = .ok () ∧
    ∃ v t, Program.circular.run none false = .ok (.answer v t) ∧ t.heap.valueTerm? v = none := by
  refine ⟨by decide, ?_⟩
  have endless : (Program.circular.run none false).toOption.map Outcome.isEndless = some true := by
    decide +kernel
  cases runs : Program.circular.run none false with
  | error fault =>
      rw [runs] at endless
      cases endless
  | ok outcome =>
      rw [runs] at endless
      cases outcome with
      | answer v t => exact ⟨v, t, rfl, Option.isNone_iff_eq_none.mp (Option.some.inj endless)⟩
      | failure f t => cases endless
      | unfinished => cases endless

/-- The object that the array contains is shown within itself. -/
theorem Program.circular_is_circular :
    (Program.circular.base.dataizing {} ["app"]).heap.Circular ⟨2⟩ := by
  have inside : (Program.circular.runOf ["app"] {} "app" 0).Inside
      (Program.circular.runOf ["app"] {} "app" 0) := .refl
  have endless : ((Program.circular.base.dataizing {} ["app"]).heap.term? ⟨2⟩).isSome = false := by
    decide +kernel
  by_contra circular
  have ends := (Program.terms_end_unless_circular (by decide) inside ⟨2⟩).1.mpr circular
  exact Bool.false_ne_true (endless.symm.trans ends)

end PhiCalculus
