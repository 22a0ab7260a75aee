import PhiCalculus.Proofs.Calls
import PhiCalculus.Proofs.EarlierRuns

/-!
# Runs do not influence each other

A program may be run any number of times on one runtime, at any of its global objects
(`Program.Ran`).  A run that comes after others ends as it would have ended as the first one: in a
value of the same type with the same term, or in the same failure.  The two differ only in the
vertices of objects, and so in the messages that show them (`Program.runs_are_independent`).

When a run begins, the heap has the prototypes as they were, and the objects of earlier runs after
them.  So it goes the same way as the first run, among those objects (`State.Fits.at_among`).
-/

set_option autoImplicit false

namespace PhiCalculus

/-! ## Failures without vertices -/

/-- A subject without its vertex. -/
def Subject.unnumbered : Subject → Subject
  | object _ form => object default form
  | globals => globals

def NoData.unnumbered : NoData → NoData
  | missing => missing
  | holds found => holds found.unnumbered

namespace Failure

/-- A failure without the vertices of objects and without what a raise carries. -/
def unnumbered : Failure → Failure
  | notYetBound attr object => notYetBound attr object.unnumbered
  | alreadyBound attr object => alreadyBound attr object.unnumbered
  | noSuchAttribute attr object => noSuchAttribute attr object.unnumbered
  | notData object reason => notData object.unnumbered reason.unnumbered
  | raise _ _ => raise default default
  | homeGone object => homeGone object.unnumbered
  | during term source => during term source.unnumbered
  | f => f

/-- The term of the object that was being dataized, if the failure has it. -/
def term? : Failure → Option String
  | during term _ => some term
  | _ => none

/-- The failures are of one kind, arose while an object with the same term was being dataized, and
differ only in vertices. -/
structure Matches (f f' : Failure) : Prop where
  kind : f'.kind = f.kind
  term : f'.term? = f.term?
  unnumbered : f'.unnumbered = f.unnumbered

end Failure

namespace Likeness

variable {p : Program} {L : Likeness p} {s s' : State}

theorem SameSubject.unnumbered {o o' : Subject} (same : L.SameSubject s s' o o') :
    o'.unnumbered = o.unnumbered := by
  cases same with
  | object form _ => rfl

/-- Runs that are alike fail in failures that match. -/
theorem Fails.matches {f f' : Failure} (fails : L.Fails s s' f f') : f.Matches f' := by
  induction fails with
  | notYetBound same => exact ⟨rfl, rfl, by simp only [Failure.unnumbered, same.unnumbered]⟩
  | alreadyBound _ same => exact ⟨rfl, rfl, by simp only [Failure.unnumbered, same.unnumbered]⟩
  | noSuchAttribute same => exact ⟨rfl, rfl, by simp only [Failure.unnumbered, same.unnumbered]⟩
  | notData same reason =>
      refine ⟨rfl, rfl, ?_⟩
      cases reason with
      | missing => simp only [Failure.unnumbered, same.unnumbered]
      | holds found =>
          simp only [Failure.unnumbered, NoData.unnumbered, same.unnumbered, found.unnumbered]
  | homeGone same => exact ⟨rfl, rfl, by simp only [Failure.unnumbered, same.unnumbered]⟩
  | during term _ ih => exact ⟨ih.kind, rfl, congrArg (Failure.during term) ih.unnumbered⟩
  | _ => exact ⟨rfl, rfl, rfl⟩

end Likeness

/-! ## One run after others -/

/-- The state of a runtime after the program was run any number of times, each time at any name and
with whatever end. -/
inductive Program.Ran (p : Program) : State → Prop where
  | base : Ran p p.base
  | run {s : State} (name : String) (frame : Frame) : Ran p s →
      Ran p (dataizeGlobal name frame s).state

variable {p : Program} {s start : State}

theorem Program.Ran.fits (ran : p.Ran s) (checked : p.check = .ok ()) : s.Fits p := by
  induction ran with
  | base => exact p.fits_base checked
  | run name frame _ ih => exact ih.dataizeGlobal name frame

theorem Program.Ran.numbered (ran : p.Ran s) : s.Numbered := by
  induction ran with
  | base => exact p.numbered_base
  | run name frame _ ih => exact ih.dataizeGlobal name frame

theorem Program.Ran.dataizing (ran : p.Ran s) (frame : Frame) (names : List String) :
    p.Ran (s.dataizing frame names) := by
  induction names generalizing s with
  | nil => exact ran
  | cons name rest ih => exact ih (ran.run name frame)

/-- **Runs do not influence each other.**  If the first run of a checked program at some name ends,
then so does the run after any number of others, whatever objects of theirs are still in use: in a
value of the same type with the same term, or in a failure that matches. -/
theorem Program.runs_are_independent (checked : p.check = .ok ()) (ran : p.Ran s) (name : String)
    {frame : Frame} (exist : ∀ r ∈ frame.held, r.index < s.heap.size) :
    (∀ v t, dataizeGlobal name { frame with held := [] } p.base = .answer v t →
      ∃ v' t', dataizeGlobal name frame s = .answer v' t' ∧ v'.tag = v.tag ∧
        t'.heap.valueTerm? v' = t.heap.valueTerm? v) ∧
    ∀ f t, dataizeGlobal name { frame with held := [] } p.base = .failure f t →
      ∃ f' t', dataizeGlobal name frame s = .failure f' t' ∧ f.Matches f' := by
  have fits := ran.fits checked
  have here := fits.at_among ran.numbered exist
  cases global : p.base.global? name with
  | none =>
      have unknown : s.global? name = none := by rw [State.global?, fits.globals]; exact global
      rw [dataizeGlobal_of_unknown global, dataizeGlobal_of_unknown unknown]
      constructor
      · intro v t answered
        cases answered
      · intro f t failed
        cases failed
        exact ⟨_, _, rfl, rfl, rfl, rfl⟩
  | some root =>
      have ends := Likeness.alike_globalValue
        ((Likeness.among fits frame.held exist).asks_answerWithin stepLimit) here
        (Option.isSome_iff_exists.mpr ⟨root, global⟩)
      constructor
      · intro v t answered
        rw [show globalValue (answerWithin stepLimit) name _ _ = _ from answered] at ends
        generalize again : globalValue (answerWithin stepLimit) name frame s = outcome at ends
        cases ends with
        | answer next same =>
            obtain ⟨rfl, items⟩ := same
            exact ⟨_, _, again, Value.tag_rename v,
              Likeness.alike_valueTerm? (here.go next) items⟩
      · intro f t failed
        rw [show globalValue (answerWithin stepLimit) name _ _ = _ from failed] at ends
        generalize again : globalValue (answerWithin stepLimit) name frame s = outcome at ends
        cases ends with
        | failure _ fails => exact ⟨_, _, again, fails.matches⟩

/-- The division by zero fails again when it runs a second time, with the same term. -/
theorem Program.dividing_fails_again :
    ∃ f t, dataizeGlobal "app" {} (Program.dividing.base.dataizing {} ["app"]) = .failure f t ∧
      f.kind = .general ∧ f.term? = some "app⟦φ ↦ int.div⟦x ↦ 0, φ ↦ λ⟧⟧" := by
  have first : (dataizeGlobal "app" {} Program.dividing.base).failure?.map
      (fun f => (f.kind, f.term?)) = some (.general, some "app⟦φ ↦ int.div⟦x ↦ 0, φ ↦ λ⟧⟧") := by
    decide +kernel
  have ran : Program.dividing.Ran (Program.dividing.base.dataizing {} ["app"]) :=
    Program.Ran.base.dataizing {} ["app"]
  have held : ∀ r ∈ ({} : Frame).held, r.index <
      (Program.dividing.base.dataizing {} ["app"]).heap.size := nofun
  have again := (Program.dividing.runs_are_independent (by decide) ran "app" held).2
  cases runs : dataizeGlobal "app" {} Program.dividing.base with
  | answer v t => rw [runs] at first; cases first
  | unfinished => rw [runs] at first; cases first
  | failure f t =>
      rw [runs] at first
      obtain ⟨kind, term⟩ := Prod.mk.inj (Option.some.inj first)
      obtain ⟨f', t', fails, same⟩ := again f t runs
      exact ⟨f', t', fails, same.kind.trans kind, same.term.trans term⟩

end PhiCalculus
