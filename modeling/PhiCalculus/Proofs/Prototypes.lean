import PhiCalculus.Proofs.Independence

/-!
# Global objects stay prototypes

The global objects of a program are made when it is loaded, and runs only copy them.  At every
moment of every run of a checked program (`Program.Reached`) a global object is the one that was
installed, with nothing in its slots, nothing computed and no owner
(`Program.globals_stay_prototypes`).

To speak about the moments of a run, it may be cut short where a request starts or has ended
(`answeredUntil`).  A run that is cut short is still alike to itself, so its state is one of a run
(`Program.Reached.fits`), and such a state has the prototypes as they were.
-/

set_option autoImplicit false

namespace PhiCalculus

open PhiCalculus.Action

/-! ## Runs that are cut short -/

namespace Likeness

variable {p : Program} {kept : List Ref} {frame frame' : Frame} {s s' : State}

/-- A run and itself are cut short in the same states. -/
theorem alike_pause (here : (Likeness.same p kept).At frame frame' s s') (stop : State → Bool) :
    (Likeness.same p kept).Ends (fun _ _ t t' => t = s ∧ t' = s') s s' (pause stop frame s)
      (pause stop frame' s') := by
  have same : s' = s := here.alike
  rw [pause, pause, same]
  split
  · exact .unfinished (same ▸ here.stay)
  · exact .answer (same ▸ here.stay) ⟨rfl, rfl⟩

theorem alike_stoppable {α : Type} (here : (Likeness.same p kept).At frame frame' s s')
    (stop : State → Bool) {post : α → α → State → State → Prop} {x x' : Action α}
    (ends : (Likeness.same p kept).Ends post s s' (x frame s) (x' frame' s')) :
    (Likeness.same p kept).Ends post s s' (stoppable stop x frame s)
      (stoppable stop x' frame' s') := by
  refine here.bind (alike_pause here stop) ?_
  rintro _ _ _ _ - - ⟨rfl, rfl⟩
  refine here.recover ends fun {e e' t t'} here next seen => ?_
  refine here.bind (alike_pause here stop) ?_
  rintro _ _ _ _ - - ⟨rfl, rfl⟩
  exact here.conclude seen

/-- **A run and itself answer alike until they are cut short.** -/
theorem asks_answeredUntil (p : Program) (kept : List Ref) (stop : State → Bool) (steps : Nat) :
    (Likeness.same p kept).Asks (answeredUntil .ofExpressions stop steps)
      (answeredUntil .ofExpressions stop steps) := by
  induction steps with
  | zero => exact fun _ _ _ _ _ here _ => .unfinished here.stay
  | succ steps ih =>
      intro α q frame frame' s s' here fits
      refine alike_stoppable here stop ?_
      have answered := alike_answer ih q here fits
      cases q <;> exact answered

end Likeness

/-- The state of a runtime after it ran the program any number of times, or inside one more run,
which is cut short where a request starts or has ended. -/
inductive Program.Reached (p : Program) : State → Prop where
  | between {s : State} : p.Ran s → Reached p s
  | inside {s : State} (stop : State → Bool) (steps : Nat) (name : String) (frame : Frame) :
      p.Ran s → Reached p (globalValue (answeredUntil .ofExpressions stop steps) name frame s).state

variable {p : Program} {s : State}

/-- **At every moment, the state is one of a run.** -/
theorem Program.Reached.fits (reached : p.Reached s) (checked : p.check = .ok ()) : s.Fits p := by
  cases reached with
  | between ran => exact ran.fits checked
  | inside stop steps name frame ran =>
      exact (ran.fits checked).globalValue (Likeness.asks_answeredUntil p _ stop steps) name

/-! ## What is installed -/

/-- The program makes an object with that content global under that name: one of its own, or the
prototype of attempts if none of its own has that name. -/
inductive Program.Installs (p : Program) : String → Table → Prop where
  | object {n : Node} {name : String} {t : Table} : n ∈ p.objects → n.Makes name t →
      Installs p name t
  | attempt : (∀ n ∈ p.objects, n.name ≠ some "try") → Installs p "try" attemptTable

/-- **The global objects of a program are what it installs.** -/
theorem Program.installs_base (checked : p.check = .ok ()) {name : String} {r : Ref}
    (global : p.base.global? name = some r) :
    r.index < p.base.heap.size ∧
      ∃ t, (p.base.heap.cell r).kind = .table t ∧ p.Installs name t := by
  have installed := p.installed_base checked
  rw [installed.size]
  rcases installed.global?.mp global with ⟨i, n, there, named, rfl⟩ | ⟨unnamed, rfl, rfl⟩
  · have among := List.mem_of_getElem? there
    obtain ⟨own, t, makes⟩ := ((checkObjects_iff.mp checked).1 n among).makes
    cases named.symm.trans makes.name
    exact ⟨Nat.succ_lt_succ (List.getElem?_eq_some_iff.mp there).1, t,
      installed.object there makes, .object among makes⟩
  · exact ⟨Nat.succ_pos _, attemptTable, installed.attempt, .attempt unnamed⟩

/-- Nothing is in a slot: it is not written, takes no argument yet, or is not computed. -/
inductive Slot.Untouched : Slot → Prop where
  | free : Untouched (.free none)
  | once (origin : Expr) : Untouched (.once origin none)
  | vararg : Untouched (.vararg [])
  | composite (origin : Expr) : Untouched (.composite origin)

theorem Slot.untouched_of_shown {s : Slot} (empty : s.shown = []) : s.Untouched := by
  rcases s with (_ | _) | ⟨origin, _ | _⟩ | (_ | _) | origin
  · exact .free
  · cases empty
  · exact .once origin
  · cases empty
  · exact .vararg
  · cases empty
  · exact .composite origin

/-- An object without a home and an owner, with nothing in its slots. -/
structure Table.Untouched (t : Table) : Prop where
  home : t.home = none
  owner : t.owner = none
  slots : ∀ name slot, (name, slot) ∈ t.slots → slot.Untouched

/-- **Global objects stay prototypes.**  At every moment of every run of a checked program, the
global objects are those of its start, at their places and with their vertices.  Each of them is
what was installed under its name, and nothing was ever written to it or computed in it. -/
theorem Program.globals_stay_prototypes (checked : p.check = .ok ()) (reached : p.Reached s) :
    s.globals = p.base.globals ∧ ∀ name r, s.global? name = some r →
      s.heap.cell r = p.base.heap.cell r ∧
        ∃ t, (s.heap.cell r).kind = .table t ∧ p.Installs name t ∧ t.Untouched := by
  have fits := reached.fits checked
  refine ⟨fits.globals, fun name r global => ?_⟩
  rw [State.global?, fits.globals] at global
  obtain ⟨early, t, kind, installs⟩ := p.installs_base checked global
  have same := fits.prototypes r early
  obtain ⟨t', kind', home, owner, empty⟩ := p.prototype checked early
  cases kind.symm.trans kind'
  refine ⟨same, t, (congrArg Cell.kind same).trans kind, installs, home, owner, ?_⟩
  exact fun name slot there => Slot.untouched_of_shown (empty name slot there)

/-- A program that divides one by zero, after it failed and while it runs again: its prototype is
as it was. -/
theorem Program.dividing_stays_prototype :
    let s := Program.dividing.base.dataizing {} ["app"]
    let t := (globalValue (answeredUntil .ofExpressions (fun u => u.heap.size == 9) 100) "app" {}
      s).state
    t.globals = [("try", ⟨0⟩), ("app", ⟨1⟩)] ∧
      t.heap.cell ⟨1⟩ = Program.dividing.base.heap.cell ⟨1⟩ := by
  intro s t
  have ran : Program.dividing.Ran s := Program.Ran.base.dataizing {} ["app"]
  obtain ⟨globals, stay⟩ := Program.dividing.globals_stay_prototypes (by decide)
    (.inside _ 100 "app" {} ran)
  have listed : t.globals = [("try", ⟨0⟩), ("app", ⟨1⟩)] := globals.trans (by decide)
  refine ⟨listed, (stay "app" ⟨1⟩ ?_).1⟩
  rw [State.global?, listed]
  rfl

end PhiCalculus
