import PhiCalculus.Proofs.AlikeExpressions
import PhiCalculus.Proofs.Installed

/-!
# What checked programs can fail in

A run is alike to itself (`Likeness.same`).  So whatever is asked for in a run of a checked program
fails only for a reason for which two runs can fail alike, and most reasons are none of these: a
literal that cannot be read, a method without a receiver, an unknown type, a receiver of another
type, an owner that is bound twice (`Failure.Expected`).  Before it runs, a checked program has no
fault other than that there is nothing to run.
-/

set_option autoImplicit false

namespace PhiCalculus

open PhiCalculus.Action

/-! ## A run and itself -/

theorem Likeness.later_id (p : Program) (r : Ref) (_ : p.base.heap.size ≤ r.index) :
    r.index ≤ (id r).index := Nat.le_refl _

/-- A run and itself, where some objects are in use throughout. -/
def Likeness.same (p : Program) (kept : List Ref) : Likeness p where
  place := id
  alike s s' := s' = s
  kept := kept
  kept' := kept
  silent := false
  kind {s s' r} same _ _ := by rw [same, Kind.rename_id]; rfl
  exist same exist := by rw [same]; exact exist
  later := later_id p
  vertex same _ _ := by rw [same]; rfl
  global? name same := by rw [same, Option.map_id]; rfl
  isAlive same _ _ _ := by rw [same, List.map_id]; rfl
  term? same _ _ := by rw [same]; rfl
  alloc k same := by rw [same, Kind.rename_id]; exact ⟨rfl, rfl⟩
  allocData v same := by rw [same, Value.rename_id]; exact ⟨rfl, rfl⟩
  setSlot name slot same _ := by rw [same, Slot.rename_id]; rfl
  setOwner owner same _ := by rw [same]; rfl
  setResult result same _ := by rw [same]; rfl
  trace line same := by rw [same]; rfl

theorem Likeness.at_same {p : Program} {s : State} (fits : s.Fits p) (frame : Frame) :
    (Likeness.same p frame.held).At frame frame s s where
  alike := rfl
  fits := fits
  depth := rfl
  tracing := (Bool.and_true _).symm
  held := ⟨[], by simp, rfl, rfl⟩

/-! ## Failures -/

/-- The failure is one that the check of a program does not rule out. -/
structure Failure.Expected (f : Failure) : Prop where
  /-- Every type is known. -/
  type : f.kind ≠ .unsupportedVertexType
  /-- No global object is missing. -/
  global : ∀ attr, f.cause ≠ .noSuchAttribute attr .globals
  /-- No owner is bound twice. -/
  owner : ∀ object, f.cause ≠ .alreadyBound rho object
  /-- The receiver of a method has the type of the method. -/
  receiver : ∀ expected found, f.cause ≠ .typeMismatch sigma expected found
  /-- Nothing else goes wrong but a division, an index, or a home that is gone. -/
  general : f.kind = .general → (∃ n, f.cause = .divisionByZero n) ∨
    (∃ index size, f.cause = .outOfBounds index size) ∨ ∃ object, f.cause = .homeGone object

/-- The runs fail in what the check of the program does not rule out. -/
theorem Likeness.Fails.expected {p : Program} {L : Likeness p} {s s' : State} {f f' : Failure}
    (fails : L.Fails s s' f f') : f.Expected := by
  induction fails with
  | alreadyBound plain same =>
      exact ⟨nofun, nofun, fun _ is => by cases is; exact plain rfl, nofun, nofun⟩
  | noSuchAttribute same =>
      cases same with
      | object form same => exact ⟨nofun, nofun, nofun, nofun, nofun⟩
  | typeMismatch expected found plain =>
      exact ⟨nofun, nofun, nofun, fun _ _ is => by cases is; exact plain rfl, nofun⟩
  | divisionByZero n => exact ⟨nofun, nofun, nofun, nofun, fun _ => .inl ⟨n, rfl⟩⟩
  | outOfBounds index size =>
      exact ⟨nofun, nofun, nofun, nofun, fun _ => .inr (.inl ⟨index, size, rfl⟩)⟩
  | @homeGone o _ _ => exact ⟨nofun, nofun, nofun, nofun, fun _ => .inr (.inr ⟨o, rfl⟩)⟩
  | during term _ ih => exact ⟨ih.type, ih.global, ih.owner, ih.receiver, ih.general⟩
  | _ => exact ⟨nofun, nofun, nofun, nofun, nofun⟩

/-- There is no fault in the choice of a root but that it is missing. -/
theorem Program.missingRoot_of_root {p : Program} {root : Option String} {fault : TreeFault}
    (wrong : p.root root = .error fault) : ∃ name, fault = .missingRoot name := by
  cases root with
  | some name =>
      rw [Program.root] at wrong
      split at wrong <;> cases wrong
      exact ⟨name, rfl⟩
  | none =>
      rw [Program.root] at wrong
      split at wrong
      · cases wrong
      · split at wrong <;> cases wrong
        exact ⟨p.name, rfl⟩

/-- A checked program that is run at one of its objects is loaded and dataizes a copy of that. -/
theorem Program.run_of_checked {p : Program} (checked : p.check = .ok ()) (root : Option String)
    (tracing : Bool) : p.run root tracing =
      (p.root root).map fun name => dataizeGlobal name { tracing := tracing } p.base := by
  rw [run, load, checked]
  cases p.root root <;> rfl

/-- **Runs of checked programs fail only in what the check does not rule out**, and before they run
there is no fault but that the object to run is missing. -/
theorem Program.run_fails_as_expected {p : Program} (checked : p.check = .ok ())
    (root : Option String) (tracing : Bool) :
    (∀ fault, p.run root tracing = .error fault → ∃ name, fault = .missingRoot name) ∧
      ∀ f t, p.run root tracing = .ok (.failure f t) → f.Expected := by
  have runs : p.run root tracing = (p.root root).map fun name =>
      dataizeGlobal name { tracing := tracing } p.base := by
    rw [Program.run, Program.load, checked]
    cases p.root root <;> rfl
  rw [runs]
  cases chosen : p.root root with
  | error fault =>
      refine ⟨fun fault' same => ?_, nofun⟩
      cases same
      exact p.missingRoot_of_root chosen
  | ok name =>
      refine ⟨nofun, fun f t failed => ?_⟩
      have here := Likeness.at_same (p.fits_base checked) { tracing := tracing }
      have ends := Likeness.alike_globalValue ((Likeness.same p []).asks_answerWithin stepLimit)
        here (p.isSome_global?_root checked chosen)
      rw [show globalValue (answerWithin stepLimit) name _ _ = _ from Except.ok.inj failed] at ends
      cases ends with
      | failure _ fails => exact fails.expected

/-- A program that divides one by zero. -/
def Program.dividing : Program where
  name := "app"
  objects := [.abstraction (some "app") 1 [] [.application (some "@") 2 (.method "div")
    [.data none 3 "int" "1", .data none 4 "int" "0"] false false]]

/-- The failure that an evaluation ended in. -/
def Outcome.failure? {α : Type} : Outcome α → Option Failure
  | failure f _ => some f
  | _ => none

/-- The division fails, as expected. -/
theorem Program.dividing_fails_as_expected :
    ∃ f t, Program.dividing.run none false = .ok (.failure f t) ∧ f.cause = .divisionByZero 1 ∧
      f.Expected := by
  have cause : ((Program.dividing.run none false).toOption.bind Outcome.failure?).map
      Failure.cause = some (.divisionByZero 1) := by decide +kernel
  have expected := (Program.dividing.run_fails_as_expected (by decide) none false).2
  cases runs : Program.dividing.run none false with
  | error fault =>
      rw [runs] at cause
      cases cause
  | ok outcome =>
      rw [runs] at cause expected
      cases outcome with
      | failure f t => exact ⟨f, t, rfl, Option.some.inj cause, expected f t rfl⟩
      | answer v t => cases cause
      | unfinished => cases cause

end PhiCalculus
