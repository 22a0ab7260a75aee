import PhiCalculus.Proofs.Composition
import PhiCalculus.Proofs.Growth

/-!
# What an evaluation changes

A single change of a state either adds an object (`State.Creates`), or fills a cache or the result
of a view that was empty (`State.Fills`), or writes an empty slot, adds items to a slot that takes
any number of them, or binds an owner (`State.Changes`).  Each of these makes the heap grow
(`State.Changes.grows`).

Every operation is made of requests and such changes.  Only those that put an argument somewhere or
bind an owner need changes of the last kind; expressions and methods by themselves only add objects.
Caches and results are filled where a request is answered: no operation fills one by itself
(`State.Edits`).
-/

set_option autoImplicit false

namespace PhiCalculus

open PhiCalculus.Action

/-! ## Single changes -/

/-- An object is added, or nothing changes but what an observer sees of a run.  Only what is no
value gets a vertex of its own. -/
inductive State.Creates : State → State → Prop where
  | observed {s s' : State} : s'.heap = s.heap → s'.registry = s.registry →
      s'.globals = s.globals → Creates s s'
  | alloc (s : State) (k : Kind) (plain : ∀ v, k ≠ .data v) : Creates s (s.alloc k).2
  | data (s : State) (v : Value) : Creates s (s.allocData v).2

/-- An object is added, or what a slot computes or a view derives is kept for the first time. -/
inductive State.Fills : State → State → Prop where
  | creates {s s' : State} : s.Creates s' → Fills s s'
  | cache {s : State} {r : Ref} {name : String} {origin : Expr} (computed : Ref) :
      s.heap.slot? r name = some (.once origin none) →
        Fills s { s with heap := s.heap.setSlot r name (.once origin (some computed)) }
  | result {s : State} {r : Ref} (derived : Ref) :
      (∀ v kept, (s.heap.cell r).kind ≠ .view v (some kept)) →
        Fills s { s with heap := s.heap.setResult r derived }

/-- A single change of a state. -/
inductive State.Changes : State → State → Prop where
  | fills {s s' : State} : s.Fills s' → Changes s s'
  | write {s : State} {r : Ref} {name : String} (value : Ref) :
      s.heap.slot? r name = some (.free none) →
        Changes s { s with heap := s.heap.setSlot r name (.free (some value)) }
  | append {s : State} {r : Ref} {name : String} {old : List Ref} (items : List Ref) :
      s.heap.slot? r name = some (.vararg old) →
        Changes s { s with heap := s.heap.setSlot r name (.vararg (old ++ items)) }
  | own {s : State} {r : Ref} (owner : Ref) : (s.heap.cell r).owner? = none →
      Changes s { s with heap := s.heap.setOwner r owner }

/-- What an operation changes by itself: it may do anything but fill a cache or the result of a
view. -/
inductive State.Edits : State → State → Prop where
  | creates {s s' : State} : s.Creates s' → Edits s s'
  | write {s : State} {r : Ref} {name : String} (value : Ref) :
      s.heap.slot? r name = some (.free none) →
        Edits s { s with heap := s.heap.setSlot r name (.free (some value)) }
  | append {s : State} {r : Ref} {name : String} {old : List Ref} (items : List Ref) :
      s.heap.slot? r name = some (.vararg old) →
        Edits s { s with heap := s.heap.setSlot r name (.vararg (old ++ items)) }
  | own {s : State} {r : Ref} (owner : Ref) : (s.heap.cell r).owner? = none →
      Edits s { s with heap := s.heap.setOwner r owner }

namespace State

theorem Creates.refl (s : State) : s.Creates s := .observed rfl rfl rfl

theorem Creates.fills ⦃s s' : State⦄ (h : s.Creates s') : s.Fills s' := .creates h

theorem Fills.changes ⦃s s' : State⦄ (h : s.Fills s') : s.Changes s' := .fills h

theorem Creates.edits ⦃s s' : State⦄ (h : s.Creates s') : s.Edits s' := .creates h

theorem Edits.changes ⦃s s' : State⦄ (h : s.Edits s') : s.Changes s' := by
  cases h with
  | creates h => exact .fills (.creates h)
  | write value found => exact .write value found
  | append items found => exact .append items found
  | own owner free => exact .own owner free

theorem Creates.changes ⦃s s' : State⦄ (h : s.Creates s') : s.Changes s' := h.edits.changes

theorem Creates.grows ⦃s s' : State⦄ (h : s.Creates s') : s.heap.Grows s'.heap := by
  cases h with
  | observed heap =>
      rw [heap]
      exact Heap.Grows.refl _
  | alloc k => exact s.heap.grows_alloc _
  | data v => exact s.heap.grows_alloc _

theorem Fills.grows ⦃s s' : State⦄ (h : s.Fills s') : s.heap.Grows s'.heap := by
  cases h with
  | creates h => exact h.grows
  | cache computed found => exact s.heap.grows_setSlot found (.once (Stays.of_none _))
  | result derived empty => exact s.heap.grows_setResult empty

/-- **Every single change makes the heap grow.** -/
theorem Changes.grows ⦃s s' : State⦄ (h : s.Changes s') : s.heap.Grows s'.heap := by
  cases h with
  | fills h => exact h.grows
  | write value found => exact s.heap.grows_setSlot found (.free (Stays.of_none _))
  | append items found =>
      exact s.heap.grows_setSlot found (.vararg (List.prefix_append _ items))
  | own owner free => exact s.heap.grows_setOwner free

end State

/-! ## Growth of states -/

/-- The heap of the one state grows into that of the other. -/
def State.Grows (s t : State) : Prop := s.heap.Grows t.heap

namespace State.Grows

theorem refl (s : State) : s.Grows s := Heap.Grows.refl s.heap

theorem trans ⦃s t u : State⦄ (first : s.Grows t) (second : t.Grows u) : s.Grows u :=
  Heap.Grows.trans first second

end State.Grows

/-! ## Single actions -/

variable {α : Type} {catching : Prop}

namespace Stepwise

/-- An action that leaves the state alone. -/
theorem looks {x : Action α} (same : ∀ frame s, (x frame s).state = s) :
    Stepwise State.Creates catching fun _ => x :=
  change fun frame s => by
    rw [same frame s]
    exact State.Creates.refl s

theorem fail (f : Failure) : Stepwise State.Creates catching fun _ => (Action.fail f : Action α) :=
  looks fun _ _ => rfl

theorem frame : Stepwise State.Creates catching fun _ => Action.frame :=
  looks fun _ _ => rfl

theorem finite (f : State → Option α) : Stepwise State.Creates catching fun _ => Action.finite f :=
  looks fun _ s => by
    rw [Action.finite]
    cases f s <;> rfl

theorem conclude (result : Except Failure α) :
    Stepwise State.Creates catching fun _ => Action.conclude result :=
  looks fun _ _ => by cases result <;> rfl

/-- An action that only changes what an observer sees. -/
theorem observes {f : State → State} (heap : ∀ s, (f s).heap = s.heap)
    (registry : ∀ s, (f s).registry = s.registry) (globals : ∀ s, (f s).globals = s.globals) :
    Stepwise State.Creates catching fun _ => Action.change f :=
  change fun _ s => .observed (heap s) (registry s) (globals s)

end Stepwise

end PhiCalculus
