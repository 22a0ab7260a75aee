import PhiCalculus.Proofs.Changes
import PhiCalculus.Proofs.Surroundings

/-!
# What goes straight on

Between its requests the evaluator does something by itself: it moves the state along a relation,
leaves the trace alone, takes no notice of how the objects in use are listed, and makes plain
failures only (`Action.Acts`).  What is made of requests and such acts, one after the other, goes
straight on (`Straight`): it looks at no failure that it receives, and it goes no level deeper.

All of the evaluator but dataizations and attempts goes straight on.  So what requests and acts have
in common is shown once for everything that is made of them, and the functions of the evaluator are
gone through once (`Steps`).
-/

set_option autoImplicit false

namespace PhiCalculus

open PhiCalculus.Action

variable {α : Type} {R R' : State → State → Prop}

/-! ## What an action does by itself -/

/-- It ends the same in alike surroundings. -/
def Action.Even (x : Action α) : Prop :=
  ∀ {frame frame' : Frame} (s : State), frame.Alike frame' → x frame s = x frame' s

/-- An action that asks for nothing, leaves the trace alone, and ends the same in alike
surroundings. -/
structure Action.Still (x : Action α) : Prop where
  trace : ∀ frame s, (x frame s).state.trace = s.trace
  even : x.Even

/-- A still action that moves the state along `R` and makes plain failures only. -/
structure Action.Acts (R : State → State → Prop) (x : Action α) : Prop extends x.Still where
  moves : x.Moves R
  plain : ∀ {frame : Frame} {s : State} {f : Failure} {t : State},
    x frame s = .failure f t → f.isPlaced = false

/-- How an act may end. -/
inductive Outcome.Acted (R : State → State → Prop) (s : State) : Outcome α → Prop where
  | answer {a : α} {t : State} : R s t → t.trace = s.trace → Acted R s (.answer a t)
  | failure {f : Failure} {t : State} : R s t → t.trace = s.trace → f.isPlaced = false →
      Acted R s (.failure f t)
  | unfinished {t : State} : R s t → t.trace = s.trace → Acted R s (@Outcome.unfinished α t)

namespace Outcome.Acted

variable {s : State} {o : Outcome α}

theorem moved (acted : o.Acted R s) : R s o.state := by
  cases acted <;> assumption

theorem trace (acted : o.Acted R s) : o.state.trace = s.trace := by
  cases acted <;> assumption

theorem plain {f : Failure} {t : State}
    (acted : Outcome.Acted R s (.failure f t : Outcome α)) : f.isPlaced = false := by
  cases acted
  assumption

end Outcome.Acted

namespace Action.Acts

variable {x : Action α}

/-- What ends as acts do acts, if it ends the same in alike surroundings. -/
theorem of_acted (even : x.Even) (acted : ∀ frame s, (x frame s).Acted R s) : x.Acts R where
  trace frame s := (acted frame s).trace
  even := even
  moves frame s := (acted frame s).moved
  plain {frame s f t} ends := by
    have failed := acted frame s
    rw [ends] at failed
    exact failed.plain

/-- So does what ends as acts do, and the same in all surroundings. -/
theorem of_state (ends : ∀ s, ∃ o : Outcome α, (∀ frame, x frame s = o) ∧ o.Acted R s) :
    x.Acts R := by
  refine of_acted (fun {frame frame'} s _ => ?_) fun frame s => ?_
  · obtain ⟨o, same, -⟩ := ends s
    rw [same, same]
  · obtain ⟨o, same, acted⟩ := ends s
    rwa [same]

/-- What an act changes may be said in another way. -/
theorem along (acts : x.Acts R) (moves : x.Moves R') : x.Acts R' := { acts with moves }

theorem mono (acts : x.Acts R) (sub : ∀ ⦃s t : State⦄, R s t → R' s t) : x.Acts R' :=
  acts.along fun frame s => sub (acts.moves frame s)

/-! ## Single acts -/

theorem asks (f : State → α) : (Action.asks f).Acts State.Creates :=
  of_state fun s => ⟨_, fun _ => rfl, .answer (.refl s) rfl⟩

theorem pure (a : α) : (Pure.pure a : Action α).Acts State.Creates := asks fun _ => a

theorem cell (r : Ref) : (Action.cell r).Acts State.Creates := asks _

theorem subject (r : Ref) : (Action.subject r).Acts State.Creates := asks _

theorem vertex (r : Ref) : (Action.vertex r).Acts State.Creates := asks _

theorem fail {f : Failure} (isPlain : f.isPlaced = false) :
    (Action.fail f : Action α).Acts State.Creates :=
  of_state fun s => ⟨_, fun _ => rfl, .failure (.refl s) rfl isPlain⟩

theorem noSuchAttribute (name : String) (r : Ref) :
    (Action.noSuchAttribute name r : Action α).Acts State.Creates :=
  of_state fun s => ⟨_, fun _ => rfl, .failure (.refl s) rfl rfl⟩

theorem conclude {result : Except Failure α}
    (isPlain : ∀ f, result = .error f → f.isPlaced = false) :
    (Action.conclude result).Acts State.Creates := by
  cases result with
  | ok a => exact pure a
  | error f => exact fail (isPlain f rfl)

theorem alloc {k : Kind} (noValue : ∀ v, k ≠ .data v) : (Action.alloc k).Acts State.Creates :=
  of_state fun s => ⟨_, fun _ => rfl, .answer (.alloc s k noValue) rfl⟩

theorem table (t : Table) : (Action.alloc (.table t)).Acts State.Creates := alloc nofun

theorem view (v : View) : (Action.view v).Acts State.Creates := alloc nofun

theorem data (v : Value) : (Action.data v).Acts State.Creates :=
  of_state fun s => ⟨_, fun _ => rfl, .answer (.data s v) rfl⟩

end Action.Acts

/-! ## Putting acts together -/

/-- An action made of requests and acts, one after the other and on one level. -/
inductive Straight (R : State → State → Prop) : {α : Type} → (Answerer → Action α) → Prop where
  | request {α : Type} (q : Request α) : Straight R fun ask => ask q
  | act {α : Type} {x : Action α} : x.Acts R → Straight R fun _ => x
  | bind {α β : Type} {x : Answerer → Action α} {f : α → Answerer → Action β} :
      Straight R x → (∀ a, Straight R (f a)) → Straight R fun ask => x @ask >>= fun a => f a @ask
  | hold {α : Type} {x : Answerer → Action α} (refs : List Ref) :
      Straight R x → Straight R fun ask => hold refs (x @ask)

/-- An act is made of itself. -/
theorem Stepwise.act {catching : Prop} {x : Action α} (acts : x.Acts R) :
    Stepwise R catching fun _ => x :=
  change acts.moves

namespace Straight

variable {x y : Answerer → Action α}

theorem ite {p : Prop} [Decidable p] (left : Straight R x) (right : Straight R y) :
    Straight R fun ask => if p then x @ask else y @ask := by
  by_cases h : p
  · simp only [h, if_true]
    exact left
  · simp only [h, if_false]
    exact right

theorem mono (straight : Straight R x) (sub : ∀ ⦃s t : State⦄, R s t → R' s t) :
    Straight R' x := by
  induction straight with
  | request q => exact .request q
  | act acts => exact .act (acts.mono sub)
  | bind _ _ first rest => exact .bind first rest
  | hold refs _ ih => exact .hold refs ih

/-- **What goes straight on is made of requests and single changes,** and lets raises pass. -/
theorem stepwise {catching : Prop} (straight : Straight R x) : Stepwise R catching x := by
  induction straight with
  | request q => exact Stepwise.request q
  | act acts => exact Stepwise.act acts
  | bind _ _ first rest => exact .bind first rest
  | hold refs _ ih => exact .hold refs ih

end Straight

end PhiCalculus
