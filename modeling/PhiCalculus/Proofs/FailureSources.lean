import PhiCalculus.Proofs.Attempts
import PhiCalculus.Proofs.Monotone

/-!
# Which failures come out

A failure that has no term is plain.  No function of the evaluator but dataization adds a term: what
comes out of a function is a failure that came out of a request, or a plain one that the function
makes itself.  This is said for any property of failures that all plain ones have: if the requests
only end in failures with the property, so does the function (`Action.FailsWithin`).  It holds of
whatever goes straight on (`Straight.within`); an attempt looks at the failures of its parts, and
passes on what it does not handle.

Computations of slots are asked for no more than that (`Computations.Plain`), and the expressions of
programs and sessions are computations of this kind (`Computations.plain_ofExpressions`).
-/

set_option autoImplicit false

namespace PhiCalculus

open PhiCalculus.Action

variable {α β : Type} {P : Failure → Prop}

/-! ## Failures within a property -/

/-- The action ends in failures with the property only. -/
def Action.FailsWithin (P : Failure → Prop) (x : Action α) : Prop :=
  ∀ frame s f t, x frame s = .failure f t → P f

/-- All failures that can be received from requests, or made plain, have the property. -/
structure Answerer.Within (P : Failure → Prop) (ask : Answerer) : Prop where
  plain : ∀ f : Failure, f.isPlaced = false → P f
  asked : ∀ {α : Type} (q : Request α), Action.FailsWithin P (ask q)

/-- The object that a request dataizes. -/
def Request.dataized? : Request α → Option Ref
  | .dataize r => some r
  | _ => none

/-- What slots compute ends in failures only that it received from requests or made plain. -/
def Computations.Plain (c : Computations) : Prop :=
  ∀ {P : Failure → Prop} {ask : Answerer}, ask.Within P →
    ∀ self e, (c.run ask self e).FailsWithin P

namespace Action.FailsWithin

/-- What always answers never fails. -/
theorem of_answers {x : Action α} (answers : ∀ frame s, ∃ a t, x frame s = .answer a t) :
    x.FailsWithin P := by
  intro frame s f t ends
  obtain ⟨a, u, answer⟩ := answers frame s
  cases answer.symm.trans ends

theorem pure (a : α) : (Pure.pure a : Action α).FailsWithin P :=
  of_answers fun _ s => ⟨a, s, rfl⟩

theorem asks (f : State → α) : (Action.asks f).FailsWithin P :=
  of_answers fun _ s => ⟨f s, s, rfl⟩

theorem cell (r : Ref) : (Action.cell r).FailsWithin P := asks _

theorem subject (r : Ref) : (Action.subject r).FailsWithin P := asks _

theorem change (f : State → State) : (Action.change f).FailsWithin P :=
  of_answers fun _ s => ⟨(), f s, rfl⟩

theorem data (v : Value) : (Action.data v).FailsWithin P :=
  of_answers fun _ s => ⟨(s.allocData v).1, (s.allocData v).2, rfl⟩

theorem finite (f : State → Option α) : (Action.finite f).FailsWithin P := by
  intro frame s e t ends
  rw [Action.finite] at ends
  cases found : f s with
  | some a =>
      rw [found] at ends
      cases ends
  | none =>
      rw [found] at ends
      cases ends

theorem fail {f : Failure} (holds : P f) : (Action.fail f : Action α).FailsWithin P := by
  rintro frame s _ t ⟨⟩
  exact holds

theorem conclude {result : Except Failure α} (holds : ∀ f, result = .error f → P f) :
    (Action.conclude result).FailsWithin P := by
  cases result with
  | ok a => exact pure a
  | error f => exact fail (holds f rfl)

theorem bind {x : Action α} {k : α → Action β} (first : x.FailsWithin P)
    (rest : ∀ a, (k a).FailsWithin P) : Action.FailsWithin P (x >>= k) := by
  intro frame s f t ends
  cases ending : x frame s with
  | answer a u => exact rest a frame u f t ((bind_of_answer ending k).symm.trans ends)
  | failure e u =>
      cases (bind_of_failure ending k).symm.trans ends
      exact first frame s f t ending
  | unfinished => cases (bind_of_unfinished ending k).symm.trans ends

theorem ite {p : Prop} [Decidable p] {x y : Action α} (yes : x.FailsWithin P)
    (no : y.FailsWithin P) : Action.FailsWithin P (if p then x else y) := by
  split
  · exact yes
  · exact no

theorem hold (refs : List Ref) {x : Action α} (inner : x.FailsWithin P) :
    (Action.hold refs x).FailsWithin P :=
  fun _ s f t ends => inner _ s f t ends

theorem deeper {x : Action α} (inner : x.FailsWithin P) : (Action.deeper x).FailsWithin P :=
  fun _ s f t ends => inner _ s f t ends

/-- What goes on after looking at how an action ended has received its failure. -/
theorem recover {x : Action α} {k : Except Failure α → Action β} (first : x.FailsWithin P)
    (rest : ∀ result, (∀ f, result = .error f → P f) → (k result).FailsWithin P) :
    Action.FailsWithin P (Action.observe x >>= k) := by
  intro frame s f t ends
  cases ending : x frame s with
  | answer a u =>
      exact rest (.ok a) nofun frame u f t
        ((bind_of_answer (observe_of_answer ending) k).symm.trans ends)
  | failure e u =>
      have received : ∀ f, Except.error (α := α) e = .error f → P f := by
        rintro _ ⟨⟩
        exact first frame s e u ending
      exact rest (.error e) received frame u f t
        ((bind_of_answer (observe_of_failure ending) k).symm.trans ends)
  | unfinished => cases (bind_of_unfinished (observe_of_unfinished ending) k).symm.trans ends

end Action.FailsWithin

/-- **What goes straight on fails only in what it received or makes plain.** -/
theorem Straight.within {R : State → State → Prop} {x : Answerer → Action α}
    (straight : Straight R x) {ask : Answerer} (h : ask.Within P) : (x ask).FailsWithin P := by
  induction straight with
  | request q => exact h.asked q
  | act acts => exact fun frame s f t ends => h.plain f (acts.plain ends)
  | bind _ _ first rest => exact first.bind rest
  | hold refs _ ih => exact ih.hold refs

section

variable {ask : Answerer} (h : ask.Within P)

include h

/-! ## Attempts -/

/-- What an attempt is left with after its handler came out of the main part or the handler. -/
theorem within_handle (r : Ref) {outcome : Except Failure Value}
    (received : ∀ f, outcome = .error f → P f) {k : Except Failure Value → Action α}
    (rest : ∀ result, (∀ f, result = .error f → P f) → (k result).FailsWithin P) :
    Action.FailsWithin P (handle ask r outcome >>= k) := by
  intro frame s f t ends
  by_cases aimed : ∃ payload, outcome = .error (.raise (s.heap.vertex r) payload)
  · obtain ⟨payload, rfl⟩ := aimed
    rw [bind_apply, handle_aimed] at ends
    exact Action.FailsWithin.recover ((straight_runCatch r payload).within h) rest frame s f t ends
  · have other : ∀ payload, outcome ≠ .error (.raise (s.heap.vertex r) payload) :=
      fun payload same => aimed ⟨payload, same⟩
    rw [bind_of_answer (handle_other other)] at ends
    exact rest outcome received frame s f t ends

theorem within_attempt (r : Ref) : (attempt ask r).FailsWithin P :=
  .recover ((straight_runMain r).within h) fun _ received =>
    within_handle h r received fun outcome received' =>
      .bind (.hold (outcomeRefs outcome) ((straight_runFinally r).within h)) fun _ =>
        .bind (.conclude received') fun _ => .data _

/-! ## Requests -/

theorem within_evalExpr (self : Ref) (e : Expr) : (evalExpr ask self e).FailsWithin P := by
  by_cases attempted : e = .native .attempt
  · subst attempted
    exact within_attempt h self
  · exact (straight_evalExpr self attempted).within h

/-- **An answer that is no dataization fails only in what it received or made plain.** -/
theorem within_answerBy {c : Computations} (isPlain : c.Plain) {q : Request α}
    (other : q.dataized? = none) : (answerBy c ask q).FailsWithin P := by
  cases q with
  | find r name => exact .hold [r] ((straight_findPlace r name).within h)
  | read p => exact .hold p.refs ((straight_readPlace p).within h)
  | resolve r => exact .hold [r] ((straight_resolveView r).within h)
  | dataize r => cases other
  | eval e self => exact .hold [self] (isPlain h self e)

end

/-- The expressions of programs and sessions make plain failures only. -/
theorem Computations.plain_ofExpressions : Computations.ofExpressions.Plain :=
  fun h self e => within_evalExpr h self e

/-! ## Dataization -/

section

variable {ask : Answerer} (noData : ∀ object reason, P (.notData object reason))
  (asked : ∀ {α : Type} (q : Request α), Action.FailsWithin P (ask q))

include noData asked

theorem within_findData (r : Ref) : (findData ask r).FailsWithin P := by
  refine .recover (asked _) fun result received => ?_
  rcases result with f | place
  · cases f with
    | noSuchAttribute attr object => exact .ite (.fail (noData _ _)) (.fail (received _ rfl))
    | _ => exact .fail (received _ rfl)
  · exact .pure place

/-- What leads down to a value makes no failure but that there is none. -/
theorem within_forceValue (r : Ref) : (forceValue ask r).FailsWithin P := by
  unfold forceValue
  refine .bind (.cell r) fun c => ?_
  cases c.value? with
  | some v => exact .pure v
  | none =>
      refine .bind (within_findData noData asked r) fun place => .bind (asked _) fun found =>
        .bind (.cell found) fun c' => ?_
      cases c'.value? with
      | some v => exact .pure v
      | none =>
          refine .bind (.subject r) fun _ => .bind (.subject found) fun _ => ?_
          exact .fail (noData _ _)

end

end PhiCalculus
