import PhiCalculus.Eval.Expression
import PhiCalculus.Eval.View

/-!
# The evaluator

Answers every request, with an allowance of nested steps.  Only the depth of nesting is limited, so
an evaluation that ends does so within some allowance, and a greater one changes nothing.
-/

set_option autoImplicit false

namespace PhiCalculus

open PhiCalculus.Action

/-- Answers a request by means of answers to others. -/
def answer (ask : Answerer) {α : Type} (request : Request α) : Action α :=
  hold request.refs <|
    match request with
    | .find r name => findPlace ask r name
    | .read p => readPlace ask p
    | .resolve r => resolveView ask r
    | .dataize r => dataizeObject ask r
    | .eval e self => evalExpr ask self e

/-- Answers requests that nest no deeper than allowed. -/
def answerWithin : Nat → {α : Type} → Request α → Action α
  | 0, _, _ => fun _ s => @Outcome.unfinished _ s
  | steps + 1, _, request => answer (answerWithin steps) request

/-- The steps that a run may nest: more than any run can use. -/
def stepLimit : Nat := 1000000000000

/-- Answers requests. -/
def evaluate {α : Type} (request : Request α) : Action α := answerWithin stepLimit request

/-! ## Runs -/

/-- The value of a fresh copy of the global object of that name, by means of answers. -/
def globalValue (ask : Answerer) (name : String) : Action Value := do
  match ← asks fun s => s.global? name with
  | none => fail (.noSuchAttribute name .globals)
  | some root =>
    let copy ← hold [root] (copyOf ask root)
    hold [root] (ask (.dataize copy))

/-- Dataizes a fresh copy of the global object of that name. -/
def dataizeGlobal (name : String) : Action Value := globalValue evaluate name

/-- The state of a new runtime: its one global object is the prototype of attempts. -/
def State.initial : State :=
  let (attempt, s) := ({} : State).alloc (.table attemptTable)
  s.define "try" attempt

end PhiCalculus
