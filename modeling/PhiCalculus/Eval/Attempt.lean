import PhiCalculus.Eval.Dataize

/-!
# Attempts

An attempt runs its main part with an object that raises: given a payload, dataizing that object
sends the payload to this very attempt.  The attempt then runs its handler on the payload.  Whatever
happened, it runs its final part last, and a failure of the final part is the failure of the
attempt.  A raise aimed at another attempt passes.
-/

set_option autoImplicit false

namespace PhiCalculus

variable (ask : Answerer)

open PhiCalculus.Action

/-- The prototype of attempts. -/
def attemptTable : Table :=
  { form := "try"
    slots := [("main", .free none), ("catch", .free none), ("finally", .free none),
      (phi, .composite (.native .attempt))] }

/-- The object that raises, aimed at the attempt that is its home. -/
def signalTable (attempt : Ref) : Table :=
  { form := "try.raise"
    home := some attempt
    slots := [("ex", .free none), (phi, .composite (.native .signal))] }

/-- Raises the argument of the object, aimed at its home. -/
def signal (r : Ref) : Action Ref := do
  let home ← ask (.find r sigma)
  let target ← ask (.read home)
  hold [target] do
    let argument ← ask (.find r "ex")
    let payload ← ask (.read argument)
    fail (.raise (← vertex target) payload)

/-- A copy of a part of the attempt, owned by the attempt. -/
def partOf (r : Ref) (name : String) : Action Ref := do
  let p ← ask (.find r name)
  let prototype ← ask (.read p)
  let part ← hold p.refs (copyOf ask prototype)
  hold [part] (moveTo ask part r)
  pure part

/-- Runs the main part with the object that raises as its first argument. -/
def runMain (r : Ref) : Action Value := do
  let main ← partOf ask r "main"
  hold [main] do
    let first ← placeAt ask main 0
    let raiser ← alloc (.table (signalTable r))
    write ask first raiser
    ask (.dataize main)

/-- Runs the handler on the payload. -/
def runCatch (r payload : Ref) : Action Value := do
  let handler ← hold [payload] (partOf ask r "catch")
  let applied ← view (.bind handler (.position 0) payload)
  ask (.dataize applied)

/-- Runs the final part. -/
def runFinally (r : Ref) : Action Unit := do
  let final ← partOf ask r "finally"
  let _ ← ask (.dataize final)
  pure ()

/-- The objects that the outcome of a part refers to. -/
def outcomeRefs : Except Failure Value → List Ref
  | .ok v => v.items
  | .error (.raise _ payload) => [payload]
  | .error _ => []

/-- Handles a raise aimed at the attempt; any other outcome passes. -/
def handle (r : Ref) (outcome : Except Failure Value) : Action (Except Failure Value) := do
  match outcome with
  | .error (.raise target payload) =>
    if target == (← vertex r) then observe (runCatch ask r payload) else pure outcome
  | _ => pure outcome

/-- Runs an attempt. -/
def attempt (r : Ref) : Action Ref := do
  let outcome ← observe (runMain ask r)
  let outcome ← handle ask r outcome
  hold (outcomeRefs outcome) (runFinally ask r)
  data (← conclude outcome)

end PhiCalculus
