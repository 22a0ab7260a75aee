import PhiCalculus.Proofs.Steps

/-!
# Operations

What a program outside of the language can do with objects is a fixed list of operations: building
objects, values and views, copying, owning, looking places up, reading and writing them, looking
through views and dataizing.  A computation in a slot can do the same things, in any order that
depends in any way on what it has seen, and it may go on after a failure (`Performs`).

Every operation is made of requests and single changes (`Operation.stepwise`), and so is everything
that only performs operations (`Performs.stepwise`).  The expressions of programs and sessions are
computations of this kind (`performs_evalExpr`).
-/

set_option autoImplicit false

namespace PhiCalculus

open PhiCalculus.Action

variable {α : Type} {catching : Prop}

/-! ## The list of operations -/

/-- An operation on objects, with the type of its answer. -/
inductive Operation : Type → Type where
  /-- A new object without an owner. -/
  | build (form : String) (home : Option Ref) (slots : Slots) : Operation Ref
  | data (v : Value) : Operation Ref
  | literal (type text : String) : Operation Ref
  | view (v : View) : Operation Ref
  | copy (r : Ref) : Operation Ref
  | moveTo (r target : Ref) : Operation Unit
  | owner (r : Ref) : Operation (Option Ref)
  /-- The place of a name on an object or on what it decorates. -/
  | attr (r : Ref) (name : String) : Operation Place
  | ownAttr (r : Ref) (name : String) : Operation (Option Place)
  /-- The place of that position among the open slots. -/
  | attrAt (r : Ref) (position : Nat) : Operation Place
  | get (p : Place) : Operation Ref
  | put (p : Place) (value : Ref) : Operation Unit
  /-- The object behind any views. -/
  | resolved (r : Ref) : Operation Ref
  /-- The value of an object. -/
  | take (r : Ref) : Operation Value
  /-- What a slot of an object computes. -/
  | compute (e : Expr) (self : Ref) : Operation Ref
  /-- Dataizes a fresh copy of a global object. -/
  | global (name : String) : Operation Value

namespace Operation

/-- What an operation does by means of answers to requests. -/
def run (ask : Answerer) : Operation α → Action α
  | build form home slots => alloc (.table { form := form, home := home, slots := slots })
  | data v => Action.data v
  | literal type text => PhiCalculus.literal type text
  | view v => Action.view v
  | copy r => copyOf ask r
  | moveTo r target => PhiCalculus.moveTo ask r target
  | owner r => ownerOf ask r
  | attr r name => ask (.find r name)
  | ownAttr r name => ownPlace? ask r name
  | attrAt r position => placeAt ask r position
  | get p => ask (.read p)
  | put p value => write ask p value
  | resolved r => ask (.resolve r)
  | take r => ask (.dataize r)
  | compute e self => ask (.eval e self)
  | global name => globalValue ask name

/-- The operation that makes a request and nothing else. -/
def ofRequest : Request α → Operation α
  | .find r name => attr r name
  | .read p => get p
  | .resolve r => resolved r
  | .dataize r => take r
  | .eval e self => compute e self

@[simp] theorem run_ofRequest (ask : Answerer) (q : Request α) : (ofRequest q).run ask = ask q := by
  cases q <;> rfl

end Operation

/-- The operation writes: it binds an owner, or puts something at a place. -/
def Operation.Writes : Operation α → Prop
  | .moveTo _ _ => True
  | .put _ _ => True
  | _ => False

/-- What does not write adds objects at most. -/
theorem Operation.creates (op : Operation α) (reads : ¬ op.Writes) :
    Stepwise State.Creates catching fun ask => op.run ask := by
  cases op with
  | build form home slots => exact Stepwise.act (.table _)
  | data v => exact Stepwise.act (.data v)
  | literal type text => exact Stepwise.act (acts_literal type text)
  | view v => exact Stepwise.act (.view v)
  | copy r => exact (straight_copyOf r).stepwise
  | moveTo r target => exact absurd trivial reads
  | owner r => exact (straight_ownerOf r).stepwise
  | attr r name => exact Stepwise.request _
  | ownAttr r name => exact (straight_ownPlace? r name).stepwise
  | attrAt r position => exact (straight_placeAt r position).stepwise
  | get p => exact Stepwise.request _
  | put p value => exact absurd trivial reads
  | resolved r => exact Stepwise.request _
  | take r => exact Stepwise.request _
  | compute e self => exact Stepwise.request _
  | global name => exact (straight_globalValue name).stepwise

/-- Every operation is made of requests and changes that fill nothing, and lets raises pass. -/
theorem Operation.edits (op : Operation α) :
    Stepwise State.Edits catching fun ask => op.run ask := by
  cases op with
  | moveTo r target => exact (straight_moveTo r target).stepwise
  | put p value => exact (straight_write p value).stepwise
  | _ => exact (Operation.creates _ id).mono State.Creates.edits

/-- Every operation is made of requests and single changes, and lets raises pass. -/
theorem Operation.stepwise (op : Operation α) :
    Stepwise State.Changes catching fun ask => op.run ask :=
  op.edits.mono State.Edits.changes

/-! ## Performing operations -/

/-- One operation, or the creation of objects, after which the computation may also have changed
what lies outside of the objects. -/
inductive Performing : {α : Type} → (Answerer → Action α) → Prop where
  | operation {α : Type} (op : Operation α) : Performing fun ask => op.run ask
  | creating {α : Type} {x : Action α} : x.Moves State.Creates → Performing fun _ => x

/-- A computation that acts on objects by operations only. -/
abbrev Performs (catching : Prop) (x : Answerer → Action α) : Prop :=
  Composed Performing catching x

namespace Performs

variable {x : Answerer → Action α}

theorem operation (op : Operation α) : Performs catching fun ask => op.run ask :=
  .base (.operation op)

/-- What looks things up and adds objects performs operations only. -/
theorem of_creates (h : Stepwise State.Creates catching x) : Performs catching x := by
  refine Composed.of_parts h ?_
  intro α x part
  cases part with
  | request q =>
      have made : Performs catching _ := operation (.ofRequest q)
      simpa only [Operation.run_ofRequest] using made
  | change moves => exact .base (.creating moves)

/-- What performs operations only fills nothing by itself. -/
theorem edits (h : Performs catching x) : Stepwise State.Edits catching x := by
  refine Composed.of_parts h ?_
  intro α x part
  cases part with
  | operation op => exact op.edits
  | creating moves => exact Stepwise.change fun frame s => (moves frame s).edits

/-- **What performs operations only is made of requests and single changes.** -/
theorem stepwise (h : Performs catching x) : Stepwise State.Changes catching x :=
  h.edits.mono State.Edits.changes

end Performs

/-! ## Attempts -/

theorem performs_partOf (r : Ref) (name : String) :
    Performs catching fun ask => partOf ask r name :=
  .bind (Performs.operation (.attr r name)) fun p =>
    .bind (Performs.operation (.get p)) fun prototype =>
      .bind (.hold p.refs (Performs.operation (.copy prototype))) fun part =>
        .bind (.hold [part] (Performs.operation (.moveTo part r))) fun _ =>
          Performs.of_creates (Stepwise.act (.pure part))

theorem performs_runMain (r : Ref) : Performs catching fun ask => runMain ask r :=
  .bind (performs_partOf r "main") fun main => .hold [main] <|
    .bind (Performs.operation (.attrAt main 0)) fun first =>
      .bind (Performs.of_creates (Stepwise.act (.table _))) fun raiser =>
        .bind (Performs.operation (.put first raiser)) fun _ => Performs.operation (.take main)

theorem performs_runCatch (r payload : Ref) : Performs catching fun ask => runCatch ask r payload :=
  .bind (.hold [payload] (performs_partOf r "catch")) fun _ =>
    .bind (Performs.of_creates (Stepwise.act (.view _))) fun applied =>
      Performs.operation (.take applied)

theorem performs_runFinally (r : Ref) : Performs catching fun ask => runFinally ask r :=
  .bind (performs_partOf r "finally") fun final =>
    .bind (Performs.operation (.take final)) fun _ => Performs.of_creates (Stepwise.act (.pure ()))

theorem performs_handle (r : Ref) (outcome : Except Failure Value) :
    Performs True fun ask => handle ask r outcome := by
  have passed : Performs True fun _ => (pure outcome : Action (Except Failure Value)) :=
    Performs.of_creates (Stepwise.act (.pure outcome))
  rcases outcome with f | v
  · cases f with
    | raise target payload =>
        refine .bind (Performs.of_creates (Stepwise.act (.vertex r))) fun v => .ite ?_ passed
        have caught := Composed.recover (performs_runCatch r payload)
          (fun e => Performs.of_creates (Stepwise.act (.pure e))) (.inl trivial)
        simpa only [bind_pure_self] using caught
    | _ => exact passed
  · exact passed

theorem performs_attempt (r : Ref) : Performs True fun ask => attempt ask r := by
  refine .recover (performs_runMain r) (fun outcome => ?_) (.inl trivial)
  refine .bind (performs_handle r outcome) fun outcome =>
    .bind (.hold (outcomeRefs outcome) (performs_runFinally r)) fun _ => ?_
  exact Performs.of_creates (.bind (Stepwise.conclude outcome) fun v => Stepwise.act (.data v))

/-- **Expressions act on objects by operations only.** -/
theorem performs_evalExpr (self : Ref) (e : Expr) :
    Performs True fun ask => evalExpr ask self e := by
  by_cases attempted : e = .native .attempt
  · subst attempted
    exact performs_attempt self
  · exact Performs.of_creates (straight_evalExpr self attempted).stepwise

end PhiCalculus
