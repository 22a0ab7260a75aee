import PhiCalculus.Eval.Attempt
import PhiCalculus.Eval.Lookup
import PhiCalculus.Eval.Methods

/-!
# Evaluating expressions

The parts of an expression are evaluated from left to right; an object that a part has given stays
in use while the parts after it are evaluated.
-/

set_option autoImplicit false

namespace PhiCalculus

variable (ask : Answerer)

open PhiCalculus.Action

/-- Evaluates expressions in order. -/
def evalAll (self : Ref) : List Expr → Action (List Ref)
  | [] => pure []
  | e :: rest => do
    let r ← ask (.eval e self)
    let refs ← hold [r] (evalAll self rest)
    pure (r :: refs)

/-- A literal by the name of its type and its text.  Its vertex is that of the name of the type and
the label of the value. -/
def literal (type text : String) : Action Ref := do
  match TypeTag.ofName? type with
  | none => fail (.unsupportedType type)
  | some tag =>
    match Value.parse tag text with
    | .error fault => fail (.badLiteral type text fault)
    | .ok v =>
      match v.label with
      | none => fail (.unsupportedType type)
      | some label => labelled type label v

/-- The slots of a new object; what is bound at once is evaluated in order. -/
def evalSlots (self : Ref) (slots : Slots) : List (String × SlotExpr) → Action Slots
  | [] => pure slots
  | (name, .free) :: rest => evalSlots self (slots.declare name (.free none)) rest
  | (name, .vararg) :: rest => evalSlots self (slots.declare name (.vararg [])) rest
  | (name, .once e) :: rest => evalSlots self (slots.declare name (.once e none)) rest
  | (name, .composite e) :: rest => evalSlots self (slots.declare name (.composite e)) rest
  | (name, .bound e) :: rest => do
    let r ← ask (.eval e self)
    hold [r] (evalSlots self (slots.declare name (.free (some r))) rest)

/-- A new object. -/
def buildObject (self : Ref) (form : String) (home : Option Expr)
    (attrs : List (String × SlotExpr)) : Action Ref := do
  match home with
  | none => do
    let slots ← evalSlots ask self [] attrs
    alloc (.table { form := form, slots := slots })
  | some e => do
    let home ← ask (.eval e self)
    let slots ← hold [home] (evalSlots ask self [] attrs)
    alloc (.table { form := form, home := some home, slots := slots })

/-- A computation that is not written in the language. -/
def native (self : Ref) : Native → Action Ref
  | .method m => methodResult ask m self
  | .attempt => attempt ask self
  | .signal => signal ask self

/-- The object that an expression gives for its self. -/
def evalExpr (self : Ref) (e : Expr) : Action Ref := do
  match e with
  | .self => pure self
  | .depth => do
    let n := (← frame).depth
    data (countValue n)
  | .object r => pure r
  | .data v => data v
  | .literal type text => literal type text
  | .array items => do
    let refs ← evalAll ask self items
    data (.array refs)
  | .global name =>
    match ← asks fun s => s.global? name with
    | some r => pure r
    | none => fail (.noSuchAttribute name .globals)
  | .name n => lookUp ask self n
  | .get e name => do
    let r ← ask (.eval e self)
    let p ← ask (.find r name)
    hold [r] (ask (.read p))
  | .method e name => do
    let r ← ask (.eval e self)
    view (.method r name)
  | .bind e key value => do
    let base ← ask (.eval e self)
    let argument ← hold [base] (ask (.eval value self))
    view (.bind base key argument)
  | .copied e => do
    let r ← ask (.eval e self)
    view (.copy r)
  | .unvar e => do
    let r ← ask (.eval e self)
    view (.unvar r)
  | .copy e => do
    let r ← ask (.eval e self)
    hold [r] (copyOf ask r)
  | .resolved e => do
    let r ← ask (.eval e self)
    settle ask r
  | .force e => do
    let r ← ask (.eval e self)
    let v ← ask (.dataize r)
    data v
  | .fail message => fail (.custom message)
  | .raise target payload => do
    let t ← ask (.eval target self)
    let p ← hold [t] (ask (.eval payload self))
    fail (.raise (← vertex t) p)
  | .count counter e => do
    change (·.count counter)
    ask (.eval e self)
  | .counter name => do
    let n ← asks fun s => s.counter name
    data (countValue n)
  | .build form home attrs => buildObject ask self form home attrs
  | .native n => native ask self n

end PhiCalculus
