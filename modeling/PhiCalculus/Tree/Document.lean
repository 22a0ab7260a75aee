import PhiCalculus.Json.Reader
import PhiCalculus.Tree

/-!
# Programs as documents

Programs are kept as JSON documents.  Writing shows every field, but for the name of a node that
has none.  Reading fills in what is left out: no name, line 0, no parameters, attributes, arguments
or flags.

A node is an object with its own fields and those of its kind side by side; what belongs to neither
is ignored, and no field may come twice.  A program and a parameter may also be written as the
array of their fields in order.
-/

set_option autoImplicit false

namespace PhiCalculus

open Json

/-! ## Writing -/

def Parameter.toJson (p : Parameter) : Json :=
  .object [("name", .string p.name), ("vararg", .bool p.vararg)]

def Base.toJson : Base → Json
  | .ref name => .object [("ref", .string name)]
  | .method name => .object [("method", .string name)]
  | .xi => .string "xi"
  | .rho => .string "rho"
  | .sigma => .string "sigma"
  | .array => .string "array"

/-- The fields that every node has. -/
def nodeHead (name : Option String) (line : Nat) (kind : String) : List (String × Json) :=
  (match name with
    | some n => [("name", .string n)]
    | none => []) ++ [("line", .natural line), ("kind", .string kind)]

mutual

/-- A node as a document. -/
def Node.toJson : Node → Json
  | .abstraction name line params attrs =>
    .object (nodeHead name line "abstraction" ++
      [("params", .array (params.map Parameter.toJson)), ("attrs", .array (Node.allToJson attrs))])
  | .application name line base args copy unvar =>
    .object (nodeHead name line "application" ++
      [("base", base.toJson), ("args", .array (Node.allToJson args)), ("copy", .bool copy),
        ("unvar", .bool unvar)])
  | .data name line type value =>
    .object (nodeHead name line "data" ++ [("type", .string type), ("value", .string value)])

def Node.allToJson : List Node → List Json
  | [] => []
  | n :: rest => n.toJson :: Node.allToJson rest

end

/-- A program as a document. -/
def Program.toJson (p : Program) : Json :=
  .object [("name", .string p.name), ("objects", .array (Node.allToJson p.objects))]

/-! ## Fields -/

/-- A field that may come once at most: `none` if it comes twice. -/
def field? (members : List (String × Json)) (name : String) : Option (Option Json) :=
  match Json.all members name with
  | [] => some none
  | [v] => some (some v)
  | _ => none

/-- A field that must be there. -/
def required {α : Type} (members : List (String × Json)) (name : String)
    (read : Json → Option α) : Option α := do
  match ← field? members name with
  | some v => read v
  | none => none

/-- A field that may be left out. -/
def optional {α : Type} (members : List (String × Json)) (name : String) (default : α)
    (read : Json → Option α) : Option α := do
  match ← field? members name with
  | some v => read v
  | none => some default

def string? : Json → Option String
  | .string s => some s
  | _ => none

def bool? : Json → Option Bool
  | .bool b => some b
  | _ => none

def natural? : Json → Option Nat
  | .natural n => some n
  | _ => none

/-- The elements of an array, each read in turn. -/
def list? {α : Type} (read : Json → Option α) : Json → Option (List α)
  | .array items => items.mapM read
  | _ => none

/-- A name that may be null. -/
def name? : Json → Option (Option String)
  | .null => some none
  | .string s => some (some s)
  | _ => none

/-! ## Reading -/

/-- A parameter, as an object or as an array. -/
def Parameter.ofJson? : Json → Option Parameter
  | .object members => do
    let name ← required members "name" string?
    let vararg ← optional members "vararg" false bool?
    some ⟨name, vararg⟩
  | .array [name] => (string? name).map fun n => ⟨n, false⟩
  | .array [name, vararg] => do
    let name ← string? name
    let vararg ← bool? vararg
    some ⟨name, vararg⟩
  | _ => none

/-- Whether a value says nothing, as it may after the name of a base that takes no name. -/
def saysNothing : Json → Bool
  | .null => true
  | .object [] => true
  | _ => false

/-- A base that takes no name of its own. -/
def Base.ofName? : String → Option Base
  | "xi" => some .xi
  | "rho" => some .rho
  | "sigma" => some .sigma
  | "array" => some .array
  | _ => none

/-- The base of an application. -/
def Base.ofJson? : Json → Option Base
  | .string s => Base.ofName? s
  | .object [("ref", v)] => (string? v).map .ref
  | .object [("method", v)] => (string? v).map .method
  | .object [(name, v)] => if saysNothing v then Base.ofName? name else none
  | _ => none

/-- The kinds of nodes. -/
inductive NodeKind where
  | abstraction
  | application
  | data
  deriving Repr, DecidableEq

/-- The kind of a node, by its name or by its number among the kinds. -/
def NodeKind.ofJson? : Json → Option NodeKind
  | .string "abstraction" => some .abstraction
  | .string "application" => some .application
  | .string "data" => some .data
  | .natural 0 => some .abstraction
  | .natural 1 => some .application
  | .natural 2 => some .data
  | _ => none

/-- A node nested no deeper than allowed. -/
def Node.ofJsonWithin : Nat → Json → Option Node
  | depth + 1, .object members => do
    let name ← optional members "name" none name?
    let line ← optional members "line" 0 natural?
    let nodes := list? (Node.ofJsonWithin depth)
    match ← required members "kind" NodeKind.ofJson? with
    | .abstraction => do
      let params ← optional members "params" [] (list? Parameter.ofJson?)
      let attrs ← optional members "attrs" [] nodes
      some (.abstraction name line params attrs)
    | .application => do
      let base ← required members "base" Base.ofJson?
      let args ← optional members "args" [] nodes
      let copy ← optional members "copy" false bool?
      let unvar ← optional members "unvar" false bool?
      some (.application name line base args copy unvar)
    | .data => do
      let type ← required members "type" string?
      let value ← required members "value" string?
      some (.data name line type value)
  | _, _ => none

mutual

/-- The greatest number of values nested in one another. -/
def Json.depth : Json → Nat
  | .array items => Json.depths items + 1
  | .object members => Json.memberDepths members + 1
  | _ => 1

def Json.depths : List Json → Nat
  | [] => 0
  | v :: rest => max v.depth (Json.depths rest)

def Json.memberDepths : List (String × Json) → Nat
  | [] => 0
  | (_, v) :: rest => max v.depth (Json.memberDepths rest)

end

/-- A node from a document. -/
def Node.ofJson? (v : Json) : Option Node := Node.ofJsonWithin v.depth v

/-- A program from a document, as an object or as an array. -/
def Program.ofJson? : Json → Option Program
  | .object members => do
    let name ← required members "name" string?
    let objects ← optional members "objects" [] (list? Node.ofJson?)
    some ⟨name, objects⟩
  | .array [name] => (string? name).map fun n => ⟨n, []⟩
  | .array [name, objects] => do
    let name ← string? name
    let objects ← list? Node.ofJson? objects
    some ⟨name, objects⟩
  | _ => none

/-! ## Texts -/

/-- Whether a member of a document belongs to a program. -/
def isProgramField (name : String) : Bool := name == "name" || name == "objects"

/-- Reads a program from the text of a document. -/
def Program.read? (text : String) : Option Program :=
  (readDocument isProgramField text).bind Program.ofJson?

/-- Reads a node from the text of a document. -/
def Node.read? (text : String) : Option Node := (read text).bind Node.ofJson?

end PhiCalculus
