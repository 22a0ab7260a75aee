import PhiCalculus.Value

/-!
# Methods of values

Every value answers some names with a method: an object that takes arguments and computes a
result.  This lists which types have which methods, and the names of their parameters.
-/

set_option autoImplicit false

namespace PhiCalculus

/-- The operations that integers and real numbers have in common. -/
inductive Arithmetic where
  | plus
  | minus
  | times
  | div
  | lt
  | gt
  | neg
  deriving Repr, DecidableEq

/-- A method of a value. -/
inductive Method where
  | eq
  | int (op : Arithmetic)
  | float (op : Arithmetic)
  | negation
  | conjunction
  | disjunction
  | choose
  | stringLength
  | concat
  | bytesSize
  | arrayLength
  | element
  | find
  deriving Repr, DecidableEq

namespace Arithmetic

/-- The operation of that name. -/
def ofName? : String → Option Arithmetic
  | "plus" => some plus
  | "minus" => some minus
  | "times" => some times
  | "div" => some div
  | "lt" => some lt
  | "gt" => some gt
  | "neg" => some neg
  | _ => none

/-- Negation takes no argument, the others take one. -/
def params : Arithmetic → List String
  | neg => []
  | _ => ["x"]

end Arithmetic

namespace Method

/-- The method of that name that values of a type have besides `eq`. -/
def ofType? (tag : TypeTag) (name : String) : Option Method :=
  match tag, name with
  | .int, _ => (Arithmetic.ofName? name).map int
  | .float, _ => (Arithmetic.ofName? name).map float
  | .bool, "not" => some negation
  | .bool, "and" => some conjunction
  | .bool, "or" => some disjunction
  | .bool, "if" => some choose
  | .string, "length" => some stringLength
  | .string, "concat" => some concat
  | .bytes, "size" => some bytesSize
  | .array, "length" => some arrayLength
  | .array, "at" => some element
  | .regex, "match" => some find
  | _, _ => none

/-- The method of that name that values of a type have. -/
def ofName? (tag : TypeTag) (name : String) : Option Method :=
  if name == "eq" then some eq else ofType? tag name

/-- The names of the arguments, in order. -/
def params : Method → List String
  | eq => ["x"]
  | int op => op.params
  | float op => op.params
  | negation => []
  | conjunction => ["x"]
  | disjunction => ["x"]
  | choose => ["t", "f"]
  | stringLength => []
  | concat => ["x"]
  | bytesSize => []
  | arrayLength => []
  | element => ["i"]
  | find => ["txt"]

end Method

end PhiCalculus
