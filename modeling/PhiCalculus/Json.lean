/-!
# JSON values

The values of the JSON format.  Numbers keep apart what their text keeps apart: natural numbers,
negative integers and all others, which are real numbers.
-/

set_option autoImplicit false

namespace PhiCalculus

/-- A JSON value.  The members of an object keep their order, and a name may come twice. -/
inductive Json where
  | null
  | bool (b : Bool)
  | natural (n : Nat)
  | negative (n : Int)
  | real (x : Float)
  | string (s : String)
  | array (items : List Json)
  | object (members : List (String × Json))
  deriving Inhabited

namespace Json

/-- A whole number. -/
def int (n : Int) : Json := if 0 ≤ n then natural n.toNat else negative n

/-- The members of an object under a name. -/
def all (members : List (String × Json)) (name : String) : List Json :=
  (members.filter fun m => m.1 == name).map (·.2)

/-- The member of an object under a name. -/
def get? (name : String) : Json → Option Json
  | object members => List.lookup name members
  | _ => none

end Json

end PhiCalculus
