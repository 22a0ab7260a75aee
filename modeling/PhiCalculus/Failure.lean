import PhiCalculus.Value.Literal

/-!
# Failures

Why an evaluation did not end in a value.  A failure names its cause; one that arose while an
object was being dataized also carries the term of that object.  A raise is a failure that looks
for the attempt it is aimed at and carries an object to it.
-/

set_option autoImplicit false

namespace PhiCalculus

/-- What a failure is about: an object, by its vertex and form, or the global objects. -/
inductive Subject where
  | object (vertex : Vertex) (form : String)
  | globals
  deriving Repr, DecidableEq

/-- A subject as messages show it. -/
def Subject.text : Subject → String
  | object v form => v.text ++ "·" ++ form
  | globals => "the globals"

/-- Why an object has no value. -/
inductive NoData where
  /-- Neither the object nor what it decorates has a `Δ`. -/
  | missing
  /-- Its `Δ` is an object that is no data. -/
  | holds (found : Subject)
  deriving Repr, DecidableEq

def NoData.text : NoData → String
  | missing => "there is no Δ attribute, and no φ leads to one"
  | holds found => "Δ holds " ++ found.text ++ " instead of data"

/-- Why an evaluation failed. -/
inductive Failure where
  | notYetBound (attr : String) (object : Subject)
  | alreadyBound (attr : String) (object : Subject)
  | noSuchAttribute (attr : String) (object : Subject)
  | notData (object : Subject) (reason : NoData)
  | typeMismatch (attr : String) (expected found : TypeTag)
  | unsupportedType (name : String)
  | raise (target : Vertex) (payload : Ref)
  | divisionByZero (n : Int64)
  | outOfBounds (index : Int64) (size : Nat)
  | homeGone (object : Subject)
  | badLiteral (type text : String) (fault : LiteralFault)
  | custom (message : String)
  /-- The failure arose while the object with that term was being dataized. -/
  | during (term : String) (source : Failure)
  deriving Repr, DecidableEq

/-- The kinds of failures that are told apart. -/
inductive FailureKind where
  | notYetBound
  | alreadyBound
  | noSuchAttribute
  | notData
  | typeMismatch
  | unsupportedVertexType
  | raise
  | general
  deriving Repr, DecidableEq

def FailureKind.name : FailureKind → String
  | notYetBound => "NotYetBound"
  | alreadyBound => "AlreadyBound"
  | noSuchAttribute => "NoSuchAttribute"
  | notData => "NotData"
  | typeMismatch => "TypeMismatch"
  | unsupportedVertexType => "UnsupportedVertexType"
  | raise => "Raise"
  | general => "General"

namespace Failure

/-- The cause of a failure, without the terms of objects. -/
def cause : Failure → Failure
  | during _ source => source.cause
  | f => f

/-- The kind of the cause. -/
def kind : Failure → FailureKind
  | notYetBound _ _ => .notYetBound
  | alreadyBound _ _ => .alreadyBound
  | noSuchAttribute _ _ => .noSuchAttribute
  | notData _ _ => .notData
  | typeMismatch _ _ _ => .typeMismatch
  | unsupportedType _ => .unsupportedVertexType
  | raise _ _ => .raise
  | divisionByZero _ => .general
  | outOfBounds _ _ => .general
  | homeGone _ => .general
  | badLiteral _ _ _ => .general
  | custom _ => .general
  | during _ source => source.kind

/-- Whether the failure is on its way to an attempt. -/
def isRaise : Failure → Bool
  | raise _ _ => true
  | _ => false

/-- Whether the failure already has the term of an object. -/
def isPlaced : Failure → Bool
  | during _ _ => true
  | _ => false

/-- A failure as it is shown. -/
def message : Failure → String
  | notYetBound attr object =>
    "The attribute '" ++ attr ++ "' of " ++ object.text ++ " is not bound yet, can't read"
  | alreadyBound attr object =>
    "The attribute '" ++ attr ++ "' of " ++ object.text ++ " is already bound, can't rebind"
  | noSuchAttribute attr object => "Can't find attribute '" ++ attr ++ "' in " ++ object.text
  | notData object reason => "Can't dataize " ++ object.text ++ ": " ++ reason.text
  | typeMismatch attr expected found =>
    "The argument '." ++ attr ++ "' is of type '" ++ found.name ++ "', not '" ++ expected.name ++
      "' as expected"
  | unsupportedType name => "Unknown type for vertex allocation: " ++ name
  | raise target _ => "Nobody caught the raise aimed at " ++ target.text
  | divisionByZero n => "Can't divide " ++ Value.integerText n ++ " by zero"
  | outOfBounds index size =>
    "Index " ++ Value.integerText index ++ " is out of bounds, the array has " ++ toString size ++
      " elements"
  | homeGone object => "The home of " ++ object.text ++ " is gone"
  | badLiteral type text fault =>
    "Bad " ++ type ++ " literal '" ++ text ++ "': " ++ fault.message
  | custom message => message
  | during term source => source.message ++ "\n  while dataizing: " ++ term

end Failure

end PhiCalculus
