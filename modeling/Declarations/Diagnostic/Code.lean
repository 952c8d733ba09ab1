/-!
# Diagnostic codes

Every report carries a code by which its explanation can be looked up.  The first digit of a code
says which analysis found the problem: 1 for declarations, 2 for overloads, 3 for attributes, 4 for
jumps and layout, 9 for the compiler itself.
-/

namespace Declarations

inductive Code where
  | disabled
  | recursiveAlias
  | invalidTupleElement
  | notOverloadable
  | frameAccess
  | noMatchingOverload
  | ambiguousCall
  | purityViolation
  | safetyViolation
  | nothrowViolation
  | nogcViolation
  | gotoSkipsInitializer
  | internal
  | tooManyErrors
  | unsafeFieldOverlap
  deriving DecidableEq

namespace Code

/-- Every code, in the order of their texts, with warnings last. -/
def all : List Code :=
  [disabled, recursiveAlias, invalidTupleElement, notOverloadable, frameAccess,
    noMatchingOverload, ambiguousCall, purityViolation, safetyViolation, nothrowViolation,
    nogcViolation, gotoSkipsInitializer, internal, tooManyErrors, unsafeFieldOverlap]

def text : Code → String
  | disabled => "E1001"
  | recursiveAlias => "E1002"
  | invalidTupleElement => "E1003"
  | notOverloadable => "E1004"
  | frameAccess => "E1005"
  | noMatchingOverload => "E2001"
  | ambiguousCall => "E2002"
  | purityViolation => "E3001"
  | safetyViolation => "E3002"
  | nothrowViolation => "E3003"
  | nogcViolation => "E3004"
  | gotoSkipsInitializer => "E4001"
  | internal => "E9001"
  | tooManyErrors => "E9002"
  | unsafeFieldOverlap => "W4001"

def ofText? (text : String) : Option Code :=
  all.find? fun code => code.text = text

/-- Whether the code belongs to a warning; the texts of those start with a `W`. -/
def isWarning : Code → Bool
  | unsafeFieldOverlap => true
  | _ => false

def description : Code → String
  | disabled => "declaration is disabled"
  | recursiveAlias => "recursive alias declaration"
  | invalidTupleElement => "invalid tuple element"
  | notOverloadable => "declaration is not overloadable"
  | frameAccess => "cannot access frame of function"
  | noMatchingOverload => "no matching overload"
  | ambiguousCall => "ambiguous call"
  | purityViolation => "purity violation"
  | safetyViolation => "safety violation"
  | nothrowViolation => "nothrow violation"
  | nogcViolation => "@nogc violation"
  | gotoSkipsInitializer => "goto skips declaration with initializer"
  | internal => "internal compiler error"
  | tooManyErrors => "too many errors"
  | unsafeFieldOverlap => "unsafe field overlap"

end Code

end Declarations
