import Declarations.Attribute
import Declarations.Diagnostic.Code
import Declarations.Effect
import Declarations.Name

/-!
# Errors

The ways in which declarations can be wrong.  A check answers with the cause, that is, with the
declarations and places that are involved.  A short message names them by number; the full report,
which shows their names and places, needs the declarations themselves.
-/

namespace Declarations

/-- A fault in the program under analysis. -/
inductive DeclError where
  /-- A use of a declaration that is disabled. -/
  | disabled (used : DeclId) (span : Span)
  /-- A call that no function of the overload set at `start` accepts; `candidate` is one of them. -/
  | noMatchingOverload (start : DeclId) (span : Span) (candidate : Option DeclId)
  /-- A call that two functions of an overload set accept equally well. -/
  | ambiguousOverload (start : DeclId) (span : Span) (first second : DeclId)
  /-- A jump over a declaration whose initializer is needed. -/
  | gotoSkipsInitializer (skipped : DeclId) (span : Span)
  /-- Two fields that share bytes, one of which holds pointers. -/
  | unsafeFieldOverlap (aggregate : AggregateId) (first second : DeclId)
  /-- A function that promises an attribute and breaks it. -/
  | attributeViolation (function : DeclId) (promised : Attribute) (cause : Option Effect)
  /-- An alias that leads back to itself. -/
  | recursiveAlias (name : Name) (span : Span)
  /-- A use of a local by a function that is not nested in the owner of the local. -/
  | cannotAccessFrame (used : DeclId) (user : DeclId) (span : Span)
  /-- A tuple with an element of the wrong sort. -/
  | invalidTupleElement (name : Name) (span : Span) (place : Nat)
  /-- A declaration that cannot join the overload set of another. -/
  | notOverloadable (existing added : DeclId)
  deriving DecidableEq

namespace DeclError

def code : DeclError → Code
  | disabled _ _ => .disabled
  | noMatchingOverload _ _ _ => .noMatchingOverload
  | ambiguousOverload _ _ _ _ => .ambiguousCall
  | gotoSkipsInitializer _ _ => .gotoSkipsInitializer
  | unsafeFieldOverlap _ _ _ => .unsafeFieldOverlap
  | attributeViolation _ .purity _ => .purityViolation
  | attributeViolation _ .safety _ => .safetyViolation
  | attributeViolation _ .nothrow _ => .nothrowViolation
  | attributeViolation _ .nogc _ => .nogcViolation
  | recursiveAlias _ _ => .recursiveAlias
  | cannotAccessFrame _ _ _ => .frameAccess
  | invalidTupleElement _ _ _ => .invalidTupleElement
  | notOverloadable _ _ => .notOverloadable

/-- A message of one line that names declarations by number. -/
def message : DeclError → String
  | disabled used _ => used.text ++ " is disabled"
  | noMatchingOverload start _ _ => "no overload of " ++ start.text ++ " matches"
  | ambiguousOverload _ _ first second =>
      "ambiguous call: " ++ first.text ++ " and " ++ second.text ++ " match equally"
  | gotoSkipsInitializer skipped _ => "goto skips initialization of " ++ skipped.text
  | unsafeFieldOverlap _ first second =>
      "unsafe overlap of " ++ first.text ++ " and " ++ second.text
  | attributeViolation function promised _ =>
      function.text ++ " violates `" ++ promised.keyword ++ "`"
  | recursiveAlias name _ => "recursive alias " ++ name.text
  | cannotAccessFrame used user _ => user.text ++ " cannot access the frame of " ++ used.text
  | invalidTupleElement _ _ place =>
      "tuple element " ++ toString place ++ " does not fit the tuple kind"
  | notOverloadable existing added => added.text ++ " cannot overload " ++ existing.text

end DeclError

end Declarations
