import Declarations.Diagnostic.Basic
import Declarations.Interner
import Declarations.Overload.Tour

/-!
# Reports of errors

The report of an error calls the declarations that are involved by their names and points at their
places.
-/

namespace Declarations

namespace DeclError

/-- The names and places that a report can refer to. -/
structure Context where
  arena : Arena
  interner : Interner

namespace Context

def quote (context : Context) (declaration : Declaration) : String :=
  "`" ++ context.interner.text declaration.name ++ "`"

def quoteAggregate (context : Context) (id : AggregateId) : Except Fault String := do
  return "`" ++ context.interner.text (← context.arena.aggregate id).name ++ "`"

def describe (context : Context) (declaration : Declaration) : String :=
  declaration.title ++ " " ++ context.quote declaration

/-- The aggregate that cannot be copied because the declaration is disabled. -/
def uncopyable? (declaration : Declaration) : Option AggregateId :=
  if declaration.asFunc?.any fun state => state.role = .postblit then
    declaration.memberOf?
  else
    none

def disabledMessage (context : Context) (declaration : Declaration) : Except Fault String := do
  match uncopyable? declaration with
  | some owner =>
      return (← context.quoteAggregate owner) ++
        " is not copyable because it is annotated with `@disable`"
  | none =>
      return context.describe declaration ++
        " cannot be used because it is annotated with `@disable`"

def quoteOwner (context : Context) (declaration : Declaration) : Except Fault String := do
  match declaration.localTo? with
  | some owner => return context.quote (← context.arena.get owner)
  | none => return "`<module>`"

def pointAtCandidates (context : Context) (report : Diagnostic) (candidates : List DeclId) :
    Except Fault Diagnostic :=
  candidates.foldlM (fun report candidate => do
    return report.withRelated (← context.arena.get candidate).span "candidate") report

def reason : Option Effect → String
  | some effect => effect.describe
  | none => "cannot keep the attribute"

def noteCallee (context : Context) (report : Diagnostic) (promised : Attribute)
    (cause : Option Effect) : Except Fault Diagnostic := do
  match cause.bind Effect.callee? with
  | some callee =>
      return report.withNote
        (context.quote (← context.arena.get callee) ++ " is not `" ++ promised.keyword ++ "`")
  | none => return report

end Context

/-- An empty report of the kind that the code of the error asks for. -/
def headline (cause : DeclError) (message : String) : Diagnostic :=
  if cause.code.isWarning then .warning cause.code message else .error cause.code message

def report (context : Context) (cause : DeclError) : Except Fault Diagnostic := do
  match cause with
  | disabled used span =>
      let declaration ← context.arena.get used
      let message ← context.disabledMessage declaration
      return ((cause.headline message).withPrimary span "used here").withRelated
        declaration.span "disabled here"
  | noMatchingOverload start span candidate =>
      let name := context.quote (← context.arena.get start)
      let message := "none of the overloads of " ++ name ++ " accept these arguments"
      let base := (cause.headline message).withPrimary span "no matching overload"
      let report ← context.pointAtCandidates base (← context.arena.candidates start)
      return if candidate.isNone then
        report.withNote (name ++ " has no callable overloads")
      else
        report
  | ambiguousOverload start span first second =>
      let name := context.quote (← context.arena.get start)
      let base := cause.headline ("call to " ++ name ++ " is ambiguous between two overloads")
      return (((base.withPrimary span "ambiguous call").withRelated
        (← context.arena.get first).span "could be this").withRelated
        (← context.arena.get second).span "or this").withSuggestion
        "add an explicit conversion to select one overload"
  | gotoSkipsInitializer skipped span =>
      let declaration ← context.arena.get skipped
      let message := "goto skips declaration of variable " ++ context.quote declaration ++
        " with an initializer"
      return ((cause.headline message).withPrimary span "jump skips the initialization").withRelated
        declaration.span "declared here"
  | unsafeFieldOverlap owner first second =>
      let firstField ← context.arena.get first
      let secondField ← context.arena.get second
      let message := "fields " ++ context.quote firstField ++ " and " ++
        context.quote secondField ++ " of " ++ (← context.quoteAggregate owner) ++
        " overlap and one of them holds pointers"
      return (((cause.headline message).withPrimary firstField.span "overlaps").withRelated
        secondField.span "this field").withNote "accessing either field is not `@safe`"
  | attributeViolation function promised effect =>
      let declaration ← context.arena.get function
      let reason := Context.reason effect
      let message := context.describe declaration ++ " is annotated `" ++ promised.keyword ++
        "` but " ++ reason
      let place := (effect.map Effect.span).getD declaration.span
      let base := (cause.headline message).withPrimary place reason
      let report ← context.noteCallee base promised effect
      return if effect.isSome then
        report.withRelated declaration.span "annotated here"
      else
        report
  | recursiveAlias name span =>
      let message := "alias `" ++ context.interner.text name ++ "` recursively refers to itself"
      return (cause.headline message).withPrimary span "recursive alias"
  | cannotAccessFrame used user span =>
      let declaration ← context.arena.get used
      let message := context.quote (← context.arena.get user) ++ " cannot access the frame of " ++
        (← context.quoteOwner declaration) ++ " to reach " ++ context.quote declaration
      return ((cause.headline message).withPrimary span "referenced here").withRelated
        declaration.span "declared here"
  | invalidTupleElement name span place =>
      let message := "element " ++ toString place ++ " of tuple `" ++ context.interner.text name ++
        "` does not fit the tuple's kind"
      return ((cause.headline message).withPrimary span "mixed tuple").withNote
        "a tuple holds either only types or only symbols and values"
  | notOverloadable existing added =>
      let earlier ← context.arena.get existing
      let later ← context.arena.get added
      let message := context.describe later ++ " cannot overload " ++ context.describe earlier
      return ((cause.headline message).withPrimary later.span "conflicting declaration").withRelated
        earlier.span "previous declaration"

end DeclError

end Declarations
