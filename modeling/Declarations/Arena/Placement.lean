import Declarations.Arena.AliasChain
import Declarations.Config

/-!
# Where a declaration lives among others

Questions about a declaration that depend on what surrounds it: how visible it is, whether it needs
an object or a frame, whether it is dispatched, and whether it is where the program starts.
-/

namespace Declarations

namespace Arena

/-- The first visibility that is written along at most `steps` enclosing functions. -/
def inheritedVisibility (arena : Arena) : Nat → DeclId → Except Fault Visibility
  | 0, _ => .ok .publicAccess
  | steps + 1, id => do
      let declaration ← arena.get id
      if declaration.visibility ≠ .undefined then
        return declaration.visibility
      else
        match declaration.owner with
        | .topLevel => return .publicAccess
        | .function owner => inheritedVisibility arena steps owner
        | .aggregate owner =>
            let aggregate ← arena.aggregate owner
            if aggregate.visibility ≠ .undefined then
              return aggregate.visibility
            else
              return .publicAccess

/-- How visible a declaration is: as it says itself, or else as what it stands in says, or else to
everyone. -/
def visibility (arena : Arena) (id : DeclId) : Except Fault Visibility :=
  arena.inheritedVisibility (arena.size + 1) id

def needsObject (arena : Arena) (id : DeclId) : Except Fault Bool := do
  let declaration ← arena.get id
  match declaration.entity with
  | .var _ => return declaration.storage.contains .field
  | .func _ => return (← arena.get (← arena.aliasedFunction id)).objectOf?.isSome
  | _ => return false

/-- Whether the declaration is a function that needs the frame of the function around it. -/
def isNested (arena : Arena) (id : DeclId) : Except Fault Bool := do
  return (← arena.get (← arena.aliasedFunction id)).needsFrame

def isFinal (arena : Arena) (id : DeclId) : Except Fault Bool := do
  let declaration ← arena.get (← arena.aliasedFunction id)
  match declaration.memberOf? with
  | none => return false
  | some owner =>
      let aggregate ← arena.aggregate owner
      return declaration.storage.contains .final ||
        (aggregate.kind.isClass && aggregate.isFinal)

/-- Whether a member with the given declaration, in the given aggregate, can be dispatched as far as
the two can tell. -/
def canBeDispatched (declaration : Declaration) (aggregate : Aggregate) : Bool :=
  !declaration.storage.contains .static &&
    !(declaration.visibility = .privateAccess || declaration.visibility = .package) &&
    aggregate.kind.isClass

/-- Whether a call of the function goes through the table of the class. -/
def isVirtual (arena : Arena) (id : DeclId) : Except Fault Bool := do
  let function ← arena.aliasedFunction id
  let declaration ← arena.get function
  match declaration.asFunc?, declaration.memberOf? with
  | some state, some owner =>
      if state.role.behavior.dispatch = .never then
        return false
      else
        let aggregate ← arena.aggregate owner
        if !canBeDispatched declaration aggregate then
          return false
        else if aggregate.kind.isInterface then
          return !(← arena.isFinal function)
        else
          return true
  | _, _ => return false

/-- Whether the function has a slot in the table of the class: a final function has one only if it
overrides another. -/
def hasVtableSlot (arena : Arena) (id : DeclId) : Except Fault Bool := do
  let function ← arena.aliasedFunction id
  if !(← arena.isVirtual function) then
    return false
  else
    let overridesAny := (← arena.asFunc? function).any fun state => !state.overrides.isEmpty
    let isFinal ← arena.isFinal function
    return !isFinal || overridesAny

def isAbstract (arena : Arena) (id : DeclId) : Except Fault Bool := do
  let declaration ← arena.get id
  if declaration.storage.contains .abstract then
    return true
  else
    match declaration.asFunc?, declaration.memberOf? with
    | some state, some owner =>
        let aggregate ← arena.aggregate owner
        if aggregate.kind.isInterface && state.body.isNone &&
            !declaration.storage.contains .static then
          return !(← arena.isFinal id)
        else
          return false
    | _, _ => return false

def isExposed (visibility : Visibility) : Bool :=
  .protectedAccess ≤ visibility

/-- Whether a rule asks for a check of the invariant around a function. -/
def invariantApplies (arena : Arena) (config : Config) (id : DeclId) (rule : InvariantRule) :
    Except Fault Bool := do
  let declaration ← arena.get id
  match declaration.asFunc?, declaration.objectOf? with
  | some state, some owner =>
      if !config.usesInvariants then
        return false
      else
        match rule with
        | .never => return false
        | .withThis => return state.thisVariable.isSome
        | .member =>
            let aggregate ← arena.aggregate owner
            let exposed := isExposed (← arena.visibility id)
            let isForeignClass := aggregate.kind.isClass && aggregate.linkage = .cpp
            return !isForeignClass && exposed && !state.isNaked
  | _, _ => return false

def checksInvariantAtEntry (arena : Arena) (config : Config) (id : DeclId) :
    Except Fault Bool := do
  match ← arena.asFunc? id with
  | some state => arena.invariantApplies config id state.role.behavior.entryInvariant
  | none => return false

def checksInvariantAtExit (arena : Arena) (config : Config) (id : DeclId) :
    Except Fault Bool := do
  match ← arena.asFunc? id with
  | some state => arena.invariantApplies config id state.role.behavior.exitInvariant
  | none => return false

/-- Whether the declaration is a function outside aggregates and other functions, with a name from
which a program starts. -/
def isEntryPoint (arena : Arena) (name : Name) (id : DeclId) : Except Fault Bool := do
  let declaration ← arena.get id
  if declaration.name = name && declaration.isFunction && declaration.memberOf?.isNone then
    return !(← arena.isNested id)
  else
    return false

/-- Whether the declaration is an entry point of the given name that does not have C linkage. -/
def isNativeEntryPoint (arena : Arena) (name : Name) (id : DeclId) : Except Fault Bool := do
  return (← arena.isEntryPoint name id) && (← arena.get id).linkage ≠ .c

def isMain (arena : Arena) (id : DeclId) : Except Fault Bool :=
  arena.isNativeEntryPoint .main id

/-- Whether the declaration is where a program that follows C conventions starts. -/
def isCMain (arena : Arena) (id : DeclId) : Except Fault Bool := do
  return (← arena.isEntryPoint .main id) && (← arena.get id).linkage = .c

def isWinMain (arena : Arena) (id : DeclId) : Except Fault Bool :=
  arena.isNativeEntryPoint .winMain id

def isDllMain (arena : Arena) (id : DeclId) : Except Fault Bool :=
  arena.isNativeEntryPoint .dllMain id

end Arena

end Declarations
