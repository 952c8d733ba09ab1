import Declarations.Declaration.Placement
import Declarations.Fault

/-!
# The arena

The arena holds every declaration and every aggregate of one compilation unit.  They are numbered
in the order in which they are made and never go away, so a handle that was given out stays good.
Analysis changes declarations in place.

A handle has 32 bits, so there is room for 2 ^ 32 declarations and for as many aggregates.  `tryAdd`
refuses a declaration for which there is no room; `add` and `addAggregate` are for a caller who
knows that there is.
-/

namespace Declarations

/-- The declarations of a compilation unit. -/
structure Arena where
  declarations : Array Declaration := #[]
  aggregates : Array Aggregate := #[]
  /-- The number that the next variable gets. -/
  nextSequence : Nat := 0

namespace Arena

def size (arena : Arena) : Nat :=
  arena.declarations.size

def get (arena : Arena) (id : DeclId) : Except Fault Declaration :=
  match arena.declarations[id.number]? with
  | some declaration => .ok declaration
  | none => .error (.noDeclaration id)

def aggregate (arena : Arena) (id : AggregateId) : Except Fault Aggregate :=
  match arena.aggregates[id.number]? with
  | some aggregate => .ok aggregate
  | none => .error (.noAggregate id)

def asFunc? (arena : Arena) (id : DeclId) : Except Fault (Option Func) := do
  return (← arena.get id).asFunc?

def asVariable? (arena : Arena) (id : DeclId) : Except Fault (Option Variable) := do
  return (← arena.get id).asVariable?

def modify (arena : Arena) (id : DeclId) (change : Declaration → Declaration) :
    Except Fault Arena :=
  if id.number < arena.size then
    .ok { arena with declarations := arena.declarations.modify id.number change }
  else
    .error (.noDeclaration id)

/-- Changes the state of a function; any other declaration stays as it is. -/
def modifyFunc (arena : Arena) (id : DeclId) (change : Func → Func) : Except Fault Arena :=
  arena.modify id fun declaration => declaration.mapFunc change

def modifyVariable (arena : Arena) (id : DeclId) (change : Variable → Variable) :
    Except Fault Arena :=
  arena.modify id fun declaration => declaration.mapVariable change

def modifyAggregate (arena : Arena) (id : AggregateId) (change : Aggregate → Aggregate) :
    Except Fault Arena :=
  if id.number < arena.aggregates.size then
    .ok { arena with aggregates := arena.aggregates.modify id.number change }
  else
    .error (.noAggregate id)

/-- Adds a declaration.  A variable gets the next number in the order of variables. -/
def add (arena : Arena) (declaration : Declaration) : DeclId × Arena :=
  let numbered := declaration.mapVariable fun state =>
    { state with sequence := arena.nextSequence }
  (⟨arena.size⟩,
    { arena with
      declarations := arena.declarations.push numbered
      nextSequence :=
        if declaration.asVariable?.isSome then arena.nextSequence + 1 else arena.nextSequence })

/-- How many declarations an arena has handles for. -/
def capacity : Nat := 4294967296

/-- Adds a declaration if there is room for it. -/
def tryAdd (arena : Arena) (declaration : Declaration) : Except Fault (DeclId × Arena) :=
  if arena.size < capacity then .ok (arena.add declaration) else .error .noRoom

def addAggregate (arena : Arena) (aggregate : Aggregate) : AggregateId × Arena :=
  (⟨arena.aggregates.size⟩, { arena with aggregates := arena.aggregates.push aggregate })

/-- Makes a declaration local to a function, where it can be found by its name.  The answer is the
declaration that had the name before. -/
def declareLocal (arena : Arena) (function declared : DeclId) :
    Except Fault (Option DeclId × Arena) := do
  let name := (← arena.get declared).name
  let moved ← arena.modify declared fun declaration =>
    { declaration with owner := .function function }
  let shadowed := (← moved.asFunc? function).bind fun state => state.findLocal? name
  let arena ← moved.modifyFunc function fun state => state.declareLocal name declared
  return (shadowed, arena)

def findLocal? (arena : Arena) (function : DeclId) (name : Name) :
    Except Fault (Option DeclId) := do
  return (← arena.asFunc? function).bind fun state => state.findLocal? name

end Arena

end Declarations
