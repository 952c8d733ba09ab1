import Declarations.Handle

/-!
# Roles of functions

Constructors, destructors, literals and the other special functions have the same state as a plain
function.  They differ in what they are called, whether they are dispatched, when invariants are
checked around them, whether they take part in overloading, and whether they have an object.
-/

namespace Declarations

inductive LiteralWord where
  | function
  | delegate
  /-- Not decided yet. -/
  | undecided
  deriving DecidableEq

inductive FuncRole where
  | plain
  /-- Another name for `target`, or, if it forwards the set, for all overloads of `target`. -/
  | aliasTo (target : DeclId) (forwardsSet : Bool)
  | literal (word : LiteralWord)
  | ctor
  | postblit
  | dtor
  | staticCtor
  | sharedStaticCtor
  | staticDtor
  | sharedStaticDtor
  | invariant
  | unitTest
  | allocator
  | deallocator
  deriving DecidableEq

/-- When a function is dispatched through the table of its class. -/
inductive Dispatch where
  /-- When it is a member of a class that can be overridden. -/
  | member
  | never
  deriving DecidableEq

/-- When the invariant of the aggregate is checked at the entry or the exit of a function. -/
inductive InvariantRule where
  /-- When it is a member with a frame that other modules can call. -/
  | member
  /-- When it is a member and has an object. -/
  | withThis
  | never
  deriving DecidableEq

structure FuncBehavior where
  /-- What such a function is called in reports. -/
  title : String
  dispatch : Dispatch := .never
  entryInvariant : InvariantRule := .never
  exitInvariant : InvariantRule := .never
  /-- Whether other functions may join its overload set. -/
  overloadable : Bool := true
  /-- Whether it can be a member that has an object. -/
  hasThis : Bool
  isDeallocator : Bool := false

namespace FuncRole

/-- A function that is dispatched, and checked, when its place asks for it. -/
def ordinaryBehavior (title : String) : FuncBehavior where
  title
  dispatch := .member
  entryInvariant := .member
  exitInvariant := .member
  hasThis := true

def behavior : FuncRole → FuncBehavior
  | plain => ordinaryBehavior "function"
  | aliasTo _ _ => ordinaryBehavior "function alias"
  | literal .delegate => { title := "delegate", hasThis := true }
  | literal .function => { title := "function", hasThis := false }
  | literal .undecided => { title := "delegate", hasThis := false }
  | ctor => { title := "constructor", hasThis := true, exitInvariant := .withThis }
  | postblit =>
      { title := "postblit", hasThis := true, exitInvariant := .withThis, overloadable := false }
  | dtor =>
      { title := "destructor", hasThis := true, entryInvariant := .withThis, overloadable := false }
  | staticCtor => { title := "static constructor", hasThis := false }
  | sharedStaticCtor => { title := "shared static constructor", hasThis := false }
  | staticDtor => { title := "static destructor", hasThis := false }
  | sharedStaticDtor => { title := "shared static destructor", hasThis := false }
  | invariant => { title := "invariant", hasThis := true }
  | unitTest => { title := "unittest", hasThis := false }
  | allocator => { title := "allocator", hasThis := true }
  | deallocator => { title := "deallocator", hasThis := true, isDeallocator := true }

def isLiteral : FuncRole → Bool
  | literal _ => true
  | _ => false

end FuncRole

end Declarations
