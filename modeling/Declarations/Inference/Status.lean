import Declarations.Arena.AliasChain
import Declarations.Config

/-!
# What is known about an attribute

Before the body of a function is looked at, its storage class, and what was concluded earlier, may
already settle whether it has an attribute.  Only functions that are marked for inference, and
literals, are looked into; for all others what is not written does not hold.
-/

namespace Declarations

/-- What is known about an attribute of a function without looking at its body. -/
inductive Status where
  | holds
  | fails
  /-- The body decides. -/
  | undecided
  deriving DecidableEq

namespace Declaration

def isInferable (declaration : Declaration) (state : Func) : Bool :=
  declaration.storage.contains .inference || state.role.isLiteral

/-- Whether the function can be looked into: it may be inferred, and it has a body that can be
understood. -/
def isTransparent (declaration : Declaration) (state : Func) : Bool :=
  declaration.isInferable state && state.body.isSome && !state.flags.contains .inlineAssembly

/-- Whether the storage class rules an attribute out: a system function is not safe. -/
def isRuledOut (declaration : Declaration) (wanted : Attribute) : Bool :=
  wanted = .safety && declaration.storage.contains .system

/-- What is known about an attribute of a declaration.  What was concluded and does not hold stays
that way. -/
def status (declaration : Declaration) (config : Config) (wanted : Attribute) : Status :=
  match declaration.asFunc? with
  | none => .fails
  | some state =>
      if wanted.holdsIn declaration.storage then
        .holds
      else if state.concluded.contains wanted || declaration.isRuledOut wanted then
        .fails
      else if declaration.isTransparent state && config.inferable.contains wanted then
        .undecided
      else
        .fails

/-- Whether the storage class has an attribute.  For safety this means safe, and not just
trusted. -/
def carries (declaration : Declaration) (wanted : Attribute) : Bool :=
  declaration.storage.contains wanted.flag

def isWritten (declaration : Declaration) (state : Func) (wanted : Attribute) : Bool :=
  declaration.carries wanted && !state.inferred.contains wanted

/-- The declaration after an attribute was concluded, one way or the other. -/
def conclude (declaration : Declaration) (wanted : Attribute) (holds : Bool) : Declaration :=
  match declaration.asFunc? with
  | none => declaration
  | some state =>
      let settled := { state with concluded := insert wanted state.concluded }
      if holds then
        { declaration with
          storage := insert wanted.flag declaration.storage
          entity := .func { settled with inferred := insert wanted state.inferred } }
      else
        { declaration with entity := .func settled }

def withdraw (declaration : Declaration) (wanted : Attribute) : Declaration :=
  { declaration.mapFunc fun state => { state with inferred := state.inferred \ {wanted} } with
    storage := declaration.storage \ {wanted.flag} }

end Declaration

namespace Arena

/-- Whether an effect other than a direct call breaks an attribute. -/
def breaksDirectly (arena : Arena) (wanted : Attribute) (effect : Effect) : Except Fault Bool := do
  match wanted, effect with
  | _, .indirectCall attributes _ => return !wanted.holdsIn attributes
  | .purity, .globalAccess accessed writes _ =>
      let declaration ← arena.get accessed
      return writes || !declaration.storage.meets {.immutable, .manifest}
  | .safety, .unsafeOperation _ => return true
  | .safety, .fieldAccess field _ =>
      return (← arena.asVariable? field).any fun state => state.flags.contains .overlapUnsafe
  | .nothrow, .throwing _ => return true
  | .nogc, .gcAllocation _ => return true
  | .nogc, .closureAllocation _ => return true
  | _, _ => return false

end Arena

end Declarations
