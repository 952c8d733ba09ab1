import Declarations.Handle

/-!
# Forwarding declarations

An alias is another name for a symbol or a type.  An anchor is a node of an overload chain that
stands for a function or for a whole overload set, and that a look-up never yields itself.
-/

namespace Declarations

structure Alias where
  /-- The declaration that it names, once that is known. -/
  target : Option DeclId := none
  /-- The type that it names, if it names a type. -/
  type : Option TypeRef := none
  /-- The next entry of the overload chain. -/
  next : Option DeclId := none
  /-- Whether it names something of a module that is not read yet. -/
  pendingImport : Bool := false

namespace Alias

def toSymbol (target : DeclId) : Alias where
  target := some target

def toType (type : TypeRef) : Alias where
  type := some type

/-- A name that a module that is not read yet will define. -/
def pending : Alias where
  pendingImport := true

def isResolved (aliasing : Alias) : Bool :=
  aliasing.target.isSome || aliasing.type.isSome

end Alias

structure Anchor where
  /-- The function, or the head of the overload set, that it stands for. -/
  target : Option DeclId := none
  /-- The next entry of the overload chain. -/
  next : Option DeclId := none
  /-- Whether it stands for the whole set that starts at the target. -/
  forwardsSet : Bool := false

end Declarations
