import Declarations.Declaration.Initializer
import Declarations.FlagSet

/-!
# Variables

The state of a declaration that is a variable: a local, a parameter, a field, a global, or one of
the variables that the compiler makes itself.
-/

namespace Declarations

/-- A fact about the origin or the role of a variable. -/
inductive VariableFlag where
  /-- Hidden parameter with the pointer to the variadic arguments. -/
  | argumentPointer
  /-- Initialized inside a constructor. -/
  | ctorInitialized
  /-- The exception of a catch clause. -/
  | caught
  /-- A class instance that was moved to the stack. -/
  | onStack
  /-- Allocated by an allocator of its class. -/
  | ownAllocator
  /-- Shares bytes with another field. -/
  | overlapped
  /-- Shares bytes in such a way that safe code could forge a pointer. -/
  | overlapUnsafe
  /-- `scope` must not be inferred. -/
  | noScopeInference
  deriving DecidableEq

instance : Flag VariableFlag where
  all := [.argumentPointer, .ctorInitialized, .caught, .onStack, .ownAllocator, .overlapped,
    .overlapUnsafe, .noScopeInference]
  mem_all := by intro flag; cases flag <;> decide
  nodup_all := by decide
  bit := VariableFlag.ctorIdx

inductive DescriptorKind where
  | generic
  | struct
  | classType
  | interface
  | pointer
  | array
  | staticArray
  | associativeArray
  | enum
  | function
  | delegate
  | tuple
  | const
  | immutable
  | shared
  | wild
  | vector
  deriving DecidableEq

inductive VariableRole where
  /-- An ordinary variable, parameter or field. -/
  | plain
  /-- The hidden parameter with the object of a member function. -/
  | this
  /-- The initial data of an aggregate. -/
  | initialData (aggregate : AggregateId)
  /-- The descriptor of a type at run time. -/
  | descriptor (kind : DescriptorKind) (described : TypeRef)
  deriving DecidableEq

structure Variable where
  role : VariableRole := .plain
  initializer : Option Initializer := none
  /-- The first byte of a field, once its aggregate is laid out. -/
  offset : UInt32 := 0
  /-- The number of bytes of a field, once its aggregate is laid out. -/
  size : UInt32 := 0
  /-- The place of the variable in the order in which variables were made. -/
  sequence : Nat := 0
  /-- The alignment that is asked for; without it the type decides. -/
  alignment : Option UInt32 := none
  flags : FlagSet VariableFlag := ∅
  /-- The variable that is declared before this one in the same chain of scopes. -/
  previous : Option DeclId := none
  /-- The nested functions that refer to this variable. -/
  nestedReferences : List DeclId := []
  /-- The declaration that this variable is another name for. -/
  standsFor : Option DeclId := none
  /-- The call of the destructor at the end of the scope. -/
  destructor : Option ExprRef := none

/-- Whether leaving out the initializer would be noticed. -/
def Variable.hasNontrivialInitializer (declared : Variable) : Bool :=
  declared.initializer.any fun initializer => !initializer.isTrivial

end Declarations
