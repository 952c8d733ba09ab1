/-!
# Handles

Declarations refer to each other, and to the types, expressions and statements that other passes
own, by number.  Each kind of thing has a number type of its own, so that the kinds are not mixed
up.
-/

namespace Declarations

/-- A type, owned by the type system. -/
structure TypeRef where
  number : Nat
  deriving DecidableEq, Inhabited

structure ExprRef where
  number : Nat
  deriving DecidableEq, Inhabited

structure StmtRef where
  number : Nat
  deriving DecidableEq, Inhabited

/-- A declaration: its place in the arena, in the order of creation. -/
structure DeclId where
  number : Nat
  deriving DecidableEq, Inhabited

/-- A struct, union, class or interface: its place among the aggregates of the arena. -/
structure AggregateId where
  number : Nat
  deriving DecidableEq, Inhabited

def TypeRef.text (type : TypeRef) : String :=
  "ty#" ++ toString type.number

def ExprRef.text (expression : ExprRef) : String :=
  "expr#" ++ toString expression.number

def StmtRef.text (statement : StmtRef) : String :=
  "stmt#" ++ toString statement.number

def DeclId.text (id : DeclId) : String :=
  "decl#" ++ toString id.number

def AggregateId.text (id : AggregateId) : String :=
  "agg#" ++ toString id.number

end Declarations
