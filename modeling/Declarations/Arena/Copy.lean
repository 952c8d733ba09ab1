import Declarations.Arena.Basic

/-!
# Copies of declarations

Each instance of a template has declarations of its own, made as copies of those of the template.  A
copy has everything that was written, and nothing that analysis found out about the declaration in
the template.  The declarations in a tuple are copied with it.
-/

namespace Declarations

def Variable.asWritten (state : Variable) : Variable where
  role := state.role
  initializer := state.initializer
  alignment := state.alignment

/-- A function as it was written, with the effects of its body. -/
def Func.asWritten (state : Func) : Func where
  role := state.role
  parameters := state.parameters
  variadic := state.variadic
  body := state.body
  inContract := state.inContract
  outContract := state.outContract
  returnLabel := state.returnLabel
  flags := state.flags

/-- What is declared, as it was written and without its place in an overload chain. -/
def Entity.asWritten : Entity → Entity
  | .var state => .var state.asWritten
  | .func state => .func state.asWritten
  | .aliasing state => .aliasing { state with next := none }
  | .anchor state => .anchor { state with next := none }
  | .tuple state => .tuple state

namespace Declaration

/-- The properties that inference has added to a declaration. -/
def inferredStorage (declaration : Declaration) : StorageClass :=
  match declaration.asFunc? with
  | some state => state.inferred.storage
  | none => ∅

def asWritten (declaration : Declaration) : Declaration :=
  { declaration with
    type := declaration.writtenType <|> declaration.type
    storage := declaration.storage \ declaration.inferredStorage
    inUse := 0
    entity := declaration.entity.asWritten }

/-- Replaces the elements of a tuple; any other declaration stays as it is. -/
def withElements (declaration : Declaration) (elements : List TupleElement) : Declaration :=
  match declaration.entity with
  | .tuple state => { declaration with entity := .tuple { state with elements } }
  | _ => declaration

end Declaration

namespace Arena

/-- Copies the declarations among the elements of a tuple with `copy`; the other elements stay. -/
def copyElements (copy : Arena → DeclId → Except Fault (DeclId × Arena)) :
    Arena → List TupleElement → Except Fault (List TupleElement × Arena)
  | arena, [] => .ok ([], arena)
  | arena, .declaration member :: rest => do
      let (copied, arena) ← copy arena member
      let (others, arena) ← copyElements copy arena rest
      return (.declaration copied :: others, arena)
  | arena, element :: rest => do
      let (others, arena) ← copyElements copy arena rest
      return (element :: others, arena)

/-- Copies a declaration, with tuples inside each other at most `depth` deep. -/
def copyWithin : Nat → Arena → DeclId → Except Fault (DeclId × Arena)
  | 0, _, _ => .error .unfinished
  | depth + 1, arena, id => do
      let declaration ← arena.get id
      let (copied, arena) ← arena.tryAdd declaration.asWritten
      match declaration.asTuple? with
      | none => return (copied, arena)
      | some state =>
          let (elements, arena) ← copyElements (copyWithin depth) arena state.elements
          let arena ← arena.modify copied fun declaration => declaration.withElements elements
          return (copied, arena)

/-- Copies a declaration for another instance of its template.  Tuples can only be inside each other
as deep as there are declarations, unless one contains itself. -/
def copy (arena : Arena) (id : DeclId) : Except Fault (DeclId × Arena) :=
  copyWithin (arena.size + 1) arena id

end Arena

end Declarations
