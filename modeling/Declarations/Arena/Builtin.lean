import Declarations.Arena.Basic

/-!
# Functions that the compiler evaluates

The compiler knows some functions by their names in the object file and evaluates them itself.
Whether a function is one of them is looked up once and then remembered.
-/

namespace Declarations

namespace Arena

/-- What the table of known names says about a name. -/
def builtinStatus (known : List Name) (symbol : Name) : BuiltinStatus :=
  if known.contains symbol then .yes else .no

/-- Whether the compiler evaluates a declaration itself.  Only the first question about a function
looks at the table; a declaration that is no function, or has no name in the object file, is not
evaluated. -/
def isBuiltin (arena : Arena) (known : List Name) (id : DeclId) : Except Fault (Bool × Arena) := do
  let declaration ← arena.get id
  match declaration.mangledName?, declaration.asFunc? with
  | some symbol, some state =>
      match state.builtin with
      | .yes => return (true, arena)
      | .no => return (false, arena)
      | .unknown =>
          let status := builtinStatus known symbol
          let arena ← arena.modifyFunc id fun state => { state with builtin := status }
          return (status = .yes, arena)
  | _, _ => return (false, arena)

end Arena

end Declarations
