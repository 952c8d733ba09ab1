import Declarations.StorageClass

/-!
# Type modifiers

A member function sees its object through a reference with modifiers, and a call has to convert the
modifiers of the object to those.  The only conversions are to the same modifiers and to modifiers
that add `const`.
-/

namespace Declarations

inductive Modifier where
  | const
  | immutable
  | shared
  | wild
  deriving DecidableEq

instance : Flag Modifier where
  all := [.const, .immutable, .shared, .wild]
  mem_all := by intro modifier; cases modifier <;> decide
  nodup_all := by decide
  bit := Modifier.ctorIdx

def Modifier.flag : Modifier → StorageFlag
  | .const => .const
  | .immutable => .immutable
  | .shared => .shared
  | .wild => .wild

abbrev Modifiers := FlagSet Modifier

namespace Modifiers

/-- The modifiers that a declaration asks for. -/
def ofStorage (storage : StorageClass) : Modifiers :=
  FlagSet.ofList ((Flag.all : List Modifier).filter fun modifier => storage.contains modifier.flag)

theorem mem_ofStorage {storage : StorageClass} {modifier : Modifier} :
    modifier ∈ ofStorage storage ↔ modifier.flag ∈ storage := by
  simp only [ofStorage, FlagSet.mem_ofList, List.mem_filter, Flag.mem_all, true_and]
  exact Iff.rfl

/-- The modifiers of a reference that is both `inout` and `const`. -/
def wildConst : Modifiers :=
  {.wild, .const}

/-- Whether dropping `shared` from both sides leaves a conversion that adds `const`. -/
def addsConst (source target : Modifiers) : Bool :=
  (target = {.const} && (source = ∅ || source = {.wild} || source = wildConst)) ||
    (target = wildConst && source = {.wild})

/-- Whether a reference with the modifiers `source` converts to one with the modifiers `target`.
The same modifiers always convert.  Immutable data is never written, so it converts to `const` data
whether that is shared or not; any other conversion keeps `shared` as it is and adds `const`. -/
def convertsTo (source target : Modifiers) : Bool :=
  if source = target then
    true
  else
    let unsharedSource : Modifiers := source \ {.shared}
    let unsharedTarget : Modifiers := target \ {.shared}
    if unsharedSource = {.immutable} then
      unsharedTarget = {.const} || unsharedTarget = wildConst
    else
      addsConst unsharedSource unsharedTarget &&
        source.contains .shared == target.contains .shared

end Modifiers

end Declarations
