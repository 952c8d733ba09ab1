/-!
# Visibility

How far a declaration can be seen.  The levels are ordered from the least visible to the most
visible one.  `undefined` says that no level is written; the level then comes from the context.
-/

namespace Declarations

inductive Visibility where
  | undefined
  | none
  | privateAccess
  | package
  | protectedAccess
  | publicAccess
  | exported
  deriving DecidableEq, Inhabited

namespace Visibility

def all : List Visibility :=
  [undefined, none, privateAccess, package, protectedAccess, publicAccess, exported]

def rank (level : Visibility) : Nat :=
  level.ctorIdx

instance : LE Visibility := ⟨fun left right => left.rank ≤ right.rank⟩

instance : LT Visibility := ⟨fun left right => left.rank < right.rank⟩

instance (left right : Visibility) : Decidable (left ≤ right) :=
  inferInstanceAs (Decidable (left.rank ≤ right.rank))

instance (left right : Visibility) : Decidable (left < right) :=
  inferInstanceAs (Decidable (left.rank < right.rank))

def keyword : Visibility → String
  | undefined => "undefined"
  | none => "none"
  | privateAccess => "private"
  | package => "package"
  | protectedAccess => "protected"
  | publicAccess => "public"
  | exported => "export"

end Visibility

end Declarations
