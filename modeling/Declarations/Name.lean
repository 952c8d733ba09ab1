/-!
# Names

An identifier is compared by number: its place among the distinct texts of an interner.  The first
ten numbers belong to identifiers that declarations have to recognise without a look-up.
-/

namespace Declarations

/-- An identifier, by its place in an interner. -/
structure Name where
  index : Nat
  deriving DecidableEq, Inhabited

namespace Name

/-- The texts of the identifiers with fixed numbers, in the order of the numbers. -/
def wellKnownTexts : List String :=
  ["", "main", "WinMain", "DllMain", "this", "__result", "__ctor", "__dtor", "__postblit",
    "__invariant"]

def anonymous : Name := ⟨0⟩

def main : Name := ⟨1⟩

def winMain : Name := ⟨2⟩

def dllMain : Name := ⟨3⟩

/-- The object of a member function. -/
def this : Name := ⟨4⟩

/-- The variable that holds the result where an out contract can see it. -/
def result : Name := ⟨5⟩

def constructor : Name := ⟨6⟩

def destructor : Name := ⟨7⟩

/-- What runs after an aggregate was copied bit by bit. -/
def postblit : Name := ⟨8⟩

def invariant : Name := ⟨9⟩

def wellKnown : List Name :=
  [anonymous, main, winMain, dllMain, this, result, constructor, destructor, postblit, invariant]

def isWellKnown (name : Name) : Bool :=
  name.index < wellKnownTexts.length

/-- A name as reports show it without an interner at hand: its number, and its text if that is
fixed. -/
def text (name : Name) : String :=
  match wellKnownTexts[name.index]? with
  | some known => "Name(" ++ toString name.index ++ "=\"" ++ known ++ "\")"
  | none => "Name(" ++ toString name.index ++ ")"

end Name

end Declarations
