import Declarations.Overload.Match

/-!
# Matching by tables

A type system that is small enough to be written down: tables say how well an argument converts to
the type of a parameter, and limits say how well a function can fit at best.
-/

namespace Declarations

/-- How well arguments of one type fit parameters of another. -/
structure ConversionRow where
  source : TypeRef
  target : TypeRef
  level : MatchLevel

/-- How well a certain argument fits parameters of a type, whatever its own type is. -/
structure ExpressionRow where
  expression : ExprRef
  target : TypeRef
  level : MatchLevel

/-- A limit on how well a function fits.  It concerns the functions that have everything it names.
-/
structure LevelLimit where
  function : Option DeclId := none
  /-- The type of the object of the call; the limit may also ask for a call without one. -/
  object : Option (Option TypeRef) := none
  type : Option TypeRef := none
  storage : StorageClass := ∅
  level : MatchLevel

structure ConversionTable where
  conversions : List ConversionRow := []
  expressions : List ExpressionRow := []
  /-- Whether a parameter by reference takes only lvalues. -/
  checksReferences : Bool := false
  limits : List LevelLimit := []

def MatchLevel.worse (left right : MatchLevel) : MatchLevel :=
  if left ≤ right then left else right

def LevelLimit.concerns (limit : LevelLimit) (signature : Signature) (object : Option TypeRef) :
    Bool :=
  limit.function.all (· = signature.function) && limit.object.all (· = object) &&
    limit.type.all (some · = signature.type) && limit.storage ⊆ signature.storage

namespace ConversionTable

def expressionLevel? (table : ConversionTable) (argument : Argument) (target : TypeRef) :
    Option MatchLevel := do
  let expression ← argument.expression
  let row ← table.expressions.find? fun row => row.expression = expression && row.target = target
  return row.level

def conversionLevel (table : ConversionTable) (source target : TypeRef) : MatchLevel :=
  if source = target then
    .exact
  else
    match table.conversions.find? fun row => row.source = source && row.target = target with
    | some row => row.level
    | none => .noMatch

def argumentLevel (table : ConversionTable) (parameter : Parameter) (argument : Argument) :
    MatchLevel :=
  if table.checksReferences && parameter.isByReference && !argument.isLvalue then
    .noMatch
  else
    match table.expressionLevel? argument parameter.type with
    | some level => level
    | none => table.conversionLevel argument.type parameter.type

/-- How well the number of arguments fits: every parameter without an argument needs a default, and
further arguments are only for variadic functions. -/
def countLevel (signature : Signature) (count : Nat) : MatchLevel :=
  if (signature.parameters.drop count).any fun parameter => parameter.default.isNone then
    .noMatch
  else if count ≤ signature.parameters.length then
    .exact
  else
    match signature.variadic with
    | .none => .noMatch
    | .cStyle => .exact
    | .typesafe => .conversion

/-- The type system that the tables describe: a call fits as well as its worst part. -/
def oracle (table : ConversionTable) : MatchOracle := fun signature arguments object =>
  let matched := (signature.parameters.zip arguments).map fun pair =>
    table.argumentLevel pair.1 pair.2
  let limits := (table.limits.filter fun limit => limit.concerns signature object).map
    LevelLimit.level
  (matched ++ limits).foldl MatchLevel.worse (countLevel signature arguments.length)

end ConversionTable

structure CallRow where
  function : DeclId
  arguments : List TypeRef
  level : MatchLevel

def CallRow.oracle (rows : List CallRow) : MatchOracle := fun signature arguments _ =>
  let types := arguments.map Argument.type
  match rows.find? fun row => row.function = signature.function && row.arguments = types with
  | some row => row.level
  | none => .noMatch

end Declarations
