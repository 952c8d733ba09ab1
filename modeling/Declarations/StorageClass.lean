import Declarations.FlagSet

/-!
# Storage classes

Every yes-or-no property that a declaration can carry is a flag of one family: the storage classes
proper, the type modifiers, the function attributes and the marks that analysis itself leaves.  A
storage class is a set of them.  The set admits combinations that the language forbids, such as
`in` with `out` or two safety levels; other passes reject those.
-/

namespace Declarations

inductive StorageFlag where
  | static
  | external
  | const
  | final
  | abstract
  /-- Parameter of a function. -/
  | parameter
  /-- Field of an aggregate. -/
  | field
  | override
  | auto
  | synchronized
  | deprecated
  | input
  | output
  | lazy
  /-- Declared by a `foreach` statement. -/
  | foreach
  /-- Typesafe variadic parameter. -/
  | variadic
  /-- Field that only a constructor may initialize. -/
  | ctorInit
  | templateParameter
  | scope
  | immutable
  | ref
  /-- Has an initializer in the source. -/
  | initialized
  /-- Manifest constant; never occupies storage. -/
  | manifest
  /-- The destructor is not run. -/
  | noDtor
  | nothrow
  | pure
  /-- Lives in thread-local storage. -/
  | tls
  /-- Alias parameter of a template. -/
  | aliasParameter
  | shared
  /-- Global, not synchronised and not thread-local. -/
  | gshared
  | wild
  | property
  | safe
  | trusted
  | system
  /-- Usable only during evaluation at compile time. -/
  | ctfe
  | disable
  /-- Result variable made for an out-contract. -/
  | result
  | noDefaultCtor
  /-- Temporary made by the compiler. -/
  | temp
  | rvalue
  | nogc
  | volatile
  | returned
  | autoRef
  /-- The attributes of this function are inferred from its body. -/
  | inference
  /-- Temporary that lives until the end of the enclosing expression. -/
  | expTemp
  | maybeScope
  | scopeInferred
  | future
  | localOnly
  deriving DecidableEq

namespace StorageFlag

/-- Every property, in the order of the external numbering. -/
def catalogue : List StorageFlag :=
  [.static, .external, .const, .final, .abstract, .parameter, .field, .override, .auto,
   .synchronized, .deprecated, .input, .output, .lazy, .foreach, .variadic, .ctorInit,
   .templateParameter, .scope, .immutable, .ref, .initialized, .manifest, .noDtor, .nothrow,
   .pure, .tls, .aliasParameter, .shared, .gshared, .wild, .property, .safe, .trusted, .system,
   .ctfe, .disable, .result, .noDefaultCtor, .temp, .rvalue, .nogc, .volatile, .returned,
   .autoRef, .inference, .expTemp, .maybeScope, .scopeInferred, .future, .localOnly]

def keyword : StorageFlag → String
  | .static => "static"
  | .external => "extern"
  | .const => "const"
  | .final => "final"
  | .abstract => "abstract"
  | .parameter => "parameter"
  | .field => "field"
  | .override => "override"
  | .auto => "auto"
  | .synchronized => "synchronized"
  | .deprecated => "deprecated"
  | .input => "in"
  | .output => "out"
  | .lazy => "lazy"
  | .foreach => "foreach"
  | .variadic => "variadic"
  | .ctorInit => "ctorinit"
  | .templateParameter => "templateparameter"
  | .scope => "scope"
  | .immutable => "immutable"
  | .ref => "ref"
  | .initialized => "init"
  | .manifest => "manifest"
  | .noDtor => "nodtor"
  | .nothrow => "nothrow"
  | .pure => "pure"
  | .tls => "tls"
  | .aliasParameter => "alias"
  | .shared => "shared"
  | .gshared => "__gshared"
  | .wild => "inout"
  | .property => "@property"
  | .safe => "@safe"
  | .trusted => "@trusted"
  | .system => "@system"
  | .ctfe => "ctfe"
  | .disable => "@disable"
  | .result => "result"
  | .noDefaultCtor => "nodefaultctor"
  | .temp => "temp"
  | .rvalue => "rvalue"
  | .nogc => "@nogc"
  | .volatile => "volatile"
  | .returned => "return"
  | .autoRef => "auto ref"
  | .inference => "inference"
  | .expTemp => "exptemp"
  | .maybeScope => "maybescope"
  | .scopeInferred => "scopeinferred"
  | .future => "@future"
  | .localOnly => "local"

def ofKeyword? (word : String) : Option StorageFlag :=
  catalogue.find? fun flag => flag.keyword = word

/-- Properties are numbered in the order of the catalogue; number 15 is not in use. -/
def number (flag : StorageFlag) : Nat :=
  if flag.ctorIdx < 15 then flag.ctorIdx else flag.ctorIdx + 1

end StorageFlag

instance : Flag StorageFlag where
  all := StorageFlag.catalogue
  mem_all := by intro flag; cases flag <;> decide
  nodup_all := by decide
  bit := StorageFlag.number

abbrev StorageClass := FlagSet StorageFlag

namespace StorageClass

/-- The type constructors: the properties that become type modifiers. -/
def typeConstructors : StorageClass :=
  {.const, .immutable, .shared, .wild}

def safetyLevels : StorageClass :=
  {.safe, .trusted, .system}

/-- The attributes that become part of the type of a function. -/
def functionAttributes : StorageClass :=
  {.ref, .nothrow, .nogc, .pure, .property} ∪ safetyLevels

/-- The properties that can be written in front of a declaration. -/
def written : StorageClass :=
  {.auto, .scope, .static, .external, .const, .final, .abstract, .synchronized, .deprecated,
    .future, .override, .lazy, .aliasParameter, .output, .input, .manifest, .immutable, .shared,
    .wild, .nothrow, .nogc, .pure, .ref, .returned, .tls, .gshared, .property, .disable,
    .localOnly} ∪ safetyLevels

def keywords (storage : StorageClass) : List String :=
  storage.toList.map StorageFlag.keyword

end StorageClass

end Declarations
