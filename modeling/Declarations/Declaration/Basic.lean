import Declarations.Declaration.Aggregate
import Declarations.Declaration.Forwarding
import Declarations.Declaration.Func
import Declarations.Declaration.Tuple
import Declarations.Declaration.Variable
import Declarations.Error

/-!
# Declarations

A declaration gives a name to a variable, a function, a tuple, or to another declaration.  What all
declarations have in common is held here, together with the state that depends on what is declared.
-/

namespace Declarations

/-- Where a declaration stands. -/
inductive Owner where
  | topLevel
  | aggregate (id : AggregateId)
  | function (id : DeclId)
  deriving DecidableEq

/-- What is declared. -/
inductive Entity where
  | tuple (state : Tuple)
  | aliasing (state : Alias)
  | anchor (state : Anchor)
  | var (state : Variable)
  | func (state : Func)

/-- A named thing of the program. -/
structure Declaration where
  name : Name
  span : Span
  /-- The type, as analysis found it. -/
  type : Option TypeRef := none
  /-- The type, as it is written. -/
  writtenType : Option TypeRef := none
  storage : StorageClass := ∅
  visibility : Visibility := .undefined
  linkage : Linkage := .d
  /-- The number of walks along aliases that are passing through the declaration. -/
  inUse : Nat := 0
  /-- The name in the object file, if the program asks for one. -/
  mangleOverride : Option Name := none
  owner : Owner := .topLevel
  entity : Entity

/-- What can be written with a declaration of any kind; what is not written stays as it is. -/
structure Details where
  type : Option TypeRef := none
  storage : StorageClass := ∅
  visibility : Option Visibility := none
  linkage : Option Linkage := none
  mangleOverride : Option Name := none
  owner : Option Owner := none
  initializer : Option Initializer := none
  body : Option FuncBody := none
  variadic : Option Variadic := none

namespace Declaration

def var (name : Name) (span : Span) (type : Option TypeRef) : Declaration :=
  { name, span, type, writtenType := type, entity := .var {} }

def func (name : Name) (span : Span) (role : FuncRole) (parameters : List Parameter) :
    Declaration :=
  { name, span, entity := .func { role, parameters } }

def aliasing (name : Name) (span : Span) (state : Alias) : Declaration :=
  { name, span, entity := .aliasing state }

def anchor (name : Name) (span : Span) (state : Anchor) : Declaration :=
  { name, span, entity := .anchor state }

/-- A tuple, if its elements are of the right sort. -/
def tuple (name : Name) (span : Span) (kind : TupleKind) (elements : List TupleElement) :
    Except DeclError Declaration :=
  match Tuple.make kind elements with
  | .ok state => .ok { name, span, entity := .tuple state }
  | .error place => .error (.invalidTupleElement name span place)

/-- The hidden parameter with the object of a member function. -/
def thisParameter (span : Span) (type : TypeRef) : Declaration :=
  { name := .this, span, type := some type, writtenType := some type, storage := {.parameter}
    entity := .var { role := .this } }

def initialData (name : Name) (span : Span) (aggregate : AggregateId) : Declaration :=
  { name, span, storage := {.const}, entity := .var { role := .initialData aggregate } }

/-- The descriptor of a type at run time.  Descriptors are global, can be seen from everywhere and
have C linkage. -/
def descriptor (name : Name) (kind : DescriptorKind) (described : TypeRef) : Declaration :=
  { name, span := .synthetic, storage := {.static, .gshared}, visibility := .publicAccess
    linkage := .c, entity := .var { role := .descriptor kind described } }

/-- Gives the declaration a type.  The type counts as written if no other one is. -/
def withType (declaration : Declaration) (type : TypeRef) : Declaration :=
  { declaration with
    type := some type
    writtenType := declaration.writtenType <|> some type }

def withStorage (declaration : Declaration) (storage : StorageClass) : Declaration :=
  { declaration with storage := declaration.storage ∪ storage }

def asVariable? (declaration : Declaration) : Option Variable :=
  match declaration.entity with
  | .var state => some state
  | _ => none

def asFunc? (declaration : Declaration) : Option Func :=
  match declaration.entity with
  | .func state => some state
  | _ => none

def asTuple? (declaration : Declaration) : Option Tuple :=
  match declaration.entity with
  | .tuple state => some state
  | _ => none

def isFunction (declaration : Declaration) : Bool :=
  declaration.asFunc?.isSome

/-- Changes the state of a variable; any other declaration stays as it is. -/
def mapVariable (declaration : Declaration) (change : Variable → Variable) : Declaration :=
  match declaration.entity with
  | .var state => { declaration with entity := .var (change state) }
  | _ => declaration

def mapFunc (declaration : Declaration) (change : Func → Func) : Declaration :=
  match declaration.entity with
  | .func state => { declaration with entity := .func (change state) }
  | _ => declaration

/-- Gives the declaration what is written with it.  An initializer is only for variables; a body and
variadic arguments are only for functions. -/
def withDetails (declaration : Declaration) (details : Details) : Declaration :=
  let typed := details.type.elim declaration declaration.withType
  let described : Declaration :=
    { typed.withStorage details.storage with
      visibility := details.visibility.getD declaration.visibility
      linkage := details.linkage.getD declaration.linkage
      mangleOverride := details.mangleOverride <|> declaration.mangleOverride
      owner := details.owner.getD declaration.owner }
  let initialized := described.mapVariable fun state =>
    { state with initializer := details.initializer <|> state.initializer }
  initialized.mapFunc fun state =>
    { state with
      body := details.body <|> state.body
      variadic := details.variadic.getD state.variadic }

def next? (declaration : Declaration) : Option DeclId :=
  match declaration.entity with
  | .func state => state.next
  | .aliasing state => state.next
  | .anchor state => state.next
  | .var _ => none
  | .tuple _ => none

def isChainable (declaration : Declaration) : Bool :=
  match declaration.entity with
  | .func _ => true
  | .aliasing _ => true
  | .anchor _ => true
  | .var _ => false
  | .tuple _ => false

def withNext (declaration : Declaration) (next : DeclId) : Declaration :=
  match declaration.entity with
  | .func state => { declaration with entity := .func { state with next := some next } }
  | .aliasing state => { declaration with entity := .aliasing { state with next := some next } }
  | .anchor state => { declaration with entity := .anchor { state with next := some next } }
  | .var _ => declaration
  | .tuple _ => declaration

/-- The declaration that an alias, or a variable that is another name, stands for. -/
def standsFor? (declaration : Declaration) : Option DeclId :=
  match declaration.entity with
  | .aliasing state => state.target
  | .var state => state.standsFor
  | _ => none

def aliasedFunction? (declaration : Declaration) : Option DeclId :=
  match declaration.entity with
  | .func state =>
      match state.role with
      | .aliasTo target _ => some target
      | _ => none
  | _ => none

def title (declaration : Declaration) : String :=
  match declaration.entity with
  | .tuple _ => "tuple"
  | .aliasing _ => "alias"
  | .anchor _ => "overload alias"
  | .var state =>
      match state.role with
      | .initialData _ => "declaration"
      | _ => "variable"
  | .func state => state.role.behavior.title

/-- The name in the object file: the one that the program asks for, or else the one that the mangler
has given to a function. -/
def mangledName? (declaration : Declaration) : Option Name :=
  declaration.mangleOverride <|> declaration.asFunc?.bind Func.mangled

end Declaration

end Declarations
