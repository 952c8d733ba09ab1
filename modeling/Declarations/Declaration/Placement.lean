import Declarations.Declaration.Basic

/-!
# Where a declaration lives

Questions about a declaration that it answers by itself: which aggregate it is a member of, which
function it is local to, and in which memory it is placed.
-/

namespace Declarations

namespace Declaration

def memberOf? (declaration : Declaration) : Option AggregateId :=
  match declaration.owner with
  | .aggregate id => some id
  | _ => none

def localTo? (declaration : Declaration) : Option DeclId :=
  match declaration.owner with
  | .function id => some id
  | _ => none

/-- A variable with one of these properties is not part of an object. -/
def outsideObjects : StorageClass :=
  {.static, .external, .manifest, .templateParameter, .tls, .gshared, .ctfe}

/-- The aggregate whose object is needed to reach the declaration: a field, or a function that has
an object. -/
def objectOf? (declaration : Declaration) : Option AggregateId :=
  match declaration.entity with
  | .var _ =>
      if declaration.storage.meets outsideObjects then none else declaration.memberOf?
  | .func state =>
      if state.role.behavior.hasThis && !declaration.storage.contains .static then
        declaration.memberOf?
      else
        none
  | _ => none

/-- Whether a function that is no other name for another needs the frame of the function around it.
A literal does unless it is written as a plain function or is a member. -/
def needsFrame (declaration : Declaration) : Bool :=
  match declaration.entity with
  | .func { role := .literal word, .. } => word ≠ .function && declaration.objectOf?.isNone
  | .func _ =>
      !declaration.storage.contains .static && declaration.linkage = .d &&
        declaration.localTo?.isSome
  | _ => false

def requestsStaticStorage : StorageClass :=
  {.static, .external, .tls, .gshared}

/-- Whether a variable lives as long as the program or the thread. -/
def hasStaticStorage (declaration : Declaration) : Bool :=
  match declaration.entity with
  | .var state =>
      if declaration.storage.meets {.manifest, .parameter} then
        false
      else
        match state.role with
        | .initialData _ => true
        | .descriptor _ _ => true
        | .this => false
        | .plain =>
            declaration.storage.meets requestsStaticStorage || declaration.owner = .topLevel
  | _ => false

/-- The properties that let all threads see one copy of a static variable. -/
def sharedBetweenThreads : StorageClass :=
  {.immutable, .shared, .gshared}

def isThreadLocal (declaration : Declaration) : Bool :=
  declaration.hasStaticStorage &&
    match declaration.entity with
    | .var { role := .plain, .. } =>
        declaration.storage.contains .tls || !declaration.storage.meets sharedBetweenThreads
    | _ => false

def isInDataSegment (declaration : Declaration) : Bool :=
  declaration.hasStaticStorage && !declaration.isThreadLocal

def isExported (declaration : Declaration) : Bool :=
  declaration.visibility = .exported

def isImported (declaration : Declaration) : Bool :=
  declaration.isExported &&
    match declaration.entity with
    | .func state => state.body.isNone
    | .var _ => declaration.storage.contains .external
    | _ => false

def hasAddress (declaration : Declaration) : Bool :=
  match declaration.entity with
  | .var _ => !declaration.storage.contains .manifest
  | .func _ => true
  | _ => false

def isDeallocator (declaration : Declaration) : Bool :=
  declaration.asFunc?.any fun state => state.role.behavior.isDeallocator

end Declaration

end Declarations
