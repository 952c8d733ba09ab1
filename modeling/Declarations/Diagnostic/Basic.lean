import Declarations.Diagnostic.Code
import Declarations.Span

/-!
# Diagnostics

A diagnostic is a report to the programmer: what is wrong, where, what else is involved, and what
could be done about it.
-/

namespace Declarations

inductive Severity where
  | error
  | warning
  | note
  deriving DecidableEq

def Severity.title : Severity → String
  | .error => "error"
  | .warning => "warning"
  | .note => "note"

/-- A place that a diagnostic points at. -/
structure Marker where
  span : Span
  message : String
  /-- Whether this is where the problem is, rather than a related place. -/
  isPrimary : Bool
  deriving DecidableEq

structure Diagnostic where
  code : Code
  severity : Severity := .error
  message : String := ""
  markers : List Marker := []
  notes : List String := []
  suggestions : List String := []
  deriving DecidableEq

namespace Diagnostic

def error (code : Code) (message : String) : Diagnostic :=
  { code, message }

def warning (code : Code) (message : String) : Diagnostic :=
  { code, message, severity := .warning }

def withPrimary (diagnostic : Diagnostic) (span : Span) (message : String) : Diagnostic :=
  { diagnostic with markers := diagnostic.markers ++ [⟨span, message, true⟩] }

def withRelated (diagnostic : Diagnostic) (span : Span) (message : String) : Diagnostic :=
  { diagnostic with markers := diagnostic.markers ++ [⟨span, message, false⟩] }

def withNote (diagnostic : Diagnostic) (note : String) : Diagnostic :=
  { diagnostic with notes := diagnostic.notes ++ [note] }

def withSuggestion (diagnostic : Diagnostic) (suggestion : String) : Diagnostic :=
  { diagnostic with suggestions := diagnostic.suggestions ++ [suggestion] }

/-- Where the problem is: the first primary place. -/
def primarySpan? (diagnostic : Diagnostic) : Option Span :=
  (diagnostic.markers.find? Marker.isPrimary).map Marker.span

def isError (diagnostic : Diagnostic) : Bool :=
  diagnostic.severity = .error

/-- The line that shows a place; an arrow leads to a primary one. -/
def markerLine (marker : Marker) : String :=
  "\n  " ++ (if marker.isPrimary then "-->" else "   ") ++ " " ++ marker.span.text ++ ": " ++
    marker.message

/-- The whole report: a headline, then a line for each place, remark and piece of advice. -/
def render (diagnostic : Diagnostic) : String :=
  diagnostic.severity.title ++ " [" ++ diagnostic.code.text ++ "]: " ++ diagnostic.message ++
    String.join (diagnostic.markers.map markerLine) ++
    String.join (diagnostic.notes.map fun note => "\n  = note: " ++ note) ++
    String.join (diagnostic.suggestions.map fun suggestion => "\n  = help: " ++ suggestion)

end Diagnostic

end Declarations
