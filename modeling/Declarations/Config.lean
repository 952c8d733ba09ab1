import Declarations.Attribute
import Declarations.Text.LowerCase
import Declarations.Text.WhiteSpace

/-!
# Configuration of the analysis

What the user of the compiler decides about the analysis, and how it is read from two settings: a
list of the attributes that may be inferred, and a switch that turns off checks of invariants.
-/

namespace Declarations

/-- What the user of the compiler decides about the analysis. -/
structure Config where
  /-- Whether invariants are checked around the functions of an aggregate. -/
  usesInvariants : Bool := true
  /-- The attributes that may be inferred; a function has another one only if it says so. -/
  inferable : Attributes := .full
  deriving DecidableEq

inductive ConfigError where
  /-- A list of attributes has something else in it. -/
  | unknownAttribute (word : String)
  /-- The value of a switch is neither on nor off. -/
  | invalidSwitch (setting value : String)
  deriving DecidableEq

def ConfigError.message : ConfigError → String
  | unknownAttribute word =>
      "unknown attribute `" ++ word ++ "`; expected pure, safe, nothrow, nogc, all or none"
  | invalidSwitch setting value =>
      "invalid value `" ++ value ++ "` for " ++ setting ++ "; expected 0, 1, true or false"

namespace Text

/-- The parts of a text between commas. -/
def parts : List Char → List (List Char)
  | [] => [[]]
  | ',' :: rest => [] :: parts rest
  | character :: rest =>
      match parts rest with
      | part :: others => (character :: part) :: others
      | [] => [[character]]

/-- A word of a setting, without the space around it and in lower case. -/
def word (text : List Char) : String :=
  String.ofList (lower (trim text))

end Text

namespace Attributes

def ofWord? (word : String) : Option Attributes :=
  if word = "" || word = "none" then some ∅
  else if word = "pure" then some {.purity}
  else if word = "safe" || word = "@safe" then some {.safety}
  else if word = "nothrow" then some {.nothrow}
  else if word = "nogc" || word = "@nogc" then some {.nogc}
  else if word = "all" then some .full
  else none

/-- The attributes that a list of words stands for; the error names the first word that stands for
none. -/
def ofWords : List String → Except ConfigError Attributes
  | [] => .ok ∅
  | word :: rest =>
      match ofWord? word with
      | none => .error (.unknownAttribute word)
      | some attributes => do
          return attributes ∪ (← ofWords rest)

/-- Reads a list of attributes that are divided by commas. -/
def parse (text : String) : Except ConfigError Attributes :=
  ofWords ((Text.parts text.toList).map Text.word)

end Attributes

namespace Config

def inferSetting : String :=
  "DSEM_INFER"

def noInvariantsSetting : String :=
  "DSEM_NO_INVARIANTS"

def parseSwitch (setting value : String) : Except ConfigError Bool :=
  let word := Text.word value.toList
  if word = "" || word = "0" || word = "false" then .ok false
  else if word = "1" || word = "true" then .ok true
  else .error (.invalidSwitch setting value)

/-- Reads the list of attributes that may be inferred; without the setting all may. -/
def readInferable (value : Option String) : Except ConfigError Attributes :=
  match value with
  | some text => Attributes.parse text
  | none => .ok .full

/-- Reads whether invariants are checked; without the setting they are. -/
def readUsesInvariants (value : Option String) : Except ConfigError Bool :=
  match value with
  | some text => do return !(← parseSwitch noInvariantsSetting text)
  | none => .ok true

/-- The configuration that some settings ask for.  The list of attributes is read first. -/
def ofSettings (setting? : String → Option String) : Except ConfigError Config := do
  let inferable ← readInferable (setting? inferSetting)
  let usesInvariants ← readUsesInvariants (setting? noInvariantsSetting)
  return { usesInvariants, inferable }

end Config

end Declarations
