import MarkupActions.Text.Blank

/-! Settings shared by binding, resolving and auditing. -/

namespace MarkupActions

/-- Which attribute holds actions, and which name may stand in front of every path. -/
structure Config where
  actionAttribute : String := "data-action"
  rootNamespace : String := "window"
  deriving DecidableEq, Repr

/-- What is wrong with settings that can be read. -/
inductive ConfigError where
  | badAttribute (name : String)
  | badRoot (name : String)
  deriving DecidableEq, Repr

def ConfigError.message : ConfigError → String
  | badAttribute name =>
    "invalid directive config: action attribute '" ++ name ++ "' is not a valid attribute name"
  | badRoot name =>
    "invalid directive config: root namespace '" ++ name ++ "' is not an identifier"

namespace Config

/-- A non-empty name without blanks. -/
def isAttributeName (cs : List Char) : Bool := cs ≠ [] && !cs.any Text.isBlank

def isIdentifierStart (c : Char) : Bool := c.isAlpha || c == '_' || c == '$'

/-- An ASCII letter, underscore or dollar sign, then more of these and digits. -/
def isIdentifier : List Char → Bool
  | [] => false
  | c :: cs => isIdentifierStart c && cs.all fun c => isIdentifierStart c || c.isDigit

/-- The attribute is checked first. -/
def validate (c : Config) : Except ConfigError Unit :=
  if !isAttributeName c.actionAttribute.toList then .error (.badAttribute c.actionAttribute)
  else if !isIdentifier c.rootNamespace.toList then .error (.badRoot c.rootNamespace)
  else .ok ()

end Config

end MarkupActions
