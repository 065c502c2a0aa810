/-! What can be wrong with an action, and how it is told. -/

namespace MarkupActions

/-- Everything that can go wrong between reading an action and calling its target, and the one
thing that can go wrong when markup is rendered. -/
inductive ActionError where
  | malformed (action : String)
  | unresolved (path : String)
  | notCallable (path : String)
  | unsupported (token : String)
  | missingContainer (id : String)
  deriving DecidableEq, Repr

namespace ActionError

/-- The name of the kind of error. -/
def kind : ActionError → String
  | malformed _ => "MalformedAction"
  | unresolved _ => "UnresolvedPath"
  | notCallable _ => "NotCallable"
  | unsupported _ => "UnsupportedArgumentToken"
  | missingContainer _ => "MissingContainer"

/-- The diagnostic code, which stays the same when wording changes. -/
def code : ActionError → String
  | malformed _ => "ACT001"
  | unresolved _ => "ACT002"
  | notCallable _ => "ACT003"
  | unsupported _ => "ACT004"
  | missingContainer _ => "ACT005"

def message : ActionError → String
  | malformed action => "malformed action '" ++ action ++ "'"
  | unresolved path => "action target '" ++ path ++ "' is not defined"
  | notCallable path => "action target '" ++ path ++ "' is not a function"
  | unsupported token => "unsupported argument token: " ++ token
  | missingContainer id => "no element with id '" ++ id ++ "' to render into"

/-- Advice for the author of the markup. -/
def hint : ActionError → String
  | malformed _ =>
    "Actions are written as `path.to.fn(arg, ...)` and must end with `)`."
  | unresolved _ => "Every action target must be registered before the page binds."
  | notCallable _ => "The action path names a namespace or value, not a function."
  | unsupported _ =>
    "Arguments may be quoted strings, integers, booleans, \x7bsection: 'name'\x7d or the profile name text."
  | missingContainer _ =>
    "Markup can only be rendered into an element that exists in the document."

end ActionError

end MarkupActions
