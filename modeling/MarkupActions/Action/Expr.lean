import MarkupActions.Argument.Literal

/-! The call shell of an action, `path(arguments)`. The last character of the text closes the
argument list, whatever brackets the list holds, so text after a complete call becomes part of its
arguments. -/

namespace MarkupActions

/-- The dotted path to a target. -/
structure ActionPath where
  segments : List String
  deriving DecidableEq, Repr

/-- The segments joined by dots. -/
def ActionPath.display (p : ActionPath) : String := ".".intercalate p.segments

/-- An action cut into its path and the text of its arguments. -/
structure ActionExpr where
  raw : String
  path : ActionPath
  rawArgs : String
  deriving DecidableEq, Repr

namespace ActionExpr

/-- The text less one leading root namespace and its dot. -/
def stripRoot (root cs : List Char) : List Char := ((root ++ ['.']).isPrefixOf? cs).getD cs

/-- The parts of a dotted path, trimmed, with empty ones dropped. -/
def pathSegments (cs : List Char) : List (List Char) :=
  ((Text.splitOn '.' cs).map Text.trim).filter (· ≠ [])

/-- The segments that the text before the first parenthesis names. -/
def headSegments (root head : List Char) : List (List Char) :=
  pathSegments (stripRoot root (Text.trim head))

/-- The text before the first opening parenthesis and the text between it and a closing one that
ends the whole. The first must not be empty. -/
def cut? (cs : List Char) : Option (List Char × List Char) :=
  match cs.span (· ≠ '(') with
  | (head, _ :: body) =>
    if head ≠ [] ∧ body.getLast? = some ')' then some (head, body.dropLast) else none
  | (_, []) => none

/-- Reads the shell of an action; its arguments are not looked at. -/
def parse (action root : String) : Except ActionError ActionExpr :=
  match cut? action.toList with
  | none => .error (.malformed action)
  | some (head, body) =>
    match headSegments root.toList head with
    | [] => .error (.malformed action)
    | segments => .ok ⟨action, ⟨segments.map String.ofList⟩, String.ofList body⟩

/-- Reads the arguments in order. A blank list has none. -/
def arguments (e : ActionExpr) : Except ActionError (List Literal) :=
  if Text.trim e.rawArgs.toList = [] then .ok [] else Literal.parseAll e.rawArgs

end ActionExpr

end MarkupActions
