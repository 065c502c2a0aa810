import MarkupActions.Audit.Directory
import MarkupActions.Html.Parse
import MarkupActions.Shape.Config

/-! What a host program can ask for without a page. Paths may start with the standard root namespace
there, and a failure is told in one line. -/

namespace MarkupActions

/-- An error in one line, with its code in front. -/
def ActionError.line (e : ActionError) : String := e.code ++ ": " ++ e.message

namespace Bridge

/-- The answer to a host that asks whether the bridge is there. -/
def greeting : String := "Directive Native Bridge Connected"

/-- Reads an action as a whole, less the blanks around it. -/
def parse (action : String) : Except ActionError (ActionPath × List Literal) := do
  let c : Config := {}
  let e ← ActionExpr.parse (Text.trimmed action) c.rootNamespace
  return (e.path, ← e.arguments)

/-- Checks the markup files at and below a node of a file tree, with settings given as a text and
every path taken for known. -/
def audit (base : String) (t : Option FileTree) (settings : Option String) :
    Except Config.LoadError Report := do
  let c ← settings.mapM Config.load
  return (Audit.directory base t (c.getD {}) none).1

end Bridge

end MarkupActions
