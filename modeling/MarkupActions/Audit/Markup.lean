import Std.Data.TreeSet
import MarkupActions.Action.Expr
import MarkupActions.Audit.Report
import MarkupActions.Config
import MarkupActions.Document.Edit

/-! Checking the actions in markup without a page: as resolving them would, but against a list of
known paths, if there is one, and with no values. -/

namespace MarkupActions.Audit

/-- Whether paths are known: all of them where there is no list. -/
abbrev Known := Option (Std.TreeSet String)

/-- Checks syntax, then the path, then the arguments. -/
def check (action : String) (c : Config) (known : Known) : Except ActionError Unit := do
  let e ← ActionExpr.parse action c.rootNamespace
  if known.all (·.contains e.path.display) then discard e.arguments
  else .error (.unresolved e.path.display)

/-- The elements with an action that is not blank, with that action trimmed. -/
def actions (d : Document) (c : Config) : List (NodeId × String) :=
  (d.elements Document.root).filterMap fun n =>
    match d.attribute? n c.actionAttribute with
    | none => none
    | some value =>
      let action := Text.trimmed value
      if action = "" then none else some (n, action)

/-- What is found at one element. -/
def finding? (d : Document) (file : String) (c : Config) (known : Known) (n : NodeId)
    (action : String) : Option Finding :=
  match check action c known with
  | .ok () => none
  | .error e => some {
      file
      tag := ((d.kind? n).bind (·.tagName?)).getD ""
      elementId := d.attribute? n "id"
      action
      code := e.code
      message := e.message
      hint := e.hint }

/-- Checks every action of a document. -/
def document (d : Document) (file : String) (c : Config) (known : Known) : Report :=
  let found := actions d c
  { filesScanned := 1
    actionsChecked := found.length
    findings := found.filterMap fun (n, action) => finding? d file c known n action }

/-- Checks every action of a text. -/
def markup [MarkupParser] (html file : String) (c : Config) (known : Known) : Report :=
  document (.parse html) file c known

end MarkupActions.Audit
