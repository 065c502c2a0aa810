import MarkupActions.Html.Builder.Formatting
import MarkupActions.Html.OldLayout

/-! Rules up to the body of a page. -/

namespace MarkupActions.Html.Rules

open Build Builder

/-- End tags that open what they close where it is missing. -/
def opensPage (name : String) : Bool := ["head", "body", "html", "br"].contains name

def initial : Item → Build Next
  | .blanks _ => return .done
  | .comment s => do appendCommentTo rootNode s; return .done
  | .doctype d => do
    let n ← create .doctype
    place n (.below rootNode)
    modify fun b => { b with oldLayout := OldLayout.isAskedBy d, mode := .beforeHtml }
    return .done
  | _ => do
    modify fun b => { b with oldLayout := true }
    return .again .beforeHtml

def beforeHtml : Item → Build Next
  | .blanks _ => return .done
  | .comment s => do appendCommentTo rootNode s; return .done
  | .startTag t => do
    if t.name = "html" then
      createRoot t.attributes
      setMode .beforeHead
      return .done
    else
      createRoot []
      return .again .beforeHead
  | .endTag name => do
    if opensPage name then
      createRoot []
      return .again .beforeHead
    else return .done
  | _ => do
    createRoot []
    return .again .beforeHead

def openHead : Build Next := do
  let n ← insertElement .html "head" []
  modify fun b => { b with head := some n }
  return .again .inHead

def beforeHead : Item → Build Next
  | .blanks _ => return .done
  | .comment s => do appendComment s; return .done
  | .startTag t => do
    if t.name = "html" then return .under .inBody
    else if t.name = "head" then
      let n ← insertElement .html "head" t.attributes
      modify fun b => { b with head := some n, mode := .inHead }
      return .done
    else openHead
  | .endTag name => if opensPage name then openHead else return .done
  | _ => openHead

def closeHead : Build Next := do
  pop
  return .again .afterHead

/-- The start tags that belong to the head wherever they stand. -/
def headNames : List String :=
  ["base", "basefont", "bgsound", "link", "meta", "noframes", "script", "style", "template", "title"]

def inHead : Item → Build Next
  | .blanks s => do appendText s; return .done
  | .comment s => do appendComment s; return .done
  | .startTag t => do
    if t.name = "html" then return .under .inBody
    else if ["base", "basefont", "bgsound", "link", "meta"].contains t.name then
      insertVoid t
      return .done
    else if t.name = "title" then
      insertTextElement t .references
      return .done
    else if ["noframes", "style", "noscript"].contains t.name then
      insertTextElement t .bare
      return .done
    else if t.name = "script" then
      insertTextElement t .script
      return .done
    else if t.name = "template" then
      insertFor t
      pushMarker
      forbidFrameset
      modify fun b => { b with
        mode := .inTemplate
        templateModes := .inTemplate :: b.templateModes }
      return .done
    else if t.name = "head" then return .done
    else closeHead
  | .endTag name => do
    if name = "head" then
      pop
      setMode .afterHead
      return .done
    else if ["body", "html", "br"].contains name then closeHead
    else if name = "template" then
      if ← hasOpen "template" then
        popToCurrent (!isImpliedInTemplate ·)
        popThroughNamed "template"
        clearToMarker
        modify fun b => { b with templateModes := b.templateModes.tail }
        Build.resetMode
      return .done
    else return .done
  | _ => closeHead

def openBody : Build Next := do
  insertNamed "body"
  return .again .inBody

def afterHead : Item → Build Next
  | .blanks s => do appendText s; return .done
  | .comment s => do appendComment s; return .done
  | .startTag t => do
    if t.name = "html" then return .under .inBody
    else if t.name = "body" then
      insertFor t
      forbidFrameset
      setMode .inBody
      return .done
    else if t.name = "frameset" then
      insertFor t
      setMode .inFrameset
      return .done
    else if headNames.contains t.name then
      match (← get).head with
      | some n =>
        push n
        let next ← inHead (.startTag t)
        removeOpen n
        return next
      | none => inHead (.startTag t)
    else if t.name = "head" then return .done
    else openBody
  | .endTag name => do
    if name = "template" then return .under .inHead
    else if ["body", "html", "br"].contains name then openBody
    else return .done
  | _ => openBody

end MarkupActions.Html.Rules
