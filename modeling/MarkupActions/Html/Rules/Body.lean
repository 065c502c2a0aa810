import MarkupActions.Html.Rules.Head

/-! Rules inside the body of a page. -/

namespace MarkupActions.Html.Rules

open Build Builder

/-- Blocks that close an open paragraph and can be closed by their end tag. -/
def blockNames : List String :=
  ["address", "article", "aside", "blockquote", "center", "details", "dialog", "dir", "div", "dl",
   "fieldset", "figcaption", "figure", "footer", "header", "hgroup", "main", "menu", "nav", "ol",
   "search", "section", "summary", "ul"]

def formattingNames : List String :=
  ["b", "big", "code", "em", "font", "i", "s", "small", "strike", "strong", "tt", "u"]

/-- Whether an input is not shown. -/
def isHiddenInput (t : Tag) : Bool :=
  t.name = "input" && t.attributes.any fun a =>
    a.name = "type" && a.value.map Char.toLower = "hidden"

/-- Text where the body's rules hold. -/
def bodyText (blank : Bool) (s : List Char) : Build Unit := do
  reconstruct
  if !blank then forbidFrameset
  appendText s

/-- Closes an open item before a new one of its kind. Special elements keep it open, but addresses,
divisions and paragraphs do not. -/
def closeItem (names : List String) : Build Unit := do
  let b ← get
  let stop := fun e => isSpecial e && !oneOf ["address", "div", "p"] e
  let found := b.opened.toList.reverse.find? fun n =>
    oneOf names (b.element n) || stop (b.element n)
  match found with
  | some n =>
    if oneOf names (b.element n) then
      let name := (b.element n).name
      closeImpliedExcept name
      popThroughNamed name
  | none => pure ()

/-- Starts a drawing or a formula. -/
def enterForeign (v : Vocabulary) (t : Tag) : Build Unit := do
  let n ← insertClosed v t.name (spellAttributes v t.attributes)
  if !t.selfClosing then push n

def bodyStart (t : Tag) : Build Next := do
  let name := t.name
  if name = "html" then
    if !(← hasOpen "template") then addAttributes ((← get).opened[0]?.getD rootNode) t.attributes
    return .done
  if headNames.contains name then return .under .inHead
  if name = "body" then
    match (← get).body? with
    | some n =>
      if !(← hasOpen "template") then
        forbidFrameset
        addAttributes n t.attributes
    | none => pure ()
    return .done
  if name = "frameset" then
    let b ← get
    match b.body? with
    | some n =>
      if b.framesetAllowed then
        modify fun b => { b with arena := b.arena.detach n, opened := b.opened.take 1 }
        insertFor t
        setMode .inFrameset
    | none => pure ()
    return .done
  if blockNames.contains name || name = "p" then
    closeParagraphInScope
    insertFor t
    return .done
  if headingNames.contains name then
    closeParagraphInScope
    if ← currentIs isHeading then pop
    insertFor t
    return .done
  if name = "pre" || name = "listing" then
    closeParagraphInScope
    insertFor t
    modify fun b => { b with skipLineFeed := true, framesetAllowed := false }
    return .done
  if name = "form" then
    let inTemplate ← hasOpen "template"
    if (← get).form.isNone || inTemplate then
      closeParagraphInScope
      let n ← insertElement .html name t.attributes
      if !inTemplate then modify fun b => { b with form := some n }
    return .done
  if name = "li" || name = "dd" || name = "dt" then
    forbidFrameset
    closeItem (if name = "li" then ["li"] else ["dd", "dt"])
    closeParagraphInScope
    insertFor t
    return .done
  if name = "plaintext" then
    closeParagraphInScope
    insertFor t
    modify fun b => { b with textMode := .endless }
    return .done
  if name = "button" then
    if ← namedInScope isScope "button" then
      closeImplied
      popThroughNamed "button"
    reconstruct
    insertFor t
    forbidFrameset
    return .done
  if name = "a" then
    let b ← get
    match b.recent.find? fun (_, n, _) => isNamed "a" (b.element n) with
    | some (_, n, _) =>
      closeFormatting "a"
      forgetFormatting n
      removeOpen n
    | none => pure ()
    reconstruct
    insertFormatting t
    return .done
  if formattingNames.contains name then
    reconstruct
    insertFormatting t
    return .done
  if name = "nobr" then
    reconstruct
    if ← namedInScope isScope "nobr" then
      closeFormatting "nobr"
      reconstruct
    insertFormatting t
    return .done
  if ["applet", "marquee", "object"].contains name then
    reconstruct
    insertFor t
    pushMarker
    forbidFrameset
    return .done
  if name = "table" then
    if !(← get).oldLayout then closeParagraphInScope
    insertFor t
    forbidFrameset
    setMode .inTable
    return .done
  if ["area", "br", "embed", "img", "keygen", "wbr", "input"].contains name then
    reconstruct
    insertVoid t
    if !isHiddenInput t then forbidFrameset
    return .done
  if ["param", "source", "track"].contains name then
    insertVoid t
    return .done
  if name = "hr" then
    closeParagraphInScope
    insertVoid t
    forbidFrameset
    return .done
  if name = "image" then
    reconstruct
    insertVoid { t with name := "img" }
    forbidFrameset
    return .done
  if name = "textarea" then
    insertTextElement t .references
    modify fun b => { b with skipLineFeed := true, framesetAllowed := false }
    return .done
  if name = "xmp" then
    closeParagraphInScope
    reconstruct
    forbidFrameset
    insertTextElement t .bare
    return .done
  if name = "iframe" then
    forbidFrameset
    insertTextElement t .bare
    return .done
  if name = "noembed" || name = "noscript" then
    insertTextElement t .bare
    return .done
  if name = "select" then
    reconstruct
    insertFor t
    forbidFrameset
    modify fun b => { b with mode := match b.mode with
      | .inTable | .inCaption | .inTableBody | .inRow | .inCell => .inSelectInTable
      | _ => .inSelect }
    return .done
  if name = "optgroup" || name = "option" then
    if ← currentNamed "option" then pop
    reconstruct
    insertFor t
    return .done
  if name = "rb" || name = "rtc" then
    if ← namedInScope isScope "ruby" then closeImplied
    insertFor t
    return .done
  if name = "rp" || name = "rt" then
    if ← namedInScope isScope "ruby" then closeImpliedExcept "rtc"
    insertFor t
    return .done
  if name = "math" then
    enterForeign .mathml t
    return .done
  if name = "svg" then
    enterForeign .svg t
    return .done
  if ["caption", "col", "colgroup", "frame", "head", "tbody", "td", "tfoot", "th", "thead",
      "tr"].contains name then
    return .done
  reconstruct
  insertFor t
  return .done

/-- The end tag of a form closes the form that the page last opened, wherever that is. -/
def closeForm : Build Unit := do
  if ← hasOpen "template" then
    if ← namedInScope isScope "form" then
      closeImplied
      popThroughNamed "form"
  else
    let b ← get
    set { b with form := none }
    match b.form with
    | some n =>
      if b.nodeInScope isScope n then
        closeImplied
        removeOpen n
    | none => pure ()

def bodyEnd (name : String) : Build Next := do
  if name = "template" then return .under .inHead
  if name = "body" then
    if ← namedInScope isScope "body" then setMode .afterBody
    return .done
  if name = "html" then
    if ← namedInScope isScope "body" then return .again .afterBody
    return .done
  if blockNames.contains name || ["button", "listing", "pre"].contains name then
    if ← namedInScope isScope name then
      closeImplied
      popThroughNamed name
    return .done
  if name = "form" then
    closeForm
    return .done
  if name = "p" then
    if !(← namedInScope isButtonScope "p") then insertNamed "p"
    closeParagraph
    return .done
  if name = "li" || name = "dd" || name = "dt" then
    if ← namedInScope (if name = "li" then isListScope else isScope) name then
      closeImpliedExcept name
      popThroughNamed name
    return .done
  if headingNames.contains name then
    if ← Build.inScope isScope isHeading then
      closeImplied
      popThrough isHeading
    return .done
  if name = "a" || name = "nobr" || formattingNames.contains name then
    closeFormatting name
    return .done
  if ["applet", "marquee", "object"].contains name then
    if ← namedInScope isScope name then
      closeImplied
      popThroughNamed name
      clearToMarker
    return .done
  if name = "br" then return ← bodyStart { name := "br" }
  closeOther name
  return .done

def inBody : Item → Build Next
  | .blanks s => do bodyText true s; return .done
  | .text s => do bodyText false s; return .done
  | .comment s => do appendComment s; return .done
  | .startTag t => bodyStart t
  | .endTag name => bodyEnd name
  | .ended => return if (← get).templateModes = [] then .done else .under .inTemplate
  | _ => return .done

/-- Rules for the text of an element that holds text alone. -/
def text : Item → Build Next
  | .blanks s | .text s => do appendText s; return .done
  | .endTag _ => do
    pop
    modify fun b => { b with mode := b.returnMode }
    return .done
  | .ended => do
    pop
    return .again (← get).returnMode
  | _ => return .done

end MarkupActions.Html.Rules
