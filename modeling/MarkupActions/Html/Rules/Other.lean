import MarkupActions.Html.Rules.Table

/-! Rules inside selections, templates, framesets, and after the body; and the rules for drawings and
formulas, which hold beside all others. -/

namespace MarkupActions.Html.Rules

open Build Builder

/-! ### Selections -/

def inSelect : Item → Build Next
  | .blanks s | .text s => do appendText s; return .done
  | .comment s => do appendComment s; return .done
  | .startTag t => do
    let name := t.name
    if name = "html" then return .under .inBody
    if name = "option" then
      if ← currentNamed "option" then pop
      insertFor t
      return .done
    if name = "optgroup" then
      if ← currentNamed "option" then pop
      if ← currentNamed "optgroup" then pop
      insertFor t
      return .done
    if name = "hr" then
      if ← currentNamed "option" then pop
      if ← currentNamed "optgroup" then pop
      insertVoid t
      return .done
    if name = "select" then
      if ← namedInScope isSelectScope "select" then
        popThroughNamed "select"
        Build.resetMode
      return .done
    if ["input", "keygen", "textarea"].contains name then
      if ← namedInScope isSelectScope "select" then
        popThroughNamed "select"
        return .again (← get).resetMode
      return .done
    if name = "script" || name = "template" then return .under .inHead
    return .done
  | .endTag name => do
    if name = "optgroup" then
      let b ← get
      let inGroup := (b.opened[b.opened.size - 2]?).any fun n => isNamed "optgroup" (b.element n)
      if isNamed "option" b.currentElement && inGroup then pop
      if ← currentNamed "optgroup" then pop
      return .done
    if name = "option" then
      if ← currentNamed "option" then pop
      return .done
    if name = "select" then
      if ← namedInScope isSelectScope "select" then
        popThroughNamed "select"
        Build.resetMode
      return .done
    if name = "template" then return .under .inHead
    return .done
  | .ended => return .under .inBody
  | _ => return .done

/-- Names of tags that end a selection inside a table. -/
def tableNames : List String := ["caption", "table", "tbody", "tfoot", "thead", "tr", "td", "th"]

def inSelectInTable : Item → Build Next
  | .startTag t => do
    if tableNames.contains t.name then
      popThroughNamed "select"
      return .again (← get).resetMode
    return .under .inSelect
  | .endTag name => do
    if tableNames.contains name then
      if ← namedInScope isTableScope name then
        popThroughNamed "select"
        return .again (← get).resetMode
      return .done
    return .under .inSelect
  | _ => return .under .inSelect

/-! ### Templates -/

/-- Goes on in another mode for the rest of a template. -/
def becomeTemplateMode (m : Mode) : Build Next := do
  modify fun b => { b with templateModes := m :: b.templateModes.tail }
  return .again m

def inTemplate : Item → Build Next
  | .blanks _ | .text _ | .comment _ => return .under .inBody
  | .startTag t => do
    if headNames.contains t.name then return .under .inHead
    if ["caption", "colgroup", "tbody", "tfoot", "thead"].contains t.name then
      return ← becomeTemplateMode .inTable
    if t.name = "col" then return ← becomeTemplateMode .inColumnGroup
    if t.name = "tr" then return ← becomeTemplateMode .inTableBody
    if t.name = "td" || t.name = "th" then return ← becomeTemplateMode .inRow
    becomeTemplateMode .inBody
  | .endTag name => return if name = "template" then .under .inHead else .done
  | .ended => do
    if ← hasOpen "template" then
      popThroughNamed "template"
      clearToMarker
      modify fun b => { b with templateModes := b.templateModes.tail }
      Build.resetMode
      return .again (← get).mode
    return .done
  | _ => return .done

/-! ### Framesets and the end of the page -/

def afterBody : Item → Build Next
  | .blanks _ => return .under .inBody
  | .comment s => do appendCommentTo ((← get).opened[0]?.getD rootNode) s; return .done
  | .startTag t => return if t.name = "html" then .under .inBody else .again .inBody
  | .endTag name => do
    if name = "html" then
      if !(← get).isFragment then setMode .afterAfterBody
      return .done
    return .again .inBody
  | .ended => return .done
  | _ => return .again .inBody

def inFrameset : Item → Build Next
  | .blanks s => do appendText s; return .done
  | .comment s => do appendComment s; return .done
  | .startTag t => do
    if t.name = "html" then return .under .inBody
    if t.name = "frameset" then
      insertFor t
      return .done
    if t.name = "frame" then
      insertVoid t
      return .done
    if t.name = "noframes" then return .under .inHead
    return .done
  | .endTag name => do
    if name = "frameset" && (← get).opened.size ≠ 1 then
      pop
      if !(← get).isFragment && !(← currentNamed "frameset") then setMode .afterFrameset
    return .done
  | _ => return .done

def afterFrameset : Item → Build Next
  | .blanks s => do appendText s; return .done
  | .comment s => do appendComment s; return .done
  | .startTag t => do
    if t.name = "html" then return .under .inBody
    if t.name = "noframes" then return .under .inHead
    return .done
  | .endTag name => do
    if name = "html" then setMode .afterAfterFrameset
    return .done
  | _ => return .done

def afterAfterBody : Item → Build Next
  | .blanks _ => return .under .inBody
  | .comment s => do appendCommentTo rootNode s; return .done
  | .startTag t => return if t.name = "html" then .under .inBody else .again .inBody
  | .ended => return .done
  | _ => return .again .inBody

def afterAfterFrameset : Item → Build Next
  | .blanks _ => return .under .inBody
  | .comment s => do appendCommentTo rootNode s; return .done
  | .startTag t => return (
    if t.name = "html" then .under .inBody
    else if t.name = "noframes" then .under .inHead
    else .done)
  | _ => return .done

/-! ### Drawings and formulas -/

/-- Whether an item is under the rules for drawings and formulas: where the current element is part
of one and does not hold ordinary markup. -/
def isForeign (b : Builder) (item : Item) : Bool :=
  let e := b.adjustedCurrent
  let isText := match item with
    | .blanks _ | .text _ | .null => true
    | _ => false
  let start? := match item with
    | .startTag t => some t.name
    | _ => none
  match item with
  | .ended => false
  | _ =>
    if b.opened.isEmpty || e.vocabulary = .html then false
    else if isFormulaText e && (isText || start?.any fun s => s ≠ "mglyph" && s ≠ "malignmark") then
      false
    else if isDrawingMarkup e && (isText || start?.isSome) then false
    else if e.vocabulary = .mathml && e.name = "annotation-xml" then
      !(start? = some "svg" || (holdsMarkup e && (isText || start?.isSome)))
    else true

def startForeign (t : Tag) : Build Unit := do
  let v := (← get).adjustedCurrent.vocabulary
  let name := if v = .svg then respell drawingNames t.name else t.name
  enterForeign v { t with name }

/-- Closes a drawing or a formula as far as a tag breaks out of it. -/
def breakOut : Build Next := do
  popToCurrent fun e => e.vocabulary = .html || isFormulaText e || isDrawingMarkup e
  return .under (← get).mode

/-- Closes the innermost part of a name, compared without case. Ordinary elements around the drawing
or formula are left to the ordinary rules. -/
def endForeign (name : String) : Build Next := do
  let b ← get
  let rec find (first : Bool) : List Nat → Option (Option Nat)
    | [] | [_] => none
    | n :: ns =>
      let e := b.element n
      if !first && e.vocabulary = .html then some none
      else if e.name.map Char.toLower = name then some (some n)
      else find false ns
  match find true b.opened.toList.reverse with
  | none => return .done
  | some none => return .under b.mode
  | some (some n) =>
    modify fun b => { b with opened := b.opened.popWhile (· ≠ n) }
    pop
    return .done

def foreign : Item → Build Next
  | .null => do appendText [CharRef.replacement]; return .done
  | .blanks s => do appendText s; return .done
  | .text s => do
    forbidFrameset
    appendText s
    return .done
  | .comment s => do appendComment s; return .done
  | .startTag t => do
    let styled := t.attributes.any fun a => ["color", "face", "size"].contains a.name
    if breakoutNames.contains t.name || (t.name = "font" && styled) then return ← breakOut
    startForeign t
    return .done
  | .endTag name => if name = "br" || name = "p" then breakOut else endForeign name
  | _ => return .done

end MarkupActions.Html.Rules
