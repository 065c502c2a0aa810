import MarkupActions.Html.Rules.Body

/-! Rules inside tables. What does not belong there is put before the table. -/

namespace MarkupActions.Html.Rules

open Build Builder

/-- Treats an item as in a body, with its nodes put before the table. -/
def foster : Build Next := do
  modify fun b => { b with fostering := true }
  return .under .inBody

/-- Keeps text until its end shows whether it is all blank. -/
def tableText : Build Next := do
  if ← currentIs isTablePart then
    modify fun b => { b with returnMode := b.mode }
    return .again .inTableText
  else foster

/-- Leaves the open table, if there is one in scope. -/
def closeTable : Build Bool := do
  if ← namedInScope isTableScope "table" then
    popThroughNamed "table"
    return true
  return false

def inTable : Item → Build Next
  | .blanks _ | .text _ | .null => tableText
  | .comment s => do appendComment s; return .done
  | .startTag t => do
    let name := t.name
    if name = "caption" then
      popToCurrent isTableScope
      pushMarker
      insertFor t
      setMode .inCaption
      return .done
    if name = "colgroup" then
      popToCurrent isTableScope
      insertFor t
      setMode .inColumnGroup
      return .done
    if name = "col" then
      popToCurrent isTableScope
      insertNamed "colgroup"
      return .again .inColumnGroup
    if ["tbody", "tfoot", "thead"].contains name then
      popToCurrent isTableScope
      insertFor t
      setMode .inTableBody
      return .done
    if ["td", "th", "tr"].contains name then
      popToCurrent isTableScope
      insertNamed "tbody"
      return .again .inTableBody
    if name = "table" then
      if ← closeTable then return .again (← get).resetMode
      return .done
    if ["style", "script", "template"].contains name then return .under .inHead
    if isHiddenInput t then
      insertVoid t
      return .done
    if name = "form" then
      if !(← hasOpen "template") && (← get).form.isNone then
        let n ← insertClosed .html name t.attributes
        modify fun b => { b with form := some n }
      return .done
    foster
  | .endTag name => do
    if name = "table" then
      if ← closeTable then Build.resetMode
      return .done
    if ["body", "caption", "col", "colgroup", "html", "tbody", "td", "tfoot", "th", "thead",
        "tr"].contains name then
      return .done
    if name = "template" then return .under .inHead
    foster
  | .ended => return .under .inBody
  | .doctype _ => return .done

/-- Puts the text that was kept in its place. -/
def flushText : Build Unit := do
  let pending := (← get).pendingText
  modify fun b => { b with pendingText := [] }
  if pending.all (·.1) then
    for (_, s) in pending do appendText s
  else
    modify fun b => { b with fostering := true }
    for (blank, s) in pending do bodyText blank s
    modify fun b => { b with fostering := false }

def inTableText : Item → Build Next
  | .null => return .done
  | .blanks s => do
    modify fun b => { b with pendingText := b.pendingText ++ [(true, s)] }
    return .done
  | .text s => do
    modify fun b => { b with pendingText := b.pendingText ++ [(false, s)] }
    return .done
  | _ => do
    flushText
    return .again (← get).returnMode

/-- Leaves the open caption, if there is one in scope. -/
def closeCaption : Build Bool := do
  if ← namedInScope isTableScope "caption" then
    closeImplied
    popThroughNamed "caption"
    clearToMarker
    return true
  return false

def inCaption : Item → Build Next
  | .startTag t => do
    if ["caption", "col", "colgroup", "tbody", "td", "tfoot", "th", "thead", "tr"].contains t.name
    then
      if ← closeCaption then return .again .inTable
      return .done
    return .under .inBody
  | .endTag name => do
    if name = "table" then
      if ← closeCaption then return .again .inTable
      return .done
    if name = "caption" then
      if ← closeCaption then setMode .inTable
      return .done
    if ["body", "col", "colgroup", "html", "tbody", "td", "tfoot", "th", "thead",
        "tr"].contains name then
      return .done
    return .under .inBody
  | _ => return .under .inBody

/-- Leaves a column group before what does not belong in it. -/
def leaveColumnGroup : Build Next := do
  if ← currentNamed "colgroup" then
    pop
    return .again .inTable
  return .done

def inColumnGroup : Item → Build Next
  | .blanks s => do appendText s; return .done
  | .comment s => do appendComment s; return .done
  | .startTag t => do
    if t.name = "html" then return .under .inBody
    if t.name = "col" then
      insertVoid t
      return .done
    if t.name = "template" then return .under .inHead
    leaveColumnGroup
  | .endTag name => do
    if name = "colgroup" then
      if ← currentNamed "colgroup" then
        pop
        setMode .inTable
      return .done
    if name = "col" then return .done
    if name = "template" then return .under .inHead
    leaveColumnGroup
  | .ended => return .under .inBody
  | _ => leaveColumnGroup

/-- Leaves the open table section, if a table or a section is in scope. -/
def leaveTableBody : Build Next := do
  if ← Build.inScope isTableScope (oneOf ["table", "tbody", "tfoot"]) then
    popToCurrent isTableBodyContext
    pop
    return .again .inTable
  return .done

def inTableBody : Item → Build Next
  | .startTag t => do
    if t.name = "tr" then
      popToCurrent isTableBodyContext
      insertFor t
      setMode .inRow
      return .done
    if t.name = "th" || t.name = "td" then
      popToCurrent isTableBodyContext
      insertNamed "tr"
      return .again .inRow
    if ["caption", "col", "colgroup", "tbody", "tfoot", "thead"].contains t.name then
      return ← leaveTableBody
    return .under .inTable
  | .endTag name => do
    if ["tbody", "tfoot", "thead"].contains name then
      if ← namedInScope isTableScope name then
        popToCurrent isTableBodyContext
        pop
        setMode .inTable
      return .done
    if name = "table" then return ← leaveTableBody
    if ["body", "caption", "col", "colgroup", "html", "td", "th", "tr"].contains name then
      return .done
    return .under .inTable
  | _ => return .under .inTable

/-- Leaves the open row, if there is one in scope. -/
def closeRow : Build Bool := do
  if ← namedInScope isTableScope "tr" then
    popToCurrent isTableRowContext
    pop
    return true
  return false

def inRow : Item → Build Next
  | .startTag t => do
    if t.name = "th" || t.name = "td" then
      popToCurrent isTableRowContext
      insertFor t
      setMode .inCell
      pushMarker
      return .done
    if ["caption", "col", "colgroup", "tbody", "tfoot", "thead", "tr"].contains t.name then
      if ← closeRow then return .again .inTableBody
      return .done
    return .under .inTable
  | .endTag name => do
    if name = "tr" then
      if ← closeRow then setMode .inTableBody
      return .done
    if name = "table" then
      if ← closeRow then return .again .inTableBody
      return .done
    if ["tbody", "tfoot", "thead"].contains name then
      if ← namedInScope isTableScope name then
        if ← closeRow then return .again .inTableBody
      return .done
    if ["body", "caption", "col", "colgroup", "html", "td", "th"].contains name then return .done
    return .under .inTable
  | _ => return .under .inTable

def closeCell : Build Unit := do
  closeImplied
  popThrough isTableCell
  clearToMarker

def inCell : Item → Build Next
  | .startTag t => do
    if ["caption", "col", "colgroup", "tbody", "td", "tfoot", "th", "thead", "tr"].contains t.name
    then
      if ← Build.inScope isTableScope isTableCell then
        closeCell
        return .again .inRow
      return .done
    return .under .inBody
  | .endTag name => do
    if name = "td" || name = "th" then
      if ← namedInScope isTableScope name then
        closeImplied
        popThroughNamed name
        clearToMarker
        setMode .inRow
      return .done
    if ["body", "caption", "col", "colgroup", "html"].contains name then return .done
    if ["table", "tbody", "tfoot", "thead", "tr"].contains name then
      if ← namedInScope isTableScope name then
        closeCell
        return .again .inRow
      return .done
    return .under .inBody
  | _ => return .under .inBody

end MarkupActions.Html.Rules
