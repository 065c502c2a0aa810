import MarkupActions.Html.Arena
import MarkupActions.Html.Names
import MarkupActions.Html.Token.Next

/-! The state in which markup is repaired, and the steps that all rules share. -/

namespace MarkupActions.Html

/-- Which rules apply to the next token. -/
inductive Mode where
  | initial | beforeHtml | beforeHead | inHead | afterHead | inBody | text | inTable | inTableText
  | inCaption | inColumnGroup | inTableBody | inRow | inCell | inSelect | inSelectInTable
  | inTemplate | afterBody | inFrameset | afterFrameset | afterAfterBody | afterAfterFrameset
  deriving DecidableEq, Repr

/-- A formatting element that is opened again where it was closed too soon, with the tag to open it
by; a marker keeps what is before it from reaching in. -/
inductive Formatting where
  | marker
  | element (node : Nat) (tag : Tag)

/-- What the rules work on: a token, with text cut into blank and other runs. -/
inductive Item where
  | doctype (d : Doctype)
  | startTag (t : Tag)
  | endTag (name : String)
  | comment (s : String)
  | blanks (s : List Char)
  | text (s : List Char)
  | null
  | ended

structure Builder where
  arena : Arena := {}
  mode : Mode := .initial
  /-- The mode to go back to after text. -/
  returnMode : Mode := .inBody
  templateModes : List Mode := []
  /-- Text met inside a table, whose place is not known yet. -/
  pendingText : List (Bool × List Char) := []
  /-- Whether the page is laid out as pages without a proper doctype are. -/
  oldLayout : Bool := false
  /-- The open elements, the outermost first. -/
  opened : Array Nat := #[]
  formatting : Array Formatting := #[]
  head : Option Nat := none
  form : Option Nat := none
  framesetAllowed : Bool := true
  skipLineFeed : Bool := false
  /-- Whether what does not belong in a table is put before it. -/
  fostering : Bool := false
  /-- The element that a fragment is for. -/
  context : Option Element := none
  textMode : TextMode := .markup

abbrev Build := StateM Builder

/-- What is to be done after a rule: nothing, the same item again in another mode, or the same item
under the rules of a mode without entering it. -/
inductive Next where
  | done
  | again (m : Mode)
  | under (m : Mode)

namespace Builder

def rootNode : Nat := 0

def element (b : Builder) (n : Nat) : Element := (b.arena.element? n).getD ⟨.html, "", []⟩

def current (b : Builder) : Nat := b.opened.back?.getD rootNode

def currentElement (b : Builder) : Element := b.element b.current

/-- The current element, or the one that a fragment is for while nothing in it is open. -/
def adjustedCurrent (b : Builder) : Element :=
  match b.context with
  | some e => if b.opened.size = 1 then e else b.currentElement
  | none => b.currentElement

def isFragment (b : Builder) : Bool := b.context.isSome

/-- Whether an element that satisfies `p` is open inside of every element that satisfies `stop`. -/
def inScope (b : Builder) (stop p : Element → Bool) : Bool :=
  go b.opened.toList.reverse
where
  go : List Nat → Bool
    | [] => false
    | n :: ns => let e := b.element n; p e || (!stop e && go ns)

def nodeInScope (b : Builder) (stop : Element → Bool) (n : Nat) : Bool :=
  go b.opened.toList.reverse
where
  go : List Nat → Bool
    | [] => false
    | m :: ms => m = n || (!stop (b.element m) && go ms)

def hasOpen (b : Builder) (name : String) : Bool :=
  b.opened.any fun n => isNamed name (b.element n)

/-- The second open element, if it is the body. -/
def body? (b : Builder) : Option Nat := do
  let n ← b.opened[1]?
  if isNamed "body" (b.element n) then some n else none

/-- The mode that the open elements ask for. -/
def resetMode (b : Builder) : Mode :=
  go b.opened.toList.reverse
where
  underTable : List Nat → Bool
    | [] => false
    | n :: ns =>
      let e := b.element n
      !isNamed "template" e && (isNamed "table" e || underTable ns)
  go : List Nat → Mode
    | [] => .inBody
    | n :: ns =>
      let last := ns = []
      let e := if last then b.context.getD (b.element n) else b.element n
      if e.vocabulary ≠ .html then go ns
      else match e.name with
        | "select" => if underTable ns then .inSelectInTable else .inSelect
        | "td" | "th" => if last then .inBody else .inCell
        | "tr" => .inRow
        | "tbody" | "thead" | "tfoot" => .inTableBody
        | "caption" => .inCaption
        | "colgroup" => .inColumnGroup
        | "table" => .inTable
        | "template" => b.templateModes.head?.getD .inBody
        | "head" => if last then .inBody else .inHead
        | "body" => .inBody
        | "frameset" => .inFrameset
        | "html" => if b.head.isNone then .beforeHead else .afterHead
        | _ => go ns

/-- The formatting elements after the last marker, the last one first, with their positions. -/
def recent (b : Builder) : List (Nat × Nat × Tag) :=
  go b.formatting.size
where
  go : Nat → List (Nat × Nat × Tag)
    | 0 => []
    | i + 1 => match b.formatting[i]? with
      | some (.element n t) => (i, n, t) :: go i
      | _ => []

/-- The position of a node among the formatting elements. -/
def formattingIndex? (b : Builder) (n : Nat) : Option Nat :=
  b.formatting.findIdx? fun
    | .element m _ => m = n
    | .marker => false

end Builder

open Builder

namespace Build

def setMode (m : Mode) : Build Unit := modify fun b => { b with mode := m }

def resetMode : Build Unit := modify fun b => { b with mode := b.resetMode }

/-- The head of the page no longer lets a frameset take the place of the body. -/
def forbidFrameset : Build Unit := modify fun b => { b with framesetAllowed := false }

def currentIs (p : Element → Bool) : Build Bool := return p (← get).currentElement

def currentNamed (name : String) : Build Bool := currentIs (isNamed name)

def inScope (stop p : Element → Bool) : Build Bool := return (← get).inScope stop p

def namedInScope (stop : Element → Bool) (name : String) : Build Bool := inScope stop (isNamed name)

def hasOpen (name : String) : Build Bool := return (← get).hasOpen name

/-! ### Opening and closing -/

def push (n : Nat) : Build Unit := modify fun b => { b with opened := b.opened.push n }

def pop : Build Unit := modify fun b => { b with opened := b.opened.pop }

/-- Closes elements up to, and without, the innermost one that satisfies `p`. -/
def popToCurrent (p : Element → Bool) : Build Unit := modify fun b =>
  { b with opened := b.opened.popWhile fun n => !p (b.element n) }

/-- Closes elements up to and including the innermost one that satisfies `p`. -/
def popThrough (p : Element → Bool) : Build Unit := do popToCurrent p; pop

def popThroughNamed (name : String) : Build Unit := popThrough (isNamed name)

/-- Takes an element out of the open ones, wherever it stands. -/
def removeOpen (n : Nat) : Build Unit := modify fun b =>
  { b with opened := b.opened.filter (· ≠ n) }

/-- Closes the elements whose end tag may be left out. -/
def closeImplied : Build Unit := popToCurrent (!isImplied ·)

def closeImpliedExcept (name : String) : Build Unit :=
  popToCurrent fun e => !isImplied e || isNamed name e

def closeParagraph : Build Unit := do closeImpliedExcept "p"; popThroughNamed "p"

def closeParagraphInScope : Build Unit := do
  if ← namedInScope isButtonScope "p" then closeParagraph

/-! ### Placing nodes -/

/-- Where a node goes: last below a node, or before a table that stands below another element. -/
inductive Place where
  | below (n : Nat)
  | beforeTable (table outer : Nat)

/-- The place for a node meant for `target`. In a table, where that asks for it, the place is before
the table; in a template it is among the contents. -/
def placeFor (b : Builder) (target : Nat) : Place :=
  let e := b.element target
  if b.fostering && isTablePart e then go b.opened.toList.reverse
  else if isNamed "template" e then .below ((b.arena.contents? target).getD target)
  else .below target
where
  go : List Nat → Place
    | [] => .below (b.opened[0]?.getD rootNode)
    | n :: ns =>
      let e := b.element n
      if isNamed "template" e then .below ((b.arena.contents? n).getD n)
      else if isNamed "table" e then .beforeTable n (ns.head?.getD n)
      else go ns

def place (n : Nat) (p : Place) : Build Unit := modify fun b =>
  let a := b.arena.detach n
  { b with arena := match p with
    | .below m => a.append m n
    | .beforeTable table outer =>
      if (a.parent? table).isSome then a.insertBefore table n else a.append outer n }

def placeIn (target n : Nat) : Build Unit := do place n (placeFor (← get) target)

def appendText (s : List Char) : Build Unit := modify fun b =>
  let text := String.ofList s
  { b with arena := match placeFor b b.current with
    | .below m => b.arena.appendText m text
    | .beforeTable table outer =>
      if (b.arena.parent? table).isSome then b.arena.insertTextBefore table text
      else b.arena.appendText outer text }

def create (k : NodeKind) : Build Nat := do
  let b ← get
  let (a, n) := b.arena.add k
  set { b with arena := a }
  return n

def createElement (v : Vocabulary) (name : String) (attributes : List Attribute) : Build Nat := do
  let n ← create (.element ⟨v, name, attributes⟩)
  if v = .html ∧ name = "template" then
    modify fun b => { b with arena := b.arena.addContents n }
  return n

/-- Puts a new element in its place without opening it. -/
def insertClosed (v : Vocabulary) (name : String) (attributes : List Attribute) : Build Nat := do
  let n ← createElement v name attributes
  placeIn (← get).current n
  return n

def insertElement (v : Vocabulary) (name : String) (attributes : List Attribute) : Build Nat := do
  let n ← insertClosed v name attributes
  push n
  return n

/-- Opens the element that a start tag asks for. -/
def insertFor (t : Tag) : Build Unit := discard (insertElement .html t.name t.attributes)

/-- Puts an element without contents in its place. -/
def insertVoid (t : Tag) : Build Unit := discard (insertClosed .html t.name t.attributes)

/-- Opens an element that has no tag. -/
def insertNamed (name : String) : Build Unit := discard (insertElement .html name [])

def appendComment (s : String) : Build Unit := do placeIn (← get).current (← create (.comment s))

def appendCommentTo (p : Nat) (s : String) : Build Unit := do
  place (← create (.comment s)) (.below p)

def addAttributes (n : Nat) (attributes : List Attribute) : Build Unit := modify fun b =>
  { b with arena := b.arena.addAttributes n attributes }

/-- The outermost element of the page. -/
def createRoot (attributes : List Attribute) : Build Unit := do
  let n ← createElement .html "html" attributes
  push n
  place n (.below rootNode)

/-- Opens an element that holds text alone. -/
def insertTextElement (t : Tag) (textMode : TextMode) : Build Unit := do
  insertFor t
  modify fun b => { b with returnMode := b.mode, mode := .text, textMode := textMode }

/-! ### Formatting elements -/

def pushMarker : Build Unit := modify fun b => { b with formatting := b.formatting.push .marker }

/-- Forgets formatting elements up to and including the last marker. -/
def clearToMarker : Build Unit := modify fun b =>
  { b with formatting := (b.formatting.popWhile fun
      | .marker => false
      | .element _ _ => true).pop }

end Build

end MarkupActions.Html
