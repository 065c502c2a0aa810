import MarkupActions.Html.Rules.Other
import MarkupActions.Markup.Parser

/-! Reading markup. There is no wrong markup: whatever the text, it is repaired into a tree. -/

namespace MarkupActions.Html

open Builder Build

namespace Rules

def rules : Mode → Item → Build Next
  | .initial => initial
  | .beforeHtml => beforeHtml
  | .beforeHead => beforeHead
  | .inHead => inHead
  | .afterHead => afterHead
  | .inBody => inBody
  | .text => text
  | .inTable => inTable
  | .inTableText => inTableText
  | .inCaption => inCaption
  | .inColumnGroup => inColumnGroup
  | .inTableBody => inTableBody
  | .inRow => inRow
  | .inCell => inCell
  | .inSelect => inSelect
  | .inSelectInTable => inSelectInTable
  | .inTemplate => inTemplate
  | .afterBody => afterBody
  | .inFrameset => inFrameset
  | .afterFrameset => afterFrameset
  | .afterAfterBody => afterAfterBody
  | .afterAfterFrameset => afterAfterFrameset

end Rules

namespace Build

/-- Applies rules until an item is done with: those of the mode `m`, if it is given, or of the mode
the builder is in. The first argument bounds the number of rules. -/
def apply : Nat → Option Mode → Item → Build Unit
  | 0, _, _ => pure ()
  | n + 1, m, item => do
    let b ← get
    let next ←
      if m.isNone && Rules.isForeign b item then Rules.foreign item
      else Rules.rules (m.getD b.mode) item
    match next with
    | .under m => apply n (some m) item
    | .done => modify fun b => { b with fostering := false }
    | .again m =>
      modify fun b => { b with fostering := false, mode := m }
      apply n none item

/-- Every rule that is followed by another closes an element or moves on to an inner mode, so a few
rules for each open element are enough. -/
def item (i : Item) : Build Unit := do apply (32 + 8 * (← get).opened.size) none i

/-- The text without a byte order mark in front. -/
def withoutMark : List Char → List Char
  | c :: cs => if c.toNat = 0xFEFF then cs else c :: cs
  | [] => []

/-- Cuts text into runs of blanks, of other characters, and single null characters. -/
def runs (cs : List Char) : List Item :=
  (cs.splitBy fun c d => kind c = kind d && kind c ≠ 2).map fun run =>
    match run.head?.map kind with
    | some 0 => .blanks run
    | some 2 => .null
    | _ => .text run
where
  kind (c : Char) : Nat := if isSpace c then 0 else if c.toNat = 0 then 2 else 1

/-- Takes in one token. A line feed right after the start of some elements is dropped, and doctypes
count only at the start of a page. -/
def token (t : Token) : Build Unit := do
  let b ← get
  set { b with skipLineFeed := false }
  match t with
  | .doctype d => if b.mode = .initial then item (.doctype d)
  | .startTag t => item (.startTag t)
  | .endTag name => item (.endTag name)
  | .comment s => item (.comment s)
  | .text cs =>
    let cs := match cs with
      | '\n' :: rest => if b.skipLineFeed then rest else cs
      | cs => cs
    for i in runs cs do item i

/-- Whether a token is the end of a script of the page. -/
def endsScript (b : Builder) (t : Token) : Bool :=
  b.mode = .text && t = .endTag "script"

/-- Takes in a text. Each token takes at least one character, so the length of the text bounds the
number of tokens. A mistake in the text counts as something between the start of an element and a
line feed, and the text after a script is begun like a text of its own. -/
def tokens : Nat → Option String → List Char → Build Unit
  | 0, _, _ => item .ended
  | _, _, [] => item .ended
  | n + 1, last, cs => do
    let b ← get
    let sections := !b.opened.isEmpty && b.adjustedCurrent.vocabulary ≠ .html
    let (t?, rest) := nextToken b.textMode last sections cs
    match t? with
    | none =>
      set { b with skipLineFeed := false }
      tokens n last rest
    | some t =>
      let last := match t with
        | .startTag t => some t.name
        | _ => last
      if let .endTag _ := t then modify fun b => { b with textMode := .markup }
      if CharRef.startsUnclosed cs then modify fun b => { b with skipLineFeed := false }
      token t
      tokens n last (if endsScript b t then withoutMark rest else rest)

end Build

/-- The text with one kind of line end and without a byte order mark in front. -/
def normalize (text : String) : List Char :=
  let rec lineEnds : List Char → List Char
    | '\r' :: '\n' :: cs => '\n' :: lineEnds cs
    | '\r' :: cs => '\n' :: lineEnds cs
    | c :: cs => c :: lineEnds cs
    | [] => []
  lineEnds (withoutMark text.toList)

/-- A builder with nothing but the document. -/
def Builder.empty : Builder := { arena := (Arena.add {} .document).1 }

def Builder.read (b : Builder) (text : String) : Builder :=
  let cs := normalize text
  ((Build.tokens (cs.length + 1) none cs).run b).2

/-- The page that a text describes: the children of its document node. -/
def parseDocument (text : String) : List (Tree NodeKind) :=
  let a := (Builder.empty.read text).arena
  (a.tree a.cells.size rootNode).children

/-- How the text inside an element is read. -/
def textModeIn (e : Element) : TextMode :=
  if e.vocabulary ≠ .html then .markup
  else if ["title", "textarea"].contains e.name then .references
  else if ["style", "xmp", "iframe", "noembed", "noframes", "noscript"].contains e.name then .bare
  else if e.name = "script" then .script
  else if e.name = "plaintext" then .endless
  else .markup

/-- The builder for the contents of an element; its attributes do not matter. -/
def Builder.fragment (v : Vocabulary) (name : String) : Builder :=
  let context : Element := ⟨v, name, []⟩
  let b := ((createRoot []).run { Builder.empty with
    context := some context
    textMode := textModeIn context
    templateModes := if isNamed "template" context then [.inTemplate] else [] }).2
  { b with mode := b.resetMode }

/-- What a text adds to an element: the children of the outermost element of its own tree. -/
def parseFragment (v : Vocabulary) (name text : String) : List (Tree NodeKind) :=
  let b := (Builder.fragment v name).read text
  let root := (b.arena.children rootNode).find? fun n => (b.arena.element? n).any (·.name = "html")
  match root with
  | some n => (b.arena.tree b.arena.cells.size n).children
  | none => []

instance : MarkupParser := ⟨parseDocument, parseFragment⟩

end MarkupActions.Html
