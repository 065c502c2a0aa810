import MarkupActions.Document.Basic
import MarkupActions.Markup.Parser

/-! Adding markup to a document and taking nodes out of it. -/

namespace MarkupActions

/-- The names of the roots of a forest that is laid out from `n` on. -/
def rootsFrom (n : NodeId) : List (Tree NodeKind) → List NodeId
  | [] => []
  | t :: ts => n :: rootsFrom (n + t.size) ts

mutual

/-- The cells of a tree in document order, the first one named `n`. -/
def layTree (parent : Option NodeId) (n : NodeId) : Tree NodeKind → List Cell
  | .node k ts => ⟨k, parent, rootsFrom (n + 1) ts⟩ :: layForest (some n) (n + 1) ts

/-- The cells of a forest below one parent. -/
def layForest (parent : Option NodeId) (n : NodeId) : List (Tree NodeKind) → List Cell
  | [] => []
  | t :: ts => layTree parent n t ++ layForest parent (n + t.size) ts

end

namespace Document

variable [MarkupParser]

def ofForest (ts : List (Tree NodeKind)) : Document :=
  ⟨((layTree none root (.node .document ts)).map some).toArray⟩

/-- The page that a text describes. -/
def parse (html : String) : Document := ofForest (MarkupParser.page html)

def modify (d : Document) (n : NodeId) (f : Cell → Cell) : Document := ⟨d.cells.modify n (·.map f)⟩

/-- Adds a forest as the last children of a node. -/
def append (d : Document) (p : NodeId) (ts : List (Tree NodeKind)) : List NodeId × Document :=
  let n := d.cells.size
  let roots := rootsFrom n ts
  let d := d.modify p fun c => { c with children := c.children ++ roots }
  (roots, ⟨d.cells ++ ((layForest (some p) n ts).map some).toArray⟩)

/-- The forest that a text describes inside a node. Where that is not an element, it is as inside a
body. -/
def fragmentFor (d : Document) (p : NodeId) (html : String) : List (Tree NodeKind) :=
  match (d.kind? p).bind (·.element?) with
  | some e => MarkupParser.contents e.vocabulary e.name html
  | none => MarkupParser.contents .html "body" html

/-- Adds markup as the last children of a node and gives the new top-level nodes. -/
def insertHtml (d : Document) (p : NodeId) (html : String) : List NodeId × Document :=
  d.append p (d.fragmentFor p html)

/-- Takes a node from its parent; false if it has none. -/
def remove (d : Document) (n : NodeId) : Bool × Document :=
  match d.parent? n with
  | none => (false, d)
  | some p =>
    let d := d.modify p fun c => { c with children := c.children.filter (· ≠ n) }
    (true, d.modify n fun c => { c with parent := none })

end Document

end MarkupActions
