import MarkupActions.Argument.Value
import MarkupActions.Markup.Node
import MarkupActions.Markup.Tree

/-! The live document. Nodes are cells that name their parent and their children. The children keep a
node alive; the parent is only named, and the name may outlive it. A node that is freed leaves an
empty cell, and no name is given twice. -/

namespace MarkupActions

abbrev NodeId := Nat

/-- A living node. -/
structure Cell where
  kind : NodeKind
  parent : Option NodeId
  children : List NodeId
  deriving DecidableEq, Repr

/-- Cells by name; an empty one is of a node that was freed. The document node comes first. -/
structure Document where
  cells : Array (Option Cell)
  deriving Repr

namespace Document

/-- The document node. -/
def root : NodeId := 0

def cell? (d : Document) (n : NodeId) : Option Cell := d.cells[n]?.join

def isAlive (d : Document) (n : NodeId) : Bool := (d.cell? n).isSome

def kind? (d : Document) (n : NodeId) : Option NodeKind := (d.cell? n).map (·.kind)

def children (d : Document) (n : NodeId) : List NodeId := ((d.cell? n).map (·.children)).getD []

/-- The parent that a node names, while it lives. -/
def parent? (d : Document) (n : NodeId) : Option NodeId :=
  ((d.cell? n).bind (·.parent)).filter d.isAlive

def attribute? (d : Document) (n : NodeId) (name : String) : Option String :=
  (d.kind? n).bind (·.attribute? name)

def isElement (d : Document) (n : NodeId) : Bool := (d.kind? n).any (·.isElement)

/-! ### Downwards -/

/-- The tree of living nodes below and at a node, as deep as the first argument says; nothing if the
node does not live. -/
def unfold (d : Document) : Nat → NodeId → List (Tree NodeId)
  | 0, _ => []
  | depth + 1, n =>
    match d.cell? n with
    | none => []
    | some c => [.node n (c.children.flatMap (d.unfold depth))]

/-- The tree at a node. No branch is longer than there are cells. -/
def subtree (d : Document) (n : NodeId) : List (Tree NodeId) := d.unfold d.cells.size n

/-- The nodes at and below a node, in document order. -/
def nodes (d : Document) (n : NodeId) : List NodeId := Tree.preorderAll (d.subtree n)

/-- The elements at and below a node, in document order. -/
def elements (d : Document) (n : NodeId) : List NodeId := (d.nodes n).filter d.isElement

/-- The first element at or below a node that satisfies `p`. -/
def findElement? (d : Document) (n : NodeId) (p : NodeId → Bool) : Option NodeId :=
  Tree.findAll? (fun m => d.isElement m && p m) (d.subtree n)

/-- The first attached element with an id. -/
def elementById? (d : Document) (id : String) : Option NodeId :=
  d.findElement? root fun n => d.attribute? n "id" = some id

/-- The text of all text nodes at and below a node. -/
def textContent (d : Document) (n : NodeId) : String :=
  String.join ((d.nodes n).map fun m => ((d.kind? m).map (·.ownText)).getD "")

/-- The document as a source of live text. -/
def textById (d : Document) : TextSource := fun id => (d.elementById? id).map d.textContent

/-! ### Upwards -/

/-- A node, its parent, the parent of that and so on, as far as the first argument says. -/
def climb (d : Document) : Nat → NodeId → List NodeId
  | 0, _ => []
  | length + 1, n =>
    match d.parent? n with
    | some p => n :: d.climb length p
    | none => [n]

/-- A node and its ancestors, the nearest first. A chain is no longer than there are cells. -/
def chain (d : Document) (n : NodeId) : List NodeId := d.climb d.cells.size n

/-- Whether a node is attached below the document node. -/
def contains (d : Document) (n : NodeId) : Bool := (d.chain n).contains root

end Document

end MarkupActions
