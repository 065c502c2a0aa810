import MarkupActions.Document.Edit

/-! How long nodes live: as long as they are below a living node or are held. When a detached node
that is not held is freed, its whole subtree is torn down: every node in it loses its children, and
those that are not held are freed as well. -/

namespace MarkupActions.Document

/-- Whether a node is among the children of its parent. -/
def isAttached (d : Document) (n : NodeId) : Bool :=
  (d.parent? n).any fun p => (d.children p).contains n

/-- Frees a node with its subtree. What is held stays, without children. -/
def tearDown (d : Document) (held : List NodeId) (n : NodeId) : Document :=
  let lost := d.nodes n
  ⟨d.cells.mapIdx fun i c =>
    if lost.contains i then
      if held.contains i then c.map fun c => { c with children := [] } else none
    else c⟩

/-- Frees a node if nothing keeps it alive. -/
def release (d : Document) (held : List NodeId) (n : NodeId) : Document :=
  if n = root || held.contains n || d.isAttached n then d else d.tearDown held n

end MarkupActions.Document
