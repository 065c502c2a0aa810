import MarkupActions.Markup.Node
import MarkupActions.Markup.Tree

/-! The tree under construction. Repairing markup moves nodes about, so parents are kept beside
children. Nodes are named by their place in the arena. -/

namespace MarkupActions.Html

/-- A node under construction. The contents of a template hang from a node of their own. -/
structure Cell where
  kind : NodeKind
  parent : Option Nat := none
  children : List Nat := []
  contents : Option Nat := none

structure Arena where
  cells : Array Cell := #[]

namespace Arena

def kind (a : Arena) (n : Nat) : NodeKind := (a.cells[n]?.map (·.kind)).getD .document

def parent? (a : Arena) (n : Nat) : Option Nat := a.cells[n]?.bind (·.parent)

def children (a : Arena) (n : Nat) : List Nat := (a.cells[n]?.map (·.children)).getD []

def contents? (a : Arena) (n : Nat) : Option Nat := a.cells[n]?.bind (·.contents)

/-- Names and vocabularies of elements; no other node has either. -/
def element? (a : Arena) (n : Nat) : Option Element := (a.kind n).element?

def modify (a : Arena) (n : Nat) (f : Cell → Cell) : Arena := ⟨a.cells.modify n f⟩

/-- A new node that is nowhere in the tree yet. -/
def add (a : Arena) (k : NodeKind) : Arena × Nat := (⟨a.cells.push { kind := k }⟩, a.cells.size)

/-- A new node that holds the contents of a template. -/
def addContents (a : Arena) (n : Nat) : Arena :=
  let (a, m) := a.add .document
  a.modify n fun c => { c with contents := some m }

def detach (a : Arena) (n : Nat) : Arena :=
  match a.parent? n with
  | none => a
  | some p =>
    (a.modify p fun c => { c with children := c.children.filter (· ≠ n) }).modify n
      fun c => { c with parent := none }

/-- Makes a detached node the last child of another. -/
def append (a : Arena) (p n : Nat) : Arena :=
  (a.modify p fun c => { c with children := c.children ++ [n] }).modify n
    fun c => { c with parent := some p }

/-- Puts a detached node right before another. -/
def insertBefore (a : Arena) (sibling n : Nat) : Arena :=
  match a.parent? sibling with
  | none => a
  | some p =>
    let place := fun c => { c with children := c.children.flatMap fun m =>
      if m = sibling then [n, m] else [m] : Cell }
    (a.modify p place).modify n fun c => { c with parent := some p }

def moveChildren (a : Arena) (source target : Nat) : Arena :=
  let moved := a.children source
  let a := a.modify source fun c => { c with children := [] }
  moved.foldl (fun a n => a.append target n) a

/-- Adds text to a text node. -/
def extendText (a : Arena) (n : Nat) (s : String) : Arena :=
  a.modify n fun c => { c with kind := .text (c.kind.ownText ++ s) }

def isText (a : Arena) (n : Nat) : Bool :=
  match a.kind n with
  | .text _ => true
  | _ => false

/-- Adds text at the end of a node's children; text grows on to text that is there. -/
def appendText (a : Arena) (p : Nat) (s : String) : Arena :=
  match (a.children p).getLast? with
  | some n =>
    if a.isText n then a.extendText n s
    else let (a, m) := a.add (.text s); a.append p m
  | none => let (a, m) := a.add (.text s); a.append p m

/-- The child right before a node. -/
def previous? (a : Arena) (n : Nat) : Option Nat := do
  let p ← a.parent? n
  ((a.children p).takeWhile (· ≠ n)).getLast?

/-- Adds text right before a node; text grows on to text that is there. -/
def insertTextBefore (a : Arena) (sibling : Nat) (s : String) : Arena :=
  match (a.previous? sibling).filter a.isText with
  | some n => a.extendText n s
  | none => let (a, m) := a.add (.text s); a.insertBefore sibling m

/-- Adds the attributes that an element does not have yet. -/
def addAttributes (a : Arena) (n : Nat) (attributes : List Attribute) : Arena :=
  a.modify n fun c =>
    match c.kind with
    | .element e =>
      let new := attributes.filter fun x => !e.attributes.any (·.name = x.name)
      { c with kind := .element { e with attributes := e.attributes ++ new } }
    | _ => c

/-- The tree at a node, as deep as the first argument allows. Contents of templates are left out. -/
def tree (a : Arena) : Nat → Nat → Tree NodeKind
  | 0, n => .node (a.kind n) []
  | depth + 1, n => .node (a.kind n) ((a.children n).map (a.tree depth))

end Arena

end MarkupActions.Html
