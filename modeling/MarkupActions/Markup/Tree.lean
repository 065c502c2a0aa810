/-! Rose trees in document order: a node comes before its children, and these come in turn. -/

namespace MarkupActions

inductive Tree (α : Type) where
  | node (label : α) (children : List (Tree α))
  deriving Repr

namespace Tree

variable {α β : Type}

instance [Inhabited α] : Inhabited (Tree α) := ⟨node default []⟩

def label : Tree α → α
  | node a _ => a

def children : Tree α → List (Tree α)
  | node _ ts => ts

mutual

/-- All labels in document order. -/
def preorder : Tree α → List α
  | node a ts => a :: preorderAll ts

def preorderAll : List (Tree α) → List α
  | [] => []
  | t :: ts => preorder t ++ preorderAll ts

end

mutual

/-- The first label that satisfies `p`. The search stops there. -/
def find? (p : α → Bool) : Tree α → Option α
  | node a ts => if p a then some a else findAll? p ts

def findAll? (p : α → Bool) : List (Tree α) → Option α
  | [] => none
  | t :: ts =>
    match find? p t with
    | some a => some a
    | none => findAll? p ts

end

mutual

/-- The number of nodes. -/
def size : Tree α → Nat
  | node _ ts => sizeAll ts + 1

def sizeAll : List (Tree α) → Nat
  | [] => 0
  | t :: ts => size t + sizeAll ts

end

end Tree

end MarkupActions
