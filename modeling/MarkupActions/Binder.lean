import MarkupActions.Config
import MarkupActions.Document.Lifetime
import MarkupActions.Text.Blank

/-! The elements that answer clicks. An element is bound at most once, with the trimmed value of its
action attribute; one whose action is blank is passed over and may be bound later. -/

namespace MarkupActions

/-- The counts of one pass. -/
structure BindReport where
  bound : Nat := 0
  alreadyBound : Nat := 0
  skippedEmpty : Nat := 0
  deriving DecidableEq, Repr

instance : Add BindReport where
  add a b := ⟨a.bound + b.bound, a.alreadyBound + b.alreadyBound, a.skippedEmpty + b.skippedEmpty⟩

structure Binder where
  actionAttribute : String
  bound : List (NodeId × String) := []
  deriving DecidableEq, Repr

namespace Binder

def new (c : Config) : Binder := { actionAttribute := c.actionAttribute }

/-- The action that a node is bound to. -/
def action? (b : Binder) (n : NodeId) : Option String := b.bound.lookup n

def isBound (b : Binder) (d : Document) (n : NodeId) : Bool := (b.action? n).isSome && d.isAlive n

/-- The number of living elements that are bound. -/
def boundCount (b : Binder) (d : Document) : Nat := b.bound.countP fun e => d.isAlive e.1

/-- Forgets elements that were freed. -/
def sweep (b : Binder) (d : Document) : Binder :=
  { b with bound := b.bound.filter fun e => d.isAlive e.1 }

/-- Looks at one element with an action attribute. -/
def consider (d : Document) (s : BindReport × Binder) (n : NodeId) : BindReport × Binder :=
  let (report, b) := s
  match d.attribute? n b.actionAttribute with
  | none => s
  | some value =>
    if (b.action? n).isSome then ({ report with alreadyBound := report.alreadyBound + 1 }, b)
    else
      let action := Text.trimmed value
      if action = "" then ({ report with skippedEmpty := report.skippedEmpty + 1 }, b)
      else ({ report with bound := report.bound + 1 }, { b with bound := b.bound ++ [(n, action)] })

/-- Binds the elements at and below a node. -/
def pass (b : Binder) (d : Document) (n : NodeId) : BindReport × Binder :=
  (d.elements n).foldl (consider d) ({}, b.sweep d)

/-- The element that answers a click and its action: the nearest bound one, starting at the target. -/
def handler? (b : Binder) (d : Document) (target : NodeId) : Option (NodeId × String) :=
  (d.chain target).findSome? fun n => (b.action? n).map (n, ·)

end Binder

end MarkupActions
