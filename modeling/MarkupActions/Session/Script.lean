import MarkupActions.Action.Resolve
import MarkupActions.Binder

/-! What actions do. A target is a function from its arguments to a script: what it asks of the page,
step by step, and how it ends. -/

namespace MarkupActions

/-- What a click did. -/
structure ClickOutcome where
  /-- A bound element was reached. -/
  handled : Bool := false
  /-- Its action could not be resolved, or failed. -/
  failed : Bool := false
  /-- The element is a link inside the page, which is not followed. -/
  defaultPrevented : Bool := false
  deriving DecidableEq, Repr

/-- Where a search for a node starts: at the first element with an id, at a held node, or at the
document node. -/
inductive Origin where
  | id (s : String)
  | held (name : String)
  | root
  deriving DecidableEq, Repr

/-- A node, found from an origin by the places of children in turn. -/
structure Selector where
  origin : Origin
  path : List Nat := []
  deriving DecidableEq, Repr

/-- What can be asked of a page. -/
inductive Command where
  | render (id html : String)
  | insert (place : Selector) (html : String)
  /-- Without a place, the whole document. -/
  | bind (place : Option Selector)
  | click (place : Selector)
  | remove (place : Selector)
  | hold (place : Selector) (name : String)
  | drop (name : String)
  deriving DecidableEq, Repr

/-- The answer to a command. Where its place is not found there is nothing to tell. -/
inductive Reply where
  | rendered (r : Except ActionError BindReport)
  | inserted (nodes : Option (List NodeId))
  | bound (r : Option BindReport)
  | clicked (o : Option ClickOutcome)
  | removed (r : Option Bool)
  | held (found : Bool)
  | dropped (wasHeld : Bool)

/-- How a target ends. A failure has its causes, the root cause last. -/
inductive Ending where
  | ok
  | failed (causes : List String)
  | panicked
  deriving DecidableEq, Repr

/-- What a target does. A note puts a reply on record. -/
inductive Script where
  | finish (e : Ending)
  | note (r : Reply) (next : Script)
  | perform (c : Command) (next : Reply → Script)

/-- Performs one command and puts the answer on record. Markup without a container fails. -/
def Script.once (c : Command) : Script :=
  .perform c fun
    | .rendered (.error e) => .finish (.failed [e.message])
    | r => .note r (.finish .ok)

/-- A registered function, under the path and the tag that it is known by on record. -/
structure Target where
  path : String
  tag : Option Json := none
  run : List Value → Script

end MarkupActions
