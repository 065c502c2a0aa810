import MarkupActions.Action.Expr
import MarkupActions.Argument.Value
import MarkupActions.Registry.Basic

/-! Resolving an action: its syntax, then its path, then its arguments. Nothing is called before all
three are known to be good. -/

namespace MarkupActions

/-- A target ready to be called. -/
structure Resolved (φ : Type) where
  path : String
  target : φ
  arguments : List Value

namespace Registry

variable {φ : Type}

/-- The function at a path. -/
def target (r : Registry φ) (path : ActionPath) : Except ActionError φ :=
  match r.lookup path.segments with
  | some (.function f) => .ok f
  | some _ => .error (.notCallable path.display)
  | none => .error (.unresolved path.display)

/-- Finds the target of an action and the values of its arguments. -/
def resolve (r : Registry φ) (rootNamespace action : String) (source : TextSource) :
    Except ActionError (Resolved φ) := do
  let e ← ActionExpr.parse action rootNamespace
  let f ← r.target e.path
  let literals ← e.arguments
  return ⟨e.path.display, f, literals.map (·.evaluate source)⟩

end Registry

end MarkupActions
