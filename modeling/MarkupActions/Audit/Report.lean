import MarkupActions.Action.Error

/-! What an audit finds. -/

namespace MarkupActions

/-- An action that cannot be resolved, and where it is written. -/
structure Finding where
  file : String
  tag : String
  elementId : Option String
  action : String
  code : String
  message : String
  hint : String
  deriving DecidableEq, Repr

structure Report where
  filesScanned : Nat := 0
  actionsChecked : Nat := 0
  findings : List Finding := []
  deriving DecidableEq, Repr

namespace Report

def isClean (r : Report) : Bool := r.findings.isEmpty

/-- Two reports as one, with findings in order. -/
instance : Append Report where
  append a b :=
    ⟨a.filesScanned + b.filesScanned, a.actionsChecked + b.actionsChecked, a.findings ++ b.findings⟩

def merge (rs : List Report) : Report := rs.foldl (· ++ ·) {}

end Report

end MarkupActions
