import MarkupActions.Registry.Basic
import MarkupActions.Text.Quoted

/-! Bindings and values in words, for diagnostics. -/

namespace MarkupActions

namespace Json

mutual

/-- A value with the name of its kind around it. Object keys are sorted. -/
def describe : Json → String
  | null => "Null"
  | bool b => "Bool(" ++ toString b ++ ")"
  | number n => "Number(" ++ String.ofList (renderInt n) ++ ")"
  | string s => "String(" ++ Text.quoted s ++ ")"
  | array items => "Array [" ++ ", ".intercalate (describeItems items) ++ "]"
  | object fields =>
    let entries := (describeFields fields).mergeSort fun a b => a.1 ≤ b.1
    "Object \x7b" ++ ", ".intercalate (entries.map (·.2)) ++ "\x7d"

def describeItems : List Json → List String
  | [] => []
  | j :: js => describe j :: describeItems js

/-- Each key with its entry. -/
def describeFields : List (String × Json) → List (String × String)
  | [] => []
  | (k, j) :: fs => (k, Text.quoted k ++ ": " ++ describe j) :: describeFields fs

end

end Json

mutual

def Binding.describe {φ : Type} : Binding φ → String
  | .function _ => "Function"
  | .scope members =>
    "Namespace(Namespace \x7b members: \x7b" ++ ", ".intercalate members.describe ++ "\x7d \x7d)"
  | .value v => "Value(" ++ v.describe ++ ")"

/-- The entries of a namespace. -/
def Namespace.describe {φ : Type} : Namespace φ → List String
  | .nil => []
  | .cons name b rest => (Text.quoted name ++ ": " ++ b.describe) :: rest.describe

end

end MarkupActions
