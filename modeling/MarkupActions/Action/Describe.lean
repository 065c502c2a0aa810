import MarkupActions.Action.Resolve
import MarkupActions.Text.Quoted

/-! Resolved actions and action errors in words, for diagnostics. -/

namespace MarkupActions

def Value.describe : Value → String
  | string s => "String \x7b value: " ++ Text.quoted s ++ " \x7d"
  | number n => "Number \x7b value: " ++ String.ofList (Json.renderInt n.toInt) ++ " \x7d"
  | boolean b => "Boolean \x7b value: " ++ toString b ++ " \x7d"
  | sectionRef s => "SectionRef \x7b section: " ++ Text.quoted s ++ " \x7d"
  | liveText s => "LiveText \x7b value: " ++ Text.quoted s ++ " \x7d"

/-- The target itself has no text; two dots stand for it. -/
def Resolved.describe {φ : Type} (r : Resolved φ) : String :=
  "ResolvedAction \x7b path: " ++ Text.quoted r.path ++ ", args: [" ++
    ", ".intercalate (r.arguments.map Value.describe) ++ "], .. \x7d"

def ActionError.describe (e : ActionError) : String :=
  let (field, text) := match e with
    | malformed action => ("action", action)
    | unresolved path | notCallable path => ("path", path)
    | unsupported token => ("token", token)
    | missingContainer id => ("id", id)
  e.kind ++ " \x7b " ++ field ++ ": " ++ Text.quoted text ++ " \x7d"

end MarkupActions
