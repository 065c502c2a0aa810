import MarkupActions.Argument.Literal

/-! Arguments as the called function receives them. -/

namespace MarkupActions

/-- A runtime argument. -/
inductive Value where
  | string (text : String)
  | number (n : Int64)
  | boolean (b : Bool)
  | sectionRef (name : String)
  | liveText (text : String)
  deriving DecidableEq, Repr

namespace Value

/-- The text of a string or of live text. -/
def asString? : Value → Option String
  | string s | liveText s => some s
  | _ => none

def asNumber? : Value → Option Int64
  | number n => some n
  | _ => none

def asBoolean? : Value → Option Bool
  | boolean b => some b
  | _ => none

def asSection? : Value → Option String
  | sectionRef s => some s
  | _ => none

end Value

/-- Where live text comes from: the current text of the element with an id, if there is one. -/
abbrev TextSource := String → Option String

/-- The id of the element whose text the live-text literal reads. -/
def Literal.liveTextId : String := "profile-name"

/-- The value of a literal now. Live text from a missing element is empty. -/
def Literal.evaluate (source : TextSource) : Literal → Value
  | .str s => .string s
  | .int n => .number n
  | .bool b => .boolean b
  | .sectionRef s => .sectionRef s
  | .liveText => .liveText ((source liveTextId).getD "")

end MarkupActions
