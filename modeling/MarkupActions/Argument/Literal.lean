import MarkupActions.Action.Error
import MarkupActions.Argument.Split

/-! The closed set of argument forms. A token is one of them as a whole or it is refused. -/

namespace MarkupActions

/-- An argument as it is written. -/
inductive Literal where
  | str (text : String)
  | int (n : Int64)
  | bool (b : Bool)
  | sectionRef (name : String)
  | liveText
  deriving DecidableEq, Repr

namespace Literal

/-- The one expression that reads text from the document. -/
def liveTextExpression : String := "document.getElementById('profile-name').textContent"

/-- The text between the quotes, when one quote character opens and ends the token. -/
def quoted? : List Char → Option (List Char)
  | [] => none
  | q :: cs => if Argument.isQuote q ∧ cs.getLast? = some q then some cs.dropLast else none

/-- The number that a run of decimal digits writes. -/
def decimal (ds : List Char) : Nat := ds.foldl (fun n d => 10 * n + (d.toNat - '0'.toNat)) 0

def isDigits (cs : List Char) : Bool := cs ≠ [] && cs.all Char.isDigit

/-- The value of an optional minus sign and one or more ASCII digits. -/
def integer? : List Char → Option Int
  | '-' :: ds => if isDigits ds then some (-(decimal ds : Int)) else none
  | ds => if isDigits ds then some (decimal ds) else none

def isSectionChar (c : Char) : Bool := c.isAlphanum || c == '_' || c == '-'

/-- The name in `\x7bsection: 'name'\x7d`, with any blanks inside the braces. -/
def section? (cs : List Char) : Option (List Char) := do
  let cs ← ['{'].isPrefixOf? cs
  let cs ← "section".toList.isPrefixOf? (Text.trimStart cs)
  let cs ← [':'].isPrefixOf? (Text.trimStart cs)
  let cs ← ['\''].isPrefixOf? (Text.trimStart cs)
  let name := cs.takeWhile isSectionChar
  let cs ← ['\''].isPrefixOf? (cs.dropWhile isSectionChar)
  let cs ← ['}'].isPrefixOf? (Text.trimStart cs)
  if name ≠ [] ∧ cs = [] then some name else none

/-- The integers a literal can hold. -/
def inRange (n : Int) : Bool := Int64.minValue.toInt ≤ n && n ≤ Int64.maxValue.toInt

/-- The literal that a token is, with an integer out of range and every other text refused. -/
def recognize? (cs : List Char) : Option Literal :=
  if let some text := quoted? cs then some (str (String.ofList text))
  else if cs = "true".toList then some (bool true)
  else if cs = "false".toList then some (bool false)
  else if let some n := integer? cs then if inRange n then some (int (Int64.ofInt n)) else none
  else if let some name := section? cs then some (sectionRef (String.ofList name))
  else if cs = liveTextExpression.toList then some liveText
  else none

/-- Reads one trimmed token. -/
def parse (token : String) : Except ActionError Literal :=
  match recognize? token.toList with
  | some l => .ok l
  | none => .error (.unsupported token)

/-- Reads every token of a raw argument list; the leftmost one that cannot be read is reported. -/
def parseAll (raw : String) : Except ActionError (List Literal) := (Argument.split raw).mapM parse

end Literal

end MarkupActions
