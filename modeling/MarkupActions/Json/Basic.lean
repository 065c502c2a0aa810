/-! Data values and their compact text. The numbers of a value are whole: a fraction or an exponent
has no place in it, so the values of a registry that hold one are not covered. A text that is read
may have any numbers. -/

namespace MarkupActions

/-- A data value. Numbers are whole, and an object keeps its fields in the order given. -/
inductive Json where
  | null
  | bool (b : Bool)
  | number (n : Int)
  | string (s : String)
  | array (items : List Json)
  | object (fields : List (String × Json))
  deriving Repr, Inhabited

namespace Json

/-- The digit of a number below sixteen, in lower case. -/
def hexDigit (n : Nat) : Char :=
  if n < 10 then Char.ofNat (n + '0'.toNat) else Char.ofNat (n - 10 + 'a'.toNat)

/-- A character as it stands between quotes. Quotes, backslashes and control characters are
escaped and nothing else is. -/
def escape (c : Char) : List Char :=
  if c = '"' then ['\\', '"']
  else if c = '\\' then ['\\', '\\']
  else if c = '\n' then ['\\', 'n']
  else if c = '\r' then ['\\', 'r']
  else if c = '\t' then ['\\', 't']
  else if c.toNat = 8 then ['\\', 'b']
  else if c.toNat = 12 then ['\\', 'f']
  else if c.toNat < 32 then
    ['\\', 'u', '0', '0', hexDigit (c.toNat / 16), hexDigit (c.toNat % 16)]
  else [c]

def renderString (s : String) : List Char := '"' :: (s.toList.flatMap escape ++ ['"'])

/-- The decimal digits of a number, with a minus sign when it is negative. -/
def renderInt : Int → List Char
  | .ofNat n => Nat.toDigits 10 n
  | .negSucc n => '-' :: Nat.toDigits 10 (n + 1)

mutual

/-- The text of a value, without blanks. -/
def chars : Json → List Char
  | null => ['n', 'u', 'l', 'l']
  | bool true => ['t', 'r', 'u', 'e']
  | bool false => ['f', 'a', 'l', 's', 'e']
  | number n => renderInt n
  | string s => renderString s
  | array items => '[' :: itemChars items
  | object fields => '{' :: fieldChars fields

/-- The text of the items of an array up to its closing bracket. -/
def itemChars : List Json → List Char
  | [] => [']']
  | [j] => chars j ++ [']']
  | j :: js => chars j ++ ',' :: itemChars js

/-- The text of the fields of an object up to its closing brace. -/
def fieldChars : List (String × Json) → List Char
  | [] => ['}']
  | [(k, j)] => renderString k ++ ':' :: (chars j ++ ['}'])
  | (k, j) :: fs => renderString k ++ ':' :: (chars j ++ ',' :: fieldChars fs)

end

def render (j : Json) : String := String.ofList j.chars

/-- The value of the first field with a name. -/
def get? (name : String) : Json → Option Json
  | object fields => fields.lookup name
  | _ => none

/-- A string, or null where there is none. -/
def ofString? : Option String → Json
  | some s => string s
  | none => null

end Json

end MarkupActions
