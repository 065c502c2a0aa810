import MarkupActions.Json.Basic
import MarkupActions.Json.Number

/-! Reading data from text. What is wrong with a text is kept in the tree at the place where it is
wrong, because a reader that wants one kind of value there may stop sooner, or look less closely,
than one that wants another. -/

namespace MarkupActions.Json

/-- Why a text does not give the value that is wanted: it ends too early, it breaks the grammar, or
it is of the wrong kind. -/
inductive Fault where
  | ended | malformed | unexpected
  deriving DecidableEq, Repr

/-- How a list of items or fields ends: closed, or with the fault that is met by who wants another
element and by who wants the end. -/
inductive Stop where
  | closed
  | cut (next close : Fault)
  deriving DecidableEq, Repr

/-- A text as read. Numbers out of range and strings with an unpaired surrogate are `none`: they
matter only to who wants their value. A key that is no proper string breaks the grammar; in its
place is the fault of who reads it as a value and wants a string. -/
inductive Raw where
  | null
  | bool (b : Bool)
  | number (n : Option Number)
  | string (s : Option String)
  | array (items : List Raw) (stop : Stop)
  | object (fields : List (Except Fault String × Raw)) (stop : Stop)
  /-- No value: the text ends here. -/
  | missing
  /-- A value broken off, with the fault met by who wants it and by who passes over it. -/
  | broken (quoted : Bool) (wanted passed : Fault)
  deriving Repr, Inhabited

def isSpace (c : Char) : Bool := c == ' ' || c == '\n' || c == '\t' || c == '\r'

def skipSpace (cs : List Char) : List Char := cs.dropWhile isSpace

namespace Raw

/-- Broken off with one fault for all. -/
def fail (f : Fault) : Raw := broken false f f

/-- The fault of a value that is not of the wanted kind. Arrays and objects are refused at their
bracket; anything shorter is read first. -/
def mismatch : Raw → Fault
  | missing => .ended
  | broken _ wanted _ => wanted
  | number none | string none => .malformed
  | _ => .unexpected

/-! ### Strings -/

/-- A character between quotes, or a 16-bit unit written with four digits. -/
inductive Piece where
  | char (c : Char)
  | unit (n : Nat)
  deriving DecidableEq, Repr

def hexValue? (c : Char) : Option Nat :=
  if c.isDigit then some (c.toNat - '0'.toNat)
  else if 'a' ≤ c ∧ c ≤ 'f' then some (c.toNat - 'a'.toNat + 10)
  else if 'A' ≤ c ∧ c ≤ 'F' then some (c.toNat - 'A'.toNat + 10)
  else none

def unit? (a b c d : Char) : Option Nat := do
  return ((← hexValue? a) * 16 + (← hexValue? b)) * 256 + (← hexValue? c) * 16 + (← hexValue? d)

/-- What a single character after a backslash stands for. -/
def unescape? (c : Char) : Option Char :=
  if c = '"' ∨ c = '\\' ∨ c = '/' then some c
  else if c = 'b' then some (Char.ofNat 8)
  else if c = 'f' then some (Char.ofNat 12)
  else if c = 'n' then some '\n'
  else if c = 'r' then some '\r'
  else if c = 't' then some '\t'
  else none

def utf8Length (cs : List Char) : Nat := cs.foldr (fun c n => c.utf8Size + n) 0

/-- The pieces up to the closing quote and what follows it, or the fault that comes first. A unit
needs four bytes of text, whatever they are, before its digits are looked at. -/
def pieces : List Char → List Piece × Except Fault (List Char)
  | [] => ([], .error .ended)
  | '"' :: cs => ([], .ok cs)
  | ['\\'] => ([], .error .ended)
  | '\\' :: 'u' :: a :: b :: c :: d :: cs =>
    match unit? a b c d with
    | none => ([], .error .malformed)
    | some n => let (ps, r) := pieces cs; (.unit n :: ps, r)
  | '\\' :: 'u' :: cs => ([], .error (if utf8Length cs < 4 then .ended else .malformed))
  | '\\' :: e :: cs =>
    match unescape? e with
    | none => ([], .error .malformed)
    | some c => let (ps, r) := pieces cs; (.char c :: ps, r)
  | c :: cs =>
    if c.toNat < 32 then ([], .error .malformed)
    else let (ps, r) := pieces cs; (.char c :: ps, r)

def isLeading (n : Nat) : Bool := 0xD800 ≤ n && n ≤ 0xDBFF

def isTrailing (n : Nat) : Bool := 0xDC00 ≤ n && n ≤ 0xDFFF

/-- The characters that pieces stand for, if every surrogate has its partner. -/
def join? : List Piece → Option (List Char)
  | [] => some []
  | .char c :: ps => (join? ps).map (c :: ·)
  | .unit n :: .unit m :: ps =>
    if isLeading n then
      if isTrailing m then
        (join? ps).map (Char.ofNat (0x10000 + (n - 0xD800) * 0x400 + (m - 0xDC00)) :: ·)
      else none
    else if isTrailing n then none
    else (join? (.unit m :: ps)).map (Char.ofNat n :: ·)
  | .unit n :: ps =>
    if isLeading n || isTrailing n then none else (join? ps).map (Char.ofNat n :: ·)

/-- Whether more text could still make pieces whole: they join, or a partner is all they lack. -/
def mayJoin (ps : List Piece) : Bool := (join? ps).isSome || (join? (ps ++ [.unit 0xDC00])).isSome

/-- A string after its opening quote, with what follows it. -/
def readString (cs : List Char) : Raw × List Char :=
  match pieces cs with
  | (ps, .ok rest) => (string ((join? ps).map String.ofList), rest)
  | (ps, .error f) => (broken true (if mayJoin ps then f else .malformed) f, [])

/-! ### Numbers -/

/-- Broken off where a digit is wanted. Who passes over a number minds its end less. -/
def wantDigit (cs : List Char) : Raw × List Char :=
  (broken false (if cs = [] then .ended else .malformed) .malformed, [])

/-- A number from its exponent on. -/
def readExponent (negative : Bool) (ds : List Char) (fraction : Option (List Char))
    (cs : List Char) : Raw × List Char :=
  match cs with
  | c :: rest =>
    if c = 'e' ∨ c = 'E' then
      let (minus, rest) := match rest with
        | '-' :: rest => (true, rest)
        | '+' :: rest => (false, rest)
        | rest => (false, rest)
      let es := rest.takeWhile Char.isDigit
      if es = [] then wantDigit rest
      else
        let e : Int := Number.digitsValue es
        (number (Number.ofDigits? negative ds fraction (some (if minus then -e else e))),
          rest.dropWhile Char.isDigit)
    else (number (Number.ofDigits? negative ds fraction none), cs)
  | [] => (number (Number.ofDigits? negative ds fraction none), [])

/-- A number from its decimal point on. -/
def readFraction (negative : Bool) (ds cs : List Char) : Raw × List Char :=
  match cs with
  | '.' :: rest =>
    let part := rest.takeWhile Char.isDigit
    if part = [] then wantDigit rest
    else readExponent negative ds (some part) (rest.dropWhile Char.isDigit)
  | cs => readExponent negative ds none cs

/-- A number after its sign. Only the number zero starts with the digit zero. -/
def readNumber (negative : Bool) (cs : List Char) : Raw × List Char :=
  let ds := cs.takeWhile Char.isDigit
  if ds = [] then wantDigit cs
  else if ds.head? = some '0' ∧ ds ≠ ['0'] then (fail .malformed, [])
  else readFraction negative ds (cs.dropWhile Char.isDigit)

/-! ### Words, arrays and objects -/

/-- The rest of a word such as `null`. -/
def readWord (r : Raw) : List Char → List Char → Raw × List Char
  | [], cs => (r, cs)
  | _ :: _, [] => (fail .ended, [])
  | w :: ws, c :: cs => if c = w then readWord r ws cs else (fail .malformed, [])

mutual

/-- A value and what follows it. The first argument bounds the number of values, so the length of
the text is enough. -/
def read : Nat → List Char → Raw × List Char
  | 0, _ => (missing, [])
  | n + 1, cs =>
    match skipSpace cs with
    | [] => (missing, [])
    | 'n' :: cs => readWord null ['u', 'l', 'l'] cs
    | 't' :: cs => readWord (bool true) ['r', 'u', 'e'] cs
    | 'f' :: cs => readWord (bool false) ['a', 'l', 's', 'e'] cs
    | '"' :: cs => readString cs
    | '-' :: cs => readNumber true cs
    | '[' :: cs =>
      match skipSpace cs with
      | [] => (array [] (.cut .ended .ended), [])
      | ']' :: cs => (array [] .closed, cs)
      | cs => let (items, stop, rest) := readItems n cs; (array items stop, rest)
    | '{' :: cs =>
      match skipSpace cs with
      | [] => (object [] (.cut .ended .ended), [])
      | '}' :: cs => (object [] .closed, cs)
      | cs => let (fields, stop, rest) := readFields n cs; (object fields stop, rest)
    | c :: cs => if c.isDigit then readNumber false (c :: cs) else (fail .malformed, [])

/-- Items from the next one on. -/
def readItems : Nat → List Char → List Raw × Stop × List Char
  | 0, _ => ([], .cut .ended .ended, [])
  | n + 1, cs =>
    let (item, cs) := read n cs
    match skipSpace cs with
    | [] => ([item], .cut .ended .ended, [])
    | ']' :: cs => ([item], .closed, cs)
    | ',' :: cs =>
      match skipSpace cs with
      | [] => ([item], .cut .ended .malformed, [])
      | ']' :: _ => ([item], .cut .malformed .malformed, [])
      | cs => let (items, stop, rest) := readItems n cs; (item :: items, stop, rest)
    | _ => ([item], .cut .malformed .malformed, [])

/-- Fields from the next one on. A missing colon is a broken value, and so is all that follows a key
that is no string. -/
def readFields : Nat → List Char → List (Except Fault String × Raw) × Stop × List Char
  | 0, _ => ([], .cut .ended .ended, [])
  | n + 1, cs =>
    match skipSpace cs with
    | [] => ([], .cut .ended .ended, [])
    | '"' :: cs =>
      match readString cs with
      | (string key, cs) =>
        let key := match key with
          | some s => .ok s
          | none => .error .malformed
        match skipSpace cs with
        | [] => ([(key, missing)], .cut .ended .ended, [])
        | ':' :: cs =>
          let (value, cs) := read n cs
          match skipSpace cs with
          | [] => ([(key, value)], .cut .ended .ended, [])
          | '}' :: cs => ([(key, value)], .closed, cs)
          | ',' :: cs =>
            match skipSpace cs with
            | [] => ([(key, value)], .cut .ended .malformed, [])
            | '}' :: _ => ([(key, value)], .cut .malformed .malformed, [])
            | cs => let (fields, stop, rest) := readFields n cs; ((key, value) :: fields, stop, rest)
          | _ => ([(key, value)], .cut .malformed .malformed, [])
        | _ => ([(key, fail .malformed)], .cut .malformed .malformed, [])
      | (broken _ wanted passed, _) =>
        if wanted = passed then ([], .cut wanted wanted, [])
        else ([(.error wanted, fail passed)], .cut passed passed, [])
      | _ => ([], .cut .malformed .malformed, [])
    | cs => ([(.error (read n cs).1.mismatch, fail .malformed)], .cut .malformed .malformed, [])

end

/-- A whole text, and whether anything but blanks follows the value. -/
def ofText (text : String) : Raw × Bool :=
  let cs := text.toList
  let (r, rest) := read (cs.length + 1) cs
  (r, skipSpace rest ≠ [])

end Raw

end MarkupActions.Json
