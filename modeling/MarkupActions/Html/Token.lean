import MarkupActions.Html.CharRef
import MarkupActions.Markup.Node

/-! Tags, comments and doctypes at the front of a text. -/

namespace MarkupActions.Html

/-- A start tag. Of two attributes with one name the first counts. -/
structure Tag where
  name : String
  attributes : List Attribute := []
  selfClosing : Bool := false
  deriving DecidableEq, Repr

/-- A doctype, as far as it decides how the page is laid out. -/
structure Doctype where
  name : Option String := none
  publicId : Option String := none
  systemId : Option String := none
  /-- Cut short or not well-formed. -/
  damaged : Bool := false
  deriving DecidableEq, Repr

inductive Token where
  | doctype (d : Doctype)
  | startTag (t : Tag)
  | endTag (name : String)
  | comment (s : String)
  | text (cs : List Char)
  deriving DecidableEq, Repr

/-- White space in markup. -/
def isSpace (c : Char) : Bool :=
  c == ' ' || c == '\n' || c == '\t' || c == '\r' || c.toNat == 12

/-- The text with the null character replaced. -/
def withoutNull (cs : List Char) : List Char :=
  cs.map fun c => if c.toNat = 0 then CharRef.replacement else c

def nameOf (cs : List Char) : String := String.ofList ((withoutNull cs).map Char.toLower)

/-- Whether a text starts with a word, letters compared without case. -/
def startsWith (word cs : List Char) : Bool :=
  (cs.take word.length).map Char.toLower == word.map Char.toLower

/-! ### Attributes -/

/-- An attribute value after the equals sign, with what follows it; `none` if the text ends first. -/
def scanValue? (cs : List Char) : Option (List Char × List Char) :=
  match cs.dropWhile isSpace with
  | [] => none
  | '>' :: cs => some ([], '>' :: cs)
  | c :: cs =>
    if c = '"' ∨ c = '\'' then
      match cs.dropWhile (· ≠ c) with
      | _ :: rest => some (cs.takeWhile (· ≠ c), rest)
      | [] => none
    else
      let ends := fun c => isSpace c || c == '>'
      match (c :: cs).dropWhile (!ends ·) with
      | [] => none
      | rest => some ((c :: cs).takeWhile (!ends ·), rest)

def attributeOf (name value : List Char) : Attribute :=
  ⟨nameOf name, String.ofList (withoutNull (CharRef.decode true value))⟩

/-- The rest of a tag after its name: its attributes, whether it closes itself, and what follows it;
`none` if the text ends first. The first argument bounds the number of steps. -/
def scanAttributes? (attributes : List Attribute) :
    Nat → List Char → Option (List Attribute × Bool × List Char)
  | 0, _ => none
  | n + 1, cs =>
    match cs.dropWhile isSpace with
    | [] => none
    | '>' :: rest => some (attributes, false, rest)
    | '/' :: '>' :: rest => some (attributes, true, rest)
    | '/' :: rest => scanAttributes? attributes n rest
    | c :: cs =>
      let ends := fun c => isSpace c || c == '/' || c == '>' || c == '='
      let name := c :: cs.takeWhile (!ends ·)
      let add (value : List Char) :=
        let a := attributeOf name value
        if attributes.any (·.name = a.name) then attributes else attributes ++ [a]
      match (cs.dropWhile (!ends ·)).dropWhile isSpace with
      | '=' :: rest =>
        match scanValue? rest with
        | some (value, rest) => scanAttributes? (add value) n rest
        | none => none
      | rest => scanAttributes? (add []) n rest

/-- A tag from the first letter of its name on; `none` if the text ends first. -/
def scanTag? (cs : List Char) : Option (Tag × List Char) :=
  let ends := fun c => isSpace c || c == '/' || c == '>'
  let rest := cs.dropWhile (!ends ·)
  match scanAttributes? [] (rest.length + 1) rest with
  | some (attributes, selfClosing, rest) =>
    some (⟨nameOf (cs.takeWhile (!ends ·)), attributes, selfClosing⟩, rest)
  | none => none

/-! ### Comments and doctypes -/

/-- A comment after its opening, with what follows it. It ends at `-->` or `--!>`, or at the end of
the text, where a closing that has begun does not belong to it. -/
def scanComment : List Char → List Char × List Char
  | '-' :: '-' :: '>' :: rest => ([], rest)
  | '-' :: '-' :: '!' :: '>' :: rest => ([], rest)
  | [] | ['-'] | ['-', '-'] | ['-', '-', '!'] => ([], [])
  | c :: cs => let (s, rest) := scanComment cs; (c :: s, rest)

/-- A comment right after `<!--`, which may be closed at once. -/
def scanCommentStart : List Char → List Char × List Char
  | '>' :: rest | '-' :: '>' :: rest => ([], rest)
  | cs => scanComment cs

def commentOf (cs : List Char) : Token := .comment (String.ofList (withoutNull cs))

/-- What is no tag and no comment but looks like one becomes a comment up to the next `>`. -/
def scanBogus (cs : List Char) : Token × List Char :=
  (commentOf (cs.takeWhile (· ≠ '>')), (cs.dropWhile (· ≠ '>')).drop 1)

/-- A quoted identifier: its text, what follows it, and whether it is closed. -/
def scanIdentifier? : List Char → Option (String × List Char × Bool)
  | [] => none
  | q :: cs =>
    if q = '"' ∨ q = '\'' then
      let rest := cs.dropWhile (· ≠ q)
      some (String.ofList (withoutNull (cs.takeWhile (· ≠ q))), rest.drop 1, rest ≠ [])
    else none

/-- The system identifier of a doctype. -/
def scanSystem (d : Doctype) (cs : List Char) : Doctype :=
  match scanIdentifier? (cs.dropWhile isSpace) with
  | some (s, _, closed) => { d with systemId := some s, damaged := !closed }
  | none => { d with damaged := true }

/-- A doctype from the text between its keyword and its `>`. -/
def doctypeOf (cs : List Char) : Doctype :=
  let cs := cs.dropWhile isSpace
  let name := cs.takeWhile (!isSpace ·)
  let d : Doctype := { name := if name = [] then none else some (nameOf name) }
  let cs := (cs.dropWhile (!isSpace ·)).dropWhile isSpace
  if name = [] then { d with damaged := true }
  else if cs = [] then d
  else if startsWith "public".toList cs then
    match scanIdentifier? ((cs.drop 6).dropWhile isSpace) with
    | none => { d with damaged := true }
    | some (s, rest, closed) =>
      let d := { d with publicId := some s }
      if !closed then { d with damaged := true }
      else if rest.dropWhile isSpace = [] then d
      else scanSystem d rest
  else if startsWith "system".toList cs then scanSystem d (cs.drop 6)
  else { d with damaged := true }

/-- A doctype after its keyword, with what follows it. -/
def scanDoctype (cs : List Char) : Token × List Char :=
  let d := doctypeOf (cs.takeWhile (· ≠ '>'))
  match cs.dropWhile (· ≠ '>') with
  | _ :: rest => (.doctype d, rest)
  | [] => (.doctype { d with damaged := true }, [])

end MarkupActions.Html
