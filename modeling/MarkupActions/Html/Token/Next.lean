import MarkupActions.Html.Token

/-! The next token of a text. What counts as a token depends on the element that the text is in:
some elements hold text alone, up to their own end tag. -/

namespace MarkupActions.Html

/-- How text is read: as markup, as text with character references, as bare text, as a script, or as
bare text without end. -/
inductive TextMode where
  | markup | references | bare | script | endless
  deriving DecidableEq, Repr

/-- Whether a text starts with the end tag of an element. -/
def isEndTagOf (name : String) : List Char → Bool
  | '<' :: '/' :: cs =>
    startsWith name.toList cs && match cs[name.length]? with
      | some c => isSpace c || c == '/' || c == '>'
      | none => false
  | _ => false

/-- Whether a text starts with a tag named `script`, after its opening characters. -/
def isScriptName (cs : List Char) : Bool :=
  startsWith "script".toList cs && match cs["script".length]? with
    | some c => isSpace c || c == '/' || c == '>'
    | none => false

/-- Where a script is: in plain text, inside a comment, or inside a script inside a comment. Dashes
right before are counted up to two. -/
inductive ScriptState where
  | plain | commented (dashes : Nat) | nested (dashes : Nat)
  deriving DecidableEq, Repr

/-- The state after the first character of a text. -/
def ScriptState.step (s : ScriptState) (c : Char) (rest : List Char) : ScriptState :=
  match s with
  | plain => if c = '<' ∧ startsWith ['!', '-', '-'] rest then commented 0 else plain
  | commented dashes =>
    if c = '-' then commented (min 2 (dashes + 1))
    else if c = '>' ∧ dashes = 2 then plain
    else if c = '<' ∧ isScriptName rest then nested 0
    else commented 0
  | nested dashes =>
    if c = '-' then nested (min 2 (dashes + 1))
    else if c = '>' ∧ dashes = 2 then plain
    else if c = '<' ∧ rest.head? = some '/' ∧ isScriptName (rest.drop 1) then commented 0
    else nested 0

/-- The text of a script up to its end tag, with what follows. No end tag counts in a nested
script. -/
def scanScript (name : Option String) : ScriptState → List Char → List Char × List Char
  | _, [] => ([], [])
  | s, c :: cs =>
    let closes := match s with
      | .nested _ => false
      | _ => name.any (isEndTagOf · (c :: cs))
    if closes then ([], c :: cs)
    else
      let (text, rest) := scanScript name (s.step c cs) cs
      (c :: text, rest)

/-- The text up to the end tag of an element, with what follows. -/
def scanBare (name : Option String) : List Char → List Char × List Char
  | [] => ([], [])
  | c :: cs =>
    if name.any (isEndTagOf · (c :: cs)) then ([], c :: cs)
    else
      let (text, rest) := scanBare name cs
      (c :: text, rest)

/-- The text up to the end of a character data section, with what follows. -/
def scanSection : List Char → List Char × List Char
  | [] => ([], [])
  | ']' :: ']' :: '>' :: rest => ([], rest)
  | c :: cs => let (text, rest) := scanSection cs; (c :: text, rest)

def textToken? (cs : List Char) : Option Token := if cs = [] then none else some (.text cs)

/-- The token at an end tag, from the first letter of its name on. -/
def endTagToken (cs : List Char) : Option Token × List Char :=
  match scanTag? cs with
  | some (t, rest) => (some (.endTag t.name), rest)
  | none => (none, [])

/-- The token at `<`, from the character after it on. -/
def tokenAtOpen (sections : Bool) : List Char → Option Token × List Char
  | '!' :: cs =>
    if startsWith ['-', '-'] cs then
      let (s, rest) := scanCommentStart (cs.drop 2)
      (some (commentOf s), rest)
    else if startsWith "doctype".toList cs then
      let (t, rest) := scanDoctype (cs.drop 7)
      (some t, rest)
    else if sections && "[CDATA[".toList.isPrefixOf cs then
      let (s, rest) := scanSection (cs.drop 7)
      (textToken? s, rest)
    else
      let (t, rest) := scanBogus cs
      (some t, rest)
  | '/' :: cs =>
    match cs with
    | [] => (some (.text ['<', '/']), [])
    | '>' :: rest => (none, rest)
    | c :: _ =>
      if c.isAlpha then endTagToken cs
      else
        let (t, rest) := scanBogus cs
        (some t, rest)
  | '?' :: cs =>
    let (t, rest) := scanBogus ('?' :: cs)
    (some t, rest)
  | cs =>
    match cs with
    | [] => (some (.text ['<']), [])
    | c :: _ =>
      if c.isAlpha then
        match scanTag? cs with
        | some (t, rest) => (some (.startTag t), rest)
        | none => (none, [])
      else (some (.text ['<']), cs)

/-- The next token of a text that is not empty, with what follows it. A tag that the text breaks off
gives none. `last` is the name of the last start tag and `sections` says whether character data
sections are known here. -/
def nextToken (mode : TextMode) (last : Option String) (sections : Bool) (cs : List Char) :
    Option Token × List Char :=
  let close (text rest : List Char) : Option Token × List Char :=
    if text = [] then endTagToken (rest.drop 2) else (some (.text text), rest)
  match mode with
  | .markup =>
    match cs with
    | '<' :: rest => tokenAtOpen sections rest
    | cs => (some (.text (CharRef.decode false (cs.takeWhile (· ≠ '<')))), cs.dropWhile (· ≠ '<'))
  | .references =>
    let (text, rest) := scanBare last cs
    close (withoutNull (CharRef.decode false text)) rest
  | .bare => let (text, rest) := scanBare last cs; close (withoutNull text) rest
  | .script => let (text, rest) := scanScript last .plain cs; close (withoutNull text) rest
  | .endless => (some (.text (withoutNull cs)), [])

end MarkupActions.Html
