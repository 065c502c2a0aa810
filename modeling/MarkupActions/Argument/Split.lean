import MarkupActions.Text.Blank

/-! Cutting an argument list into its top-level tokens. A scan remembers whether it is inside a
quote and how deep in brackets it is; a comma separates two tokens where it is outside both. -/

namespace MarkupActions.Argument

/-- Where a scan stands with respect to quotes: outside, inside a quote that `q` opened, or there
right after a backslash. -/
inductive Quoting where
  | outside | inside (q : Char) | escaping (q : Char)
  deriving DecidableEq, Repr

/-- What a scan knows after a piece of text. Depth never falls below zero. -/
structure Scan where
  quoting : Quoting := .outside
  depth : Nat := 0
  deriving DecidableEq, Repr

def isQuote (c : Char) : Bool := c == '\'' || c == '"'

def isOpener (c : Char) : Bool := c == '{' || c == '[' || c == '('

def isCloser (c : Char) : Bool := c == '}' || c == ']' || c == ')'

namespace Scan

/-- The scan after one more character. A backslash matters only inside a quote, where it keeps the
next character from closing it. -/
def step (s : Scan) (c : Char) : Scan :=
  match s.quoting with
  | .escaping q => { s with quoting := .inside q }
  | .inside q =>
    if c = '\\' then { s with quoting := .escaping q }
    else if c = q then { s with quoting := .outside }
    else s
  | .outside =>
    if isQuote c then { s with quoting := .inside c }
    else if isOpener c then { s with depth := s.depth + 1 }
    else if isCloser c then { s with depth := s.depth - 1 }
    else s

/-- The scan after a text. -/
def run (s : Scan) (cs : List Char) : Scan := cs.foldl step s

/-- Outside quotes and brackets. -/
def isTop (s : Scan) : Bool := s.quoting = .outside && s.depth = 0

end Scan

/-- The pieces between top-level commas, when `s` is the scan of what came before. -/
def pieces (s : Scan) : List Char → List (List Char)
  | [] => [[]]
  | c :: cs =>
    if c = ',' ∧ s.isTop then [] :: pieces s cs
    else (pieces (s.step c) cs).modifyHead (c :: ·)

/-- The trimmed pieces that are not empty. -/
def tokens (cs : List Char) : List (List Char) :=
  ((pieces {} cs).map Text.trim).filter (· ≠ [])

/-- The top-level arguments of a raw argument list. -/
def split (raw : String) : List String := (tokens raw.toList).map String.ofList

end MarkupActions.Argument
