import MarkupActions.Text.Terminal

/-! Log lines. -/

namespace MarkupActions.Log

/-- Levels from the gravest on. -/
inductive Level where
  | error | warn | info | debug | trace
  deriving DecidableEq, Repr

namespace Level

/-- How talkative a level is; nothing at all is 0. -/
def rank : Level → Nat
  | error => 1
  | warn => 2
  | info => 3
  | debug => 4
  | trace => 5

def name : Level → String
  | error => "error"
  | warn => "warn"
  | info => "info"
  | debug => "debug"
  | trace => "trace"

end Level

/-- The part of the program that a line comes from. -/
inductive Source where
  | binding | page | audit | logging
  deriving DecidableEq, Repr

/-- The name under which a part of the program logs. -/
def Source.target : Source → String
  | binding => "directive_native::bind"
  | page => "directive_native::page"
  | audit => "directive_native::audit"
  | logging => "directive_native::logging"

structure Line where
  level : Level
  source : Source
  message : String
  deriving DecidableEq, Repr

/-- A line with its level in front. -/
def Line.display (l : Line) : String := l.level.name ++ ": " ++ l.message

/-- The first line of a text; a carriage return before its line feed is no part of it. -/
def firstLine (cs : List Char) : List Char :=
  let line := cs.takeWhile (· ≠ '\n')
  if line.getLast? = some '\r' then line.dropLast else line

/-- A line as it is written out: its level in capitals, five columns wide, and where it is from. Of a
message with several lines the first one is given, since only it says that. -/
def Line.written (l : Line) : String :=
  let level := l.level.name.map Char.toUpper
  level ++ String.ofList (List.replicate (5 - level.length) ' ') ++ " " ++ l.source.target ++
    "] " ++ String.ofList (firstLine (Text.Terminal.strip .plain l.message.toList))

end MarkupActions.Log
