import MarkupActions.Log.Basic
import MarkupActions.Pattern.Parse

/-! Which lines are written out. A filter is a list of directives, each with the most talkative rank
it lets through; the one with the longest matching target decides. -/

namespace MarkupActions.Log

/-- What is let through from targets that start with some text. -/
structure Directive where
  target : Option (List Char)
  rank : Nat
  deriving DecidableEq, Repr

namespace Directive

def length (r : Directive) : Nat := ((r.target.map String.ofList).map (·.utf8ByteSize)).getD 0

def matchesTarget (r : Directive) (target : List Char) : Bool :=
  r.target.all (·.isPrefixOf target)

/-- The rank that a level name stands for, in any case of letters. -/
def rankOf? (cs : List Char) : Option Nat :=
  ["off", "error", "warn", "info", "debug", "trace"].findIdx? fun name =>
    name.toList = cs.map Char.toLower

/-- Reads `level`, `target` or `target=level`. A target alone lets everything through. -/
def parse? (cs : List Char) : Option Directive :=
  match Text.splitOn '=' cs with
  | [part] =>
    match rankOf? part with
    | some rank => some ⟨none, rank⟩
    | none => some ⟨some part, 5⟩
  | [target, level] =>
    let level := Text.trim level
    if level = [] then some ⟨some target, 5⟩ else (rankOf? level).map (⟨some target, ·⟩)
  | _ => none

end Directive

/-- Directives by rising length of their targets, and a pattern that must occur in messages. -/
structure Filter where
  directives : List Directive
  pattern : Option Pattern := none
  deriving Repr

namespace Filter

/-- Adds a directive, in place of one for the same target. -/
def add (rs : List Directive) (r : Directive) : List Directive :=
  if rs.any (·.target = r.target) then rs.map fun s => if s.target = r.target then r else s
  else rs ++ [r]

/-- A filter of some directives; without any, errors alone pass. -/
def ofDirectives (rs : List Directive) (pattern : Option Pattern) : Filter :=
  let rs := if rs = [] then [⟨none, Level.error.rank⟩] else rs
  { directives := rs.mergeSort fun a b => a.length ≤ b.length, pattern }

/-- What passes where nothing else is asked for. -/
def standard : Filter := ofDirectives [⟨none, Level.info.rank⟩] none

/-- Reads directives between commas, and a pattern for messages after a slash. Directives that cannot
be read are passed over, and so is such a pattern; with a second slash the whole counts for nothing. -/
def parse (text : String) : Filter :=
  match Text.splitOn '/' text.toList with
  | directives :: rest =>
    if 2 ≤ rest.length then ofDirectives [] none
    else
      let parts := ((Text.splitOn ',' directives).map Text.trim).filter (· ≠ [])
      let pattern := rest.head?.bind fun cs => Pattern.parse? (String.ofList cs)
      ofDirectives ((parts.filterMap Directive.parse?).foldl add []) pattern
  | [] => ofDirectives [] none

def allows (f : Filter) (l : Line) : Bool :=
  (match f.directives.reverse.find? (·.matchesTarget l.source.target.toList) with
    | some r => l.level.rank ≤ r.rank
    | none => false) &&
  f.pattern.all (·.occursIn l.message)

end Filter

/-- What the program writes out: logging is set up by the first of some requests, each with a filter
of its own or without; then the environment's filter counts, and then the standard one. Setting up is
itself a line. -/
def written (requests : List (Option String)) (environment : Option String) (lines : List Line) :
    List String :=
  match requests with
  | [] => []
  | request :: _ =>
    let filter := match request, environment with
      | some text, _ | none, some text => Filter.parse text
      | none, none => Filter.standard
    let all := ⟨.debug, .logging, "[directive] logging initialized"⟩ :: lines
    (all.filter filter.allows).map Line.written

end MarkupActions.Log
