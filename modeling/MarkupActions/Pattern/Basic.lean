import MarkupActions.Pattern.CharSet

/-! Patterns that texts are searched for. A pattern moves a set of places in a text on to the places
after what it matches from there; it occurs in a text if some place is left of all of them. -/

namespace MarkupActions

namespace Pattern

/-- Which characters words are made of: those of all languages, or of ASCII alone. -/
inductive Words where
  | all | ascii
  deriving DecidableEq, Repr

def Words.contains : Words → Option Char → Bool
  | _, none => false
  | all, some c => Text.isWordPart c
  | ascii, some c => c.isAlphanum || c = '_'

/-- A condition on a place in a text. -/
inductive Anchor where
  | textStart | textEnd
  /-- Line ends are line feeds, and with `carriage` carriage returns too, alone or before one. -/
  | lineStart (carriage : Bool)
  | lineEnd (carriage : Bool)
  | wordEdge (w : Words)
  | noWordEdge (w : Words)
  | wordStart (w : Words)
  | wordEnd (w : Words)
  | noWordBefore (w : Words)
  | noWordAfter (w : Words)
  deriving DecidableEq, Repr

/-- Whether the condition holds between two characters, of which either is missing at an end of the
text. -/
def Anchor.holds (a : Anchor) (before after : Option Char) : Bool :=
  match a with
  | textStart => before.isNone
  | textEnd => after.isNone
  | lineStart carriage =>
    before.all fun c => c = '\n' || (carriage && c = '\r' && after ≠ some '\n')
  | lineEnd carriage =>
    after.all fun c =>
      if carriage then c = '\r' || (c = '\n' && before ≠ some '\r') else c = '\n'
  | wordEdge w => w.contains before != w.contains after
  | noWordEdge w => w.contains before == w.contains after
  | wordStart w => !w.contains before && w.contains after
  | wordEnd w => w.contains before && !w.contains after
  | noWordBefore w => !w.contains before
  | noWordAfter w => !w.contains after

end Pattern

open Pattern in
inductive Pattern where
  | empty
  | one (s : CharSet)
  | at (a : Anchor)
  | seq (p q : Pattern)
  | alt (p q : Pattern)
  /-- `least` times at least and, if there is a number, `most` times at most. -/
  | times (p : Pattern) (least : Nat) (most : Option Nat)
  deriving DecidableEq, Repr

namespace Pattern

/-- A set of places in a text: bit `i` is for the place before the `i`-th character, and the last one
for the end. -/
abbrev Places := Nat

/-- The places before a character of a set. -/
def placesBefore (s : CharSet) : List Char → Places
  | [] => 0
  | c :: cs => 2 * placesBefore s cs + if s.contains c then 1 else 0

/-- The places where a condition holds, in a text that follows a character or none. -/
def placesAt (a : Anchor) : Option Char → List Char → Places
  | before, [] => if a.holds before none then 1 else 0
  | before, c :: cs =>
    2 * placesAt a (some c) cs + if a.holds before (some c) then 1 else 0

/-- All places of a text. -/
def allPlaces : List Char → Places
  | [] => 1
  | _ :: cs => 2 * allPlaces cs + 1

/-- Moves places on a number of times, or until nothing changes any more. -/
def repeated (f : Places → Places) : Nat → Places → Places
  | 0, s => s
  | n + 1, s => let t := f s; if t = s then s else repeated f n t

/-- The places after a pattern's matches from some places. Any number of repetitions leads no further
than as many as there are places. -/
def after (cs : List Char) : Pattern → Places → Places
  | empty, s => s
  | one k, s => 2 * (s &&& placesBefore k cs)
  | .at a, s => s &&& placesAt a none cs
  | seq p q, s => after cs q (after cs p s)
  | alt p q, s => after cs p s ||| after cs q s
  | times p least most, s =>
    let more := match most with
      | some most => most - least
      | none => cs.length + 1
    repeated (fun s => s ||| after cs p s) more (repeated (after cs p) least s)

def occursIn (p : Pattern) (text : String) : Bool :=
  after text.toList p (allPlaces text.toList) ≠ 0

/-- How many steps a matcher of the pattern has, with every repetition written out. Sets beyond ASCII
take many. -/
def size : Pattern → Nat
  | empty => 0
  | one s => s.steps
  | .at _ => 1
  | seq p q => p.size + q.size
  | alt p q => p.size + q.size + 1
  | times p least most => (p.size + 1) * max 1 (most.getD least)

end Pattern

end MarkupActions
