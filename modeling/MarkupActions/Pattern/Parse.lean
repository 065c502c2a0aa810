import MarkupActions.Pattern.Basic

/-! Patterns from their written form. What is not well-formed is no pattern at all. -/

namespace MarkupActions.Pattern

/-- How what follows is read; a pattern may change it on the way. -/
structure Mode where
  /-- Letters are compared without case. -/
  anyCase : Bool := false
  /-- The anchors of a text stand for those of its lines. -/
  byLine : Bool := false
  /-- The dot stands for line ends too. -/
  anyDot : Bool := false
  /-- Carriage returns end lines. -/
  carriage : Bool := false
  /-- Blanks and comments in the pattern do not count. -/
  spaced : Bool := false
  /-- Characters beyond ASCII have their kinds. -/
  wide : Bool := true
  deriving DecidableEq, Repr

namespace Mode

def words (m : Mode) : Words := if m.wide then .all else .ascii

/-- The text from the next character that counts. -/
def skip (m : Mode) (cs : List Char) : List Char := if m.spaced then go false cs else cs
where
  go : Bool → List Char → List Char
    | _, [] => []
    | true, c :: cs => go (c ≠ '\n') cs
    | false, c :: cs =>
      if Text.isBlank c then go false cs else if c = '#' then go true cs else c :: cs

/-- The set that a written set stands for. Case is looked at before the set is turned round, and
without the kinds of all characters no set is turned round. -/
def finish? (m : Mode) (negated : Bool) (s : CharSet) : Option CharSet :=
  if !m.wide && negated then none
  else
    let s := if !m.anyCase then s else if m.wide then .anyCase s else .anyAsciiCase s
    some (if negated then .not s else s)

end Mode

/-! ### Escapes -/

/-- What stands for one character, or for a condition between two. -/
inductive Atom where
  | char (c : Char)
  | set (s : CharSet)
  | anchor (a : Anchor)
  deriving DecidableEq, Repr

def hexValue? (c : Char) : Option Nat :=
  if c.isDigit then some (c.toNat - '0'.toNat)
  else if 'a' ≤ c ∧ c ≤ 'f' then some (c.toNat - 'a'.toNat + 10)
  else if 'A' ≤ c ∧ c ≤ 'F' then some (c.toNat - 'A'.toNat + 10)
  else none

def charOf? (n : Nat) : Option Char := if n.isValidChar then some (Char.ofNat n) else none

/-- The value of a number of hexadecimal digits, with what follows. -/
def readHex (m : Mode) : Nat → Nat → List Char → Option (Nat × List Char)
  | 0, n, cs => some (n, cs)
  | k + 1, n, c :: cs => do readHex m k (16 * n + (← hexValue? c)) (m.skip cs)
  | _, _, [] => none

/-- The text before a closing brace, with what follows it. -/
def readBraced (m : Mode) : Nat → List Char → Option (List Char × List Char)
  | 0, _ => none
  | n + 1, cs =>
    match m.skip cs with
    | [] => none
    | c :: cs =>
      if c.toNat = 0x7D then some ([], cs)
      else do let (s, rest) ← readBraced m n cs; return (c :: s, rest)

/-- A character given by its code: in braces, or as so many digits. Without the kinds of all
characters, two digits stand for a byte, which is a character only in ASCII. -/
def readCode (m : Mode) (digits : Nat) (cs : List Char) : Option (Atom × List Char) :=
  match m.skip cs with
  | [] => none
  | c :: rest =>
    if c.toNat = 0x7B then do
      let (s, rest) ← readBraced m (rest.length + 1) rest
      if s = [] then none
      else
        let n ← s.foldlM (fun n c => return 16 * n + (← hexValue? c)) 0
        return (.char (← charOf? n), m.skip rest)
    else do
      let (n, rest) ← readHex m digits 0 (c :: rest)
      if !m.wide && digits = 2 && 0x7F < n then none else return (.char (← charOf? n), rest)

/-- The set of a property, from the letter or the brace on. -/
def readProperty (m : Mode) (negated : Bool) (cs : List Char) : Option (Atom × List Char) :=
  if !m.wide then none
  else match m.skip cs with
    | [] => none
    | c :: rest =>
      if c.toNat = 0x7B then do
        let (s, rest) ← readBraced m (rest.length + 1) rest
        let name := s.takeWhile fun c => c ≠ ':' && c ≠ '='
        let (isUnequal, set) ←
          if s.length = name.length then pure (false, ← CharSet.named? s)
          else
            let value := s.drop (name.length + 1)
            if name.getLast? = some '!' && s[name.length]? = some '=' then
              pure (true, ← CharSet.ofProperty? name.dropLast value)
            else pure (false, ← CharSet.ofProperty? name value)
        return (.set (← m.finish? (negated != isUnequal) set), rest)
      else if c = '\\' then none
      else do
        let set ← CharSet.ofCategoryName? (CharSet.plainName [c])
        return (.set (← m.finish? negated set), rest)

/-- The sets of digits, blanks and parts of words, by their letters. A capital turns the set
round. -/
def kindOf? (m : Mode) (c : Char) : Option CharSet := do
  let set ← match c.toLower with
    | 'd' => some (if m.wide then CharSet.decimal else .range '0' '9')
    | 's' => some (if m.wide then CharSet.blank else .ofRanges [('\t', '\r'), (' ', ' ')])
    | 'w' => if m.wide then some .wordPart else CharSet.asciiNamed? "word"
    | _ => none
  ({ m with anyCase := false } : Mode).finish? c.isUpper set

/-- The word edges in braces after `\b`. -/
def edgeNamed? (w : Words) (name : String) : Option Anchor :=
  match name with
  | "start" => some (.wordStart w)
  | "end" => some (.wordEnd w)
  | "start-half" => some (.noWordBefore w)
  | "end-half" => some (.noWordAfter w)
  | _ => none

/-- A word edge after `\b`. Braces belong to it if a letter or a hyphen comes first in them. -/
def readEdge (m : Mode) (cs : List Char) : Option (Atom × List Char) :=
  let isNamePart := fun c : Char => c.isAlpha || c = '-'
  match cs with
  | c :: rest =>
    if c.toNat ≠ 0x7B then some (.anchor (.wordEdge m.words), c :: rest)
    else match m.skip rest with
      | [] => none
      | d :: rest' =>
        if !isNamePart d then some (.anchor (.wordEdge m.words), c :: rest)
        else do
          let (s, rest) ← readBraced m (rest.length + 1) (d :: rest')
          if s.all isNamePart then return (.anchor (← edgeNamed? m.words (String.ofList s)), rest)
          else none
  | [] => some (.anchor (.wordEdge m.words), [])

/-- What follows a backslash. -/
def readEscape (m : Mode) : List Char → Option (Atom × List Char)
  | [] => none
  | c :: cs =>
    if c = 'x' then readCode m 2 cs
    else if c = 'u' then readCode m 4 cs
    else if c = 'U' then readCode m 8 cs
    else if c = 'p' || c = 'P' then readProperty m (c = 'P') cs
    else if ['d', 's', 'w', 'D', 'S', 'W'].contains c then do return (.set (← kindOf? m c), cs)
    else if c = 'b' then readEdge m cs
    else if c = 'B' then some (.anchor (.noWordEdge m.words), cs)
    else if c = '<' then some (.anchor (.wordStart m.words), cs)
    else if c = '>' then some (.anchor (.wordEnd m.words), cs)
    else if c = 'A' then some (.anchor .textStart, cs)
    else if c = 'z' then some (.anchor .textEnd, cs)
    else if c = 'a' then some (.char (Char.ofNat 7), cs)
    else if c = 'f' then some (.char (Char.ofNat 12), cs)
    else if c = 't' then some (.char '\t', cs)
    else if c = 'n' then some (.char '\n', cs)
    else if c = 'r' then some (.char '\r', cs)
    else if c = 'v' then some (.char (Char.ofNat 11), cs)
    else if c.isAlphanum || 0x80 ≤ c.toNat then none
    else some (.char c, cs)

/-! ### Sets in brackets -/

/-- What joins two sets in brackets. -/
inductive SetOp where
  | inter | diff | apart
  deriving DecidableEq, Repr

def SetOp.apply : SetOp → CharSet → CharSet → CharSet
  | inter => .inter
  | diff => .diff
  | apart => .apart

/-- An ASCII set with a name, after its opening bracket. -/
def readNamedSet (m : Mode) : List Char → Option (Option CharSet × List Char)
  | ':' :: cs =>
    let (negated, cs) := match cs with
      | '^' :: cs => (true, cs)
      | cs => (false, cs)
    match cs.dropWhile (· ≠ ':') with
    | ':' :: ']' :: rest =>
      (CharSet.asciiNamed? (String.ofList (cs.takeWhile (· ≠ ':')))).map fun s =>
        (m.finish? negated s, rest)
    | _ => none
  | _ => none

/-- A character or a set in brackets. -/
def readMember (m : Mode) : List Char → Option (Atom × List Char)
  | '\\' :: cs => readEscape m cs
  | c :: cs => some (.char c, cs)
  | [] => none

/-- Without the kinds of all characters, only those of ASCII stand in brackets. -/
def memberChar? (m : Mode) : Atom → Option Char
  | .char c => if m.wide || c.toNat < 0x80 then some c else none
  | _ => none

/-- A member of a set, or a range of characters. A hyphen makes a range unless a hyphen or the end of
the set follows. -/
def readRange (m : Mode) (cs : List Char) : Option (CharSet × List Char) := do
  let (a, rest) ← readMember m cs
  match m.skip rest with
  | [] => none
  | c :: rest =>
    let next := (m.skip rest).head?
    if c ≠ '-' || next = some ']' || next = some '-' then
      match a with
      | .set s => return (s, c :: rest)
      | a => return (.single (← memberChar? m a), c :: rest)
    else
      let (b, rest) ← readMember m (m.skip rest)
      let (first, last) := (← memberChar? m a, ← memberChar? m b)
      if first ≤ last then return (.range first last, rest) else none

/-- The members of a set up to its closing bracket: `left` is what is to be joined with the members
in `union`. The first argument bounds the number of steps. -/
def readMembers (m : Mode) (readSet : List Char → Option (CharSet × List Char)) :
    Nat → Option (SetOp × CharSet) → CharSet → List Char → Option (CharSet × List Char)
  | 0, _, _, _ => none
  | n + 1, left, union, cs =>
    let folded (s : CharSet) : CharSet := (m.finish? false s).getD s
    let joined : CharSet := match left with
      | some (op, s) => op.apply (folded s) (folded union)
      | none => union
    match m.skip cs with
    | [] => none
    | ']' :: rest => some (joined, rest)
    | '&' :: '&' :: rest => readMembers m readSet n (some (.inter, joined)) .none rest
    | '-' :: '-' :: rest => readMembers m readSet n (some (.diff, joined)) .none rest
    | '~' :: '~' :: rest => readMembers m readSet n (some (.apart, joined)) .none rest
    | '[' :: rest =>
      match readNamedSet m rest with
      | some (some s, rest) => readMembers m readSet n left (.union union s) rest
      | some (none, _) => none
      | none => do
        let (s, rest) ← readSet rest
        readMembers m readSet n left (.union union s) rest
    | cs => do
      let (s, rest) ← readRange m cs
      readMembers m readSet n left (.union union s) rest

/-- What follows the hyphens in front of a set, which stand for themselves. -/
def skipHyphens (m : Mode) : Nat → List Char → List Char
  | n + 1, '-' :: cs => skipHyphens m n (m.skip cs)
  | _, cs => cs

/-- A set after its opening bracket. A closing bracket that comes first stands for itself. -/
def readSet (m : Mode) : Nat → List Char → Option (CharSet × List Char)
  | 0, _ => none
  | n + 1, cs =>
    let (negated, cs) := match m.skip cs with
      | '^' :: cs => (true, m.skip cs)
      | cs => (false, cs)
    let (start, cs) := match cs with
      | '-' :: _ => (CharSet.single '-', skipHyphens m cs.length cs)
      | ']' :: cs => (.single ']', m.skip cs)
      | cs => (.none, cs)
    do
      let (s, rest) ← readMembers m (readSet m n) (cs.length + 1) none start cs
      return (← m.finish? negated s, rest)

/-! ### Groups -/

/-- Reads the letters that change the mode, up to a colon or a closing parenthesis. After a hyphen
they switch off. No letter stands twice, and none stands for nothing. -/
def readSwitches : List Char → Bool → Mode → List Char → Option (Mode × List Char)
  | _, _, _, [] => none
  | seen, on, m, c :: cs =>
    if c = ':' || c = ')' then if seen.head? = some '-' then none else some (m, c :: cs)
    else if seen.contains c then none
    else if c = '-' then readSwitches ('-' :: seen) false m cs
    else do
      let m ← match c with
        | 'i' => some { m with anyCase := on }
        | 'm' => some { m with byLine := on }
        | 's' => some { m with anyDot := on }
        | 'U' => some m
        | 'u' => some { m with wide := on }
        | 'R' => some { m with carriage := on }
        | 'x' => some { m with spaced := on }
        | _ => none
      readSwitches (c :: seen) on m cs

/-- The name of a group up to `>`. -/
def readGroupName (names : List String) (cs : List Char) : Option (String × List Char) :=
  let name := cs.takeWhile (· ≠ '>')
  let isPart := fun c =>
    c = '_' || c = '.' || c = '[' || c = ']' || Text.isLetter c || Text.isNumber c
  match name, cs.dropWhile (· ≠ '>') with
  | c :: tail, _ :: rest =>
    let s := String.ofList name
    if (c = '_' || Text.isLetter c) && tail.all isPart && !names.contains s then some (s, rest)
    else none
  | _, _ => none

/-- What an opening parenthesis starts: a group with a mode of its own, or a new mode for the rest of
the group around it. -/
inductive Opening where
  | group (m : Mode) (names : List String)
  | switch (m : Mode)

/-- What follows an opening parenthesis. Looking ahead and back is not known. -/
def readOpening (m : Mode) (names : List String) (cs : List Char) : Option (Opening × List Char) :=
  match m.skip cs with
  | '?' :: 'P' :: '<' :: cs => named cs
  | '?' :: '<' :: '=' :: _ | '?' :: '<' :: '!' :: _ => none
  | '?' :: '<' :: cs => named cs
  | '?' :: cs =>
    match readSwitches [] true m cs with
    | some (m', ')' :: rest) => if cs.head? = some ')' then none else some (.switch m', rest)
    | some (m', _ :: rest) => some (.group m' names, rest)
    | _ => none
  | cs => some (.group m names, cs)
where
  named (cs : List Char) : Option (Opening × List Char) := do
    let (s, rest) ← readGroupName names cs
    return (.group m (s :: names), rest)

/-- A group as far as it is read: its finished branches, and the items of the last one, the last item
first. A change of mode is an item without a pattern. The names are those of all groups before. -/
structure Group where
  mode : Mode
  names : List String
  branches : Option Pattern := none
  items : List (Option Pattern) := []

namespace Group

def push (g : Group) (p : Pattern) : Group := { g with items := some p :: g.items }

/-- The pattern of the group, if nothing follows. -/
def pattern (g : Group) : Pattern :=
  let last := match g.items.filterMap id with
    | [] => Pattern.empty
    | p :: ps => ps.foldl (fun q p => .seq p q) p
  match g.branches with
  | some p => .alt p last
  | none => last

/-- Begins another branch. -/
def branch (g : Group) : Group := { g with branches := some g.pattern, items := [] }

/-- Repeats the last item. -/
def repeat? (g : Group) (least : Nat) (most : Option Nat) : Option Group :=
  match g.items with
  | some p :: items => some { g with items := some (.times p least most) :: items }
  | _ => none

end Group

/-! ### Repetitions -/

/-- A number with blanks around it, if there is one, with what follows. Its value is below `2^32`. -/
def readCount (m : Mode) (cs : List Char) : Option (Option Nat × List Char) :=
  let rec digits : Nat → Option Nat → List Char → Option Nat × List Char
    | n + 1, v, c :: cs =>
      if c.isDigit then digits n (some (10 * v.getD 0 + (c.toNat - '0'.toNat))) (m.skip cs)
      else (v, c :: cs)
    | _, v, cs => (v, cs)
  let (v, rest) := digits cs.length none (cs.dropWhile Text.isBlank)
  if v.all (· < UInt32.size) then some (v, m.skip (rest.dropWhile Text.isBlank)) else none

/-- Counts in braces after the opening one: how often at least and at most. -/
def readCounts (m : Mode) (cs : List Char) : Option (Nat × Option Nat × List Char) := do
  let (least, rest) ← readCount m (m.skip cs)
  match rest with
  | ',' :: rest =>
    match m.skip rest with
    | [] => none
    | c :: rest =>
      if c.toNat = 0x7D then return (← least, none, m.skip rest)
      else
        let (most, rest) ← readCount m (c :: rest)
        if (← least) ≤ (← most) then close (← least) most rest else none
  | rest => do close (← least) least rest
where
  close (least : Nat) (most : Option Nat) : List Char → Option (Nat × Option Nat × List Char)
    | c :: rest => if c.toNat = 0x7D then some (least, most, m.skip rest) else none
    | [] => none

/-- A question mark after a repetition asks for few repetitions first, which changes no answer. -/
def skipLazy : List Char → List Char
  | '?' :: cs => cs
  | cs => cs

/-! ### Patterns -/

/-- The pattern of an atom outside brackets. -/
def atomPattern (m : Mode) : Atom → Pattern
  | .char c =>
    .one (if !m.anyCase then .single c
      else if m.wide then .anyCase (.single c) else .anyAsciiCase (.single c))
  | .set s => .one s
  | .anchor a => .at a

/-- The dot. -/
def dot? (m : Mode) : Option Pattern :=
  if !m.wide then none
  else if m.anyDot then some (.one .all)
  else some (.one (.not (.ofChars (if m.carriage then ['\r', '\n'] else ['\n']))))

/-- A character, a dot, an anchor or an escape. -/
def readAtom (m : Mode) : List Char → Option (Pattern × List Char)
  | [] => none
  | '\\' :: cs => (readEscape m cs).map fun (a, rest) => (atomPattern m a, rest)
  | '.' :: cs => (dot? m).map (·, cs)
  | '^' :: cs => some (.at (if m.byLine then .lineStart m.carriage else .textStart), cs)
  | '$' :: cs => some (.at (if m.byLine then .lineEnd m.carriage else .textEnd), cs)
  | c :: cs => some (atomPattern m (.char c), cs)

/-- The rest of a group up to its closing parenthesis or the end, with all names met so far. The first
argument bounds the number of items. -/
def readGroup : Nat → Group → List Char → Option (Pattern × List String × List Char)
  | 0, _, _ => none
  | n + 1, g, cs =>
    match g.mode.skip cs with
    | [] => some (g.pattern, g.names, [])
    | ')' :: rest => some (g.pattern, g.names, ')' :: rest)
    | '|' :: rest => readGroup n g.branch rest
    | '(' :: rest => do
      match ← readOpening g.mode g.names rest with
      | (.switch m, rest) => readGroup n { g with mode := m, items := none :: g.items } rest
      | (.group m names, rest) =>
        match ← readGroup n { mode := m, names } rest with
        | (p, names, ')' :: rest) => readGroup n { g.push p with names } rest
        | _ => none
    | '[' :: rest => do
      let (s, rest) ← readSet g.mode (rest.length + 1) rest
      readGroup n (g.push (.one s)) rest
    | '?' :: rest => do readGroup n (← g.repeat? 0 (some 1)) (skipLazy rest)
    | '*' :: rest => do readGroup n (← g.repeat? 0 none) (skipLazy rest)
    | '+' :: rest => do readGroup n (← g.repeat? 1 none) (skipLazy rest)
    | c :: rest =>
      if c.toNat = 0x7B then do
        let (least, most, rest) ← readCounts g.mode rest
        readGroup n (← g.repeat? least most) (skipLazy rest)
      else do
        let (p, rest) ← readAtom g.mode (c :: rest)
        readGroup n (g.push p) rest

/-- How many steps the matcher of a pattern may have. -/
def sizeLimit : Nat := 327680

/-- The pattern that a text writes. -/
def parse? (text : String) : Option Pattern :=
  match readGroup (text.toList.length + 1) { mode := {}, names := [] } text.toList with
  | some (p, _, []) => if p.size ≤ sizeLimit then some p else none
  | _ => none

end MarkupActions.Pattern
