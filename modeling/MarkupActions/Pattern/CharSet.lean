import MarkupActions.Text.Case
import MarkupActions.Text.Letter

/-! Sets of characters, as patterns describe them. -/

namespace MarkupActions.Pattern

open Text (Category)

/-- A set of characters. -/
inductive CharSet where
  | none
  | range (first last : Char)
  | category (k : Category)
  | blank | decimal | wordPart | letter | small | capital
  | union (s t : CharSet)
  | inter (s t : CharSet)
  | not (s : CharSet)
  /-- With every character all that differ from it in case alone. -/
  | anyCase (s : CharSet)
  /-- The same for the letters of ASCII. -/
  | anyAsciiCase (s : CharSet)
  deriving DecidableEq, Repr

namespace CharSet

def contains : CharSet → Char → Bool
  | none, _ => false
  | range first last, c => first ≤ c && c ≤ last
  | category k, c => Category.ofChar c = k
  | blank, c => Text.isBlank c
  | decimal, c => Text.isDecimal c
  | wordPart, c => Text.isWordPart c
  | letter, c => Text.isLetter c
  | small, c => Text.isSmall c
  | capital, c => Text.isCapital c
  | union s t, c => s.contains c || t.contains c
  | inter s t, c => s.contains c && t.contains c
  | not s, c => !s.contains c
  | anyCase s, c => (Text.caseVariants c).any s.contains
  | anyAsciiCase s, c => s.contains c || s.contains c.toLower || s.contains c.toUpper

/-- How many steps a matcher takes for the set. Kinds of characters of all languages are scattered
over many ranges. -/
def steps : CharSet → Nat
  | none | range _ _ => 1
  | union s t | inter s t => s.steps + t.steps
  | not s | anyCase s | anyAsciiCase s => s.steps
  | blank => 20
  | _ => 300

def all : CharSet := not none

def single (c : Char) : CharSet := range c c

def ofChars (cs : List Char) : CharSet := cs.foldr (fun c s => union (single c) s) none

def ofRanges (rs : List (Char × Char)) : CharSet :=
  rs.foldr (fun (first, last) s => union (range first last) s) none

def ofCategories (ks : List Category) : CharSet := ks.foldr (fun k s => union (category k) s) none

def diff (s t : CharSet) : CharSet := inter s (not t)

/-- What is in one of two sets but not in both. -/
def apart (s t : CharSet) : CharSet := union (diff s t) (diff t s)

/-! ### Named sets -/

/-- The sets of ASCII characters that have a name between colons. -/
def asciiNamed? (name : String) : Option CharSet :=
  (table.lookup name).map ofRanges
where
  table : List (String × List (Char × Char)) :=
    [("alnum", [('0', '9'), ('A', 'Z'), ('a', 'z')]),
     ("alpha", [('A', 'Z'), ('a', 'z')]),
     ("ascii", [(Char.ofNat 0, Char.ofNat 0x7F)]),
     ("blank", [('\t', '\t'), (' ', ' ')]),
     ("cntrl", [(Char.ofNat 0, Char.ofNat 0x1F), (Char.ofNat 0x7F, Char.ofNat 0x7F)]),
     ("digit", [('0', '9')]),
     ("graph", [('!', '~')]),
     ("lower", [('a', 'z')]),
     ("print", [(' ', '~')]),
     ("punct", [('!', '/'), (':', '@'), ('[', Char.ofNat 0x60), (Char.ofNat 0x7B, '~')]),
     ("space", [('\t', '\r'), (' ', ' ')]),
     ("upper", [('A', 'Z')]),
     ("word", [('0', '9'), ('A', 'Z'), ('_', '_'), ('a', 'z')]),
     ("xdigit", [('0', '9'), ('A', 'F'), ('a', 'f')])]

/-- The categories under their names, short and long. -/
def categories : List (List String × List Category) :=
  [(["lu", "uppercaseletter"], [.upperLetter]),
   (["ll", "lowercaseletter"], [.lowerLetter]),
   (["lt", "titlecaseletter"], [.titleLetter]),
   (["lc", "casedletter"], [.upperLetter, .lowerLetter, .titleLetter]),
   (["lm", "modifierletter"], [.modifierLetter]),
   (["lo", "otherletter"], [.otherLetter]),
   (["l", "letter"],
    [.upperLetter, .lowerLetter, .titleLetter, .modifierLetter, .otherLetter]),
   (["mn", "nonspacingmark"], [.nonspacingMark]),
   (["mc", "spacingmark"], [.spacingMark]),
   (["me", "enclosingmark"], [.enclosingMark]),
   (["m", "mark", "combiningmark"], [.nonspacingMark, .spacingMark, .enclosingMark]),
   (["nd", "decimalnumber", "digit"], [.decimalNumber]),
   (["nl", "letternumber"], [.letterNumber]),
   (["no", "othernumber"], [.otherNumber]),
   (["n", "number"], [.decimalNumber, .letterNumber, .otherNumber]),
   (["pc", "connectorpunctuation"], [.connector]),
   (["pd", "dashpunctuation"], [.dash]),
   (["ps", "openpunctuation"], [.opening]),
   (["pe", "closepunctuation"], [.closing]),
   (["pi", "initialpunctuation"], [.initialQuote]),
   (["pf", "finalpunctuation"], [.finalQuote]),
   (["po", "otherpunctuation"], [.otherPunctuation]),
   (["p", "punctuation", "punct"],
    [.connector, .dash, .opening, .closing, .initialQuote, .finalQuote, .otherPunctuation]),
   (["sm", "mathsymbol"], [.mathSymbol]),
   (["sc", "currencysymbol"], [.currencySymbol]),
   (["sk", "modifiersymbol"], [.modifierSymbol]),
   (["so", "othersymbol"], [.otherSymbol]),
   (["s", "symbol"], [.mathSymbol, .currencySymbol, .modifierSymbol, .otherSymbol]),
   (["zs", "spaceseparator"], [.space]),
   (["zl", "lineseparator"], [.lineSeparator]),
   (["zp", "paragraphseparator"], [.paragraphSeparator]),
   (["z", "separator"], [.space, .lineSeparator, .paragraphSeparator]),
   (["cc", "control", "cntrl"], [.control]),
   (["cf", "format"], [.format]),
   (["co", "privateuse"], [.privateUse]),
   (["cn", "unassigned"], [.unassigned]),
   (["c", "other"], [.control, .format, .privateUse, .unassigned])]

/-- A name in small letters and without what may stand between words. A leading `is` does not
count. -/
def plainName (cs : List Char) : String :=
  let isMarked := (cs.take 2).map Char.toLower = ['i', 's']
  let cs := (if isMarked then cs.drop 2 else cs).filter fun c =>
    c.toNat < 0x80 && c != ' ' && c != '_' && c != '-'
  String.ofList (cs.map Char.toLower)

/-- The set of a category name. -/
def ofCategoryName? (name : String) : Option CharSet :=
  if name = "any" then some all
  else if name = "assigned" then some (not (category .unassigned))
  else if name = "ascii" then some (range (Char.ofNat 0) (Char.ofNat 0x7F))
  else (categories.find? (·.1.contains name)).map (ofCategories ·.2)

/-- The set of the name of a property or a category. -/
def named? (cs : List Char) : Option CharSet :=
  let name := plainName cs
  match name with
  | "alphabetic" | "alpha" => some letter
  | "lowercase" | "lower" => some small
  | "uppercase" | "upper" => some capital
  | "whitespace" | "wspace" | "space" => some blank
  | _ => ofCategoryName? name

/-- The set of a property's name and value. -/
def ofProperty? (property value : List Char) : Option CharSet :=
  if ["gc", "generalcategory"].contains (plainName property) then ofCategoryName? (plainName value)
  else .none

end CharSet

end MarkupActions.Pattern
