import MarkupActions.Html.Entity

/-! Character references. -/

namespace MarkupActions.Html.CharRef

/-- What the codes from 80 to 9F hexadecimal stand for, where that is not their own control
character. -/
def legacy : List (Nat × Nat) :=
  [(0x80, 0x20AC), (0x82, 0x201A), (0x83, 0x0192), (0x84, 0x201E), (0x85, 0x2026), (0x86, 0x2020),
   (0x87, 0x2021), (0x88, 0x02C6), (0x89, 0x2030), (0x8A, 0x0160), (0x8B, 0x2039), (0x8C, 0x0152),
   (0x8E, 0x017D), (0x91, 0x2018), (0x92, 0x2019), (0x93, 0x201C), (0x94, 0x201D), (0x95, 0x2022),
   (0x96, 0x2013), (0x97, 0x2014), (0x98, 0x02DC), (0x99, 0x2122), (0x9A, 0x0161), (0x9B, 0x203A),
   (0x9C, 0x0153), (0x9E, 0x017E), (0x9F, 0x0178)]

def replacement : Char := Char.ofNat 0xFFFD

/-- The character with a code. Codes that no text may hold give the replacement character. -/
def ofCode (n : Nat) : Char :=
  if n = 0 ∨ 0x10FFFF < n ∨ (0xD800 ≤ n ∧ n ≤ 0xDFFF) then replacement
  else Char.ofNat ((legacy.lookup n).getD n)

def isHexDigit (c : Char) : Bool :=
  c.isDigit || ('a' ≤ c && c ≤ 'f') || ('A' ≤ c && c ≤ 'F')

def digit (c : Char) : Nat :=
  if c.isDigit then c.toNat - '0'.toNat
  else if 'a' ≤ c then c.toNat - 'a'.toNat + 10
  else c.toNat - 'A'.toNat + 10

def number (base : Nat) (ds : List Char) : Nat := ds.foldl (fun n d => base * n + digit d) 0

/-- A numeric reference after `&#` and, in base 16, the `x`: its character, and how many characters
of the text it takes. A semicolon at its end belongs to it. -/
def numeric? (base : Nat) (cs : List Char) : Option (List Char × Nat) :=
  let ds := cs.takeWhile fun c => if base = 16 then isHexDigit c else c.isDigit
  if ds = [] then none
  else some ([ofCode (number base ds)], ds.length + if cs[ds.length]? = some ';' then 1 else 0)

/-- The longest known name at the front of a text. -/
def longestName? (cs : List Char) : Nat → Option (List Char × Nat)
  | 0 => none
  | n + 1 =>
    match Entity.find? (cs.take (n + 1)) with
    | some s => some (s, n + 1)
    | none => longestName? cs n

/-- A named reference after the ampersand. In an attribute, a name without its semicolon does not
count where a letter, a digit or an equals sign follows. -/
def named? (inAttribute : Bool) (cs : List Char) : Option (List Char × Nat) := do
  let (s, n) ← longestName? cs (min Entity.longest cs.length)
  let unclosed := cs[n - 1]? ≠ some ';'
  let runsOn := match cs[n]? with
    | some c => c.isAlphanum || c == '='
    | none => false
  if inAttribute && unclosed && runsOn then none else some (s, n)

/-- A reference after the ampersand: what it stands for and how many characters it takes. -/
def reference? (inAttribute : Bool) : List Char → Option (List Char × Nat)
  | '#' :: 'x' :: cs | '#' :: 'X' :: cs => (numeric? 16 cs).map fun (s, n) => (s, n + 2)
  | '#' :: cs => (numeric? 10 cs).map fun (s, n) => (s, n + 1)
  | cs => named? inAttribute cs

/-- Whether a text starts with a reference that lacks its semicolon. -/
def startsUnclosed : List Char → Bool
  | '&' :: cs => (reference? false cs).any fun (_, n) => cs[n - 1]? ≠ some ';'
  | _ => false

/-- The text with every reference replaced. -/
def decode (inAttribute : Bool) : List Char → List Char
  | [] => []
  | c :: cs =>
    if c = '&' then
      match reference? inAttribute cs with
      | some (s, n) => s ++ decode inAttribute (cs.drop n)
      | none => '&' :: decode inAttribute cs
    else c :: decode inAttribute cs
termination_by cs => cs.length
decreasing_by all_goals (simp only [List.length_drop, List.length_cons]; omega)

end MarkupActions.Html.CharRef
