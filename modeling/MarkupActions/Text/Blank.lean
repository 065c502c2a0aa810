/-! Blank characters, trimming, and cutting a text at a separator. -/

namespace MarkupActions.Text

/-- The 25 characters with Unicode's White_Space property. -/
def isBlank (c : Char) : Bool :=
  let n := c.toNat
  (9 ≤ n && n ≤ 13) || n == 0x20 || n == 0x85 || n == 0xA0 || n == 0x1680 ||
    (0x2000 ≤ n && n ≤ 0x200A) || n == 0x2028 || n == 0x2029 || n == 0x202F ||
    n == 0x205F || n == 0x3000

def trimStart (cs : List Char) : List Char := cs.dropWhile isBlank

def trimEnd (cs : List Char) : List Char := (cs.reverse.dropWhile isBlank).reverse

/-- The text without the blanks at its two ends. -/
def trim (cs : List Char) : List Char := trimEnd (trimStart cs)

/-- The parts between the occurrences of `sep`, one more than there are occurrences. -/
def splitOn (sep : Char) : List Char → List (List Char)
  | [] => [[]]
  | c :: cs => if c = sep then [] :: splitOn sep cs else (splitOn sep cs).modifyHead (c :: ·)

/-- The text without the blanks at its two ends, as a string. -/
def trimmed (s : String) : String := String.ofList (trim s.toList)

@[simp] theorem splitOn_nil (sep : Char) : splitOn sep [] = [[]] := rfl

theorem splitOn_ne_nil (sep : Char) (cs : List Char) : splitOn sep cs ≠ [] := by
  induction cs with
  | nil => simp
  | cons c cs ih =>
    unfold splitOn
    split
    · simp
    · cases h : splitOn sep cs with
      | nil => exact absurd h ih
      | cons p ps => simp

end MarkupActions.Text
