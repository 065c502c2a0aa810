/-! Text as it is written where there is no terminal: without the sequences that steer one. -/

namespace MarkupActions.Text.Terminal

/-- Where the text is: outside of all sequences, or in one that has begun with an escape. -/
inductive State where
  | plain
  | escape
  /-- After characters that put off the end of an escape. -/
  | escapeTail
  /-- In a control sequence, which ends with a letter or a sign above the digits. -/
  | control
  /-- In a command, which ends with a bell. -/
  | command
  /-- Before the data of a device: nothing yet, its numbers, or the characters after them. -/
  | deviceStart | deviceNumbers | deviceTail
  /-- In data, which end with the byte 9C. -/
  | data
  deriving DecidableEq, Repr

/-- Whether the byte 9C is among those of a character beyond ASCII. It cannot come first, and each
byte after the first holds six bits. -/
def endsData (c : Char) : Bool :=
  let n := c.toNat
  n % 64 = 0x1C || (0x800 ≤ n && n / 64 % 64 = 0x1C) || (0x10000 ≤ n && n / 4096 % 64 = 0x1C)

/-- Blanks are written inside of sequences too, and put an end to them. -/
def isBlank (n : Nat) : Bool := n = 9 || n = 10 || n = 12 || n = 13

/-- The state after a character and whether the character is written. -/
def State.step (s : State) (c : Char) : State × Bool :=
  let n := c.toNat
  if n = 0x18 || n = 0x1A then (plain, false)
  else if n = 0x1B then (escape, false)
  else match s with
    | plain => (plain, isBlank n || (0x20 ≤ n && n ≠ 0x7F))
    | escape =>
      if isBlank n then (plain, true)
      else if n < 0x20 || 0x7F ≤ n then (escape, false)
      else if n < 0x30 then (escapeTail, false)
      else if c = '[' then (control, false)
      else if c = ']' then (command, false)
      else if c = 'P' then (deviceStart, false)
      else if c = 'X' || c = '^' || c = '_' then (data, false)
      else (plain, false)
    | escapeTail =>
      if isBlank n then (plain, true)
      else if n < 0x30 || 0x7F ≤ n then (escapeTail, false) else (plain, false)
    | control =>
      if isBlank n then (plain, true)
      else if n < 0x40 || 0x7F ≤ n then (control, false) else (plain, false)
    | command => (if n = 7 then plain else command, false)
    | deviceStart =>
      if n < 0x20 || 0x7F ≤ n then (deviceStart, false)
      else if n < 0x30 then (deviceTail, false)
      else if n < 0x40 then (deviceNumbers, false)
      else (data, false)
    | deviceNumbers =>
      if n < 0x20 || 0x7F ≤ n then (deviceNumbers, false)
      else if n < 0x30 then (deviceTail, false)
      else if n < 0x3C then (deviceNumbers, false)
      else (data, false)
    | deviceTail =>
      if n < 0x30 || 0x7F ≤ n then (deviceTail, false) else (data, false)
    | data => (if 0x80 ≤ n && endsData c then plain else data, false)

/-- What is written of a text, from a state on. -/
def strip : State → List Char → List Char
  | _, [] => []
  | s, c :: cs =>
    let (s, isWritten) := s.step c
    if isWritten then c :: strip s cs else strip s cs

/-- What is written of a text. -/
def stripped (s : String) : String := String.ofList (strip .plain s.toList)

end MarkupActions.Text.Terminal
