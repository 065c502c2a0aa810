/-! Numbers in data: which are whole and which are in range. A number that is not a whole one of 64
bits is a significand of 64 bits times a power of ten, both of which are rounded to double precision
before they are multiplied. -/

namespace MarkupActions.Json

/-- A number in range: a whole number that fits 64 bits, signed or not, or any other. -/
inductive Number where
  | whole (n : Int)
  | fractional
  deriving DecidableEq, Repr

namespace Number

def digit (d : Char) : Nat := d.toNat - '0'.toNat

def digitsValue (ds : List Char) : Nat := ds.foldl (fun n d => 10 * n + digit d) 0

/-- Appends digits to a significand as long as it fits 64 bits. The digits from the first one that
does not fit are left over. -/
def significand : Nat → List Char → Nat × List Char
  | m, [] => (m, [])
  | m, d :: ds =>
    if 10 * m + digit d < UInt64.size then significand (10 * m + digit d) ds else (m, d :: ds)

/-- The nearest number with 53 binary digits, halfway the one that ends in an even digit. -/
def rounded (n : Nat) : Nat :=
  let k := n.log2 - 52
  let step := 1 <<< k
  let (q, r) := (n / step, n % step)
  if step < 2 * r ∨ (step = 2 * r ∧ q % 2 = 1) then (q + 1) * step else q * step

/-- The least magnitude that rounds to no number of double precision. -/
def tooLarge : Nat := (1 <<< 1024) - (1 <<< 970)

/-- Whether `m · 10^e` is in range. Only zero is, with a power beyond the largest in range. -/
def fits (m : Nat) (e : Int) : Bool :=
  m = 0 || e < 0 || (e ≤ 308 && rounded m * rounded (Nat.pow 10 e.toNat) < tooLarge)

/-- A number from its sign, the digits before and after the point, and its exponent, if it is in
range. Digits before the point that do not fit the significand count in the exponent; after the
point they are dropped. -/
def ofDigits? (negative : Bool) (ds : List Char) (fraction : Option (List Char))
    (exponent : Option Int) : Option Number :=
  let (m, extra) := significand 0 ds
  if extra = [] ∧ fraction = none ∧ exponent = none ∧ (negative → 0 < m ∧ m ≤ 1 <<< 63) then
    some (.whole (if negative then -m else m))
  else
    let part := fraction.getD []
    let (m, dropped) := significand m part
    let e : Int := extra.length - (part.length - dropped.length) + exponent.getD 0
    if fits m e then some .fractional else none

end Number

end MarkupActions.Json
