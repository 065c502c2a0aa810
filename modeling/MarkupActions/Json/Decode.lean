import MarkupActions.Json.Raw

/-! Typed readers. Each walks a raw tree from left to right and stops at the first fault, so which of
two faults is reported depends on what is wanted where. -/

namespace MarkupActions.Json

/-- A reader of one type. -/
abbrev Decoder (α : Type) := Raw → Except Fault α

/-- The end of a list for who wants another element. -/
def Stop.next : Stop → Except Fault Unit
  | closed => .ok ()
  | cut f _ => .error f

namespace Raw

def text : Decoder String
  | string (some s) => .ok s
  | r => .error r.mismatch

def boolean : Decoder Bool
  | bool b => .ok b
  | r => .error r.mismatch

/-- A whole number of 64 bits with a sign. -/
def int64 : Decoder Int64
  | number (some (.whole n)) =>
    if Int64.minValue.toInt ≤ n ∧ n ≤ Int64.maxValue.toInt then .ok (Int64.ofInt n) else .error .unexpected
  | r => .error r.mismatch

/-- A whole number of 64 bits without a sign. -/
def count : Decoder Nat
  | number (some (.whole n)) => if 0 ≤ n then .ok n.toNat else .error .unexpected
  | r => .error r.mismatch

def unit : Decoder Unit
  | null => .ok ()
  | r => .error r.mismatch

/-- Null for nothing, else a value. -/
def nullable {α : Type} (d : Decoder α) : Decoder (Option α)
  | null => .ok none
  | r => (d r).map some

def list {α : Type} (d : Decoder α) : Decoder (List α)
  | array items stop => do
    let xs ← items.mapM d
    stop.next
    return xs
  | r => .error r.mismatch

mutual

/-- Passes over a value: only its grammar matters. -/
def skip : Raw → Except Fault Unit
  | missing => .error .ended
  | broken _ _ passed => .error passed
  | array items stop => do skipItems items; stop.next
  | object fields stop => do skipFields fields; stop.next
  | _ => .ok ()

def skipItems : List Raw → Except Fault Unit
  | [] => .ok ()
  | r :: rs => do skip r; skipItems rs

def skipFields : List (Except Fault String × Raw) → Except Fault Unit
  | [] => .ok ()
  | (_, r) :: fs => do skip r; skipFields fs

end

mutual

/-- Takes in a value of any kind, nested at most as deep as the first argument says. -/
def take : Nat → Raw → Except Fault Unit
  | 0, array _ _ | 0, object _ _ => .error .malformed
  | n + 1, array items stop => do takeItems n items; stop.next
  | n + 1, object fields stop => do takeFields n fields; stop.next
  | _, missing => .error .ended
  | _, broken _ wanted _ => .error wanted
  | _, number none | _, string none => .error .malformed
  | _, _ => .ok ()

def takeItems : Nat → List Raw → Except Fault Unit
  | _, [] => .ok ()
  | n, r :: rs => do take n r; takeItems n rs

def takeFields : Nat → List (Except Fault String × Raw) → Except Fault Unit
  | _, [] => .ok ()
  | _, (.error _, _) :: _ => .error .malformed
  | n, (.ok _, r) :: fs => do take n r; takeFields n fs

end

/-- How deep a value may be nested in an object that is taken in: 127 levels, that object's own
among them. -/
def depthLimit : Nat := 126

end Raw

/-- One field of a record: its name, whether a draft has it, and how it is read into the draft from
an object and from an array. -/
structure Slot (δ : Type) where
  name : String
  given : δ → Bool
  read : Raw → δ → Except Fault δ
  readItem : Raw → δ → Except Fault δ := read

/-- A record read field by field into a draft. An object may leave fields out or hold unknown ones;
an array holds the fields in order, and may be cut short only if `openEnded`. -/
structure Record (δ α : Type) where
  slots : List (Slot δ)
  start : δ
  finish : δ → Except Fault α
  openEnded : Bool := false

namespace Record

variable {δ α : Type}

/-- Reads fields into a draft. A field given twice is refused before its second value is read. -/
def readFields (slots : List (Slot δ)) : List (Except Fault String × Raw) → δ → Except Fault δ
  | [], d => .ok d
  | (.error _, _) :: _, _ => .error .malformed
  | (.ok k, r) :: fs, d =>
    match slots.find? (·.name = k) with
    | none => do r.skip; readFields slots fs d
    | some slot =>
      if slot.given d then .error .unexpected else do readFields slots fs (← slot.read r d)

/-- Reads items into a draft, and says whether every slot got one. -/
def readItems : List (Slot δ) → List Raw → Stop → δ → Except Fault (δ × Bool)
  | [], [], .closed, d => .ok (d, true)
  | [], [], .cut _ close, _ => .error close
  | [], _ :: _, _, _ => .error .malformed
  | _ :: _, [], .closed, d => .ok (d, false)
  | _ :: _, [], .cut next _, _ => .error next
  | slot :: slots, r :: rs, stop, d => do readItems slots rs stop (← slot.readItem r d)

def decode (rec : Record δ α) : Decoder α
  | .object fields stop => do
    let d ← readFields rec.slots fields rec.start
    stop.next
    rec.finish d
  | .array items stop => do
    let (d, full) ← readItems rec.slots items stop rec.start
    if full || rec.openEnded then rec.finish d else .error .unexpected
  | r => .error r.mismatch

end Record

/-- What a record lacks. -/
def required {α : Type} : Option α → Except Fault α
  | some a => .ok a
  | none => .error .unexpected

/-- Reads a whole text. What follows the value is looked at last. -/
def decodeText {α : Type} (d : Decoder α) (text : String) : Except Fault α :=
  match Raw.ofText text with
  | (r, trailing) => do
    let a ← d r
    if trailing then .error .malformed else return a

mutual

/-- The value of a raw tree without faults. Numbers that are not whole have none. -/
def ofRaw? : Raw → Option Json
  | .null => some null
  | .bool b => some (bool b)
  | .number (some (.whole n)) => some (number n)
  | .string (some s) => some (string s)
  | .array items .closed => (ofItems? items).map array
  | .object fields .closed => (ofFields? fields).map object
  | _ => none

def ofItems? : List Raw → Option (List Json)
  | [] => some []
  | r :: rs => do return (← ofRaw? r) :: (← ofItems? rs)

def ofFields? : List (Except Fault String × Raw) → Option (List (String × Json))
  | [] => some []
  | (.ok k, r) :: fs => do return (k, ← ofRaw? r) :: (← ofFields? fs)
  | (.error _, _) :: _ => none

end

/-- The value that a text writes. -/
def ofText? (text : String) : Option Json :=
  match Raw.ofText text with
  | (r, false) => ofRaw? r
  | (_, true) => none

end MarkupActions.Json
