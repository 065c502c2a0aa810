import MarkupActions.Argument.Value
import MarkupActions.Json.Decode

/-! Literals and arguments as data. A literal has its kind beside its value; an argument has its type
among its fields. -/

namespace MarkupActions

open Json (Fault Raw Decoder)

namespace Literal

/-- The kind of a literal. -/
inductive Kind where
  | str | int | bool | sectionRef | liveText
  deriving DecidableEq, Repr

namespace Kind

def name : Kind → String
  | str => "str"
  | int => "int"
  | bool => "bool"
  | sectionRef => "section"
  | liveText => "live-text"

def ofName (s : String) : Except Fault Kind :=
  match [str, int, bool, sectionRef, liveText].find? (·.name = s) with
  | some k => .ok k
  | none => .error .unexpected

/-- A kind in an object is its name, or an object with that name for its only key and null for its
value. -/
def decode : Decoder Kind
  | .string (some s) => ofName s
  | .string none => .error .malformed
  | .broken true wanted _ => .error wanted
  | .missing => .error .ended
  | .object [] (.cut next _) => .error next
  | .object ((.error f, _) :: _) _ => .error f
  | .object ((.ok k, r) :: fs) stop => do
    let kind ← ofName k
    r.unit
    match fs, stop with
    | [], .closed => return kind
    | [], .cut _ close => .error close
    | _ :: _, _ => .error .malformed
  | _ => .error .malformed

/-- A kind in an array is its name. -/
def decodeItem (r : Raw) : Except Fault Kind := do ofName (← r.text)

end Kind

def encode : Literal → Json
  | str s => .object [("kind", .string "str"), ("value", .string s)]
  | int n => .object [("kind", .string "int"), ("value", .number n.toInt)]
  | bool b => .object [("kind", .string "bool"), ("value", .bool b)]
  | sectionRef s => .object [("kind", .string "section"), ("value", .string s)]
  | liveText => .object [("kind", .string "live-text")]

/-- Reads the value of a literal of a known kind. Live text may have null for its value. -/
def decodeValue (k : Kind) (r : Raw) : Except Fault Literal :=
  match k with
  | .str => return str (← r.text)
  | .int => return int (← r.int64)
  | .bool => return bool (← r.boolean)
  | .sectionRef => return sectionRef (← r.text)
  | .liveText => do r.unit; return liveText

/-- A literal read in part. A value that comes before its kind is kept until the kind is known. -/
structure Draft where
  kind : Option Kind := none
  value : Option Raw := none
  literal : Option Literal := none

def record : Json.Record Draft Literal where
  slots := [
    { name := "kind"
      given := fun d => d.kind.isSome
      read := fun r d => do
        let k ← Kind.decode r
        let l ← d.value.mapM (decodeValue k)
        return { d with kind := some k, literal := l }
      readItem := fun r d => return { d with kind := some (← Kind.decodeItem r) } },
    { name := "value"
      given := fun d => d.value.isSome
      read := fun r d => do
        match d.kind with
        | none => r.take Json.Raw.depthLimit; return { d with value := some r }
        | some k => return { d with value := some r, literal := some (← decodeValue k r) } }]
  start := {}
  finish d :=
    match d.literal, d.kind with
    | some l, _ => .ok l
    | none, some .liveText => .ok liveText
    | none, _ => .error .unexpected

def decode : Decoder Literal := record.decode

end Literal

namespace Value

/-- The type of an argument. -/
inductive Kind where
  | string | number | boolean | sectionRef | liveText
  deriving DecidableEq, Repr

namespace Kind

def name : Kind → String
  | string => "string"
  | number => "number"
  | boolean => "boolean"
  | sectionRef => "sectionRef"
  | liveText => "liveText"

def decode (r : Raw) : Except Fault Kind := do
  let s ← r.text
  match [string, number, boolean, sectionRef, liveText].find? (·.name = s) with
  | some k => return k
  | none => .error .unexpected

/-- The name of the one field that an argument has beside its type. -/
def field : Kind → String
  | sectionRef => "section"
  | _ => "value"

end Kind

def encode : Value → Json
  | string s => .object [("type", .string "string"), ("value", .string s)]
  | number n => .object [("type", .string "number"), ("value", .number n.toInt)]
  | boolean b => .object [("type", .string "boolean"), ("value", .bool b)]
  | sectionRef s => .object [("type", .string "sectionRef"), ("section", .string s)]
  | liveText s => .object [("type", .string "liveText"), ("value", .string s)]

def decodeContent (k : Kind) (r : Raw) : Except Fault Value :=
  match k with
  | .string => return string (← r.text)
  | .number => return number (← r.int64)
  | .boolean => return boolean (← r.boolean)
  | .sectionRef => return sectionRef (← r.text)
  | .liveText => return liveText (← r.text)

/-- Finds the type among the fields and takes in all others. -/
def readFields : List (Except Fault String × Raw) → Option Kind → Except Fault (Option Kind)
  | [], k => .ok k
  | (.error _, _) :: _, _ => .error .malformed
  | (.ok name, r) :: fs, k =>
    if name = "type" then
      if k.isSome then .error .unexpected else do readFields fs (some (← Kind.decode r))
    else do r.take Json.Raw.depthLimit; readFields fs k

/-- An argument is an object with a type, or an array with its type first. The field that the type
asks for must be there once; an object may hold others. -/
def decode : Decoder Value
  | .object fields stop => do
    let k ← readFields fields none
    stop.next
    let k ← Json.required k
    match fields.filter (·.1.toOption = some k.field) with
    | [(_, r)] => decodeContent k r
    | _ => .error .unexpected
  | .array (r :: rs) stop => do
    let k ← Kind.decode r
    Json.Raw.takeItems Json.Raw.depthLimit rs
    stop.next
    match rs with
    | [r] => decodeContent k r
    | _ => .error .unexpected
  | .array [] stop => do stop.next; .error .unexpected
  | r => .error r.mismatch

end Value

end MarkupActions
