import MarkupActions.Action.Expr
import MarkupActions.Json.Decode

/-! Paths and call shells as data. -/

namespace MarkupActions

open Json (Fault Decoder)

namespace ActionPath

def encode (p : ActionPath) : Json := .array (p.segments.map .string)

/-- Any strings are a path here, also empty ones. -/
def decode : Decoder ActionPath := fun r => (Json.Raw.list Json.Raw.text r).map ActionPath.mk

end ActionPath

namespace ActionExpr

def encode (e : ActionExpr) : Json :=
  .object [("raw", .string e.raw), ("path", e.path.encode), ("rawArgs", .string e.rawArgs)]

/-- A call shell read in part. -/
structure Draft where
  raw : Option String := none
  path : Option ActionPath := none
  rawArgs : Option String := none

def record : Json.Record Draft ActionExpr where
  slots := [
    { name := "raw"
      given := fun d => d.raw.isSome
      read := fun r d => return { d with raw := some (← r.text) } },
    { name := "path"
      given := fun d => d.path.isSome
      read := fun r d => return { d with path := some (← ActionPath.decode r) } },
    { name := "rawArgs"
      given := fun d => d.rawArgs.isSome
      read := fun r d => return { d with rawArgs := some (← r.text) } }]
  start := {}
  finish d := return {
    raw := ← Json.required d.raw
    path := ← Json.required d.path
    rawArgs := ← Json.required d.rawArgs }

def decode : Decoder ActionExpr := record.decode

end ActionExpr

end MarkupActions
