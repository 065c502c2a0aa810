import MarkupActions.Config
import MarkupActions.Json.Decode

/-! Settings as data, and loading them from a text. -/

namespace MarkupActions.Config

open Json (Fault Decoder)

def encode (c : Config) : Json :=
  .object [("actionAttribute", .string c.actionAttribute),
    ("rootNamespace", .string c.rootNamespace)]

/-- Settings read in part. -/
structure Draft where
  actionAttribute : Option String := none
  rootNamespace : Option String := none

def Draft.complete (d : Draft) : Config :=
  let c : Config := {}
  { actionAttribute := d.actionAttribute.getD c.actionAttribute
    rootNamespace := d.rootNamespace.getD c.rootNamespace }

def record : Json.Record Draft Config where
  slots := [
    { name := "actionAttribute"
      given := fun d => d.actionAttribute.isSome
      read := fun r d => return { d with actionAttribute := some (← r.text) } },
    { name := "rootNamespace"
      given := fun d => d.rootNamespace.isSome
      read := fun r d => return { d with rootNamespace := some (← r.text) } }]
  start := {}
  finish d := .ok d.complete
  openEnded := true

/-- Settings that are left out have their defaults. Nothing is validated. -/
def decode : Decoder Config := record.decode

/-- Why settings cannot be loaded. -/
inductive LoadError where
  | unreadable (fault : Fault)
  | invalid (error : ConfigError)
  deriving DecidableEq, Repr

/-- Reads settings and validates them. -/
def load (text : String) : Except LoadError Config := do
  let c ← (Json.decodeText decode text).mapError .unreadable
  c.validate.mapError .invalid
  return c

end MarkupActions.Config
