import MarkupActions.Audit.Report
import MarkupActions.Json.Decode

/-! Findings and reports as data. -/

namespace MarkupActions

open Json (Fault Decoder)

namespace Finding

def encode (f : Finding) : Json :=
  .object [("file", .string f.file), ("tag", .string f.tag),
    ("elementId", .ofString? f.elementId), ("action", .string f.action), ("code", .string f.code),
    ("message", .string f.message), ("hint", .string f.hint)]

/-- A finding read in part. An id may be given as null. -/
structure Draft where
  file : Option String := none
  tag : Option String := none
  elementId : Option (Option String) := none
  action : Option String := none
  code : Option String := none
  message : Option String := none
  hint : Option String := none

def record : Json.Record Draft Finding where
  slots := [
    { name := "file"
      given := fun d => d.file.isSome
      read := fun r d => return { d with file := some (← r.text) } },
    { name := "tag"
      given := fun d => d.tag.isSome
      read := fun r d => return { d with tag := some (← r.text) } },
    { name := "elementId"
      given := fun d => d.elementId.isSome
      read := fun r d => return { d with elementId := some (← Json.Raw.nullable Json.Raw.text r) } },
    { name := "action"
      given := fun d => d.action.isSome
      read := fun r d => return { d with action := some (← r.text) } },
    { name := "code"
      given := fun d => d.code.isSome
      read := fun r d => return { d with code := some (← r.text) } },
    { name := "message"
      given := fun d => d.message.isSome
      read := fun r d => return { d with message := some (← r.text) } },
    { name := "hint"
      given := fun d => d.hint.isSome
      read := fun r d => return { d with hint := some (← r.text) } }]
  start := {}
  finish d := return {
    file := ← Json.required d.file
    tag := ← Json.required d.tag
    elementId := d.elementId.getD none
    action := ← Json.required d.action
    code := ← Json.required d.code
    message := ← Json.required d.message
    hint := ← Json.required d.hint }

def decode : Decoder Finding := record.decode

end Finding

namespace Report

def encode (r : Report) : Json :=
  .object [("filesScanned", .number r.filesScanned), ("actionsChecked", .number r.actionsChecked),
    ("findings", .array (r.findings.map Finding.encode))]

/-- A report read in part. -/
structure Draft where
  filesScanned : Option Nat := none
  actionsChecked : Option Nat := none
  findings : Option (List Finding) := none

def record : Json.Record Draft Report where
  slots := [
    { name := "filesScanned"
      given := fun d => d.filesScanned.isSome
      read := fun r d => return { d with filesScanned := some (← r.count) } },
    { name := "actionsChecked"
      given := fun d => d.actionsChecked.isSome
      read := fun r d => return { d with actionsChecked := some (← r.count) } },
    { name := "findings"
      given := fun d => d.findings.isSome
      read := fun r d =>
        return { d with findings := some (← Json.Raw.list Finding.decode r) } }]
  start := {}
  finish d := return {
    filesScanned := ← Json.required d.filesScanned
    actionsChecked := ← Json.required d.actionsChecked
    findings := ← Json.required d.findings }

def decode : Decoder Report := record.decode

end Report

end MarkupActions
