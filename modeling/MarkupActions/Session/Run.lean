import MarkupActions.Session.Basic

/-! Running scripts and clicks. A click runs one action; the action may click again. How deep clicks
nest is bounded, so that an action which clicks itself without end has no outcome. -/

namespace MarkupActions.Session

variable [MarkupParser]

/-- How clicks on a node are answered. -/
abbrev Clicker := NodeId → Session → Option (ClickOutcome × Session)

/-- Answers a command. -/
def perform (click : Clicker) (s : Session) : Command → Option (Reply × Session)
  | .render id html =>
    let (r, s) := s.render id html
    some (.rendered r, s)
  | .insert place html =>
    match s.locate? place with
    | none => some (.inserted none, s)
    | some n =>
      let (nodes, document) := s.document.insertHtml n html
      some (.inserted (some nodes), { s with document })
  | .bind none =>
    let (r, s) := s.bindPass Document.root
    some (.bound (some r), s)
  | .bind (some place) =>
    match s.locate? place with
    | none => some (.bound none, s)
    | some n =>
      let (r, s) := s.bindPass n
      some (.bound (some r), s)
  | .click place =>
    match s.locate? place with
    | none => some (.clicked none, s)
    | some n => (click n s).map fun (o, s) => (.clicked (some o), s)
  | .remove place =>
    match s.locate? place with
    | none => some (.removed none, s)
    | some n =>
      let (r, s) := s.remove n
      some (.removed (some r), s)
  | .hold place name =>
    match s.locate? place with
    | none => some (.held false, s)
    | some n => some (.held true, s.hold n name)
  | .drop name =>
    let (r, s) := s.drop name
    some (.dropped r, s)

/-- Runs the script of a target. -/
def runScript (click : Clicker) (t : Target) : Script → Session → Option (Ending × Session)
  | .finish e, s => some (e, s)
  | .note r next, s => runScript click t next (s.note (.noted t r))
  | .perform c next, s =>
    if s.isLive then
      match s.perform click c with
      | some (r, s) => runScript click t (next r) s
      | none => none
    else some (.failed ["page is gone"], s)

/-- Calls a target. The call goes on record before anything else. -/
def call (click : Clicker) (s : Session) (r : Resolved Target) : Option (Ending × Session) :=
  runScript click r.target (r.target.run r.arguments) (s.note (.called r.target r.arguments))

/-- What is told of an ending that is a failure; causes are told from the outermost on. -/
def failure? (path : String) : Ending → Option String
  | .ok => none
  | .failed causes => some (": ".intercalate causes)
  | .panicked => some ("'" ++ path ++ "' panicked")

/-- Runs an action, and tells why it failed. -/
def runAction (click : Clicker) (s : Session) (action : String) :
    Option (Option String × Session) :=
  match s.resolve action with
  | .error e => some (some e.message, s)
  | .ok r => (s.call click r).map fun (e, s) => (failure? r.path e, s)

/-- The nodes that a click holds while it runs. -/
def enter (s : Session) (ns : List NodeId) : Session := { s with running := ns ++ s.running }

def leave (s : Session) (ns : List NodeId) : Session :=
  ns.foldl release { s with running := s.running.drop ns.length }

/-- Runs the action of the element that answers a click. A failure is logged and goes no further. -/
def dispatch (click : Clicker) (s : Session) (element : NodeId) (action : String) :
    Option (ClickOutcome × Session) :=
  let defaultPrevented := (s.document.kind? element).any (·.isFragmentLink)
  (s.runAction click action).map fun (failure, s) =>
    match failure with
    | none => (⟨true, false, defaultPrevented⟩, s)
    | some message => (⟨true, true, defaultPrevented⟩,
        s.log .error .binding ("[directive] action '" ++ action ++ "' failed: " ++ message))

/-- A click on a node, with clicks nested at most as deep as the first argument says. -/
def click : Nat → Clicker
  | 0, _, _ => none
  | depth + 1, target, s =>
    match s.binder.handler? s.document target with
    | none => some ({}, s)
    | some (element, action) =>
      let ns := [element, target]
      (dispatch (click depth) (s.enter ns) element action).map fun (o, s) => (o, s.leave ns)

/-- A click on the first element with an id. -/
def clickId (depth : Nat) (s : Session) (id : String) : Option (Option ClickOutcome × Session) :=
  match s.document.elementById? id with
  | none => some (none, s)
  | some n => (click depth n s).map fun (o, s) => (some o, s)

/-- Resolves an action and calls its target, with failures left to the caller. -/
def invoke (depth : Nat) (s : Session) (action : String) :
    Option (Except ActionError (Resolved Target × Ending) × Session) :=
  match s.resolve action with
  | .error e => some (.error e, s)
  | .ok r => (s.call (click depth) r).map fun (e, s) => (.ok (r, e), s)

end MarkupActions.Session
