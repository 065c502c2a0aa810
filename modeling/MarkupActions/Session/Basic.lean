import MarkupActions.Log.Basic
import MarkupActions.Session.Script

/-! A page at work: its document, what is bound, the registered targets, the nodes that are held, and
the record of what happened. -/

namespace MarkupActions

/-- What goes on record. -/
inductive Event where
  | logged (l : Log.Line)
  | called (t : Target) (arguments : List Value)
  | noted (t : Target) (r : Reply)

structure Session where
  document : Document
  binder : Binder
  registry : Registry Target
  rootNamespace : String
  /-- Whether scripts reach the page. -/
  isLive : Bool := true
  held : List (String × NodeId) := []
  /-- Nodes that running clicks hold. -/
  running : List NodeId := []
  record : List Event := []

namespace Session

variable [MarkupParser]

def note (s : Session) (e : Event) : Session := { s with record := s.record ++ [e] }

def log (s : Session) (level : Log.Level) (source : Log.Source) (message : String) : Session :=
  s.note (.logged ⟨level, source, message⟩)

/-- All nodes that are held, under a name or by a running click. -/
def heldNodes (s : Session) : List NodeId := s.held.map (·.2) ++ s.running

/-- Frees a node if nothing keeps it alive. -/
def release (s : Session) (n : NodeId) : Session :=
  { s with document := s.document.release s.heldNodes n }

/-- Walks down by the places of children. -/
def descend (d : Document) : List Nat → NodeId → Option NodeId
  | [], n => some n
  | i :: is, n =>
    match (d.children n)[i]? with
    | some m => descend d is m
    | none => none

def locate? (s : Session) (place : Selector) : Option NodeId :=
  (match place.origin with
    | .id id => s.document.elementById? id
    | .held name => s.held.lookup name
    | .root => some Document.root).bind (descend s.document place.path)

/-- The page after a pass, which is logged. -/
def passed (s : Session) (report : BindReport) (binder : Binder) : Session :=
  { s with binder }.log .debug .binding ("[directive] bind pass: " ++ toString report.bound ++
    " bound, " ++ toString report.alreadyBound ++ " already bound, " ++
    toString report.skippedEmpty ++ " empty")

def bindPass (s : Session) (n : NodeId) : BindReport × Session :=
  let (report, binder) := s.binder.pass s.document n
  (report, s.passed report binder)

/-- One pass below each of some nodes, in turn, with the sums of their counts. -/
def bindPasses (s : Session) : List NodeId → BindReport × Session
  | [] => ({}, s)
  | n :: ns =>
    let (report, s) := s.bindPass n
    let (rest, s) := s.bindPasses ns
    (report + rest, s)

/-- A document with nothing bound yet, whose targets do not reach it. -/
def unbound (html : String) (registry : Registry Target) (c : Config) : Session :=
  { document := .parse html
    binder := .new c
    registry
    rootNamespace := c.rootNamespace
    isLive := false }

/-- A page, bound as a whole. -/
def load (html : String) (registry : Registry Target) (c : Config) : Session :=
  let (report, s) := { unbound html registry c with isLive := true }.bindPass Document.root
  s.log .info .page ("[directive] page ready, " ++ toString report.bound ++ " actions bound")

/-- Adds markup to the first element with an id and binds what is new. -/
def render (s : Session) (id html : String) : Except ActionError BindReport × Session :=
  match s.document.elementById? id with
  | none => (.error (.missingContainer id), s)
  | some container =>
    let (nodes, document) := s.document.insertHtml container html
    let (report, s) := { s with document }.bindPasses nodes
    (.ok report, s)

/-- Takes a node from its parent and frees it if nothing holds it. -/
def remove (s : Session) (n : NodeId) : Bool × Session :=
  let (removed, document) := s.document.remove n
  (removed, { s with document }.release n)

/-- Holds a node under a name, in place of the one that was held under it. -/
def hold (s : Session) (n : NodeId) (name : String) : Session :=
  let old := s.held.lookup name
  let s := { s with held := (name, n) :: s.held.filter (·.1 ≠ name) }
  match old with
  | some m => s.release m
  | none => s

/-- Holds a name's node no longer; false if there is none. -/
def drop (s : Session) (name : String) : Bool × Session :=
  match s.held.lookup name with
  | some n => (true, { s with held := s.held.filter (·.1 ≠ name) }.release n)
  | none => (false, s)

/-- Finds the target of an action, with live text from the document. -/
def resolve (s : Session) (action : String) : Except ActionError (Resolved Target) :=
  s.registry.resolve s.rootNamespace action s.document.textById

end Session

end MarkupActions
