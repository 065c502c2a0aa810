import MarkupActions.Proofs.Binder.Stale
import MarkupActions.Proofs.Session.Scene

/-! Pages whose passes are made in another way. All else is done as on any page, so where passes are
made as the binder makes them this is the page itself. -/

namespace MarkupActions

open Binder (Pass)

namespace Session

variable [MarkupParser] {p : Pass} {s : Session} {n element depth : Nat} {action : String}

/-! ### What is asked of a page -/

def bindPassBy (p : Pass) (s : Session) (n : NodeId) : BindReport × Session :=
  let (report, binder) := p s.binder s.document n
  (report, s.passed report binder)

def bindPassesBy (p : Pass) (s : Session) : List NodeId → BindReport × Session
  | [] => ({}, s)
  | n :: ns =>
    let (report, s) := s.bindPassBy p n
    let (rest, s) := s.bindPassesBy p ns
    (report + rest, s)

def loadBy (p : Pass) (html : String) (registry : Registry Target) (c : Config) : Session :=
  let (report, s) := (unscanned html registry c).bindPassBy p Document.root
  s.log .info .page ("[directive] page ready, " ++ toString report.bound ++ " actions bound")

def renderBy (p : Pass) (s : Session) (id html : String) :
    Except ActionError BindReport × Session :=
  match s.document.elementById? id with
  | none => (.error (.missingContainer id), s)
  | some container =>
    let (nodes, document) := s.document.insertHtml container html
    let (report, s) := { s with document }.bindPassesBy p nodes
    (.ok report, s)

def moveBy (p : Pass) (s : Session) : Move → Session
  | .render id html => (s.renderBy p id html).2
  | .bind n => (s.bindPassBy p n).2
  | m => s.move m

/-- Answers a command. -/
def performBy (p : Pass) (click : Clicker) (s : Session) : Command → Option (Reply × Session)
  | .render id html =>
    let (r, s) := s.renderBy p id html
    some (.rendered r, s)
  | .bind none =>
    let (r, s) := s.bindPassBy p Document.root
    some (.bound (some r), s)
  | .bind (some place) =>
    match s.locate? place with
    | none => some (.bound none, s)
    | some n =>
      let (r, s) := s.bindPassBy p n
      some (.bound (some r), s)
  | c => s.perform click c

def runScriptBy (p : Pass) (click : Clicker) (f : Target) :
    Script → Session → Option (Ending × Session)
  | .finish e, s => some (e, s)
  | .note r next, s => runScriptBy p click f next (s.note (.noted f r))
  | .perform c next, s =>
    if s.isLive then (s.performBy p click c).bind fun x => runScriptBy p click f (next x.1) x.2
    else some (.failed ["page is gone"], s)

/-- A click on a node, with clicks nested at most as deep as the number says. -/
def clickBy (p : Pass) : Nat → Clicker
  | 0, _, _ => none
  | depth + 1, n, s =>
    match s.binder.handler? s.document n with
    | none => some ({}, s)
    | some (element, action) =>
      match (s.enter [element, n]).resolve action with
      | .error e =>
        some (⟨true, true, s.prevents element⟩,
          ((s.enter [element, n]).logFailure action e.message).leave [element, n])
      | .ok x =>
        (runScriptBy p (clickBy p depth) x.target (x.target.run x.arguments)
          ((s.enter [element, n]).note (.called x.target x.arguments))).map fun r =>
            (⟨true, decide (r.1 ≠ .ok), s.prevents element⟩,
              (r.2.settle action x.path r.1).leave [element, n])

theorem clickBy_of_no_handler (h : s.binder.handler? s.document n = none) :
    clickBy p (depth + 1) n s = some ({}, s) := by
  rw [clickBy, h]

theorem clickBy_of_unresolved {e : ActionError}
    (h : s.binder.handler? s.document n = some (element, action))
    (he : (s.enter [element, n]).resolve action = .error e) :
    clickBy p (depth + 1) n s =
      some (⟨true, true, s.prevents element⟩,
        ((s.enter [element, n]).logFailure action e.message).leave [element, n]) := by
  simp only [clickBy, h, he]

theorem clickBy_of_resolved {x : Resolved Target}
    (h : s.binder.handler? s.document n = some (element, action))
    (hx : (s.enter [element, n]).resolve action = .ok x) :
    clickBy p (depth + 1) n s =
      (runScriptBy p (clickBy p depth) x.target (x.target.run x.arguments)
        ((s.enter [element, n]).note (.called x.target x.arguments))).map fun r =>
          (⟨true, decide (r.1 ≠ .ok), s.prevents element⟩,
            (r.2.settle action x.path r.1).leave [element, n]) := by
  simp only [clickBy, h, hx]

omit [MarkupParser] in
theorem document_bindPassesBy (s : Session) (ns : List NodeId) :
    (s.bindPassesBy p ns).2.document = s.document := by
  induction ns generalizing s with
  | nil => rfl
  | cons n ns ih => exact ih _

/-! ### The page itself -/

omit [MarkupParser] in
theorem bindPassesBy_pass (s : Session) (ns : List NodeId) :
    s.bindPassesBy Binder.pass ns = s.bindPasses ns := by
  induction ns generalizing s with
  | nil => rfl
  | cons n ns ih =>
    simp only [bindPassesBy, bindPasses, ih]
    rfl

theorem renderBy_pass (s : Session) (id html : String) :
    s.renderBy Binder.pass id html = s.render id html := by
  rw [renderBy, render]
  cases s.document.elementById? id with
  | none => rfl
  | some container => simp only [bindPassesBy_pass]

theorem moveBy_pass : moveBy Binder.pass = move := by
  funext s m
  cases m with
  | render id html => exact congrArg Prod.snd (renderBy_pass s id html)
  | _ => rfl

theorem performBy_pass (click : Clicker) (s : Session) (c : Command) :
    s.performBy Binder.pass click c = s.perform click c := by
  cases c with
  | render id html => rw [performBy, perform, renderBy_pass]
  | bind place => cases place <;> rfl
  | _ => rfl

theorem runScriptBy_pass (click : Clicker) (f : Target) (script : Script) (s : Session) :
    runScriptBy Binder.pass click f script s = runScript click f script s := by
  induction script generalizing s with
  | finish e => rfl
  | note r next ih => exact ih _
  | perform c next ih =>
    rw [runScriptBy, runScript_perform, performBy_pass]
    simp only [ih]

theorem clickBy_pass (depth : Nat) : clickBy Binder.pass depth = click depth := by
  induction depth with
  | zero => rfl
  | succ depth ih =>
    funext n s
    cases hhandler : s.binder.handler? s.document n with
    | none => rw [clickBy_of_no_handler hhandler, click_of_no_handler hhandler]
    | some answer =>
      obtain ⟨element, action⟩ := answer
      cases hresolve : (s.enter [element, n]).resolve action with
      | error e =>
        rw [clickBy_of_unresolved hhandler hresolve, click_of_unresolved hhandler hresolve]
      | ok x =>
        rw [clickBy_of_resolved hhandler hresolve, click_of_resolved hhandler hresolve, ih,
          runScriptBy_pass, call]

end Session

/-! ### Runs -/

namespace Scene

open Session

variable [MarkupParser] {p : Pass} {a b : Scene} {ms : List Move}

/-- A page that was loaded with passes made by `p`, or a document that was read. -/
inductive StartsBy (p : Pass) : Session → Prop
  | load (html : String) (registry : Registry Target) (c : Config) :
      StartsBy p (loadBy p html registry c)
  | unbound (html : String) (registry : Registry Target) (c : Config) :
      StartsBy p (unbound html registry c)

/-- What may happen next, with its moves made by `p`. -/
def StepBy (p : Pass) (a : Scene) (ms : List Move) (b : Scene) : Prop :=
  (∃ t, Step a ms ⟨t, b.frames⟩) ∧ b.session = ms.foldl (moveBy p) a.session

/-- A scene comes to another by steps with moves made by `p`. -/
inductive GoesBy (p : Pass) : Scene → List Move → Scene → Prop
  | refl {a : Scene} : GoesBy p a [] a
  | step {a b c : Scene} {ms ms' : List Move} :
      StepBy p a ms b → GoesBy p b ms' c → GoesBy p a (ms ++ ms') c

/-- The page after a step is what the moves lead to. -/
theorem Step.session_eq (h : Step a ms b) : b.session = ms.foldl move a.session := by
  cases h with
  | @finish s f fs e =>
    rw [Frame.settles, settle]
    cases failure? f.call.path e <;> rfl
  | request | note | call | fail => rfl

theorem GoesBy.session_eq (h : GoesBy p a ms b) : b.session = ms.foldl (moveBy p) a.session := by
  induction h with
  | refl => rfl
  | step hstep _ ih => rw [ih, hstep.2, List.foldl_append]

theorem stepBy_pass_iff : StepBy Binder.pass a ms b ↔ Step a ms b := by
  rw [StepBy, moveBy_pass]
  constructor
  · rintro ⟨⟨t, hstep⟩, hsession⟩
    obtain rfl : t = b.session := hstep.session_eq.trans hsession.symm
    exact hstep
  · exact fun hstep => ⟨⟨b.session, hstep⟩, hstep.session_eq⟩

theorem goesBy_pass_iff : GoesBy Binder.pass a ms b ↔ Goes a ms b := by
  constructor
  · intro h
    induction h with
    | refl => exact .refl
    | step hstep _ ih => exact .step (stepBy_pass_iff.mp hstep) ih
  · intro h
    induction h with
    | refl => exact .refl
    | step hstep _ ih => exact .step (stepBy_pass_iff.mpr hstep) ih

end Scene

end MarkupActions
