import Mathlib.Tactic.Common
import MarkupActions.Session.Run

/-! What a click comes to: nothing where no element answers it, a logged failure where the action
cannot be resolved, and otherwise the call of the target. -/

namespace MarkupActions

/-- The line that tells of the failure of an action. -/
def failureLine (action message : String) : Log.Line :=
  ⟨.error, .binding, "[directive] action '" ++ action ++ "' failed: " ++ message⟩

namespace Session

variable {click : Clicker} {s : Session} {n element depth : Nat} {action : String}

/-- The page with the failure of an action logged. -/
def logFailure (s : Session) (action message : String) : Session :=
  s.log .error .binding ("[directive] action '" ++ action ++ "' failed: " ++ message)

/-- The page after the call of an action's target has ended: only a failure is logged. -/
def settle (s : Session) (action path : String) (e : Ending) : Session :=
  match failure? path e with
  | none => s
  | some message => s.logFailure action message

/-- Whether a click on an element keeps a link from being followed. -/
def prevents (s : Session) (element : NodeId) : Bool :=
  (s.document.kind? element).any (·.isFragmentLink)

variable [MarkupParser]

/-- A click whose action clicks in a given way. -/
def clickWith (click : Clicker) : Clicker := fun target s =>
  match s.binder.handler? s.document target with
  | none => some ({}, s)
  | some (element, action) =>
    let ns := [element, target]
    (dispatch click (s.enter ns) element action).map fun (o, s) => (o, s.leave ns)

theorem click_succ : Session.click (depth + 1) = clickWith (Session.click depth) := rfl

theorem clickWith_of_no_handler (h : s.binder.handler? s.document n = none) :
    clickWith click n s = some ({}, s) := by
  rw [clickWith, h]

/-- An action that cannot be resolved is logged and calls nothing. -/
theorem clickWith_of_unresolved {e : ActionError}
    (h : s.binder.handler? s.document n = some (element, action))
    (he : (s.enter [element, n]).resolve action = .error e) :
    clickWith click n s =
      some (⟨true, true, s.prevents element⟩,
        ((s.enter [element, n]).logFailure action e.message).leave [element, n]) := by
  rw [clickWith, h]
  simp only [dispatch, runAction, he, Option.map_some]
  rfl

/-- An action that can be resolved calls its target, and fails only as the target does. -/
theorem clickWith_of_resolved {x : Resolved Target}
    (h : s.binder.handler? s.document n = some (element, action))
    (hx : (s.enter [element, n]).resolve action = .ok x) :
    clickWith click n s =
      ((s.enter [element, n]).call click x).map fun r =>
        (⟨true, decide (r.1 ≠ .ok), s.prevents element⟩,
          (r.2.settle action x.path r.1).leave [element, n]) := by
  rw [clickWith, h]
  simp only [dispatch, runAction, hx, Option.map_map]
  congr 1
  funext r
  obtain ⟨e, t⟩ := r
  cases e <;> rfl

theorem click_of_no_handler (h : s.binder.handler? s.document n = none) :
    Session.click (depth + 1) n s = some ({}, s) := by
  rw [click_succ, clickWith_of_no_handler h]

theorem click_of_unresolved {e : ActionError}
    (h : s.binder.handler? s.document n = some (element, action))
    (he : (s.enter [element, n]).resolve action = .error e) :
    Session.click (depth + 1) n s =
      some (⟨true, true, s.prevents element⟩,
        ((s.enter [element, n]).logFailure action e.message).leave [element, n]) := by
  rw [click_succ, clickWith_of_unresolved h he]

theorem click_of_resolved {x : Resolved Target}
    (h : s.binder.handler? s.document n = some (element, action))
    (hx : (s.enter [element, n]).resolve action = .ok x) :
    Session.click (depth + 1) n s =
      ((s.enter [element, n]).call (Session.click depth) x).map fun r =>
        (⟨true, decide (r.1 ≠ .ok), s.prevents element⟩,
          (r.2.settle action x.path r.1).leave [element, n]) := by
  rw [click_succ, clickWith_of_resolved h hx]

/-! ### Depths -/

theorem runScript_perform (click : Clicker) (f : Target) (c : Command) (next : Reply → Script)
    (s : Session) :
    runScript click f (.perform c next) s =
      if s.isLive then (s.perform click c).bind fun x => runScript click f (next x.1) x.2
      else some (.failed ["page is gone"], s) := by
  rw [runScript]
  cases s.perform click c <;> rfl

/-- A clicker comes to all that another comes to. -/
def Extends (click click' : Clicker) : Prop :=
  ∀ n s r, click n s = some r → click' n s = some r

theorem Extends.perform {click click' : Clicker} (h : Extends click click') {c : Command}
    {r : Reply × Session} (hr : s.perform click c = some r) : s.perform click' c = some r := by
  cases c with
  | click place =>
    rw [Session.perform] at hr ⊢
    cases hplace : s.locate? place with
    | none => rwa [hplace] at hr
    | some n =>
      rw [hplace] at hr
      obtain ⟨x, hx, rfl⟩ := Option.map_eq_some_iff.mp hr
      exact Option.map_eq_some_iff.mpr ⟨x, h n s x hx, rfl⟩
  | bind place => cases place <;> exact hr
  | render | insert | remove | hold | drop => exact hr

theorem Extends.runScript {click click' : Clicker} (h : Extends click click') {f : Target}
    {script : Script} {r : Ending × Session} (hr : runScript click f script s = some r) :
    runScript click' f script s = some r := by
  induction script generalizing s with
  | finish e => exact hr
  | note reply next ih => exact ih hr
  | perform c next ih =>
    rw [runScript_perform] at hr ⊢
    split at hr
    next hlive =>
      obtain ⟨x, hx, hrest⟩ := Option.bind_eq_some_iff.mp hr
      rw [if_pos hlive]
      exact Option.bind_eq_some_iff.mpr ⟨x, h.perform hx, ih x.1 hrest⟩
    next hlive => rwa [if_neg hlive]

theorem Extends.clickWith {click click' : Clicker} (h : Extends click click') :
    Extends (clickWith click) (clickWith click') := by
  intro n s r hr
  cases hhandler : s.binder.handler? s.document n with
  | none => rwa [clickWith_of_no_handler hhandler] at hr ⊢
  | some answer =>
    obtain ⟨element, action⟩ := answer
    cases hresolve : (s.enter [element, n]).resolve action with
    | error e => rwa [clickWith_of_unresolved hhandler hresolve] at hr ⊢
    | ok x =>
      rw [clickWith_of_resolved hhandler hresolve] at hr ⊢
      obtain ⟨y, hy, rfl⟩ := Option.map_eq_some_iff.mp hr
      exact Option.map_eq_some_iff.mpr ⟨y, h.runScript hy, rfl⟩

/-- A click that comes to an end comes to the same where clicks may nest deeper. -/
theorem extends_click {depth depth' : Nat} (h : depth ≤ depth') :
    Extends (Session.click depth) (Session.click depth') := by
  induction depth generalizing depth' with
  | zero => nofun
  | succ depth ih =>
    cases depth' with
    | zero => exact absurd h (Nat.not_succ_le_zero depth)
    | succ depth' =>
      rw [click_succ, click_succ]
      exact (ih (Nat.le_of_succ_le_succ h)).clickWith

end Session

end MarkupActions
