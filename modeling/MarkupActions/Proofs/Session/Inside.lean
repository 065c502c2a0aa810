import MarkupActions.Proofs.Session.Click
import MarkupActions.Proofs.Session.Move

/-! Inside of runs. A running action is seen from one command to the next, at every depth of
clicks, also when it never ends. All states that are seen so, and all states that commands and
clicks end in, are ones that moves lead to. -/

namespace MarkupActions.Session

variable {mayInsert : Prop} {s t u : Session} {n depth : Nat}

/-! ### States inside of runs -/

/-- How a click on a node begins: the handler's action is resolved while the click holds the two
nodes, and the call goes on record. -/
def Opens (s : Session) (n : NodeId) (x : Resolved Target) (t : Session) : Prop :=
  ∃ element action, s.binder.handler? s.document n = some (element, action) ∧
    (s.enter [element, n]).resolve action = .ok x ∧
    t = (s.enter [element, n]).note (.called x.target x.arguments)

theorem Opens.obeys {x : Resolved Target} (h : s.Opens n x t)
    (hobeys : s.registry.Obeys mayInsert) :
    (x.target.run x.arguments).Obeys mayInsert := by
  obtain ⟨element, action, -, hresolve, -⟩ := h
  exact hobeys.of_resolve hresolve

theorem later_settle (s : Session) (action path : String) (e : Ending) :
    s.Later (s.settle action path e) := by
  unfold settle
  split
  · exact .refl s
  next message _ => exact later_note s _

variable [MarkupParser]

/-- The states that a script goes through, those inside the clicks that it makes among them. -/
inductive Visits : Nat → Target → Script → Session → Session → Prop
  | here {depth f script s} : Visits depth f script s s
  | note {depth f r next s t} : Visits depth f next (s.note (.noted f r)) t →
      Visits depth f (.note r next) s t
  | click {depth f place next s n x t u} : s.isLive = true → s.locate? place = some n →
      s.Opens n x t → Visits depth x.target (x.target.run x.arguments) t u →
      Visits (depth + 1) f (.perform (.click place) next) s u
  | next {depth f c next s r t u} : s.isLive = true → s.perform (click depth) c = some (r, t) →
      Visits depth f (next r) t u → Visits depth f (.perform c next) s u

/-- A script that ends goes through the state that it ends in. -/
theorem visits_of_runScript {f : Target} {script : Script} {e : Ending}
    (h : runScript (click depth) f script s = some (e, t)) : Visits depth f script s t := by
  induction script generalizing s with
  | finish e' =>
    simp only [runScript, Option.some.injEq, Prod.mk.injEq] at h
    rw [h.2]
    exact .here
  | note r next ih => exact .note (ih h)
  | perform c next ih =>
    rw [runScript] at h
    by_cases hlive : s.isLive = true
    · rw [if_pos hlive] at h
      split at h
      next r s' hperform => exact .next hlive hperform (ih r h)
      next => cases h
    · rw [if_neg hlive] at h
      simp only [Option.some.injEq, Prod.mk.injEq] at h
      rw [h.2]
      exact .here

/-! ### Runs are made of moves -/

/-- The answers to clicks at a depth are runs, over targets that obey. -/
def Answers (mayInsert : Prop) (depth : Nat) : Prop :=
  ∀ n s o t, s.registry.Obeys mayInsert → click depth n s = some (o, t) → s.Leads mayInsert t

/-- A command with a place does nothing where there is no node. -/
theorem leads_located {place : Selector} {r r' : Reply} {f : NodeId → Option (Reply × Session)}
    (h : (match s.locate? place with
      | none => some (r', s)
      | some n => f n) = some (r, t))
    (hf : ∀ n, f n = some (r, t) → s.Leads mayInsert t) : s.Leads mayInsert t := by
  split at h
  · cases h
    exact .refl
  next n _ => exact hf n h

/-- Every command is answered by moves. -/
theorem leads_perform (hclick : Answers mayInsert depth) (hobeys : s.registry.Obeys mayInsert)
    {c : Command} (hc : c.inserts → mayInsert) {r : Reply}
    (h : s.perform (click depth) c = some (r, t)) : s.Leads mayInsert t := by
  cases c with
  | render id html =>
    cases h
    exact leads_move (.render id html) nofun
  | insert place html =>
    refine leads_located h fun n hn => ?_
    cases hn
    exact leads_move (.insert n html) fun _ => hc rfl
  | bind place =>
    cases place with
    | none =>
      cases h
      exact leads_move (.bind Document.root) nofun
    | some place =>
      refine leads_located h fun n hn => ?_
      cases hn
      exact leads_move (.bind n) nofun
  | click place =>
    refine leads_located h fun n hn => ?_
    obtain ⟨⟨o, t'⟩, hrun, heq⟩ := Option.map_eq_some_iff.mp hn
    cases heq
    exact hclick n s o _ hobeys hrun
  | remove place =>
    refine leads_located h fun n hn => ?_
    cases hn
    exact leads_move (.remove n) nofun
  | hold place name =>
    refine leads_located h fun n hn => ?_
    cases hn
    exact leads_move (.hold n name) nofun
  | drop name =>
    cases h
    exact leads_move (.drop name) nofun

theorem Opens.leads {x : Resolved Target} (h : s.Opens n x t) : s.Leads mayInsert t := by
  obtain ⟨element, action, -, -, rfl⟩ := h
  exact (leads_move (.enter [element, n]) nofun).trans
    (leads_move (.note (.called x.target x.arguments)) nofun)

theorem Leads.obeys (h : s.Leads mayInsert t) (hobeys : s.registry.Obeys mayInsert) :
    t.registry.Obeys mayInsert := by
  rwa [h.later.registry]

/-- The states inside of a script are ones that moves lead to. -/
theorem Visits.leads {f : Target} {script : Script} (h : Visits depth f script s t)
    (hclick : ∀ d ≤ depth, Answers mayInsert d) (hobeys : s.registry.Obeys mayInsert)
    (hscript : script.Obeys mayInsert) : s.Leads mayInsert t := by
  induction h with
  | here => exact .refl
  | note _ ih =>
    exact (leads_move (.note _) nofun).trans (ih hclick hobeys hscript)
  | click _ _ hopens _ ih =>
    have hopened : Leads mayInsert _ _ := hopens.leads
    exact hopened.trans (ih (fun d hd => hclick d (Nat.le_succ_of_le hd)) (hopened.obeys hobeys)
      (hopens.obeys hobeys))
  | next _ hperform _ ih =>
    have hfirst := leads_perform (hclick _ (Nat.le_refl _)) hobeys hscript.1 hperform
    exact hfirst.trans (ih hclick (hfirst.obeys hobeys) (hscript.2 _))

theorem leads_settle (s : Session) (action path : String) (e : Ending) :
    s.Leads mayInsert (s.settle action path e) := by
  unfold settle
  split
  · exact .refl
  next message _ => exact leads_move (.note _) nofun

/-- What a click does is made of moves. -/
theorem answers (mayInsert : Prop) (depth : Nat) : Answers mayInsert depth := by
  induction depth using Nat.strongRecOn with
  | ind depth ih =>
    intro n s o t hobeys h
    cases depth with
    | zero => cases h
    | succ depth =>
      cases hhandler : s.binder.handler? s.document n with
      | none =>
        rw [click_of_no_handler hhandler] at h
        cases h
        exact .refl
      | some answer =>
        obtain ⟨element, action⟩ := answer
        cases hresolve : (s.enter [element, n]).resolve action with
        | error e =>
          rw [click_of_unresolved hhandler hresolve] at h
          cases h
          refine (leads_move (.enter [element, n]) nofun).trans ?_
          refine Leads.trans ?_ (leads_move (.leave [element, n]) nofun)
          exact leads_move (.note _) nofun
        | ok x =>
          rw [click_of_resolved hhandler hresolve] at h
          obtain ⟨⟨e, u⟩, hcall, heq⟩ := Option.map_eq_some_iff.mp h
          cases heq
          have hopens : s.Opens n x ((s.enter [element, n]).note (.called x.target x.arguments)) :=
            ⟨element, action, hhandler, hresolve, rfl⟩
          have hopened : Leads mayInsert _ _ := hopens.leads
          have hbody := (visits_of_runScript hcall).leads
            (fun d hd => ih d (Nat.lt_succ_of_le hd)) (hopened.obeys hobeys) (hopens.obeys hobeys)
          refine (hopened.trans hbody).trans ((leads_settle u action x.path e).trans ?_)
          exact leads_move (.leave [element, n]) nofun

/-- A call that ends was on record before anything else that it did. -/
theorem later_call {x : Resolved Target} {e : Ending} (h : s.call (click depth) x = some (e, t)) :
    (s.note (.called x.target x.arguments)).Later t :=
  ((visits_of_runScript h).leads (fun d _ => answers True d) (Registry.obeys_true _)
    (Script.obeys_true _)).later

/-! ### All states of a page -/

/-- The states that a page comes to between requests, which are moves and clicks on nodes. -/
inductive Rests (mayInsert : Prop) (start : Session) : Session → Prop
  | start : Rests mayInsert start start
  | request {s : Session} (m : Move) : Rests mayInsert start s → m.isRequest →
      (m.inserts → mayInsert) → Rests mayInsert start (s.move m)
  | click {depth n : Nat} {o : ClickOutcome} {s t : Session} : Rests mayInsert start s →
      click depth n s = some (o, t) → Rests mayInsert start t

/-- All states of a page: those between requests and those inside of running actions. -/
inductive Reached (mayInsert : Prop) (start : Session) : Session → Prop
  | rest {s : Session} : Rests mayInsert start s → Reached mayInsert start s
  | inside {depth n : Nat} {x : Resolved Target} {s t u : Session} : Rests mayInsert start s →
      s.Opens n x t → Visits depth x.target (x.target.run x.arguments) t u →
      Reached mayInsert start u

theorem Rests.leads (h : Rests mayInsert s t) (hobeys : s.registry.Obeys mayInsert) :
    s.Leads mayInsert t := by
  induction h with
  | start => exact .refl
  | request m _ _ hm ih => exact ih.trans (leads_move m hm)
  | click _ hclick ih => exact ih.trans (answers mayInsert _ _ _ _ _ (ih.obeys hobeys) hclick)

theorem Reached.leads (h : Reached mayInsert s t) (hobeys : s.registry.Obeys mayInsert) :
    s.Leads mayInsert t := by
  cases h with
  | rest hrest => exact hrest.leads hobeys
  | inside hrest hopens hvisits =>
    have hbefore := hrest.leads hobeys
    have hopened : Leads mayInsert _ _ := hopens.leads
    have htargets := hbefore.obeys hobeys
    exact (hbefore.trans hopened).trans (hvisits.leads (fun d _ => answers mayInsert d)
      (hopened.obeys htargets) (hopens.obeys htargets))

end MarkupActions.Session
