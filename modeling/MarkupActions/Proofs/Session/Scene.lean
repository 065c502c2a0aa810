import MarkupActions.Proofs.Session.Coherent
import MarkupActions.Proofs.Session.Inside
import MarkupActions.Proofs.Session.Load

/-! Pages at any moment. A page is at rest, or actions run on it, each inside of the one whose click
it answers. Whoever is in control, the outside or the innermost action, asks what it likes of living
nodes, so what is shown of all runs holds whatever the targets do. Clicks and scripts as they are
run are among these runs, also in the midst of them. -/

namespace MarkupActions

/-- A click whose action runs. -/
structure Frame where
  /-- The element that answers the click. -/
  element : NodeId
  /-- The node that was clicked. -/
  target : NodeId
  action : String
  call : Resolved Target

/-- The nodes that the click holds. -/
def Frame.holds (f : Frame) : List NodeId := [f.element, f.target]

/-- A page, and the clicks whose actions run on it, the innermost first. -/
structure Scene where
  session : Session
  frames : List Frame

namespace Session

variable {s t u : Session} {m : Move} {ms ms' : List Move} {ns : List NodeId} {n : Nat}

/-! ### What clicks hold -/

theorem running_bindPass : (s.bindPass n).2.running = s.running := rfl

theorem running_bindPasses : (s.bindPasses ns).2.running = s.running := by
  induction ns generalizing s with
  | nil => rfl
  | cons n ns ih => exact ih

theorem running_foldl_release : (ns.foldl release s).running = s.running := by
  induction ns generalizing s with
  | nil => rfl
  | cons n ns ih => exact ih

theorem running_leave : (s.leave ns).running = s.running.drop ns.length := running_foldl_release

theorem running_log (s : Session) (l : Log.Level) (source : Log.Source) (message : String) :
    (s.log l source message).running = s.running := rfl

theorem running_settle (s : Session) (action path : String) (e : Ending) :
    (s.settle action path e).running = s.running := by
  rw [settle]
  split <;> rfl

/-! ### Moves one after another -/

variable [MarkupParser]

/-- A page comes to another by moves about living nodes. -/
inductive Moves : Session → List Move → Session → Prop
  | nil {s : Session} : Moves s [] s
  | cons {s t : Session} {m : Move} {ms : List Move} :
      s.Fits m → Moves (s.move m) ms t → Moves s (m :: ms) t

theorem Moves.trans (h : s.Moves ms t) (h' : t.Moves ms' u) : s.Moves (ms ++ ms') u := by
  induction h with
  | nil => exact h'
  | cons hfits _ ih => exact .cons hfits (ih h')

theorem moves_one (h : s.Fits m) : s.Moves [m] (s.move m) := .cons h .nil

theorem Moves.coherent (h : s.Moves ms t) (hs : s.Coherent) : t.Coherent := by
  induction h with
  | nil => exact hs
  | cons hfits _ ih => exact ih (hs.move hfits)

/-- What is asked of a page leaves alone what running clicks hold. -/
theorem running_move (hm : m.isRequest = true) : (s.move m).running = s.running := by
  cases m with
  | render id html =>
    simp only [move, render]
    split
    · rfl
    · exact running_bindPasses
  | hold n name =>
    rw [move, hold_eq]
    exact running_foldl_release
  | drop name =>
    rw [move, drop_eq]
    exact running_foldl_release
  | insert | bind | remove => rfl
  | note | enter | leave => cases hm

end Session

/-! ### Steps -/

/-- The moves of a click when its action has ended. -/
def Frame.settles (f : Frame) (e : Ending) : List Move :=
  match Session.failure? f.call.path e with
  | none => [.leave f.holds]
  | some message => [.note (.logged (failureLine f.action message)), .leave f.holds]

namespace Session

variable [MarkupParser]

theorem coherent_load (html : String) (registry : Registry Target) (c : Config) :
    (load html registry c).Coherent := by
  have hunscanned : (unscanned html registry c).Coherent :=
    (coherent_unbound html registry c).of_document rfl rfl rfl
  rw [load_eq]
  exact (hunscanned.bindPass Document.root).log _ _ _

theorem running_load (html : String) (registry : Registry Target) (c : Config) :
    (load html registry c).running = [] := by
  rw [load_eq, running_log, running_bindPass]
  rfl

end Session

namespace Scene

open Session

variable {a b c : Scene} {s t : Session} {fs : List Frame} {m : Move} {ms ms' : List Move}
  {n depth : Nat}

/-- The page is coherent, and what running clicks hold is what the scene says. -/
structure Sound (a : Scene) : Prop where
  coherent : a.session.Coherent
  running : a.session.running = a.frames.flatMap Frame.holds

/-- The nodes of a click that is answered live. -/
theorem isAlive_of_handler? {element : Nat} {action : String} (hd : s.document.Linked)
    (hn : s.document.isAlive n = true)
    (h : s.binder.handler? s.document n = some (element, action)) :
    ∀ m ∈ [element, n], s.document.isAlive m = true := by
  obtain ⟨m, hmem, hm⟩ := List.exists_of_findSome?_eq_some h
  obtain ⟨action', -, heq⟩ := Option.map_eq_some_iff.mp hm
  have helement := hd.isAlive_of_mem_chain hn hmem
  rw [(Prod.mk.inj heq).1] at helement
  simp [helement, hn]

variable [MarkupParser]

/-- What may happen next, with the moves that it is made of. -/
inductive Step : Scene → List Move → Scene → Prop
  /-- The outside or the innermost action asks something of the page. -/
  | request {s : Session} {fs : List Frame} (m : Move) : m.isRequest = true → s.Fits m →
      Step ⟨s, fs⟩ [m] ⟨s.move m, fs⟩
  | note {s : Session} {fs : List Frame} (f : Target) (r : Reply) :
      Step ⟨s, fs⟩ [.note (.noted f r)] ⟨s.note (.noted f r), fs⟩
  /-- A click is answered by the call of a target. -/
  | call {s fs n element action x} : s.document.isAlive n = true →
      s.binder.handler? s.document n = some (element, action) →
      (s.enter [element, n]).resolve action = .ok x →
      Step ⟨s, fs⟩ [.enter [element, n], .note (.called x.target x.arguments)]
        ⟨(s.enter [element, n]).note (.called x.target x.arguments),
          ⟨element, n, action, x⟩ :: fs⟩
  /-- A click is answered, but its action cannot be resolved. -/
  | fail {s fs n element action e} : s.document.isAlive n = true →
      s.binder.handler? s.document n = some (element, action) →
      (s.enter [element, n]).resolve action = .error e →
      Step ⟨s, fs⟩ [.enter [element, n], .note (.logged (failureLine action e.message)),
          .leave [element, n]]
        ⟨((s.enter [element, n]).logFailure action e.message).leave [element, n], fs⟩
  /-- The innermost action ends. -/
  | finish {s f fs} (e : Ending) :
      Step ⟨s, f :: fs⟩ (f.settles e) ⟨(s.settle f.action f.call.path e).leave f.holds, fs⟩

/-- A scene comes to another by steps. -/
inductive Goes : Scene → List Move → Scene → Prop
  | refl {a : Scene} : Goes a [] a
  | step {a b c : Scene} {ms ms' : List Move} : Step a ms b → Goes b ms' c → Goes a (ms ++ ms') c

theorem Goes.trans (h : a.Goes ms b) (h' : b.Goes ms' c) : a.Goes (ms ++ ms') c := by
  induction h with
  | refl => exact h'
  | step hstep _ ih =>
    rw [List.append_assoc]
    exact .step hstep (ih h')

theorem Step.goes (h : Step a ms b) : a.Goes ms b := by
  rw [← List.append_nil ms]
  exact .step h .refl

/-- A page that was loaded, or a document that was read and is bound by hand. -/
inductive Starts : Session → Prop
  | load (html : String) (registry : Registry Target) (c : Config) : Starts (load html registry c)
  | unbound (html : String) (registry : Registry Target) (c : Config) :
      Starts (unbound html registry c)

/-- A scene that some page comes to. -/
def Reached (a : Scene) : Prop := ∃ s ms, Starts s ∧ Goes ⟨s, []⟩ ms a

theorem Reached.goes (h : a.Reached) (h' : a.Goes ms b) : b.Reached := by
  obtain ⟨s, before, hstarts, hgoes⟩ := h
  exact ⟨s, before ++ ms, hstarts, hgoes.trans h'⟩

/-! ### Steps are moves -/

theorem moves_settles {f : Frame} (h : f.holds <+: s.running) (e : Ending) :
    s.Moves (f.settles e) ((s.settle f.action f.call.path e).leave f.holds) := by
  rw [Frame.settles, settle]
  cases failure? f.call.path e with
  | none => exact moves_one h
  | some message => exact .cons trivial (moves_one h)

/-- A step is made of moves about living nodes, and clicks hold what the scene says after it. -/
theorem Step.sound (h : Step a ms b) (ha : a.Sound) :
    a.session.Moves ms b.session ∧ b.Sound := by
  obtain ⟨hcoherent, hrunning⟩ := ha
  have hstep : a.session.Moves ms b.session ∧
      b.session.running = b.frames.flatMap Frame.holds := by
    cases h with
    | request m hrequest hfits => exact ⟨moves_one hfits, (running_move hrequest).trans hrunning⟩
    | note f r => exact ⟨moves_one trivial, hrunning⟩
    | call hn hhandler hresolve =>
      have hfits := isAlive_of_handler? hcoherent.linked hn hhandler
      exact ⟨.cons hfits (moves_one trivial), congrArg ([_, _] ++ ·) hrunning⟩
    | fail hn hhandler hresolve =>
      have hfits := isAlive_of_handler? hcoherent.linked hn hhandler
      refine ⟨.cons hfits (.cons trivial (moves_one (List.prefix_append _ _))), ?_⟩
      exact running_leave.trans hrunning
    | @finish s f fs e =>
      have hholds : f.holds ++ fs.flatMap Frame.holds = s.running := hrunning.symm
      refine ⟨moves_settles ⟨_, hholds⟩ e, ?_⟩
      rw [running_leave, running_settle, ← hholds, List.drop_left]
  exact ⟨hstep.1, hstep.1.coherent hcoherent, hstep.2⟩

theorem Goes.sound (h : a.Goes ms b) (ha : a.Sound) : a.session.Moves ms b.session ∧ b.Sound := by
  induction h with
  | refl => exact ⟨.nil, ha⟩
  | step hstep _ ih =>
    obtain ⟨hfirst, hb⟩ := hstep.sound ha
    obtain ⟨hrest, hc⟩ := ih hb
    exact ⟨hfirst.trans hrest, hc⟩

theorem Starts.sound (h : Starts s) : Sound ⟨s, []⟩ := by
  cases h with
  | load html registry c => exact ⟨coherent_load html registry c, running_load html registry c⟩
  | unbound html registry c => exact ⟨coherent_unbound html registry c, rfl⟩

theorem Reached.sound (h : a.Reached) : a.Sound := by
  obtain ⟨s, ms, hstarts, hgoes⟩ := h
  exact (hgoes.sound (hstarts.sound)).2

/-! ### Clicks and scripts as they are run -/

/-- What clicks at a depth come to, steps lead to. -/
def Answered (depth : Nat) : Prop :=
  ∀ n s o t fs, Sound ⟨s, fs⟩ → s.document.isAlive n = true → click depth n s = some (o, t) →
    ∃ ms, Goes ⟨s, fs⟩ ms ⟨t, fs⟩

theorem goes_request (hm : m.isRequest = true) (hfits : s.Fits m) :
    ∃ ms, Goes ⟨s, fs⟩ ms ⟨s.move m, fs⟩ :=
  ⟨[m], (Step.request m hm hfits).goes⟩

/-- A command with a place does nothing where there is no node, and is about a living node
otherwise. -/
theorem goes_located (hs : Sound ⟨s, fs⟩) {place : Selector} {r r' : Reply}
    {f : NodeId → Option (Reply × Session)}
    (h : (match s.locate? place with
      | none => some (r', s)
      | some n => f n) = some (r, t))
    (hf : ∀ n, s.document.isAlive n = true → f n = some (r, t) →
      ∃ ms, Goes ⟨s, fs⟩ ms ⟨t, fs⟩) : ∃ ms, Goes ⟨s, fs⟩ ms ⟨t, fs⟩ := by
  split at h
  · cases h
    exact ⟨[], .refl⟩
  next n hn => exact hf n (hs.coherent.isAlive_of_locate? hn) h

theorem goes_perform (hclick : Answered depth) (hs : Sound ⟨s, fs⟩) {c : Command} {r : Reply}
    (h : s.perform (click depth) c = some (r, t)) : ∃ ms, Goes ⟨s, fs⟩ ms ⟨t, fs⟩ := by
  cases c with
  | render id html =>
    cases h
    exact goes_request (m := .render id html) rfl trivial
  | insert place html =>
    refine goes_located hs h fun n halive hn => ?_
    cases hn
    exact goes_request (m := .insert n html) rfl halive
  | bind place =>
    cases place with
    | none =>
      cases h
      exact goes_request (m := .bind Document.root) rfl hs.coherent.linked.root_alive
    | some place =>
      refine goes_located hs h fun n halive hn => ?_
      cases hn
      exact goes_request (m := .bind n) rfl halive
  | click place =>
    refine goes_located hs h fun n halive hn => ?_
    obtain ⟨⟨o, u⟩, hrun, heq⟩ := Option.map_eq_some_iff.mp hn
    cases heq
    exact hclick n s o _ fs hs halive hrun
  | remove place =>
    refine goes_located hs h fun n halive hn => ?_
    cases hn
    exact goes_request (m := .remove n) rfl halive
  | hold place name =>
    refine goes_located hs h fun n halive hn => ?_
    cases hn
    exact goes_request (m := .hold n name) rfl halive
  | drop name =>
    cases h
    exact goes_request (m := .drop name) rfl trivial

theorem goes_runScript (hclick : Answered depth) {f : Target} {script : Script} {e : Ending}
    (hs : Sound ⟨s, fs⟩) (h : runScript (click depth) f script s = some (e, t)) :
    ∃ ms, Goes ⟨s, fs⟩ ms ⟨t, fs⟩ := by
  induction script generalizing s with
  | finish e' =>
    simp only [runScript, Option.some.injEq, Prod.mk.injEq] at h
    exact ⟨[], h.2 ▸ .refl⟩
  | note r next ih =>
    have hstep : Step ⟨s, fs⟩ _ ⟨s.note (.noted f r), fs⟩ := .note f r
    obtain ⟨ms, hrest⟩ := ih (hstep.sound hs).2 h
    exact ⟨_, .step hstep hrest⟩
  | perform c next ih =>
    rw [runScript] at h
    split at h
    · split at h
      next r u hperform =>
        obtain ⟨ms, hfirst⟩ := goes_perform hclick hs hperform
        obtain ⟨ms', hrest⟩ := ih r (hfirst.sound hs).2 h
        exact ⟨_, hfirst.trans hrest⟩
      next => cases h
    · simp only [Option.some.injEq, Prod.mk.injEq] at h
      exact ⟨[], h.2 ▸ .refl⟩

theorem answered (depth : Nat) : Answered depth := by
  induction depth with
  | zero => nofun
  | succ depth ih =>
    intro n s o t fs hs halive h
    cases hhandler : s.binder.handler? s.document n with
    | none =>
      rw [click_of_no_handler hhandler] at h
      cases h
      exact ⟨[], .refl⟩
    | some answer =>
      obtain ⟨element, action⟩ := answer
      cases hresolve : (s.enter [element, n]).resolve action with
      | error e =>
        rw [click_of_unresolved hhandler hresolve] at h
        cases h
        exact ⟨_, (Step.fail halive hhandler hresolve).goes⟩
      | ok x =>
        rw [click_of_resolved hhandler hresolve] at h
        obtain ⟨⟨e, u⟩, hcall, heq⟩ := Option.map_eq_some_iff.mp h
        cases heq
        have hstep : Step ⟨s, fs⟩ _ _ := .call halive hhandler hresolve
        obtain ⟨ms, hbody⟩ := goes_runScript ih (hstep.sound hs).2 hcall
        have hfinish : Step ⟨u, ⟨element, n, action, x⟩ :: fs⟩ _
          ⟨(u.settle action x.path e).leave [element, n], fs⟩ := .finish e
        exact ⟨_, .step hstep (hbody.trans hfinish.goes)⟩

/-- A click ends in a page that steps lead to, with the same clicks around it. -/
theorem Reached.click (ha : a.Reached) (hn : a.session.document.isAlive n = true)
    {o : ClickOutcome} (h : Session.click depth n a.session = some (o, t)) :
    Reached ⟨t, a.frames⟩ := by
  obtain ⟨ms, hgoes⟩ := answered depth n a.session o t a.frames ha.sound hn h
  exact ha.goes hgoes

/-- Steps lead to every page that is seen while a script runs, also inside the clicks that it makes
and when it never ends. -/
theorem goes_of_visits {f : Target} {script : Script} (h : Visits depth f script s t)
    (hs : Sound ⟨s, fs⟩) : ∃ ms inner, Goes ⟨s, fs⟩ ms ⟨t, inner ++ fs⟩ := by
  induction h generalizing fs with
  | here => exact ⟨[], [], .refl⟩
  | @note depth f r next s t _ ih =>
    have hstep : Step ⟨s, fs⟩ _ ⟨s.note (.noted f r), fs⟩ := .note f r
    obtain ⟨ms, inner, hrest⟩ := ih (hstep.sound hs).2
    exact ⟨_, inner, .step hstep hrest⟩
  | @click depth f place next s n x t u _ hplace hopens _ ih =>
    obtain ⟨element, action, hhandler, hresolve, rfl⟩ := hopens
    have hstep : Step ⟨s, fs⟩ _ _ :=
      .call (hs.coherent.isAlive_of_locate? hplace) hhandler hresolve
    obtain ⟨ms, inner, hrest⟩ := ih (hstep.sound hs).2
    rw [List.append_cons] at hrest
    exact ⟨_, _, .step hstep hrest⟩
  | next _ hperform _ ih =>
    obtain ⟨ms, hfirst⟩ := goes_perform (answered _) hs hperform
    obtain ⟨ms', inner, hrest⟩ := ih (hfirst.sound hs).2
    exact ⟨_, inner, hfirst.trans hrest⟩

/-- Clicks on a node of a page as they are run are among the runs of the scene. -/
structure Runs (a : Scene) (n : NodeId) : Prop where
  /-- A click that ends comes to the same where clicks may nest deeper. -/
  deeper : ∀ depth depth' r, depth ≤ depth' → Session.click depth n a.session = some r →
    Session.click depth' n a.session = some r
  /-- It ends in a scene that is reached, with the same clicks around it. -/
  ends : ∀ depth o t, Session.click depth n a.session = some (o, t) → Reached ⟨t, a.frames⟩
  /-- What is seen while its action runs is reached inside of the click, whether or not the action
  ends. -/
  inside : ∀ depth element action x t,
    a.session.binder.handler? a.session.document n = some (element, action) →
    a.session.resolve action = .ok x →
    Visits depth x.target (x.target.run x.arguments)
      ((a.session.enter [element, n]).note (.called x.target x.arguments)) t →
    ∃ inner, Reached ⟨t, inner ++ ⟨element, n, action, x⟩ :: a.frames⟩

theorem Reached.runs (ha : a.Reached) (hn : a.session.document.isAlive n = true) : a.Runs n where
  deeper := fun _ _ _ hle hr => extends_click hle n a.session _ hr
  ends := fun _ _ _ h => ha.click hn h
  inside := by
    intro depth element action x t hhandler hresolve hvisits
    have hstep : Step a _ _ := .call hn hhandler hresolve
    obtain ⟨ms, inner, hgoes⟩ := goes_of_visits hvisits (hstep.sound ha.sound).2
    exact ⟨inner, ha.goes (.step hstep hgoes)⟩

end Scene

end MarkupActions
