import MarkupActions.Proofs.Session.Bound

/-! Pages that are alike. Two pages may be the same but for what their binders still have of nodes
that were freed. Whatever passes forget of these, what is asked of both pages is answered the same,
and they are alike afterwards, also where actions run and click again. -/

namespace MarkupActions

open Binder (Pass)

namespace Session

variable {s t : Session} {m : Move} {ns : List NodeId} {n : Nat} {p p' : Pass}

/-- The page with another binder. -/
def rebound (s : Session) (b : Binder) : Session := { s with binder := b }

/-- Two pages that are the same but for what their binders have of freed nodes. -/
structure Alike (s t : Session) : Prop where
  same : t = s.rebound t.binder
  agree : Binder.Agree s.document s.binder t.binder
  within : s.binder.Within s.document
  within_right : t.binder.Within t.document

theorem Alike.exists_rebound (h : s.Alike t) : ∃ b, t = s.rebound b := ⟨t.binder, h.same⟩

theorem Alike.document (h : s.Alike t) : t.document = s.document := by
  obtain ⟨b, rfl⟩ := h.exists_rebound
  rfl

theorem Alike.symm (h : s.Alike t) : t.Alike s := by
  obtain ⟨b, rfl⟩ := h.exists_rebound
  exact ⟨rfl, h.agree.symm, h.within_right, h.within⟩

theorem Fresh.within (h : s.Fresh) : s.binder.Within s.document := by
  intro x hx
  by_contra hle
  have hnone := List.lookup_eq_none_iff.mp (h x.1 (Nat.le_of_not_lt hle)) x hx
  simp at hnone

/-- A page is alike to itself. -/
theorem Fresh.alike (h : s.Fresh) : s.Alike s := ⟨rfl, .refl _ _, h.within, h.within⟩

theorem Alike.left (h : s.Alike t) : s.Alike s := ⟨rfl, .refl _ _, h.within, h.within⟩

/-! ### Moves without passes -/

theorem foldl_release_rebound (s : Session) (b : Binder) (ns : List NodeId) :
    ns.foldl release (s.rebound b) = (ns.foldl release s).rebound b := by
  induction ns generalizing s with
  | nil => rfl
  | cons n ns ih => exact ih (s.release n)

/-- What leaves the binders alone leaves pages alike. -/
theorem Alike.moved {u : Session} (h : s.Alike t) (hbinder : u.binder = s.binder)
    (hdocument : s.document.Descends u.document) : u.Alike (u.rebound t.binder) where
  same := rfl
  agree := by
    have hwithin := h.within_right
    rw [h.document] at hwithin
    rw [hbinder]
    exact h.agree.descends h.within hwithin hdocument
  within := by
    rw [hbinder]
    exact h.within.descends hdocument
  within_right := by
    have hwithin := h.within_right
    rw [h.document] at hwithin
    exact hwithin.descends hdocument

/-! ### Passes -/

/-- A pass counts the same on both pages. -/
theorem Alike.bindPassBy (hp : p.SparesLiving) (hp' : p'.SparesLiving) (h : s.Alike t) (n : Nat) :
    (s.bindPassBy p n).1 = (t.bindPassBy p' n).1 ∧
      (s.bindPassBy p n).2.Alike (t.bindPassBy p' n).2 := by
  obtain ⟨b, rfl⟩ := h.exists_rebound
  obtain ⟨hreport, hagree⟩ := h.agree.pass hp hp' n
  refine ⟨hreport, ?_, hagree, h.within.pass hp n, h.within_right.pass hp' n⟩
  -- the log tells of the counts
  simp only [Session.bindPassBy, rebound, passed, log, note]
  rw [hreport]
  rfl

theorem Alike.bindPassesBy (hp : p.SparesLiving) (hp' : p'.SparesLiving) (h : s.Alike t)
    (ns : List NodeId) :
    (s.bindPassesBy p ns).1 = (t.bindPassesBy p' ns).1 ∧
      (s.bindPassesBy p ns).2.Alike (t.bindPassesBy p' ns).2 := by
  induction ns generalizing s t with
  | nil => exact ⟨rfl, h⟩
  | cons n ns ih =>
    obtain ⟨hfirst, halike⟩ := h.bindPassBy hp hp' n
    obtain ⟨hrest, hafter⟩ := ih halike
    exact ⟨congrArg₂ (· + ·) hfirst hrest, hafter⟩

/-! ### Letting go -/

theorem rebound_hold (s : Session) (b : Binder) (n : Nat) (name : String) :
    (s.rebound b).hold n name = (s.hold n name).rebound b := by
  rw [hold_eq, hold_eq]
  exact foldl_release_rebound { s with held := (name, n) :: s.held.filter (·.1 ≠ name) } b _

theorem rebound_drop (s : Session) (b : Binder) (name : String) :
    ((s.rebound b).drop name).2 = (s.drop name).2.rebound b := by
  rw [drop_eq, drop_eq]
  exact foldl_release_rebound { s with held := s.held.filter (·.1 ≠ name) } b _

theorem rebound_leave (s : Session) (b : Binder) (ns : List NodeId) :
    (s.rebound b).leave ns = (s.leave ns).rebound b :=
  foldl_release_rebound { s with running := s.running.drop ns.length } b ns

theorem Alike.fits (h : s.Alike t) : t.Fits m ↔ s.Fits m := by
  obtain ⟨b, rfl⟩ := h.exists_rebound
  rfl

theorem Alike.resolve (h : s.Alike t) (action : String) : t.resolve action = s.resolve action := by
  obtain ⟨b, rfl⟩ := h.exists_rebound
  rfl

theorem Alike.locate? (h : s.Alike t) (place : Selector) : t.locate? place = s.locate? place := by
  obtain ⟨b, rfl⟩ := h.exists_rebound
  rfl

theorem Alike.removed (h : s.Alike t) (n : Nat) : (s.remove n).1 = (t.remove n).1 := by
  obtain ⟨b, rfl⟩ := h.exists_rebound
  rfl

theorem Alike.dropped (h : s.Alike t) (name : String) : (s.drop name).1 = (t.drop name).1 := by
  obtain ⟨b, rfl⟩ := h.exists_rebound
  rw [drop, drop, rebound]
  cases s.held.lookup name <;> rfl

theorem Alike.handler? (h : s.Alike t) (hs : s.document.Linked)
    (hn : s.document.isAlive n = true) :
    t.binder.handler? t.document n = s.binder.handler? s.document n := by
  rw [h.document]
  exact (h.agree.handler? hs hn).symm

/-! ### All moves -/

section

variable [MarkupParser]

theorem Alike.renderBy (hp : p.SparesLiving) (hp' : p'.SparesLiving) (h : s.Alike t)
    (id html : String) :
    (s.renderBy p id html).1 = (t.renderBy p' id html).1 ∧
      (s.renderBy p id html).2.Alike (t.renderBy p' id html).2 := by
  obtain ⟨b, rfl⟩ := h.exists_rebound
  simp only [Session.renderBy, rebound]
  cases s.document.elementById? id with
  | none => exact ⟨rfl, h⟩
  | some container =>
    have hgrown := h.moved (u := { s with document := (s.document.insertHtml container html).2 })
      rfl (Document.descends_append _ _ _)
    obtain ⟨hreport, halike⟩ :=
      hgrown.bindPassesBy hp hp' (s.document.insertHtml container html).1
    exact ⟨congrArg Except.ok hreport, halike⟩

/-- What moves without passes do does not depend on the binder. -/
theorem Alike.quiet (h : s.Alike t) (m : Move) (hbinder : (s.move m).binder = s.binder)
    (hmove : ∀ b, (s.rebound b).move m = (s.move m).rebound b) : (s.move m).Alike (t.move m) := by
  obtain ⟨b, rfl⟩ := h.exists_rebound
  rw [hmove]
  exact h.moved hbinder (descends_move s m)

theorem Alike.moveBy (hp : p.SparesLiving) (hp' : p'.SparesLiving) (h : s.Alike t) (m : Move) :
    (s.moveBy p m).Alike (t.moveBy p' m) := by
  cases m with
  | render id html => exact (h.renderBy hp hp' id html).2
  | bind n => exact (h.bindPassBy hp hp' n).2
  | hold n name =>
    exact h.quiet (.hold n name) (binder_hold s n name) fun b => rebound_hold s b n name
  | drop name => exact h.quiet (.drop name) (binder_drop s name) fun b => rebound_drop s b name
  | leave ns =>
    exact h.quiet (.leave ns) (binder_foldl_release _ ns) fun b => rebound_leave s b ns
  | insert n html => exact h.quiet (.insert n html) rfl fun b => rfl
  | remove n => exact h.quiet (.remove n) rfl fun b => rfl
  | note e => exact h.quiet (.note e) rfl fun b => rfl
  | enter ns => exact h.quiet (.enter ns) rfl fun b => rfl

theorem Alike.move (h : s.Alike t) (m : Move) : (s.move m).Alike (t.move m) := by
  rw [← moveBy_pass]
  exact h.moveBy Binder.sparesLiving_pass Binder.sparesLiving_pass m

theorem Alike.foldl_moveBy (hp : p.SparesLiving) (hp' : p'.SparesLiving) (h : s.Alike t)
    (ms : List Move) : (ms.foldl (Session.moveBy p) s).Alike (ms.foldl (Session.moveBy p') t) := by
  induction ms generalizing s t with
  | nil => exact h
  | cons m ms ih => exact ih (h.moveBy hp hp' m)

theorem Alike.settle (h : s.Alike t) (action path : String) (e : Ending) :
    (s.settle action path e).Alike (t.settle action path e) := by
  rw [Session.settle, Session.settle]
  cases failure? path e with
  | none => exact h
  | some message => exact h.move (.note (.logged (failureLine action message)))

end

/-! ### Answers -/

/-- Two runs that come to the same answer on pages that are alike, or both to none. -/
def Likewise {α : Type} : Option (α × Session) → Option (α × Session) → Prop :=
  Option.Rel fun x y => x.1 = y.1 ∧ x.2.Alike y.2

section

variable {α β : Type} {x y : Option (α × Session)}

theorem Likewise.bind {f g : α × Session → Option (β × Session)} (h : Likewise x y)
    (hfg : ∀ a s t, x = some (a, s) → s.Alike t → Likewise (f (a, s)) (g (a, t))) :
    Likewise (x.bind f) (y.bind g) := by
  cases h with
  | none => exact .none
  | @some x y hxy =>
    obtain ⟨a, s⟩ := x
    obtain ⟨_, t⟩ := y
    obtain ⟨rfl, halike⟩ := hxy
    exact hfg a s t rfl halike

theorem Likewise.map {f g : α × Session → β × Session} (h : Likewise x y)
    (hfg : ∀ a s t, s.Alike t → (f (a, s)).1 = (g (a, t)).1 ∧ (f (a, s)).2.Alike (g (a, t)).2) :
    Likewise (x.map f) (y.map g) := by
  rw [Option.map_eq_bind, Option.map_eq_bind]
  exact h.bind fun a s t _ halike => .some (hfg a s t halike)

theorem Likewise.exists_right {a : α} (h : Likewise (some (a, s)) y) :
    ∃ t, y = some (a, t) ∧ s.Alike t := by
  cases h with
  | @some _ y hxy =>
    obtain ⟨_, t⟩ := y
    obtain ⟨rfl, halike⟩ := hxy
    exact ⟨t, rfl, halike⟩

theorem Likewise.answer (h : Likewise x y) : x.map (·.1) = y.map (·.1) := by
  cases h with
  | none => rfl
  | some hxy => exact congrArg some hxy.1

end

end Session

namespace Scene

open Session

variable {a b : Scene} {s t : Session} {fs : List Frame} {ms : List Move} {depth n : Nat}
  {p p' : Pass}

theorem Sound.alike (h : Sound ⟨s, fs⟩) (halike : s.Alike t) : Sound ⟨t, fs⟩ := by
  obtain ⟨b, rfl⟩ := halike.exists_rebound
  exact ⟨h.coherent.of_document rfl rfl rfl, h.running⟩

theorem likewise_located (h : s.Alike t) {place : Selector} {r : Reply}
    {f g : NodeId → Option (Reply × Session)}
    (hfg : ∀ n, s.locate? place = some n → Likewise (f n) (g n)) :
    Likewise
      (match s.locate? place with
        | none => some (r, s)
        | some n => f n)
      (match t.locate? place with
        | none => some (r, t)
        | some n => g n) := by
  rw [h.locate? place]
  cases hplace : s.locate? place with
  | none => exact .some ⟨rfl, h⟩
  | some n => exact hfg n hplace

variable [MarkupParser]

/-- Clicks at a depth are answered likewise on a page that is alike and whose passes are made by
`p`. -/
def Conforms (p : Pass) (depth : Nat) : Prop :=
  ∀ n s t fs, Sound ⟨s, fs⟩ → s.document.isAlive n = true → s.Alike t →
    Likewise (click depth n s) (clickBy p depth n t)

theorem likewise_performBy (hp : p.SparesLiving) (hclick : Conforms p depth) (hs : Sound ⟨s, fs⟩)
    (h : s.Alike t) (c : Command) :
    Likewise (s.perform (click depth) c) (t.performBy p (clickBy p depth) c) := by
  have hpass (n : Nat) := h.bindPassBy Binder.sparesLiving_pass hp n
  cases c with
  | render id html =>
    obtain ⟨hreport, halike⟩ := h.renderBy Binder.sparesLiving_pass hp id html
    rw [renderBy_pass] at hreport halike
    exact .some ⟨congrArg Reply.rendered hreport, halike⟩
  | insert place html =>
    refine likewise_located h fun n _ => ?_
    refine .some ⟨?_, h.move (.insert n html)⟩
    rw [h.document]
  | bind place =>
    cases place with
    | none => exact .some ⟨congrArg (Reply.bound ∘ some) (hpass _).1, (hpass _).2⟩
    | some place =>
      refine likewise_located h fun n _ => ?_
      exact .some ⟨congrArg (Reply.bound ∘ some) (hpass n).1, (hpass n).2⟩
  | click place =>
    refine likewise_located h fun n hn => ?_
    have halive := hs.coherent.isAlive_of_locate? hn
    exact (hclick n s t fs hs halive h).map fun _ _ _ halike => ⟨rfl, halike⟩
  | remove place =>
    refine likewise_located h fun n _ => ?_
    exact .some ⟨congrArg Reply.removed (congrArg some (h.removed n)), h.move (.remove n)⟩
  | hold place name =>
    exact likewise_located h fun n _ => .some ⟨rfl, h.move (.hold n name)⟩
  | drop name =>
    exact .some ⟨congrArg Reply.dropped (h.dropped name), h.move (.drop name)⟩

theorem likewise_runScriptBy (hp : p.SparesLiving) (hclick : Conforms p depth) (f : Target)
    (script : Script) (hs : Sound ⟨s, fs⟩) (h : s.Alike t) :
    Likewise (runScript (click depth) f script s) (runScriptBy p (clickBy p depth) f script t) := by
  induction script generalizing s t with
  | finish e => exact .some ⟨rfl, h⟩
  | note r next ih =>
    have hstep : Step ⟨s, fs⟩ _ ⟨s.note (.noted f r), fs⟩ := .note f r
    exact ih (hstep.sound hs).2 (h.move (.note (.noted f r)))
  | perform c next ih =>
    have hlive : t.isLive = s.isLive := by rw [h.same]; rfl
    rw [runScript_perform, runScriptBy, hlive]
    split
    · refine (likewise_performBy hp hclick hs h c).bind fun r s' t' hperform halike => ?_
      obtain ⟨ms, hgoes⟩ := goes_perform (answered depth) hs hperform
      exact ih r (hgoes.sound hs).2 halike
    · exact .some ⟨rfl, h⟩

theorem conforms (hp : p.SparesLiving) (depth : Nat) : Conforms p depth := by
  induction depth with
  | zero => exact fun _ _ _ _ _ _ _ => .none
  | succ depth ih =>
    intro n s t fs hs halive h
    have hhandler' := h.handler? hs.coherent.linked halive
    cases hhandler : s.binder.handler? s.document n with
    | none =>
      rw [click_of_no_handler hhandler, clickBy_of_no_handler (hhandler'.trans hhandler)]
      exact .some ⟨rfl, h⟩
    | some answer =>
      obtain ⟨element, action⟩ := answer
      rw [hhandler] at hhandler'
      have henter := h.move (.enter [element, n])
      have hprevents : t.prevents element = s.prevents element := by
        rw [prevents, prevents, h.document]
      cases hresolve : (s.enter [element, n]).resolve action with
      | error e =>
        have hresolve' := (henter.resolve action).trans hresolve
        rw [click_of_unresolved hhandler hresolve, clickBy_of_unresolved hhandler' hresolve',
          hprevents]
        have hfailed := henter.move (.note (.logged (failureLine action e.message)))
        exact .some ⟨rfl, hfailed.move (.leave [element, n])⟩
      | ok x =>
        have hresolve' := (henter.resolve action).trans hresolve
        rw [click_of_resolved hhandler hresolve, clickBy_of_resolved hhandler' hresolve', hprevents]
        have hstep : Step ⟨s, fs⟩ _ _ := .call halive hhandler hresolve
        have hcall := likewise_runScriptBy hp ih x.target (x.target.run x.arguments)
          (hstep.sound hs).2 (henter.move (.note (.called x.target x.arguments)))
        exact hcall.map fun e _ _ halike =>
          ⟨rfl, (halike.settle action x.path e).move (.leave [element, n])⟩

/-! ### Runs -/

/-- What may happen next on a page may happen on one that is alike. -/
theorem Step.alike (h : Step a ms b) (ha : Sound a) (halike : a.session.Alike t) :
    ∃ u, Step ⟨t, a.frames⟩ ms ⟨u, b.frames⟩ := by
  have hlinked := ha.coherent.linked
  cases h with
  | request m hrequest hfits => exact ⟨_, .request m hrequest (halike.fits.mpr hfits)⟩
  | note f r => exact ⟨_, .note f r⟩
  | @call s fs n element action x hn hhandler hresolve =>
    have henter := halike.move (.enter [element, n])
    exact ⟨_, .call (halike.document ▸ hn) ((halike.handler? hlinked hn).trans hhandler)
      ((henter.resolve action).trans hresolve)⟩
  | @fail s fs n element action e hn hhandler hresolve =>
    have henter := halike.move (.enter [element, n])
    exact ⟨_, .fail (halike.document ▸ hn) ((halike.handler? hlinked hn).trans hhandler)
      ((henter.resolve action).trans hresolve)⟩
  | finish e => exact ⟨_, .finish e⟩

/-- Passes that forget nothing but freed nodes keep a page sound. -/
theorem StepBy.sound (hp : p.SparesLiving) (h : StepBy p a ms b) (ha : Sound a)
    (halike : a.session.Alike a.session) : Sound b := by
  obtain ⟨⟨t, hstep⟩, hsession⟩ := h
  have hmoves := halike.foldl_moveBy Binder.sparesLiving_pass hp ms
  rw [← hsession, (stepBy_pass_iff.mpr hstep).2.symm] at hmoves
  exact (hstep.sound ha).2.alike hmoves

theorem StepBy.alike (hp : p.SparesLiving) (hp' : p'.SparesLiving) (h : StepBy p a ms b)
    (ha : Sound a) (halike : a.session.Alike t) :
    ∃ u, StepBy p' ⟨t, a.frames⟩ ms ⟨u, b.frames⟩ ∧ b.session.Alike u := by
  obtain ⟨⟨v, hstep⟩, hsession⟩ := h
  refine ⟨ms.foldl (moveBy p') t, ⟨hstep.alike ha halike, rfl⟩, ?_⟩
  rw [hsession]
  exact halike.foldl_moveBy hp hp' ms

/-- Pages that are alike run in lockstep, whatever the passes of each forget of freed nodes. -/
theorem GoesBy.alike (hp : p.SparesLiving) (hp' : p'.SparesLiving) (h : GoesBy p a ms b)
    (ha : Sound a) (halike : a.session.Alike t) :
    ∃ u, GoesBy p' ⟨t, a.frames⟩ ms ⟨u, b.frames⟩ ∧ b.session.Alike u := by
  induction h generalizing t with
  | refl => exact ⟨t, .refl, halike⟩
  | step hstep _ ih =>
    obtain ⟨u, hfirst, hbetween⟩ := hstep.alike hp hp' ha halike
    obtain ⟨v, hrest, hafter⟩ := ih (hstep.sound hp ha halike.left) hbetween
    exact ⟨v, .step hfirst hrest, hafter⟩

end Scene

end MarkupActions
