import MarkupActions.Html.Parse
import MarkupActions.Proofs.Session.Bound
import MarkupActions.Proofs.Session.Own

/-! How a click is answered: by the first bound node on the way up, which runs its one action. A
failure of that action is logged once and goes no further, and a click that calls nothing leaves
the page as it was. -/

namespace MarkupActions

/-! ### The way up -/

namespace Document.Linked

variable {d : Document} {c m n : Nat} {before after : List NodeId}

/-- From any node on it, the way up is the rest of it. -/
theorem chain_suffix (h : d.Linked) (hn : d.chain n = before ++ m :: after) :
    d.chain m = m :: after := by
  induction before generalizing n with
  | nil =>
    rw [h.chain_eq, List.nil_append, List.cons.injEq] at hn
    rw [h.chain_eq, ← hn.1, hn.2]
  | cons b before ih =>
    rw [h.chain_eq, List.cons_append, List.cons.injEq] at hn
    cases hp : d.parent? n with
    | none => simp [hp] at hn
    | some p =>
      rw [hp] at hn
      exact ih hn.2

theorem below_root_of_mem_chain (h : d.Linked) (hn : d.contains n = true) (hm : m ∈ d.chain n) :
    d.contains m = true := by
  have hroot := h.contains_iff.mp hn
  rw [h.contains_iff]
  rcases h.below_total hroot (h.below_of_mem_chain hn hm) with hbelow | hbelow
  · exact hbelow
  · have hle := h.le_of_below hbelow
    rw [Nat.le_zero.mp hle]
    exact .refl

end Document.Linked

namespace Binder

variable {b : Binder} {d : Document} {n element : Nat} {action : String}

/-- No element answers a click where nothing on the way up is bound. -/
theorem handler?_eq_none_iff :
    b.handler? d n = none ↔ ∀ m ∈ d.chain n, b.action? m = none := by
  rw [handler?, List.findSome?_eq_none_iff]
  simp only [Option.map_eq_none_iff]

/-- The first bound node on the way up answers a click. -/
theorem handler?_eq_some_iff :
    b.handler? d n = some (element, action) ↔
      ∃ before after, d.chain n = before ++ element :: after ∧ b.action? element = some action ∧
        ∀ m ∈ before, b.action? m = none := by
  rw [handler?, List.findSome?_eq_some_iff]
  simp only [Option.map_eq_none_iff, Option.map_eq_some_iff, Prod.mk.injEq]
  constructor
  · rintro ⟨before, m, after, hchain, ⟨_, haction, rfl, rfl⟩, hbefore⟩
    exact ⟨before, after, hchain, haction, hbefore⟩
  · rintro ⟨before, after, hchain, haction, hbefore⟩
    exact ⟨before, element, after, hchain, ⟨action, haction, rfl, rfl⟩, hbefore⟩

end Binder

namespace Session

variable {s : Session} {n element : Nat} {ns : List NodeId} {action : String}

/-- What is kept by something else is not freed when it is let go. -/
theorem foldl_release_eq_self (h : s.Coherent)
    (hns : ∀ n ∈ ns, s.document.isAlive n = true) : ns.foldl release s = s := by
  induction ns with
  | nil => rfl
  | cons n ns ih =>
    have hfirst : s.release n = s := by
      rw [release, Document.release_eq_self h.linked h.kept_held (hns n (List.mem_cons_self ..))]
    rw [List.foldl_cons, hfirst, ih fun m hm => hns m (List.mem_cons_of_mem n hm)]

/-- A click that calls nothing leaves the page as it was, but for the record. -/
theorem leave_note_enter (h : s.Coherent)
    (hns : ∀ n ∈ ns, s.document.isAlive n = true) (e : Event) :
    ((s.enter ns).note e).leave ns = s.note e := by
  have hdrop : { (s.enter ns).note e with
      running := ((s.enter ns).note e).running.drop ns.length } = s.note e := by
    simp only [enter, note, List.drop_left]
  rw [leave, hdrop]
  exact foldl_release_eq_self (h.note e) hns

/-- A link inside the page is an anchor whose address starts with a hash. -/
theorem prevents_iff : s.prevents element = true ↔
    ∃ x, s.document.kind? element = some (.element x) ∧ x.name = "a" ∧
      ∃ href, x.attribute? "href" = some href ∧ href.toList.head? = some '#' := by
  rw [prevents, Option.any_eq_true]
  constructor
  · rintro ⟨k, hk, hlink⟩
    cases k with
    | element x =>
      rw [NodeKind.isFragmentLink, Bool.and_eq_true, decide_eq_true_eq, Option.any_eq_true] at hlink
      obtain ⟨hname, href, hhref, hhash⟩ := hlink
      exact ⟨x, hk, Option.some.inj hname, href, hhref, of_decide_eq_true hhash⟩
    | _ => cases hlink
  · rintro ⟨x, hk, hname, href, hhref, hhash⟩
    refine ⟨.element x, hk, ?_⟩
    rw [NodeKind.isFragmentLink, Bool.and_eq_true, decide_eq_true_eq, Option.any_eq_true]
    exact ⟨congrArg some hname, href, hhref, decide_eq_true hhash⟩

/-- The first bound node above an attached one is the deepest of all that are above it. -/
theorem deepest_of_first {d : Document} (hd : d.Linked) {before after : List NodeId}
    (hchain : d.chain n = before ++ element :: after)
    (hbefore : ∀ m ∈ before, s.binder.action? m = none) (hn : d.contains n = true) :
    d.Below element n ∧
      ∀ m : Nat, s.binder.action? m ≠ none → d.Below m n → d.Below m element := by
  have hmem : element ∈ d.chain n := by rw [hchain]; simp
  refine ⟨hd.below_of_mem_chain hn hmem, fun m hbound hbelow => ?_⟩
  -- what has the node in its tree is on the way up from it, and if it is bound not before the element
  have hm := hd.mem_chain_of_below hbelow
  rw [hchain, List.mem_append] at hm
  have hrest := hm.resolve_left fun hm => hbound (hbefore m hm)
  rw [← hd.chain_suffix hchain] at hrest
  exact hd.below_of_mem_chain (hd.below_root_of_mem_chain hn hmem) hrest

/-! ### Clicks -/

variable [MarkupParser]

/-- A click that nothing answers. -/
structure Ignored (s : Session) (n : NodeId) : Prop where
  unbound : ∀ m ∈ s.document.chain n, s.binder.action? m = none
  /-- It does nothing at all. -/
  click : ∀ depth, click (depth + 1) n s = some ({}, s)

/-- A click on a node that an element answers by its action. -/
structure Handled (s : Session) (n element : NodeId) (action : String) : Prop where
  isElement : s.document.isElement element = true
  /-- The element is the first node on the way up that is bound. -/
  first : ∃ before after, s.document.chain n = before ++ element :: after ∧
    s.binder.action? element = some action ∧ ∀ m ∈ before, s.binder.action? m = none
  /-- In the document it is the deepest bound one that has the node in its tree. -/
  deepest : s.document.contains n = true → s.document.Below element n ∧
    ∀ m : Nat, s.binder.action? m ≠ none → s.document.Below m n → s.document.Below m element
  /-- An action that cannot be resolved calls nothing, and all it changes is that a line of the log
  tells of it. -/
  unresolved : ∀ e, s.resolve action = .error e → ∀ depth,
    Session.click (depth + 1) n s =
      some (⟨true, true, s.prevents element⟩, s.logFailure action e.message)
  /-- An action that can be resolved has been read and names a registered function. -/
  registered : ∀ x, s.resolve action = .ok x →
    ∃ e, ActionExpr.parse action s.rootNamespace = .ok e ∧
      s.registry.lookup e.path.segments = some (.function x.target)
  /-- That function is called, and the click fails exactly if the function does. -/
  called : ∀ x, s.resolve action = .ok x → ∀ depth,
    Session.click (depth + 1) n s =
      ((s.enter [element, n]).call (Session.click depth) x).map fun r =>
        (⟨true, decide (r.1 ≠ .ok), s.prevents element⟩,
          (r.2.settle action x.path r.1).leave [element, n])
  /-- Apart from clicks that the function makes, that is the one call, and one error is logged if
  the click fails, and none if not. -/
  own : ∀ x, s.resolve action = .ok x → ∀ depth o t, Session.click (depth + 1) n s = some (o, t) →
    ∃ own, clickWith (muted (Session.click depth)) n s = some (o, t.recording (s.record ++ own)) ∧
      own.filter Event.isCall = [.called x.target x.arguments] ∧
      (o.failed = false → own.filter Event.isError = []) ∧
      (o.failed = true → ∃ message,
        own.filter Event.isError = [.logged (failureLine action message)])
  /-- Whether a link is followed depends on the element only. -/
  prevents : s.prevents element = true ↔
    ∃ x, s.document.kind? element = some (.element x) ∧ x.name = "a" ∧
      ∃ href, x.attribute? "href" = some href ∧ href.toList.head? = some '#'

end Session

namespace Scene

open Session

section

variable [MarkupParser] {a : Scene} {s t : Session} {n : Nat} {action : String}

/-- What is bound on a page that was just loaded declares its action. -/
theorem Starts.declared? (h : Starts s) (hn : s.binder.action? n = some action) :
    s.document.declared? s.binder.actionAttribute n = some action := by
  cases h with
  | load html registry c =>
    rw [action?_load] at hn
    rw [document_load, binder_load, Binder.actionAttribute_pass]
    exact hn
  | unbound html registry c => cases hn

/-- At every moment of every page, what lives and is bound declares its action. -/
theorem Reached.declared? (h : a.Reached) (halive : a.session.document.isAlive n = true)
    (hn : a.session.binder.action? n = some action) :
    a.session.document.declared? a.session.binder.actionAttribute n = some action := by
  obtain ⟨s, ms, hstarts, hmoves⟩ := h.exists_moves
  cases hstart : s.binder.action? n with
  | none => exact (hmoves.meets hstarts.fresh halive hstart hn).2
  | some action' =>
    have hsize := hstarts.fresh.lt_size hstart
    have hsame := hmoves.action? hsize halive hstart
    rw [hn, Option.some.injEq] at hsame
    rw [hmoves.actionAttribute, hmoves.descends.declared? hsize halive, hsame]
    exact hstarts.declared? hstart

/-- At every moment of every page, a click is answered by the first bound node on the way up, which
runs its one action, or does nothing at all. -/
theorem one_action_per_click (ha : a.Reached) (hn : a.session.document.isAlive n = true) :
    a.Runs n ∧
      ((a.session.binder.handler? a.session.document n = none ∧ a.session.Ignored n) ∨
        ∃ element action,
          a.session.binder.handler? a.session.document n = some (element, action) ∧
            a.session.Handled n element action) := by
  refine ⟨ha.runs hn, ?_⟩
  have hcoherent := ha.sound.coherent
  cases hhandler : a.session.binder.handler? a.session.document n with
  | none =>
    exact .inl ⟨rfl, Binder.handler?_eq_none_iff.mp hhandler,
      fun depth => click_of_no_handler hhandler⟩
  | some answer =>
    obtain ⟨element, action⟩ := answer
    obtain ⟨before, after, hchain, hbound, hbefore⟩ := Binder.handler?_eq_some_iff.mp hhandler
    have hns := isAlive_of_handler? hcoherent.linked hn hhandler
    refine .inr ⟨element, action, rfl, ?_⟩
    constructor
    case isElement =>
      have helement := ha.declared? (hns element (List.mem_cons_self ..)) hbound
      exact Document.isElement_of_declared? helement
    case first => exact ⟨before, after, hchain, hbound, hbefore⟩
    case deepest => exact deepest_of_first hcoherent.linked hchain hbefore
    case unresolved =>
      intro e he depth
      rw [click_of_unresolved hhandler he]
      exact congrArg (fun t => some (_, t)) (leave_note_enter hcoherent hns _)
    case registered =>
      intro x hx
      obtain ⟨e, literals, hparse, hlookup, -⟩ := Registry.resolve_eq_ok_iff.mp hx
      exact ⟨e, hparse, hlookup⟩
    case called => exact fun x hx depth => click_of_resolved hhandler hx
    case own => exact fun x hx depth o t h => clickWith_muted hhandler hx h
    case prevents => exact prevents_iff

end

/-! ### A click inside a click -/

/-- A function that fails. -/
def failing : Target where
  path := "inner"
  run _ := .finish (.failed ["no"])

/-- A function that clicks on an element whose action fails. -/
def clicking : Target where
  path := "outer"
  run _ := .perform (.click ⟨.id "in", []⟩) fun _ => .finish .ok

def nestedPage : Session :=
  load "<a href='#x' data-action='outer()'><b>x</b></a><i id='in' data-action='inner()'>y</i>"
    ⟨.cons "outer" (.function clicking) (.cons "inner" (.function failing) .nil)⟩ {}

/-- A click inside of the link fails in the click that its action makes, but not itself: one error
is on record, which is not its own. -/
theorem one_action_of_nested_click : ∃ (t : Session) (x : Resolved Target) (own : List Event),
    (∀ depth ≥ 2, Session.click depth 5 nestedPage = some (⟨true, false, true⟩, t)) ∧
      Reached ⟨t, []⟩ ∧
      (t.record.filter Event.isError).length = 1 ∧ x.target.path = "outer" ∧
      clickWith (muted (Session.click 1)) 5 nestedPage =
        some (⟨true, false, true⟩, t.recording (nestedPage.record ++ own)) ∧
      own.filter Event.isCall = [.called x.target x.arguments] ∧
      own.filter Event.isError = [] := by
  have hstarts : Starts nestedPage := by
    rw [nestedPage]
    exact .load _ _ _
  have hreached : Reached ⟨nestedPage, []⟩ := ⟨nestedPage, [], hstarts, .refl⟩
  have halive : nestedPage.document.isAlive 5 = true := by decide +kernel
  have hhandler : nestedPage.binder.handler? nestedPage.document 5 = some (4, "outer()") := by
    decide +kernel
  obtain ⟨hruns, ⟨hnone, -⟩ | ⟨element, action, hsome, hhandled⟩⟩ :=
    one_action_per_click hreached halive
  · rw [hhandler] at hnone
    cases hnone
  obtain ⟨rfl, rfl⟩ := Prod.mk.inj (Option.some.inj (hhandler.symm.trans hsome))
  have hresolve : ((nestedPage.resolve "outer()").toOption.map fun x => x.target.path) =
      some "outer" := by decide +kernel
  have hrun : ((Session.click 2 5 nestedPage).map fun r =>
      (r.1, (r.2.record.filter Event.isError).length)) = some (⟨true, false, true⟩, 1) := by
    decide +kernel
  cases hx : nestedPage.resolve "outer()" with
  | error e => simp [hx, Except.toOption] at hresolve
  | ok x =>
    obtain ⟨⟨o, t⟩, hclick, heq⟩ := Option.map_eq_some_iff.mp hrun
    obtain ⟨rfl, herrors⟩ := Prod.mk.inj heq
    obtain ⟨own, hmuted, hcalls, hnone, -⟩ := hhandled.own x hx 1 _ t hclick
    have hpath : x.target.path = "outer" := by simpa [hx, Except.toOption] using hresolve
    have hdeeper (depth : Nat) (hdepth : depth ≥ 2) := hruns.deeper 2 depth _ hdepth hclick
    exact ⟨t, x, own, hdeeper, hruns.ends 2 _ t hclick, herrors, hpath, hmuted, hcalls, hnone rfl⟩

end Scene

end MarkupActions
