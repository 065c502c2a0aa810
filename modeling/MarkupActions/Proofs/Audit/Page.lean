import MarkupActions.Proofs.Audit.Agreement
import MarkupActions.Proofs.Session.Inside
import MarkupActions.Proofs.Session.Load

/-! What an audit says of a page. The audit of a text finds the elements that loading the page
binds, with the actions that they are bound to, and it finds fault with those whose actions do not
resolve there. So an audit is clean exactly when on the loaded page every click on a bound element
reaches its function. -/

namespace MarkupActions

open Audit (told)

/-- A click on a node reaches the function that is registered at the path of an action: the
function is called, and the click fails only if the call does not end well. -/
structure Session.Reaches [MarkupParser] (s : Session) (n : NodeId) (action : String) (x : Resolved Target) :
    Prop where
  registered : ∃ e, ActionExpr.parse action s.rootNamespace = .ok e ∧
    s.registry.lookup e.path.segments = some (.function x.target)
  called : ∀ depth, Session.click (depth + 1) n s =
    ((s.enter [n, n]).call (Session.click depth) x).map fun r =>
      (⟨true, decide (r.1 ≠ .ok), s.prevents n⟩,
        (r.2.settle action x.path r.1).leave [n, n])

/-- What is to be found at an element of a page: its action, if it is bound to one that does not
resolve there. -/
def Session.finding? (s : Session) (file : String) (n : NodeId) : Option Finding :=
  match s.binder.action? n with
  | none => none
  | some action =>
    match s.resolve action with
    | .ok _ => none
    | .error e => some {
        file
        tag := ((s.document.kind? n).bind (·.tagName?)).getD ""
        elementId := s.document.attribute? n "id"
        action
        code := (told e).code
        message := (told e).message
        hint := (told e).hint }

namespace Session

variable [MarkupParser] {s : Session} {n : Nat} {action : String}

/-- A bound element whose action resolves reaches its function. -/
theorem reaches_of_resolve {x : Resolved Target} (hn : n < s.document.cells.size)
    (hbound : s.binder.action? n = some action) (hx : s.resolve action = .ok x) :
    s.Reaches n action x where
  registered := by
    obtain ⟨e, -, hparse, hlookup, -⟩ := Registry.resolve_eq_ok_iff.mp hx
    exact ⟨e, hparse, hlookup⟩
  called := fun _ => click_of_resolved (Binder.handler?_of_action? hn hbound) hx

/-- A click that reaches a function has the call on record, and a click whose action does not
resolve has its failure there instead. -/
theorem exists_resolve_of_reaches {x : Resolved Target} (hn : n < s.document.cells.size)
    (hbound : s.binder.action? n = some action) (h : s.Reaches n action x) :
    ∃ y, s.resolve action = .ok y := by
  cases hresolve : s.resolve action with
  | ok y => exact ⟨y, rfl⟩
  | error e =>
    exfalso
    have hclick := h.called 0
    rw [click_of_unresolved (Binder.handler?_of_action? hn hbound) hresolve] at hclick
    obtain ⟨⟨ending, t⟩, hcall, heq⟩ := Option.map_eq_some_iff.mp hclick.symm
    have hsame := congrArg Session.record (Prod.mk.inj heq).2
    have hcalled : ((s.enter [n, n]).note (.called x.target x.arguments)).Later
        ((t.settle action x.path ending).leave [n, n]) :=
      ((later_call hcall).trans (later_settle t action x.path ending)).trans
        (later_move _ (.leave [n, n]))
    have hlogged : ((s.enter [n, n]).logFailure action e.message).Later
        (((s.enter [n, n]).logFailure action e.message).leave [n, n]) :=
      later_move _ (.leave [n, n])
    -- both events would be the first that the click puts on record
    have hfirst := hlogged.record
    rw [← hsame] at hfirst
    rcases List.prefix_or_prefix_of_prefix hfirst hcalled.record with hle | hle
    · cases List.append_cancel_left (hle.eq_of_length (by simp [note, logFailure, log]))
    · cases List.append_cancel_left (hle.eq_of_length (by simp [note, logFailure, log]))

end Session

namespace Audit

/-- An audit looks at the elements that declare an action, and at what they declare. -/
theorem actions_eq (d : Document) (c : Config) :
    actions d c = (d.elements Document.root).filterMap fun n =>
      (d.declared? c.actionAttribute n).map (n, ·) := by
  rw [actions]
  congr 1
  funext n
  simp only [Document.declared?]
  cases d.attribute? n c.actionAttribute with
  | none => rfl
  | some value =>
    by_cases hblank : Text.trimmed value = ""
    · simp [hblank]
    · simp [hblank]

theorem actionsChecked_document (d : Document) (file : String) (c : Config) (known : Known) :
    (document d file c known).actionsChecked = (actions d c).length := rfl

variable [MarkupParser]

/-- A first pass binds what an audit looks at, and counts it. -/
theorem bound_load (html : String) (r : Registry Target) (c : Config) :
    (Session.load html r c).binder.bound = actions (.parse html) c ∧
      ((Session.unscanned html r c).bindPass Document.root).1.bound =
        (actions (.parse html) c).length := by
  have hbinder : (Session.unscanned html r c).binder = .new c := rfl
  have hdocument : (Session.unscanned html r c).document = .parse html := rfl
  obtain ⟨hbound, hcount⟩ := Binder.pass_new (c := c) (Document.nodup_elements_parse html)
  rw [actions_eq, Session.binder_load, Session.report_bindPass, hbinder, hdocument, hcount, hbound]
  exact ⟨rfl, rfl⟩

theorem boundCount_load (html : String) (r : Registry Target) (c : Config) :
    (Session.load html r c).binder.boundCount (Session.load html r c).document =
      (actions (.parse html) c).length := by
  rw [Binder.boundCount, (bound_load html r c).1, Session.document_load, List.countP_eq_length,
    actions_eq]
  rintro ⟨n, action⟩ hmem
  obtain ⟨m, hm, hdeclared⟩ := List.mem_filterMap.mp hmem
  obtain ⟨a, -, heq⟩ := Option.map_eq_some_iff.mp hdeclared
  cases heq
  exact Document.isAlive_of_isElement (List.mem_filter.mp hm).2

/-- What an audit finds at an element is what is to be found at it on the page. -/
theorem finding?_eq {r : Registry Target} (h : r.root.WellFormed) (html file : String) (c : Config)
    {n : Nat} {action : String}
    (hdeclared : (Document.parse html).declared? c.actionAttribute n = some action) :
    finding? (.parse html) file c (some r.callablePaths) n action =
      (Session.load html r c).finding? file n := by
  have hbound : (Session.load html r c).binder.action? n = some action := by
    rw [Session.action?_load, hdeclared]
  rw [finding?, check_eq_told h c action (Document.parse html).textById, Session.finding?, hbound]
  dsimp only
  rw [Session.resolve_load, Session.document_load]
  cases r.resolve c.rootNamespace action (Document.parse html).textById <;> rfl

theorem findings_eq {r : Registry Target} (h : r.root.WellFormed) (html file : String)
    (c : Config) :
    (markup html file c (some r.callablePaths)).findings =
      ((Document.parse html).elements Document.root).filterMap
        ((Session.load html r c).finding? file) := by
  rw [markup, document, actions_eq]
  dsimp only
  rw [List.filterMap_filterMap]
  refine List.filterMap_congr fun n _ => ?_
  cases hdeclared : (Document.parse html).declared? c.actionAttribute n with
  | some action => exact finding?_eq h html file c hdeclared
  | none =>
    rw [Session.finding?, Session.action?_load, hdeclared]
    rfl

end Audit

namespace Session

variable [MarkupParser] {html : String} {r : Registry Target} {c : Config}

theorem mem_elements_of_isBound
    (h : (load html r c).binder.isBound (load html r c).document n = true) :
    n ∈ (load html r c).document.elements Document.root := by
  rw [Binder.isBound, action?_load, Bool.and_eq_true, Option.isSome_iff_exists] at h
  obtain ⟨⟨action, hdeclared⟩, -⟩ := h
  rw [document_load]
  exact Document.mem_elements_parse.mpr (Document.isElement_of_declared? hdeclared)

/-- On a page that was just loaded there is nothing to be found exactly when every click on a bound
element reaches its function. -/
theorem finding?_load_eq_none_iff (file : String) :
    (∀ n ∈ (load html r c).document.elements Document.root,
        (load html r c).finding? file n = none) ↔
      ∀ n action, (load html r c).binder.action? n = some action →
        ∃ x, (load html r c).Reaches n action x := by
  have hlt {n : Nat} {action : String} (hbound : (load html r c).binder.action? n = some action) :
      n < (load html r c).document.cells.size ∧
        n ∈ (load html r c).document.elements Document.root := by
    rw [action?_load] at hbound
    have helement := Document.isElement_of_declared? hbound
    rw [document_load]
    exact ⟨Document.lt_size_of_isElement helement, Document.mem_elements_parse.mpr helement⟩
  constructor
  · intro h n action hbound
    obtain ⟨hn, hmem⟩ := hlt hbound
    have hnone := h n hmem
    rw [finding?, hbound] at hnone
    cases hresolve : (load html r c).resolve action with
    | ok x => exact ⟨x, reaches_of_resolve hn hbound hresolve⟩
    | error e => simp [hresolve] at hnone
  · intro h n _
    rw [finding?]
    cases hbound : (load html r c).binder.action? n with
    | none => rfl
    | some action =>
      obtain ⟨x, hx⟩ := h n action hbound
      obtain ⟨y, hy⟩ := exists_resolve_of_reaches (hlt hbound).1 hbound hx
      simp only [hy]

end Session

namespace Audit

variable [MarkupParser]

/-- An audit of a text predicts the clicks on the page: it checks as many actions as loading binds,
it finds fault with the bound elements whose actions do not resolve, each once and in document
order, and it is clean exactly when every click on a bound element reaches its function. -/
theorem markup_predicts_clicks (html file : String) (requests : List (Registration Target))
    (c : Config) :
    let r := Registry.ofRequests requests
    let page := Session.load html r c
    let report := markup html file c (some r.callablePaths)
    report.actionsChecked = ((Session.unscanned html r c).bindPass Document.root).1.bound ∧
    report.actionsChecked = page.binder.boundCount page.document ∧
    (page.document.elements Document.root).Nodup ∧
    (∀ n, page.binder.isBound page.document n = true →
      n ∈ page.document.elements Document.root) ∧
    report.findings = (page.document.elements Document.root).filterMap (page.finding? file) ∧
    (report.isClean = true ↔ ∀ n action, page.binder.action? n = some action →
      ∃ x, page.Reaches n action x) := by
  intro r page report
  have hr : r.root.WellFormed := Registry.wellFormed_ofRequests requests
  have hchecked : report.actionsChecked = (actions (.parse html) c).length :=
    actionsChecked_document (.parse html) file c _
  have hfindings : report.findings =
      (page.document.elements Document.root).filterMap (page.finding? file) := by
    rw [Session.document_load]
    exact findings_eq hr html file c
  refine ⟨?_, ?_, ?_, ?_, hfindings, ?_⟩
  · rw [hchecked, (bound_load html r c).2]
  · rw [hchecked, boundCount_load html r c]
  · rw [Session.document_load]
    exact Document.nodup_elements_parse html
  · exact fun n => Session.mem_elements_of_isBound
  · rw [Report.isClean, hfindings, List.isEmpty_iff, List.filterMap_eq_nil_iff]
    exact Session.finding?_load_eq_none_iff file

end Audit

end MarkupActions
