import MarkupActions.Proofs.Binder.Pass
import MarkupActions.Proofs.Session.Move

/-! Passes over a page, and loading as the first of them. After a pass the elements that it went
over are bound to what they declare, and after loading these are all the elements that declare an
action. -/

namespace MarkupActions.Session

variable {s : Session} {n m : Nat} {ns : List Nat}

/-! ### Passes -/

theorem document_bindPass : (s.bindPass n).2.document = s.document := rfl

theorem report_bindPass : (s.bindPass n).1 = (s.binder.pass s.document n).1 := rfl

theorem binder_bindPass : (s.bindPass n).2.binder = (s.binder.pass s.document n).2 := rfl

theorem document_bindPasses : (s.bindPasses ns).2.document = s.document := by
  induction ns generalizing s with
  | nil => rfl
  | cons n ns ih => exact ih

theorem actionAttribute_bindPass :
    (s.bindPass n).2.binder.actionAttribute = s.binder.actionAttribute :=
  Binder.actionAttribute_pass

theorem actionAttribute_bindPasses :
    (s.bindPasses ns).2.binder.actionAttribute = s.binder.actionAttribute := by
  induction ns generalizing s with
  | nil => rfl
  | cons n ns ih => exact ih.trans actionAttribute_bindPass

theorem action?_bindPass (halive : s.document.isAlive m = true) :
    (s.bindPass n).2.binder.action? m =
      (s.binder.action? m).or (if m ∈ s.document.elements n then
        s.document.declared? s.binder.actionAttribute m else none) :=
  Binder.action?_pass halive

/-- What lives stays bound, and the elements of the passes are bound to what they declare. -/
theorem action?_bindPasses (halive : s.document.isAlive m = true) :
    (s.bindPasses ns).2.binder.action? m =
      (s.binder.action? m).or (if m ∈ ns.flatMap s.document.elements then
        s.document.declared? s.binder.actionAttribute m else none) := by
  induction ns generalizing s with
  | nil => simp [bindPasses]
  | cons n ns ih =>
    have hrest := ih (s := (s.bindPass n).2) halive
    rw [actionAttribute_bindPass, document_bindPass, action?_bindPass halive,
      Option.or_assoc] at hrest
    refine hrest.trans ?_
    congr 1
    by_cases hfirst : m ∈ s.document.elements n
    · cases s.document.declared? s.binder.actionAttribute m <;> simp [hfirst]
    · simp [hfirst]

theorem action?_bindPass_eq_none (hfree : s.binder.action? m = none)
    (hm : s.document.isElement m = false) : (s.bindPass n).2.binder.action? m = none :=
  Binder.action?_pass_eq_none hfree hm

theorem action?_bindPasses_eq_none (hfree : s.binder.action? m = none)
    (hm : s.document.isElement m = false) : (s.bindPasses ns).2.binder.action? m = none := by
  induction ns generalizing s with
  | nil => exact hfree
  | cons n ns ih => exact ih (action?_bindPass_eq_none hfree hm) hm

/-! ### Loading -/

theorem document_log (l : Log.Level) (source : Log.Source) (message : String) :
    (s.log l source message).document = s.document := rfl

theorem binder_log (l : Log.Level) (source : Log.Source) (message : String) :
    (s.log l source message).binder = s.binder := rfl

variable [MarkupParser]

/-- A page that no pass went over yet. -/
def unscanned (html : String) (registry : Registry Target) (c : Config) : Session :=
  { unbound html registry c with isLive := true }

/-- A page is loaded by one pass over its document. -/
theorem load_eq (html : String) (registry : Registry Target) (c : Config) :
    load html registry c =
      ((unscanned html registry c).bindPass Document.root).2.log .info .page
        ("[directive] page ready, " ++
          toString ((unscanned html registry c).bindPass Document.root).1.bound ++
          " actions bound") := by
  unfold load unscanned
  generalize bindPass _ _ = p
  rfl

theorem document_load (html : String) (registry : Registry Target) (c : Config) :
    (load html registry c).document = .parse html := by
  rw [load_eq, document_log, document_bindPass]
  rfl

theorem binder_load (html : String) (registry : Registry Target) (c : Config) :
    (load html registry c).binder = ((Binder.new c).pass (.parse html) Document.root).2 := by
  rw [load_eq, binder_log, binder_bindPass]
  rfl

theorem registry_load (html : String) (registry : Registry Target) (c : Config) :
    (load html registry c).registry = registry := by
  rw [load_eq]
  exact ((later_bindPass _ Document.root).trans (later_note _ _)).registry

theorem rootNamespace_load (html : String) (registry : Registry Target) (c : Config) :
    (load html registry c).rootNamespace = c.rootNamespace := by
  rw [load_eq]
  exact ((later_bindPass _ Document.root).trans (later_note _ _)).rootNamespace

theorem resolve_load (html : String) (registry : Registry Target) (c : Config) (action : String) :
    (load html registry c).resolve action =
      registry.resolve c.rootNamespace action (Document.parse html).textById := by
  rw [resolve, registry_load, rootNamespace_load, document_load]

/-- On a page that was just loaded, exactly the elements that declare an action are bound, each to
what it declares. -/
theorem action?_load (html : String) (registry : Registry Target) (c : Config) (n : Nat) :
    (load html registry c).binder.action? n =
      (Document.parse html).declared? c.actionAttribute n := by
  rw [binder_load]
  cases hdeclared : (Document.parse html).declared? c.actionAttribute n with
  | some action =>
    have helement : n ∈ (Document.parse html).elements Document.root :=
      Document.mem_elements_parse.mpr (Document.isElement_of_declared? hdeclared)
    rw [Binder.action?_pass (Document.isAlive_of_declared? hdeclared), if_pos helement]
    exact hdeclared
  | none =>
    by_cases helement : (Document.parse html).isElement n = true
    · rw [Binder.action?_pass (Document.isAlive_of_isElement helement)]
      split
      · exact hdeclared
      · rfl
    · exact Binder.action?_pass_eq_none rfl (by simpa using helement)

end MarkupActions.Session
