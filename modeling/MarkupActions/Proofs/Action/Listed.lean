import MarkupActions.Proofs.Action.Resolve
import MarkupActions.Proofs.Action.Shell
import MarkupActions.Proofs.Registry.Functions

/-! Listed paths as actions. A registry cuts a path at its dots and keeps blanks; an action cuts it
at its dots and trims each part. So a path that is listed as callable is the path of an action if
no name in it starts or ends with a blank, and otherwise no action has it. -/

namespace MarkupActions

open Text

variable {φ : Type}

namespace Registry

/-- The names of a dotted path are its segments. -/
theorem segments_intercalate {q : List String} (hq : ∀ s ∈ q, IsName s) (hne : q ≠ []) :
    segments (".".intercalate q) = q := by
  have hfilter : (q.map String.toList).filter (· ≠ []) = q.map String.toList := by
    refine List.filter_eq_self.mpr fun cs hcs => ?_
    obtain ⟨s, hs, rfl⟩ := List.mem_map.mp hcs
    simpa using (hq s hs).ne_empty
  rw [segments, splitOn_dotted hq hne, hfilter, List.map_map]
  simp

/-- A listed path leads to a function by its segments, which are names. -/
theorem function_of_listed {r : Registry φ} (h : r.root.WellFormed) {p : String}
    (hp : p ∈ r.callablePaths) :
    ∃ f, r.lookup (segments p) = some (.function f) ∧ segments p ≠ [] ∧
      (∀ s ∈ segments p, IsName s) ∧ ".".intercalate (segments p) = p := by
  obtain ⟨q, f, hq, rfl⟩ := (mem_callablePaths h).mp hp
  have hnames := (Namespace.wellFormed_of_lookup h hq).1
  have hne : q ≠ [] := by
    rintro rfl
    simp [lookup] at hq
  rw [segments_intercalate hnames hne]
  exact ⟨f, hq, hne, hnames, rfl⟩

end Registry

namespace ActionExpr

theorem trimmed_of_parse {action root : String} {e : ActionExpr} (h : parse action root = .ok e) :
    ∀ s ∈ e.path.segments, Trimmed s.toList :=
  fun s hs => (isSegment_of_parse h s hs).trimmed

/-- A call without arguments of a path behind the root namespace is read as that path. -/
theorem parse_call {root : String} (hroot : Config.isIdentifier root.toList) {path : List String}
    (hpath : ∀ s ∈ path, IsSegment s.toList) (hne : path ≠ []) :
    parse (root ++ "." ++ ".".intercalate path ++ "()") root =
      .ok ⟨root ++ "." ++ ".".intercalate path ++ "()", ⟨path⟩, ""⟩ := by
  have hcall : root ++ "." ++ ".".intercalate path ++ "()" =
      root ++ "." ++ ".".intercalate path ++ "(" ++ "" ++ ")" := by
    simp [String.append_assoc]
  rw [hcall]
  exact parse_normal hroot hpath hne ""

/-- Without blanks at their ends the names of a path without parentheses are segments. -/
theorem isSegment_of_isName {path : List String} (hnames : ∀ s ∈ path, IsName s)
    (hparen : '(' ∉ (".".intercalate path).toList) (htrimmed : ∀ s ∈ path, Trimmed s.toList) :
    ∀ s ∈ path, IsSegment s.toList := by
  intro s hs
  refine ⟨?_, (hnames s hs).dot_not_mem, fun hmem => hparen ?_, htrimmed s hs⟩
  · simpa using (hnames s hs).ne_empty
  · have hpart : s.toList ∈ splitOn '.' (".".intercalate path).toList := by
      rw [splitOn_dotted hnames (List.ne_nil_of_mem hs)]
      exact List.mem_map_of_mem hs
    exact mem_of_mem_splitOn hpart hmem

end ActionExpr

namespace Registry

/-- After any requests a path that is listed as callable and has no parenthesis leads to a function.
If no name in it has a blank at either end, a call of the path behind the root namespace resolves to
that function without arguments. Otherwise no action at all resolves to the path. -/
theorem resolve_listed (requests : List (Registration φ)) {c : Config} (hc : c.validate = .ok ())
    {p : String} (hp : p ∈ (ofRequests requests).callablePaths) (hparen : '(' ∉ p.toList)
    (source : TextSource) :
    let r := ofRequests requests
    ∃ f, r.lookup (segments p) = some (.function f) ∧
      ((∀ s ∈ segments p, Trimmed s.toList) →
        r.resolve c.rootNamespace (c.rootNamespace ++ "." ++ p ++ "()") source = .ok ⟨p, f, []⟩) ∧
      ((∃ s ∈ segments p, ¬ Trimmed s.toList) →
        ∀ root action x, r.resolve root action source = .ok x → x.path ≠ p) := by
  intro r
  have hr : r.root.WellFormed := wellFormed_ofRequests requests
  obtain ⟨f, hf, hne, hnames, hdotted⟩ := function_of_listed hr hp
  refine ⟨f, hf, fun htrimmed => ?_, ?_⟩
  · have hsegments : ∀ s ∈ segments p, ActionExpr.IsSegment s.toList :=
      ActionExpr.isSegment_of_isName hnames (by rwa [hdotted]) htrimmed
    have hparse := ActionExpr.parse_call (Config.validate_eq_ok_iff.mp hc).2 hsegments hne
    rw [hdotted] at hparse
    exact resolve_eq_ok_iff.mpr ⟨_, [], hparse, hf, rfl, hdotted.symm, rfl⟩
  · rintro ⟨s, hs, hblank⟩ root action x hx rfl
    obtain ⟨e, literals, hparse, -, -, hpath, -⟩ := resolve_eq_ok_iff.mp hx
    obtain ⟨hne', hnames'⟩ := ActionExpr.segments_of_parse hparse
    -- names are joined in one way only, so the action would name the blank as well
    have hsame : segments x.path = e.path.segments :=
      dotted_inj hnames hnames' hne hne' (hdotted.trans hpath)
    exact hblank (ActionExpr.trimmed_of_parse hparse s (hsame ▸ hs))

/-- A function whose name starts with a blank, beside one that has the name of the root namespace
and a blank inside. -/
def blankNames : List (Registration Nat) := [.function " f" 0, .function "window.a b" 1]

theorem mem_listed_blankNames {p : String} (hp : p = " f" ∨ p = "window.a b") :
    p ∈ (ofRequests blankNames).callablePaths := by
  have hlist : (ofRequests blankNames).root.callables "" = [" f", "window.a b"] := by
    decide +kernel
  rw [mem_callablePaths_iff, hlist]
  simpa using hp

theorem resolve_listed_of_blankNames :
    let r := ofRequests blankNames
    r.resolve "window" "window.window.a b()" (fun _ => none) = .ok ⟨"window.a b", 1, []⟩ ∧
      ∀ root action x, r.resolve root action (fun _ => none) = .ok x → x.path ≠ " f" := by
  intro r
  have hc : ({} : Config).validate = .ok () := by decide
  have hlookup : r.lookup (segments "window.a b") = some (.function 1) := rfl
  have htrimmed : ∀ s ∈ segments "window.a b", Trimmed s.toList := by decide +kernel
  have hblank : ∃ s ∈ segments " f", ¬ Trimmed s.toList := by decide +kernel
  obtain ⟨f, hf, hinside, -⟩ := resolve_listed blankNames hc
    (mem_listed_blankNames (.inr rfl)) (by decide) fun _ => none
  obtain ⟨-, -, -, hstart⟩ := resolve_listed blankNames hc
    (mem_listed_blankNames (.inl rfl)) (by decide) fun _ => none
  have heq : f = 1 := by
    rw [hlookup] at hf
    injection hf with hf
    injection hf with hf
    exact hf.symm
  exact ⟨heq ▸ hinside htrimmed, hstart hblank⟩

/-- A path may be listed though its call behind the root namespace does not resolve. -/
theorem listed_path_unresolved :
    let r := ofRequests [Registration.function " f" ()]
    ({} : Config).validate = .ok () ∧ " f" ∈ r.callablePaths ∧ '(' ∉ " f".toList ∧
      r.resolve "window" ("window" ++ "." ++ " f" ++ "()") (fun _ => none) =
        .error (.unresolved "f") := by
  intro r
  have hlist : r.root.callables "" = [" f"] := by decide +kernel
  have hmem : " f" ∈ r.callablePaths := by
    rw [mem_callablePaths_iff, hlist]
    exact List.mem_singleton.mpr rfl
  have hunresolved : r.resolve "window" "window. f()" (fun _ => none) =
      .error (.unresolved "f") := rfl
  exact ⟨by decide, hmem, by decide, hunresolved⟩

end Registry

end MarkupActions
