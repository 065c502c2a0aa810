import MarkupActions.Audit.Markup
import MarkupActions.Proofs.Action.Parse
import MarkupActions.Proofs.Action.Resolve
import MarkupActions.Proofs.Registry.Callables

/-! Checking and resolving agree. With the paths that a registry lists as known, an action is found
good without a page exactly when it resolves on one, and what is wrong with it is the same, except
that a target which is no function counts as unknown. -/

namespace MarkupActions.Audit

variable {φ : Type} {r : Registry φ}

/-- An error of resolving as a check tells it: what cannot be called is not known. -/
def told : ActionError → ActionError
  | .notCallable path => .unresolved path
  | e => e

/-- A path is known when its segments lead to a function. -/
theorem contains_display_iff (h : r.root.WellFormed) {action root : String} {e : ActionExpr}
    (he : ActionExpr.parse action root = .ok e) :
    r.callablePaths.contains e.path.display = true ↔
      ∃ f, r.lookup e.path.segments = some (.function f) := by
  obtain ⟨hne, hnames⟩ := ActionExpr.segments_of_parse he
  exact Registry.dotted_mem_callablePaths h hnames hne

/-- Over any well-formed registry a check with the listed paths tells what resolving does. -/
theorem check_eq_told (h : r.root.WellFormed) (c : Config) (action : String) (source : TextSource) :
    check action c (some r.callablePaths) =
      ((r.resolve c.rootNamespace action source).map fun _ => ()).mapError told := by
  rw [check, Registry.resolve]
  cases hparse : ActionExpr.parse action c.rootNamespace with
  | error e =>
    rw [ActionExpr.parse_error hparse]
    rfl
  | ok e =>
    have hknown := contains_display_iff h hparse
    simp only [bind, Except.bind, Option.all_some]
    by_cases hf : ∃ f, r.lookup e.path.segments = some (.function f)
    · rw [if_pos (hknown.mpr hf)]
      obtain ⟨f, hf⟩ := hf
      rw [Registry.target_eq_ok_iff.mpr hf]
      cases harguments : e.arguments with
      | error x =>
        obtain ⟨token, rfl⟩ := ActionExpr.arguments_error harguments
        rfl
      | ok literals => rfl
    · rw [if_neg fun hcontains => hf (hknown.mp hcontains)]
      rcases Registry.target_of_not_function hf with htarget | htarget <;> rw [htarget] <;> rfl

/-- A check with the listed paths of a registry tells what resolving does, whatever text the page
shows: it finds nothing wrong exactly when resolving succeeds, and fails in the same way when it
fails. -/
theorem check_agrees_with_resolve (requests : List (Registration φ)) (c : Config) (action : String)
    (source : TextSource) :
    let r := Registry.ofRequests requests
    let checked := check action c (some r.callablePaths)
    (checked = .ok () ↔ ∃ x, r.resolve c.rootNamespace action source = .ok x) ∧
    checked = ((r.resolve c.rootNamespace action source).map fun _ => ()).mapError told ∧
    ∀ source', (∃ x, r.resolve c.rootNamespace action source' = .ok x) ↔
      ∃ x, r.resolve c.rootNamespace action source = .ok x := by
  intro r checked
  have hchecked (source : TextSource) :
      checked = ((r.resolve c.rootNamespace action source).map fun _ => ()).mapError told :=
    check_eq_told (Registry.wellFormed_ofRequests requests) c action source
  have hok (source : TextSource) :
      checked = .ok () ↔ ∃ x, r.resolve c.rootNamespace action source = .ok x := by
    rw [hchecked source]
    cases r.resolve c.rootNamespace action source with
    | error e => simp [Except.map, Except.mapError]
    | ok x => simp [Except.map, Except.mapError]
  exact ⟨hok source, hchecked source, fun source' => (hok source').symm.trans (hok source)⟩

end MarkupActions.Audit
