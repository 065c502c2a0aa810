import Mathlib.Tactic.Common
import MarkupActions.Action.Resolve

/-! What resolving an action comes to: the action can be read, its path leads to a function, and
its arguments can be read. -/

namespace MarkupActions

theorem bind_eq_ok_iff {ε α β : Type} {x : Except ε α} {f : α → Except ε β} {y : β} :
    (x >>= f) = .ok y ↔ ∃ a, x = .ok a ∧ f a = .ok y := by
  cases x with
  | error e => simp [Bind.bind, Except.bind]
  | ok a => simp [Bind.bind, Except.bind]

namespace Registry

variable {φ : Type} {r : Registry φ}

/-- The target of a path is the function that its segments lead to. -/
theorem target_eq_ok_iff {path : ActionPath} {f : φ} :
    r.target path = .ok f ↔ r.lookup path.segments = some (.function f) := by
  unfold target
  constructor
  · intro h
    split at h
    next g hg => rwa [← Except.ok.inj h]
    next => cases h
    next => cases h
  · intro h
    rw [h]

theorem target_of_not_function {path : ActionPath}
    (h : ¬ ∃ f, r.lookup path.segments = some (.function f)) :
    r.target path = .error (.notCallable path.display) ∨
      r.target path = .error (.unresolved path.display) := by
  unfold target
  split
  next f hf => exact absurd ⟨f, hf⟩ h
  next => exact .inl rfl
  next => exact .inr rfl

/-- When an action resolves, and to what. -/
theorem resolve_eq_ok_iff {root action : String} {source : TextSource} {x : Resolved φ} :
    r.resolve root action source = .ok x ↔
      ∃ e literals, ActionExpr.parse action root = .ok e ∧
        r.lookup e.path.segments = some (.function x.target) ∧ e.arguments = .ok literals ∧
        x.path = e.path.display ∧ x.arguments = literals.map (·.evaluate source) := by
  rw [resolve, bind_eq_ok_iff]
  constructor
  · rintro ⟨e, hparse, h⟩
    obtain ⟨f, htarget, h⟩ := bind_eq_ok_iff.mp h
    obtain ⟨literals, harguments, h⟩ := bind_eq_ok_iff.mp h
    cases h
    exact ⟨e, literals, hparse, target_eq_ok_iff.mp htarget, harguments, rfl, rfl⟩
  · rintro ⟨e, literals, hparse, hlookup, harguments, hpath, hvalues⟩
    refine ⟨e, hparse, bind_eq_ok_iff.mpr ⟨x.target, target_eq_ok_iff.mpr hlookup, ?_⟩⟩
    refine bind_eq_ok_iff.mpr ⟨literals, harguments, ?_⟩
    rw [← hpath, ← hvalues]
    rfl

end Registry

end MarkupActions
