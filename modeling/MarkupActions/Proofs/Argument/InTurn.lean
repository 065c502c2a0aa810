import Mathlib.Data.List.Forall2
import MarkupActions.Argument.Literal

/-! Reading one item after another. A list is read exactly when each of its items is, and gives their
results in order; otherwise the fault of the first item that cannot be read is told. A list of
arguments is read so, token by token. -/

namespace MarkupActions

section InTurn

variable {ε α β : Type} {f : α → Except ε β} {xs : List α}

theorem mapM_eq_ok_iff {ys : List β} :
    xs.mapM f = .ok ys ↔ List.Forall₂ (fun x y => f x = .ok y) xs ys := by
  induction xs generalizing ys with
  | nil => simp [pure, Except.pure, eq_comm]
  | cons x xs ih =>
    have hrest : (∃ y us, f x = .ok y ∧ xs.mapM f = .ok us ∧ ys = y :: us) ↔
        (x :: xs).mapM f = .ok ys := by
      rw [List.mapM_cons]
      cases f x with
      | error e => simp [bind, Except.bind]
      | ok y =>
        cases xs.mapM f with
        | error e => simp [bind, Except.bind]
        | ok us => simp [bind, Except.bind, pure, Except.pure, eq_comm]
    rw [← hrest, List.forall₂_cons_left_iff]
    simp only [ih]

theorem exists_mapM_eq_ok_iff : (∃ ys, xs.mapM f = .ok ys) ↔ ∀ x ∈ xs, ∃ y, f x = .ok y := by
  simp only [mapM_eq_ok_iff]
  induction xs with
  | nil => simp
  | cons x xs ih =>
    rw [List.forall_mem_cons, ← ih]
    constructor
    · rintro ⟨_, _ | ⟨hx, hxs⟩⟩
      exact ⟨⟨_, hx⟩, _, hxs⟩
    · rintro ⟨⟨y, hx⟩, ys, hxs⟩
      exact ⟨y :: ys, .cons hx hxs⟩

/-- The fault that is told is that of the first item that cannot be read. -/
theorem mapM_eq_error_iff {e : ε} :
    xs.mapM f = .error e ↔ ∃ before x after, xs = before ++ x :: after ∧
      (∀ y ∈ before, ∃ b, f y = .ok b) ∧ f x = .error e := by
  constructor
  · intro h
    induction xs with
    | nil => cases h
    | cons x xs ih =>
      cases hx : f x with
      | error e' =>
        rw [List.mapM_cons, hx] at h
        cases h
        exact ⟨[], x, xs, rfl, by simp, hx⟩
      | ok y =>
        have hxs : xs.mapM f = .error e := by
          rw [List.mapM_cons, hx] at h
          cases hxs : xs.mapM f with
          | ok ys => rw [hxs] at h; cases h
          | error e' => rw [hxs] at h; exact h
        obtain ⟨before, z, after, rfl, hbefore, hz⟩ := ih hxs
        exact ⟨x :: before, z, after, rfl, List.forall_mem_cons.mpr ⟨⟨y, hx⟩, hbefore⟩, hz⟩
  · rintro ⟨before, x, after, rfl, hbefore, hx⟩
    obtain ⟨ys, hys⟩ := exists_mapM_eq_ok_iff.mpr hbefore
    rw [List.mapM_append, hys, List.mapM_cons, hx]
    rfl

end InTurn

namespace Literal

open Argument

variable {raw token : String} {e : ActionError}

theorem parse_error (h : parse token = .error e) : e = .unsupported token := by
  unfold parse at h
  split at h
  · cases h
  · exact (Except.error.inj h).symm

/-- A token that is no literal is named as it is. -/
theorem parse_eq_error (h : ∀ l, parse token ≠ .ok l) : parse token = .error (.unsupported token) := by
  cases hparse : parse token with
  | ok l => exact absurd hparse (h l)
  | error e => rw [parse_error hparse]

theorem parseAll_eq_ok_iff {ls : List Literal} :
    parseAll raw = .ok ls ↔ List.Forall₂ (fun t l => parse t = .ok l) (split raw) ls :=
  mapM_eq_ok_iff

/-- A list of arguments that cannot be read has a leftmost bad token, which is told. -/
theorem parseAll_eq_error_iff :
    parseAll raw = .error e ↔ ∃ before t after, split raw = before ++ t :: after ∧
      (∀ u ∈ before, ∃ l, parse u = .ok l) ∧ (∀ l, parse t ≠ .ok l) ∧ e = .unsupported t := by
  rw [parseAll, mapM_eq_error_iff]
  refine exists_congr fun before => exists_congr fun t => exists_congr fun after =>
    and_congr_right fun _ => and_congr_right fun _ => ?_
  constructor
  · intro h
    exact ⟨by simp [h], parse_error h⟩
  · rintro ⟨hbad, rfl⟩
    exact parse_eq_error hbad

theorem parseAll_error (h : parseAll raw = .error e) : ∃ token, e = .unsupported token := by
  obtain ⟨_, t, _, -, -, -, he⟩ := parseAll_eq_error_iff.mp h
  exact ⟨t, he⟩

end Literal

end MarkupActions
