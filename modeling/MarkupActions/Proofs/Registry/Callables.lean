import MarkupActions.Proofs.Registry.Tree

/-! The callable paths. The paths that a well-formed registry lists are exactly the dotted paths of
the functions in it, so a path is listed when the lookup of its segments finds a function. -/

namespace MarkupActions

open Text (IsName)

variable {φ : Type}

/-! ### Dotted paths of functions -/

namespace Namespace

theorem foldl_extend {path : String} (h : path ≠ "") (q : List String) :
    q.foldl extend path = ".".intercalate (path :: q) := by
  induction q generalizing path with
  | nil => simp
  | cons name q ih =>
    have hne : path ++ "." ++ name ≠ "" := by
      rw [Ne, ← String.toList_inj]
      simp
    rw [List.foldl_cons, extend, if_neg h, ih hne]
    cases q with
    | nil => simp
    | cons m q => simp [String.intercalate_cons_cons, String.append_assoc]

/-- Below the root a path is its names joined by dots. -/
theorem foldl_extend_root {q : List String} (h : ∀ s ∈ q, IsName s) :
    q.foldl extend "" = ".".intercalate q := by
  cases q with
  | nil => rfl
  | cons name q =>
    have hne : name ≠ "" := (h name (by simp)).ne_empty
    rw [List.foldl_cons, extend, if_pos rfl, foldl_extend hne]

end Namespace

mutual

theorem Binding.mem_callables {path p : String} (b : Binding φ) (h : b.WellFormed) :
    p ∈ b.callables path ↔
      ∃ q f, b.follow q = some (.function f) ∧ p = q.foldl Namespace.extend path := by
  cases b with
  | function f =>
    constructor
    · intro hp
      exact ⟨[], f, rfl, by simpa [Binding.callables] using hp⟩
    · rintro ⟨q, g, hq, rfl⟩
      cases q with
      | nil => simp [Binding.callables]
      | cons name q => simp [Binding.follow] at hq
  | scope members =>
    rw [Binding.callables, Namespace.mem_callables members h.2]
    constructor
    · rintro ⟨q, f, hq, rfl⟩
      cases q with
      | nil => simp at hq
      | cons name q => exact ⟨name :: q, f, hq, rfl⟩
    · rintro ⟨q, f, hq, rfl⟩
      cases q with
      | nil => simp [Binding.follow] at hq
      | cons name q => exact ⟨name :: q, f, hq, rfl⟩
  | value v =>
    constructor
    · simp [Binding.callables]
    · rintro ⟨q, f, hq, -⟩
      cases q <;> simp [Binding.follow] at hq

/-- The paths listed below a namespace are those of the functions that a lookup finds. -/
theorem Namespace.mem_callables {path p : String} (ns : Namespace φ) (h : ns.WellFormed) :
    p ∈ ns.callables path ↔
      ∃ q f, ns.lookup q = some (.function f) ∧ p = q.foldl Namespace.extend path := by
  cases ns with
  | nil =>
    constructor
    · simp [Namespace.callables]
    · rintro ⟨q, f, hq, -⟩
      cases q <;> simp [Namespace.lookup_cons, Namespace.get?] at hq
  | cons name b rest =>
    obtain ⟨-, hfresh, hb, hrest⟩ := h
    have hself (q : List String) :
        (Namespace.cons name b rest).lookup (name :: q) = b.follow q := by
      rw [Namespace.lookup_cons, Namespace.get?, if_pos rfl, Option.bind_some]
    have hother {m : String} (hm : name ≠ m) (q : List String) :
        (Namespace.cons name b rest).lookup (m :: q) = rest.lookup (m :: q) := by
      rw [Namespace.lookup_cons, Namespace.get?, if_neg hm, Namespace.lookup_cons]
    rw [Namespace.callables, List.mem_append, Binding.mem_callables b hb,
      Namespace.mem_callables rest hrest]
    constructor
    · rintro (⟨q, f, hq, rfl⟩ | ⟨q, f, hq, rfl⟩)
      · exact ⟨name :: q, f, by rw [hself, hq], rfl⟩
      · cases q with
        | nil => simp at hq
        | cons m q =>
          have hm : name ≠ m := by
            rintro rfl
            simp [Namespace.lookup_cons, hfresh] at hq
          exact ⟨m :: q, f, by rw [hother hm, hq], rfl⟩
    · rintro ⟨q, f, hq, rfl⟩
      cases q with
      | nil => simp at hq
      | cons m q =>
        by_cases hm : name = m
        · subst hm
          exact .inl ⟨q, f, by rw [← hself, hq], rfl⟩
        · exact .inr ⟨m :: q, f, by rw [← hother hm, hq], rfl⟩

end

namespace Registry

variable {r : Registry φ}

theorem mem_callablePaths (h : r.root.WellFormed) {p : String} :
    p ∈ r.callablePaths ↔ ∃ q f, r.lookup q = some (.function f) ∧ p = ".".intercalate q := by
  rw [callablePaths, Std.TreeSet.mem_ofList, List.contains_iff_mem,
    Namespace.mem_callables r.root h]
  constructor
  · rintro ⟨q, f, hq, rfl⟩
    exact ⟨q, f, hq, Namespace.foldl_extend_root (Namespace.wellFormed_of_lookup h hq).1⟩
  · rintro ⟨q, f, hq, rfl⟩
    exact ⟨q, f, hq, (Namespace.foldl_extend_root (Namespace.wellFormed_of_lookup h hq).1).symm⟩

/-- Whether a path is listed shows at its segments. -/
theorem dotted_mem_callablePaths (h : r.root.WellFormed) {q : List String}
    (hq : ∀ s ∈ q, IsName s) (hne : q ≠ []) :
    ".".intercalate q ∈ r.callablePaths ↔ ∃ f, r.lookup q = some (.function f) := by
  rw [mem_callablePaths h]
  constructor
  · rintro ⟨q', f, hq', heq⟩
    have hne' : q' ≠ [] := by
      rintro rfl
      simp [lookup] at hq'
    have hsame : q = q' := Text.dotted_inj hq (Namespace.wellFormed_of_lookup h hq').1 hne hne' heq
    exact ⟨f, hsame ▸ hq'⟩
  · rintro ⟨f, hf⟩
    exact ⟨q, f, hf, rfl⟩

end Registry

end MarkupActions
