import MarkupActions.Proofs.Text.Dotted
import MarkupActions.Registry.Basic

/-! The namespace tree. In every registry that is made by registering functions and values, the
members of a namespace have different names, no name is empty or holds a dot, and no namespace
below the root is empty. -/

namespace MarkupActions

open Text (IsName)

variable {φ : Type}

/-! ### Walking -/

/-- What further segments lead to from a binding. -/
def Binding.follow : Binding φ → List String → Option (Binding φ)
  | b, [] => some b
  | .scope members, name :: q => members.lookup (name :: q)
  | .function _, _ :: _ | .value _, _ :: _ => none

namespace Namespace

@[simp] theorem lookup_nil (ns : Namespace φ) : ns.lookup [] = none := rfl

theorem lookup_cons (name : String) (q : List String) (ns : Namespace φ) :
    ns.lookup (name :: q) = (ns.get? name).bind (·.follow q) := by
  cases q with
  | nil => cases h : ns.get? name <;> simp [lookup, h, Binding.follow]
  | cons m q =>
    simp only [lookup]
    cases h : ns.get? name with
    | none => rfl
    | some b => cases b <;> rfl

theorem get?_insert (name m : String) (b : Binding φ) (ns : Namespace φ) :
    (ns.insert name b).get? m = if name = m then some b else ns.get? m := by
  cases ns with
  | nil => simp [insert, get?]
  | cons n c rest =>
    have ih := get?_insert name m b rest
    by_cases hn : n = name
    · subst hn
      by_cases hm : n = m <;> simp [insert, get?, hm]
    · rw [insert, if_neg hn, get?, get?, ih]
      by_cases hnm : n = m
      · rw [if_pos hnm, if_pos hnm, if_neg fun h => hn (hnm.trans h.symm)]
      · rw [if_neg hnm, if_neg hnm]

theorem insert_ne_nil (name : String) (b : Binding φ) (ns : Namespace φ) :
    ns.insert name b ≠ nil := by
  cases ns with
  | nil => simp [insert]
  | cons n c rest => by_cases hn : n = name <;> simp [insert, hn]

end Namespace

/-! ### Well-formed trees -/

mutual

/-- A namespace that a name is bound to has a member. -/
def Binding.WellFormed : Binding φ → Prop
  | .scope members => members ≠ .nil ∧ members.WellFormed
  | .function _ | .value _ => True

/-- Members have different names, which are not empty and hold no dots. -/
def Namespace.WellFormed : Namespace φ → Prop
  | .nil => True
  | .cons name b rest => IsName name ∧ rest.get? name = none ∧ b.WellFormed ∧ rest.WellFormed

end

namespace Namespace

theorem wellFormed_of_get? {ns : Namespace φ} {name : String} {b : Binding φ} (h : ns.WellFormed)
    (hb : ns.get? name = some b) : IsName name ∧ b.WellFormed := by
  cases ns with
  | nil => simp [get?] at hb
  | cons n c rest =>
    obtain ⟨hn, -, hc, hrest⟩ := h
    by_cases hname : n = name
    · rw [get?, if_pos hname, Option.some.injEq] at hb
      exact ⟨hname ▸ hn, hb ▸ hc⟩
    · rw [get?, if_neg hname] at hb
      exact wellFormed_of_get? hrest hb

theorem wellFormed_insert {ns : Namespace φ} {name : String} {b : Binding φ} (h : ns.WellFormed)
    (hname : IsName name) (hb : b.WellFormed) : (ns.insert name b).WellFormed := by
  cases ns with
  | nil => exact ⟨hname, rfl, hb, trivial⟩
  | cons n c rest =>
    obtain ⟨hn, hfresh, hc, hrest⟩ := h
    by_cases hnn : n = name
    · rw [insert, if_pos hnn]
      exact ⟨hn, hfresh, hb, hrest⟩
    · rw [insert, if_neg hnn]
      refine ⟨hn, ?_, hc, wellFormed_insert hrest hname hb⟩
      rw [get?_insert, if_neg (Ne.symm hnn), hfresh]

/-- A walk to a leaf leaves no namespace empty, also when it fails on the way. -/
theorem bind_ne_nil (path name : String) (rest : List String) (leaf : Binding φ)
    (ns : Namespace φ) : (ns.bind path leaf (name :: rest)).2 ≠ nil := by
  cases rest with
  | nil => exact insert_ne_nil name leaf ns
  | cons m rest =>
    simp only [bind]
    cases hget : ns.get? name with
    | none => exact insert_ne_nil name _ ns
    | some b =>
      have hne : ns ≠ nil := by
        rintro rfl
        simp [get?] at hget
      cases b with
      | scope inner => exact insert_ne_nil name _ ns
      | function f => exact hne
      | value v => exact hne

/-- Binding a leaf keeps a tree well formed, also when it fails on the way. -/
theorem wellFormed_bind {ns : Namespace φ} {leaf : Binding φ} (hleaf : leaf.WellFormed)
    (path : String) {q : List String} (hq : ∀ s ∈ q, IsName s) (h : ns.WellFormed) :
    (ns.bind path leaf q).2.WellFormed := by
  induction q generalizing ns with
  | nil => exact h
  | cons name rest ih =>
    have hname : IsName name := hq name (by simp)
    have hrest : ∀ s ∈ rest, IsName s := fun s hs => hq s (by simp [hs])
    cases rest with
    | nil => exact wellFormed_insert h hname hleaf
    | cons m rest =>
      have hscope {inner : Namespace φ} (hinner : inner.WellFormed) :
          (Binding.scope (inner.bind path leaf (m :: rest)).2).WellFormed :=
        ⟨bind_ne_nil path m rest leaf inner, ih hrest hinner⟩
      simp only [bind]
      cases hget : ns.get? name with
      | none => exact wellFormed_insert h hname (hscope trivial)
      | some b =>
        cases b with
        | scope inner =>
          exact wellFormed_insert h hname (hscope (wellFormed_of_get? h hget).2.2)
        | function f => exact h
        | value v => exact h

/-- What is found in a well-formed tree is found under names. -/
theorem wellFormed_of_lookup {ns : Namespace φ} {q : List String} {b : Binding φ}
    (h : ns.WellFormed) (hb : ns.lookup q = some b) : (∀ s ∈ q, IsName s) ∧ b.WellFormed := by
  induction q generalizing ns b with
  | nil => simp at hb
  | cons name q ih =>
    rw [lookup_cons, Option.bind_eq_some_iff] at hb
    obtain ⟨c, hc, hfollow⟩ := hb
    obtain ⟨hname, hcw⟩ := wellFormed_of_get? h hc
    cases q with
    | nil =>
      rw [Binding.follow, Option.some.injEq] at hfollow
      exact ⟨by simpa using hname, hfollow ▸ hcw⟩
    | cons m q =>
      cases c with
      | scope members =>
        obtain ⟨hq, hbw⟩ := ih hcw.2 hfollow
        exact ⟨by simpa using ⟨hname, by simpa using hq⟩, hbw⟩
      | function f => simp [Binding.follow] at hfollow
      | value v => simp [Binding.follow] at hfollow

end Namespace

/-! ### Registries -/

/-- One request to a registry: a function or a plain value under a dotted path. -/
inductive Registration (φ : Type) where
  | function (path : String) (f : φ)
  | value (path : String) (v : Json)

namespace Registry

/-- The registry after a request, whether it succeeds or fails. -/
def perform (r : Registry φ) : Registration φ → Registry φ
  | .function path f => (r.register path f).2
  | .value path v => (r.defineValue path v).2

/-- The registry that some requests make of an empty one. -/
def ofRequests (requests : List (Registration φ)) : Registry φ := requests.foldl perform {}

theorem isName_of_mem_segments {path s : String} (h : s ∈ segments path) : IsName s := by
  obtain ⟨p, hp, rfl⟩ := List.mem_map.mp h
  obtain ⟨hsplit, hne⟩ := List.mem_filter.mp hp
  exact Text.isName_of_mem_splitOn hsplit (by simpa using hne)

theorem wellFormed_perform {r : Registry φ} (h : r.root.WellFormed) (request : Registration φ) :
    (r.perform request).root.WellFormed := by
  have hbind (path : String) {leaf : Binding φ} (hleaf : leaf.WellFormed) :
      (r.bind path leaf).2.root.WellFormed :=
    Namespace.wellFormed_bind hleaf path (fun _ => isName_of_mem_segments) h
  cases request with
  | function path f => exact hbind path (by simp [Binding.WellFormed])
  | value path v => exact hbind path (by simp [Binding.WellFormed])

/-- Every registry that can be made is well formed. -/
theorem wellFormed_ofRequests (requests : List (Registration φ)) :
    (ofRequests requests).root.WellFormed := by
  have hfold (r : Registry φ) (h : r.root.WellFormed) :
      (requests.foldl perform r).root.WellFormed := by
    induction requests generalizing r with
    | nil => exact h
    | cons request requests ih => exact ih _ (wellFormed_perform h request)
  exact hfold {} trivial

end Registry

end MarkupActions
