import Mathlib.Data.List.Infix
import MarkupActions.Proofs.Registry.Tree

/-! Putting a leaf into a namespace tree. A leaf above a path is in the way, and then nothing
changes. Otherwise the leaf is at the path afterwards, nothing is below it, namespaces are above it,
and all other paths lead where they did. -/

namespace MarkupActions

variable {φ : Type}

/-- A path that is a beginning of another, and is not all of it. -/
def Above (p q : List String) : Prop := p <+: q ∧ p ≠ q

instance (p q : List String) : Decidable (Above p q) := inferInstanceAs (Decidable (_ ∧ _))

theorem not_above_nil (p : List String) : ¬ Above p [] :=
  fun h => h.2 (List.prefix_nil.mp h.1)

theorem above_cons {name m : String} {p q : List String} :
    Above (name :: p) (m :: q) ↔ name = m ∧ Above p q := by
  rw [Above, Above, List.cons_prefix_cons, Ne, List.cons.injEq]
  tauto

/-! ### Leaves -/

/-- What nothing lies below: a function or a plain value. -/
inductive Leaf (φ : Type) where
  | function (f : φ)
  | value (v : Json)

def Leaf.binding : Leaf φ → Binding φ
  | function f => .function f
  | value v => .value v

def Binding.leaf? : Binding φ → Option (Leaf φ)
  | .function f => some (.function f)
  | .scope _ => none
  | .value v => some (.value v)

@[simp] theorem Leaf.leaf?_binding (l : Leaf φ) : l.binding.leaf? = some l := by
  cases l <;> rfl

theorem Binding.eq_scope_or_binding (b : Binding φ) :
    (∃ members, b = .scope members) ∨ ∃ l : Leaf φ, b = l.binding := by
  cases b with
  | function f => exact .inr ⟨.function f, rfl⟩
  | scope members => exact .inl ⟨members, rfl⟩
  | value v => exact .inr ⟨.value v, rfl⟩

theorem Leaf.follow_binding_cons (l : Leaf φ) (name : String) (q : List String) :
    l.binding.follow (name :: q) = none := by
  cases l <;> rfl

/-! ### Walking to a leaf -/

namespace Namespace

/-- The members below a name, where it is bound to a namespace. -/
def within (ns : Namespace φ) (name : String) : Namespace φ :=
  match ns.get? name with
  | some (.scope members) => members
  | _ => nil

/-- A lookup that goes on below a name goes on among the members there. -/
theorem lookup_cons_within {q : List String} (hq : q ≠ []) (ns : Namespace φ) (name : String) :
    ns.lookup (name :: q) = (ns.within name).lookup q := by
  obtain ⟨m, q, rfl⟩ := List.exists_cons_of_ne_nil hq
  rw [lookup_cons, within]
  split
  next members h => rw [h, Option.bind_some, Binding.follow]
  next h =>
    rw [lookup_cons, get?, Option.bind_none]
    cases hget : ns.get? name with
    | none => rfl
    | some b =>
      obtain ⟨members, rfl⟩ | ⟨l, rfl⟩ := b.eq_scope_or_binding
      · exact absurd hget (h members)
      · rw [Option.bind_some, l.follow_binding_cons]

theorem lookup_insert_cons (name m : String) (b : Binding φ) (q : List String)
    (ns : Namespace φ) : (ns.insert name b).lookup (m :: q) =
      if name = m then b.follow q else ns.lookup (m :: q) := by
  rw [lookup_cons, get?_insert, lookup_cons]
  split <;> rfl

theorem insert_get? {ns : Namespace φ} {name : String} {b : Binding φ}
    (h : ns.get? name = some b) : ns.insert name b = ns := by
  cases ns with
  | nil => cases h
  | cons n c rest =>
    by_cases hn : n = name
    · rw [get?, if_pos hn, Option.some.injEq] at h
      rw [insert, if_pos hn, h]
    · rw [get?, if_neg hn] at h
      rw [insert, if_neg hn, insert_get? h]

/-- A walk that goes on below a name goes on among the members there, unless there is a leaf. -/
theorem bind_cons_cons {ns : Namespace φ} {name m : String} {rest : List String}
    (h : ∀ l : Leaf φ, ns.get? name ≠ some l.binding) (path : String) (leaf : Binding φ) :
    ns.bind path leaf (name :: m :: rest) =
      (((ns.within name).bind path leaf (m :: rest)).1,
        ns.insert name (.scope ((ns.within name).bind path leaf (m :: rest)).2)) := by
  simp only [bind, within]
  cases hget : ns.get? name with
  | none => rfl
  | some b =>
    obtain ⟨members, rfl⟩ | ⟨l, rfl⟩ := b.eq_scope_or_binding
    · rfl
    · exact absurd hget (h l)

theorem bind_cons_cons_of_leaf {ns : Namespace φ} {name m : String} {rest : List String}
    {l : Leaf φ} (h : ns.get? name = some l.binding) (path : String) (leaf : Binding φ) :
    ns.bind path leaf (name :: m :: rest) = (.error (.pathConflict path name), ns) := by
  simp only [bind, h]
  cases l <;> rfl

/-! ### Paths that a leaf blocks -/

/-- A leaf stands above a path. -/
def Blocks (ns : Namespace φ) (p : List String) : Prop :=
  ∃ (q : List String) (l : Leaf φ), Above q p ∧ ns.lookup q = some l.binding

/-- Below a name that is bound to no leaf, a path is blocked by a leaf below that name. -/
theorem blocks_cons {ns : Namespace φ} {name : String} {p : List String}
    (h : ∀ l : Leaf φ, ns.get? name ≠ some l.binding) :
    ns.Blocks (name :: p) ↔ (ns.within name).Blocks p := by
  constructor
  · rintro ⟨q, l, habove, hq⟩
    cases q with
    | nil => simp at hq
    | cons n q =>
      obtain ⟨rfl, hrest⟩ := above_cons.mp habove
      have hne : q ≠ [] := by
        rintro rfl
        exact h l hq
      exact ⟨q, l, hrest, by rwa [← lookup_cons_within hne]⟩
  · rintro ⟨q, l, habove, hq⟩
    have hne : q ≠ [] := by
      rintro rfl
      simp at hq
    exact ⟨name :: q, l, above_cons.mpr ⟨rfl, habove⟩, by rwa [lookup_cons_within hne]⟩

/-- Where no leaf is in the way, none is below the first name, and a walk goes on there. -/
theorem bind_cons_cons_of_not_blocks {ns : Namespace φ} {name m : String} {rest : List String}
    (h : ¬ ns.Blocks (name :: m :: rest)) :
    ¬ (ns.within name).Blocks (m :: rest) ∧ ∀ (path : String) (leaf : Binding φ),
      ns.bind path leaf (name :: m :: rest) =
        (((ns.within name).bind path leaf (m :: rest)).1,
          ns.insert name (.scope ((ns.within name).bind path leaf (m :: rest)).2)) := by
  have hno : ∀ l : Leaf φ, ns.get? name ≠ some l.binding := fun l hl =>
    h ⟨[name], l, above_cons.mpr ⟨rfl, List.nil_prefix, by simp⟩, hl⟩
  exact ⟨by rwa [← blocks_cons hno], bind_cons_cons hno⟩

theorem get?_of_lookup_cons {ns : Namespace φ} {name : String} {q : List String} {b : Binding φ}
    (hq : q ≠ []) (h : ns.lookup (name :: q) = some b) :
    ns.get? name = some (.scope (ns.within name)) := by
  obtain ⟨m, q, rfl⟩ := List.exists_cons_of_ne_nil hq
  rw [lookup_cons, Option.bind_eq_some_iff] at h
  obtain ⟨c, hc, hfollow⟩ := h
  obtain ⟨members, rfl⟩ | ⟨l, rfl⟩ := c.eq_scope_or_binding
  · rw [within, hc]
  · rw [l.follow_binding_cons] at hfollow
    cases hfollow

/-- A leaf that is in the way is named, and nothing changes. The namespaces that a walk makes come
into being below a name that is bound to nothing yet, and there no leaf can follow. -/
theorem bind_of_leaf {ns : Namespace φ} {q p : List String} {segment : String} {l : Leaf φ}
    (habove : Above (q ++ [segment]) p) (h : ns.lookup (q ++ [segment]) = some l.binding)
    (path : String) (leaf : Binding φ) :
    ns.bind path leaf p = (.error (.pathConflict path segment), ns) := by
  induction q generalizing ns p with
  | nil =>
    obtain ⟨⟨rest, rfl⟩, hne⟩ := habove
    cases rest with
    | nil => exact absurd (List.append_nil _).symm hne
    | cons m rest => exact bind_cons_cons_of_leaf h path leaf
  | cons name q ih =>
    cases p with
    | nil => exact absurd habove (not_above_nil _)
    | cons n p =>
      obtain ⟨rfl, hrest⟩ := above_cons.mp habove
      have hne : q ++ [segment] ≠ [] := by simp
      have hget := get?_of_lookup_cons hne h
      have hno (l : Leaf φ) : ns.get? name ≠ some l.binding := by
        rw [hget]
        cases l <;> simp [Leaf.binding]
      rw [List.cons_append, lookup_cons_within hne] at h
      cases p with
      | nil => exact absurd hrest (not_above_nil _)
      | cons m p => rw [bind_cons_cons hno, ih hrest h, insert_get? hget]

theorem bind_of_blocks {ns : Namespace φ} {p : List String} (h : ns.Blocks p) (path : String)
    (leaf : Binding φ) :
    ∃ segment, ns.bind path leaf p = (.error (.pathConflict path segment), ns) := by
  obtain ⟨q, l, habove, hq⟩ := h
  obtain rfl | ⟨q, segment, rfl⟩ := q.eq_nil_or_concat'
  · simp at hq
  · exact ⟨segment, bind_of_leaf habove hq path leaf⟩

/-! ### Paths that a leaf is put at -/

/-- A namespace after a leaf was put at a path: the leaf is there, nothing is below it, namespaces
are above it, and all else is as before. -/
structure Placed (ns : Namespace φ) (p : List String) (l : Leaf φ) (after : Namespace φ) : Prop where
  self : after.lookup p = some l.binding
  below : ∀ q, Above p q → after.lookup q = none
  above : ∀ q, Above q p → q ≠ [] → ∃ members, after.lookup q = some (.scope members)
  apart : ∀ q, ¬ p <+: q → ¬ q <+: p → after.lookup q = ns.lookup q

theorem placed_insert (ns : Namespace φ) (name : String) (l : Leaf φ) :
    ns.Placed [name] l (ns.insert name l.binding) where
  self := by rw [lookup_insert_cons, if_pos rfl, Binding.follow]
  below := by
    intro q hq
    cases q with
    | nil => exact absurd hq (not_above_nil _)
    | cons m q =>
      obtain ⟨rfl, hrest⟩ := above_cons.mp hq
      obtain ⟨n, q, rfl⟩ := List.exists_cons_of_ne_nil (Ne.symm hrest.2)
      rw [lookup_insert_cons, if_pos rfl, l.follow_binding_cons]
  above := by
    intro q hq hne
    obtain ⟨m, q, rfl⟩ := List.exists_cons_of_ne_nil hne
    exact absurd (above_cons.mp hq).2 (not_above_nil q)
  apart := by
    intro q hq _
    cases q with
    | nil => rfl
    | cons m q =>
      have hname : name ≠ m := by
        rintro rfl
        exact hq (by simp)
      rw [lookup_insert_cons, if_neg hname]

theorem Placed.insert_scope {ns inner : Namespace φ} {name : String} {p : List String} {l : Leaf φ}
    (h : (ns.within name).Placed p l inner) (hp : p ≠ []) :
    ns.Placed (name :: p) l (ns.insert name (.scope inner)) := by
  have hfollow {q : List String} (hq : q ≠ []) :
      (ns.insert name (.scope inner)).lookup (name :: q) = inner.lookup q := by
    obtain ⟨m, q, rfl⟩ := List.exists_cons_of_ne_nil hq
    rw [lookup_insert_cons, if_pos rfl, Binding.follow]
  constructor
  case self => rw [hfollow hp, h.self]
  case below =>
    intro q hq
    cases q with
    | nil => rfl
    | cons m q =>
      obtain ⟨rfl, hrest⟩ := above_cons.mp hq
      have hne : q ≠ [] := by
        rintro rfl
        exact not_above_nil p hrest
      rw [hfollow hne, h.below q hrest]
  case above =>
    intro q hq hne
    obtain ⟨m, q, rfl⟩ := List.exists_cons_of_ne_nil hne
    obtain ⟨rfl, hrest⟩ := above_cons.mp hq
    by_cases hq' : q = []
    · exact ⟨inner, by rw [hq', lookup_insert_cons, if_pos rfl, Binding.follow]⟩
    · rw [hfollow hq']
      exact h.above q hrest hq'
  case apart =>
    intro q hbelow habove
    cases q with
    | nil => rfl
    | cons m q =>
      by_cases hname : name = m
      · subst hname
        rw [List.cons_prefix_cons] at hbelow habove
        have hne : q ≠ [] := by
          rintro rfl
          exact habove ⟨rfl, List.nil_prefix⟩
        rw [hfollow hne, lookup_cons_within hne]
        exact h.apart q (fun hq => hbelow ⟨rfl, hq⟩) fun hq => habove ⟨rfl, hq⟩
      · rw [lookup_insert_cons, if_neg hname]

/-- Where no leaf is in the way, a leaf is put at the path. -/
theorem bind_of_not_blocks {ns : Namespace φ} {p : List String} (hp : p ≠ []) (h : ¬ ns.Blocks p)
    (path : String) (l : Leaf φ) :
    (ns.bind path l.binding p).1 = .ok () ∧ ns.Placed p l (ns.bind path l.binding p).2 := by
  induction p generalizing ns with
  | nil => exact absurd rfl hp
  | cons name p ih =>
    cases p with
    | nil => exact ⟨rfl, placed_insert ns name l⟩
    | cons m rest =>
      obtain ⟨hfree, hbind⟩ := bind_cons_cons_of_not_blocks h
      obtain ⟨hok, hplaced⟩ := ih (by simp) hfree
      rw [hbind]
      exact ⟨hok, hplaced.insert_scope (by simp)⟩

end Namespace

end MarkupActions
