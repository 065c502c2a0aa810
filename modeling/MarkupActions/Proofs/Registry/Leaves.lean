import Mathlib.Data.Set.Finite.Basic
import MarkupActions.Proofs.Registry.Place

/-! The namespace tree as a flat map. A registry stands for a finite map from paths to leaves in
which no path goes on below another. A request is refused where a leaf is above its path; otherwise
it takes away what is below the path and puts its leaf there. A lookup finds the leaf at a path, a
namespace above one, and nothing elsewhere. -/

namespace MarkupActions

open Text (IsName)

variable {φ : Type}

/-- A path that something can be bound at: names, one at least. -/
def IsPath (q : List String) : Prop := q ≠ [] ∧ ∀ s ∈ q, IsName s

/-! ### Flat maps -/

/-- A finite map from paths to leaves, in which no path is the beginning of another. -/
structure LeafMap (φ : Type) where
  leaf? : List String → Option (Leaf φ)
  finite : {q | (leaf? q).isSome = true}.Finite
  isPath : ∀ q, (leaf? q).isSome = true → IsPath q
  prefixFree : ∀ p q, (leaf? p).isSome = true → (leaf? q).isSome = true → p <+: q → p = q

namespace LeafMap

/-- A path that has a leaf. -/
def IsKey (m : LeafMap φ) (q : List String) : Prop := (m.leaf? q).isSome = true

/-- A leaf stands above a path. -/
def Blocks (m : LeafMap φ) (p : List String) : Prop := ∃ q, m.IsKey q ∧ Above q p

instance (m : LeafMap φ) (p : List String) : Decidable (m.Blocks p) :=
  decidable_of_iff (∃ q ∈ p.inits, (m.leaf? q).isSome = true ∧ q ≠ p) <| by
    simp only [List.mem_inits, Blocks, IsKey, Above]
    exact exists_congr fun q => by tauto

def empty : LeafMap φ where
  leaf? _ := none
  finite := by simp
  isPath := by simp
  prefixFree := by simp

/-- What is at a path once a leaf was put at another. -/
def putAt (leaf? : List String → Option (Leaf φ)) (p : List String) (l : Leaf φ) (q : List String) :
    Option (Leaf φ) :=
  if q = p then some l else if Above p q then none else leaf? q

theorem isSome_putAt {leaf? : List String → Option (Leaf φ)} {p q : List String} {l : Leaf φ} :
    (putAt leaf? p l q).isSome = true ↔ q = p ∨ ¬ Above p q ∧ (leaf? q).isSome = true := by
  unfold putAt
  by_cases hqp : q = p
  · simp [hqp]
  · by_cases habove : Above p q <;> simp [hqp, habove]

/-- Puts a leaf at a path and takes away what is below it. -/
def put (m : LeafMap φ) (p : List String) (l : Leaf φ) (hp : IsPath p) (h : ¬ m.Blocks p) :
    LeafMap φ where
  leaf? := putAt m.leaf? p l
  finite := (m.finite.insert p).subset fun _ hq => (isSome_putAt.mp hq).imp_right And.right
  isPath := by
    intro q hq
    obtain rfl | ⟨-, hkey⟩ := isSome_putAt.mp hq
    · exact hp
    · exact m.isPath q hkey
  prefixFree := by
    intro q r hq hr hle
    obtain rfl | ⟨hq, hqkey⟩ := isSome_putAt.mp hq
    · obtain rfl | ⟨hr, -⟩ := isSome_putAt.mp hr
      · rfl
      · by_contra hne
        exact hr ⟨hle, hne⟩
    · obtain rfl | ⟨-, hrkey⟩ := isSome_putAt.mp hr
      · by_contra hne
        exact h ⟨q, hqkey, hle, hne⟩
      · exact m.prefixFree q r hqkey hrkey hle

end LeafMap

/-! ### Requests -/

namespace Registration

def path : Registration φ → String
  | function path _ | value path _ => path

def leaf : Registration φ → Leaf φ
  | function _ f => .function f
  | value _ v => .value v

/-- The path of a request in names. -/
def segments (request : Registration φ) : List String := Registry.segments request.path

end Registration

namespace LeafMap

/-- The map after a request. It is refused without a name in its path, or with a leaf above it. -/
def perform (m : LeafMap φ) (request : Registration φ) : LeafMap φ :=
  if h : request.segments ≠ [] ∧ ¬ m.Blocks request.segments then
    m.put request.segments request.leaf ⟨h.1, fun _ => Registry.isName_of_mem_segments⟩ h.2
  else m

theorem leaf?_perform {m : LeafMap φ} {request : Registration φ}
    (h : request.segments ≠ [] ∧ ¬ m.Blocks request.segments) :
    (m.perform request).leaf? = putAt m.leaf? request.segments request.leaf := by
  rw [perform, dif_pos h]
  rfl

theorem perform_of_refused {m : LeafMap φ} {request : Registration φ}
    (h : ¬ (request.segments ≠ [] ∧ ¬ m.Blocks request.segments)) : m.perform request = m :=
  dif_neg h

/-- The map that some requests make of an empty one. -/
def ofRequests (requests : List (Registration φ)) : LeafMap φ := requests.foldl perform empty

end LeafMap

namespace Registry

/-- How a request is answered. -/
def answer (r : Registry φ) (request : Registration φ) : Except RegistryError Unit :=
  (r.bind request.path request.leaf.binding).1

theorem root_perform (r : Registry φ) (request : Registration φ) :
    (r.perform request).root =
      (r.root.bind request.path request.leaf.binding request.segments).2 := by
  cases request <;> rfl

/-! ### A registry and its map -/

/-- A registry has its leaves where the map has them. -/
def HasLeaves (r : Registry φ) (m : LeafMap φ) : Prop :=
  ∀ q, (r.lookup q).bind Binding.leaf? = m.leaf? q

section HasLeaves

variable {r : Registry φ} {m : LeafMap φ} {q : List String}

theorem HasLeaves.leaf_iff (h : r.HasLeaves m) {l : Leaf φ} :
    m.leaf? q = some l ↔ r.lookup q = some l.binding := by
  rw [← h q, Option.bind_eq_some_iff]
  constructor
  · rintro ⟨b, hb, hl⟩
    obtain ⟨members, rfl⟩ | ⟨k, rfl⟩ := b.eq_scope_or_binding
    · cases hl
    · rw [k.leaf?_binding, Option.some.injEq] at hl
      rw [hb, hl]
  · exact fun hq => ⟨l.binding, hq, l.leaf?_binding⟩

theorem HasLeaves.isKey_iff (h : r.HasLeaves m) :
    m.IsKey q ↔ ∃ l : Leaf φ, r.lookup q = some l.binding := by
  rw [LeafMap.IsKey, Option.isSome_iff_exists]
  exact exists_congr fun l => h.leaf_iff

theorem HasLeaves.blocks_iff (h : r.HasLeaves m) : m.Blocks q ↔ r.root.Blocks q := by
  constructor
  · rintro ⟨p, hp, habove⟩
    obtain ⟨l, hl⟩ := h.isKey_iff.mp hp
    exact ⟨p, l, habove, hl⟩
  · rintro ⟨p, l, habove, hl⟩
    exact ⟨p, h.isKey_iff.mpr ⟨l, hl⟩, habove⟩

end HasLeaves

/-- A request succeeds where the map lets it, and the map stays that of the registry. -/
theorem HasLeaves.perform {r : Registry φ} {m : LeafMap φ} (h : r.HasLeaves m)
    (request : Registration φ) :
    (r.answer request = .ok () ↔ request.segments ≠ [] ∧ ¬ m.Blocks request.segments) ∧
      (r.perform request).HasLeaves (m.perform request) := by
  by_cases hfits : request.segments ≠ [] ∧ ¬ m.Blocks request.segments
  · have hfree : ¬ r.root.Blocks request.segments := by rw [← h.blocks_iff]; exact hfits.2
    obtain ⟨hok, hplaced⟩ :=
      Namespace.bind_of_not_blocks hfits.1 hfree request.path request.leaf
    rw [← root_perform] at hplaced
    refine ⟨iff_of_true hok hfits, fun q => ?_⟩
    rw [LeafMap.leaf?_perform hfits, LeafMap.putAt, lookup]
    by_cases hself : q = request.segments
    · rw [if_pos hself, hself, hplaced.self, Option.bind_some, Leaf.leaf?_binding]
    rw [if_neg hself]
    by_cases hbelow : Above request.segments q
    · rw [if_pos hbelow, hplaced.below q hbelow, Option.bind_none]
    rw [if_neg hbelow]
    have hnot : ¬ request.segments <+: q := fun hle => hbelow ⟨hle, Ne.symm hself⟩
    by_cases hle : q <+: request.segments
    · -- above the new leaf there was none before, and now there are namespaces
      have hnone : m.leaf? q = none := by
        rw [← Option.not_isSome_iff_eq_none]
        exact fun hkey => hfits.2 ⟨q, hkey, hle, hself⟩
      rw [hnone]
      by_cases hq : q = []
      · rw [hq, Namespace.lookup_nil, Option.bind_none]
      · obtain ⟨members, hmembers⟩ := hplaced.above q ⟨hle, hself⟩ hq
        rw [hmembers, Option.bind_some, Binding.leaf?]
    · rw [hplaced.apart q hnot hle]
      exact h q
  · have hsame : (r.answer request ≠ .ok ()) ∧ (r.perform request).root = r.root := by
      rw [answer, bind, root_perform, Registration.segments]
      by_cases hempty : request.segments = []
      · rw [Registration.segments] at hempty
        rw [hempty]
        exact ⟨by simp [Namespace.bind], rfl⟩
      · have hblocks : r.root.Blocks request.segments := by
          rw [← h.blocks_iff]
          tauto
        obtain ⟨segment, hsegment⟩ :=
          Namespace.bind_of_blocks hblocks request.path request.leaf.binding
        rw [Registration.segments] at hsegment
        rw [hsegment]
        exact ⟨by simp, rfl⟩
    refine ⟨iff_of_false hsame.1 hfits, fun q => ?_⟩
    rw [LeafMap.perform_of_refused hfits, lookup, hsame.2]
    exact h q

/-- A request changes nothing but what is above and below its path. -/
theorem lookup_perform_of_apart (r : Registry φ) (request : Registration φ) {q : List String}
    (hbelow : ¬ request.segments <+: q) (habove : ¬ q <+: request.segments) :
    (r.perform request).lookup q = r.lookup q := by
  have hne : request.segments ≠ [] := by
    intro hnil
    exact hbelow (hnil ▸ List.nil_prefix)
  rw [lookup, root_perform]
  by_cases hblocks : r.root.Blocks request.segments
  · obtain ⟨segment, hsegment⟩ :=
      Namespace.bind_of_blocks hblocks request.path request.leaf.binding
    rw [hsegment]
    rfl
  · exact (Namespace.bind_of_not_blocks hne hblocks request.path request.leaf).2.apart q
      hbelow habove

theorem hasLeaves_ofRequests (requests : List (Registration φ)) :
    (ofRequests requests).HasLeaves (.ofRequests requests) := by
  have hfold (r : Registry φ) (m : LeafMap φ) (h : r.HasLeaves m) :
      (requests.foldl Registry.perform r).HasLeaves (requests.foldl LeafMap.perform m) := by
    induction requests generalizing r m with
    | nil => exact h
    | cons request requests ih => exact ih _ _ (h.perform request).2
  refine hfold {} .empty fun q => ?_
  cases q <;> simp [lookup, Namespace.lookup_cons, Namespace.get?, LeafMap.empty]

end Registry

/-! ### Namespaces stand above leaves -/

namespace Namespace

theorem follow_append {b : Binding φ} {p q : List String} (hp : p ≠ []) :
    b.follow (p ++ q) = (b.follow p).bind (·.follow q) := by
  induction p generalizing b with
  | nil => exact absurd rfl hp
  | cons name p ih =>
    cases b with
    | function f => rfl
    | value v => rfl
    | scope members =>
      rw [List.cons_append, Binding.follow, Binding.follow, lookup_cons, lookup_cons,
        Option.bind_assoc]
      congr 1
      funext c
      by_cases hnil : p = []
      · rw [hnil, List.nil_append, Binding.follow, Option.bind_some]
      · exact ih hnil

theorem lookup_append {ns : Namespace φ} {p q : List String} (hp : p ≠ []) :
    ns.lookup (p ++ q) = (ns.lookup p).bind (·.follow q) := by
  obtain ⟨name, p, rfl⟩ := List.exists_cons_of_ne_nil hp
  exact follow_append (b := .scope ns) hp

/-- A well-formed namespace that has a member has a leaf somewhere below. -/
theorem exists_leaf {ns : Namespace φ} (h : ns.WellFormed) (hne : ns ≠ nil) :
    ∃ (q : List String) (l : Leaf φ), ns.lookup q = some l.binding := by
  match ns with
  | .nil => exact absurd rfl hne
  | .cons name b rest =>
    have hget : (cons name b rest).get? name = some b := by rw [get?, if_pos rfl]
    match b with
    | .function f => exact ⟨[name], .function f, hget⟩
    | .value v => exact ⟨[name], .value v, hget⟩
    | .scope members =>
      obtain ⟨q, l, hq⟩ := exists_leaf h.2.2.1.2 h.2.2.1.1
      have hne : q ≠ [] := by
        rintro rfl
        simp at hq
      refine ⟨name :: q, l, ?_⟩
      rw [lookup_cons_within hne, within, hget]
      exact hq

end Namespace

namespace Registry

section Scope

variable {r : Registry φ} {q rest : List String} {l : Leaf φ}

theorem lookup_append_of_leaf (h : r.lookup q = some l.binding) (hrest : rest ≠ []) :
    r.lookup (q ++ rest) = none := by
  have hq : q ≠ [] := by
    rintro rfl
    simp [lookup] at h
  obtain ⟨name, rest, rfl⟩ := List.exists_cons_of_ne_nil hrest
  rw [lookup] at h ⊢
  rw [Namespace.lookup_append hq, h, Option.bind_some, l.follow_binding_cons]

/-- Whatever a leaf stands below is a namespace. -/
theorem exists_scope_of_above (hq : q ≠ []) {k : List String} (habove : Above q k)
    (h : r.lookup k = some l.binding) : ∃ members, r.lookup q = some (.scope members) := by
  obtain ⟨⟨rest, rfl⟩, hne⟩ := habove
  cases hb : r.lookup q with
  | none =>
    rw [lookup] at h hb
    simp [Namespace.lookup_append hq, hb] at h
  | some b =>
    obtain ⟨members, rfl⟩ | ⟨l', rfl⟩ := b.eq_scope_or_binding
    · exact ⟨members, rfl⟩
    · have hrest : rest ≠ [] := by
        rintro rfl
        exact hne (List.append_nil q).symm
      rw [lookup_append_of_leaf hb hrest] at h
      cases h

/-- A namespace in a well-formed registry has a leaf below it. -/
theorem exists_leaf_below (hr : r.root.WellFormed) {members : Namespace φ}
    (h : r.lookup q = some (.scope members)) :
    ∃ (k : List String) (l : Leaf φ), Above q k ∧ r.lookup k = some l.binding := by
  have hq : q ≠ [] := by
    rintro rfl
    simp [lookup] at h
  obtain ⟨hne, hmembers⟩ := (Namespace.wellFormed_of_lookup hr h).2
  obtain ⟨rest, l, hl⟩ := Namespace.exists_leaf hmembers hne
  obtain ⟨name, rest, rfl⟩ : ∃ name rest', rest = name :: rest' := by
    refine List.exists_cons_of_ne_nil ?_
    rintro rfl
    simp at hl
  refine ⟨q ++ name :: rest, l, ⟨List.prefix_append _ _, by simp⟩, ?_⟩
  rw [lookup] at h ⊢
  rw [Namespace.lookup_append hq, h, Option.bind_some, Binding.follow, hl]

end Scope

/-- After any requests a registry answers lookups as its flat map of leaves tells: with the leaf at
a path, with a namespace above a leaf, and with nothing elsewhere. So no namespace is empty, nothing
lies below a leaf, and a request succeeds exactly where the map lets it and changes nothing but what
is above and below its own path. -/
theorem lookup_refines_leaves (requests : List (Registration φ)) :
    let r := ofRequests requests
    let m := LeafMap.ofRequests requests
    r.lookup [] = none ∧
    (∀ q ≠ [],
      (∀ l, m.leaf? q = some l → r.lookup q = some l.binding) ∧
      ((∃ k, m.IsKey k ∧ Above q k) → ∃ members, r.lookup q = some (.scope members)) ∧
      (¬ m.IsKey q → (¬ ∃ k, m.IsKey k ∧ Above q k) → r.lookup q = none)) ∧
    (∀ q members, r.lookup q = some (.scope members) → members ≠ .nil) ∧
    (∀ (q rest : List String) (l : Leaf φ), r.lookup q = some l.binding → rest ≠ [] →
      r.lookup (q ++ rest) = none) ∧
    ∀ request : Registration φ,
      (r.answer request = .ok () ↔ request.segments ≠ [] ∧ ¬ m.Blocks request.segments) ∧
      ∀ q, ¬ request.segments <+: q → ¬ q <+: request.segments →
        (r.perform request).lookup q = r.lookup q := by
  intro r m
  have hr : r.root.WellFormed := wellFormed_ofRequests requests
  have hm : r.HasLeaves m := hasLeaves_ofRequests requests
  refine ⟨rfl, fun q hq => ⟨fun l => hm.leaf_iff.mp, ?_, ?_⟩, ?_, ?_, fun request => ⟨?_, ?_⟩⟩
  · rintro ⟨k, hkey, habove⟩
    obtain ⟨l, hl⟩ := hm.isKey_iff.mp hkey
    exact exists_scope_of_above hq habove hl
  · intro hkey hnone
    cases hb : r.lookup q with
    | none => rfl
    | some b =>
      exfalso
      obtain ⟨members, rfl⟩ | ⟨l, rfl⟩ := b.eq_scope_or_binding
      · obtain ⟨k, l, habove, hl⟩ := exists_leaf_below hr hb
        exact hnone ⟨k, hm.isKey_iff.mpr ⟨l, hl⟩, habove⟩
      · exact hkey (hm.isKey_iff.mpr ⟨l, hb⟩)
  · intro q members h
    exact (Namespace.wellFormed_of_lookup hr h).2.1
  · intro q rest l h hrest
    exact lookup_append_of_leaf h hrest
  · exact (hm.perform request).1
  · exact fun q => lookup_perform_of_apart r request

end Registry

end MarkupActions
