import Mathlib.Data.Set.Card
import MarkupActions.Proofs.Registry.Callables

/-! The functions of a registry, one by one. Below one path, different names lead to different
dotted paths, so no two functions are listed under one text. The list is therefore as long as there
are functions in the tree, and each text in it leads back to its function. -/

namespace MarkupActions

open Text (IsName)

variable {φ : Type}

/-! ### Counting -/

mutual

/-- The number of functions at and below a binding. -/
def Binding.functionCount : Binding φ → Nat
  | .function _ => 1
  | .scope members => members.functionCount
  | .value _ => 0

/-- The number of functions in a namespace, at any depth. -/
def Namespace.functionCount : Namespace φ → Nat
  | .nil => 0
  | .cons _ b rest => b.functionCount + rest.functionCount

end

mutual

theorem Binding.length_callables (path : String) (b : Binding φ) :
    (b.callables path).length = b.functionCount := by
  cases b with
  | function f => rfl
  | scope members => exact Namespace.length_callables path members
  | value v => rfl

/-- A path is listed for each function of the tree. -/
theorem Namespace.length_callables (path : String) (ns : Namespace φ) :
    (ns.callables path).length = ns.functionCount := by
  cases ns with
  | nil => rfl
  | cons name b rest =>
    rw [Namespace.callables, List.length_append, Binding.length_callables,
      Namespace.length_callables, Namespace.functionCount]

end

/-! ### Paths told apart -/

namespace Namespace

/-- Different names below a path make different dotted paths, whatever the path is. -/
theorem foldl_extend_inj {path : String} {p q : List String} (hp : ∀ s ∈ p, IsName s)
    (hq : ∀ s ∈ q, IsName s) (hp' : p ≠ []) (hq' : q ≠ [])
    (h : p.foldl extend path = q.foldl extend path) : p = q := by
  by_cases hpath : path = ""
  · rw [hpath, foldl_extend_root hp, foldl_extend_root hq] at h
    exact Text.dotted_inj hp hq hp' hq' h
  · -- the path itself may hold dots, so it is taken off before the names are told apart
    rw [foldl_extend hpath, foldl_extend hpath, String.intercalate_cons_of_ne_nil hp',
      String.intercalate_cons_of_ne_nil hq', String.append_right_inj] at h
    exact Text.dotted_inj hp hq hp' hq' h

theorem lookup_cons_self (name : String) (b : Binding φ) (rest : Namespace φ) (q : List String) :
    (cons name b rest).lookup (name :: q) = b.follow q := by
  rw [lookup_cons, get?, if_pos rfl, Option.bind_some]

end Namespace

mutual

theorem Binding.nodup_callables {path : String} (b : Binding φ) (h : b.WellFormed) :
    (b.callables path).Nodup := by
  cases b with
  | function f => exact List.nodup_singleton path
  | scope members => exact Namespace.nodup_callables members h.2
  | value v => exact List.nodup_nil

/-- No two functions of a well-formed tree are listed under one path. -/
theorem Namespace.nodup_callables {path : String} (ns : Namespace φ) (h : ns.WellFormed) :
    (ns.callables path).Nodup := by
  cases ns with
  | nil => exact List.nodup_nil
  | cons name b rest =>
    have hns := h
    obtain ⟨-, hfresh, hb, hrest⟩ := h
    rw [Namespace.callables, List.nodup_append]
    refine ⟨Binding.nodup_callables b hb, Namespace.nodup_callables rest hrest, ?_⟩
    rintro _ hfirst _ hother rfl
    obtain ⟨q, f, hq, heq⟩ := (Binding.mem_callables b hb).mp hfirst
    obtain ⟨q', f', hq', heq'⟩ := (Namespace.mem_callables rest hrest).mp hother
    have hne : q' ≠ [] := by
      rintro rfl
      simp at hq'
    -- one path under two different first names cannot be
    have hlookup : (Namespace.cons name b rest).lookup (name :: q) = some (.function f) := by
      rw [Namespace.lookup_cons_self, hq]
    have hsame : name :: q = q' :=
      Namespace.foldl_extend_inj (Namespace.wellFormed_of_lookup hns hlookup).1
        (Namespace.wellFormed_of_lookup hrest hq').1 (by simp) hne (heq.symm.trans heq')
    rw [← hsame, Namespace.lookup_cons, hfresh] at hq'
    cases hq'

end

/-! ### The list -/

namespace Registry

/-- The names that a dotted text has between its dots. -/
def dottedNames (p : String) : List String := (Text.splitOn '.' p.toList).map String.ofList

theorem dottedNames_intercalate {q : List String} (hq : ∀ s ∈ q, IsName s) (hne : q ≠ []) :
    dottedNames (".".intercalate q) = q := by
  rw [dottedNames, Text.splitOn_dotted hq hne, List.map_map]
  simp

/-- A function stands at the end of a list of segments. -/
def HasFunction (r : Registry φ) (q : List String) : Prop := ∃ f, r.lookup q = some (.function f)

variable {r : Registry φ}

theorem mem_callablePaths_iff {p : String} : p ∈ r.callablePaths ↔ p ∈ r.root.callables "" := by
  rw [callablePaths, Std.TreeSet.mem_ofList, List.contains_iff_mem]

section WellFormed

variable (h : r.root.WellFormed)
include h

theorem dottedNames_of_lookup {q : List String} {b : Binding φ} (hb : r.lookup q = some b) :
    dottedNames (".".intercalate q) = q := by
  refine dottedNames_intercalate (Namespace.wellFormed_of_lookup h hb).1 ?_
  rintro rfl
  simp [lookup] at hb

theorem mem_callables_root {p : String} :
    p ∈ r.root.callables "" ↔ ∃ q, r.HasFunction q ∧ ".".intercalate q = p := by
  rw [← mem_callablePaths_iff, mem_callablePaths h]
  constructor
  · rintro ⟨q, f, hq, rfl⟩
    exact ⟨q, ⟨f, hq⟩, rfl⟩
  · rintro ⟨q, ⟨f, hq⟩, rfl⟩
    exact ⟨q, f, hq, rfl⟩

/-- A listed path is joined from the names between its dots. -/
theorem intercalate_dottedNames {p : String} (hp : p ∈ r.root.callables "") :
    ".".intercalate (dottedNames p) = p := by
  obtain ⟨q, ⟨f, hq⟩, rfl⟩ := (mem_callables_root h).mp hp
  rw [dottedNames_of_lookup h hq]

theorem size_callablePaths : r.callablePaths.size = r.root.functionCount := by
  have hdistinct : (r.root.callables "").Pairwise fun a b => ¬ compare a b = .eq :=
    (Namespace.nodup_callables r.root h).imp fun hne heq =>
      hne (Std.LawfulEqOrd.eq_of_compare heq)
  rw [callablePaths, Std.TreeSet.size_ofList hdistinct, Namespace.length_callables]

/-- There are as many functions in the tree as there are segment lists that lead to one. -/
theorem ncard_hasFunction : {q | r.HasFunction q}.ncard = r.root.functionCount := by
  have hset : {q | r.HasFunction q} = ↑((r.root.callables "").map dottedNames).toFinset := by
    ext q
    rw [List.coe_toFinset, Set.mem_ofPred_eq, Set.mem_ofPred_eq, List.mem_map]
    constructor
    · rintro ⟨f, hq⟩
      exact ⟨_, (mem_callables_root h).mpr ⟨q, ⟨f, hq⟩, rfl⟩, dottedNames_of_lookup h hq⟩
    · rintro ⟨p, hp, rfl⟩
      obtain ⟨q, ⟨f, hq⟩, rfl⟩ := (mem_callables_root h).mp hp
      rw [dottedNames_of_lookup h hq]
      exact ⟨f, hq⟩
  have hnodup : ((r.root.callables "").map dottedNames).Nodup := by
    refine (Namespace.nodup_callables r.root h).map_on fun p hp p' hp' heq => ?_
    rw [← intercalate_dottedNames h hp, heq, intercalate_dottedNames h hp']
  rw [hset, Set.ncard_coe_finset, List.toFinset_card_of_nodup hnodup, List.length_map,
    Namespace.length_callables]

end WellFormed

/-- After any requests exactly the paths of the functions are listed, each under the one list of
segments that splitting it at its dots gives; no namespace or value is listed, and there are as many
paths as functions in the tree. -/
theorem callablePaths_exact (requests : List (Registration φ)) :
    let r := ofRequests requests
    (∀ p, p ∈ r.callablePaths ↔ ∃ q, r.HasFunction q ∧ ".".intercalate q = p) ∧
    (∀ p ∈ r.callablePaths, ∀ q, r.HasFunction q → ".".intercalate q = p → q = dottedNames p) ∧
    (∀ q b, r.lookup q = some b → ".".intercalate q ∈ r.callablePaths → ∃ f, b = .function f) ∧
    r.callablePaths.size = r.root.functionCount ∧
    r.callablePaths.size = {q | r.HasFunction q}.ncard := by
  intro r
  have h : r.root.WellFormed := wellFormed_ofRequests requests
  have hmem (p : String) : p ∈ r.callablePaths ↔ ∃ q, r.HasFunction q ∧ ".".intercalate q = p :=
    mem_callablePaths_iff.trans (mem_callables_root h)
  refine ⟨hmem, ?_, ?_, size_callablePaths h, (size_callablePaths h).trans
    (ncard_hasFunction h).symm⟩
  · rintro _ - q ⟨f, hq⟩ rfl
    exact (dottedNames_of_lookup h hq).symm
  · intro q b hb hlisted
    obtain ⟨q', ⟨f, hq'⟩, heq⟩ := (hmem _).mp hlisted
    have hsame : q' = q := by
      rw [← dottedNames_of_lookup h hq', heq, dottedNames_of_lookup h hb]
    rw [← hsame, hq', Option.some.injEq] at hb
    exact ⟨f, hb.symm⟩

end Registry

end MarkupActions
