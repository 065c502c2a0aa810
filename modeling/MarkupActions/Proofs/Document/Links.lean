import Mathlib.Data.List.Nodup
import Mathlib.Logic.Relation
import MarkupActions.Proofs.Document.Edit

/-! Links between nodes. Children are named by their parents and name them in turn, but the two are
edited apart: what is torn down loses its children, and a node that is held through that goes on
naming its parent. So a node in a list of children names the one whose list it is, while a node that
names a parent may be missing from its list, if that parent is cut off from the document. As no node
is ever moved, a parent is always older than its children, and no walk up or down comes back. -/

namespace MarkupActions.Document

variable {d : Document} {c m n p q r : Nat}

/-- The parent that a node names, also when that lives no longer. -/
def link? (d : Document) (n : NodeId) : Option NodeId := (d.cell? n).bind (·.parent)

/-- A node is among the children of another. -/
def IsChild (d : Document) (p c : NodeId) : Prop := c ∈ d.children p

/-- A node is reached from another, or is that node, by going from parents to children. -/
def Below (d : Document) (r n : NodeId) : Prop := Relation.ReflTransGen d.IsChild r n

/-- How the nodes of a document are linked. -/
structure Linked (d : Document) : Prop where
  /-- The document node lives. -/
  root_alive : d.isAlive root = true
  /-- A node names an older one as its parent. -/
  older : ∀ n p : Nat, d.link? n = some p → p < n
  /-- What is in a list of children lives and names the node whose list it is. -/
  parent_of_mem : ∀ p c : Nat, c ∈ d.children p → d.parent? c = some p
  /-- No list of children has a node twice. -/
  nodup : ∀ p : Nat, (d.children p).Nodup
  /-- A node that lacks one which names it as the parent is cut off from the document. -/
  torn : ∀ n p : Nat, d.parent? n = some p → n ∉ d.children p → ¬ d.Below root p

/-! ### Reading cells -/

theorem isAlive_iff : d.isAlive n = true ↔ ∃ x, d.cell? n = some x := by
  rw [isAlive, Option.isSome_iff_exists]

theorem mem_children_iff : c ∈ d.children p ↔ ∃ x, d.cell? p = some x ∧ c ∈ x.children := by
  rw [children]
  cases d.cell? p <;> simp

theorem parent?_eq_some_iff :
    d.parent? n = some p ↔ d.link? n = some p ∧ d.isAlive p = true :=
  Option.filter_eq_some_iff

/-- A node has the parent that it had if it names the same, and that still lives if it did. -/
theorem parent?_congr {e : Document} (hlink : e.link? n = d.link? n)
    (halive : ∀ q, d.link? n = some q → e.isAlive q = d.isAlive q) :
    e.parent? n = d.parent? n := by
  rw [parent?, parent?, ← link?, ← link?, hlink]
  cases hq : d.link? n with
  | none => rfl
  | some q => rw [Option.filter_some, Option.filter_some, halive q hq]

theorem isAlive_of_link? (h : d.link? n = some p) : d.isAlive n = true := by
  obtain ⟨x, hx, -⟩ := Option.bind_eq_some_iff.mp h
  exact isAlive_iff.mpr ⟨x, hx⟩

theorem children_eq_nil_of_dead (h : d.isAlive n = false) : d.children n = [] := by
  rw [isAlive, Option.isSome_eq_false_iff, Option.isNone_iff_eq_none] at h
  rw [children, h]
  rfl

theorem isAlive_of_isChild (h : d.IsChild p c) : d.isAlive p = true := by
  obtain ⟨x, hx, -⟩ := mem_children_iff.mp h
  exact isAlive_iff.mpr ⟨x, hx⟩

theorem lt_size_of_isAlive (h : d.isAlive n = true) : n < d.cells.size := by
  obtain ⟨x, hx⟩ := isAlive_iff.mp h
  exact lt_size_of_cell? hx

theorem isAlive_of_parent? (h : d.parent? n = some p) : d.isAlive n = true :=
  isAlive_of_link? (parent?_eq_some_iff.mp h).1

/-- What is below a node is that node or below one of its children. -/
theorem below_iff : d.Below r n ↔ n = r ∨ ∃ c, d.IsChild r c ∧ d.Below c n := by
  rw [Below, Relation.ReflTransGen.cases_head_iff, eq_comm]
  rfl

namespace Linked

variable (h : d.Linked)
include h

theorem parent?_lt (hp : d.parent? n = some p) : p < n :=
  h.older n p (parent?_eq_some_iff.mp hp).1

theorem parent?_root : d.parent? Document.root = none := by
  cases hp : d.parent? Document.root with
  | none => rfl
  | some p => exact absurd (h.parent?_lt hp) (Nat.not_lt_zero p)

theorem isAlive_child (hc : d.IsChild p c) : d.isAlive c = true :=
  isAlive_of_parent? (h.parent_of_mem p c hc)

theorem lt_of_isChild (hc : d.IsChild p c) : p < c := h.parent?_lt (h.parent_of_mem p c hc)

theorem parent_unique (hp : d.IsChild p c) (hq : d.IsChild q c) : p = q := by
  have hsame := h.parent_of_mem q c hq
  rw [h.parent_of_mem p c hp, Option.some.injEq] at hsame
  exact hsame

theorem isAlive_of_below (hr : d.isAlive r = true) (hn : d.Below r n) : d.isAlive n = true := by
  induction hn with
  | refl => exact hr
  | tail _ hc _ => exact h.isAlive_child hc

theorem le_of_below (hn : d.Below r n) : r ≤ n := by
  induction hn with
  | refl => exact Nat.le_refl r
  | tail _ hc ih => exact ih.trans (h.lt_of_isChild hc).le

/-- A parent is not below its child. -/
theorem not_below_parent (hc : d.IsChild p c) : ¬ d.Below c p :=
  fun hbelow => absurd (h.lt_of_isChild hc) (Nat.not_lt.mpr (h.le_of_below hbelow))

/-- Of two nodes that a third is below, one is below the other. -/
theorem below_total (hp : d.Below p n) (hq : d.Below q n) : d.Below p q ∨ d.Below q p := by
  have hunique : Relator.RightUnique (Function.swap d.IsChild) := fun _ _ _ => h.parent_unique
  rcases Relation.ReflTransGen.total_of_right_unique hunique hp.swap hq.swap with hle | hle
  · exact .inr hle.swap
  · exact .inl hle.swap

/-- A node is below one child of a node at most. -/
theorem child_unique {c' : Nat} (hc : d.IsChild p c) (hc' : d.IsChild p c') (hm : d.Below c m)
    (hm' : d.Below c' m) : c = c' := by
  -- of two children one would be below the other, and is too old for that
  have hapart {c c' : Nat} (hc : d.IsChild p c) (hc' : d.IsChild p c') (hle : d.Below c c') :
      c = c' := by
    rcases Relation.ReflTransGen.cases_tail_iff _ _ _ |>.mp hle with heq | ⟨b, hb, hchild⟩
    · exact heq.symm
    · rw [h.parent_unique hchild hc'] at hb
      exact absurd hb (h.not_below_parent hc)
  rcases h.below_total hm hm' with hle | hle
  · exact hapart hc hc' hle
  · exact (hapart hc' hc hle).symm

/-! ### Downwards -/

/-- A tree is as deep as it may get once no name is left for more. -/
theorem unfold_eq {depth depth' : Nat} (hd : d.cells.size ≤ depth + n)
    (hd' : d.cells.size ≤ depth' + n) : d.unfold depth n = d.unfold depth' n := by
  induction depth generalizing depth' n with
  | zero =>
    have hnone : d.cell? n = none := by
      cases hcell : d.cell? n with
      | none => rfl
      | some x => exact absurd (lt_size_of_cell? hcell) (by omega)
    cases depth' with
    | zero => rfl
    | succ depth' => rw [unfold, unfold, hnone]
  | succ depth ih =>
    cases depth' with
    | zero =>
      have hnone : d.cell? n = none := by
        cases hcell : d.cell? n with
        | none => rfl
        | some x => exact absurd (lt_size_of_cell? hcell) (by omega)
      rw [unfold, unfold, hnone]
    | succ depth' =>
      rw [unfold, unfold]
      cases hcell : d.cell? n with
      | none => rfl
      | some x =>
        have hchildren : x.children.flatMap (d.unfold depth) =
            x.children.flatMap (d.unfold depth') := by
          refine List.flatMap_congr fun c hc => ?_
          have hlt := h.lt_of_isChild (mem_children_iff.mpr ⟨x, hcell, hc⟩)
          exact ih (by omega) (by omega)
        simp only [hchildren]

/-- The nodes at and below a living node are that node and, in turn, those at and below its
children. -/
theorem nodes_eq (hn : d.isAlive n = true) :
    d.nodes n = n :: (d.children n).flatMap d.nodes := by
  obtain ⟨x, hx⟩ := isAlive_iff.mp hn
  have hsize := lt_size_of_cell? hx
  have hchildren : d.children n = x.children := by rw [children, hx]; rfl
  obtain ⟨depth, hdepth⟩ : ∃ depth, d.cells.size = depth + 1 := ⟨d.cells.size - 1, by omega⟩
  have hsubtree : d.subtree n = [.node n (x.children.flatMap (d.unfold depth))] := by
    rw [subtree, hdepth, unfold, hx]
  rw [nodes, hsubtree, hchildren, Tree.preorderAll, Tree.preorder, Tree.preorderAll,
    List.append_nil, Tree.preorderAll_flatMap]
  congr 1
  refine List.flatMap_congr fun c hc => ?_
  have hlt := h.lt_of_isChild (mem_children_iff.mpr ⟨x, hx, hc⟩)
  rw [nodes, subtree, h.unfold_eq (by omega) (Nat.le_add_right _ _)]

end Linked

theorem nodes_of_dead (hn : d.isAlive n = false) : d.nodes n = [] := by
  rw [isAlive, Option.isSome_eq_false_iff, Option.isNone_iff_eq_none] at hn
  rw [nodes, subtree]
  cases d.cells.size with
  | zero => rfl
  | succ depth => rw [unfold, hn]; rfl

/-- An induction from children to their parents, which no walk down can evade. -/
theorem Linked.induction (h : d.Linked) {P : NodeId → Prop}
    (step : ∀ n, (∀ c, d.IsChild n c → P c) → P n) (n : NodeId) : P n := by
  induction hk : d.cells.size - n using Nat.strongRecOn generalizing n with
  | ind k ih =>
    refine step n fun c hc => ?_
    have hlt := h.lt_of_isChild hc
    have hsize := lt_size_of_isAlive (h.isAlive_child hc)
    exact ih (d.cells.size - c) (by omega) c rfl

namespace Linked

variable (h : d.Linked)
include h

theorem mem_nodes_iff : m ∈ d.nodes n ↔ d.isAlive n = true ∧ d.Below n m := by
  induction n using h.induction with
  | step n ih =>
    cases hn : d.isAlive n with
    | false => simp [nodes_of_dead hn]
    | true =>
      rw [h.nodes_eq hn, List.mem_cons, List.mem_flatMap, below_iff]
      rw [eq_self, true_and]
      refine or_congr_right (exists_congr fun c => and_congr_right fun hc => ?_)
      rw [ih c hc, h.isAlive_child hc]
      simp

theorem nodup_nodes (n : NodeId) : (d.nodes n).Nodup := by
  induction n using h.induction with
  | step n ih =>
    cases hn : d.isAlive n with
    | false =>
      rw [nodes_of_dead hn]
      exact List.nodup_nil
    | true =>
      rw [h.nodes_eq hn, List.nodup_cons, List.nodup_flatMap]
      refine ⟨?_, fun c hc => ih c hc, ?_⟩
      · intro hmem
        obtain ⟨c, hc, hself⟩ := List.mem_flatMap.mp hmem
        exact h.not_below_parent hc (h.mem_nodes_iff.mp hself).2
      · refine (h.nodup n).imp_of_mem fun {c c'} hc hc' hne => ?_
        intro m hm hm'
        exact hne (h.child_unique hc hc' (h.mem_nodes_iff.mp hm).2 (h.mem_nodes_iff.mp hm').2)

/-! ### Upwards -/

/-- A chain is as long as it may get once no older name is left. -/
theorem climb_eq {length length' : Nat} (hl : n < length) (hl' : n < length') :
    d.climb length n = d.climb length' n := by
  induction length generalizing length' n with
  | zero => omega
  | succ length ih =>
    cases length' with
    | zero => omega
    | succ length' =>
      rw [climb, climb]
      cases hp : d.parent? n with
      | none => rfl
      | some p =>
        have hlt := h.parent?_lt hp
        have hrest : d.climb length p = d.climb length' p := ih (by omega) (by omega)
        simp only [hrest]

/-- A chain goes from a node to the chain of its parent, and ends where there is none. -/
theorem chain_eq (n : NodeId) :
    d.chain n = n :: (match d.parent? n with
      | some p => d.chain p
      | none => []) := by
  have hpos := lt_size_of_isAlive h.root_alive
  obtain ⟨length, hlength⟩ : ∃ length, d.cells.size = length + 1 := ⟨d.cells.size - 1, by omega⟩
  rw [chain, hlength, climb]
  cases hp : d.parent? n with
  | none => rfl
  | some p =>
    have hlt := h.parent?_lt hp
    have hsize := lt_size_of_isAlive (isAlive_of_parent? hp)
    have hrest : d.climb length p = d.climb (length + 1) p := h.climb_eq (by omega) (by omega)
    simp only [chain, hlength, hrest]

/-- A chain goes through the parents, one after another. -/
theorem mem_chain_iff :
    m ∈ d.chain n ↔ Relation.ReflTransGen (fun a b => d.parent? a = some b) n m := by
  induction n using Nat.strongRecOn with
  | ind n ih =>
    rw [h.chain_eq, List.mem_cons, Relation.ReflTransGen.cases_head_iff, eq_comm]
    refine or_congr_right ?_
    cases hp : d.parent? n with
    | none => simp
    | some p => simp [ih p (h.parent?_lt hp)]

/-- Whatever is met on the way up from a living node lives. -/
theorem isAlive_of_mem_chain (hn : d.isAlive n = true) (hm : m ∈ d.chain n) :
    d.isAlive m = true := by
  rw [h.mem_chain_iff, Relation.ReflTransGen.cases_tail_iff] at hm
  rcases hm with rfl | ⟨b, -, hb⟩
  · exact hn
  · exact (parent?_eq_some_iff.mp hb).2

/-- No walk from parent to parent comes back, also by links that outlived a parent. -/
theorem not_transGen_link (n : Nat) :
    ¬ Relation.TransGen (fun a b => d.link? a = some b) n n := by
  have hlt (a b : Nat) (hab : Relation.TransGen (fun a b => d.link? a = some b) a b) : b < a := by
    induction hab with
    | single hp => exact h.older _ _ hp
    | tail _ hp ih => exact (h.older _ _ hp).trans ih
  exact fun hcycle => Nat.lt_irrefl n (hlt n n hcycle)

/-! ### Attached nodes -/

/-- What is below the document node is on the list of the parent that it names. -/
theorem isChild_of_below_root (hn : d.Below Document.root n) (hp : d.parent? n = some p) :
    d.IsChild p n ∧ d.Below Document.root p := by
  rcases Relation.ReflTransGen.cases_tail_iff _ _ _ |>.mp hn with heq | ⟨q, hq, hchild⟩
  · rw [heq, h.parent?_root] at hp
    cases hp
  · rw [h.parent_of_mem q n hchild, Option.some.injEq] at hp
    exact ⟨hp ▸ hchild, hp ▸ hq⟩

/-- A walk up from a node ends at the document node exactly if a walk down from there reaches it. -/
theorem contains_iff : d.contains n = true ↔ d.Below Document.root n := by
  rw [contains, List.contains_iff_mem, h.mem_chain_iff]
  constructor
  · intro hup
    induction hup using Relation.ReflTransGen.head_induction_on with
    | refl => exact .refl
    | @head a b hp _ ih =>
      refine ih.tail ?_
      by_contra hmissing
      exact h.torn a b hp hmissing ih
  · intro hdown
    induction hdown with
    | refl => exact .refl
    | @tail b c _ hc ih => exact .head (h.parent_of_mem b c hc) ih

/-- On the way up from an attached node everything has that node in its tree. -/
theorem below_of_mem_chain (hn : d.contains n = true) (hm : m ∈ d.chain n) : d.Below m n := by
  have hattached := h.contains_iff.mp hn
  rw [h.mem_chain_iff] at hm
  induction hm using Relation.ReflTransGen.head_induction_on with
  | refl => exact .refl
  | @head a b hp _ ih =>
    obtain ⟨hchild, hb⟩ := h.isChild_of_below_root hattached hp
    exact (ih ((h.contains_iff).mpr hb) hb).tail hchild

/-- What has a node in its tree is met on the way up from it. -/
theorem mem_chain_of_below (hm : d.Below m n) : m ∈ d.chain n := by
  rw [h.mem_chain_iff]
  induction hm with
  | refl => exact .refl
  | @tail b c _ hc ih => exact .head (h.parent_of_mem b c hc) ih

/-! ### Elements -/

theorem mem_elements_iff :
    m ∈ d.elements n ↔ d.isElement m = true ∧ d.isAlive n = true ∧ d.Below n m := by
  rw [elements, List.mem_filter, h.mem_nodes_iff, and_comm]

theorem nodup_elements (n : Nat) : (d.elements n).Nodup := (h.nodup_nodes n).filter _

/-- The elements at and below a living node are that node, if it is one, and in turn those at and
below its children. -/
theorem elements_eq (hn : d.isAlive n = true) :
    d.elements n = (if d.isElement n then [n] else []) ++ (d.children n).flatMap d.elements := by
  have hrest : ((d.children n).flatMap d.nodes).filter d.isElement =
      (d.children n).flatMap d.elements := List.filter_flatMap
  rw [elements, h.nodes_eq hn, List.filter_cons, hrest]
  split <;> rfl

end Linked

end MarkupActions.Document
