import Mathlib.Data.List.Find
import Mathlib.Data.List.Perm.Basic
import MarkupActions.Proofs.Document.Search
import MarkupActions.Proofs.Document.Splice

/-! Taking back what was added. While the new top-level nodes are taken out one after another, the
document is the earlier one but for those that are left, which come last among the children of the
node that they were added to. When none is left all is as it was, in whatever order they went and
whatever is held. -/

namespace MarkupActions.Document

variable {d e : Document} {held new order : List NodeId} {m n p : Nat}

/-- Takes nodes out one after another, and frees each unless something keeps it. -/
def removeAll (held : List NodeId) : Document → List NodeId → List Bool × Document
  | d, [] => ([], d)
  | d, n :: ns =>
    let (removed, d) := d.remove n
    let (rest, d) := removeAll held (d.release held n) ns
    (removed :: rest, d)

/-- A document that is an earlier one but for newer nodes, which come last among the children of one
node. -/
structure Extends (d : Document) (p : NodeId) (new : List NodeId) (e : Document) : Prop where
  linked : e.Linked
  newer : ∀ n ∈ new, d.cells.size ≤ n
  others : ∀ m < d.cells.size, m ≠ p → e.cell? m = d.cell? m
  parent : e.cell? p = (d.cell? p).map fun c => { c with children := c.children ++ new }

theorem extends_append (hd : d.Linked) (hp : d.isAlive p = true) (ts : List (Tree NodeKind)) :
    d.Extends p (d.append p ts).1 (d.append p ts).2 where
  linked := hd.append hp ts
  newer := fun n hn => ((grown_append d p ts).root n hn).1
  others := fun m hm hne => by rw [cell?_append_of_lt hm, if_neg (Ne.symm hne)]
  parent := by
    rw [cell?_append_of_lt (lt_size_of_isAlive hp), if_pos rfl]
    rfl

/-! ### One node -/

theorem cell?_remove (hp : d.parent? n = some p) (hm : m ≠ n) :
    (d.remove n).2.cell? m = if p = m then
      (d.cell? m).map fun c => { c with children := c.children.filter (· ≠ n) } else d.cell? m := by
  rw [remove, hp]
  dsimp only
  rw [cell?_modify, if_neg (Ne.symm hm), cell?_modify]

/-- Children that were there before are kept, and of the newer ones one goes. -/
theorem filter_children_append {old : List Nat} (hold : ∀ c ∈ old, c < n) (hnodup : new.Nodup) :
    (old ++ new).filter (· ≠ n) = old ++ new.erase n := by
  have hkept : old.filter (· ≠ n) = old :=
    List.filter_eq_self.mpr fun c hc => decide_eq_true (Nat.ne_of_lt (hold c hc))
  rw [List.filter_append, hkept, hnodup.erase_eq_filter]
  congr 1
  exact List.filter_congr fun c _ => by by_cases hcn : c = n <;> simp [hcn]

namespace Extends

theorem isChild (h : d.Extends p new e) (hp : d.isAlive p = true) (hn : n ∈ new) :
    e.IsChild p n := by
  obtain ⟨x, hx⟩ := isAlive_iff.mp hp
  rw [IsChild, children, h.parent, hx]
  exact List.mem_append_right _ hn

theorem nodup (h : d.Extends p new e) (hp : d.isAlive p = true) : new.Nodup := by
  obtain ⟨x, hx⟩ := isAlive_iff.mp hp
  have hchildren := h.linked.nodup p
  rw [children, h.parent, hx] at hchildren
  exact (List.nodup_append.mp hchildren).2.1

/-- A newer node can be taken out and freed, and leaves the others. -/
theorem remove (h : d.Extends p new e) (held : List NodeId) (hd : d.Linked)
    (hp : d.isAlive p = true) (hn : n ∈ new) :
    (e.remove n).1 = true ∧ d.Extends p (new.erase n) ((e.remove n).2.release held n) := by
  have hparent := h.linked.parent_of_mem p n (h.isChild hp hn)
  have hremoved := h.linked.remove n
  -- all that is freed is below the node, and so is newer
  have hcell (m : Nat) (hm : m < d.cells.size) :
      ((e.remove n).2.release held n).cell? m = (e.remove n).2.cell? m :=
    hremoved.cell?_release fun hbelow =>
      absurd ((h.newer n hn).trans (hremoved.le_of_below hbelow)) (Nat.not_le.mpr hm)
  have hne (m : Nat) (hm : m < d.cells.size) : m ≠ n :=
    Nat.ne_of_lt (Nat.lt_of_lt_of_le hm (h.newer n hn))
  refine ⟨by rw [Document.remove, hparent], hremoved.release held n, ?_, ?_, ?_⟩
  · exact fun m hm => h.newer m (List.mem_of_mem_erase hm)
  · intro m hm hmp
    rw [hcell m hm, cell?_remove hparent (hne m hm), if_neg (Ne.symm hmp), h.others m hm hmp]
  · have hsize := lt_size_of_isAlive hp
    obtain ⟨x, hx⟩ := isAlive_iff.mp hp
    have hchildren : d.children p = x.children := by rw [children, hx]; rfl
    have hold : ∀ c ∈ x.children, c < n := fun c hc => by
      rw [← hchildren] at hc
      exact Nat.lt_of_lt_of_le (lt_size_of_isAlive (hd.isAlive_child hc)) (h.newer n hn)
    rw [hcell p hsize, cell?_remove hparent (hne p hsize), if_pos rfl, h.parent, hx]
    simp only [Option.map_some, filter_children_append hold (h.nodup hp)]

/-- All newer nodes can be taken out, in any order. -/
theorem removeAll (h : d.Extends p new e) (hd : d.Linked) (hp : d.isAlive p = true)
    (horder : order.Perm new) : (e.removeAll held order).1 = List.replicate order.length true ∧
      d.Extends p [] (e.removeAll held order).2 := by
  induction order generalizing new e with
  | nil =>
    obtain rfl := horder.nil_eq
    exact ⟨rfl, h⟩
  | cons n order ih =>
    obtain ⟨hn, hrest⟩ := List.cons_perm_iff_perm_erase.mp horder
    obtain ⟨hremoved, hleft⟩ := h.remove held hd hp hn
    obtain ⟨hothers, hnone⟩ := ih hleft hrest
    rw [Document.removeAll, List.length_cons, List.replicate_succ]
    exact ⟨congrArg₂ List.cons hremoved hothers, hnone⟩

end Extends

/-! ### All of them -/

/-- A document in which all earlier nodes are what they were, and where they were. -/
structure Restored (d e : Document) : Prop where
  /-- What a node is, the parent that it names and its children. -/
  cell? : ∀ m < d.cells.size, e.cell? m = d.cell? m
  parent? : ∀ m < d.cells.size, e.parent? m = d.parent? m
  elements : ∀ r, d.isAlive r = true → e.elements r = d.elements r
  elementById? : ∀ id, e.elementById? id = d.elementById? id

theorem Extends.restored (h : d.Extends p [] e) (hd : d.Linked) : d.Restored e := by
  have hcell (m : Nat) (hm : m < d.cells.size) : e.cell? m = d.cell? m := by
    by_cases hmp : m = p
    · rw [hmp, h.parent]
      simp
    · exact h.others m hm hmp
  have helements (r : Nat) (hr : d.isAlive r = true) : e.elements r = d.elements r := by
    refine hd.elements_congr h.linked hr fun m hm => hcell m ?_
    exact lt_size_of_isAlive (hd.isAlive_of_below hr hm)
  constructor
  case cell? => exact hcell
  case parent? =>
    intro m hm
    refine parent?_congr (by rw [link?, link?, hcell m hm]) fun q hq => ?_
    rw [isAlive, isAlive, hcell q ((hd.older m q hq).trans hm)]
  case elements => exact helements
  case elementById? =>
    intro id
    rw [elementById?_eq, elementById?_eq, helements root hd.root_alive]
    refine List.find?_congr fun m hm => ?_
    have hsize := lt_size_of_isElement (List.mem_filter.mp hm).2
    rw [attribute?, attribute?, kind?, kind?, hcell m hsize]

end MarkupActions.Document
