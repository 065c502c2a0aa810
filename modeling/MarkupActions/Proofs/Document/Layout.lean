import Mathlib.Data.List.Range
import MarkupActions.Document.Edit

/-! How trees are laid out in cells. A tree that is laid out from a name on has its nodes under the
names that follow in turn, so the nodes of a document that was just read are all names in order,
and the nodes below the roots of new markup are exactly the new names. -/

namespace MarkupActions

/-! ### Sizes -/

namespace Tree

variable {α : Type}

theorem preorderAll_append (ts us : List (Tree α)) :
    preorderAll (ts ++ us) = preorderAll ts ++ preorderAll us := by
  induction ts with
  | nil => rfl
  | cons t ts ih => simp [preorderAll, ih]

theorem preorderAll_flatMap {β : Type} (f : β → List (Tree α)) (xs : List β) :
    preorderAll (xs.flatMap f) = xs.flatMap fun x => preorderAll (f x) := by
  induction xs with
  | nil => rfl
  | cons x xs ih => rw [List.flatMap_cons, preorderAll_append, ih, List.flatMap_cons]

end Tree

mutual

theorem length_layTree (p : Option NodeId) (n : NodeId) (t : Tree NodeKind) :
    (layTree p n t).length = t.size := by
  cases t with
  | node k ts => rw [layTree, List.length_cons, length_layForest, Tree.size]

theorem length_layForest (p : Option NodeId) (n : NodeId) (ts : List (Tree NodeKind)) :
    (layForest p n ts).length = Tree.sizeAll ts := by
  cases ts with
  | nil => rfl
  | cons t ts => rw [layForest, List.length_append, length_layTree, length_layForest, Tree.sizeAll]

end

namespace Document

variable {d : Document} {n : Nat}

/-! ### Cells in a row -/

/-- The cells from a name on are the given ones, in turn. -/
def Laid (d : Document) (n : NodeId) (cs : List Cell) : Prop :=
  ∀ i c, cs[i]? = some c → d.cell? (n + i) = some c

theorem laid_cons {c : Cell} {cs : List Cell} :
    d.Laid n (c :: cs) ↔ d.cell? n = some c ∧ d.Laid (n + 1) cs := by
  constructor
  · intro h
    refine ⟨h 0 c rfl, fun i x hx => ?_⟩
    rw [Nat.add_assoc, Nat.add_comm 1 i]
    exact h (i + 1) x hx
  · rintro ⟨hc, hcs⟩ i x hx
    cases i with
    | zero => rwa [List.getElem?_cons_zero, ← hc] at hx
    | succ i =>
      rw [Nat.succ_eq_add_one, Nat.add_comm i 1, ← Nat.add_assoc]
      exact hcs i x hx

theorem laid_append {xs ys : List Cell} :
    d.Laid n (xs ++ ys) ↔ d.Laid n xs ∧ d.Laid (n + xs.length) ys := by
  induction xs generalizing n with
  | nil => simp [Laid]
  | cons x xs ih =>
    have hlength : n + 1 + xs.length = n + (x :: xs).length := by
      rw [List.length_cons]
      omega
    rw [List.cons_append, laid_cons, laid_cons, ih, hlength, and_assoc]

theorem lt_size_of_cell? {c : Cell} (h : d.cell? n = some c) : n < d.cells.size := by
  by_contra hle
  simp [cell?, Array.getElem?_eq_none (Nat.le_of_not_lt hle)] at h

theorem Laid.length_le {cs : List Cell} (h : d.Laid n cs) : cs.length ≤ d.cells.size := by
  cases hlen : cs.length with
  | zero => exact Nat.zero_le _
  | succ k =>
    have hk : k < cs.length := by omega
    have hlast := lt_size_of_cell? (h k cs[k] (List.getElem?_eq_getElem hk))
    omega

/-! ### Nodes of a laid tree -/

mutual

theorem preorder_unfold_tree (d : Document) (p : Option NodeId) (n : NodeId) (t : Tree NodeKind)
    (depth : Nat) (hdepth : t.size ≤ depth) (h : d.Laid n (layTree p n t)) :
    Tree.preorderAll (d.unfold depth n) = List.range' n t.size := by
  cases t with
  | node k ts =>
    rw [Tree.size] at hdepth ⊢
    rw [layTree, laid_cons] at h
    cases depth with
    | zero => omega
    | succ depth =>
      have hchildren := preorder_unfold_forest d (some n) (n + 1) ts depth (by omega) h.2
      rw [List.range'_succ, ← hchildren, ← Tree.preorderAll_flatMap]
      simp [unfold, h.1, Tree.preorderAll, Tree.preorder]

theorem preorder_unfold_forest (d : Document) (p : Option NodeId) (n : NodeId)
    (ts : List (Tree NodeKind)) (depth : Nat) (hdepth : Tree.sizeAll ts ≤ depth)
    (h : d.Laid n (layForest p n ts)) :
    ((rootsFrom n ts).flatMap fun m => Tree.preorderAll (d.unfold depth m)) =
      List.range' n (Tree.sizeAll ts) := by
  cases ts with
  | nil => rfl
  | cons t ts =>
    rw [Tree.sizeAll] at hdepth ⊢
    rw [layForest, laid_append, length_layTree] at h
    rw [rootsFrom, List.flatMap_cons, preorder_unfold_tree d p n t depth (by omega) h.1,
      preorder_unfold_forest d p (n + t.size) ts depth (by omega) h.2]
    exact List.range'_append_1

end

/-- The nodes of a tree that is laid out from `n` on are the names from `n` on. -/
theorem nodes_of_laid {p : Option NodeId} {t : Tree NodeKind} (h : d.Laid n (layTree p n t)) :
    d.nodes n = List.range' n t.size := by
  have hsize : t.size ≤ d.cells.size := length_layTree p n t ▸ h.length_le
  exact preorder_unfold_tree d p n t _ hsize h

/-- The nodes below the roots of a forest that is laid out from `n` on are the names from `n` on.
-/
theorem flatMap_nodes_of_laid {p : Option NodeId} {ts : List (Tree NodeKind)}
    (h : d.Laid n (layForest p n ts)) :
    (rootsFrom n ts).flatMap d.nodes = List.range' n (Tree.sizeAll ts) := by
  have hsize : Tree.sizeAll ts ≤ d.cells.size := length_layForest p n ts ▸ h.length_le
  exact preorder_unfold_forest d p n ts _ hsize h

/-! ### Documents that were just read -/

theorem cell?_ofForest (ts : List (Tree NodeKind)) (i : Nat) :
    (ofForest ts).cell? i = (layTree none root (.node .document ts))[i]? := by
  rw [cell?, ofForest, List.getElem?_toArray, List.getElem?_map]
  cases (layTree none root (.node .document ts))[i]? <;> rfl

/-- The nodes of a document that was just read are all its names in order. -/
theorem nodes_ofForest (ts : List (Tree NodeKind)) :
    (ofForest ts).nodes root = List.range (ofForest ts).cells.size := by
  have hlaid : (ofForest ts).Laid root (layTree none root (.node .document ts)) := by
    intro i c hi
    rw [root, Nat.zero_add, cell?_ofForest, hi]
  rw [nodes_of_laid hlaid, List.range_eq_range', ofForest, List.size_toArray, List.length_map,
    length_layTree]
  rfl

variable [MarkupParser]

theorem nodes_parse (html : String) :
    (parse html).nodes root = List.range (parse html).cells.size :=
  nodes_ofForest _

theorem nodup_elements_parse (html : String) : ((parse html).elements root).Nodup := by
  rw [elements, nodes_parse]
  exact List.nodup_range.filter _

/-- Every element of a document that was just read is below its root. -/
theorem mem_elements_parse {html : String} :
    n ∈ (parse html).elements root ↔ (parse html).isElement n = true := by
  rw [elements, nodes_parse, List.mem_filter, List.mem_range]
  refine ⟨And.right, fun h => ⟨?_, h⟩⟩
  cases hcell : (parse html).cell? n with
  | none => simp [isElement, kind?, hcell] at h
  | some c => exact lt_size_of_cell? hcell

end Document

end MarkupActions
