import MarkupActions.Proofs.Document.Splice

/-! New markup is what was read. The trees at the new top-level nodes are those of the forest that
was laid out, node by node, so what is counted among the new nodes can be counted in the forest. -/

namespace MarkupActions

namespace Tree

variable {α β : Type}

mutual

/-- The tree with other labels. -/
def map (f : α → β) : Tree α → Tree β
  | node a ts => node (f a) (mapAll f ts)

def mapAll (f : α → β) : List (Tree α) → List (Tree β)
  | [] => []
  | t :: ts => map f t :: mapAll f ts

end

theorem mapAll_append (f : α → β) (ts us : List (Tree α)) :
    mapAll f (ts ++ us) = mapAll f ts ++ mapAll f us := by
  induction ts with
  | nil => rfl
  | cons t ts ih => rw [List.cons_append, mapAll, ih, mapAll, List.cons_append]

mutual

theorem preorder_map (f : α → β) (t : Tree α) : preorder (map f t) = (preorder t).map f := by
  cases t with
  | node a ts => rw [map, preorder, preorderAll_mapAll, preorder, List.map_cons]

theorem preorderAll_mapAll (f : α → β) (ts : List (Tree α)) :
    preorderAll (mapAll f ts) = (preorderAll ts).map f := by
  cases ts with
  | nil => rfl
  | cons t ts =>
    rw [mapAll, preorderAll, preorder_map, preorderAll_mapAll, preorderAll, List.map_append]

end

end Tree

namespace Document

variable {d : Document} {n p : Nat} {parent : Option NodeId} {ts : List (Tree NodeKind)}

/-! ### Laid trees -/

mutual

theorem map_unfold_tree (d : Document) (parent : Option NodeId) (n : NodeId) (t : Tree NodeKind)
    (depth : Nat) (hdepth : t.size ≤ depth) (h : d.Laid n (layTree parent n t)) :
    Tree.mapAll d.kind? (d.unfold depth n) = [t.map some] := by
  cases t with
  | node k ts =>
    rw [Tree.size] at hdepth
    rw [layTree, laid_cons] at h
    cases depth with
    | zero => omega
    | succ depth =>
      have hkind : d.kind? n = some k := by rw [kind?, h.1]; rfl
      have hchildren := map_unfold_forest d (some n) (n + 1) ts depth (by omega) h.2
      rw [unfold, h.1]
      dsimp only
      rw [Tree.mapAll, Tree.mapAll, Tree.map, hkind, hchildren, Tree.map]

theorem map_unfold_forest (d : Document) (parent : Option NodeId) (n : NodeId)
    (ts : List (Tree NodeKind)) (depth : Nat) (hdepth : Tree.sizeAll ts ≤ depth)
    (h : d.Laid n (layForest parent n ts)) :
    Tree.mapAll d.kind? ((rootsFrom n ts).flatMap (d.unfold depth)) = Tree.mapAll some ts := by
  cases ts with
  | nil => rfl
  | cons t ts =>
    rw [Tree.sizeAll] at hdepth
    rw [layForest, laid_append, length_layTree] at h
    rw [rootsFrom, List.flatMap_cons, Tree.mapAll_append,
      map_unfold_tree d parent n t depth (by omega) h.1,
      map_unfold_forest d parent (n + t.size) ts depth (by omega) h.2]
    rfl

end

/-! ### New markup -/

/-- The trees at the new top-level nodes are those of the forest. -/
theorem map_subtree_append (d : Document) (p : Nat) (ts : List (Tree NodeKind)) :
    Tree.mapAll (d.append p ts).2.kind? ((d.append p ts).1.flatMap (d.append p ts).2.subtree) =
      Tree.mapAll some ts := by
  have hlaid : (d.append p ts).2.Laid d.cells.size (layForest (some p) d.cells.size ts) :=
    laid_append_new
  have hsize : Tree.sizeAll ts ≤ (d.append p ts).2.cells.size :=
    length_layForest (some p) d.cells.size ts ▸ hlaid.length_le
  exact map_unfold_forest _ _ _ _ _ hsize hlaid

/-- The new nodes are, in order, what the forest has. -/
theorem map_nodes_append (d : Document) (p : Nat) (ts : List (Tree NodeKind)) :
    ((d.append p ts).1.flatMap (d.append p ts).2.nodes).map (d.append p ts).2.kind? =
      (Tree.preorderAll ts).map some := by
  rw [← Tree.preorderAll_mapAll, ← map_subtree_append d p ts, Tree.preorderAll_mapAll,
    Tree.preorderAll_flatMap]
  rfl

theorem nodup_elements_append (d : Document) (p : Nat) (ts : List (Tree NodeKind)) :
    ((d.append p ts).1.flatMap (d.append p ts).2.elements).Nodup := by
  rw [flatMap_elements, flatMap_nodes_append]
  exact (List.nodup_range' 1).filter _

/-- New elements of a kind are counted in the forest. -/
theorem countP_elements_append (d : Document) (p : Nat) (ts : List (Tree NodeKind))
    {q : NodeKind → Bool} (hq : ∀ k, q k = true → k.isElement = true) :
    ((d.append p ts).1.flatMap (d.append p ts).2.elements).countP
        (fun n => ((d.append p ts).2.kind? n).any q) = (Tree.preorderAll ts).countP q := by
  have hnodes := congrArg (List.countP (Option.any q)) (map_nodes_append d p ts)
  rw [List.countP_map, List.countP_map] at hnodes
  rw [flatMap_elements, List.countP_filter]
  refine Eq.trans (List.countP_congr fun n _ => ?_) hnodes
  rw [Bool.and_eq_true, isElement, Function.comp_apply]
  cases (d.append p ts).2.kind? n with
  | none => simp
  | some k => exact and_iff_left_of_imp (hq k)

end Document

end MarkupActions
