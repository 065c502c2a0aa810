import MarkupActions.Proofs.Document.Forest
import MarkupActions.Proofs.Document.Search

/-! A search that stops early and the traversal that lists all elements. Both go down the same lists
of children, whatever kinds of nodes these belong to, and meet the elements in the same order. So a
search finds the first element of the full list that fits, and nothing exactly where none fits. -/

namespace MarkupActions.Document

variable {d : Document} {n : Nat}

/-- What is found is the first of a list that fits, and nothing is found where none fits. -/
structure FindsFirst (ns : List NodeId) (p : NodeId → Bool) (found : Option NodeId) : Prop where
  some_iff : ∀ n, found = some n ↔
    ∃ before after, ns = before ++ n :: after ∧ p n = true ∧ ∀ m ∈ before, p m = false
  none_iff : found = none ↔ ∀ n ∈ ns, p n = false

theorem findsFirst_find? (ns : List NodeId) (p : NodeId → Bool) : FindsFirst ns p (ns.find? p) where
  some_iff n := by
    rw [List.find?_eq_some_iff_append]
    constructor
    · rintro ⟨hn, before, after, hsplit, hbefore⟩
      exact ⟨before, after, hsplit, hn, fun m hm => by simpa using hbefore m hm⟩
    · rintro ⟨before, after, hsplit, hn, hbefore⟩
      exact ⟨hn, before, after, hsplit, fun m hm => by simp [hbefore m hm]⟩
  none_iff := by simp [List.find?_eq_none]

/-- The searches of a document agree with its traversal. -/
structure SearchesInOrder (d : Document) : Prop where
  find : ∀ n p, FindsFirst (d.elements n) p (d.findElement? n p)
  byId : ∀ id, FindsFirst (d.elements root) (fun n => d.attribute? n "id" = some id)
    (d.elementById? id)
  exists_byId : ∀ id, (∃ n, d.elementById? id = some n) ↔
    ∃ n ∈ d.elements root, d.attribute? n "id" = some id

theorem searchesInOrder (d : Document) : d.SearchesInOrder where
  find n p := by
    rw [findElement?_eq]
    exact findsFirst_find? _ p
  byId id := by
    rw [elementById?_eq]
    exact findsFirst_find? _ _
  exists_byId id := by
    rw [← Option.isSome_iff_exists, elementById?_eq, List.find?_isSome]
    simp

/-- A search below a living node looks at that node, if it is an element, and then searches below its
children in turn until something is found. -/
theorem Linked.findElement?_eq (hd : d.Linked) (hn : d.isAlive n = true) (p : NodeId → Bool) :
    d.findElement? n p = if d.isElement n && p n then some n
      else (d.children n).findSome? fun c => d.findElement? c p := by
  have hchildren : (fun c => d.findElement? c p) = fun c => (d.elements c).find? p :=
    funext fun c => Document.findElement?_eq d c p
  rw [Document.findElement?_eq, hd.elements_eq hn, List.find?_append, List.find?_flatMap, hchildren]
  cases d.isElement n with
  | false => rfl
  | true => cases hp : p n <;> simp [hp]

/-- The tree at the document node of what was just read is the tree that was read. -/
theorem map_subtree_ofForest (ts : List (Tree NodeKind)) :
    Tree.mapAll (ofForest ts).kind? ((ofForest ts).subtree root) =
      [Tree.map some (.node .document ts)] := by
  have hlaid : (ofForest ts).Laid root (layTree none root (.node .document ts)) := by
    intro i c hi
    rw [root, Nat.zero_add, cell?_ofForest, hi]
  have hsize := length_layTree none root (.node .document ts) ▸ hlaid.length_le
  exact map_unfold_tree _ none root (.node .document ts) _ hsize hlaid

/-- What a search for a kind of element finds in a tree that was just read is the first such element
of the tree. -/
theorem map_findElement?_ofForest (ts : List (Tree NodeKind)) (q : NodeKind → Bool) :
    ((ofForest ts).findElement? root fun n => ((ofForest ts).kind? n).any q).map
        (ofForest ts).kind? =
      ((Tree.preorderAll ts).find? fun k => k.isElement && q k).map some := by
  have hkinds : ((ofForest ts).nodes root).map (ofForest ts).kind? =
      some .document :: (Tree.preorderAll ts).map some := by
    rw [nodes, ← Tree.preorderAll_mapAll, map_subtree_ofForest, Tree.map, Tree.preorderAll,
      Tree.preorder, Tree.preorderAll, List.append_nil, Tree.preorderAll_mapAll]
  have hsearch : ((ofForest ts).findElement? root fun n => ((ofForest ts).kind? n).any q) =
      ((ofForest ts).nodes root).find?
        ((Option.any fun k => k.isElement && q k) ∘ (ofForest ts).kind?) := by
    rw [findElement?_eq, elements, List.find?_filter]
    congr 1
    funext n
    rw [isElement, Function.comp_apply]
    cases (ofForest ts).kind? n <;> simp
  rw [hsearch, ← List.find?_map, hkinds, List.find?_cons_of_neg (by simp [NodeKind.isElement,
    NodeKind.element?]), List.find?_map]
  rfl

/-- The searches of every document agree with its traversal. Both are the recursions over children
that they are meant to be, and they see the tree that was read, whatever its shape and whatever kinds
of nodes have children in it. -/
theorem search_agrees_with_traversal :
    (∀ d : Document, d.SearchesInOrder) ∧
      (∀ d : Document, d.Linked → ∀ n : Nat, d.isAlive n = true →
        d.elements n = (if d.isElement n then [n] else []) ++
            (d.children n).flatMap d.elements ∧
          ∀ p, d.findElement? n p = if d.isElement n && p n then some n
            else (d.children n).findSome? fun c => d.findElement? c p) ∧
      ∀ ts : List (Tree NodeKind), (ofForest ts).Linked ∧
        Tree.mapAll (ofForest ts).kind? ((ofForest ts).subtree root) =
          [Tree.map some (.node .document ts)] ∧
        ∀ q, ((ofForest ts).findElement? root fun n => ((ofForest ts).kind? n).any q).map
            (ofForest ts).kind? =
          ((Tree.preorderAll ts).find? fun k => k.isElement && q k).map some :=
  ⟨searchesInOrder, fun _ hd _ hn => ⟨hd.elements_eq hn, hd.findElement?_eq hn⟩,
    fun ts => ⟨linked_ofForest ts, map_subtree_ofForest ts, map_findElement?_ofForest ts⟩⟩

/-- Elements below a doctype, a comment, a text and an inner document, two of them with one id. -/
def mixedForest : List (Tree NodeKind) :=
  [.node .doctype [.node (.comment "c") [.node (.element ⟨.html, "b", [⟨"id", "x"⟩]⟩)
      [.node (.text "t") [.node (.element ⟨.html, "i", [⟨"id", "x"⟩]⟩) []]]]],
    .node .document [.node (.element ⟨.html, "a", []⟩) []]]

/-- The search goes through the comment to the outer of the two elements with the id. -/
theorem search_agrees_with_traversal_of_mixedForest :
    (ofForest mixedForest).elements 2 = [3, 5] ∧
      (ofForest mixedForest).elementById? "x" = some 3 ∧
      (ofForest mixedForest).elementById? "y" = none ∧
      (ofForest mixedForest).findElement? 2 (fun n => n ≠ 3) = some 5 := by
  obtain ⟨hsearches, hsteps, hread⟩ := search_agrees_with_traversal
  have hlinked := (hread mixedForest).1
  obtain ⟨helements, hfind⟩ := hsteps _ hlinked 2 (by decide)
  refine ⟨helements.trans (by decide), ?_, ?_, (hfind _).trans (by decide)⟩
  · exact ((hsearches _).byId "x").some_iff 3 |>.mpr ⟨[], [5, 7], by decide⟩
  · exact ((hsearches _).byId "y").none_iff.mpr (by decide)

end MarkupActions.Document
