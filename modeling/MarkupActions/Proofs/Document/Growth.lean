import MarkupActions.Proofs.Document.Links

/-! Links of new markup. A tree that is laid out in cells is linked in itself: each of its nodes is
a root or stands in the list of an older node of the tree, which it names as its parent. So
documents that were just read are linked, and adding markup to a living node keeps a document
linked. -/

namespace MarkupActions.Document

variable {d : Document} {a b c m n p q r : Nat} {parent : Option NodeId} {ts : List (Tree NodeKind)}

/-! ### Laid trees -/

/-- The nodes from a name on, as many as `size`, are trees below some roots, which name a parent
that is not one of them. -/
structure Grown (d : Document) (parent : Option NodeId) (n size : Nat) (roots : List Nat) :
    Prop where
  /-- The roots are among the nodes, and name the parent. -/
  root : ∀ r : Nat, r ∈ roots → n ≤ r ∧ r < n + size ∧ d.link? r = parent
  nodup : roots.Nodup
  /-- All others are listed by an older one, which they name. -/
  inner : ∀ m : Nat, n ≤ m → m < n + size →
    m ∈ roots ∨ ∃ q : Nat, n ≤ q ∧ q < m ∧ d.link? m = some q ∧ m ∈ d.children q
  /-- What is listed by one of the nodes is one of them, younger, and names it. -/
  listed : ∀ q : Nat, n ≤ q → q < n + size → ∀ c : Nat, c ∈ d.children q →
    q < c ∧ c < n + size ∧ d.link? c = some q
  nodup_children : ∀ q : Nat, n ≤ q → q < n + size → (d.children q).Nodup

theorem grown_nil (d : Document) (parent : Option NodeId) (n : Nat) : d.Grown parent n 0 [] where
  root := nofun
  nodup := List.nodup_nil
  inner := fun m _ _ => by omega
  listed := fun q _ _ => by omega
  nodup_children := fun q _ _ => by omega

theorem Grown.append {rs rs' : List Nat} (h : d.Grown parent n a rs)
    (h' : d.Grown parent (n + a) b rs') : d.Grown parent n (a + b) (rs ++ rs') where
  root := by
    intro r hr
    rcases List.mem_append.mp hr with hr | hr
    · obtain ⟨hle, hlt, hlink⟩ := h.root r hr
      exact ⟨hle, by omega, hlink⟩
    · obtain ⟨hle, hlt, hlink⟩ := h'.root r hr
      exact ⟨by omega, by omega, hlink⟩
  nodup := by
    refine List.nodup_append.mpr ⟨h.nodup, h'.nodup, ?_⟩
    rintro r hr r' hr' rfl
    have hlt := (h.root r hr).2.1
    have hle := (h'.root r hr').1
    omega
  inner := by
    intro m hle hlt
    by_cases hm : m < n + a
    · exact (h.inner m hle hm).imp_left fun hr => List.mem_append_left rs' hr
    · rcases h'.inner m (by omega) (by omega) with hr | ⟨q, hq, hrest⟩
      · exact .inl (List.mem_append_right rs hr)
      · exact .inr ⟨q, by omega, hrest⟩
  listed := by
    intro q hle hlt c hc
    by_cases hq : q < n + a
    · obtain ⟨hqc, hca, hlink⟩ := h.listed q hle hq c hc
      exact ⟨hqc, by omega, hlink⟩
    · obtain ⟨hqc, hcb, hlink⟩ := h'.listed q (by omega) (by omega) c hc
      exact ⟨hqc, by omega, hlink⟩
  nodup_children := by
    intro q hle hlt
    by_cases hq : q < n + a
    · exact h.nodup_children q hle hq
    · exact h'.nodup_children q (by omega) (by omega)

/-- A node with a forest below it is a tree. -/
theorem Grown.node {k : NodeKind} {rs : List Nat} (hcell : d.cell? n = some ⟨k, parent, rs⟩)
    (h : d.Grown (some n) (n + 1) a rs) : d.Grown parent n (a + 1) [n] := by
  have hlink : d.link? n = parent := by rw [link?, hcell]; rfl
  have hchildren : d.children n = rs := by rw [children, hcell]; rfl
  constructor
  case root =>
    intro r hr
    rw [List.mem_singleton.mp hr]
    exact ⟨Nat.le_refl n, by omega, hlink⟩
  case nodup => exact List.nodup_singleton n
  case inner =>
    intro m hle hlt
    by_cases hmn : m = n
    · exact .inl (List.mem_singleton.mpr hmn)
    right
    rcases h.inner m (by omega) (by omega) with hr | ⟨q, hq, hrest⟩
    · obtain ⟨hnm, -, hm⟩ := h.root m hr
      exact ⟨n, Nat.le_refl n, hnm, hm, hchildren ▸ hr⟩
    · exact ⟨q, by omega, hrest⟩
  case listed =>
    intro q hle hlt c hc
    by_cases hqn : q = n
    · rw [hqn, hchildren] at hc
      obtain ⟨hnc, hlt, hm⟩ := h.root c hc
      rw [hqn]
      exact ⟨hnc, by omega, hm⟩
    · obtain ⟨hqc, hca, hm⟩ := h.listed q (by omega) (by omega) c hc
      exact ⟨hqc, by omega, hm⟩
  case nodup_children =>
    intro q hle hlt
    by_cases hqn : q = n
    · rw [hqn, hchildren]
      exact h.nodup
    · exact h.nodup_children q (by omega) (by omega)

mutual

theorem grown_tree (d : Document) (parent : Option NodeId) (n : Nat) (t : Tree NodeKind)
    (h : d.Laid n (layTree parent n t)) : d.Grown parent n t.size [n] := by
  cases t with
  | node k ts =>
    rw [layTree, laid_cons] at h
    exact .node h.1 (grown_forest d (some n) (n + 1) ts h.2)

theorem grown_forest (d : Document) (parent : Option NodeId) (n : Nat)
    (ts : List (Tree NodeKind)) (h : d.Laid n (layForest parent n ts)) :
    d.Grown parent n (Tree.sizeAll ts) (rootsFrom n ts) := by
  cases ts with
  | nil => exact grown_nil d parent n
  | cons t ts =>
    rw [layForest, laid_append, length_layTree] at h
    exact (grown_tree d parent n t h.1).append (grown_forest d parent (n + t.size) ts h.2)

end

/-! ### Documents that were just read -/

theorem grown_ofForest (ts : List (Tree NodeKind)) :
    (ofForest ts).Grown none 0 (ofForest ts).cells.size [root] := by
  have hlaid : (ofForest ts).Laid root (layTree none root (.node .document ts)) := by
    intro i c hi
    rw [root, Nat.zero_add, cell?_ofForest, hi]
  have hsize : (ofForest ts).cells.size = (Tree.node .document ts).size := by
    rw [ofForest, List.size_toArray, List.length_map, length_layTree]
  rw [hsize]
  exact grown_tree _ none root _ hlaid

theorem isAlive_ofForest (hn : n < (ofForest ts).cells.size) : (ofForest ts).isAlive n = true := by
  rw [ofForest, List.size_toArray, List.length_map] at hn
  exact isAlive_iff.mpr ⟨_, by rw [cell?_ofForest, List.getElem?_eq_getElem hn]⟩

theorem linked_ofForest (ts : List (Tree NodeKind)) : (ofForest ts).Linked := by
  have hgrown := grown_ofForest ts
  have hsize : 0 < (ofForest ts).cells.size := by
    have hroot := (hgrown.root root (List.mem_singleton.mpr rfl)).2.1
    omega
  have hlink (n p : Nat) (h : (ofForest ts).link? n = some p) :
      p < n ∧ n ∈ (ofForest ts).children p := by
    have hn := lt_size_of_isAlive (isAlive_of_link? h)
    rcases hgrown.inner n (Nat.zero_le n) (by omega) with hr | ⟨q, -, hlt, hq, hmem⟩
    · rw [(hgrown.root n hr).2.2] at h
      cases h
    · rw [hq, Option.some.injEq] at h
      exact h ▸ ⟨hlt, hmem⟩
  constructor
  case root_alive => exact isAlive_ofForest hsize
  case older => exact fun n p h => (hlink n p h).1
  case parent_of_mem =>
    intro p c hc
    have hp := lt_size_of_isAlive (isAlive_of_isChild hc)
    exact parent?_eq_some_iff.mpr
      ⟨(hgrown.listed p (Nat.zero_le p) (by omega) c hc).2.2, isAlive_ofForest hp⟩
  case nodup =>
    intro p
    cases hp : (ofForest ts).isAlive p with
    | false =>
      rw [children_eq_nil_of_dead hp]
      exact List.nodup_nil
    | true =>
      have hlt := lt_size_of_isAlive hp
      exact hgrown.nodup_children p (Nat.zero_le p) (by omega)
  case torn =>
    intro n p hp hmissing
    exact absurd (hlink n p (parent?_eq_some_iff.mp hp).1).2 hmissing

/-! ### Markup that is added -/

theorem cell?_append_of_lt (hm : m < d.cells.size) :
    (d.append p ts).2.cell? m = if p = m then
      (d.cell? m).map fun c => { c with children := c.children ++ rootsFrom d.cells.size ts }
      else d.cell? m := by
  have hsize : m < (d.modify p fun c =>
      { c with children := c.children ++ rootsFrom d.cells.size ts }).cells.size := by
    rwa [size_modify]
  rw [cell?, append]
  dsimp only
  rw [Array.getElem?_append_left hsize, modify, Array.getElem?_modify, cell?]
  split
  · cases d.cells[m]? <;> rfl
  · rfl

theorem link?_append_of_lt (hm : m < d.cells.size) : (d.append p ts).2.link? m = d.link? m := by
  rw [link?, link?, cell?_append_of_lt hm]
  split
  · cases d.cell? m <;> rfl
  · rfl

theorem isAlive_append_of_lt (hm : m < d.cells.size) :
    (d.append p ts).2.isAlive m = d.isAlive m := by
  rw [isAlive, isAlive, cell?_append_of_lt hm]
  split
  · rw [Option.isSome_map]
  · rfl

theorem children_append_of_ne (hm : m < d.cells.size) (hne : p ≠ m) :
    (d.append p ts).2.children m = d.children m := by
  rw [children, children, cell?_append_of_lt hm, if_neg hne]

theorem children_append_self (hp : d.isAlive p = true) :
    (d.append p ts).2.children p = d.children p ++ rootsFrom d.cells.size ts := by
  obtain ⟨x, hx⟩ := isAlive_iff.mp hp
  rw [children, children, cell?_append_of_lt (lt_size_of_cell? hx), if_pos rfl, hx]
  rfl

theorem grown_append (d : Document) (p : Nat) (ts : List (Tree NodeKind)) :
    (d.append p ts).2.Grown (some p) d.cells.size (Tree.sizeAll ts) (d.append p ts).1 :=
  grown_forest _ _ _ _ laid_append_new

/-- A child that was there before is a child of a node that was there before, and no other child of
such a node is new, except for the new roots. -/
theorem isChild_append_iff (hp : d.isAlive p = true) (hc : c < d.cells.size) :
    (d.append p ts).2.IsChild q c ↔ d.IsChild q c := by
  have hgrown := grown_append d p ts
  by_cases hq : q < d.cells.size
  · by_cases hqp : p = q
    · subst hqp
      rw [IsChild, IsChild, children_append_self hp, List.mem_append]
      refine or_iff_left fun hr => ?_
      have hle := (hgrown.root c hr).1
      omega
    · rw [IsChild, IsChild, children_append_of_ne hq hqp]
  · constructor
    · intro hchild
      have hq' := lt_size_of_isAlive (isAlive_of_isChild hchild)
      rw [size_append] at hq'
      have hlt := (hgrown.listed q (by omega) hq' c hchild).1
      omega
    · intro hchild
      exact absurd (lt_size_of_isAlive (isAlive_of_isChild hchild)) hq

/-- What was there before is below the same nodes as before. -/
theorem below_append_iff (hp : d.isAlive p = true) (hn : n < d.cells.size) :
    (d.append p ts).2.Below r n ↔ d.Below r n := by
  constructor
  · intro hbelow
    induction hbelow with
    | refl => exact .refl
    | @tail b c _ hc ih =>
      rw [isChild_append_iff hp hn] at hc
      exact (ih (lt_size_of_isAlive (isAlive_of_isChild hc))).tail hc
  · intro hbelow
    induction hbelow with
    | refl => exact .refl
    | @tail b c _ hc ih =>
      refine (ih (lt_size_of_isAlive (isAlive_of_isChild hc))).tail ?_
      exact (isChild_append_iff hp hn).mpr hc

/-- A new node is listed by the one that it names, which is older. -/
theorem isChild_append_new (hp : d.isAlive p = true) (hm : d.cells.size ≤ m)
    (hlink : (d.append p ts).2.link? m = some q) : q < m ∧ (d.append p ts).2.IsChild q m := by
  have hgrown := grown_append d p ts
  have hpsize := lt_size_of_isAlive hp
  have hlt := lt_size_of_isAlive (isAlive_of_link? hlink)
  rw [size_append] at hlt
  rcases hgrown.inner m hm hlt with hr | ⟨q', -, hq', hlink', hmem⟩
  · rw [(hgrown.root m hr).2.2, Option.some.injEq] at hlink
    subst hlink
    refine ⟨by omega, ?_⟩
    rw [IsChild, children_append_self hp]
    exact List.mem_append_right _ hr
  · rw [hlink', Option.some.injEq] at hlink
    exact hlink ▸ ⟨hq', hmem⟩

/-- What is listed names the one that lists it, whichever of the two are new. -/
theorem Linked.link?_append_of_isChild (h : d.Linked) (hp : d.isAlive p = true)
    (hc : (d.append p ts).2.IsChild q c) : (d.append p ts).2.link? c = some q := by
  have hgrown := grown_append d p ts
  by_cases hcsize : c < d.cells.size
  · rw [link?_append_of_lt hcsize]
    exact (parent?_eq_some_iff.mp (h.parent_of_mem q c ((isChild_append_iff hp hcsize).mp hc))).1
  by_cases hq : q < d.cells.size
  · by_cases hqp : p = q
    · subst hqp
      rw [IsChild, children_append_self hp] at hc
      rcases List.mem_append.mp hc with hold | hr
      · exact absurd (lt_size_of_isAlive (h.isAlive_child hold)) hcsize
      · exact (hgrown.root c hr).2.2
    · rw [IsChild, children_append_of_ne hq hqp] at hc
      exact absurd (lt_size_of_isAlive (h.isAlive_child hc)) hcsize
  · have hq' := lt_size_of_isAlive (isAlive_of_isChild hc)
    rw [size_append] at hq'
    exact (hgrown.listed q (by omega) hq' c hc).2.2

theorem Linked.nodup_children_append (h : d.Linked) (hp : d.isAlive p = true) (q : Nat) :
    ((d.append p ts).2.children q).Nodup := by
  have hgrown := grown_append d p ts
  by_cases hq : q < d.cells.size
  · by_cases hqp : p = q
    · subst hqp
      rw [children_append_self hp]
      refine List.nodup_append.mpr ⟨h.nodup p, hgrown.nodup, ?_⟩
      rintro c hc c' hc' rfl
      have hle := (hgrown.root c hc').1
      have hlt := lt_size_of_isAlive (h.isAlive_child hc)
      omega
    · rw [children_append_of_ne hq hqp]
      exact h.nodup q
  · cases halive : (d.append p ts).2.isAlive q with
    | false =>
      rw [children_eq_nil_of_dead halive]
      exact List.nodup_nil
    | true =>
      have hlt := lt_size_of_isAlive halive
      rw [size_append] at hlt
      exact hgrown.nodup_children q (by omega) hlt

/-- Adding markup to a living node keeps a document linked. -/
theorem Linked.append (h : d.Linked) (hp : d.isAlive p = true) (ts : List (Tree NodeKind)) :
    (d.append p ts).2.Linked := by
  constructor
  case root_alive =>
    rw [isAlive_append_of_lt (lt_size_of_isAlive h.root_alive)]
    exact h.root_alive
  case older =>
    intro m q hlink
    by_cases hm : m < d.cells.size
    · exact h.older m q (by rwa [← link?_append_of_lt hm])
    · exact (isChild_append_new hp (by omega) hlink).1
  case parent_of_mem =>
    intro q c hc
    exact parent?_eq_some_iff.mpr ⟨h.link?_append_of_isChild hp hc, isAlive_of_isChild hc⟩
  case nodup => exact h.nodup_children_append hp
  case torn =>
    intro m q hlink hmissing
    obtain ⟨hlink, hq⟩ := parent?_eq_some_iff.mp hlink
    by_cases hm : m < d.cells.size
    · rw [link?_append_of_lt hm] at hlink
      have hqsize : q < d.cells.size := (h.older m q hlink).trans hm
      rw [isAlive_append_of_lt hqsize] at hq
      rw [below_append_iff hp hqsize]
      refine h.torn m q (parent?_eq_some_iff.mpr ⟨hlink, hq⟩) fun hmem => hmissing ?_
      exact (isChild_append_iff hp hm).mpr hmem
    · exact absurd (isChild_append_new hp (by omega) hlink).2 hmissing

/-- New nodes are below the one that they were added to. -/
theorem Linked.below_append_new (h : d.Linked) (hp : d.isAlive p = true) (hn : d.cells.size ≤ n)
    (halive : (d.append p ts).2.isAlive n = true) : (d.append p ts).2.Below p n := by
  have hlt := lt_size_of_isAlive halive
  rw [size_append] at hlt
  have hmem : n ∈ (d.append p ts).1.flatMap (d.append p ts).2.nodes := by
    rw [flatMap_nodes_append, List.mem_range'_1]
    exact ⟨hn, hlt⟩
  obtain ⟨r, hr, hnr⟩ := List.mem_flatMap.mp hmem
  refine .head ?_ ((h.append hp ts).mem_nodes_iff.mp hnr).2
  rw [IsChild, children_append_self hp]
  exact List.mem_append_right _ hr

end MarkupActions.Document
