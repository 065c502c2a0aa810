import MarkupActions.Proofs.Document.Freed

/-! Document order after an edit. Adding markup and taking a node out change one list of children,
so in the order of all that has the edited node below it one block changes, and all else stays where
it was. New markup is one block after what the node had below it, and a node that is taken out takes
with it the block of what is below it. -/

namespace MarkupActions.Document

variable {d e : Document} {c m n p r : Nat} {held : List NodeId} {ts : List (Tree NodeKind)}

/-! ### The same below a node -/

/-- What has the same children all the way down has the same nodes in the same order. -/
theorem Linked.nodes_congr (hd : d.Linked) (he : e.Linked) (hr : d.isAlive r = true)
    (hsame : ∀ m, d.Below r m → e.isAlive m = true ∧ e.children m = d.children m) :
    e.nodes r = d.nodes r := by
  induction r using hd.induction with
  | step r ih =>
    obtain ⟨hr', hchildren⟩ := hsame r .refl
    rw [he.nodes_eq hr', hd.nodes_eq hr, hchildren]
    congr 1
    refine List.flatMap_congr fun c hc => ?_
    exact ih c hc (hd.isAlive_child hc) fun m hm => hsame m (.head hc hm)

theorem isElement_eq_of_kind? (h : e.kind? m = d.kind? m) : e.isElement m = d.isElement m := by
  rw [isElement, isElement, h]

/-- What has the same cells all the way down has the same elements in the same order. -/
theorem Linked.elements_congr (hd : d.Linked) (he : e.Linked) (hr : d.isAlive r = true)
    (hsame : ∀ m, d.Below r m → e.cell? m = d.cell? m) : e.elements r = d.elements r := by
  have hnodes : e.nodes r = d.nodes r := hd.nodes_congr he hr fun m hm => by
    have halive := hd.isAlive_of_below hr hm
    rw [isAlive, children, hsame m hm]
    exact ⟨halive, rfl⟩
  rw [elements, elements, hnodes]
  refine List.filter_congr fun m hm => isElement_eq_of_kind? ?_
  rw [kind?, kind?, hsame m (hd.mem_nodes_iff.mp hm).2]

/-- The elements among living nodes are the same where no node became another. -/
theorem filter_isElement_congr (hkind : ∀ m, d.isAlive m = true → e.kind? m = d.kind? m)
    {ns : List Nat} (hns : ∀ m ∈ ns, d.isAlive m = true) :
    ns.filter e.isElement = ns.filter d.isElement :=
  List.filter_congr fun m hm => isElement_eq_of_kind? (hkind m (hns m hm))

theorem Linked.isAlive_of_mem_nodes (hd : d.Linked) (hm : m ∈ d.nodes r) : d.isAlive m = true := by
  obtain ⟨hr, hbelow⟩ := hd.mem_nodes_iff.mp hm
  exact hd.isAlive_of_below hr hbelow

theorem flatMap_elements (d : Document) (ns : List Nat) :
    ns.flatMap d.elements = (ns.flatMap d.nodes).filter d.isElement :=
  List.filter_flatMap.symm

/-- A child stands between its siblings, and none of these is it. -/
theorem Linked.children_around (hd : d.Linked) (hc : d.IsChild p c) :
    ∃ before after, d.children p = before ++ c :: after ∧
      ∀ c' ∈ before ++ after, d.IsChild p c' ∧ c' ≠ c := by
  obtain ⟨before, after, hsplit⟩ := List.append_of_mem hc
  have hnodup := hd.nodup p
  rw [hsplit, List.nodup_middle, List.nodup_cons] at hnodup
  refine ⟨before, after, hsplit, fun c' hc' => ⟨?_, ne_of_mem_of_not_mem hc' hnodup.1⟩⟩
  rw [IsChild, hsplit]
  exact (List.perm_middle.mem_iff).mpr (List.mem_cons_of_mem c hc')

/-! ### Documents that differ at one node -/

/-- An edit that changed the children of one node at most, as far as living nodes go. -/
structure EditedAt (d e : Document) (p : NodeId) : Prop where
  linked : d.Linked
  linked_after : e.Linked
  kind? : ∀ m : Nat, d.isAlive m = true → e.kind? m = d.kind? m
  children : ∀ m : Nat, d.isAlive m = true → m ≠ p → e.children m = d.children m

namespace EditedAt

theorem isAlive (h : EditedAt d e p) (hm : d.isAlive m = true) : e.isAlive m = true :=
  (isAlive_eq_of_kind? (h.kind? m hm)).trans hm

theorem filter_isElement (h : EditedAt d e p) {ns : List Nat}
    (hns : ∀ m ∈ ns, d.isAlive m = true) : ns.filter e.isElement = ns.filter d.isElement :=
  filter_isElement_congr h.kind? hns

/-- Nothing changes at and below what does not have the edited node below it. -/
theorem nodes_of_not_below (h : EditedAt d e p) (hr : d.isAlive r = true) (hp : ¬ d.Below r p) :
    e.nodes r = d.nodes r := by
  refine h.linked.nodes_congr h.linked_after hr fun m hm => ?_
  have halive := h.linked.isAlive_of_below hr hm
  exact ⟨h.isAlive halive, h.children m halive fun heq => hp (heq ▸ hm)⟩

theorem elements_of_not_below (h : EditedAt d e p) (hr : d.isAlive r = true)
    (hp : ¬ d.Below r p) : e.elements r = d.elements r := by
  rw [elements, elements, h.nodes_of_not_below hr hp]
  exact h.filter_isElement fun m hm => h.linked.isAlive_of_mem_nodes hm

theorem nodes_of_child (h : EditedAt d e p) (hc : d.IsChild p c) : e.nodes c = d.nodes c :=
  h.nodes_of_not_below (h.linked.isAlive_child hc) (h.linked.not_below_parent hc)

/-- What has the edited node below it has the nodes of that as one block, with the same before and
after it. -/
theorem nodes_around (h : EditedAt d e p) (hp : d.Below r p) :
    ∃ before after, d.nodes r = before ++ d.nodes p ++ after ∧
      e.nodes r = before ++ e.nodes p ++ after := by
  -- along the path down to the edited node; no other child has that below it
  induction hp using Relation.ReflTransGen.head_induction_on with
  | refl => exact ⟨[], [], by simp, by simp⟩
  | @head r c hc hcp ih =>
    obtain ⟨before, after, hold, hnew⟩ := ih
    obtain ⟨left, right, hsplit, hothers⟩ := h.linked.children_around hc
    have hr := isAlive_of_isChild hc
    have hne : r ≠ p := by
      rintro rfl
      exact h.linked.not_below_parent hc hcp
    have hsame (c' : Nat) (hc' : c' ∈ left ++ right) : e.nodes c' = d.nodes c' := by
      obtain ⟨hchild, hother⟩ := hothers c' hc'
      refine h.nodes_of_not_below (h.linked.isAlive_child hchild) fun hbelow => ?_
      exact hother (h.linked.child_unique hchild hc hbelow hcp)
    have hleft : left.flatMap e.nodes = left.flatMap d.nodes :=
      List.flatMap_congr fun c' hc' => hsame c' (List.mem_append_left right hc')
    have hright : right.flatMap e.nodes = right.flatMap d.nodes :=
      List.flatMap_congr fun c' hc' => hsame c' (List.mem_append_right left hc')
    refine ⟨r :: left.flatMap d.nodes ++ before, after ++ right.flatMap d.nodes, ?_, ?_⟩
    · rw [h.linked.nodes_eq hr, hsplit, List.flatMap_append, List.flatMap_cons, hold]
      simp only [List.append_assoc, List.cons_append]
    · rw [h.linked_after.nodes_eq (h.isAlive hr), h.children r hr hne, hsplit,
        List.flatMap_append, List.flatMap_cons, hleft, hright, hnew]
      simp only [List.append_assoc, List.cons_append]

/-- The same for what the nodes of the edited one are split into. -/
theorem elements_around (h : EditedAt d e p) (hp : d.Below r p) {xs ys zs ys' : List Nat}
    (hold : d.nodes p = xs ++ ys ++ zs) (hnew : e.nodes p = xs ++ ys' ++ zs) :
    ∃ before after, d.elements r = before ++ ys.filter d.isElement ++ after ∧
      e.elements r = before ++ ys'.filter e.isElement ++ after := by
  obtain ⟨before, after, hr, hr'⟩ := h.nodes_around hp
  rw [hold] at hr
  rw [hnew] at hr'
  have halive (m : Nat) (hm : m ∈ before ++ (xs ++ ys ++ zs) ++ after) : d.isAlive m = true := by
    rw [← hr] at hm
    exact h.linked.isAlive_of_mem_nodes hm
  refine ⟨(before ++ xs).filter d.isElement, (zs ++ after).filter d.isElement, ?_, ?_⟩
  · rw [elements, hr]
    simp only [List.filter_append, List.append_assoc]
  · have hbefore := h.filter_isElement fun m (hm : m ∈ before ++ xs) => halive m (by grind)
    have hafter := h.filter_isElement fun m (hm : m ∈ zs ++ after) => halive m (by grind)
    rw [elements, hr', ← hbefore, ← hafter]
    simp only [List.filter_append, List.append_assoc]

end EditedAt

/-! ### Adding markup -/

theorem editedAt_append (hd : d.Linked) (hp : d.isAlive p = true) (ts : List (Tree NodeKind)) :
    EditedAt d (d.append p ts).2 p where
  linked := hd
  linked_after := hd.append hp ts
  kind? := fun _ hm => kind?_append_of_lt (lt_size_of_isAlive hm)
  children := fun _ hm hne => children_append_of_ne (lt_size_of_isAlive hm) (Ne.symm hne)

/-- New markup comes after what was below the node that it was added to. -/
theorem nodes_append_self (hd : d.Linked) (hp : d.isAlive p = true) :
    (d.append p ts).2.nodes p =
      d.nodes p ++ (d.append p ts).1.flatMap (d.append p ts).2.nodes := by
  have hedit := editedAt_append hd hp ts
  have hold : (d.children p).flatMap (d.append p ts).2.nodes = (d.children p).flatMap d.nodes :=
    List.flatMap_congr fun c hc => hedit.nodes_of_child hc
  rw [hedit.linked_after.nodes_eq (hedit.isAlive hp), children_append_self hp,
    List.flatMap_append, hold, hd.nodes_eq hp, List.cons_append]
  rfl

/-- New markup is one block in document order, right after what was below its parent. -/
theorem elements_append_around (hd : d.Linked) (hp : d.isAlive p = true) (hr : d.Below r p)
    (ts : List (Tree NodeKind)) :
    ∃ before after, d.elements r = before ++ d.elements p ++ after ∧
      (d.append p ts).2.elements r = before ++ (d.elements p ++
        (d.append p ts).1.flatMap (d.append p ts).2.elements) ++ after := by
  have hedit := editedAt_append hd hp ts
  have hold : d.nodes p = [] ++ d.nodes p ++ [] := by simp
  have hnew : (d.append p ts).2.nodes p = [] ++
      (d.nodes p ++ (d.append p ts).1.flatMap (d.append p ts).2.nodes) ++ [] := by
    rw [nodes_append_self hd hp]
    simp
  obtain ⟨before, after, hbefore, hafter⟩ := hedit.elements_around hr hold hnew
  refine ⟨before, after, hbefore, ?_⟩
  rw [hafter, List.filter_append, flatMap_elements,
    hedit.filter_isElement fun m hm => hd.isAlive_of_mem_nodes hm]
  rfl

/-- What was there before is met below the same nodes as before. -/
theorem mem_elements_append_of_lt (hd : d.Linked) (hp : d.isAlive p = true)
    (hr : d.isAlive r = true) (hn : n < d.cells.size) :
    n ∈ (d.append p ts).2.elements r ↔ n ∈ d.elements r := by
  rw [(hd.append hp ts).mem_elements_iff, hd.mem_elements_iff, below_append_iff hp hn,
    isElement_eq_of_kind? (kind?_append_of_lt hn), isAlive_append_of_lt (lt_size_of_isAlive hr)]

/-- What is new is met below all that has the edited node below it. -/
theorem mem_elements_append_new (hd : d.Linked) (hr : d.isAlive r = true) (hp : d.Below r p)
    (hn : d.cells.size ≤ n) (helement : (d.append p ts).2.isElement n = true) :
    n ∈ (d.append p ts).2.elements r := by
  have hlives := hd.isAlive_of_below hr hp
  refine (hd.append hlives ts).mem_elements_iff.mpr ⟨helement, ?_, ?_⟩
  · rwa [isAlive_append_of_lt (lt_size_of_isAlive hr)]
  · exact ((below_append_iff hlives (lt_size_of_isAlive hlives)).mpr hp).trans
      (hd.below_append_new hlives hn (isAlive_of_isElement helement))

/-! ### Taking a node out -/

theorem editedAt_remove (hd : d.Linked) (hp : d.parent? n = some p) :
    EditedAt d (d.remove n).2 p where
  linked := hd
  linked_after := hd.remove n
  kind? := fun m _ => kind?_remove m
  children := fun m _ hne => by rw [children_remove hp, if_neg (Ne.symm hne)]

/-- A node that is taken out is missing from the list of its parent, and the others keep their
places. -/
theorem children_remove_around (hd : d.Linked) (hn : d.IsChild p n) :
    ∃ before after, d.children p = before ++ n :: after ∧
      (d.remove n).2.children p = before ++ after ∧ ∀ c ∈ before ++ after, d.IsChild p c := by
  obtain ⟨before, after, hsplit, hothers⟩ := hd.children_around hn
  refine ⟨before, after, hsplit, ?_, fun c hc => (hothers c hc).1⟩
  have hkept : (before ++ after).filter (· ≠ n) = before ++ after :=
    List.filter_eq_self.mpr fun c hc => decide_eq_true (hothers c hc).2
  rw [children_remove (hd.parent_of_mem p n hn), if_pos rfl, hsplit, List.filter_append,
    List.filter_cons_of_neg (by simp), ← List.filter_append, hkept]

/-- What is above a node that is taken out loses the block of that node, and nothing else. -/
theorem elements_remove_around (hd : d.Linked) (hn : d.IsChild p n) (hr : d.Below r p) :
    ∃ before after, d.elements r = before ++ d.elements n ++ after ∧
      (d.remove n).2.elements r = before ++ after := by
  have hedit := editedAt_remove hd (hd.parent_of_mem p n hn)
  have hp := isAlive_of_isChild hn
  obtain ⟨left, right, hold, hnew, hothers⟩ := children_remove_around hd hn
  have hsame : (left ++ right).flatMap (d.remove n).2.nodes = (left ++ right).flatMap d.nodes :=
    List.flatMap_congr fun c hc => hedit.nodes_of_child (hothers c hc)
  have hnodes : d.nodes p = (p :: left.flatMap d.nodes) ++ d.nodes n ++ right.flatMap d.nodes := by
    rw [hd.nodes_eq hp, hold, List.flatMap_append, List.flatMap_cons]
    simp only [List.append_assoc, List.cons_append]
  have hnodes' : (d.remove n).2.nodes p =
      (p :: left.flatMap d.nodes) ++ [] ++ right.flatMap d.nodes := by
    rw [hedit.linked_after.nodes_eq (hedit.isAlive hp), hnew, hsame, List.flatMap_append]
    simp only [List.append_nil, List.cons_append]
  obtain ⟨before, after, hbefore, hafter⟩ := hedit.elements_around hr hnodes hnodes'
  refine ⟨before, after, hbefore, ?_⟩
  rw [hafter, List.filter_nil, List.append_nil]

/-! ### Freeing -/

/-- What is let go takes no cell from what is not below it. -/
theorem Linked.cell?_release (hd : d.Linked) (hm : ¬ d.Below n m) :
    (d.release held n).cell? m = d.cell? m := by
  rw [Document.release]
  split
  · rfl
  · rw [cell?_tearDown, if_neg fun hmem => hm (hd.mem_nodes_iff.mp hmem).2]

/-- Freeing what was taken out leaves document order alone elsewhere. -/
theorem elements_release_remove (hd : d.Linked) (hr : d.isAlive r = true) (hn : ¬ d.Below n r) :
    ((d.remove n).2.release held n).elements r = (d.remove n).2.elements r := by
  have hremoved := hd.remove n
  refine hremoved.elements_congr (hremoved.release held n) ((isAlive_remove r).trans hr) ?_
  intro m hm
  refine hremoved.cell?_release fun hnm => ?_
  rcases hremoved.below_total hnm hm with hdown | hup
  · exact hn (hd.below_remove_iff.mp hdown)
  · exact hn (hd.eq_of_below_remove hup ▸ .refl)

end MarkupActions.Document
