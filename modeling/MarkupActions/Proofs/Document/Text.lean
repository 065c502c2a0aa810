import MarkupActions.Proofs.Document.Forest
import MarkupActions.Proofs.Document.Search

/-! Text after markup was added. The text of a node is that of the text nodes at and below it, in
document order, so new markup puts its text right after that of the node it was added to, in the
text of this node and of all above it, and nowhere else. What is searched by its id is still found,
as all that is new comes after the node that was found. -/

namespace MarkupActions.Document

variable {d e : Document} {c p r : Nat} {id : String} {ns ms : List NodeId}
  {ts : List (Tree NodeKind)}

/-! ### The text of some nodes -/

/-- The text of the text nodes among some nodes, in the order of these. -/
def textOf (d : Document) (ns : List NodeId) : String :=
  String.join (ns.map fun n => ((d.kind? n).map (·.ownText)).getD "")

theorem textContent_eq (d : Document) (n : NodeId) : d.textContent n = d.textOf (d.nodes n) := rfl

theorem textOf_append : d.textOf (ns ++ ms) = d.textOf ns ++ d.textOf ms := by
  rw [textOf, List.map_append, String.join_append]
  rfl

theorem textOf_flatMap_nodes (d : Document) (ns : List NodeId) :
    d.textOf (ns.flatMap d.nodes) = String.join (ns.map d.textContent) := by
  induction ns with
  | nil => rfl
  | cons n ns ih =>
    rw [List.flatMap_cons, textOf_append, ih, List.map_cons, String.join_cons, textContent_eq]

/-- The text is the same where no node became another. -/
theorem textOf_congr (h : ∀ n ∈ ns, e.kind? n = d.kind? n) : e.textOf ns = d.textOf ns := by
  rw [textOf, textOf]
  congr 1
  exact List.map_congr_left fun n hn => by rw [h n hn]

theorem textOf_nodes_congr (hd : d.Linked)
    (hkind : ∀ m, d.isAlive m = true → e.kind? m = d.kind? m) (hns : ∀ n ∈ ns, n ∈ d.nodes r) :
    e.textOf ns = d.textOf ns :=
  textOf_congr fun n hn => hkind n (hd.isAlive_of_mem_nodes (hns n hn))

/-- The text of new nodes is that of the forest that they were read from. -/
theorem join_textContent_append (d : Document) (p : NodeId) (ts : List (Tree NodeKind)) :
    String.join ((d.append p ts).1.map (d.append p ts).2.textContent) =
      String.join ((Tree.preorderAll ts).map NodeKind.ownText) := by
  have htext := congrArg (List.map fun k : Option NodeKind => (k.map (·.ownText)).getD "")
    (map_nodes_append d p ts)
  rw [List.map_map, List.map_map] at htext
  rw [← textOf_flatMap_nodes]
  exact congrArg String.join htext

/-! ### Documents that differ at one node -/

namespace EditedAt

theorem textContent_of_not_below (h : EditedAt d e p) (hr : d.isAlive r = true)
    (hp : ¬ d.Below r p) : e.textContent r = d.textContent r := by
  rw [textContent_eq, textContent_eq, h.nodes_of_not_below hr hp]
  exact textOf_nodes_congr h.linked h.kind? fun _ hn => hn

/-- What has the edited node below it has the text of that as one block, with the same text before
and after it. -/
theorem textContent_around (h : EditedAt d e p) (hr : d.Below r p) :
    ∃ before after, d.nodes r = before ++ d.nodes p ++ after ∧
      d.textContent r = d.textOf before ++ d.textContent p ++ d.textOf after ∧
      e.textContent r = d.textOf before ++ e.textContent p ++ d.textOf after := by
  obtain ⟨before, after, hold, hnew⟩ := h.nodes_around hr
  have hbefore : e.textOf before = d.textOf before :=
    textOf_nodes_congr (r := r) h.linked h.kind? fun n hn => by simp [hold, hn]
  have hafter : e.textOf after = d.textOf after :=
    textOf_nodes_congr (r := r) h.linked h.kind? fun n hn => by simp [hold, hn]
  refine ⟨before, after, hold, ?_, ?_⟩
  · rw [textContent_eq, hold, textOf_append, textOf_append, textContent_eq]
  · rw [textContent_eq, hnew, textOf_append, textOf_append, hbefore, hafter, textContent_eq]

end EditedAt

/-! ### Adding markup -/

/-- New text comes after that of the node that it was added to. -/
theorem textContent_append_self (hd : d.Linked) (hp : d.isAlive p = true) :
    (d.append p ts).2.textContent p = d.textContent p ++
      String.join ((d.append p ts).1.map (d.append p ts).2.textContent) := by
  rw [textContent_eq, nodes_append_self hd hp, textOf_append, textOf_flatMap_nodes,
    textOf_nodes_congr hd (editedAt_append hd hp ts).kind? fun _ hn => hn]
  rfl

/-- What is found by its id is a living element below the document node. -/
theorem Linked.attached_of_elementById? (hd : d.Linked) (h : d.elementById? id = some c) :
    d.isElement c = true ∧ d.isAlive c = true ∧ d.Below root c := by
  obtain ⟨helement, hroot, hbelow⟩ := hd.mem_elements_iff.mp (mem_elements_of_elementById? h)
  exact ⟨helement, hd.isAlive_of_below hroot hbelow, hbelow⟩

/-- The element with an id is still the first that has it when markup was added to it, whatever ids
the markup has. -/
theorem elementById?_append (hd : d.Linked) (hfound : d.elementById? id = some c)
    (ts : List (Tree NodeKind)) : (d.append c ts).2.elementById? id = some c := by
  obtain ⟨helement, hlives, hbelow⟩ := hd.attached_of_elementById? hfound
  have hedit := editedAt_append hd hlives ts
  obtain ⟨before, after, hold, hnew⟩ := elements_append_around hd hlives hbelow ts
  have hself : d.elements c = c :: (d.children c).flatMap d.elements := by
    rw [hd.elements_eq hlives, if_pos helement]
    rfl
  have hsame (m : Nat) (hm : m ∈ d.elements root) :
      (d.append c ts).2.attribute? m "id" = d.attribute? m "id" := by
    rw [attribute?, attribute?, hedit.kind? m (isAlive_of_isElement (List.mem_filter.mp hm).2)]
  obtain ⟨hid, first, last, hsplit, hfirst⟩ :=
    List.find?_eq_some_iff_append.mp ((elementById?_eq d id).symm.trans hfound)
  -- the element is in the list once, so what comes before it is what comes before its block
  have hbefore : before = first := by
    have hnodup := hd.nodup_elements root
    rw [hold, hself, List.append_assoc, List.cons_append] at hnodup hsplit
    rw [List.nodup_middle, List.nodup_cons, List.mem_append, not_or] at hnodup
    exact ((List.append_cons_inj_of_notMem hnodup.1.1 hnodup.1.2).mp hsplit).1
  subst hbefore
  rw [elementById?_eq, List.find?_eq_some_iff_append, hnew, hself]
  refine ⟨?_, before, _, by rw [List.cons_append, List.append_assoc, List.cons_append],
    fun m hm => ?_⟩
  · rw [hsame c (mem_elements_of_elementById? hfound)]
    exact hid
  · rw [hsame m (by simp [hold, hm])]
    exact hfirst m hm

end MarkupActions.Document
