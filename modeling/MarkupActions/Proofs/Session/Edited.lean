import MarkupActions.Html.Parse
import MarkupActions.Proofs.Document.Undo
import MarkupActions.Proofs.Session.Scene

/-! Edits of the document. Adding markup to a node splices the new elements in after what that node
had below it, taking a node out cuts out the elements at and below that, and both leave alone all
other lists, links and orders. Taking out all that was added, in any order, takes the addition
back. -/

namespace MarkupActions

namespace Document

variable {d : Document} {m n p : Nat}

/-- New nodes were added as the last children of a node. -/
structure Spliced (d : Document) (p : NodeId) (new : List NodeId) (e : Document) : Prop where
  /-- No name of a new node was given before. -/
  fresh : ∀ m ∈ new.flatMap e.nodes, d.cells.size ≤ m
  adopted : ∀ n ∈ new, e.parent? n = some p
  children : e.children p = d.children p ++ new
  others : ∀ m : Nat, d.isAlive m = true → m ≠ p → e.children m = d.children m
  parent? : ∀ m : Nat, d.isAlive m = true → e.link? m = d.link? m ∧ e.parent? m = d.parent? m
  /-- The new elements are one block, right after those at and below the node. -/
  block : ∀ r : Nat, d.Below r p → ∃ before after, d.elements r = before ++ d.elements p ++ after ∧
    e.elements r = before ++ (d.elements p ++ new.flatMap e.elements) ++ after
  apart : ∀ r : Nat, d.isAlive r = true → ¬ d.Below r p → e.elements r = d.elements r

/-- A node was taken from its parent, and what is not below it was left alone. -/
structure Cut (d : Document) (p n : NodeId) (e : Document) : Prop where
  children : ∃ before after, d.children p = before ++ n :: after ∧ e.children p = before ++ after
  others : ∀ m : Nat, ¬ d.Below n m → m ≠ p → e.children m = d.children m
  link? : ∀ m : Nat, ¬ d.Below n m → e.link? m = d.link? m
  /-- The elements at and below the node were one block, which is gone from the order of all that is
  above it. -/
  block : ∀ r : Nat, d.Below r n → r ≠ n → ∃ before after,
    d.elements r = before ++ d.elements n ++ after ∧ e.elements r = before ++ after
  apart : ∀ r : Nat, d.isAlive r = true → ¬ d.Below n r → ¬ d.Below r n →
    e.elements r = d.elements r

/-- Additions splice, removals cut, and what was added can be taken back. -/
structure EditsInPlace [MarkupParser] (d : Document) : Prop where
  inserted : ∀ (p : Nat) (html : String), d.isAlive p = true →
    d.Spliced p (d.insertHtml p html).1 (d.insertHtml p html).2
  removed : ∀ p n : Nat, d.IsChild p n → (d.remove n).1 = true ∧ d.Cut p n (d.remove n).2 ∧
    (d.remove n).2.parent? n = none ∧ ∀ m : Nat, m ≠ n → (d.remove n).2.parent? m = d.parent? m
  /-- Nothing more is lost outside when the node is freed. -/
  freed : ∀ (p n : Nat) (held : List NodeId), d.IsChild p n →
    d.Cut p n ((d.remove n).2.release held n)
  /-- What was added is taken back by taking out its nodes, in any order and whatever is held. -/
  undone : ∀ (p : Nat) (html : String) (held order : List NodeId), d.isAlive p = true →
    order.Perm (d.insertHtml p html).1 →
      ((d.insertHtml p html).2.removeAll held order).1 = List.replicate order.length true ∧
        d.Restored ((d.insertHtml p html).2.removeAll held order).2

/-! ### Adding -/

theorem Linked.spliced (hd : d.Linked) (hp : d.isAlive p = true) (ts : List (Tree NodeKind)) :
    d.Spliced p (d.append p ts).1 (d.append p ts).2 := by
  have hedit := editedAt_append hd hp ts
  have hchildren : (d.append p ts).2.children p = d.children p ++ (d.append p ts).1 :=
    children_append_self hp
  constructor
  case fresh =>
    intro m hm
    rw [flatMap_nodes_append, List.mem_range'_1] at hm
    exact hm.1
  case adopted =>
    intro n hn
    refine hedit.linked_after.parent_of_mem p n ?_
    rw [hchildren]
    exact List.mem_append_right _ hn
  case children => exact hchildren
  case others => exact hedit.children
  case parent? =>
    intro m hm
    have hsize := lt_size_of_isAlive hm
    have hlink : (d.append p ts).2.link? m = d.link? m := link?_append_of_lt hsize
    exact ⟨hlink, parent?_congr hlink fun q hq =>
      isAlive_append_of_lt ((hd.older m q hq).trans hsize)⟩
  case block => exact fun r hr => elements_append_around hd hp hr _
  case apart => exact fun r hr hrp => hedit.elements_of_not_below hr hrp

/-! ### Taking out -/

/-- What is above a node, and not it, is at or above its parent. -/
theorem Linked.below_parent {r : Nat} (hd : d.Linked) (hn : d.IsChild p n) (hr : d.Below r n)
    (hne : r ≠ n) : d.Below r p := by
  rcases Relation.ReflTransGen.cases_tail_iff _ _ _ |>.mp hr with heq | ⟨q, hq, hchild⟩
  · exact absurd heq.symm hne
  · exact hd.parent_unique hchild hn ▸ hq

theorem Linked.cut_remove (hd : d.Linked) (hn : d.IsChild p n) : d.Cut p n (d.remove n).2 := by
  have hparent := hd.parent_of_mem p n hn
  have hedit := editedAt_remove hd hparent
  constructor
  case children =>
    obtain ⟨before, after, hold, hnew, -⟩ := children_remove_around hd hn
    exact ⟨before, after, hold, hnew⟩
  case others => exact fun m _ hne => by rw [children_remove hparent, if_neg (Ne.symm hne)]
  case link? =>
    intro m hm
    rw [link?_remove hparent, if_neg]
    rintro rfl
    exact hm .refl
  case block =>
    intro r hr hne
    exact elements_remove_around hd hn (hd.below_parent hn hr hne)
  case apart =>
    intro r hr _ hrn
    exact hedit.elements_of_not_below hr fun hrp => hrn (hrp.tail hn)

/-- Freeing the node leaves alone what is not below it. -/
theorem Linked.cut_release (hd : d.Linked) (hn : d.IsChild p n) (held : List NodeId) :
    d.Cut p n ((d.remove n).2.release held n) := by
  have hcut := hd.cut_remove hn
  have hcell {m : Nat} (hm : ¬ d.Below n m) :
      ((d.remove n).2.release held n).cell? m = (d.remove n).2.cell? m :=
    (hd.remove n).cell?_release fun hbelow => hm (hd.below_remove_iff.mp hbelow)
  constructor
  case children =>
    obtain ⟨before, after, hold, hnew⟩ := hcut.children
    refine ⟨before, after, hold, ?_⟩
    rw [Document.children, hcell (hd.not_below_parent hn), ← Document.children, hnew]
  case others =>
    intro m hm hne
    rw [Document.children, hcell hm, ← Document.children, hcut.others m hm hne]
  case link? =>
    intro m hm
    rw [Document.link?, hcell hm, ← Document.link?, hcut.link? m hm]
  case block =>
    intro r hr hne
    obtain ⟨before, after, hold, hnew⟩ := hcut.block r hr hne
    have hrp := hd.below_parent hn hr hne
    have hlow : ¬ d.Below n r := fun hnr => hd.not_below_parent hn (hnr.trans hrp)
    have halive := isAlive_of_below_alive (isAlive_of_isChild hn) hrp
    exact ⟨before, after, hold, by rw [elements_release_remove hd halive hlow, hnew]⟩
  case apart =>
    intro r hr hnr hrn
    rw [elements_release_remove hd hr hnr, hcut.apart r hr hnr hrn]

end Document

namespace Scene

open Document

section

variable [MarkupParser] {a : Scene}

/-- At every moment of every page, adding markup splices, taking a node out cuts, and what was added
can be taken back. -/
theorem edits_in_place (ha : a.Reached) : a.session.document.EditsInPlace := by
  have hd := ha.sound.coherent.linked
  constructor
  case inserted => exact fun p html hp => hd.spliced hp _
  case removed =>
    intro p n hn
    have hparent := hd.parent_of_mem p n hn
    refine ⟨by rw [remove, hparent], hd.cut_remove hn, parent?_remove_self _ n, fun m hm => ?_⟩
    rw [parent?_remove hparent, if_neg (Ne.symm hm)]
  case freed => exact fun p n held hn => hd.cut_release hn held
  case undone =>
    intro p html held order hp horder
    obtain ⟨hremoved, hnone⟩ := (extends_append hd hp _).removeAll hd hp horder
    exact ⟨hremoved, hnone.restored hd⟩

end

/-- A page with a list, and something after it. -/
def listPage : Session := Session.load "<ul id='a'><li>x</li></ul><i></i>" ⟨.nil⟩ {}

/-- Markup with three top-level nodes, one of which repeats an id. -/
def listMarkup : String := "<li id='a'>y</li>z<li>w</li>"

/-- The new items are between the old one and what comes after the list, and taking the three nodes
out again, one of them held, takes that back. -/
theorem edits_in_place_of_listPage :
    listPage.document.elements root = [1, 2, 3, 4, 5, 7] ∧
      (listPage.document.insertHtml 4 listMarkup).2.elements root = [1, 2, 3, 4, 5, 8, 11, 7] ∧
      listPage.document.Spliced 4 [8, 10, 11] (listPage.document.insertHtml 4 listMarkup).2 ∧
      (listPage.document.remove 4).1 = true ∧
      listPage.document.Cut 3 4 (listPage.document.remove 4).2 ∧
      listPage.document.Cut 3 4 ((listPage.document.remove 4).2.release [5] 4) ∧
      ((listPage.document.insertHtml 4 listMarkup).2.removeAll [8] [11, 8, 10]).1 =
        [true, true, true] ∧
      listPage.document.Restored
        ((listPage.document.insertHtml 4 listMarkup).2.removeAll [8] [11, 8, 10]).2 := by
  have hreached : Reached ⟨listPage, []⟩ := by
    rw [listPage]
    exact ⟨_, [], .load _ _ _, .refl⟩
  have hlives : listPage.document.isAlive 4 = true := by decide +kernel
  have hchild : listPage.document.IsChild 3 4 := by
    rw [IsChild]
    decide +kernel
  have hnew : (listPage.document.insertHtml 4 listMarkup).1 = [8, 10, 11] := by decide +kernel
  refine ⟨by decide +kernel, by decide +kernel, ?_⟩
  -- from here on of any page, as comparing terms of this one would read its markup
  generalize listPage = s at *
  have hedits := edits_in_place hreached
  have hinserted := hedits.inserted 4 listMarkup hlives
  have hundone := hedits.undone 4 listMarkup [8] [11, 8, 10] hlives
  rw [hnew] at hinserted hundone
  obtain ⟨htaken, hrestored⟩ := hundone (by decide)
  obtain ⟨hremoved, hcut, -⟩ := hedits.removed 3 4 hchild
  exact ⟨hinserted, hremoved, hcut, hedits.freed 3 4 [5] hchild, htaken, hrestored⟩

end Scene

end MarkupActions
