import MarkupActions.Document.Basic

/-! Searches that stop at the first node that fits. They go through a tree in document order, so
what they find is the first node of the full list that fits, also where several do. -/

namespace MarkupActions

namespace Tree

variable {α : Type}

mutual

/-- A search finds the first label in document order that fits. -/
theorem find?_eq (p : α → Bool) (t : Tree α) : find? p t = (preorder t).find? p := by
  cases t with
  | node a ts =>
    rw [find?, preorder, List.find?_cons, findAll?_eq]
    cases p a <;> rfl

theorem findAll?_eq (p : α → Bool) (ts : List (Tree α)) :
    findAll? p ts = (preorderAll ts).find? p := by
  cases ts with
  | nil => rfl
  | cons t ts =>
    rw [findAll?, preorderAll, List.find?_append, find?_eq, findAll?_eq]
    cases (preorder t).find? p <;> rfl

end

end Tree

namespace Document

variable {d : Document} {n : Nat} {id : String}

/-- A search finds the first element at or below a node that fits. -/
theorem findElement?_eq (d : Document) (n : Nat) (p : Nat → Bool) :
    d.findElement? n p = (d.elements n).find? p := by
  rw [findElement?, Tree.findAll?_eq, elements, nodes, List.find?_filter]
  simp only [Bool.decide_and, Bool.decide_eq_true]

theorem elementById?_eq (d : Document) (id : String) :
    d.elementById? id = (d.elements root).find? fun n => d.attribute? n "id" = some id :=
  findElement?_eq d root _

theorem mem_elements_of_elementById? (h : d.elementById? id = some n) : n ∈ d.elements root := by
  rw [elementById?_eq] at h
  exact List.mem_of_find?_eq_some h

end Document

end MarkupActions
