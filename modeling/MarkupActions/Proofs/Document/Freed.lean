import MarkupActions.Proofs.Document.Kept

/-! What is freed. When nodes are let go, what dies is what is below one of them that dies, all of
it but what is held. -/

namespace MarkupActions.Document

variable {d : Document} {held ns : List NodeId} {k n r : Nat}

theorem isAlive_of_below_alive (hk : d.isAlive k = true) (hbelow : d.Below n k) :
    d.isAlive n = true := by
  rcases Relation.ReflTransGen.cases_head_iff.mp hbelow with rfl | ⟨c, hc, -⟩
  · exact hk
  · exact isAlive_of_isChild hc

theorem lessened_release (held : List NodeId) (n : Nat) : d.Lessened (d.release held n) := by
  rw [Document.release]
  split
  · exact .refl d
  · exact lessened_tearDown n

theorem lessened_foldl_release (held ns : List NodeId) :
    d.Lessened (ns.foldl (·.release held ·) d) := by
  induction ns generalizing d with
  | nil => exact .refl d
  | cons n ns ih => exact (lessened_release held n).trans ih

/-- What is taken out names no parent. -/
theorem parent?_remove_self (d : Document) (n : Nat) : (d.remove n).2.parent? n = none := by
  cases hp : d.parent? n with
  | none => rwa [remove_of_detached hp]
  | some p => rw [parent?_remove hp, if_pos rfl]

namespace Linked

variable (h : d.Linked)
include h

/-- Taking a node out leaves what is below it. -/
theorem below_remove_iff : (d.remove n).2.Below n k ↔ d.Below n k := by
  refine ⟨(lessened_remove n).below, fun hbelow => ?_⟩
  induction hbelow with
  | refl => exact .refl
  | @tail b c hb hc ih =>
    refine ih.tail ?_
    cases hp : d.parent? n with
    | none => rwa [remove_of_detached hp]
    | some p =>
      refine (isChild_remove_iff hp).mpr ⟨hc, ?_⟩
      rintro ⟨-, rfl⟩
      exact h.not_below_parent hc hb

/-- What was taken out is below nothing else. -/
theorem eq_of_below_remove (hr : (d.remove n).2.Below r n) : r = n := by
  rcases Relation.ReflTransGen.cases_tail_iff _ _ _ |>.mp hr with heq | ⟨q, -, hchild⟩
  · exact heq.symm
  · have hparent := (h.remove n).parent_of_mem q n hchild
    rw [parent?_remove_self] at hparent
    cases hparent

/-! ### Letting go of one node -/

theorem dead_tearDown_iff (hk : d.isAlive k = true) :
    (d.tearDown held n).isAlive k = false ↔ d.Below n k ∧ k ∉ held := by
  rw [← Bool.not_eq_true, isAlive_tearDown_iff, h.mem_nodes_iff]
  constructor
  · intro hfreed
    obtain ⟨⟨-, hbelow⟩, hheld⟩ := Classical.not_imp.mp fun hkept => hfreed ⟨hk, hkept⟩
    exact ⟨hbelow, hheld⟩
  · rintro ⟨hbelow, hheld⟩ ⟨-, hkept⟩
    exact hheld (hkept ⟨isAlive_of_below_alive hk hbelow, hbelow⟩)

/-- A node that is let go dies with all that is below it and not held, or nothing dies. -/
theorem dead_release_iff (hk : d.isAlive k = true) :
    (d.release held n).isAlive k = false ↔
      (d.release held n).isAlive n = false ∧ d.Below n k ∧ k ∉ held := by
  rw [Document.release]
  split
  next =>
    refine iff_of_false (by simp [hk]) ?_
    rintro ⟨hdead, hbelow, -⟩
    rw [isAlive_of_below_alive hk hbelow] at hdead
    cases hdead
  next hlost =>
    simp only [Bool.or_eq_true, decide_eq_true_eq, List.contains_iff_mem, not_or] at hlost
    rw [h.dead_tearDown_iff hk, iff_and_self]
    rintro ⟨hbelow, -⟩
    rw [h.dead_tearDown_iff (isAlive_of_below_alive hk hbelow)]
    exact ⟨.refl, hlost.1.2⟩

/-- What lives on without being held is below the same nodes as before. -/
theorem below_release (hk : (d.release held n).isAlive k = true) (hheld : k ∉ held)
    (hbelow : d.Below r k) : (d.release held n).Below r k := by
  rw [Document.release] at hk ⊢
  split
  next => exact hbelow
  next hlost =>
    rw [if_neg hlost] at hk
    exact h.below_tearDown (fun hmem => hheld ((isAlive_tearDown_iff.mp hk).2 hmem)) hbelow

/-! ### Letting go of many -/

/-- Nodes that are let go one after another die with all that is below them and not held, and
nothing else dies. -/
theorem dead_foldl_release_iff (hk : d.isAlive k = true) :
    (ns.foldl (·.release held ·) d).isAlive k = false ↔
      ∃ r ∈ ns, (ns.foldl (·.release held ·) d).isAlive r = false ∧ d.Below r k ∧ k ∉ held := by
  induction ns generalizing d k with
  | nil => simp [hk]
  | cons n ns ih =>
    have hless := lessened_release (d := d) held n
    have hlater := lessened_foldl_release (d := d.release held n) held ns
    have hrest {k : Nat} (hk : (d.release held n).isAlive k = true) := ih (h.release held n) hk
    rw [List.foldl_cons]
    cases hfirst : (d.release held n).isAlive k with
    | false =>
      -- the node dies at once
      refine iff_of_true (hlater.dead hfirst) ?_
      obtain ⟨hn, hbelow, hheld⟩ := (h.dead_release_iff hk).mp hfirst
      exact ⟨n, List.mem_cons_self .., hlater.dead hn, hbelow, hheld⟩
    | true =>
      rw [hrest hfirst]
      constructor
      · rintro ⟨r, hr, hdead, hbelow, hheld⟩
        exact ⟨r, List.mem_cons_of_mem n hr, hdead, hless.below hbelow, hheld⟩
      · rintro ⟨r, hr, hdead, hbelow, hheld⟩
        have hbelow := h.below_release hfirst hheld hbelow
        rcases List.mem_cons.mp hr with rfl | hr
        · -- what was let go first still lived then, and dies with another
          obtain ⟨r', hr', hdead', hbelow', -⟩ :=
            (hrest (isAlive_of_below_alive hfirst hbelow)).mp hdead
          exact ⟨r', hr', hdead', hbelow'.trans hbelow, hheld⟩
        · exact ⟨r, hr, hdead, hbelow, hheld⟩

end Linked

end MarkupActions.Document
