import MarkupActions.Proofs.Document.Growth
import MarkupActions.Proofs.Document.Loss

/-! What keeps nodes alive. A node lives exactly as long as it is below the document node or below a
node that is held: each edit frees what it cuts off, as a whole, and nothing else. -/

namespace MarkupActions.Document

variable {d : Document} {held keep : List NodeId} {m n p : Nat} {ts : List (Tree NodeKind)}

/-- Every living node is below the document node or below one of some others. -/
def Kept (d : Document) (keep : List NodeId) : Prop :=
  ∀ n : Nat, d.isAlive n = true → ∃ r, (r = root ∨ r ∈ keep) ∧ d.Below r n

theorem Kept.mono (h : d.Kept held) (hsub : ∀ n ∈ held, n ∈ keep) : d.Kept keep := by
  intro n hn
  obtain ⟨r, hr, hbelow⟩ := h n hn
  exact ⟨r, hr.imp_right (hsub r), hbelow⟩

/-- A node that is below the document node or below one that lives need not be kept by itself. -/
theorem Kept.of_below (h : d.Kept (n :: keep)) (hn : ∃ r, (r = root ∨ r ∈ keep) ∧ d.Below r n) :
    d.Kept keep := by
  intro m hm
  obtain ⟨r, hr, hbelow⟩ := h m hm
  rw [List.mem_cons] at hr
  obtain hr | rfl | hr := hr
  · exact ⟨r, .inl hr, hbelow⟩
  · obtain ⟨r', hr', hbelow'⟩ := hn
    exact ⟨r', hr', hbelow'.trans hbelow⟩
  · exact ⟨r, .inr hr, hbelow⟩

/-! ### Growing -/

theorem kept_ofForest (ts : List (Tree NodeKind)) : (ofForest ts).Kept [] := by
  intro n hn
  have hmem : n ∈ (ofForest ts).nodes root := by
    rw [nodes_ofForest, List.mem_range]
    exact lt_size_of_isAlive hn
  exact ⟨root, .inl rfl, ((linked_ofForest ts).mem_nodes_iff.mp hmem).2⟩

/-- New nodes are kept by what keeps the one that they were added to. -/
theorem Kept.append (h : d.Kept keep) (hd : d.Linked) (hp : d.isAlive p = true)
    (ts : List (Tree NodeKind)) : (d.append p ts).2.Kept keep := by
  have hold (m : Nat) (hm : d.isAlive m = true) :
      ∃ r, (r = root ∨ r ∈ keep) ∧ (d.append p ts).2.Below r m := by
    obtain ⟨r, hr, hbelow⟩ := h m hm
    exact ⟨r, hr, (below_append_iff hp (lt_size_of_isAlive hm)).mpr hbelow⟩
  intro n hn
  by_cases hsize : n < d.cells.size
  · exact hold n (by rwa [isAlive_append_of_lt hsize] at hn)
  · obtain ⟨r, hr, hbelow⟩ := hold p hp
    exact ⟨r, hr, hbelow.trans (hd.below_append_new hp (Nat.le_of_not_lt hsize) hn)⟩

/-! ### Losing -/

/-- What was below a node that is taken out is still below that. -/
theorem Kept.remove (h : d.Kept keep) (n : Nat) : (d.remove n).2.Kept (n :: keep) := by
  cases hp : d.parent? n with
  | none =>
    rw [remove_of_detached hp]
    exact h.mono fun m hm => List.mem_cons_of_mem n hm
  | some p =>
    have hbelow {r m : Nat} (hr : r = root ∨ r ∈ keep) (hm : d.Below r m) :
        ∃ r, (r = root ∨ r ∈ n :: keep) ∧ (d.remove n).2.Below r m := by
      induction hm with
      | refl => exact ⟨r, hr.imp_right (List.mem_cons_of_mem n), .refl⟩
      | @tail b c _ hc ih =>
        by_cases hcn : c = n
        · exact ⟨n, .inr (List.mem_cons_self ..), hcn ▸ .refl⟩
        · obtain ⟨r', hr', hb⟩ := ih
          exact ⟨r', hr', hb.tail ((isChild_remove_iff hp).mpr ⟨hc, fun h => hcn h.2⟩)⟩
    intro m hm
    rw [isAlive_remove] at hm
    obtain ⟨r, hr, hm⟩ := h m hm
    exact hbelow hr hm

/-- What is not in a tree that is torn down is below the same nodes as before. -/
theorem Linked.below_tearDown (h : d.Linked) (hlost : m ∉ d.nodes n) {r : Nat}
    (hbelow : d.Below r m) : (d.tearDown held n).Below r m := by
  induction hbelow using Relation.ReflTransGen.head_induction_on with
  | refl => exact .refl
  | @head b c hc hcm ih =>
    refine .head (isChild_tearDown_iff.mpr ⟨hc, fun hb => hlost ?_⟩) ih
    obtain ⟨hn, hnb⟩ := h.mem_nodes_iff.mp hb
    exact h.mem_nodes_iff.mpr ⟨hn, (hnb.tail hc).trans hcm⟩

/-- What is not in a tree that is torn down is kept as before, and what is held lives on by
itself. -/
theorem Kept.tearDown (hd : d.Linked) (h : d.Kept (n :: keep)) (hheld : ∀ m ∈ held, m ∈ keep) :
    (d.tearDown held n).Kept keep := by
  intro m hm
  obtain ⟨halive, hkept⟩ := isAlive_tearDown_iff.mp hm
  by_cases hlost : m ∈ d.nodes n
  · exact ⟨m, .inr (hheld m (hkept hlost)), .refl⟩
  obtain ⟨r, hr, hbelow⟩ := h m halive
  rw [List.mem_cons] at hr
  obtain hr | rfl | hr := hr
  · exact ⟨r, .inl hr, hd.below_tearDown hlost hbelow⟩
  · -- the root of the tree lives only if it is in it
    refine absurd (hd.mem_nodes_iff.mpr ⟨?_, hbelow⟩) hlost
    rcases Relation.ReflTransGen.cases_head_iff.mp hbelow with rfl | ⟨c, hc, -⟩
    · exact halive
    · exact isAlive_of_isChild hc
  · exact ⟨r, .inr hr, hd.below_tearDown hlost hbelow⟩

/-- A node that is let go is freed with what only it kept. -/
theorem Kept.release (hd : d.Linked) (h : d.Kept (n :: keep)) (hheld : ∀ m ∈ held, m ∈ keep) :
    (d.release held n).Kept keep := by
  rw [Document.release]
  split
  next hkept =>
    simp only [Bool.or_eq_true, decide_eq_true_eq, List.contains_iff_mem] at hkept
    refine h.of_below ?_
    rcases hkept with (hroot | hn) | hattached
    · exact ⟨root, .inl rfl, hroot ▸ .refl⟩
    · exact ⟨n, .inr (hheld n hn), .refl⟩
    · -- its parent is older, so it is kept by something else
      obtain ⟨p, hp⟩ := hd.isAttached_iff.mp hattached
      obtain ⟨r, hr, hbelow⟩ := h p (isAlive_of_isChild hp)
      rw [List.mem_cons] at hr
      obtain hr | rfl | hr := hr
      · exact ⟨r, .inl hr, hbelow.tail hp⟩
      · exact absurd hbelow (hd.not_below_parent hp)
      · exact ⟨r, .inr hr, hbelow.tail hp⟩
  next => exact h.tearDown hd hheld

/-- What is held lives on when another node is let go. -/
theorem isAlive_release_of_mem (hm : m ∈ held) (halive : d.isAlive m = true) :
    (d.release held n).isAlive m = true := by
  rw [release]
  split
  · exact halive
  · exact isAlive_tearDown_iff.mpr ⟨halive, fun _ => hm⟩

/-- Nothing is freed if what is let go is kept by something else. -/
theorem release_eq_self (hd : d.Linked) (h : d.Kept held) (hn : d.isAlive n = true) :
    d.release held n = d := by
  obtain ⟨r, hr, hbelow⟩ := h n hn
  rw [release, if_pos]
  simp only [Bool.or_eq_true, decide_eq_true_eq, List.contains_iff_mem]
  rcases Relation.ReflTransGen.cases_tail_iff _ _ _ |>.mp hbelow with rfl | ⟨p, -, hp⟩
  · exact .inl hr
  · exact .inr (hd.isAttached_iff.mpr ⟨p, hp⟩)

end MarkupActions.Document
