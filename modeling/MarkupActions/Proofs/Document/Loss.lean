import MarkupActions.Proofs.Document.Links

/-! Links and lives that are lost. Taking a node out cuts one link both ways. Tearing a tree down
empties all lists of children in it and frees what is not held, but what is held goes on naming its
parent. Both keep a document linked. -/

namespace MarkupActions.Document

variable {d e : Document} {held : List NodeId} {c m n p q r : Nat}

/-! ### Documents with fewer links -/

/-- A document with some links and lives less: its nodes are what they were, but may name no parent,
and may be missing from lists. -/
structure Lessened (d e : Document) : Prop where
  alive : ∀ m : Nat, e.isAlive m = true → d.isAlive m = true
  link : ∀ m p : Nat, e.link? m = some p → d.link? m = some p
  child : ∀ p : Nat, (e.children p).Sublist (d.children p)

theorem Lessened.refl (d : Document) : d.Lessened d :=
  ⟨fun _ h => h, fun _ _ h => h, fun _ => .refl _⟩

theorem Lessened.trans {f : Document} (h : d.Lessened e) (h' : e.Lessened f) : d.Lessened f where
  alive := fun m hm => h.alive m (h'.alive m hm)
  link := fun m p hp => h.link m p (h'.link m p hp)
  child := fun p => (h'.child p).trans (h.child p)

theorem Lessened.dead (h : d.Lessened e) (hn : d.isAlive n = false) : e.isAlive n = false := by
  rw [Bool.eq_false_iff] at hn ⊢
  exact fun halive => hn (h.alive n halive)

theorem Lessened.below (h : d.Lessened e) (hn : e.Below r n) : d.Below r n :=
  Relation.ReflTransGen.mono (fun p _ hc => (h.child p).subset hc) _ _ hn

theorem Lessened.parent? (h : d.Lessened e) (hp : e.parent? n = some p) : d.parent? n = some p := by
  obtain ⟨hlink, halive⟩ := parent?_eq_some_iff.mp hp
  exact parent?_eq_some_iff.mpr ⟨h.link n p hlink, h.alive p halive⟩

/-- A document stays linked with less in it, if the document node lives, what is in a list lives and
names the node whose list it is, and a node that loses one which names it is cut off. -/
theorem Linked.lessened (h : d.Linked) (hless : d.Lessened e) (hroot : e.isAlive root = true)
    (hlisted : ∀ p c : Nat, e.IsChild p c → e.parent? c = some p)
    (hlost : ∀ n p : Nat, e.parent? n = some p → d.IsChild p n → ¬ e.IsChild p n →
      ¬ e.Below root p) : e.Linked where
  root_alive := hroot
  older := fun n p hlink => h.older n p (hless.link n p hlink)
  parent_of_mem := hlisted
  nodup := fun p => (h.nodup p).sublist (hless.child p)
  torn := by
    intro n p hp hmissing hbelow
    by_cases hlist : d.IsChild p n
    · exact hlost n p hp hlist hmissing hbelow
    · exact h.torn n p (hless.parent? hp) hlist (hless.below hbelow)

/-! ### Taking out -/

theorem isAlive_eq_of_kind? (h : d.kind? n = e.kind? n) : d.isAlive n = e.isAlive n := by
  rw [isAlive, isAlive, ← Option.isSome_map (f := Cell.kind), ← kind?, h, kind?, Option.isSome_map]

theorem isAlive_remove (m : Nat) : (d.remove n).2.isAlive m = d.isAlive m :=
  isAlive_eq_of_kind? (kind?_remove m)

theorem cell?_modify (f : Cell → Cell) (m : Nat) :
    (d.modify n f).cell? m = if n = m then (d.cell? m).map f else d.cell? m := by
  rw [cell?, modify, Array.getElem?_modify, cell?]
  split
  · cases d.cells[m]? <;> rfl
  · rfl

theorem remove_of_detached (h : d.parent? n = none) : d.remove n = (false, d) := by
  rw [remove, h]

theorem children_remove (hp : d.parent? n = some p) (m : Nat) :
    (d.remove n).2.children m =
      if p = m then (d.children m).filter (· ≠ n) else d.children m := by
  rw [remove, hp, children]
  dsimp only
  rw [cell?_modify, cell?_modify, children]
  by_cases hpm : p = m <;> by_cases hnm : n = m <;> cases d.cell? m <;> simp [hpm, hnm]

theorem link?_remove (hp : d.parent? n = some p) (m : Nat) :
    (d.remove n).2.link? m = if n = m then none else d.link? m := by
  rw [remove, hp, link?]
  dsimp only
  rw [cell?_modify, cell?_modify, link?]
  by_cases hpm : p = m <;> by_cases hnm : n = m <;> cases d.cell? m <;> simp [hpm, hnm]

theorem isChild_remove_iff (hp : d.parent? n = some p) :
    (d.remove n).2.IsChild q c ↔ d.IsChild q c ∧ ¬ (q = p ∧ c = n) := by
  rw [IsChild, children_remove hp]
  by_cases hpq : p = q
  · rw [if_pos hpq, List.mem_filter, decide_eq_true_eq]
    simp [IsChild, hpq]
  · rw [if_neg hpq]
    simp [IsChild, Ne.symm hpq]

theorem parent?_remove (hp : d.parent? n = some p) (m : Nat) :
    (d.remove n).2.parent? m = if n = m then none else d.parent? m := by
  have halive : (d.remove n).2.isAlive = d.isAlive := funext isAlive_remove
  rw [parent?, parent?, ← link?, ← link?, link?_remove hp, halive]
  split <;> rfl

theorem lessened_remove (n : Nat) : d.Lessened (d.remove n).2 := by
  cases hp : d.parent? n with
  | none =>
    rw [remove_of_detached hp]
    exact .refl d
  | some p =>
    refine ⟨fun m h => by rwa [isAlive_remove] at h, fun m q h => ?_, fun q => ?_⟩
    · rw [link?_remove hp] at h
      split at h
      · cases h
      · exact h
    · rw [children_remove hp]
      split
      · exact List.filter_sublist
      · exact .refl _

/-- Taking a node out keeps a document linked. -/
theorem Linked.remove (h : d.Linked) (n : Nat) : (d.remove n).2.Linked := by
  cases hp : d.parent? n with
  | none => rwa [remove_of_detached hp]
  | some p =>
    refine h.lessened (lessened_remove n) (by rw [isAlive_remove]; exact h.root_alive) ?_ ?_
    · intro q c hc
      rw [isChild_remove_iff hp] at hc
      rw [parent?_remove hp, if_neg, h.parent_of_mem q c hc.1]
      rintro rfl
      rw [h.parent_of_mem q n hc.1, Option.some.injEq] at hp
      exact hc.2 ⟨hp, rfl⟩
    · intro m q hq hlist hmissing
      rw [isChild_remove_iff hp] at hmissing
      rw [parent?_remove hp] at hq
      split at hq
      · cases hq
      next hne =>
        exact absurd ⟨hlist, fun hsame => hne hsame.2.symm⟩ hmissing

/-! ### Tearing down -/

theorem cell?_tearDown (m : Nat) :
    (d.tearDown held n).cell? m = if m ∈ d.nodes n then
      if m ∈ held then (d.cell? m).map fun c => { c with children := [] } else none
      else d.cell? m := by
  rw [cell?, tearDown, Array.getElem?_mapIdx, cell?]
  by_cases hlost : m ∈ d.nodes n <;> by_cases hheld : m ∈ held <;>
    rcases d.cells[m]? with _ | _ | c <;> simp [hlost, hheld]

theorem isAlive_tearDown_iff :
    (d.tearDown held n).isAlive m = true ↔ d.isAlive m = true ∧ (m ∈ d.nodes n → m ∈ held) := by
  rw [isAlive, cell?_tearDown, isAlive]
  by_cases hlost : m ∈ d.nodes n <;> by_cases hheld : m ∈ held <;> simp [hlost, hheld]

theorem children_tearDown (m : Nat) :
    (d.tearDown held n).children m = if m ∈ d.nodes n then [] else d.children m := by
  rw [children, cell?_tearDown, children]
  by_cases hlost : m ∈ d.nodes n <;> by_cases hheld : m ∈ held <;>
    cases d.cell? m <;> simp [hlost, hheld]

theorem isChild_tearDown_iff :
    (d.tearDown held n).IsChild q c ↔ d.IsChild q c ∧ q ∉ d.nodes n := by
  rw [IsChild, children_tearDown, IsChild]
  split <;> simp_all

theorem link?_tearDown_of_alive (hm : (d.tearDown held n).isAlive m = true) :
    (d.tearDown held n).link? m = d.link? m := by
  have hkept := (isAlive_tearDown_iff.mp hm).2
  rw [link?, cell?_tearDown, link?]
  by_cases hlost : m ∈ d.nodes n
  · rw [if_pos hlost, if_pos (hkept hlost)]
    cases d.cell? m <;> rfl
  · rw [if_neg hlost]

theorem lessened_tearDown (n : Nat) : d.Lessened (d.tearDown held n) where
  alive := fun m h => (isAlive_tearDown_iff.mp h).1
  link := fun m p h => by rwa [← link?_tearDown_of_alive (isAlive_of_link? h)]
  child := by
    intro p
    rw [children_tearDown]
    split
    · exact List.nil_sublist _
    · exact .refl _

theorem isAttached_iff : d.isAttached n = true ↔ ∃ p, d.parent? n = some p ∧ d.IsChild p n := by
  rw [isAttached, Option.any_eq_true]
  simp only [List.contains_iff_mem]
  rfl

theorem Linked.isAttached_iff (h : d.Linked) : d.isAttached n = true ↔ ∃ p, d.IsChild p n := by
  rw [Document.isAttached_iff]
  exact exists_congr fun p => and_iff_right_of_imp fun hc => h.parent_of_mem p n hc

/-- Tearing down a node that is in no list keeps a document linked. The nodes of the tree are in
lists of the tree only, so what is left of other lists names its nodes as before. -/
theorem Linked.tearDown (h : d.Linked) (hroot : n ≠ root) (hfree : ¬ d.isAttached n = true)
    (held : List NodeId) : (d.tearDown held n).Linked := by
  rw [h.isAttached_iff] at hfree
  -- nothing outside of the tree has a node of the tree as a child
  have hclosed (q c : Nat) (hc : d.IsChild q c) (hlost : c ∈ d.nodes n) : q ∈ d.nodes n := by
    obtain ⟨halive, hbelow⟩ := h.mem_nodes_iff.mp hlost
    rcases Relation.ReflTransGen.cases_tail_iff _ _ _ |>.mp hbelow with heq | ⟨b, hb, hchild⟩
    · exact absurd ⟨q, heq ▸ hc⟩ hfree
    · exact h.mem_nodes_iff.mpr ⟨halive, h.parent_unique hchild hc ▸ hb⟩
  have hroot' : root ∉ d.nodes n := by
    intro hlost
    have hle := h.le_of_below (h.mem_nodes_iff.mp hlost).2
    exact hroot (Nat.le_zero.mp hle)
  refine h.lessened (lessened_tearDown n) ?_ ?_ ?_
  · exact isAlive_tearDown_iff.mpr ⟨h.root_alive, fun hlost => absurd hlost hroot'⟩
  · intro q c hc
    obtain ⟨hchild, hq⟩ := isChild_tearDown_iff.mp hc
    have halive : (d.tearDown held n).isAlive c = true :=
      isAlive_tearDown_iff.mpr ⟨h.isAlive_child hchild, fun hlost =>
        absurd (hclosed q c hchild hlost) hq⟩
    refine parent?_eq_some_iff.mpr ⟨?_, isAlive_of_isChild hc⟩
    rw [link?_tearDown_of_alive halive]
    exact (parent?_eq_some_iff.mp (h.parent_of_mem q c hchild)).1
  · intro m p _ hlist hmissing hbelow
    rw [isChild_tearDown_iff] at hmissing
    have hp : p ∈ d.nodes n := by
      by_contra hp
      exact hmissing ⟨hlist, hp⟩
    have hbelow' := (lessened_tearDown n).below hbelow
    -- the tree would be below the document node, but its root is in no list
    rcases h.below_total (h.mem_nodes_iff.mp hp).2 hbelow' with hdown | hup
    · exact hroot (Nat.le_zero.mp (h.le_of_below hdown))
    · rcases Relation.ReflTransGen.cases_tail_iff _ _ _ |>.mp hup with heq | ⟨b, -, hchild⟩
      · exact hroot heq
      · exact hfree ⟨b, hchild⟩

theorem Linked.release (h : d.Linked) (held : List NodeId) (n : Nat) :
    (d.release held n).Linked := by
  rw [Document.release]
  split
  · exact h
  next hlost =>
    simp only [Bool.or_eq_true, decide_eq_true_eq, not_or] at hlost
    exact h.tearDown hlost.1.1 hlost.2 held

end MarkupActions.Document
