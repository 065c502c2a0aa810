import MarkupActions.Proofs.Binder.Pass
import MarkupActions.Proofs.Document.Links

/-! Stale entries. Two binders whose entries for living nodes are the same tell the same of every
living node, whatever entries of freed nodes either still has, and a pass counts the same with
both. So it does not matter what a pass forgets of the freed ones first, be it all or nothing. -/

namespace MarkupActions

open Document

theorem findSome?_congr {α β : Type} {f g : α → Option β} {l : List α}
    (h : ∀ a ∈ l, f a = g a) : l.findSome? f = l.findSome? g := by
  induction l with
  | nil => rfl
  | cons a l ih =>
    rw [List.findSome?_cons, List.findSome?_cons, h a (by simp), ih fun m hm => h m (by simp [hm])]

namespace Binder

variable {d e : Document} {b c : Binder} {report : BindReport} {n : Nat} {ns : List Nat}

/-- Two binders that look for the same attribute and have the same entries for living nodes. -/
structure Agree (d : Document) (b c : Binder) : Prop where
  actionAttribute : b.actionAttribute = c.actionAttribute
  living : (b.sweep d).bound = (c.sweep d).bound

theorem Agree.refl (d : Document) (b : Binder) : Agree d b b := ⟨rfl, rfl⟩

theorem Agree.symm (h : Agree d b c) : Agree d c b := ⟨h.actionAttribute.symm, h.living.symm⟩

theorem Agree.trans {b' : Binder} (h : Agree d b c) (h' : Agree d c b') : Agree d b b' :=
  ⟨h.actionAttribute.trans h'.actionAttribute, h.living.trans h'.living⟩

/-- Forgetting what was freed leaves the entries of living nodes. -/
theorem agree_sweep (d : Document) (b : Binder) : Agree d (b.sweep d) b where
  actionAttribute := rfl
  living := by simp [sweep]

/-! ### Answers -/

theorem Agree.action? (h : Agree d b c) (hn : d.isAlive n = true) : b.action? n = c.action? n := by
  have hliving : (b.sweep d).action? n = (c.sweep d).action? n := by
    rw [Binder.action?, Binder.action?, h.living]
  rwa [action?_sweep, action?_sweep, if_pos hn, if_pos hn] at hliving

theorem Agree.isBound (h : Agree d b c) (n : Nat) : b.isBound d n = c.isBound d n := by
  rw [Binder.isBound, Binder.isBound]
  cases hn : d.isAlive n with
  | true => rw [h.action? hn]
  | false => rw [Bool.and_false, Bool.and_false]

theorem isSome_action?_iff : (b.action? n).isSome = true ↔ n ∈ b.bound.map (·.1) := by
  rw [← not_iff_not, Bool.not_eq_true, Option.isSome_eq_false_iff, Option.isNone_iff_eq_none,
    action?, List.lookup_eq_none_iff, List.mem_map]
  simp only [bne_iff_ne, not_exists, not_and]
  exact forall₂_congr fun _ _ => ne_comm

/-- The entries of living nodes are those of the nodes that are bound. -/
theorem mem_sweep_iff : n ∈ (b.sweep d).bound.map (·.1) ↔ b.isBound d n = true := by
  rw [← isSome_action?_iff, action?_sweep, Binder.isBound]
  cases d.isAlive n <;> simp

theorem boundCount_eq_length (b : Binder) (d : Document) :
    b.boundCount d = (b.sweep d).bound.length := by
  rw [boundCount, List.countP_eq_length_filter]
  rfl

theorem Agree.boundCount (h : Agree d b c) : b.boundCount d = c.boundCount d := by
  rw [boundCount_eq_length, boundCount_eq_length, h.living]

/-- On the way up from a living node there are only living ones, and no stale entry is met. -/
theorem Agree.handler? (h : Agree d b c) (hd : d.Linked) (hn : d.isAlive n = true) :
    b.handler? d n = c.handler? d n := by
  rw [Binder.handler?, Binder.handler?]
  refine findSome?_congr fun m hm => ?_
  rw [h.action? (hd.isAlive_of_mem_chain hn hm)]

/-! ### Passes -/

theorem Agree.consider (h : Agree d b c) (report : BindReport) (hn : d.isAlive n = true) :
    (consider d (report, b) n).1 = (consider d (report, c) n).1 ∧
      Agree d (consider d (report, b) n).2 (consider d (report, c) n).2 := by
  simp only [Binder.consider, ← h.actionAttribute, ← h.action? hn]
  cases d.attribute? n b.actionAttribute with
  | none => exact ⟨rfl, h⟩
  | some value =>
    by_cases hbound : (b.action? n).isSome
    · simp only [if_pos hbound, and_self, h]
    · by_cases hblank : Text.trimmed value = ""
      · simp only [if_neg hbound, if_pos hblank, h, and_self]
      · simp only [if_neg hbound, if_neg hblank, true_and]
        refine ⟨rfl, ?_⟩
        have hliving := h.living
        simp only [sweep] at hliving ⊢
        rw [List.filter_append, List.filter_append, hliving]

theorem Agree.foldl_consider (h : Agree d b c) (report : BindReport)
    (hns : ∀ n ∈ ns, d.isAlive n = true) :
    (ns.foldl (Binder.consider d) (report, b)).1 = (ns.foldl (Binder.consider d) (report, c)).1 ∧
      Agree d (ns.foldl (Binder.consider d) (report, b)).2
        (ns.foldl (Binder.consider d) (report, c)).2 := by
  induction ns generalizing report b c with
  | nil => exact ⟨rfl, h⟩
  | cons n ns ih =>
    obtain ⟨hreport, hbinder⟩ := h.consider report (hns n (by simp))
    have hrest := ih hbinder (Binder.consider d (report, b) n).1 fun m hm => hns m (by simp [hm])
    rw [List.foldl_cons, List.foldl_cons]
    rwa [← Prod.eta (Binder.consider d (report, c) n), ← hreport]

/-- A way to go over the elements at and below a node. -/
abbrev Pass := Binder → Document → NodeId → BindReport × Binder

/-- The pass of a binder that never forgets. -/
def scan : Pass := fun b d n => (d.elements n).foldl (consider d) ({}, b)

/-- Whether a pass, before it goes over the elements, forgets nothing but entries of freed nodes. -/
def Pass.SparesLiving (p : Pass) : Prop :=
  ∀ b d, ∃ c : Binder, Agree d c b ∧ c.bound ⊆ b.bound ∧ ∀ n, p b d n = c.scan d n

theorem sparesLiving_pass : Pass.SparesLiving pass := fun b d =>
  ⟨b.sweep d, agree_sweep d b, List.filter_subset_self _, fun _ => rfl⟩

theorem sparesLiving_scan : Pass.SparesLiving scan := fun b d =>
  ⟨b, .refl d b, List.Subset.refl _, fun _ => rfl⟩

variable {p p' : Pass}

/-- Passes count the same with binders that agree and leave them in agreement, whatever either
forgets of freed nodes. -/
theorem Agree.pass (hp : p.SparesLiving) (hp' : p'.SparesLiving) (h : Agree d b c) (n : Nat) :
    (p b d n).1 = (p' c d n).1 ∧ Agree d (p b d n).2 (p' c d n).2 := by
  obtain ⟨b', hb, -, hscan⟩ := hp b d
  obtain ⟨c', hc, -, hscan'⟩ := hp' c d
  rw [hscan, hscan']
  have hstart : Agree d b' c' := (hb.trans h).trans hc.symm
  exact hstart.foldl_consider {} fun m hm => isAlive_of_isElement (List.mem_filter.mp hm).2

/-- A pass adds entries for elements that it meets. -/
theorem Pass.SparesLiving.mem_bound (hp : p.SparesLiving) {x : NodeId × String}
    (hx : x ∈ (p b d n).2.bound) : x ∈ b.bound ∨ x.1 ∈ d.elements n := by
  obtain ⟨c, -, hbound, hscan⟩ := hp b d
  rw [hscan] at hx
  exact (mem_bound_foldl_consider hx).imp_left fun hmem => hbound hmem

/-! ### Later documents -/

/-- Entries are for names that were given. -/
def Within (d : Document) (b : Binder) : Prop := ∀ x ∈ b.bound, x.1 < d.cells.size

/-- In a later document fewer of the nodes with entries live, and so the binders still agree. -/
theorem Agree.descends (h : Agree d b c) (hb : b.Within d) (hc : c.Within d)
    (hde : d.Descends e) : Agree e b c := by
  have htwice {b : Binder} (hb : b.Within d) :
      (b.sweep e).bound = (b.sweep d).bound.filter fun x => e.isAlive x.1 := by
    rw [sweep, sweep, List.filter_filter]
    refine List.filter_congr fun x hx => ?_
    cases hx' : e.isAlive x.1 with
    | false => rfl
    | true => rw [hde.isAlive (hb x hx) hx']; rfl
  refine ⟨h.actionAttribute, ?_⟩
  rw [htwice hb, htwice hc, h.living]

theorem Within.descends (h : b.Within d) (hde : d.Descends e) : b.Within e :=
  fun x hx => Nat.lt_of_lt_of_le (h x hx) hde.size

theorem Within.pass (h : b.Within d) (hp : p.SparesLiving) (n : Nat) : (p b d n).2.Within d := by
  intro x hx
  rcases hp.mem_bound hx with hold | hmet
  · exact h x hold
  · exact lt_size_of_isElement (List.mem_filter.mp hmet).2

end Binder

end MarkupActions
