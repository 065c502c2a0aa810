import Mathlib.Data.Set.Card
import MarkupActions.Proofs.Binder.Stale

/-! What a pass counts. Each element with the action attribute is counted once: as bound by the
pass, as bound before, or as one that declares no action. What was bound before the pass decides
which, so a second pass finds all that the first one bound, and two passes come to the same entries
in either order. -/

namespace MarkupActions

theorem countP_eq_ncard {l : List Nat} (h : l.Nodup) (p : Nat → Bool) :
    l.countP p = {n | n ∈ l ∧ p n = true}.ncard := by
  have hset : {n | n ∈ l ∧ p n = true} = ↑(l.filter p).toFinset := by
    ext n
    rw [List.coe_toFinset, Set.mem_ofPred_eq, Set.mem_ofPred_eq, List.mem_filter]
  rw [hset, Set.ncard_coe_finset, List.toFinset_card_of_nodup (h.filter p),
    List.countP_eq_length_filter]

theorem countP_cons_eq {α : Type} (p : α → Bool) (a : α) (l : List α) :
    (a :: l).countP p = (p a).toNat + l.countP p := by
  rw [List.countP_cons, add_comm]
  cases p a <;> rfl

namespace BindReport

/-- The number of elements that a pass counted. -/
def total (r : BindReport) : Nat := r.bound + r.alreadyBound + r.skippedEmpty

theorem add_assoc (q r s : BindReport) : q + r + s = q + (r + s) :=
  (BindReport.mk.injEq ..).mpr ⟨Nat.add_assoc .., Nat.add_assoc .., Nat.add_assoc ..⟩

theorem zero_add (r : BindReport) : {} + r = r :=
  (BindReport.mk.injEq ..).mpr ⟨Nat.zero_add _, Nat.zero_add _, Nat.zero_add _⟩

end BindReport

namespace Binder

variable {d : Document} {b c : Binder} {report : BindReport} {n m r r' : Nat} {ns : List Nat}

/-! ### Kinds of elements -/

/-- Whether an element has the action attribute. -/
def carries (d : Document) (b : Binder) (n : NodeId) : Bool :=
  (d.attribute? n b.actionAttribute).isSome

/-- Whether a pass is to bind an element. -/
def binds (d : Document) (b : Binder) (n : NodeId) : Bool :=
  (b.action? n).isNone && (d.declared? b.actionAttribute n).isSome

/-- Whether a pass finds an element bound. -/
def finds (d : Document) (b : Binder) (n : NodeId) : Bool :=
  b.carries d n && (b.action? n).isSome

/-- Whether a pass goes on past an element, as its action is blank. -/
def skips (d : Document) (b : Binder) (n : NodeId) : Bool :=
  b.carries d n && (b.action? n).isNone && (d.declared? b.actionAttribute n).isNone

theorem binds_iff : b.binds d n = true ↔
    b.action? n = none ∧ (d.declared? b.actionAttribute n).isSome = true := by
  rw [binds, Bool.and_eq_true, Option.isNone_iff_eq_none]

theorem finds_iff : b.finds d n = true ↔
    b.carries d n = true ∧ (b.action? n).isSome = true := by
  rw [finds, Bool.and_eq_true]

theorem skips_iff : b.skips d n = true ↔
    b.carries d n = true ∧ b.action? n = none ∧ d.declared? b.actionAttribute n = none := by
  rw [skips, Bool.and_eq_true, Bool.and_eq_true, Option.isNone_iff_eq_none,
    Option.isNone_iff_eq_none, and_assoc]

theorem carries_of_declared? (h : (d.declared? b.actionAttribute n).isSome = true) :
    b.carries d n = true := by
  obtain ⟨action, haction⟩ := Option.isSome_iff_exists.mp h
  obtain ⟨value, hvalue, -⟩ := Document.declared?_eq_some_iff.mp haction
  rw [carries, hvalue]
  rfl

/-- An element with the attribute is of one kind, and of one only. -/
theorem kinds_of_carries (d : Document) (b : Binder) (n : Nat) :
    (b.binds d n).toNat + (b.finds d n).toNat + (b.skips d n).toNat = (b.carries d n).toNat := by
  have hcarries := carries_of_declared? (d := d) (b := b) (n := n)
  rw [binds, finds, skips]
  cases hdeclared : (d.declared? b.actionAttribute n) with
  | none => cases b.carries d n <;> cases b.action? n <;> rfl
  | some action =>
    rw [hcarries (by rw [hdeclared]; rfl)]
    cases b.action? n <;> rfl

/-- Some elements, each counted as what it is. -/
def counts (d : Document) (b : Binder) (ns : List NodeId) : BindReport :=
  ⟨ns.countP (b.binds d), ns.countP (b.finds d), ns.countP (b.skips d)⟩

theorem counts_cons (d : Document) (b : Binder) (n : Nat) (ns : List Nat) :
    b.counts d (n :: ns) =
      ⟨(b.binds d n).toNat, (b.finds d n).toNat, (b.skips d n).toNat⟩ + b.counts d ns := by
  simp only [counts, countP_cons_eq]
  rfl

/-- All elements with the attribute are counted. -/
theorem total_counts (d : Document) (b : Binder) (ns : List Nat) :
    (b.counts d ns).total = ns.countP (b.carries d) := by
  simp only [counts, BindReport.total]
  induction ns with
  | nil => rfl
  | cons n ns ih =>
    have hone := kinds_of_carries d b n
    simp only [countP_cons_eq]
    omega

/-- What the elements are depends on whether they are bound. -/
theorem counts_congr (hattribute : c.actionAttribute = b.actionAttribute)
    (h : ∀ n ∈ ns, c.action? n = b.action? n) : c.counts d ns = b.counts d ns := by
  have hcount {p q : Nat → Bool} (hpq : ∀ n ∈ ns, p n = q n) : ns.countP p = ns.countP q :=
    List.countP_congr fun n hn => by rw [hpq n hn]
  have hbinds : ns.countP (c.binds d) = ns.countP (b.binds d) := hcount fun n hn => by
    rw [binds, binds, hattribute, h n hn]
  have hfinds : ns.countP (c.finds d) = ns.countP (b.finds d) := hcount fun n hn => by
    rw [finds, finds, carries, carries, hattribute, h n hn]
  have hskips : ns.countP (c.skips d) = ns.countP (b.skips d) := hcount fun n hn => by
    rw [skips, skips, carries, carries, hattribute, h n hn]
  rw [counts, counts, hbinds, hfinds, hskips]

/-! ### Counts of a pass -/

/-- An element is counted as what it is. -/
theorem report_consider (d : Document) (report : BindReport) (b : Binder) (n : Nat) :
    (consider d (report, b) n).1 =
      report + ⟨(b.binds d n).toNat, (b.finds d n).toNat, (b.skips d n).toNat⟩ := by
  simp only [consider, binds, finds, skips, carries, Document.declared?]
  cases d.attribute? n b.actionAttribute with
  | none => cases b.action? n <;> rfl
  | some value =>
    by_cases hblank : Text.trimmed value = "" <;> cases b.action? n <;> simp [hblank] <;> rfl

/-- The elements of a run are counted as what they were before it. -/
theorem report_foldl_consider (hnodup : ns.Nodup) :
    (ns.foldl (consider d) (report, b)).1 = report + b.counts d ns := by
  induction ns generalizing report b with
  | nil => rfl
  | cons n ns ih =>
    obtain ⟨hn, hns⟩ := List.nodup_cons.mp hnodup
    -- looking at the first element leaves alone whether the others are bound
    have hrest : (consider d (report, b) n).2.counts d ns = b.counts d ns := by
      refine counts_congr actionAttribute_consider fun m hm => ?_
      rw [action?_consider, if_neg (ne_of_mem_of_not_mem hm hn), Option.or_none]
    rw [List.foldl_cons, ← Prod.eta (consider d (report, b) n), ih hns, hrest, report_consider,
      counts_cons, BindReport.add_assoc]

theorem counts_sweep (b : Binder) (d : Document) (r : Nat) :
    (b.sweep d).counts d (d.elements r) = b.counts d (d.elements r) := by
  refine counts_congr rfl fun n hn => ?_
  rw [action?_sweep, if_pos (Document.isAlive_of_isElement (List.mem_filter.mp hn).2)]

/-- A pass counts the elements as what they are before it. -/
theorem report_pass (hd : d.Linked) (b : Binder) (r : Nat) :
    (b.pass d r).1 = b.counts d (d.elements r) := by
  rw [pass, report_foldl_consider (hd.nodup_elements r), BindReport.zero_add, counts_sweep]

/-! ### Passes one after another -/

/-- After a pass nothing is left to forget. -/
theorem sweep_pass (b : Binder) (d : Document) (r : Nat) :
    (b.pass d r).2.sweep d = (b.pass d r).2 := by
  have hliving : ∀ e ∈ (b.pass d r).2.bound, d.isAlive e.1 = true := by
    intro e he
    rcases mem_bound_foldl_consider he with hold | hnew
    · exact (List.mem_filter.mp hold).2
    · exact Document.isAlive_of_isElement (List.mem_filter.mp hnew).2
  rw [sweep, List.filter_eq_self.mpr hliving]

theorem action?_pass_eq (b : Binder) (d : Document) (r m : Nat) :
    (b.pass d r).2.action? m = ((b.sweep d).action? m).or
      (if m ∈ d.elements r then d.declared? b.actionAttribute m else none) := by
  rw [pass, action?_foldl_consider, actionAttribute_sweep]

/-- A run binds nothing where all that declare an action are bound. -/
theorem foldl_consider_eq_self (h : ∀ n ∈ ns, b.binds d n = false) :
    (ns.foldl (consider d) (report, b)).2 = b := by
  induction ns generalizing report with
  | nil => rfl
  | cons n ns ih =>
    have hsame : (consider d (report, b) n).2 = b := by
      have hn := h n (List.mem_cons_self ..)
      rw [binds] at hn
      rw [consider_eq]
      cases haction : b.action? n with
      | some action => rfl
      | none =>
        cases hdeclared : d.declared? b.actionAttribute n with
        | none => simp
        | some action => simp [haction, hdeclared] at hn
    rw [List.foldl_cons, ← Prod.eta (consider d (report, b) n), hsame]
    exact ih fun m hm => h m (List.mem_cons_of_mem n hm)

/-- What is still to be bound after a pass was not met by it. -/
theorem binds_pass_eq_false (hn : n ∈ d.elements r) : (b.pass d r).2.binds d n = false := by
  rw [binds, action?_pass_eq, if_pos hn, actionAttribute_pass]
  cases (b.sweep d).action? n with
  | some action => rfl
  | none => cases d.declared? b.actionAttribute n <;> rfl

/-- A pass leaves alone what it passes over. -/
theorem skips_pass (hn : n ∈ d.elements r) :
    (b.pass d r).2.skips d n = (b.sweep d).skips d n := by
  rw [skips, skips, carries, carries, action?_pass_eq, if_pos hn, actionAttribute_pass,
    actionAttribute_sweep]
  cases (b.sweep d).action? n with
  | some action => rfl
  | none => cases d.declared? b.actionAttribute n <;> simp

/-- A second pass finds bound what the first one bound or found so, and changes nothing. -/
theorem pass_pass (hd : d.Linked) (b : Binder) (r : Nat) :
    (b.pass d r).2.pass d r =
      (⟨0, (b.pass d r).1.bound + (b.pass d r).1.alreadyBound, (b.pass d r).1.skippedEmpty⟩,
        (b.pass d r).2) := by
  have hbinder : ((b.pass d r).2.pass d r).2 = (b.pass d r).2 := by
    rw [pass, sweep_pass]
    exact foldl_consider_eq_self fun n hn => binds_pass_eq_false hn
  have hfirst : (b.pass d r).1 = (b.sweep d).counts d (d.elements r) := by
    rw [report_pass hd, counts_sweep]
  have htotal : ((b.pass d r).2.counts d (d.elements r)).total =
      ((b.sweep d).counts d (d.elements r)).total := by
    rw [total_counts, total_counts]
    exact List.countP_congr fun n _ => by
      rw [carries, carries, actionAttribute_pass, actionAttribute_sweep]
  have hbound : (d.elements r).countP ((b.pass d r).2.binds d) = 0 :=
    List.countP_eq_zero.mpr fun n hn => by rw [binds_pass_eq_false hn]; exact Bool.false_ne_true
  have hskipped : (d.elements r).countP ((b.pass d r).2.skips d) =
      (d.elements r).countP ((b.sweep d).skips d) :=
    List.countP_congr fun n hn => by rw [skips_pass hn]
  have hreport : (b.pass d r).2.counts d (d.elements r) =
      ⟨0, (b.pass d r).1.bound + (b.pass d r).1.alreadyBound, (b.pass d r).1.skippedEmpty⟩ := by
    simp only [counts, BindReport.total] at htotal
    simp only [hfirst, counts, BindReport.mk.injEq]
    omega
  rw [← Prod.eta ((b.pass d r).2.pass d r), hbinder, report_pass hd, hreport]

/-- After two passes the elements of either are bound, whichever came first. -/
theorem action?_pass_pass (b : Binder) (d : Document) (r r' m : Nat) :
    ((b.pass d r).2.pass d r').2.action? m = ((b.sweep d).action? m).or
      (if m ∈ d.elements r ∨ m ∈ d.elements r' then d.declared? b.actionAttribute m else none) := by
  rw [action?_pass_eq, sweep_pass, action?_pass_eq, actionAttribute_pass,
    Option.or_assoc]
  by_cases hr : m ∈ d.elements r <;> by_cases hr' : m ∈ d.elements r' <;> simp [hr, hr']

theorem action?_pass_comm (b : Binder) (d : Document) (r r' m : Nat) :
    ((b.pass d r).2.pass d r').2.action? m = ((b.pass d r').2.pass d r).2.action? m := by
  simp only [action?_pass_pass, or_comm]

/-- Two passes come to the same entries in either order. -/
theorem perm_pass_comm (h : (b.bound.map (·.1)).Nodup) (d : Document) (r r' : Nat) :
    ((b.pass d r).2.pass d r').2.bound.Perm ((b.pass d r').2.pass d r).2.bound := by
  have hnodup (r r' : Nat) : (((b.pass d r).2.pass d r').2.bound.map (·.1)).Nodup :=
    nodup_pass (nodup_pass h)
  rw [List.perm_ext_iff_of_nodup (hnodup r r').of_map (hnodup r' r).of_map]
  rintro ⟨m, action⟩
  rw [← lookup_eq_some_iff_mem (hnodup r r'), ← lookup_eq_some_iff_mem (hnodup r' r)]
  exact iff_of_eq (congrArg (· = some action) (action?_pass_comm b d r r' m))

/-- A pass adds as many entries as it says. -/
theorem length_pass (b : Binder) (d : Document) (r : Nat) :
    (b.pass d r).1.bound + (b.sweep d).bound.length = (b.pass d r).2.bound.length := by
  have hlength := length_foldl_consider d {} (b.sweep d) (d.elements r)
  rw [Nat.zero_add] at hlength
  exact hlength

/-- Two passes bind as many elements together, whichever comes first. -/
theorem bound_pass_comm (h : (b.bound.map (·.1)).Nodup) (d : Document) (r r' : Nat) :
    (b.pass d r).1.bound + ((b.pass d r).2.pass d r').1.bound =
      (b.pass d r').1.bound + ((b.pass d r').2.pass d r).1.bound := by
  have hlength := (perm_pass_comm h d r r').length_eq
  have hfirst := length_pass b d r
  have hsecond := length_pass (b.pass d r).2 d r'
  have hfirst' := length_pass b d r'
  have hsecond' := length_pass (b.pass d r').2 d r
  rw [sweep_pass] at hsecond hsecond'
  omega

end Binder

end MarkupActions
