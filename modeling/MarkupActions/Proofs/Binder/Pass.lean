import Mathlib.Data.List.Nodup
import MarkupActions.Binder
import MarkupActions.Proofs.Document.Edit

/-! What a bind pass does. Every element at or below its node that declares an action and is not
yet bound is bound to that action; all else that lives stays as it was bound. -/

namespace MarkupActions

/-- Where no key has two values, looking up a key finds what is listed with it. -/
theorem lookup_eq_some_iff_mem {κ α : Type} [DecidableEq κ] {l : List (κ × α)}
    (h : (l.map (·.1)).Nodup) {k : κ} {a : α} : l.lookup k = some a ↔ (k, a) ∈ l := by
  induction l with
  | nil => simp
  | cons e l ih =>
    obtain ⟨k', b⟩ := e
    rw [List.map_cons, List.nodup_cons] at h
    rw [List.mem_cons, ← ih h.2, Prod.mk.injEq]
    by_cases hk : k = k'
    · subst hk
      have hnone : l.lookup k ≠ some a := by
        rw [ne_eq, ih h.2]
        exact fun hmem => h.1 (List.mem_map_of_mem (f := (·.1)) hmem)
      simp [hnone, eq_comm]
    · have hbeq : (k == k') = false := beq_eq_false_iff_ne.mpr hk
      simp [List.lookup_cons, hbeq, hk]

/-- The action that a node declares in an attribute: its trimmed value, unless that is empty. -/
def Document.declared? (d : Document) (name : String) (n : NodeId) : Option String :=
  (d.attribute? n name).bind fun value =>
    let action := Text.trimmed value
    if action = "" then none else some action

namespace Document

variable {d e : Document} {name : String} {n : Nat}

theorem declared?_congr (h : d.kind? n = e.kind? n) :
    d.declared? name n = e.declared? name n := by
  rw [declared?, declared?, attribute?, attribute?, h]

theorem declared?_eq_some_iff {action : String} :
    d.declared? name n = some action ↔
      ∃ value, d.attribute? n name = some value ∧ Text.trimmed value = action ∧ action ≠ "" := by
  rw [declared?, Option.bind_eq_some_iff]
  refine exists_congr fun value => and_congr_right fun _ => ?_
  by_cases hblank : Text.trimmed value = ""
  · simp [hblank, eq_comm]
  · simp [hblank]
    rintro rfl
    exact hblank

theorem Descends.declared? (h : d.Descends e) (hn : n < d.cells.size)
    (halive : e.isAlive n = true) : e.declared? name n = d.declared? name n := by
  obtain ⟨k, hk⟩ := exists_kind? halive
  exact declared?_congr (hk.trans (h.kind n hn k hk).symm)

/-- What declares an action is a living element. -/
theorem exists_element_of_declared? {action : String} (h : d.declared? name n = some action) :
    ∃ x, d.kind? n = some (.element x) := by
  cases hkind : d.kind? n with
  | none => simp [declared?, attribute?, hkind] at h
  | some k =>
    cases k with
    | element x => exact ⟨x, rfl⟩
    | _ => simp [declared?, attribute?, hkind, NodeKind.attribute?, NodeKind.element?] at h

theorem isElement_of_declared? {action : String} (h : d.declared? name n = some action) :
    d.isElement n = true := by
  obtain ⟨x, hx⟩ := exists_element_of_declared? h
  rw [isElement, hx]
  rfl

theorem isAlive_of_declared? {action : String} (h : d.declared? name n = some action) :
    d.isAlive n = true :=
  isAlive_of_isElement (isElement_of_declared? h)

theorem lt_size_of_declared? {action : String} (h : d.declared? name n = some action) :
    n < d.cells.size :=
  lt_size_of_isElement (isElement_of_declared? h)

end Document

namespace Binder

variable {d : Document} {b : Binder} {report : BindReport} {e : NodeId × String} {n m : Nat}
  {ns : List Nat}

/-! ### One element -/

/-- Looking at an element binds it to what it declares, unless it is bound already. -/
theorem consider_eq (d : Document) (report : BindReport) (b : Binder) (n : Nat) :
    (consider d (report, b) n).2 =
      if (b.action? n).isSome then b
      else { b with
        bound := b.bound ++ ((d.declared? b.actionAttribute n).map (n, ·)).toList } := by
  simp only [consider, Document.declared?]
  cases d.attribute? n b.actionAttribute with
  | none => simp
  | some value =>
    by_cases hbound : (b.action? n).isSome
    · simp [hbound]
    · by_cases hblank : Text.trimmed value = "" <;> simp [hbound, hblank]

/-- What is counted as bound is what was added. -/
theorem length_consider (d : Document) (report : BindReport) (b : Binder) (n : Nat) :
    (consider d (report, b) n).1.bound + b.bound.length =
      report.bound + (consider d (report, b) n).2.bound.length := by
  simp only [consider]
  cases d.attribute? n b.actionAttribute with
  | none => rfl
  | some value =>
    by_cases hbound : (b.action? n).isSome
    · simp [hbound]
    · by_cases hblank : Text.trimmed value = ""
      · simp [hbound, hblank]
      · simp only [hbound, hblank, Bool.false_eq_true, if_false, List.length_append,
          List.length_singleton]
        omega

theorem actionAttribute_consider :
    (consider d (report, b) n).2.actionAttribute = b.actionAttribute := by
  rw [consider_eq]
  split <;> rfl

theorem action?_consider :
    (consider d (report, b) n).2.action? m =
      (b.action? m).or (if m = n then d.declared? b.actionAttribute m else none) := by
  rw [consider_eq]
  by_cases hbound : (b.action? n).isSome
  · rw [if_pos hbound]
    by_cases hmn : m = n
    · rw [hmn, Option.or_of_isSome hbound]
    · rw [if_neg hmn, Option.or_none]
  · rw [if_neg hbound, action?, List.lookup_append, ← action?]
    by_cases hmn : m = n
    · subst hmn
      cases d.declared? b.actionAttribute m <;> simp
    · have hbeq : (m == n) = false := by simpa using hmn
      rw [if_neg hmn]
      cases d.declared? b.actionAttribute n <;> simp [List.lookup_cons, hbeq]

/-! ### A run over elements -/

theorem actionAttribute_foldl_consider :
    (ns.foldl (consider d) (report, b)).2.actionAttribute = b.actionAttribute := by
  induction ns generalizing report b with
  | nil => rfl
  | cons n ns ih => exact ih.trans actionAttribute_consider

theorem length_foldl_consider (d : Document) (report : BindReport) (b : Binder) (ns : List Nat) :
    (ns.foldl (consider d) (report, b)).1.bound + b.bound.length =
      report.bound + (ns.foldl (consider d) (report, b)).2.bound.length := by
  induction ns generalizing report b with
  | nil => rfl
  | cons n ns ih =>
    have hfirst := length_consider d report b n
    have hrest := ih (consider d (report, b) n).1 (consider d (report, b) n).2
    rw [List.foldl_cons, ← Prod.eta (consider d (report, b) n)]
    omega

/-- What is bound stays bound, and the elements of the run are bound to what they declare. -/
theorem action?_foldl_consider :
    (ns.foldl (consider d) (report, b)).2.action? m =
      (b.action? m).or (if m ∈ ns then d.declared? b.actionAttribute m else none) := by
  induction ns generalizing report b with
  | nil => simp
  | cons n ns ih =>
    rw [List.foldl_cons, ih, action?_consider, actionAttribute_consider, Option.or_assoc]
    by_cases hmn : m = n
    · subst hmn
      cases d.declared? b.actionAttribute m <;> simp
    · simp [hmn]

/-- Where no element of the run is bound yet, what they declare is added in their order. -/
theorem bound_foldl_consider (hnodup : ns.Nodup) (hfree : ∀ n ∈ ns, b.action? n = none) :
    (ns.foldl (consider d) (report, b)).2.bound =
      b.bound ++ ns.filterMap fun n => (d.declared? b.actionAttribute n).map (n, ·) := by
  induction ns generalizing report b with
  | nil => simp
  | cons n ns ih =>
    obtain ⟨hn, hns⟩ := List.nodup_cons.mp hnodup
    have hfirst : ¬ (b.action? n).isSome := by simp [hfree n (by simp)]
    have hrest : ∀ m ∈ ns, (consider d (report, b) n).2.action? m = none := by
      intro m hm
      have hmn : m ≠ n := by
        rintro rfl
        exact hn hm
      rw [action?_consider, if_neg hmn, hfree m (by simp [hm])]
      rfl
    rw [List.foldl_cons, ih hns hrest, actionAttribute_consider, consider_eq, if_neg hfirst,
      List.append_assoc, List.filterMap_cons]
    cases d.declared? b.actionAttribute n <;> rfl

/-! ### A pass -/

theorem actionAttribute_pass : (b.pass d n).2.actionAttribute = b.actionAttribute :=
  actionAttribute_foldl_consider

theorem actionAttribute_sweep : (b.sweep d).actionAttribute = b.actionAttribute := rfl

/-- Forgetting what was freed changes nothing for what lives. -/
theorem action?_sweep : (b.sweep d).action? m = if d.isAlive m then b.action? m else none := by
  simp only [action?, sweep]
  induction b.bound with
  | nil => simp
  | cons e es ih =>
    obtain ⟨k, action⟩ := e
    by_cases hm : m = k
    · subst hm
      cases halive : d.isAlive m with
      | true => simp [halive]
      | false => simpa [halive] using ih
    · have hbeq : (m == k) = false := by simpa using hm
      cases halive : d.isAlive k with
      | true => simpa [halive, List.lookup_cons, hbeq] using ih
      | false => simpa [halive, List.lookup_cons, hbeq] using ih

/-- What lives stays bound, and the elements of the pass are bound to what they declare. -/
theorem action?_pass (halive : d.isAlive m = true) :
    (b.pass d n).2.action? m =
      (b.action? m).or (if m ∈ d.elements n then d.declared? b.actionAttribute m else none) := by
  rw [pass, action?_foldl_consider, action?_sweep, if_pos halive]
  rfl

/-- A pass binds nothing that is not an element. -/
theorem action?_pass_eq_none (hfree : b.action? m = none) (hm : d.isElement m = false) :
    (b.pass d n).2.action? m = none := by
  have hnot : m ∉ d.elements n := by
    intro hmem
    rw [(List.mem_filter.mp hmem).2] at hm
    cases hm
  rw [pass, action?_foldl_consider, if_neg hnot, Option.or_none, action?_sweep, hfree, ite_self]

/-- A first pass binds the elements to what they declare, in order, and counts them. -/
theorem pass_new {c : Config} (hnodup : (d.elements n).Nodup) :
    ((new c).pass d n).2.bound =
        (d.elements n).filterMap (fun m => (d.declared? c.actionAttribute m).map (m, ·)) ∧
      ((new c).pass d n).1.bound = ((new c).pass d n).2.bound.length := by
  have hpass : (new c).pass d n = (d.elements n).foldl (consider d) ({}, new c) := rfl
  rw [hpass]
  constructor
  · exact bound_foldl_consider hnodup fun _ _ => rfl
  · have hlength := length_foldl_consider d {} (new c) (d.elements n)
    simpa [new] using hlength

/-! ### Entries -/

theorem mem_bound_consider (h : e ∈ (consider d (report, b) n).2.bound) :
    e ∈ b.bound ∨ e.1 = n := by
  rw [consider_eq] at h
  split at h
  · exact .inl h
  · rw [List.mem_append, Option.mem_toList, Option.map_eq_some_iff] at h
    refine h.imp_right ?_
    rintro ⟨action, -, rfl⟩
    rfl

theorem mem_bound_foldl_consider (h : e ∈ (ns.foldl (consider d) (report, b)).2.bound) :
    e ∈ b.bound ∨ e.1 ∈ ns := by
  induction ns generalizing report b with
  | nil => exact .inl h
  | cons n ns ih =>
    rcases ih h with hmem | hmem
    · rcases mem_bound_consider hmem with hmem | rfl
      · exact .inl hmem
      · exact .inr (List.mem_cons_self ..)
    · exact .inr (List.mem_cons_of_mem n hmem)

theorem nodup_consider (h : (b.bound.map (·.1)).Nodup) :
    ((consider d (report, b) n).2.bound.map (·.1)).Nodup := by
  rw [consider_eq]
  split
  · exact h
  next hfree =>
    rw [Option.not_isSome_iff_eq_none, action?, List.lookup_eq_none_iff] at hfree
    cases d.declared? b.actionAttribute n with
    | none => simpa using h
    | some action =>
      rw [Option.map_some, Option.toList_some, List.map_append, List.nodup_append]
      refine ⟨h, List.nodup_singleton n, ?_⟩
      rintro k hk _ hn rfl
      obtain ⟨e, he, rfl⟩ := List.mem_map.mp hk
      have hne := hfree e he
      rw [List.map_singleton, List.mem_singleton] at hn
      simp [hn] at hne

theorem nodup_foldl_consider (h : (b.bound.map (·.1)).Nodup) :
    ((ns.foldl (consider d) (report, b)).2.bound.map (·.1)).Nodup := by
  induction ns generalizing report b with
  | nil => exact h
  | cons n ns ih => exact ih (nodup_consider h)

/-- A pass adds no second entry for a node. -/
theorem nodup_pass (h : (b.bound.map (·.1)).Nodup) : ((b.pass d n).2.bound.map (·.1)).Nodup :=
  nodup_foldl_consider (h.sublist (List.filter_sublist.map _))

/-- The action of the first entry whose node lies at a place. -/
def actionAt (address : NodeId → Nat) (b : Binder) (place : Nat) : Option String :=
  (b.bound.find? fun e => address e.1 = place).map (·.2)

/-- Where no other entry is for a node at its place, a node is told apart by that. -/
theorem actionAt_eq {address : NodeId → Nat}
    (h : ∀ m ∈ b.bound.map (·.1), address m = address n → m = n) :
    b.actionAt address (address n) = b.action? n := by
  rw [actionAt, action?]
  revert h
  induction b.bound with
  | nil => exact fun _ => rfl
  | cons e es ih =>
    intro h
    obtain ⟨k, action⟩ := e
    rw [List.map_cons, List.forall_mem_cons] at h
    have hrest := ih h.2
    by_cases hk : k = n
    · subst hk
      simp
    · have haddress : address k ≠ address n := fun heq => hk (h.1 heq)
      have hbeq : (n == k) = false := by simpa using Ne.symm hk
      simpa [haddress, List.lookup_cons, hbeq] using hrest

/-! ### Answering clicks -/

/-- A bound node answers a click on itself. -/
theorem handler?_of_action? {action : String} (hn : n < d.cells.size)
    (h : b.action? n = some action) : b.handler? d n = some (n, action) := by
  rw [handler?, Document.chain]
  cases hsize : d.cells.size with
  | zero => omega
  | succ length =>
    rw [Document.climb]
    cases d.parent? n with
    | none => simp [h]
    | some p => simp [h]

theorem isBound_of_action? {action : String} (halive : d.isAlive n = true)
    (h : b.action? n = some action) : b.isBound d n = true := by
  rw [isBound, h, halive]
  rfl

end Binder

end MarkupActions
