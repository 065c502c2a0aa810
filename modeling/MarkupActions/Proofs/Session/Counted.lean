import Mathlib.Data.Set.Card
import MarkupActions.Proofs.Binder.Stale
import MarkupActions.Proofs.Document.Freed
import MarkupActions.Proofs.Session.Bound

/-! Counting what is bound. The count is the number of living nodes that are bound. Passes add to
it, and it falls only when nodes die: what is let go dies with all that is below it and not held,
and each bound node of that is one less. -/

namespace MarkupActions

namespace Session

variable {s t : Session} {m : Move} {ms : List Move} {ns : List NodeId} {k n : Nat}

/-! ### What dies -/

theorem document_foldl_release (s : Session) (ns : List NodeId) :
    (ns.foldl release s).document = ns.foldl (·.release s.heldNodes ·) s.document := by
  induction ns generalizing s with
  | nil => rfl
  | cons n ns ih => exact ih (s.release n)

theorem heldNodes_foldl_release (s : Session) (ns : List NodeId) :
    (ns.foldl release s).heldNodes = s.heldNodes := by
  induction ns generalizing s with
  | nil => rfl
  | cons n ns ih => exact ih (s.release n)

theorem dead_foldl_release_iff (ns : List NodeId) (hs : s.document.Linked)
    (hk : s.document.isAlive k = true) :
    (ns.foldl release s).document.isAlive k = false ↔
      ∃ r ∈ ns, (ns.foldl release s).document.isAlive r = false ∧ s.document.Below r k ∧
        k ∉ (ns.foldl release s).heldNodes := by
  rw [document_foldl_release, heldNodes_foldl_release]
  exact hs.dead_foldl_release_iff hk

/-- A node that is taken out dies unless it is held or the document node. -/
theorem dead_remove_iff (hs : s.Coherent) (hn : s.document.isAlive n = true) :
    (s.remove n).2.document.isAlive n = false ↔ n ≠ Document.root ∧ n ∉ s.heldNodes := by
  have hafter : (s.remove n).2.Coherent := hs.remove n
  have hless : (s.document.remove n).2.Lessened (s.remove n).2.document :=
    Document.lessened_release s.heldNodes n
  constructor
  · intro hdead
    constructor
    · rintro rfl
      rw [hafter.linked.root_alive] at hdead
      cases hdead
    · intro hheld
      rw [hafter.held_alive n hheld] at hdead
      cases hdead
  · rintro ⟨hroot, hheld⟩
    rw [← Bool.not_eq_true]
    intro halive
    -- it would be kept by something else, but is below nothing
    obtain ⟨r, hr, hbelow⟩ := hafter.kept_held n halive
    obtain rfl := hs.linked.eq_of_below_remove (hless.below hbelow)
    exact hr.elim hroot hheld

/-! ### What is bound -/

/-- The living nodes that are bound. -/
def boundNodes (s : Session) : Set NodeId :=
  {n | s.document.isAlive n = true ∧ s.binder.isBound s.document n = true}

theorem mem_boundNodes_iff :
    n ∈ s.boundNodes ↔ s.document.isAlive n = true ∧ ∃ action, s.binder.action? n = some action := by
  rw [boundNodes, Set.mem_ofPred_eq, Binder.isBound, Bool.and_eq_true, Option.isSome_iff_exists]
  exact ⟨fun h => ⟨h.1, h.2.1⟩, fun h => ⟨h.1, h.2, h.1⟩⟩

theorem finite_boundNodes (s : Session) : s.boundNodes.Finite := by
  refine (Set.finite_lt_nat s.document.cells.size).subset fun n hn => ?_
  exact Document.lt_size_of_isAlive hn.1

theorem boundCount_eq_ncard (h : (s.binder.bound.map (·.1)).Nodup) :
    s.binder.boundCount s.document = s.boundNodes.ncard := by
  have hset : s.boundNodes = ↑((s.binder.sweep s.document).bound.map (·.1)).toFinset := by
    ext n
    rw [List.coe_toFinset, Set.mem_ofPred_eq, Binder.mem_sweep_iff, boundNodes,
      Set.mem_ofPred_eq, Binder.isBound, Bool.and_eq_true]
    exact and_iff_right_of_imp And.right
  have hnodup : ((s.binder.sweep s.document).bound.map (·.1)).Nodup :=
    h.sublist (List.filter_sublist.map _)
  rw [hset, Set.ncard_coe_finset, List.toFinset_card_of_nodup hnodup, List.length_map,
    Binder.boundCount_eq_length]

/-! ### What a move frees -/

variable [MarkupParser]

/-- The nodes that a move lets go. -/
def letsGo (s : Session) : Move → List NodeId
  | .remove n => [n]
  | .hold _ name | .drop name => (s.held.lookup name).toList
  | .leave ns => ns
  | _ => []

/-- What is below a node that is let go and dies, but for what is held. -/
def freed (s : Session) (m : Move) : Set NodeId :=
  {k | ∃ r ∈ s.letsGo m, (s.move m).document.isAlive r = false ∧ s.document.Below r k ∧
    k ∉ (s.move m).heldNodes}

/-- A move frees what is below a node that it lets go, and nothing else dies. -/
theorem dead_move_iff (hs : s.Coherent) (hk : s.document.isAlive k = true) :
    (s.move m).document.isAlive k = false ↔ k ∈ s.freed m := by
  have hgrown (p : Nat) (html : String) :
      ¬ (s.document.insertHtml p html).2.isAlive k = false := by
    rw [Document.insertHtml, Document.isAlive_append_of_lt (Document.lt_size_of_isAlive hk), hk]
    nofun
  have hnone (hletsGo : s.letsGo m = []) (halive : ¬ (s.move m).document.isAlive k = false) :
      (s.move m).document.isAlive k = false ↔ k ∈ s.freed m := by
    refine iff_of_false halive ?_
    rintro ⟨r, hr, -⟩
    rw [hletsGo] at hr
    cases hr
  cases m with
  | render id html =>
    refine hnone rfl ?_
    simp only [move, render]
    split
    · rw [hk]
      nofun
    · rw [document_bindPasses]
      exact hgrown _ _
  | insert n html => exact hnone rfl (hgrown n html)
  | remove n =>
    have hdead := dead_foldl_release_iff (s := { s with document := (s.document.remove n).2 }) [n]
      (hs.linked.remove n) ((Document.isAlive_remove k).trans hk)
    simp only [List.mem_singleton, exists_eq_left, hs.linked.below_remove_iff] at hdead
    rw [freed, Set.mem_ofPred_eq]
    simp only [letsGo, List.mem_singleton, exists_eq_left]
    exact hdead
  | hold n name =>
    rw [freed, move, hold_eq]
    exact dead_foldl_release_iff (s := { s with held := _ }) _ hs.linked hk
  | drop name =>
    rw [freed, move, drop_eq]
    exact dead_foldl_release_iff (s := { s with held := _ }) _ hs.linked hk
  | leave ns => exact dead_foldl_release_iff (s := { s with running := _ }) ns hs.linked hk
  | bind | note | enter => exact hnone rfl (by rw [Bool.not_eq_false]; exact hk)

theorem mem_freed_remove_iff (hs : s.Coherent) (hn : s.document.isAlive n = true) :
    k ∈ s.freed (.remove n) ↔
      n ≠ Document.root ∧ n ∉ s.heldNodes ∧ s.document.Below n k ∧ k ∉ s.heldNodes := by
  rw [freed, Set.mem_ofPred_eq]
  simp only [letsGo, List.mem_singleton, exists_eq_left]
  have hdead : (s.move (.remove n)).document.isAlive n = false ↔ _ := dead_remove_iff hs hn
  rw [hdead, and_assoc]
  rfl

/-! ### What stays bound -/

/-- What is bound stays so as long as it lives. -/
theorem mem_boundNodes_move (hn : n ∈ s.boundNodes)
    (halive : (s.move m).document.isAlive n = true) : n ∈ (s.move m).boundNodes := by
  obtain ⟨-, action, haction⟩ := mem_boundNodes_iff.mp hn
  exact mem_boundNodes_iff.mpr ⟨halive, action, action?_move halive haction⟩

/-- A move without passes takes from what is bound what it frees. -/
theorem boundNodes_move (hs : s.Coherent) (hfresh : s.Fresh) (hm : (s.passes m).1 = []) :
    (s.move m).boundNodes = s.boundNodes \ s.freed m := by
  ext n
  rw [Set.mem_sdiff]
  constructor
  · intro hn
    obtain ⟨halive, action, haction⟩ := mem_boundNodes_iff.mp hn
    cases hbefore : s.binder.action? n with
    | none =>
      obtain ⟨⟨r, hr, -⟩, -⟩ := meets_of_action?_move halive hbefore haction
      rw [hm] at hr
      cases hr
    | some action' =>
      have hold := (descends_move s m).isAlive (hfresh.lt_size hbefore) halive
      refine ⟨mem_boundNodes_iff.mpr ⟨hold, action', hbefore⟩, fun hfreed => ?_⟩
      rw [(dead_move_iff hs hold).mpr hfreed] at halive
      cases halive
  · rintro ⟨hn, hfreed⟩
    refine mem_boundNodes_move hn ?_
    rw [← Bool.not_eq_false, dead_move_iff hs (mem_boundNodes_iff.mp hn).1]
    exact hfreed

/-! ### The count -/

/-- What is counted on a page, and how that changes with moves that lead to `next`. -/
structure Counted (s : Session) (next : Move → Session) : Prop where
  /-- The count is the number of living nodes that are bound. -/
  count : s.binder.boundCount s.document = s.boundNodes.ncard
  /-- A move frees what is below a node that it lets go and dies, but for what is held, and nothing
  else dies. -/
  dies : ∀ m k, s.document.isAlive k = true →
    ((next m).document.isAlive k = false ↔ k ∈ s.freed m)
  /-- What is taken out dies with all that is below it, but for what is held, unless it is held
  itself. -/
  removed : ∀ n k, s.document.isAlive n = true →
    (k ∈ s.freed (.remove n) ↔
      n ≠ Document.root ∧ n ∉ s.heldNodes ∧ s.document.Below n k ∧ k ∉ s.heldNodes)
  /-- A move without passes lowers the count by the bound nodes that it frees, and the others stay
  bound. -/
  lowered : ∀ m, (s.passes m).1 = [] →
    (next m).boundNodes = s.boundNodes \ s.freed m ∧
      (next m).binder.boundCount (next m).document + (s.boundNodes ∩ s.freed m).ncard =
        s.binder.boundCount s.document
  /-- A move with passes frees nothing, and what is bound stays bound. -/
  raised : ∀ m, (s.passes m).1 ≠ [] → s.freed m = ∅ ∧ s.boundNodes ⊆ (next m).boundNodes

theorem freed_of_passes (hm : (s.passes m).1 ≠ []) : s.freed m = ∅ := by
  have hnone : s.letsGo m = [] := by
    cases m with
    | render | bind => rfl
    | _ => exact absurd rfl hm
  rw [freed, hnone]
  simp

theorem counted (hs : s.Coherent) (hfresh : s.Fresh)
    (hnodup : (s.binder.bound.map (·.1)).Nodup) : s.Counted s.move where
  count := boundCount_eq_ncard hnodup
  dies := fun _ _ hk => dead_move_iff hs hk
  removed := fun _ _ hn => mem_freed_remove_iff hs hn
  lowered := by
    intro m hm
    have hbound := boundNodes_move hs hfresh hm
    refine ⟨hbound, ?_⟩
    rw [boundCount_eq_ncard (nodup_move hnodup m), hbound, boundCount_eq_ncard hnodup, add_comm,
      Set.ncard_inter_add_ncard_sdiff_eq_ncard _ _ (finite_boundNodes s)]
  raised := by
    intro m hm
    have hnone := freed_of_passes hm
    refine ⟨hnone, fun n hn => mem_boundNodes_move hn ?_⟩
    rw [← Bool.not_eq_false, dead_move_iff hs (mem_boundNodes_iff.mp hn).1, hnone]
    exact Set.notMem_empty n

end Session

end MarkupActions
