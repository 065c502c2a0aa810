import MarkupActions.Document.Lifetime
import MarkupActions.Proofs.Document.Layout

/-! What edits leave alone. No edit changes what a living node is or gives a name to another node,
and new markup has the names that come next. -/

namespace MarkupActions.Document

variable {d e f : Document} {n m p : Nat} {held : List NodeId} {ts : List (Tree NodeKind)}

theorem kind?_eq_none_of_size_le (h : d.cells.size ≤ n) : d.kind? n = none := by
  rw [kind?, cell?, Array.getElem?_eq_none h]
  rfl

theorem isElement_eq_false_of_size_le (h : d.cells.size ≤ n) : d.isElement n = false := by
  rw [isElement, kind?_eq_none_of_size_le h]
  rfl

theorem lt_size_of_kind? {k : NodeKind} (h : d.kind? n = some k) : n < d.cells.size := by
  by_contra hle
  rw [kind?_eq_none_of_size_le (Nat.le_of_not_lt hle)] at h
  cases h

theorem lt_size_of_isElement (h : d.isElement n = true) : n < d.cells.size := by
  cases hk : d.kind? n with
  | none => simp [isElement, hk] at h
  | some k => exact lt_size_of_kind? hk

theorem isAlive_of_kind? {k : NodeKind} (h : d.kind? n = some k) : d.isAlive n = true := by
  rw [isAlive, ← Option.isSome_map (f := Cell.kind), ← kind?, h]
  rfl

theorem isAlive_of_isElement (h : d.isElement n = true) : d.isAlive n = true := by
  cases hk : d.kind? n with
  | none => simp [isElement, hk] at h
  | some k => exact isAlive_of_kind? hk

/-! ### One cell -/

theorem size_modify (f : Cell → Cell) : (d.modify m f).cells.size = d.cells.size :=
  Array.size_modify

theorem kind?_modify {f : Cell → Cell} (hf : ∀ c, (f c).kind = c.kind) (n : Nat) :
    (d.modify m f).kind? n = d.kind? n := by
  rw [kind?, kind?, cell?, cell?, modify, Array.getElem?_modify]
  by_cases hmn : m = n
  · rw [if_pos hmn]
    rcases d.cells[n]? with _ | _ | c
    · rfl
    · rfl
    · exact congrArg some (hf c)
  · rw [if_neg hmn]

/-! ### New markup -/

theorem size_append : (d.append p ts).2.cells.size = d.cells.size + Tree.sizeAll ts := by
  simp only [append, Array.size_append, size_modify, List.size_toArray, List.length_map,
    length_layForest]

theorem kind?_append_of_lt (h : n < d.cells.size) : (d.append p ts).2.kind? n = d.kind? n := by
  rw [← kind?_modify (d := d) (m := p)
    (f := fun c => { c with children := c.children ++ rootsFrom d.cells.size ts }) (fun _ => rfl) n]
  rw [kind?, kind?, cell?, cell?, append]
  dsimp only
  rw [Array.getElem?_append_left (by rwa [size_modify])]

/-- New markup is laid out from the next name on. -/
theorem laid_append_new :
    (d.append p ts).2.Laid d.cells.size (layForest (some p) d.cells.size ts) := by
  intro i c hi
  rw [cell?, append]
  dsimp only
  rw [Array.getElem?_append_right (by rw [size_modify]; omega), size_modify,
    Nat.add_sub_cancel_left, List.getElem?_toArray, List.getElem?_map, hi]
  rfl

/-- The nodes at and below the new top-level nodes are exactly those with new names. -/
theorem flatMap_nodes_append :
    (d.append p ts).1.flatMap (d.append p ts).2.nodes =
      List.range' d.cells.size (Tree.sizeAll ts) :=
  flatMap_nodes_of_laid laid_append_new

/-- The elements at and below the new top-level nodes are exactly those with new names. -/
theorem mem_flatMap_elements_append :
    n ∈ (d.append p ts).1.flatMap (d.append p ts).2.elements ↔
      d.cells.size ≤ n ∧ (d.append p ts).2.isElement n = true := by
  have hnodes : n ∈ (d.append p ts).1.flatMap (d.append p ts).2.nodes ↔
      d.cells.size ≤ n ∧ n < d.cells.size + Tree.sizeAll ts := by
    rw [flatMap_nodes_append, List.mem_range'_1]
  have hsplit : n ∈ (d.append p ts).1.flatMap (d.append p ts).2.elements ↔
      n ∈ (d.append p ts).1.flatMap (d.append p ts).2.nodes ∧
        (d.append p ts).2.isElement n = true := by
    simp only [List.mem_flatMap, elements, List.mem_filter, ← and_assoc, exists_and_right]
  rw [hsplit, hnodes, and_assoc]
  refine and_congr_right fun _ => and_iff_right_of_imp fun helement => ?_
  rw [← size_append (d := d) (p := p)]
  exact lt_size_of_isElement helement

/-! ### Taking out and freeing -/

theorem size_remove : (d.remove m).2.cells.size = d.cells.size := by
  unfold remove
  cases d.parent? m with
  | none => rfl
  | some q => simp only [size_modify]

theorem kind?_remove (n : Nat) : (d.remove m).2.kind? n = d.kind? n := by
  unfold remove
  cases d.parent? m with
  | none => rfl
  | some q =>
    dsimp only
    rw [kind?_modify, kind?_modify] <;> intro c <;> rfl

theorem size_tearDown : (d.tearDown held m).cells.size = d.cells.size := by
  simp only [tearDown, Array.size_mapIdx]

/-- A node that is torn down with another is freed unless it is held. -/
theorem kind?_tearDown (n : Nat) :
    (d.tearDown held m).kind? n = if n ∈ d.nodes m ∧ n ∉ held then none else d.kind? n := by
  rw [kind?, kind?, cell?, cell?, tearDown, Array.getElem?_mapIdx]
  rcases d.cells[n]? with _ | _ | c
  · simp
  · by_cases hlost : n ∈ d.nodes m <;> by_cases hheld : n ∈ held <;> simp [hlost, hheld]
  · by_cases hlost : n ∈ d.nodes m <;> by_cases hheld : n ∈ held <;> simp [hlost, hheld]

theorem size_release : (d.release held m).cells.size = d.cells.size := by
  unfold release
  split
  · rfl
  · exact size_tearDown

/-- What lives on after a node was let go is what it was. -/
theorem kind?_of_release {k : NodeKind} (h : (d.release held m).kind? n = some k) :
    d.kind? n = some k := by
  unfold release at h
  split at h
  · exact h
  · rw [kind?_tearDown] at h
    split at h
    · cases h
    · exact h

/-! ### Later documents -/

/-- What edits make of a document: no name is taken back, and what lives on is what it was. -/
structure Descends (d e : Document) : Prop where
  size : d.cells.size ≤ e.cells.size
  kind : ∀ n < d.cells.size, ∀ k, e.kind? n = some k → d.kind? n = some k

theorem Descends.refl (d : Document) : d.Descends d := ⟨Nat.le_refl _, fun _ _ _ h => h⟩

theorem Descends.trans (h : d.Descends e) (h' : e.Descends f) : d.Descends f where
  size := h.size.trans h'.size
  kind := fun n hn k hk => h.kind n hn k (h'.kind n (Nat.lt_of_lt_of_le hn h.size) k hk)

theorem descends_append (d : Document) (p : Nat) (ts : List (Tree NodeKind)) :
    d.Descends (d.append p ts).2 := by
  refine ⟨?_, fun n hn k hk => by rwa [kind?_append_of_lt hn] at hk⟩
  rw [size_append]
  omega

theorem descends_remove (d : Document) (n : Nat) : d.Descends (d.remove n).2 :=
  ⟨size_remove.ge, fun m _ k hk => by rwa [kind?_remove] at hk⟩

theorem descends_release (d : Document) (held : List NodeId) (n : Nat) :
    d.Descends (d.release held n) :=
  ⟨size_release.ge, fun _ _ _ => kind?_of_release⟩

theorem exists_kind? (h : d.isAlive n = true) : ∃ k, d.kind? n = some k := by
  rw [kind?]
  rw [isAlive, Option.isSome_iff_exists] at h
  obtain ⟨x, hx⟩ := h
  exact ⟨x.kind, by rw [hx]; rfl⟩

/-- A name whose node was freed is not given again. -/
theorem Descends.isAlive (h : d.Descends e) (hn : n < d.cells.size) (halive : e.isAlive n = true) :
    d.isAlive n = true := by
  obtain ⟨k, hk⟩ := exists_kind? halive
  exact isAlive_of_kind? (h.kind n hn k hk)

end MarkupActions.Document
