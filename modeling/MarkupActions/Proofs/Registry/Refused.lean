import MarkupActions.Proofs.Registry.Place

/-! Refused requests. A path is refused for want of a name, or for a leaf above it, which the error
names; the walk to that leaf has made no namespace by then, so the registry is what it was. Every
other path is bound. -/

namespace MarkupActions

variable {φ : Type}

/-- Where no leaf is in the way, what is bound at a path is found there. -/
theorem Namespace.lookup_bind_of_not_blocks {ns : Namespace φ} {p : List String} (hp : p ≠ [])
    (h : ¬ ns.Blocks p) (path : String) (b : Binding φ) :
    (ns.bind path b p).1 = .ok () ∧ (ns.bind path b p).2.lookup p = some b := by
  induction p generalizing ns with
  | nil => exact absurd rfl hp
  | cons name p ih =>
    cases p with
    | nil => exact ⟨rfl, by rw [bind, lookup_insert_cons, if_pos rfl, Binding.follow]⟩
    | cons m rest =>
      obtain ⟨hfree, hbind⟩ := bind_cons_cons_of_not_blocks h
      obtain ⟨hok, hlookup⟩ := ih (by simp) hfree
      rw [hbind]
      exact ⟨hok, by rw [lookup_insert_cons, if_pos rfl, Binding.follow, hlookup]⟩

namespace Registry

variable {r : Registry φ} {path : String}

/-- A path has no name in it when nothing stands between its dots. -/
theorem segments_eq_nil_iff :
    segments path = [] ↔ ∀ part ∈ Text.splitOn '.' path.toList, part = [] := by
  simp [segments, List.filter_eq_nil_iff]

theorem bind_of_no_name (h : segments path = []) (b : Binding φ) :
    r.bind path b = (.error .emptyPath, r) := by
  rw [bind, h]
  rfl

theorem bind_of_leaf_above {q : List String} {segment : String} {l : Leaf φ}
    (habove : Above (q ++ [segment]) (segments path))
    (h : r.lookup (q ++ [segment]) = some l.binding) (b : Binding φ) :
    r.bind path b = (.error (.pathConflict path segment), r) := by
  rw [bind, Namespace.bind_of_leaf habove h]

theorem bind_of_free (hne : segments path ≠ []) (hfree : ¬ r.root.Blocks (segments path))
    (b : Binding φ) :
    (r.bind path b).1 = .ok () ∧ (r.bind path b).2.lookup (segments path) = some b :=
  Namespace.lookup_bind_of_not_blocks hne hfree path b

/-- The three ways in which binding can end. -/
theorem bind_cases (r : Registry φ) (path : String) (b : Binding φ) :
    (segments path = [] ∧ r.bind path b = (.error .emptyPath, r)) ∨
    (∃ (q : List String) (segment : String) (l : Leaf φ), Above (q ++ [segment]) (segments path) ∧
      r.lookup (q ++ [segment]) = some l.binding ∧
      r.bind path b = (.error (.pathConflict path segment), r)) ∨
    (segments path ≠ [] ∧ ¬ r.root.Blocks (segments path) ∧ (r.bind path b).1 = .ok () ∧
      (r.bind path b).2.lookup (segments path) = some b) := by
  by_cases hempty : segments path = []
  · exact .inl ⟨hempty, bind_of_no_name hempty b⟩
  by_cases hblocks : r.root.Blocks (segments path)
  · obtain ⟨q, l, habove, h⟩ := hblocks
    obtain rfl | ⟨q, segment, rfl⟩ := q.eq_nil_or_concat'
    · simp at h
    · exact .inr (.inl ⟨q, segment, l, habove, h, bind_of_leaf_above habove h b⟩)
  · exact .inr (.inr ⟨hempty, hblocks, bind_of_free hempty hblocks b⟩)

/-- Binding does all or nothing, whatever the registry, the path and the binding are. It fails for
an empty path exactly when there is no name between the dots, and for a conflict exactly when a
function or a value is bound above the path, the last name of which it tells with the path as it is
given; a failure leaves the registry as it is. Otherwise it succeeds, and the binding is found. -/
theorem bind_all_or_nothing (r : Registry φ) (path : String) (b : Binding φ) :
    let result := (r.bind path b).1
    let after := (r.bind path b).2
    (result = .error .emptyPath ↔ ∀ part ∈ Text.splitOn '.' path.toList, part = []) ∧
    (∀ text segment, result = .error (.pathConflict text segment) ↔
      text = path ∧ ∃ (q : List String) (l : Leaf φ), Above (q ++ [segment]) (segments path) ∧
        r.lookup (q ++ [segment]) = some l.binding) ∧
    (∀ e, result = .error e → after = r) ∧
    (result = .ok () ↔ segments path ≠ [] ∧
      ¬ ∃ (q : List String) (l : Leaf φ), Above q (segments path) ∧ r.lookup q = some l.binding) ∧
    (result = .ok () → after.lookup (segments path) = some b) := by
  intro result after
  rw [← segments_eq_nil_iff]
  obtain ⟨hempty, hbind⟩ | ⟨q, segment, l, habove, h, hbind⟩ | ⟨hne, hfree, hok, hlookup⟩ :=
    bind_cases r path b
  · simp [result, after, hbind, hempty, not_above_nil]
  · have hne : segments path ≠ [] := by
      intro hempty
      exact not_above_nil _ (hempty ▸ habove)
    have hresult : result = .error (.pathConflict path segment) := congrArg Prod.fst hbind
    refine ⟨?_, ?_, ?_, ?_, ?_⟩
    · simp [hresult, hne]
    · intro text segment'
      constructor
      · intro hsame
        rw [hresult] at hsame
        cases hsame
        exact ⟨rfl, q, l, habove, h⟩
      · rintro ⟨rfl, q', l', habove', h'⟩
        exact congrArg Prod.fst (bind_of_leaf_above habove' h' b)
    · exact fun _ _ => congrArg Prod.snd hbind
    · exact iff_of_false (by simp [hresult]) fun hfree => hfree.2 ⟨_, l, habove, h⟩
    · simp [hresult]
  · have hnone (e : RegistryError) : result ≠ .error e := by simp [result, hok]
    refine ⟨iff_of_false (hnone _) hne, ?_, ?_, iff_of_true hok ⟨hne, hfree⟩, fun _ => hlookup⟩
    · intro text segment
      refine iff_of_false (hnone _) ?_
      rintro ⟨-, q, l, habove, h⟩
      exact hfree ⟨_, l, habove, h⟩
    · exact fun e he => absurd he (hnone e)

end Registry

end MarkupActions
