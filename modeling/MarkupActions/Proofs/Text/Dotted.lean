import MarkupActions.Proofs.Text.Trim

/-! Dotted paths. Names without dots are joined by dots in one way only. -/

namespace MarkupActions.Text

/-- A name that may stand in a dotted path. -/
structure IsName (s : String) : Prop where
  ne_empty : s ≠ ""
  dot_not_mem : '.' ∉ s.toList

instance : DecidablePred IsName := fun s =>
  decidable_of_iff (s ≠ "" ∧ '.' ∉ s.toList)
    ⟨fun h => ⟨h.1, h.2⟩, fun h => ⟨h.ne_empty, h.dot_not_mem⟩⟩

/-- What is left of the parts of a path without the empty ones are names. -/
theorem isName_of_mem_splitOn {cs p : List Char} (h : p ∈ splitOn '.' cs) (hne : p ≠ []) :
    IsName (String.ofList p) where
  ne_empty := by simpa [← String.toList_inj] using hne
  dot_not_mem := by simpa using not_mem_of_mem_splitOn h

/-- The names of a dotted path are its parts. -/
theorem splitOn_dotted {path : List String} (h : ∀ s ∈ path, IsName s) (hne : path ≠ []) :
    splitOn '.' (".".intercalate path).toList = path.map String.toList := by
  have hlist : (".".intercalate path).toList = ['.'].intercalate (path.map String.toList) :=
    String.toList_intercalate
  rw [hlist, splitOn_intercalate _ (by simpa using hne)]
  intro p hp
  obtain ⟨s, hs, rfl⟩ := List.mem_map.mp hp
  exact (h s hs).dot_not_mem

/-- Different lists of names make different dotted paths. -/
theorem dotted_inj {p q : List String} (hp : ∀ s ∈ p, IsName s) (hq : ∀ s ∈ q, IsName s)
    (hp' : p ≠ []) (hq' : q ≠ []) (h : ".".intercalate p = ".".intercalate q) : p = q := by
  have hparts : p.map String.toList = q.map String.toList := by
    rw [← splitOn_dotted hp hp', ← splitOn_dotted hq hq', h]
  exact List.map_injective_iff.mpr (fun _ _ => String.toList_inj.mp) hparts

end MarkupActions.Text
