import MarkupActions.Action.Expr
import MarkupActions.Proofs.Argument.InTurn
import MarkupActions.Proofs.Text.Dotted

/-! What reading an action can give. The segments of a path are names, a shell that cannot be read
is malformed, and arguments that cannot be read hold a token that is unsupported. -/

namespace MarkupActions

open Text

theorem Text.mem_of_mem_trim {c : Char} {cs : List Char} (h : c ∈ trim cs) : c ∈ cs := by
  rw [trim, trimEnd_eq_rdropWhile] at h
  have hstart : c ∈ trimStart cs := (List.rdropWhile_prefix isBlank (trimStart cs)).subset h
  exact (List.dropWhile_suffix isBlank).subset hstart

namespace ActionExpr

variable {action root : String}

theorem isName_of_mem_pathSegments {cs s : List Char} (h : s ∈ pathSegments cs) :
    IsName (String.ofList s) := by
  obtain ⟨hmap, hne⟩ := List.mem_filter.mp h
  obtain ⟨p, hp, rfl⟩ := List.mem_map.mp hmap
  constructor
  · simpa [← String.toList_inj] using hne
  · intro hdot
    exact not_mem_of_mem_splitOn hp (mem_of_mem_trim (by simpa using hdot))

/-- The path of an action that can be read has at least one segment, and its segments are names. -/
theorem segments_of_parse {e : ActionExpr} (h : parse action root = .ok e) :
    e.path.segments ≠ [] ∧ ∀ s ∈ e.path.segments, IsName s := by
  unfold parse at h
  split at h
  · cases h
  next head body _ =>
    split at h
    · cases h
    next hne =>
      cases h
      refine ⟨by simpa using hne, fun s hs => ?_⟩
      obtain ⟨cs, hcs, rfl⟩ := List.mem_map.mp hs
      exact isName_of_mem_pathSegments hcs

theorem parse_error {e : ActionError} (h : parse action root = .error e) :
    e = .malformed action := by
  unfold parse at h
  split at h
  · exact (Except.error.inj h).symm
  · split at h
    · exact (Except.error.inj h).symm
    · cases h

theorem arguments_error {x : ActionExpr} {e : ActionError} (h : x.arguments = .error e) :
    ∃ token, e = .unsupported token := by
  unfold arguments at h
  split at h
  · cases h
  · exact Literal.parseAll_error h

end ActionExpr

end MarkupActions
