import MarkupActions.Proofs.Action.Shell

/-! The parts of a path. What stands between the dots of a path counts without the blanks around
it, and not at all if it is blank. Actions whose paths have the same parts are read alike, unless
one of them starts with the root namespace and its dot and the other has the name of the root
namespace only: it comes off where its dot follows at once, with no dot in front. -/

namespace MarkupActions.ActionExpr

open Text

/-! ### Blanks around parts -/

theorem pathSegments_append (a b : List Char) :
    pathSegments (a ++ '.' :: b) = pathSegments a ++ pathSegments b := by
  rw [pathSegments, splitOn_append, List.map_append, List.filter_append]
  rfl

theorem pathSegments_of_not_mem {cs : List Char} (h : '.' ∉ cs) :
    pathSegments cs = [trim cs].filter (· ≠ []) := by
  rw [pathSegments, splitOn_of_not_mem h, List.map_singleton]

section Blank

variable {w : List Char} (hw : Blank w)
include hw

theorem dot_not_mem_of_blank : '.' ∉ w := fun h => absurd (hw '.' h) (by decide)

theorem pathSegments_blank_append (cs : List Char) : pathSegments (w ++ cs) = pathSegments cs := by
  have hpart {part : List Char} (h : '.' ∉ part) :
      pathSegments (w ++ part) = pathSegments part := by
    have hdot : '.' ∉ w ++ part := by simp [dot_not_mem_of_blank hw, h]
    have htrim : trim (w ++ part) = trim part := by
      simpa using trim_padded hw blank_nil part
    rw [pathSegments_of_not_mem hdot, pathSegments_of_not_mem h, htrim]
  by_cases hmem : '.' ∈ cs
  · obtain ⟨first, rest, rfl, hfirst⟩ := List.eq_append_cons_of_mem hmem
    rw [← List.append_assoc, pathSegments_append, pathSegments_append, hpart hfirst]
  · exact hpart hmem

theorem pathSegments_append_blank (cs : List Char) : pathSegments (cs ++ w) = pathSegments cs := by
  by_cases hmem : '.' ∈ cs
  · obtain ⟨first, rest, rfl, -⟩ := List.eq_append_cons_of_mem hmem
    have hrest : pathSegments (rest ++ w) = pathSegments rest := pathSegments_append_blank rest
    rw [List.append_assoc, List.cons_append, pathSegments_append, pathSegments_append, hrest]
  · have hdot : '.' ∉ cs ++ w := by simp [dot_not_mem_of_blank hw, hmem]
    have htrim : trim (cs ++ w) = trim cs := by
      simpa using trim_padded blank_nil hw cs
    rw [pathSegments_of_not_mem hdot, pathSegments_of_not_mem hmem, htrim]
termination_by cs.length
decreasing_by
  subst_vars
  simp only [List.length_append, List.length_cons]
  omega

end Blank

theorem pathSegments_trim (cs : List Char) : pathSegments (trim cs) = pathSegments cs := by
  obtain ⟨w, w', hw, hw', hcs⟩ := exists_padding cs
  conv_rhs => rw [hcs, pathSegments_append_blank hw', pathSegments_blank_append hw]

/-! ### The root namespace among the parts -/

/-- A path text that starts with a root namespace and its dot, behind blanks or not. -/
def Rooted (root head : List Char) : Prop := ∃ w rest, Blank w ∧ head = w ++ (root ++ '.' :: rest)

theorem rooted_iff {root head : List Char} (hroot : IsSegment root) :
    Rooted root head ↔ ∃ rest, root ++ '.' :: rest = trim head := by
  constructor
  · rintro ⟨w, rest, hw, rfl⟩
    obtain ⟨c, cs, rfl⟩ := List.exists_cons_of_ne_nil hroot.ne_nil
    have hc : ¬ isBlank c := (trimmed_iff.mp hroot.trimmed).1 c rfl
    have hstart : trimStart (c :: cs ++ '.' :: rest) = c :: cs ++ '.' :: rest :=
      List.dropWhile_cons_of_neg hc
    exact ⟨trimEnd rest, by
      rw [trim, trimStart_blank_append hw, hstart, trimEnd_append_cons (by decide)]⟩
  · rintro ⟨rest, hrest⟩
    obtain ⟨w, w', hw, -, hhead⟩ := exists_padding head
    refine ⟨w, rest ++ w', hw, ?_⟩
    conv_lhs => rw [hhead, ← hrest]
    simp

/-- The root namespace comes off a path that starts with it, where it is the first part. -/
theorem pathSegments_of_rooted {root head : List Char} (hroot : IsSegment root)
    (h : Rooted root head) : pathSegments head = root :: headSegments root head := by
  obtain ⟨rest, hrest⟩ := (rooted_iff hroot).mp h
  have hself : pathSegments (['.'].intercalate [root]) = [root] :=
    pathSegments_intercalate (by simpa using hroot) (by simp)
  rw [List.intercalate_singleton] at hself
  rw [headSegments, ← pathSegments_trim head, ← hrest, stripRoot_append, pathSegments_append, hself,
    List.singleton_append]

theorem pathSegments_of_not_rooted {root head : List Char} (hroot : IsSegment root)
    (h : ¬ Rooted root head) : pathSegments head = headSegments root head := by
  rw [rooted_iff hroot, not_exists] at h
  rw [headSegments, stripRoot_eq_self h, pathSegments_trim]

/-- Of two paths with the same parts the same is left exactly when the root namespace comes off
both or neither. -/
theorem headSegments_eq_iff {root head head' : List Char} (hroot : IsSegment root)
    (hparts : pathSegments head = pathSegments head') :
    headSegments root head = headSegments root head' ↔ (Rooted root head ↔ Rooted root head') := by
  by_cases h : Rooted root head <;> by_cases h' : Rooted root head'
  · rw [pathSegments_of_rooted hroot h, pathSegments_of_rooted hroot h', List.cons.injEq] at hparts
    exact iff_of_true hparts.2 (iff_of_true h h')
  · rw [pathSegments_of_rooted hroot h, pathSegments_of_not_rooted hroot h'] at hparts
    refine iff_of_false (fun heq => ?_) fun hiff => h' (hiff.mp h)
    exact List.cons_ne_self _ _ (hparts.trans heq.symm)
  · rw [pathSegments_of_not_rooted hroot h, pathSegments_of_rooted hroot h'] at hparts
    refine iff_of_false (fun heq => ?_) fun hiff => h (hiff.mpr h')
    exact List.cons_ne_self _ _ (hparts.symm.trans heq)
  · rw [pathSegments_of_not_rooted hroot h, pathSegments_of_not_rooted hroot h'] at hparts
    exact iff_of_true hparts (iff_of_false h h')

theorem not_rooted_of_first {root head : List Char} (hroot : IsSegment root)
    (h : (pathSegments head).head? ≠ some root) : ¬ Rooted root head := by
  intro hrooted
  rw [pathSegments_of_rooted hroot hrooted] at h
  exact h rfl

/-! ### Actions with the same parts -/

/-- Two actions have the same path, or both are malformed. -/
inductive ReadAlike (root a b : String) : Prop where
  | path {e f : ActionExpr} (ha : parse a root = .ok e) (hb : parse b root = .ok f)
    (h : e.path = f.path)
  | malformed (ha : parse a root = .error (.malformed a))
    (hb : parse b root = .error (.malformed b))

/-- Shells are read alike when their paths name the same segments. -/
theorem readAlike_iff {root a b : String} {head head' body body' : List Char}
    (ha : IsShell a.toList head body) (hb : IsShell b.toList head' body') :
    ReadAlike root a b ↔ headSegments root.toList head = headSegments root.toList head' := by
  constructor
  · rintro (⟨he, hf, h⟩ | ⟨hmal, hmal'⟩)
    · have hsegments := segments_of_shell ha he
      rw [h, segments_of_shell hb hf] at hsegments
      exact (List.map_injective_iff.mpr (fun _ _ => String.ofList_injective) hsegments).symm
    · have hnil {x : String} {first rest : List Char} (hx : IsShell x.toList first rest)
          (hparse : parse x root = .error (.malformed x)) :
          headSegments root.toList first = [] := by
        by_contra hne
        rw [parse_of_shell hx hne] at hparse
        cases hparse
      rw [hnil ha hmal, hnil hb hmal']
  · intro h
    by_cases hnil : headSegments root.toList head = []
    · exact .malformed (parse_of_no_segments ha hnil) (parse_of_no_segments hb (h ▸ hnil))
    · exact .path (parse_of_shell ha hnil) (parse_of_shell hb (h ▸ hnil)) (by rw [h])

/-- Of two shells whose paths have the same parts, and with a valid root namespace, each is read as
its parts, less the root namespace if it starts with that and its dot. So they are read alike, as
one path or as malformed, exactly when both of them start so or neither does; and they always are
when their first part is not the root namespace. -/
theorem readAlike_of_parts {c : Config} (hc : c.validate = .ok ()) {a b : String}
    {head head' body body' : List Char} (ha : IsShell a.toList head body)
    (hb : IsShell b.toList head' body') (hparts : pathSegments head = pathSegments head') :
    (ReadAlike c.rootNamespace a b ↔
      (Rooted c.rootNamespace.toList head ↔ Rooted c.rootNamespace.toList head')) ∧
    ((pathSegments head).head? ≠ some c.rootNamespace.toList → ReadAlike c.rootNamespace a b) ∧
    ∀ e, parse a c.rootNamespace = .ok e →
      (Rooted c.rootNamespace.toList head →
        c.rootNamespace :: e.path.segments = (pathSegments head).map String.ofList) ∧
      (¬ Rooted c.rootNamespace.toList head →
        e.path.segments = (pathSegments head).map String.ofList) := by
  have hroot : IsSegment c.rootNamespace.toList :=
    isSegment_of_isIdentifier (Config.validate_eq_ok_iff.mp hc).2
  have halike : ReadAlike c.rootNamespace a b ↔
      (Rooted c.rootNamespace.toList head ↔ Rooted c.rootNamespace.toList head') := by
    rw [readAlike_iff ha hb, headSegments_eq_iff hroot hparts]
  refine ⟨halike, fun hfirst => halike.mpr (iff_of_false ?_ ?_), fun e he => ⟨?_, ?_⟩⟩
  · exact not_rooted_of_first hroot hfirst
  · exact not_rooted_of_first hroot (hparts ▸ hfirst)
  · intro h
    rw [pathSegments_of_rooted hroot h, List.map_cons, String.ofList_toList,
      segments_of_shell ha he]
  · intro h
    rw [pathSegments_of_not_rooted hroot h, segments_of_shell ha he]

theorem readAlike_of_parts_of_strayDots :
    let a := " window. app..go()"
    let b := "window.app .go.(1)"
    ({} : Config).validate = .ok () ∧ IsShell a.toList " window. app..go".toList [] ∧
      IsShell b.toList "window.app .go.".toList ['1'] ∧
      pathSegments " window. app..go".toList = pathSegments "window.app .go.".toList ∧
      ReadAlike "window" a b := by
  intro a b
  have hc : ({} : Config).validate = .ok () := by decide
  have ha : IsShell a.toList " window. app..go".toList [] := ⟨by decide, by decide⟩
  have hb : IsShell b.toList "window.app .go.".toList ['1'] := ⟨by decide, by decide⟩
  have hparts : pathSegments " window. app..go".toList = pathSegments "window.app .go.".toList := by
    decide
  have hrooted : Rooted "window".toList " window. app..go".toList :=
    ⟨[' '], " app..go".toList, by simp [Blank, isBlank], by decide⟩
  have hrooted' : Rooted "window".toList "window.app .go.".toList :=
    ⟨[], "app .go.".toList, blank_nil, by decide⟩
  exact ⟨hc, ha, hb, hparts,
    (readAlike_of_parts hc ha hb hparts).1.mpr (iff_of_true hrooted hrooted')⟩

/-- With a blank behind the root namespace or a dot in front of it the parts are the same, and yet
it stays in the path. -/
theorem root_kept_by_blank :
    ({} : Config).validate = .ok () ∧
    IsShell "window.f()".toList "window.f".toList [] ∧
    IsShell "window .f()".toList "window .f".toList [] ∧
    IsShell ".window.f()".toList ".window.f".toList [] ∧
    pathSegments "window .f".toList = pathSegments "window.f".toList ∧
    pathSegments ".window.f".toList = pathSegments "window.f".toList ∧
    parse "window.f()" "window" = .ok ⟨"window.f()", ⟨["f"]⟩, ""⟩ ∧
    parse "window .f()" "window" = .ok ⟨"window .f()", ⟨["window", "f"]⟩, ""⟩ ∧
    parse ".window.f()" "window" = .ok ⟨".window.f()", ⟨["window", "f"]⟩, ""⟩ ∧
    ¬ ReadAlike "window" "window .f()" "window.f()" ∧
    ¬ ReadAlike "window" ".window.f()" "window.f()" := by
  have hplain : IsShell "window.f()".toList "window.f".toList [] := ⟨by decide, by decide⟩
  have hblank : IsShell "window .f()".toList "window .f".toList [] := ⟨by decide, by decide⟩
  have hdot : IsShell ".window.f()".toList ".window.f".toList [] := ⟨by decide, by decide⟩
  refine ⟨by decide, hplain, hblank, hdot, by decide, by decide, by decide, by decide, by decide,
    ?_, ?_⟩
  · rw [readAlike_iff hblank hplain]
    decide
  · rw [readAlike_iff hdot hplain]
    decide

end MarkupActions.ActionExpr
