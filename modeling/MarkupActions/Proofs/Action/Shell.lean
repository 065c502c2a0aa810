import MarkupActions.Proofs.Action.Parse
import MarkupActions.Proofs.Action.Text

/-! The shell of an action. An action can be read exactly when it ends with a closing parenthesis
and a name stands before its first opening one, besides a root namespace with its dot. Nothing of
the text is lost then, and the path that is read can be written in one normal form. -/

namespace MarkupActions.ActionExpr

open Text

/-- A text cut at its first opening parenthesis, with a closing one at its end. -/
structure IsShell (cs head body : List Char) : Prop where
  eq_append : cs = head ++ '(' :: (body ++ [')'])
  paren_not_mem : '(' ∉ head

theorem IsShell.unique {cs head head' body body' : List Char} (h : IsShell cs head body)
    (h' : IsShell cs head' body') : head = head' ∧ body = body' := by
  obtain ⟨hhead, hbody⟩ :=
    append_sep_inj h.paren_not_mem h'.paren_not_mem (h.eq_append.symm.trans h'.eq_append)
  exact ⟨hhead, List.append_cancel_right hbody⟩

theorem cut?_of_not_mem {cs : List Char} (h : '(' ∉ cs) : cut? cs = none := by
  have hdrop : cs.dropWhile (· ≠ '(') = [] := by
    rw [List.dropWhile_eq_nil_iff]
    intro c hc
    rw [decide_eq_true_iff]
    rintro rfl
    exact h hc
  rw [cut?, List.span_eq_takeWhile_dropWhile, hdrop]

theorem cut?_eq_some_iff {cs head body : List Char} :
    cut? cs = some (head, body) ↔ IsShell cs head body ∧ head ≠ [] := by
  constructor
  · intro h
    by_cases hmem : '(' ∈ cs
    · obtain ⟨first, rest, rfl, hparen⟩ := List.eq_append_cons_of_mem hmem
      rw [cut?_of_first hparen] at h
      split at h
      next hends =>
        cases h
        exact ⟨⟨by rw [List.dropLast_append_getLast? _ hends.2], hparen⟩, hends.1⟩
      next => cases h
    · rw [cut?_of_not_mem hmem] at h
      cases h
  · rintro ⟨⟨rfl, hparen⟩, hne⟩
    exact cut?_append hne hparen body

/-- What a root namespace leaves of a path when it comes off the front with its dot, once and only
if both are there. -/
inductive Unrooted (root : List Char) : List Char → List Char → Prop where
  | stripped (rest : List Char) : Unrooted root (root ++ '.' :: rest) rest
  | kept {cs : List Char} (h : ∀ rest, root ++ '.' :: rest ≠ cs) : Unrooted root cs cs

theorem stripRoot_eq_iff {root cs rest : List Char} :
    stripRoot root cs = rest ↔ Unrooted root cs rest := by
  constructor
  · rintro rfl
    by_cases h : ∃ rest, root ++ '.' :: rest = cs
    · obtain ⟨rest, rfl⟩ := h
      rw [stripRoot_append]
      exact .stripped rest
    · have hkept : ∀ rest, root ++ '.' :: rest ≠ cs := fun rest hrest => h ⟨rest, hrest⟩
      rw [stripRoot_eq_self hkept]
      exact .kept hkept
  · rintro (rest | h)
    · exact stripRoot_append root rest
    · exact stripRoot_eq_self h

/-! ### Segments -/

/-- A path names something when one of its parts is not blank. -/
theorem pathSegments_ne_nil_iff {cs : List Char} :
    pathSegments cs ≠ [] ↔ ∃ part ∈ splitOn '.' cs, ¬ Blank part := by
  simp [pathSegments, List.filter_eq_nil_iff, trim_eq_nil_iff]

theorem headSegments_nil (root : List Char) : headSegments root [] = [] := by
  have hkept : stripRoot root [] = [] := stripRoot_eq_self (by simp)
  rw [headSegments, trimmed_nil, hkept]
  rfl

theorem mem_of_mem_stripRoot {root cs : List Char} {c : Char} (h : c ∈ stripRoot root cs) :
    c ∈ cs := by
  have hrest : Unrooted root cs (stripRoot root cs) := stripRoot_eq_iff.mp rfl
  generalize stripRoot root cs = rest at h hrest
  cases hrest with
  | stripped => simp [h]
  | kept => exact h

/-- Before the first parenthesis every part that is named can stand in a path. -/
theorem isSegment_of_mem_headSegments {root head s : List Char} (hparen : '(' ∉ head)
    (h : s ∈ headSegments root head) : IsSegment s := by
  obtain ⟨hmap, hne⟩ := List.mem_filter.mp h
  obtain ⟨part, hpart, rfl⟩ := List.mem_map.mp hmap
  exact {
    ne_nil := by simpa using hne
    dot_not_mem := fun hdot => not_mem_of_mem_splitOn hpart (mem_of_mem_trim hdot)
    paren_not_mem := fun hc => hparen <| mem_of_mem_trim <| mem_of_mem_stripRoot <|
      mem_of_mem_splitOn hpart <| mem_of_mem_trim hc
    trimmed := trimmed_trim part }

/-! ### Reading -/

theorem parse_of_shell {action root : String} {head body : List Char}
    (h : IsShell action.toList head body) (hne : headSegments root.toList head ≠ []) :
    parse action root =
      .ok ⟨action, ⟨(headSegments root.toList head).map String.ofList⟩, String.ofList body⟩ := by
  have hhead : head ≠ [] := by
    rintro rfl
    exact hne (headSegments_nil _)
  rw [parse, cut?_eq_some_iff.mpr ⟨h, hhead⟩]
  cases hsegments : headSegments root.toList head with
  | nil => exact absurd hsegments hne
  | cons s rest => simp only [hsegments]

/-- What is read of an action, and when. -/
theorem parse_eq_ok_iff {action root : String} {e : ActionExpr} :
    parse action root = .ok e ↔ ∃ head body, IsShell action.toList head body ∧
      headSegments root.toList head ≠ [] ∧
      e = ⟨action, ⟨(headSegments root.toList head).map String.ofList⟩, String.ofList body⟩ := by
  constructor
  · intro h
    rw [parse] at h
    split at h
    next => cases h
    next head body hcut =>
      have hshell := (cut?_eq_some_iff.mp hcut).1
      split at h
      next => cases h
      next hne =>
        cases h
        exact ⟨head, body, hshell, hne, rfl⟩
  · rintro ⟨head, body, hshell, hne, rfl⟩
    exact parse_of_shell hshell hne

/-- A shell whose path names nothing is malformed. -/
theorem parse_of_no_segments {action root : String} {head body : List Char}
    (h : IsShell action.toList head body) (hnil : headSegments root.toList head = []) :
    parse action root = .error (.malformed action) := by
  cases hparse : parse action root with
  | error e => rw [parse_error hparse]
  | ok e =>
    obtain ⟨head', body', hshell, hne, -⟩ := parse_eq_ok_iff.mp hparse
    obtain ⟨rfl, -⟩ := h.unique hshell
    exact absurd hnil hne

theorem segments_of_shell {action root : String} {head body : List Char} {e : ActionExpr}
    (h : IsShell action.toList head body) (he : parse action root = .ok e) :
    e.path.segments = (headSegments root.toList head).map String.ofList := by
  obtain ⟨head', body', hshell, -, rfl⟩ := parse_eq_ok_iff.mp he
  obtain ⟨rfl, -⟩ := h.unique hshell
  rfl

theorem isSegment_of_parse {action root : String} {e : ActionExpr} (h : parse action root = .ok e) :
    ∀ s ∈ e.path.segments, IsSegment s.toList := by
  obtain ⟨head, body, hshell, -, rfl⟩ := parse_eq_ok_iff.mp h
  intro s hs
  obtain ⟨cs, hcs, rfl⟩ := List.mem_map.mp hs
  rw [String.toList_ofList]
  exact isSegment_of_mem_headSegments hshell.paren_not_mem hcs

/-- A call of a path behind the root namespace is read as that path, whatever its arguments are. -/
theorem parse_normal {root : String} (hroot : Config.isIdentifier root.toList) {path : List String}
    (hpath : ∀ s ∈ path, IsSegment s.toList) (hne : path ≠ []) (arguments : String) :
    let normal := root ++ "." ++ ".".intercalate path ++ "(" ++ arguments ++ ")"
    parse normal root = .ok ⟨normal, ⟨path⟩, arguments⟩ := by
  intro normal
  have htext : normal = text (root :: path) [arguments] := by
    rw [text, String.intercalate_cons_of_ne_nil hne, String.intercalate_singleton]
  have hsegments : ∀ s ∈ root :: path, IsSegment s.toList :=
    List.forall_mem_cons.mpr ⟨isSegment_of_isIdentifier hroot, hpath⟩
  have hstrip : stripRoot root.toList (['.'].intercalate ((root :: path).map String.toList)) =
      ['.'].intercalate (path.map String.toList) := stripRoot_cons _ (by simpa using hne)
  rw [htext, parse_text hsegments (by simp) hpath hne hstrip, String.intercalate_singleton]

/-- What makes an action readable: it is a shell, something stands before its parenthesis, and when
that is trimmed and a root namespace in front comes off, one of its dotted parts is not blank. -/
def Readable (action root : String) : Prop :=
  ∃ head body rest, IsShell action.toList head body ∧ head ≠ [] ∧
    Unrooted root.toList (trim head) rest ∧ ∃ part ∈ splitOn '.' rest, ¬ Blank part

theorem readable_iff {action root : String} : Readable action root ↔
    ∃ head body, IsShell action.toList head body ∧ headSegments root.toList head ≠ [] := by
  constructor
  · rintro ⟨head, body, rest, hshell, -, hrest, hpart⟩
    refine ⟨head, body, hshell, ?_⟩
    rw [headSegments, stripRoot_eq_iff.mpr hrest]
    exact pathSegments_ne_nil_iff.mpr hpart
  · rintro ⟨head, body, hshell, hne⟩
    refine ⟨head, body, _, hshell, ?_, stripRoot_eq_iff.mp rfl, pathSegments_ne_nil_iff.mp hne⟩
    rintro rfl
    exact hne (headSegments_nil _)

/-- An action is read exactly when it is readable, for any root namespace; else it is malformed as a
whole. What is read is all of its text: the path is what stands before its first parenthesis, less
the root namespace, and the arguments are what stands behind it. The segments of the path are its
parts that are not blank, and they come out of the path as it is displayed. Behind any valid root
namespace the displayed path and the arguments are read as themselves again. -/
theorem parse_shell (action root : String) :
    ((∃ e, parse action root = .ok e) ↔ Readable action root) ∧
    (¬ Readable action root → parse action root = .error (.malformed action)) ∧
    ∀ e, parse action root = .ok e →
      e.raw = action ∧
      (∃ head rest, IsShell action.toList head e.rawArgs.toList ∧
        Unrooted root.toList (trim head) rest ∧
        e.path.segments = (pathSegments rest).map String.ofList) ∧
      e.path.segments ≠ [] ∧ (∀ s ∈ e.path.segments, IsSegment s.toList) ∧
      splitOn '.' e.path.display.toList = e.path.segments.map String.toList ∧
      ∀ c : Config, c.validate = .ok () →
        let normal := c.rootNamespace ++ "." ++ e.path.display ++ "(" ++ e.rawArgs ++ ")"
        parse normal c.rootNamespace = .ok ⟨normal, e.path, e.rawArgs⟩ := by
  have hreadable : (∃ e, parse action root = .ok e) ↔ Readable action root := by
    rw [readable_iff]
    constructor
    · rintro ⟨e, he⟩
      obtain ⟨head, body, hshell, hne, -⟩ := parse_eq_ok_iff.mp he
      exact ⟨head, body, hshell, hne⟩
    · rintro ⟨head, body, hshell, hne⟩
      exact ⟨_, parse_of_shell hshell hne⟩
  refine ⟨hreadable, fun hnot => ?_, fun e he => ?_⟩
  · cases hparse : parse action root with
    | ok e => exact absurd (hreadable.mp ⟨e, hparse⟩) hnot
    | error e => rw [parse_error hparse]
  · obtain ⟨hne, hnames⟩ := segments_of_parse he
    have hsegments := isSegment_of_parse he
    refine ⟨?_, ?_, hne, hsegments, splitOn_dotted hnames hne, fun c hc => ?_⟩
    · obtain ⟨head, body, -, -, rfl⟩ := parse_eq_ok_iff.mp he
      rfl
    · obtain ⟨head, body, hshell, -, rfl⟩ := parse_eq_ok_iff.mp he
      exact ⟨head, _, by rwa [String.toList_ofList], stripRoot_eq_iff.mp rfl, rfl⟩
    · exact parse_normal (Config.validate_eq_ok_iff.mp hc).2 hsegments hne e.rawArgs

end MarkupActions.ActionExpr
