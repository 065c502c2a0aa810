import Mathlib.Data.List.TakeDrop
import MarkupActions.Action.Expr
import MarkupActions.Config
import MarkupActions.Proofs.Argument.Written

/-! The text of an action. An action that is written from the segments of a path and texts of its
arguments is read back as that path and those arguments, with a root namespace in front of the path
or without one. -/

namespace MarkupActions

open Text

namespace Config

/-- What accepted settings promise. -/
theorem validate_eq_ok_iff {c : Config} : c.validate = .ok () ↔
    isAttributeName c.actionAttribute.toList ∧ isIdentifier c.rootNamespace.toList := by
  unfold validate
  split
  next h => simp_all
  next h =>
    split
    next h' => simp_all
    next h' => simp_all

variable {cs : List Char} {d : Char}

theorem isIdentifierStart_or_isDigit (h : isIdentifier cs) (hd : d ∈ cs) :
    isIdentifierStart d || d.isDigit := by
  cases cs with
  | nil => cases hd
  | cons c cs =>
    simp only [isIdentifier, Bool.and_eq_true, List.all_eq_true] at h
    rcases List.mem_cons.mp hd with rfl | hd
    · rw [h.1, Bool.true_or]
    · exact h.2 d hd

theorem not_isBlank_of_isIdentifier (h : isIdentifier cs) (hd : d ∈ cs) : ¬ isBlank d := by
  have hclass := isIdentifierStart_or_isDigit h hd
  simp only [isIdentifierStart, Bool.or_eq_true, beq_iff_eq] at hclass
  rcases hclass with ((hd | rfl) | rfl) | hd
  · exact not_isBlank_of_isAlphanum (by rw [Char.isAlphanum, hd, Bool.true_or])
  · decide
  · decide
  · exact not_isBlank_of_isAlphanum (by rw [Char.isAlphanum, hd, Bool.or_true])

end Config

namespace ActionExpr

/-- A name that may stand between two dots of a path. -/
structure IsSegment (s : List Char) : Prop where
  ne_nil : s ≠ []
  dot_not_mem : '.' ∉ s
  paren_not_mem : '(' ∉ s
  trimmed : Trimmed s

instance : DecidablePred IsSegment := fun s =>
  decidable_of_iff (s ≠ [] ∧ '.' ∉ s ∧ '(' ∉ s ∧ Trimmed s)
    ⟨fun ⟨h₁, h₂, h₃, h₄⟩ => ⟨h₁, h₂, h₃, h₄⟩, fun ⟨h₁, h₂, h₃, h₄⟩ => ⟨h₁, h₂, h₃, h₄⟩⟩

/-- The text of an action, from the segments of its path and the texts of its arguments. -/
def text (path arguments : List String) : String :=
  ".".intercalate path ++ "(" ++ ",".intercalate arguments ++ ")"

/-- An identifier can be a segment. -/
theorem isSegment_of_isIdentifier {cs : List Char} (h : Config.isIdentifier cs) : IsSegment cs where
  ne_nil := by
    rintro rfl
    cases h
  dot_not_mem hd := absurd (Config.isIdentifierStart_or_isDigit h hd) (by decide)
  paren_not_mem hd := absurd (Config.isIdentifierStart_or_isDigit h hd) (by decide)
  trimmed := trimmed_of_forall fun _ => Config.not_isBlank_of_isIdentifier h

/-! ### Paths -/

section Path

variable {path : List (List Char)} (h : ∀ s ∈ path, IsSegment s) (hne : path ≠ [])
include h hne

theorem intercalate_ne_nil : ['.'].intercalate path ≠ [] := by
  obtain ⟨s, rest, rfl⟩ := List.exists_cons_of_ne_nil hne
  have hs : s ≠ [] := (h s (by simp)).ne_nil
  cases rest <;> simp [hs]

theorem paren_not_mem_intercalate : '(' ∉ ['.'].intercalate path := by
  induction path with
  | nil => exact absurd rfl hne
  | cons s rest ih =>
    have hs := (h s (by simp)).paren_not_mem
    cases rest with
    | nil => simpa using hs
    | cons t rest =>
      have hrest := ih (fun u hu => h u (by simp [hu])) (by simp)
      rw [List.intercalate_cons_cons]
      simp [hs, hrest]

theorem trimmed_intercalate : Trimmed (['.'].intercalate path) := by
  induction path with
  | nil => exact absurd rfl hne
  | cons s rest ih =>
    have hs := h s (by simp)
    cases rest with
    | nil => simpa using hs.trimmed
    | cons t rest =>
      have ht : ∀ u ∈ t :: rest, IsSegment u := fun u hu => h u (by simp [hu])
      rw [List.intercalate_cons_cons]
      exact hs.trimmed.append (ih ht (by simp)) hs.ne_nil (intercalate_ne_nil ht (by simp)) ['.']

theorem pathSegments_intercalate : pathSegments (['.'].intercalate path) = path := by
  have htrim : path.map trim = path := by
    conv_rhs => rw [← List.map_id path]
    exact List.map_congr_left fun s hs => (h s hs).trimmed
  rw [pathSegments, splitOn_intercalate (fun s hs => (h s hs).dot_not_mem) hne, htrim,
    List.filter_eq_self]
  intro s hs
  simpa using (h s hs).ne_nil

end Path

/-! ### The root namespace -/

theorem stripRoot_append (root rest : List Char) : stripRoot root (root ++ '.' :: rest) = rest := by
  have hprefix : (root ++ ['.']).isPrefixOf? (root ++ '.' :: rest) = some rest :=
    List.isPrefixOf?_eq_some_iff_append_eq.mpr (by simp)
  rw [stripRoot, hprefix, Option.getD_some]

theorem stripRoot_eq_self {root cs : List Char} (h : ∀ rest, root ++ '.' :: rest ≠ cs) :
    stripRoot root cs = cs := by
  rw [stripRoot]
  cases hp : (root ++ ['.']).isPrefixOf? cs with
  | none => rfl
  | some rest =>
    rw [List.isPrefixOf?_eq_some_iff_append_eq] at hp
    exact absurd (by simpa using hp) (h rest)

/-- A root namespace that is put in front of a path comes off again. -/
theorem stripRoot_cons (root : List Char) {path : List (List Char)} (hne : path ≠ []) :
    stripRoot root (['.'].intercalate (root :: path)) = ['.'].intercalate path := by
  rw [List.intercalate_cons_of_ne_nil hne, List.append_assoc, List.singleton_append,
    stripRoot_append]

/-- Nothing comes off a path that does not start with the root namespace, or is nothing else. -/
theorem stripRoot_intercalate {root : List Char} (hroot : '.' ∉ root) {path : List (List Char)}
    (h : ∀ s ∈ path, IsSegment s) (hroot' : ¬ (1 < path.length ∧ path.head? = some root)) :
    stripRoot root (['.'].intercalate path) = ['.'].intercalate path := by
  apply stripRoot_eq_self
  intro rest heq
  match path with
  | [] => simp at heq
  | [s] =>
    rw [List.intercalate_singleton] at heq
    exact (h s (by simp)).dot_not_mem (by simp [← heq])
  | s :: t :: path =>
    rw [List.intercalate_cons_cons, List.append_assoc, List.singleton_append] at heq
    have hs : root = s := (append_sep_inj hroot (h s (by simp)).dot_not_mem heq).1
    exact hroot' ⟨by simp, by simp [hs]⟩

/-! ### The whole -/

/-- A text is cut at its first opening parenthesis. -/
theorem cut?_of_first {head : List Char} (hparen : '(' ∉ head) (body : List Char) :
    cut? (head ++ '(' :: body) =
      if head ≠ [] ∧ body.getLast? = some ')' then some (head, body.dropLast) else none := by
  have hhead : ∀ c ∈ head, decide (c ≠ '(') := by
    intro c hc
    rw [decide_eq_true_iff]
    rintro rfl
    exact hparen hc
  have htake : (head ++ '(' :: body).takeWhile (· ≠ '(') = head := by
    rw [List.takeWhile_append_of_pos hhead, List.takeWhile_cons_of_neg (by simp), List.append_nil]
  have hdrop : (head ++ '(' :: body).dropWhile (· ≠ '(') = '(' :: body := by
    rw [List.dropWhile_append_of_pos hhead, List.dropWhile_cons_of_neg (by simp)]
  rw [cut?, List.span_eq_takeWhile_dropWhile, htake, hdrop]

theorem cut?_append {head : List Char} (hne : head ≠ []) (hparen : '(' ∉ head) (body : List Char) :
    cut? (head ++ '(' :: (body ++ [')'])) = some (head, body) := by
  rw [cut?_of_first hparen, if_pos ⟨hne, List.getLast?_concat⟩, List.dropLast_concat]

/-- An action with a path `path`, of which `rest` is left without the root namespace. -/
theorem parse_text {root : String} {path rest arguments : List String}
    (hpath : ∀ s ∈ path, IsSegment s.toList) (hne : path ≠ [])
    (hrest : ∀ s ∈ rest, IsSegment s.toList) (hne' : rest ≠ [])
    (hstrip : stripRoot root.toList (['.'].intercalate (path.map String.toList)) =
      ['.'].intercalate (rest.map String.toList)) :
    parse (text path arguments) root =
      .ok ⟨text path arguments, ⟨rest⟩, ",".intercalate arguments⟩ := by
  have hpath' : ∀ s ∈ path.map String.toList, IsSegment s := by simpa using hpath
  have hrest' : ∀ s ∈ rest.map String.toList, IsSegment s := by simpa using hrest
  have htext : (text path arguments).toList = ['.'].intercalate (path.map String.toList) ++
      '(' :: ((",".intercalate arguments).toList ++ [')']) := by
    simp [text, String.toList_intercalate]
  have hcut := cut?_append (intercalate_ne_nil hpath' (by simpa using hne))
    (paren_not_mem_intercalate hpath' (by simpa using hne)) (",".intercalate arguments).toList
  have hsegments : headSegments root.toList (['.'].intercalate (path.map String.toList)) =
      rest.map String.toList := by
    rw [headSegments, trimmed_intercalate hpath' (by simpa using hne), hstrip,
      pathSegments_intercalate hrest' (by simpa using hne')]
  rw [parse, htext, hcut]
  simp only [hsegments]
  cases rest with
  | nil => exact absurd rfl hne'
  | cons s rest => simp [Function.comp_def, -String.toList_intercalate]

/-- A list of arguments is read alike whether it is looked at for blanks first or not. -/
theorem arguments_eq (e : ActionExpr) : e.arguments = Literal.parseAll e.rawArgs := by
  rw [arguments]
  split
  next h =>
    rw [Literal.parseAll, Argument.split, Literal.tokens_of_blank (trim_eq_nil_iff.mp h)]
    rfl
  next => rfl

/-- What is read from the text of an action is what it was written from. With the root namespace in
front of the path it comes off; without it the path must not start with that name itself. -/
theorem parse_text_arguments {c : Config} (hc : c.validate = .ok ()) {path : List String}
    (hpath : ∀ s ∈ path, IsSegment s.toList) (hne : path ≠ []) {literals : List Literal}
    {arguments : List String}
    (harguments : List.Forall₂ (fun l t => Literal.Padded l t.toList) literals arguments) :
    (∃ e, parse (text (c.rootNamespace :: path) arguments) c.rootNamespace = .ok e ∧
      e.path.segments = path ∧ e.arguments = .ok literals) ∧
    (¬ (1 < path.length ∧ path.head? = some c.rootNamespace) →
      ∃ e, parse (text path arguments) c.rootNamespace = .ok e ∧
        e.path.segments = path ∧ e.arguments = .ok literals) := by
  have hread (raw : String) : (⟨raw, ⟨path⟩, ",".intercalate arguments⟩ : ActionExpr).arguments =
      .ok literals := by
    rw [arguments_eq]
    exact Literal.parseAll_intercalate harguments
  have hroot : IsSegment c.rootNamespace.toList :=
    isSegment_of_isIdentifier (Config.validate_eq_ok_iff.mp hc).2
  constructor
  · refine ⟨_, parse_text ?_ (by simp) hpath hne ?_, rfl, hread _⟩
    · simpa using ⟨hroot, hpath⟩
    · exact stripRoot_cons _ (by simpa using hne)
  · intro hfirst
    refine ⟨_, parse_text hpath hne hpath hne ?_, rfl, hread _⟩
    apply stripRoot_intercalate hroot.dot_not_mem
    · simpa using hpath
    · simpa [String.toList_inj] using hfirst

theorem parse_text_arguments_of_every_form :
    let path := ["app", "window"]
    let literals : List Literal :=
      [.str "\\',", .int (-9223372036854775808), .bool true, .sectionRef "a-1", .liveText]
    let arguments := [" '\\',' ", "-9223372036854775808", "true\t", "\x7b section: 'a-1'\x7d",
      "\n" ++ Literal.liveTextExpression]
    ({} : Config).validate = .ok () ∧ (∀ s ∈ path, IsSegment s.toList) ∧
    List.Forall₂ (fun l t => Literal.Padded l t.toList) literals arguments ∧
    (∃ e, parse (text ("window" :: path) arguments) "window" = .ok e ∧
      e.path.segments = path ∧ e.arguments = .ok literals) ∧
    (∃ e, parse (text path arguments) "window" = .ok e ∧
      e.path.segments = path ∧ e.arguments = .ok literals) := by
  intro path literals arguments
  have hvalid : ({} : Config).validate = .ok () := by decide
  have hpath : ∀ s ∈ path, IsSegment s.toList := by decide
  have hblank : Blank [' '] ∧ Blank ['\t'] ∧ Blank ['\n'] := by simp [Blank, isBlank]
  have hquoted : Literal.Enclosed '\'' "\\',".toList :=
    .escaped (.plain (by decide) (by decide) .nil)
  have hname : "a-1".toList.all Literal.isSectionChar = true := by decide
  have hsection : Literal.Written (.sectionRef "a-1")
      (Literal.sectionText [' '] [] [' '] [] "a-1".toList) :=
    .sectionRef (by decide) (List.all_eq_true.mp hname) hblank.1 blank_nil hblank.1 blank_nil
  have harguments : List.Forall₂ (fun l t => Literal.Padded l t.toList) literals arguments :=
    .cons ⟨[' '], _, [' '], hblank.1, .str rfl hquoted, hblank.1, rfl⟩
    (.cons ⟨[], _, [], blank_nil, .int _, blank_nil, rfl⟩
    (.cons ⟨[], _, ['\t'], blank_nil, .true, hblank.2.1, rfl⟩
    (.cons ⟨[], _, [], blank_nil, hsection, blank_nil, rfl⟩
    (.cons ⟨['\n'], _, [], hblank.2.2, .liveText, blank_nil, rfl⟩ .nil))))
  have h := parse_text_arguments hvalid hpath (by decide) harguments
  exact ⟨hvalid, hpath, harguments, h.1, h.2 (by decide)⟩

end ActionExpr

end MarkupActions
