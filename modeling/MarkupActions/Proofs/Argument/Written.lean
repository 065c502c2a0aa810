import Mathlib.Data.List.Basic
import MarkupActions.Argument.Literal
import MarkupActions.Json.Basic
import MarkupActions.Proofs.Argument.Scan

/-! The texts of literals. Every one of them is sealed to the scan and recognized as the literal
that it writes, so a list of literals is read back from its texts whatever blanks stand around
them. -/

namespace MarkupActions

open Argument Text

namespace Literal

/-- What may stand between two quotes `q`: each further `q` follows a backslash that escapes it,
and no backslash is left over at the end. -/
inductive Enclosed (q : Char) : List Char → Prop where
  | nil : Enclosed q []
  | plain {c : Char} {cs : List Char} (hq : c ≠ q) (hb : c ≠ '\\') (h : Enclosed q cs) :
    Enclosed q (c :: cs)
  | escaped {c : Char} {cs : List Char} (h : Enclosed q cs) : Enclosed q ('\\' :: c :: cs)

/-- A section with blanks after the brace, before and after the colon, and before the last brace.
-/
def sectionText (w₁ w₂ w₃ w₄ name : List Char) : List Char :=
  '{' :: (w₁ ++ ("section".toList ++ (w₂ ++ ':' :: (w₃ ++
    '\'' :: (name ++ '\'' :: (w₄ ++ ['}']))))))

/-- A text of a literal. A string is written as it is between quotes of either kind, an integer in
decimal, and a section with any blanks inside its braces. -/
inductive Written : Literal → List Char → Prop where
  | str {q : Char} {text : String} (hq : isQuote q) (h : Enclosed q text.toList) :
    Written (str text) (q :: (text.toList ++ [q]))
  | int (n : Int64) : Written (int n) (Json.renderInt n.toInt)
  | true : Written (bool true) "true".toList
  | false : Written (bool false) "false".toList
  | sectionRef {name : String} {w₁ w₂ w₃ w₄ : List Char} (hne : name ≠ "")
    (hname : ∀ c ∈ name.toList, isSectionChar c) (h₁ : Blank w₁) (h₂ : Blank w₂) (h₃ : Blank w₃)
    (h₄ : Blank w₄) :
    Written (sectionRef name) (sectionText w₁ w₂ w₃ w₄ name.toList)
  | liveText : Written liveText liveTextExpression.toList

/-- A text of a literal with any blanks around it. -/
def Padded (l : Literal) (t : List Char) : Prop :=
  ∃ w u w', Blank w ∧ Written l u ∧ Blank w' ∧ t = w ++ u ++ w'

/-! ### Runs of one kind -/

/-- A blank argument list has no tokens. -/
theorem tokens_of_blank {w : List Char} (h : Blank w) : tokens w = [] := by
  have hpieces : pieces {} w = [w] :=
    pieces_eq_singleton_of_not_mem (fun hc => absurd (h ',' hc) (by decide)) _
  rw [tokens, hpieces, List.map_singleton, trim_eq_nil_of_blank h]
  rfl

theorem sealed_of_blank {w : List Char} (h : Blank w) : Sealed w :=
  .of_plain (fun c hc => Scan.isPlain_of_isBlank (h c hc)) fun hc => absurd (h ',' hc) (by decide)

/-- Digits, with a minus sign or without. -/
theorem mem_renderInt {n : Int} {c : Char} (h : c ∈ Json.renderInt n) :
    (c.isDigit || c == '-') = Bool.true := by
  have hdigit {k : Nat} (hk : c ∈ Nat.toDigits 10 k) : (c.isDigit || c == '-') = Bool.true := by
    rw [Nat.isDigit_of_mem_toDigits (by decide) (by decide) hk, Bool.true_or]
  cases n with
  | ofNat k => exact hdigit h
  | negSucc k =>
    rcases List.mem_cons.mp h with rfl | h
    · rfl
    · exact hdigit h

theorem isPlain_of_mem_renderInt {n : Int} {c : Char} (h : c ∈ Json.renderInt n) :
    Scan.isPlain c := by
  have hclass := mem_renderInt h
  exact Scan.isPlain_of_class (fun d => d.isDigit || d == '-') hclass (by decide)

theorem sealed_renderInt (n : Int) : Sealed (Json.renderInt n) :=
  .of_plain (fun _ => isPlain_of_mem_renderInt) fun hc => absurd (mem_renderInt hc) (by decide)

theorem trimmed_renderInt (n : Int) : Trimmed (Json.renderInt n) := by
  apply trimmed_of_forall
  intro c hc
  have h := mem_renderInt hc
  rw [Bool.or_eq_true, beq_iff_eq] at h
  rcases h with h | rfl
  · exact not_isBlank_of_isAlphanum (by rw [Char.isAlphanum, h, Bool.or_true])
  · decide

/-! ### Quoted text -/

namespace Enclosed

variable {q : Char} {cs : List Char}

theorem of_forall (h : ∀ c ∈ cs, c ≠ q ∧ c ≠ '\\') : Enclosed q cs := by
  induction cs with
  | nil => exact .nil
  | cons c cs ih =>
    have hc := h c (by simp)
    exact .plain hc.1 hc.2 (ih fun d hd => h d (by simp [hd]))

theorem run_eq (h : Enclosed q cs) (depth : Nat) :
    Scan.run ⟨.inside q, depth⟩ cs = ⟨.inside q, depth⟩ := by
  induction h with
  | nil => rfl
  | plain hq hb _ ih => rw [Scan.run_cons, Scan.step_inside hb hq, ih]
  | escaped _ ih => rw [Scan.run_cons, Scan.run_cons, Scan.step_backslash, Scan.step_escaping, ih]

theorem pieces_eq (h : Enclosed q cs) (depth : Nat) :
    pieces ⟨.inside q, depth⟩ cs = [cs] := by
  induction h with
  | nil => rfl
  | plain hq hb _ ih =>
    rw [pieces_cons_of_not_cut (by simp [Scan.isTop]), Scan.step_inside hb hq, ih]
    rfl
  | escaped _ ih =>
    rw [pieces_cons_of_not_cut (by simp [Scan.isTop]), Scan.step_backslash,
      pieces_cons_of_not_cut (by simp [Scan.isTop]), Scan.step_escaping, ih]
    rfl

/-- The quote that opens a text is closed behind it, at any depth. -/
theorem run_quoted (h : Enclosed q cs) (hq : isQuote q) (depth : Nat) (rest : List Char) :
    (Scan.atDepth depth).run (q :: (cs ++ q :: rest)) = (Scan.atDepth depth).run rest := by
  rw [Scan.run_cons, Scan.step_quote hq, Scan.run_append, h.run_eq, Scan.run_cons,
    Scan.step_close hq]

theorem sealed (h : Enclosed q cs) (hq : isQuote q) : Sealed (q :: (cs ++ [q])) where
  pieces_eq := by
    have hcomma : q ≠ ',' := by
      rintro rfl
      exact absurd hq (by decide)
    have hlast : pieces ⟨.inside q, 0⟩ [q] = [[q]] :=
      pieces_eq_singleton_of_not_mem (by simpa using hcomma.symm) _
    rw [pieces_cons_of_not_cut (fun hc => hcomma hc.1), Scan.step_quote hq,
      pieces_append (h.pieces_eq 0), h.run_eq, hlast]
    rfl
  run_eq := h.run_quoted hq 0 []

end Enclosed

/-! ### Sections -/

theorem enclosed_of_sectionChars {name : List Char} (h : ∀ c ∈ name, isSectionChar c) :
    Enclosed '\'' name := by
  apply Enclosed.of_forall
  intro c hc
  constructor <;> rintro rfl <;> exact absurd (h _ hc) (by decide)

section Section

variable {w₁ w₂ w₃ w₄ name : List Char} (h₁ : Blank w₁) (h₂ : Blank w₂) (h₃ : Blank w₃)
  (h₄ : Blank w₄) (hname : ∀ c ∈ name, isSectionChar c)
include h₁ h₂ h₃ h₄ hname

theorem sealed_sectionText : Sealed (sectionText w₁ w₂ w₃ w₄ name) where
  pieces_eq := by
    apply pieces_eq_singleton_of_not_mem
    have hblank {w : List Char} (hw : Blank w) : ',' ∉ w := fun hc => absurd (hw _ hc) (by decide)
    have hsection : ',' ∉ name := fun hc => absurd (hname _ hc) (by decide)
    simp [sectionText, hblank h₁, hblank h₂, hblank h₃, hblank h₄, hsection]
  run_eq := by
    have hblank {w : List Char} (hw : Blank w) (rest : List Char) :
        (Scan.atDepth 1).run (w ++ rest) = (Scan.atDepth 1).run rest := by
      rw [Scan.run_append, Scan.run_blank hw]
    calc Scan.run {} (sectionText w₁ w₂ w₃ w₄ name)
      _ = (Scan.atDepth 1).run ("section".toList ++ (w₂ ++ ':' :: (w₃ ++
            '\'' :: (name ++ '\'' :: (w₄ ++ ['}']))))) := hblank h₁ _
      _ = (Scan.atDepth 1).run (w₂ ++ ':' :: (w₃ ++ '\'' :: (name ++ '\'' :: (w₄ ++ ['}'])))) := rfl
      _ = (Scan.atDepth 1).run (w₃ ++ '\'' :: (name ++ '\'' :: (w₄ ++ ['}']))) := hblank h₂ _
      _ = (Scan.atDepth 1).run ('\'' :: (name ++ '\'' :: (w₄ ++ ['}']))) := hblank h₃ _
      _ = (Scan.atDepth 1).run (w₄ ++ ['}']) :=
          (enclosed_of_sectionChars hname).run_quoted rfl 1 _
      _ = {} := hblank h₄ _

/-- The name is found between its quotes, whatever blanks there are. -/
theorem section?_sectionText (hne : name ≠ []) :
    (section? (sectionText w₁ w₂ w₃ w₄ name)) = some name := by
  have hword (a b : List Char) : a.isPrefixOf? (a ++ b) = some b :=
    List.isPrefixOf?_eq_some_iff_append_eq.mpr rfl
  have hchar (c : Char) (b : List Char) : [c].isPrefixOf? (c :: b) = some b := hword [c] b
  have hskip {w : List Char} (hw : Blank w) {c : Char} (hc : ¬ isBlank c) (rest : List Char) :
      trimStart (w ++ c :: rest) = c :: rest := by
    rw [trimStart_blank_append hw, trimStart, List.dropWhile_cons_of_neg hc]
  have hquote : ¬ isSectionChar '\'' := by decide
  have htake (rest : List Char) : (name ++ '\'' :: rest).takeWhile isSectionChar = name := by
    rw [List.takeWhile_append_of_pos hname, List.takeWhile_cons_of_neg hquote, List.append_nil]
  have hdrop (rest : List Char) :
      (name ++ '\'' :: rest).dropWhile isSectionChar = '\'' :: rest := by
    rw [List.dropWhile_append_of_pos hname, List.dropWhile_cons_of_neg hquote]
  have hsection (rest : List Char) :
      trimStart (w₁ ++ ("section".toList ++ rest)) = "section".toList ++ rest :=
    hskip h₁ (by decide) _
  unfold section? sectionText
  simp only [Option.bind_eq_bind, Option.bind_some, hchar, hword, hsection, htake, hdrop,
    hskip h₂ (by decide : ¬ isBlank ':'), hskip h₃ (by decide : ¬ isBlank '\''),
    hskip h₄ (by decide : ¬ isBlank '}')]
  rw [if_pos ⟨hne, trivial⟩]

end Section

/-! ### Recognition -/

theorem quoted?_quoted {q : Char} (hq : isQuote q) (cs : List Char) :
    quoted? (q :: (cs ++ [q])) = some cs := by
  have hlast : isQuote q ∧ (cs ++ [q]).getLast? = some q := ⟨hq, List.getLast?_concat⟩
  rw [quoted?, if_pos hlast, List.dropLast_concat]

theorem quoted?_eq_none {c : Char} (hc : ¬ isQuote c) (cs : List Char) :
    quoted? (c :: cs) = none := by
  rw [quoted?, if_neg fun h => hc h.1]

theorem decimal_toDigits (n : Nat) : decimal (Nat.toDigits 10 n) = n := by
  rw [decimal, ← Nat.ofDigitChars_eq_foldl, Nat.ofDigitChars_ten_toDigits]

theorem isDigits_toDigits (n : Nat) : isDigits (Nat.toDigits 10 n) := by
  have hall : (Nat.toDigits 10 n).all Char.isDigit :=
    List.all_eq_true.mpr fun c hc => Nat.isDigit_of_mem_toDigits (by decide) (by decide) hc
  simp [isDigits, hall, Nat.toDigits_ne_nil]

theorem integer?_renderInt (n : Int) : integer? (Json.renderInt n) = some n := by
  cases n with
  | ofNat k =>
    have hdigits := isDigits_toDigits k
    simp only [Json.renderInt]
    unfold integer?
    split
    next ds heq =>
      rw [heq] at hdigits
      exact absurd hdigits (by simp [isDigits])
    next =>
      rw [if_pos hdigits, decimal_toDigits]
      rfl
  | negSucc k =>
    simp only [Json.renderInt, integer?]
    rw [if_pos (isDigits_toDigits _), decimal_toDigits]
    rfl

theorem recognize?_sectionText {w₁ w₂ w₃ w₄ name : List Char} (h₁ : Blank w₁) (h₂ : Blank w₂)
    (h₃ : Blank w₃) (h₄ : Blank w₄) (hname : ∀ c ∈ name, isSectionChar c) (hne : name ≠ []) :
    recognize? (sectionText w₁ w₂ w₃ w₄ name) = some (sectionRef (String.ofList name)) := by
  have hsection := section?_sectionText h₁ h₂ h₃ h₄ hname hne
  have hquoted : quoted? (sectionText w₁ w₂ w₃ w₄ name) = none := quoted?_eq_none (by decide) _
  have hinteger : integer? (sectionText w₁ w₂ w₃ w₄ name) = none := rfl
  have htrue : sectionText w₁ w₂ w₃ w₄ name ≠ "true".toList := by simp [sectionText]
  have hfalse : sectionText w₁ w₂ w₃ w₄ name ≠ "false".toList := by simp [sectionText]
  rw [recognize?, hquoted, if_neg htrue, if_neg hfalse, hinteger, hsection]

theorem inRange_toInt (n : Int64) : inRange n.toInt := by
  rw [inRange, Bool.and_eq_true, decide_eq_true_iff, decide_eq_true_iff]
  exact ⟨n.minValue_le_toInt, n.toInt_le⟩

theorem recognize?_renderInt (n : Int64) : recognize? (Json.renderInt n.toInt) = some (int n) := by
  have hclass {c : Char} (hc : c ∈ Json.renderInt n.toInt) := mem_renderInt hc
  have hquoted : quoted? (Json.renderInt n.toInt) = none := by
    cases hcs : Json.renderInt n.toInt with
    | nil => rfl
    | cons c cs =>
      have hplain : Scan.isPlain c := isPlain_of_mem_renderInt (n := n.toInt) (by simp [hcs])
      exact quoted?_eq_none (Scan.not_isQuote_of_isPlain hplain) cs
  have htrue : Json.renderInt n.toInt ≠ "true".toList := by
    intro h
    exact absurd (hclass (h ▸ by decide : 't' ∈ _)) (by decide)
  have hfalse : Json.renderInt n.toInt ≠ "false".toList := by
    intro h
    exact absurd (hclass (h ▸ by decide : 'f' ∈ _)) (by decide)
  rw [recognize?, hquoted, if_neg htrue, if_neg hfalse, integer?_renderInt]
  simp [inRange_toInt]

namespace Written

variable {l : Literal} {t : List Char}

theorem recognize?_eq (h : Written l t) : recognize? t = some l := by
  cases h with
  | str hq h => simp [recognize?, quoted?_quoted hq]
  | int n => exact recognize?_renderInt n
  | true => decide
  | false => decide
  | sectionRef hne hname h₁ h₂ h₃ h₄ =>
    rw [recognize?_sectionText h₁ h₂ h₃ h₄ hname (by simpa using hne), String.ofList_toList]
  | liveText => decide

theorem ne_nil (h : Written l t) : t ≠ [] := by
  rintro rfl
  exact absurd h.recognize?_eq (by simp [recognize?, quoted?, integer?, isDigits, section?,
    List.isPrefixOf?, liveTextExpression])

theorem trimmed (h : Written l t) : Trimmed t := by
  cases h with
  | @str q text hq h =>
    have hblank : ¬ isBlank q := by
      intro hb
      exact Scan.not_isQuote_of_isPlain (Scan.isPlain_of_isBlank hb) hq
    have hquote : Trimmed [q] := trimmed_of_forall (by simpa using hblank)
    exact hquote.append hquote (by simp) (by simp) text.toList
  | int n => exact trimmed_renderInt _
  | true => decide
  | false => decide
  | @sectionRef name w₁ w₂ w₃ w₄ hne hname h₁ h₂ h₃ h₄ =>
    have hbrace : Trimmed ['{'] := by decide
    have hbrace' : Trimmed ['}'] := by decide
    have hsplit : sectionText w₁ w₂ w₃ w₄ name.toList =
        ['{'] ++ (w₁ ++ "section".toList ++ w₂ ++ ':' :: (w₃ ++ '\'' :: (name.toList ++
          '\'' :: w₄))) ++ ['}'] := by simp [sectionText]
    rw [hsplit]
    exact hbrace.append hbrace' (by simp) (by simp) _
  | liveText => decide

theorem sealed (h : Written l t) : Sealed t := by
  cases h with
  | str hq h => exact h.sealed hq
  | int n => exact sealed_renderInt _
  | true => exact ⟨rfl, rfl⟩
  | false => exact ⟨rfl, rfl⟩
  | sectionRef hne hname h₁ h₂ h₃ h₄ => exact sealed_sectionText h₁ h₂ h₃ h₄ hname
  | liveText => exact ⟨by decide, by decide⟩

end Written

namespace Padded

variable {l : Literal} {t : List Char}

theorem sealed (h : Padded l t) : Sealed t := by
  obtain ⟨w, u, w', hw, hu, hw', rfl⟩ := h
  exact ((sealed_of_blank hw).append hu.sealed).append (sealed_of_blank hw')

/-- Trimming leaves a text of the literal itself. -/
theorem written_trim (h : Padded l t) : Written l (trim t) := by
  obtain ⟨w, u, w', hw, hu, hw', rfl⟩ := h
  rw [trim_padded hw hw', hu.trimmed]
  exact hu

end Padded

/-! ### Lists -/

theorem parse_trim {l : Literal} {t : String} (h : Padded l t.toList) :
    parse (trimmed t) = .ok l := by
  rw [parse, Text.trimmed, String.toList_ofList, h.written_trim.recognize?_eq]

theorem mapM_parse_trim {ls : List Literal} {ts : List String}
    (h : List.Forall₂ (fun l t => Padded l t.toList) ls ts) :
    (ts.map trimmed).mapM parse = .ok ls := by
  induction h with
  | nil => rfl
  | cons ht _ ih =>
    rw [List.map_cons, List.mapM_cons, parse_trim ht, ih]
    rfl

/-- Padded texts that are joined by commas are read back as the literals that they write. -/
theorem parseAll_intercalate {ls : List Literal} {ts : List String}
    (h : List.Forall₂ (fun l t => Padded l t.toList) ls ts) :
    parseAll (",".intercalate ts) = .ok ls := by
  have hpadded : ∀ t ∈ ts.map String.toList, ∃ l, Padded l t := by
    induction h with
    | nil => simp
    | cons ht _ ih => simpa using ⟨⟨_, ht⟩, by simpa using ih⟩
  have hlist : (",".intercalate ts).toList = [','].intercalate (ts.map String.toList) :=
    String.toList_intercalate
  have htokens : tokens (",".intercalate ts).toList = (ts.map String.toList).map trim := by
    rw [hlist]
    apply tokens_intercalate
    · intro t ht
      exact (hpadded t ht).choose_spec.sealed
    · intro t ht
      exact (hpadded t ht).choose_spec.written_trim.ne_nil
  have hsplit : split (",".intercalate ts) = ts.map trimmed := by
    rw [split, htokens, List.map_map, List.map_map]
    rfl
  rw [parseAll, hsplit, mapM_parse_trim h]

end Literal

end MarkupActions
