import Mathlib.Data.List.Basic
import MarkupActions.Argument.Split
import MarkupActions.Proofs.Text.Trim

/-! What a scan does over a piece of text. A piece without a top-level comma stays whole, and a
comma that is reached at the top cuts the list in two independent halves. -/

namespace MarkupActions.Argument

namespace Scan

/-- Outside quotes, at some depth. -/
abbrev atDepth (depth : Nat) : Scan := ⟨.outside, depth⟩

/-- A character that means nothing outside quotes, a comma apart. -/
def isPlain (c : Char) : Bool := !isQuote c && !isOpener c && !isCloser c

/-- A class without quotes and brackets holds plain characters only. -/
theorem isPlain_of_class (p : Char → Bool) {c : Char} (hc : p c)
    (hp : ['\'', '"', '{', '[', '(', '}', ']', ')'].any p = false) : isPlain c := by
  by_contra h
  have hd : c ∈ ['\'', '"', '{', '[', '(', '}', ']', ')'] := by
    simpa [isPlain, isQuote, isOpener, isCloser, or_assoc, imp_iff_not_or] using h
  exact List.any_eq_false.mp hp c hd hc

theorem isPlain_of_isBlank {c : Char} (h : Text.isBlank c) : isPlain c :=
  isPlain_of_class Text.isBlank h (by decide)

theorem not_isQuote_of_isPlain {c : Char} (h : isPlain c) : ¬ isQuote c := by
  simp only [isPlain, Bool.and_eq_true, Bool.not_eq_true'] at h
  simp [h.1.1]

variable {s : Scan} {a b : List Char}

@[simp] theorem run_nil (s : Scan) : s.run [] = s := rfl

@[simp] theorem run_cons (s : Scan) (c : Char) (cs : List Char) :
    s.run (c :: cs) = (s.step c).run cs := rfl

@[simp] theorem run_append (s : Scan) (a b : List Char) : s.run (a ++ b) = (s.run a).run b :=
  List.foldl_append

theorem isTop_iff : s.isTop ↔ s = {} := by
  cases s
  simp [isTop]

theorem step_quote {q : Char} (hq : isQuote q) (depth : Nat) :
    (atDepth depth).step q = ⟨.inside q, depth⟩ := by simp [step, hq]

theorem step_inside {q c : Char} (hb : c ≠ '\\') (hq : c ≠ q) (depth : Nat) :
    (⟨.inside q, depth⟩ : Scan).step c = ⟨.inside q, depth⟩ := by simp [step, hb, hq]

theorem step_backslash (q : Char) (depth : Nat) :
    (⟨.inside q, depth⟩ : Scan).step '\\' = ⟨.escaping q, depth⟩ := rfl

theorem step_escaping (q c : Char) (depth : Nat) :
    (⟨.escaping q, depth⟩ : Scan).step c = ⟨.inside q, depth⟩ := rfl

theorem step_close {q : Char} (hq : isQuote q) (depth : Nat) :
    (⟨.inside q, depth⟩ : Scan).step q = atDepth depth := by
  have hb : q ≠ '\\' := by
    rintro rfl
    exact absurd hq (by decide)
  simp [step, hb]

theorem step_plain {c : Char} (hc : isPlain c) (depth : Nat) :
    (atDepth depth).step c = atDepth depth := by
  simp only [isPlain, Bool.and_eq_true, Bool.not_eq_true'] at hc
  simp [step, hc.1.1, hc.1.2, hc.2]

theorem run_plain (h : ∀ c ∈ a, isPlain c) (depth : Nat) :
    (atDepth depth).run a = atDepth depth := by
  induction a with
  | nil => rfl
  | cons c cs ih =>
    rw [run_cons, step_plain (h c (by simp)), ih fun d hd => h d (by simp [hd])]

theorem run_blank {w : List Char} (hw : Text.Blank w) (depth : Nat) :
    (atDepth depth).run w = atDepth depth :=
  run_plain (fun c hc => isPlain_of_isBlank (hw c hc)) depth

end Scan

open Scan

/-! ### Pieces -/

theorem pieces_ne_nil (s : Scan) (cs : List Char) : pieces s cs ≠ [] := by
  induction cs generalizing s with
  | nil => simp [pieces]
  | cons c cs ih =>
    unfold pieces
    split
    · simp
    · simpa using ih _

theorem pieces_comma_of_isTop {s : Scan} (h : s.isTop) (cs : List Char) :
    pieces s (',' :: cs) = [] :: pieces s cs := by
  rw [pieces, if_pos ⟨rfl, h⟩]

theorem pieces_cons_of_not_cut {s : Scan} {c : Char} (h : ¬ (c = ',' ∧ s.isTop)) (cs : List Char) :
    pieces s (c :: cs) = (pieces (s.step c) cs).modifyHead (c :: ·) := by
  rw [pieces, if_neg h]

theorem pieces_eq_singleton_of_not_mem {cs : List Char} (h : ',' ∉ cs) (s : Scan) :
    pieces s cs = [cs] := by
  induction cs generalizing s with
  | nil => rfl
  | cons c cs ih =>
    simp only [List.mem_cons, not_or] at h
    rw [pieces_cons_of_not_cut (fun hc => h.1 hc.1.symm), ih h.2]
    rfl

/-- A whole piece goes in front of the first piece of what follows. -/
theorem pieces_append {a : List Char} {s : Scan} (h : pieces s a = [a]) (b : List Char) :
    pieces s (a ++ b) = (pieces (s.run a) b).modifyHead (a ++ ·) := by
  induction a generalizing s with
  | nil =>
    rw [List.nil_append, run_nil]
    cases pieces s b <;> rfl
  | cons c cs ih =>
    by_cases hc : c = ',' ∧ s.isTop
    · rw [hc.1, pieces_comma_of_isTop hc.2] at h
      simp at h
    · rw [pieces_cons_of_not_cut hc] at h
      obtain ⟨p, ps, hp⟩ := List.exists_cons_of_ne_nil (pieces_ne_nil (s.step c) cs)
      rw [hp, List.modifyHead_cons, List.cons.injEq, List.cons.injEq] at h
      have hcs : pieces (s.step c) cs = [cs] := by rw [hp, h.1.2, h.2]
      rw [List.cons_append, pieces_cons_of_not_cut hc, ih hcs, run_cons, List.modifyHead_modifyHead]
      rfl

/-- A comma that the scan reaches at the top separates the pieces before it from those after it. -/
theorem pieces_append_comma {a : List Char} {s : Scan} (h : (s.run a).isTop) (b : List Char) :
    pieces s (a ++ ',' :: b) = pieces s a ++ pieces {} b := by
  induction a generalizing s with
  | nil =>
    rw [run_nil] at h
    rw [List.nil_append, pieces_comma_of_isTop h, isTop_iff.mp h]
    rfl
  | cons c cs ih =>
    rw [List.cons_append]
    by_cases hc : c = ',' ∧ s.isTop
    · obtain ⟨rfl, hs⟩ := hc
      -- the scan is at the top before this comma, and so it is after it
      have hstep : s.step ',' = s := by
        rw [isTop_iff.mp hs]
        rfl
      rw [run_cons, hstep] at h
      rw [pieces_comma_of_isTop hs, ih h, pieces_comma_of_isTop hs]
      rfl
    · rw [pieces_cons_of_not_cut hc, pieces_cons_of_not_cut hc, ih h]
      obtain ⟨p, ps, hp⟩ := List.exists_cons_of_ne_nil (pieces_ne_nil (s.step c) cs)
      rw [hp]
      rfl

/-! ### Sealed texts -/

/-- A text that is one piece and leaves a scan from the top at the top. -/
structure Sealed (t : List Char) : Prop where
  pieces_eq : pieces {} t = [t]
  run_eq : Scan.run {} t = {}

namespace Sealed

theorem of_plain {t : List Char} (h : ∀ c ∈ t, isPlain c) (hcomma : ',' ∉ t) : Sealed t :=
  ⟨pieces_eq_singleton_of_not_mem hcomma _, run_plain h 0⟩

theorem append {a b : List Char} (ha : Sealed a) (hb : Sealed b) : Sealed (a ++ b) where
  pieces_eq := by
    rw [pieces_append ha.pieces_eq, ha.run_eq, hb.pieces_eq]
    rfl
  run_eq := by rw [run_append, ha.run_eq, hb.run_eq]

end Sealed

/-- Sealed texts that are joined by commas come apart again. -/
theorem pieces_intercalate {ts : List (List Char)} (h : ∀ t ∈ ts, Sealed t) (hne : ts ≠ []) :
    pieces {} ([','].intercalate ts) = ts := by
  induction ts with
  | nil => exact absurd rfl hne
  | cons t ts ih =>
    have ht : Sealed t := h t (by simp)
    cases ts with
    | nil => rw [List.intercalate_singleton, ht.pieces_eq]
    | cons u us =>
      have hrest := ih (fun x hx => h x (by simp [hx])) (by simp)
      have hjoin : [','].intercalate (t :: u :: us) = t ++ ',' :: [','].intercalate (u :: us) := by
        rw [List.intercalate_cons_cons]
        simp
      rw [hjoin, pieces_append_comma (by rw [ht.run_eq]; rfl), ht.pieces_eq, hrest]
      rfl

theorem tokens_intercalate {ts : List (List Char)} (h : ∀ t ∈ ts, Sealed t)
    (hne : ∀ t ∈ ts, Text.trim t ≠ []) :
    tokens ([','].intercalate ts) = ts.map Text.trim := by
  by_cases hts : ts = []
  · subst hts
    rfl
  · rw [tokens, pieces_intercalate h hts, List.filter_eq_self]
    intro u hu
    obtain ⟨t, ht, rfl⟩ := List.mem_map.mp hu
    simpa using hne t ht

end MarkupActions.Argument
