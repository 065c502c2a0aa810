import Mathlib.Algebra.Order.Group.Int
import Mathlib.Data.Finset.Lattice.Fold
import Mathlib.Data.List.Induction
import MarkupActions.Proofs.Argument.Quotes

/-! Top-level commas, told from the text before them. The depth of a text is how far the balance of
its unquoted brackets stands above the least balance on the way, so a bracket that closes nothing
lowers both and counts for nothing. A list is cut at exactly the commas outside quotes at depth
zero. -/

namespace MarkupActions.Argument

open Scan

variable {cs : List Char}

def isBracket (c : Char) : Bool := isOpener c || isCloser c

/-- The brackets of a text that stand outside quotes, in order. -/
def brackets (cs : List Char) : List Char :=
  (cs.zipIdx.filter fun x => isBracket x.1 && decide (Outside (cs.take x.2))).map Prod.fst

/-- Opening brackets less closing ones, of whatever kinds. -/
def balance (bs : List Char) : Int := bs.countP isOpener - bs.countP isCloser

/-- The least balance of the first brackets, of none to all of them. -/
def lowest (bs : List Char) : Int :=
  (Finset.range (bs.length + 1)).inf' Finset.nonempty_range_add_one fun k => balance (bs.take k)

/-- How many brackets are open after a text. -/
def depth (cs : List Char) : Int := balance (brackets cs) - lowest (brackets cs)

/-! ### Depth -/

theorem brackets_concat (cs : List Char) (c : Char) :
    brackets (cs ++ [c]) = brackets cs ++ if isBracket c && decide (Outside cs) then [c] else [] := by
  have hbefore : (cs.zipIdx.filter fun x =>
        isBracket x.1 && decide (Outside ((cs ++ [c]).take x.2))) =
      cs.zipIdx.filter fun x => isBracket x.1 && decide (Outside (cs.take x.2)) := by
    apply List.filter_congr
    rintro ⟨d, i⟩ hd
    have hi : i < cs.length := by simpa using List.snd_lt_of_mem_zipIdx hd
    rw [List.take_append_of_le_length hi.le]
  rw [brackets, List.zipIdx_append, List.filter_append, List.map_append, hbefore]
  congr 1
  simp only [List.zipIdx_singleton, Nat.zero_add, List.filter_singleton, List.take_left]
  cases isBracket c && decide (Outside cs) <;> rfl

theorem brackets_concat_of_outside {c : Char} (h : Outside cs) (hc : isBracket c) :
    brackets (cs ++ [c]) = brackets cs ++ [c] := by
  rw [brackets_concat, if_pos (by simp [h, hc])]

theorem brackets_concat_of_not {c : Char} (h : ¬ (isBracket c ∧ Outside cs)) :
    brackets (cs ++ [c]) = brackets cs := by
  rw [brackets_concat, if_neg (by simpa using h), List.append_nil]

theorem balance_concat_opener {b : Char} (hb : isOpener b) (hc : ¬ isCloser b) (bs : List Char) :
    balance (bs ++ [b]) = balance bs + 1 := by
  simp only [balance, List.countP_append, List.countP_singleton, if_pos hb, if_neg hc]
  omega

theorem balance_concat_closer {b : Char} (hb : ¬ isOpener b) (hc : isCloser b) (bs : List Char) :
    balance (bs ++ [b]) = balance bs - 1 := by
  simp only [balance, List.countP_append, List.countP_singleton, if_neg hb, if_pos hc]
  omega

theorem lowest_le_balance (bs : List Char) : lowest bs ≤ balance bs := by
  have h := Finset.inf'_le (fun k => balance (bs.take k)) (Finset.self_mem_range_succ bs.length)
  rwa [List.take_length] at h

theorem lowest_concat (bs : List Char) (b : Char) :
    lowest (bs ++ [b]) = min (lowest bs) (balance (bs ++ [b])) := by
  have hbefore : ∀ k ∈ Finset.range (bs.length + 1),
      balance ((bs ++ [b]).take k) = balance (bs.take k) := by
    intro k hk
    rw [List.take_append_of_le_length (Finset.mem_range_succ_iff.mp hk)]
  have hlength : (bs ++ [b]).length = bs.length + 1 := List.length_append
  have hall : (bs ++ [b]).take (bs.length + 1) = bs ++ [b] := by rw [← hlength, List.take_length]
  unfold lowest
  simp only [hlength, Finset.range_add_one (n := bs.length + 1)]
  rw [Finset.inf'_insert Finset.nonempty_range_add_one, hall,
    Finset.inf'_congr Finset.nonempty_range_add_one rfl hbefore]
  exact min_comm _ _

theorem not_isCloser_of_isOpener {c : Char} (h : isOpener c) : ¬ isCloser c := by
  simp only [isOpener, Bool.or_eq_true, beq_iff_eq] at h
  rcases h with (rfl | rfl) | rfl <;> decide

theorem not_isBracket_of_isQuote {c : Char} (h : isQuote c) : ¬ isBracket c := by
  simp only [isQuote, Bool.or_eq_true, beq_iff_eq] at h
  rcases h with rfl | rfl <;> decide

theorem Scan.depth_step_of_quoted {s : Scan} (h : s.quoting ≠ .outside) (c : Char) :
    (s.step c).depth = s.depth := by
  obtain ⟨quoting, n⟩ := s
  cases quoting with
  | outside => exact absurd rfl h
  | inside q =>
    simp only [step]
    split
    · rfl
    · split <;> rfl
  | escaping q => rfl

/-- The depth of a scan is the balance above its least value. A closing bracket lowers the balance,
and where the scan is at depth zero it lowers the least value with it. -/
theorem depth_run (cs : List Char) : ((Scan.run {} cs).depth : Int) = depth cs := by
  induction cs using List.reverseRecOn with
  | nil => rfl
  | append_singleton cs c ih =>
    have hle := lowest_le_balance (brackets cs)
    have hquoting : Outside cs ↔ (Scan.run {} cs).quoting = .outside := outside_iff
    rw [run_append, run_cons, run_nil]
    generalize Scan.run {} cs = s at ih hquoting ⊢
    obtain ⟨quoting, n⟩ := s
    have ih : (n : Int) = balance (brackets cs) - lowest (brackets cs) := ih
    by_cases houtside : Outside cs
    · obtain rfl : quoting = .outside := hquoting.mp houtside
      by_cases hq : isQuote c
      · have hnot : ¬ (isBracket c ∧ Outside cs) := fun h => not_isBracket_of_isQuote hq h.1
        rw [step_quote hq, depth, brackets_concat_of_not hnot]
        exact ih
      · rw [step_of_not_isQuote hq, depth]
        by_cases ho : isOpener c
        · have hb : isBracket c := by rw [isBracket, ho, Bool.true_or]
          rw [if_pos ho, brackets_concat_of_outside houtside hb, lowest_concat,
            balance_concat_opener ho (not_isCloser_of_isOpener ho)]
          simp only
          omega
        · by_cases hc : isCloser c
          · have hb : isBracket c := by rw [isBracket, hc, Bool.or_true]
            rw [if_neg ho, if_pos hc, brackets_concat_of_outside houtside hb, lowest_concat,
              balance_concat_closer ho hc]
            simp only
            omega
          · have hnot : ¬ (isBracket c ∧ Outside cs) := by simp [isBracket, ho, hc]
            rw [if_neg ho, if_neg hc, brackets_concat_of_not hnot]
            exact ih
    · have hnot : ¬ (isBracket c ∧ Outside cs) := fun h => houtside h.2
      rw [depth_step_of_quoted (fun h => houtside (hquoting.mpr h)), depth,
        brackets_concat_of_not hnot]
      exact ih

/-- After a text without an open quote and with every bracket closed a scan is at the top. -/
theorem isTop_run_iff : (Scan.run {} cs).isTop ↔ Outside cs ∧ depth cs = 0 := by
  have hdepth := depth_run cs
  rw [outside_iff, Scan.isTop, Bool.and_eq_true, decide_eq_true_iff, decide_eq_true_iff]
  constructor
  · rintro ⟨hquoting, hzero⟩
    exact ⟨hquoting, by omega⟩
  · rintro ⟨hquoting, hzero⟩
    exact ⟨hquoting, by omega⟩

/-! ### Commas -/

/-- A comma at a place of a text that is outside quotes and brackets. -/
def IsTopComma (cs : List Char) (i : Nat) : Prop :=
  cs[i]? = some ',' ∧ Outside (cs.take i) ∧ depth (cs.take i) = 0

instance (cs : List Char) : DecidablePred (IsTopComma cs) := fun i =>
  inferInstanceAs (Decidable (cs[i]? = some ',' ∧ Outside (cs.take i) ∧ depth (cs.take i) = 0))

theorem isTopComma_iff {i : Nat} :
    IsTopComma cs i ↔ cs[i]? = some ',' ∧ (Scan.run {} (cs.take i)).isTop := by
  rw [IsTopComma, isTop_run_iff]

/-- The parts of a text between its top-level commas. -/
def parts (cs : List Char) : List (List Char) :=
  (cs.zipIdx.splitOnP fun x => decide (IsTopComma cs x.2)).map (·.map Prod.fst)

/-- What a scan cuts from a place on are the parts of what is left there. -/
theorem pieces_eq_parts (a b : List Char) :
    pieces (Scan.run {} a) b =
      ((b.zipIdx a.length).splitOnP fun x => decide (IsTopComma (a ++ b) x.2)).map
        (·.map Prod.fst) := by
  induction b generalizing a with
  | nil => rfl
  | cons c cs ih =>
    have hrest : a ++ c :: cs = (a ++ [c]) ++ cs := by simp
    have hcut : IsTopComma (a ++ c :: cs) a.length ↔ c = ',' ∧ (Scan.run {} a).isTop := by
      rw [isTopComma_iff, List.take_left, List.getElem?_append_right le_rfl]
      simp
    have ih := ih (a ++ [c])
    rw [List.length_append, List.length_singleton, ← hrest] at ih
    rw [List.zipIdx_cons, List.splitOnP_cons_eq_if_modifyHead]
    by_cases hc : c = ',' ∧ (Scan.run {} a).isTop
    · have hstep : Scan.run {} (a ++ [c]) = Scan.run {} a := by
        rw [run_append, isTop_iff.mp hc.2, hc.1]
        rfl
      rw [hstep] at ih
      rw [if_pos (by simpa using hcut.mpr hc), List.map_cons, ← ih, pieces, if_pos hc]
      rfl
    · rw [if_neg (by simpa using fun h => hc (hcut.mp h)), pieces_cons_of_not_cut hc,
        ← run_nil (Scan.step _ c), ← run_cons, ← run_append, ih]
      cases (cs.zipIdx (a.length + 1)).splitOnP fun x => decide (IsTopComma (a ++ c :: cs) x.2) <;>
        rfl

theorem pieces_eq (cs : List Char) : pieces {} cs = parts cs := pieces_eq_parts [] cs

/-- Pieces that are joined by commas are the text that was cut. -/
theorem intercalate_pieces (s : Scan) (cs : List Char) : [','].intercalate (pieces s cs) = cs := by
  induction cs generalizing s with
  | nil => rfl
  | cons c cs ih =>
    by_cases hc : c = ',' ∧ s.isTop
    · rw [hc.1, pieces_comma_of_isTop hc.2, List.intercalate_cons_of_ne_nil (pieces_ne_nil s cs), ih]
      rfl
    · rw [pieces_cons_of_not_cut hc]
      have ih := ih (s.step c)
      cases hp : pieces (s.step c) cs with
      | nil => exact absurd hp (pieces_ne_nil _ cs)
      | cons p ps =>
        rw [hp] at ih
        cases ps with
        | nil =>
          rw [List.intercalate_singleton] at ih
          rw [List.modifyHead_cons, List.intercalate_singleton, ih]
        | cons p' ps =>
          rw [List.intercalate_cons_cons] at ih
          rw [List.modifyHead_cons, List.intercalate_cons_cons, List.cons_append, List.cons_append, ih]

/-- The arguments of a list are its parts between top-level commas, trimmed, without those that are
blank; joined by commas the parts are the whole list. -/
theorem split_eq_trimmed_parts (raw : String) :
    split raw = (((parts raw.toList).map Text.trim).filter (· ≠ [])).map String.ofList ∧
      [','].intercalate (parts raw.toList) = raw.toList := by
  rw [← pieces_eq]
  exact ⟨rfl, intercalate_pieces {} raw.toList⟩

/-- The first bracket closes nothing and the last is never closed. -/
example : (parts "a),'b,\\',',c,(d,".toList).map String.ofList = ["a)", "'b,\\','", "c", "(d,"] := by
  decide

end MarkupActions.Argument
