import MarkupActions.Proofs.Argument.Written

/-! What stands outside quotes, told from a text alone. A quote is opened by a quote character and
closed by the next one of its kind that no backslash escapes. A scan ends outside quotes after
exactly the texts in which every quote that is opened is closed, and a text is one closed string
for it exactly when it is an enclosed text between two quotes. -/

namespace MarkupActions.Argument

open Literal Scan

variable {q : Char} {cs : List Char}

/-- A text after which no quote is open. -/
inductive Outside : List Char → Prop where
  | nil : Outside []
  | plain {c : Char} {cs : List Char} (hc : ¬ isQuote c) (h : Outside cs) : Outside (c :: cs)
  | quoted {q : Char} {body cs : List Char} (hq : isQuote q) (hbody : Enclosed q body)
    (h : Outside cs) : Outside (q :: (body ++ q :: cs))

namespace Scan

/-- Outside quotes a character that opens none can only change the depth. -/
theorem step_of_not_isQuote {c : Char} (hc : ¬ isQuote c) (depth : Nat) :
    (atDepth depth).step c =
      atDepth (if isOpener c then depth + 1 else if isCloser c then depth - 1 else depth) := by
  simp only [step, if_neg hc]
  split
  · rfl
  · split <;> rfl

/-- A quote that is open before a text and closed after it is closed by a character inside. -/
theorem exists_closing {cs : List Char} {depth : Nat}
    (h : (Scan.run ⟨.inside q, depth⟩ cs).quoting = .outside) :
    ∃ body rest, Enclosed q body ∧ cs = body ++ q :: rest := by
  match cs with
  | [] => cases h
  | c :: cs =>
    by_cases hb : c = '\\'
    · subst hb
      -- a backslash takes the next character with it
      match cs with
      | [] => cases h
      | d :: cs =>
        rw [run_cons, step_backslash, run_cons, step_escaping] at h
        obtain ⟨body, rest, hbody, rfl⟩ := exists_closing h
        exact ⟨'\\' :: d :: body, rest, .escaped hbody, rfl⟩
    · by_cases hc : c = q
      · exact ⟨[], cs, .nil, by rw [hc, List.nil_append]⟩
      · rw [run_cons, step_inside hb hc] at h
        obtain ⟨body, rest, hbody, rfl⟩ := exists_closing h
        exact ⟨c :: body, rest, .plain hc hb hbody, rfl⟩

end Scan

namespace Outside

theorem quoting_run (h : Outside cs) (depth : Nat) :
    ((atDepth depth).run cs).quoting = .outside := by
  induction h generalizing depth with
  | nil => rfl
  | plain hc _ ih => rw [run_cons, step_of_not_isQuote hc, ih]
  | quoted hq hbody _ ih => rw [hbody.run_quoted hq, ih]

theorem of_quoting_run {depth : Nat} (h : ((atDepth depth).run cs).quoting = .outside) :
    Outside cs := by
  induction hn : cs.length using Nat.strong_induction_on generalizing cs depth with
  | _ n ih =>
    cases cs with
    | nil => exact .nil
    | cons c cs =>
      by_cases hc : isQuote c
      · have hinside : (Scan.run ⟨.inside c, depth⟩ cs).quoting = .outside := by
          rwa [run_cons, step_quote hc] at h
        obtain ⟨body, rest, hbody, rfl⟩ := exists_closing hinside
        rw [hbody.run_quoted hc] at h
        have hlt : rest.length < n := by
          simp only [List.length_cons, List.length_append] at hn
          omega
        exact .quoted hc hbody (ih _ hlt h rfl)
      · rw [run_cons, step_of_not_isQuote hc] at h
        have hlt : cs.length < n := by
          rw [← hn, List.length_cons]
          omega
        exact .plain hc (ih _ hlt h rfl)

end Outside

theorem outside_iff : Outside cs ↔ (Scan.run {} cs).quoting = .outside :=
  ⟨fun h => h.quoting_run 0, Outside.of_quoting_run⟩

instance : DecidablePred Outside := fun _ => decidable_of_iff _ outside_iff.symm

/-! ### Closed strings -/

/-- A text whose first character opens a quote that its last character closes and no earlier one
does. -/
structure IsClosedString (t : List Char) : Prop where
  opened : ∃ q ∈ t.head?, isQuote q
  open_inside : ∀ k, 0 < k → k < t.length → (Scan.run {} (t.take k)).quoting ≠ .outside
  closed : (Scan.run {} t).quoting = .outside

/-- No part of an enclosed text closes the quote around it. -/
theorem Scan.quoting_take {body : List Char} (h : Enclosed q body) (depth k : Nat) :
    (Scan.run ⟨.inside q, depth⟩ (body.take k)).quoting ≠ .outside := by
  induction h generalizing k with
  | nil => simp
  | plain hq hb _ ih =>
    cases k with
    | zero => simp
    | succ k =>
      rw [List.take_succ_cons, run_cons, step_inside hb hq]
      exact ih k
  | escaped _ ih =>
    match k with
    | 0 => simp
    | 1 => simp [step_backslash]
    | k + 2 =>
      rw [List.take_succ_cons, List.take_succ_cons, run_cons, step_backslash, run_cons,
        step_escaping]
      exact ih k

theorem isClosedString_quoted {body : List Char} (hq : isQuote q) (h : Enclosed q body) :
    IsClosedString (q :: (body ++ [q])) where
  opened := ⟨q, rfl, hq⟩
  open_inside k hpos hlt := by
    obtain ⟨k, rfl⟩ := Nat.exists_eq_add_of_lt hpos
    have hle : k ≤ body.length := by
      simp only [List.length_cons, List.length_append, List.length_nil] at hlt
      omega
    rw [Nat.zero_add, List.take_succ_cons, List.take_append_of_le_length hle, run_cons,
      step_quote hq]
    exact quoting_take h 0 k
  closed := by rw [h.run_quoted hq 0 [], run_nil]

theorem isClosedString_iff {t : List Char} :
    IsClosedString t ↔ ∃ q body, isQuote q ∧ Enclosed q body ∧ t = q :: (body ++ [q]) := by
  constructor
  · intro h
    obtain ⟨q, hhead, hq⟩ := h.opened
    obtain ⟨cs, rfl⟩ := List.head?_eq_some_iff.mp hhead
    have hinside : (Scan.run ⟨.inside q, 0⟩ cs).quoting = .outside := by
      rw [← step_quote hq, ← run_cons]
      exact h.closed
    obtain ⟨body, rest, hbody, rfl⟩ := exists_closing hinside
    refine ⟨q, body, hq, hbody, ?_⟩
    -- with a rest the quote is closed before the end
    by_contra hrest
    have hlt : body.length + 2 < (q :: (body ++ q :: rest)).length := by
      cases rest with
      | nil => exact absurd rfl hrest
      | cons c rest =>
        simp only [List.length_cons, List.length_append]
        omega
    refine h.open_inside (body.length + 2) (by omega) hlt ?_
    have htake : (q :: (body ++ q :: rest)).take (body.length + 2) = q :: (body ++ [q]) := by
      have hbody : (body ++ q :: rest).take (body.length + 1) = body ++ [q] := by
        rw [List.take_length_add_append, List.take_succ_cons, List.take_zero]
      rw [List.take_succ_cons, hbody]
    rw [htake, hbody.run_quoted hq 0 [], run_nil]
  · rintro ⟨q, body, hq, hbody, rfl⟩
    exact isClosedString_quoted hq hbody

end MarkupActions.Argument
