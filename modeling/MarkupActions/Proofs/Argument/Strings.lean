import MarkupActions.Proofs.Argument.Grammar
import MarkupActions.Proofs.Argument.Rejoin

/-! Which tokens are read as strings. The first and the last character decide, so a closed string is
read as the text between its quotes, and so is everything else that starts and ends with one quote
character: strings side by side, or a last quote that is escaped. -/

namespace MarkupActions.Literal

open Argument

theorem parse_eq_str_iff {t text : String} :
    parse t = .ok (str text) ↔ ∃ q, isQuote q ∧ t.toList = q :: (text.toList ++ [q]) :=
  parse_eq_ok_iff

/-- What starts with a quote and is no string is no literal. -/
theorem recognize?_eq_none {q : Char} (hq : isQuote q) {cs : List Char}
    (h : quoted? (q :: cs) = none) : recognize? (q :: cs) = none := by
  simp only [isQuote, Bool.or_eq_true, beq_iff_eq] at hq
  unfold recognize?
  rw [h]
  rcases hq with rfl | rfl <;>
    simp [integer?, isDigits, section?, List.isPrefixOf?, liveTextExpression]

/-- In a list of arguments a scan is at the top where a token starts. A token is a string exactly
when one quote character starts and ends it, so every closed string is one; a string is a closed one
exactly when no quote in its text closes it and no backslash escapes the last. What starts with a
quote and is no string is refused. -/
theorem strings_of_split {raw t : String} (ht : t ∈ split raw) :
    (∃ before behind, raw.toList = before ++ t.toList ++ behind ∧ Scan.run {} before = {}) ∧
    (∀ text, parse t = .ok (str text) ↔ ∃ q, isQuote q ∧ t.toList = q :: (text.toList ++ [q])) ∧
    (IsClosedString t.toList ↔ ∃ text, parse t = .ok (str text) ∧
      ∀ q ∈ t.toList.head?, Enclosed q text.toList) ∧
    ((∃ q ∈ t.toList.head?, isQuote q) → (∀ text, parse t ≠ .ok (str text)) →
      parse t = .error (.unsupported t)) := by
  refine ⟨?_, fun _ => parse_eq_str_iff, ?_, ?_⟩
  · obtain ⟨u, hu, rfl⟩ := List.mem_map.mp ht
    obtain ⟨p, hp, rfl⟩ := List.mem_map.mp (List.mem_of_mem_filter hu)
    obtain ⟨before, behind, hraw, hrun⟩ := (cut_pieces raw.toList).exists_append p hp
    obtain ⟨w, w', hw, -, hpadded⟩ := Text.exists_padding p
    refine ⟨before ++ w, w' ++ behind, ?_, ?_⟩
    · rw [String.toList_ofList, hraw]
      conv_lhs => rw [hpadded]
      simp
    · rw [Scan.run_append, hrun]
      exact Scan.run_blank hw 0
  · rw [isClosedString_iff]
    constructor
    · rintro ⟨q, body, hq, hbody, heq⟩
      refine ⟨String.ofList body, parse_eq_str_iff.mpr ⟨q, hq, by simpa using heq⟩, ?_⟩
      rw [heq]
      simpa using hbody
    · rintro ⟨text, hparse, henclosed⟩
      obtain ⟨q, hq, heq⟩ := parse_eq_str_iff.mp hparse
      exact ⟨q, text.toList, hq, henclosed q (by simp [heq]), heq⟩
  · rintro ⟨q, hhead, hq⟩ hstr
    obtain ⟨cs, hcs⟩ := List.head?_eq_some_iff.mp hhead
    have hquoted : quoted? (q :: cs) = none := by
      cases h : quoted? (q :: cs) with
      | none => rfl
      | some body =>
        obtain ⟨r, hr, heq⟩ := quoted?_eq_some_iff.mp h
        exact absurd (parse_eq_str_iff.mpr ⟨r, hr, by simpa [hcs] using heq⟩)
          (hstr (String.ofList body))
    rw [parse, hcs, recognize?_eq_none hq hquoted]

/-- The second token is one string though it holds a comma, a bracket and an escaped quote. -/
theorem strings_of_split_of_escapedQuote :
    let t := "'it\\'s, (x'"
    t ∈ split "1, 'it\\'s, (x' ,\"" ∧ parse t = .ok (str "it\\'s, (x") ∧
      IsClosedString t.toList := by
  intro t
  have ht : t ∈ split "1, 'it\\'s, (x' ,\"" := by decide
  have htext : "it\\'s, (x".toList = ['i', 't', '\\', '\'', 's', ',', ' ', '(', 'x'] := by rfl
  have henclosed : Enclosed '\'' "it\\'s, (x".toList := by
    rw [htext]
    refine .plain (by decide) (by decide) (.plain (by decide) (by decide) (.escaped ?_))
    exact .of_forall (by simp)
  obtain ⟨-, hstr, hclosed, -⟩ := strings_of_split ht
  have hparse : parse t = .ok (str "it\\'s, (x") := (hstr _).mpr ⟨'\'', rfl, by decide⟩
  have hhead : t.toList.head? = some '\'' := by decide
  refine ⟨ht, hparse, hclosed.mpr ⟨_, hparse, fun q hq => ?_⟩⟩
  rw [hhead, Option.mem_some_iff] at hq
  exact hq ▸ henclosed

/-- Two strings side by side are read as one, and so is a string that is never closed because its
last quote is escaped. -/
theorem unclosed_strings_accepted :
    ("'a' 'b'" ∈ split "'a' 'b'" ∧ parse "'a' 'b'" = .ok (str "a' 'b") ∧
      ¬ IsClosedString "'a' 'b'".toList) ∧
    ("'a\\'" ∈ split "'a\\'" ∧ parse "'a\\'" = .ok (str "a\\") ∧
      ¬ IsClosedString "'a\\'".toList) := by
  refine ⟨⟨by decide, by decide, fun h => ?_⟩, ⟨by decide, by decide, fun h => ?_⟩⟩
  · exact h.open_inside 3 (by decide) (by decide) rfl
  · exact absurd h.closed (by decide)

end MarkupActions.Literal
