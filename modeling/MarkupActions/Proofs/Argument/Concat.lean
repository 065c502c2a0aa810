import MarkupActions.Proofs.Action.Text
import MarkupActions.Proofs.Argument.InTurn

/-! Lists of arguments one after the other. A comma that a scan reaches outside quotes and brackets
leaves nothing behind of what came before it, so what stands before and after such a comma is split
and read on its own, and the two lists of arguments are put together. -/

namespace MarkupActions

namespace Argument

theorem tokens_append_comma {a : List Char} (h : (Scan.run {} a).isTop) (b : List Char) :
    tokens (a ++ ',' :: b) = tokens a ++ tokens b := by
  rw [tokens, pieces_append_comma h, List.map_append, List.filter_append]
  rfl

theorem split_append_comma {a : String} (h : (Scan.run {} a.toList).isTop) (b : String) :
    split (a ++ "," ++ b) = split a ++ split b := by
  have htext : (a ++ "," ++ b).toList = a.toList ++ ',' :: b.toList := by simp
  rw [split, htext, tokens_append_comma h, List.map_append]
  rfl

end Argument

namespace Literal

open Argument

/-- The first list must be read before the second is looked at. -/
theorem parseAll_append_comma {a : String} (h : (Scan.run {} a.toList).isTop) (b : String) :
    parseAll (a ++ "," ++ b) = do return (← parseAll a) ++ (← parseAll b) := by
  rw [parseAll, split_append_comma h, List.mapM_append]
  rfl

/-- Two lists of arguments that a top-level comma joins are split and read as the one and then the
other; the first fault is told. A list is read exactly when every token is a literal, and then has
one literal for each token in order; otherwise the leftmost token that is none is told. An action
reads its arguments so, also where their text is blank. -/
theorem arguments_compose :
    (∀ a b : String, (Scan.run {} a.toList).isTop →
      split (a ++ "," ++ b) = split a ++ split b ∧
      (∀ e, parseAll a = .error e → parseAll (a ++ "," ++ b) = .error e) ∧
      (∀ ls e, parseAll a = .ok ls → parseAll b = .error e →
        parseAll (a ++ "," ++ b) = .error e) ∧
      ∀ ls ms, parseAll a = .ok ls → parseAll b = .ok ms →
        parseAll (a ++ "," ++ b) = .ok (ls ++ ms)) ∧
    (∀ raw, ((∃ ls, parseAll raw = .ok ls) ↔ ∀ t ∈ split raw, ∃ l, parse t = .ok l) ∧
      (∀ ls, parseAll raw = .ok ls ↔ List.Forall₂ (fun t l => parse t = .ok l) (split raw) ls) ∧
      ∀ e, parseAll raw = .error e ↔ ∃ before t after, split raw = before ++ t :: after ∧
        (∀ u ∈ before, ∃ l, parse u = .ok l) ∧ (∀ l, parse t ≠ .ok l) ∧ e = .unsupported t) ∧
    ∀ e : ActionExpr, e.arguments = parseAll e.rawArgs := by
  refine ⟨fun a b h => ?_, fun raw => ?_, ActionExpr.arguments_eq⟩
  · have hread := parseAll_append_comma h b
    refine ⟨split_append_comma h b, fun e ha => ?_, fun ls e ha hb => ?_, fun ls ms ha hb => ?_⟩
    · rw [hread, ha]
      rfl
    · rw [hread, ha, hb]
      rfl
    · rw [hread, ha, hb]
      rfl
  · exact ⟨exists_mapM_eq_ok_iff, fun _ => parseAll_eq_ok_iff, fun _ => parseAll_eq_error_iff⟩

/-- Brackets that close nothing and a quoted comma stand before the comma, blank pieces around it;
the second list is cut off by a bracket that is never closed. -/
theorem arguments_compose_of_strayBrackets :
    split (")'a,\\'', 1, " ++ "," ++ " ,true, (2, x") = [")'a,\\''", "1", "true", "(2, x"] ∧
      parseAll (" 7 ,'],'" ++ "," ++ ",true") = .ok [.int 7, .str "],", .bool true] ∧
      parseAll (" 7 ,'],'" ++ "," ++ "no, 1, (2") = .error (.unsupported "no") ∧
      parseAll ("7, x, 1" ++ "," ++ "no") = .error (.unsupported "x") := by
  obtain ⟨hjoined, -, -⟩ := arguments_compose
  have hlist : parseAll " 7 ,'],'" = .ok [.int 7, .str "],"] := by decide
  obtain ⟨hsplit, -, -, -⟩ := hjoined ")'a,\\'', 1, " " ,true, (2, x" (by decide)
  obtain ⟨-, -, -, hread⟩ := hjoined " 7 ,'],'" ",true" (by decide)
  obtain ⟨-, -, hsecond, -⟩ := hjoined " 7 ,'],'" "no, 1, (2" (by decide)
  obtain ⟨-, hfirst, -, -⟩ := hjoined "7, x, 1" "no" (by decide)
  exact ⟨hsplit.trans (by decide), hread _ [.bool true] hlist (by decide),
    hsecond _ _ hlist (by decide), hfirst _ (by decide)⟩

end Literal

end MarkupActions
