import MarkupActions.Proofs.Argument.Commas

/-! Which lists of tokens can come out of a list of arguments, and that joining them again gives
them back. Trimming never matters to a scan at a comma that cuts, and only the last token can leave
a quote or a bracket open. -/

namespace MarkupActions.Argument

open Scan Text

variable {cs : List Char}

/-! ### Pieces one by one -/

/-- A text and its pieces, each but the last followed by a comma. -/
inductive Cut : List Char → List (List Char) → Prop where
  | whole {p : List Char} (hp : pieces {} p = [p]) : Cut p [p]
  | comma {p cs : List Char} {ps : List (List Char)} (hp : Sealed p) (h : Cut cs ps) :
    Cut (p ++ ',' :: cs) (p :: ps)

/-- A text is one piece as a whole, or it starts with one that a comma ends. -/
theorem pieces_eq_or (s : Scan) (cs : List Char) :
    pieces s cs = [cs] ∨ ∃ p rest, cs = p ++ ',' :: rest ∧ pieces s p = [p] ∧ (s.run p).isTop ∧
      pieces s cs = p :: pieces {} rest := by
  induction cs generalizing s with
  | nil => exact .inl rfl
  | cons c cs ih =>
    by_cases hc : c = ',' ∧ s.isTop
    · obtain ⟨rfl, hs⟩ := hc
      refine .inr ⟨[], cs, rfl, rfl, hs, ?_⟩
      rw [pieces_comma_of_isTop hs, isTop_iff.mp hs]
    · rw [pieces_cons_of_not_cut hc]
      rcases ih (s.step c) with h | ⟨p, rest, rfl, hp, htop, h⟩
      · exact .inl (by rw [h, List.modifyHead_cons])
      · refine .inr ⟨c :: p, rest, rfl, ?_, htop, by rw [h, List.modifyHead_cons]⟩
        rw [pieces_cons_of_not_cut hc, hp, List.modifyHead_cons]

theorem cut_pieces (cs : List Char) : Cut cs (pieces {} cs) := by
  induction hn : cs.length using Nat.strong_induction_on generalizing cs with
  | _ n ih =>
    rcases pieces_eq_or {} cs with h | ⟨p, rest, rfl, hp, htop, h⟩
    · rw [h]
      exact .whole h
    · rw [h]
      have hlt : rest.length < n := by
        simp only [List.length_append, List.length_cons] at hn
        omega
      exact .comma ⟨hp, isTop_iff.mp htop⟩ (ih _ hlt rest rfl)

namespace Cut

variable {ps : List (List Char)}

theorem pieces_eq (h : Cut cs ps) : ∀ p ∈ ps, pieces {} p = [p] := by
  induction h with
  | whole hp => simpa using hp
  | comma hp _ ih =>
    intro u hu
    rcases List.mem_cons.mp hu with rfl | hu
    · exact hp.pieces_eq
    · exact ih u hu

/-- Every piece but the last leaves a scan at the top. -/
theorem pairwise_run (h : Cut cs ps) : ps.Pairwise fun p _ => Scan.run {} p = {} := by
  induction h with
  | whole => exact List.pairwise_singleton _ _
  | comma hp _ ih => exact List.pairwise_cons.mpr ⟨fun _ _ => hp.run_eq, ih⟩

/-- A scan is at the top where a piece starts. -/
theorem exists_append (h : Cut cs ps) :
    ∀ p ∈ ps, ∃ before behind, cs = before ++ p ++ behind ∧ Scan.run {} before = {} := by
  induction h with
  | @whole p hp => exact fun u hu => ⟨[], [], by simp [List.mem_singleton.mp hu], rfl⟩
  | @comma p cs ps hp _ ih =>
    intro u hu
    rcases List.mem_cons.mp hu with rfl | hu
    · exact ⟨[], ',' :: cs, by simp, rfl⟩
    · obtain ⟨before, behind, rfl, hrun⟩ := ih u hu
      refine ⟨p ++ ',' :: before, behind, by simp, ?_⟩
      rw [run_append, hp.run_eq]
      exact hrun

end Cut

/-! ### Blanks and a scan -/

/-- Only quote characters open quotes. -/
theorem isQuote_of_quoting_run {q : Char} (h : (Scan.run {} cs).quoting = .inside q ∨
    (Scan.run {} cs).quoting = .escaping q) : isQuote q := by
  induction cs using List.reverseRecOn with
  | nil => rcases h with h | h <;> cases h
  | append_singleton cs c ih =>
    rw [run_append, run_cons, run_nil] at h
    generalize Scan.run {} cs = s at ih h
    obtain ⟨quoting, n⟩ := s
    cases quoting with
    | outside =>
      by_cases hc : isQuote c
      · rw [step_quote hc] at h
        rcases h with h | h <;> cases h
        exact hc
      · rw [step_of_not_isQuote hc] at h
        rcases h with h | h <;> cases h
    | inside r =>
      by_cases hb : c = '\\'
      · rw [hb, step_backslash] at h
        rcases h with h | h <;> cases h
        exact ih (.inl rfl)
      · by_cases hr : c = r
        · have hclose : (⟨.inside r, n⟩ : Scan).step c = atDepth n := by
            simp only [step, if_neg hb, if_pos hr]
          rw [hclose] at h
          rcases h with h | h <;> cases h
        · rw [step_inside hb hr] at h
          rcases h with h | h <;> cases h
          exact ih (.inl rfl)
    | escaping r =>
      rcases h with h | h <;> cases h
      exact ih (.inr rfl)

theorem run_inside_blank {q : Char} (hq : isQuote q) {w : List Char} (hw : Blank w) (depth : Nat) :
    Scan.run ⟨.inside q, depth⟩ w = ⟨.inside q, depth⟩ := by
  apply Literal.Enclosed.run_eq
  apply Literal.Enclosed.of_forall
  intro c hc
  constructor <;> rintro rfl
  · exact not_isQuote_of_isPlain (isPlain_of_isBlank (hw c hc)) hq
  · exact absurd (hw _ hc) (by decide)

/-- Blanks close no quote and no bracket, though they may stand inside one. -/
theorem isTop_of_run_blank {w : List Char} (hw : Blank w)
    (h : (Scan.run {} (cs ++ w)).isTop) : (Scan.run {} cs).isTop := by
  have hquote {q : Char} (hq : (Scan.run {} cs).quoting = .inside q ∨
      (Scan.run {} cs).quoting = .escaping q) : isQuote q := isQuote_of_quoting_run hq
  rw [run_append] at h
  generalize Scan.run {} cs = s at hquote h ⊢
  obtain ⟨quoting, n⟩ := s
  cases quoting with
  | outside => rwa [run_blank hw] at h
  | inside q => rwa [run_inside_blank (hquote (.inl rfl)) hw] at h
  | escaping q =>
    cases w with
    | nil => exact h
    | cons c w =>
      have hw' : Blank w := fun d hd => hw d (List.mem_cons_of_mem c hd)
      rw [run_cons, step_escaping, run_inside_blank (hquote (.inr rfl)) hw'] at h
      cases h

/-! ### Trimming -/

/-- A text is one piece exactly when none of its commas is reached at the top. -/
theorem pieces_eq_singleton_iff {s : Scan} :
    pieces s cs = [cs] ↔ ∀ i, ¬ (cs[i]? = some ',' ∧ (s.run (cs.take i)).isTop) := by
  induction cs generalizing s with
  | nil => simp [pieces]
  | cons c cs ih =>
    by_cases hc : c = ',' ∧ s.isTop
    · rw [hc.1, pieces_comma_of_isTop hc.2]
      constructor
      · intro h
        simp at h
      · intro h
        exact absurd ⟨rfl, hc.2⟩ (h 0)
    · rw [pieces_cons_of_not_cut hc, ← Nat.and_forall_add_one]
      have hhead : pieces (s.step c) cs = [cs] ↔
          (pieces (s.step c) cs).modifyHead (c :: ·) = [c :: cs] := by
        cases pieces (s.step c) cs <;> simp
      rw [← hhead, ih]
      simp [hc]

theorem not_isTopComma_iff : (∀ i, ¬ IsTopComma cs i) ↔ pieces {} cs = [cs] := by
  simp only [isTopComma_iff, pieces_eq_singleton_iff]

/-- A text without a cut has none when blanks around it are taken away. -/
theorem pieces_of_padded {w w' : List Char} (hw : Blank w)
    (h : pieces {} (w ++ cs ++ w') = [w ++ cs ++ w']) : pieces {} cs = [cs] := by
  rw [pieces_eq_singleton_iff] at h ⊢
  rintro i ⟨hcomma, htop⟩
  have hi : i < cs.length := (List.getElem?_eq_some_iff.mp hcomma).1
  refine h (w.length + i) ⟨?_, ?_⟩
  · rw [List.append_assoc, List.getElem?_append_right (by omega), Nat.add_sub_cancel_left,
      List.getElem?_append_left hi, hcomma]
  · rw [List.append_assoc, List.take_length_add_append, List.take_append_of_le_length hi.le,
      run_append, run_blank hw]
    exact htop

theorem pieces_trim (h : pieces {} cs = [cs]) : pieces {} (trim cs) = [trim cs] := by
  obtain ⟨w, w', hw, -, hcs⟩ := exists_padding cs
  have hwhole : pieces {} (w ++ trim cs ++ w') = [w ++ trim cs ++ w'] := by rw [← hcs, h]
  exact pieces_of_padded hw hwhole

theorem isTop_run_trim (h : (Scan.run {} cs).isTop) : (Scan.run {} (trim cs)).isTop := by
  obtain ⟨w, w', hw, hw', hcs⟩ := exists_padding cs
  rw [hcs] at h
  have h := isTop_of_run_blank hw' h
  rwa [run_append, run_blank hw] at h

/-! ### Lists of tokens -/

/-- A trimmed text that is not empty and has no top-level comma. -/
structure IsToken (t : List Char) : Prop where
  ne_nil : t ≠ []
  trimmed : Trimmed t
  no_comma : ∀ i, ¬ IsTopComma t i

/-- Tokens of which each but the last leaves a scan outside quotes and brackets. -/
structure AreTokens (ts : List (List Char)) : Prop where
  isToken : ∀ t ∈ ts, IsToken t
  isTop : ∀ t ∈ ts.dropLast, (Scan.run {} t).isTop

/-- A text that joins tokens by commas, with any blanks around commas and at both ends. -/
inductive Joins : List (List Char) → List Char → Prop where
  | nil {w : List Char} (hw : Blank w) : Joins [] w
  | single {t w w' : List Char} (hw : Blank w) (hw' : Blank w') : Joins [t] (w ++ t ++ w')
  | cons {t u w w' cs : List Char} {ts : List (List Char)} (hw : Blank w) (hw' : Blank w')
    (h : Joins (u :: ts) cs) : Joins (t :: u :: ts) (w ++ t ++ w' ++ ',' :: cs)

theorem joins_intercalate (ts : List (List Char)) : Joins ts ([','].intercalate ts) := by
  induction ts with
  | nil => exact .nil blank_nil
  | cons t ts ih =>
    cases ts with
    | nil => simpa using Joins.single (t := t) blank_nil blank_nil
    | cons u ts => simpa using Joins.cons (t := t) blank_nil blank_nil ih

/-- What holds of all but the last holds of each that something follows. -/
theorem forall_mem_dropLast_iff {P : List Char → Prop} {ts : List (List Char)} :
    (∀ t ∈ ts.dropLast, P t) ↔ ts.Pairwise fun t _ => P t := by
  induction ts with
  | nil => simp
  | cons t ts ih =>
    cases ts with
    | nil => simp
    | cons u ts =>
      have hhead : P t ↔ ∀ v ∈ u :: ts, P t := ⟨fun h _ _ => h, fun h => h u List.mem_cons_self⟩
      rw [List.pairwise_cons, ← ih, ← hhead, List.dropLast_cons_of_ne_nil (by simp),
        List.forall_mem_cons]

theorem areTokens_tokens (cs : List Char) : AreTokens (tokens cs) where
  isToken t ht := by
    obtain ⟨hmap, hne⟩ := List.mem_filter.mp ht
    obtain ⟨p, hp, rfl⟩ := List.mem_map.mp hmap
    have hwhole : pieces {} p = [p] := (cut_pieces cs).pieces_eq p hp
    exact ⟨by simpa using hne, trimmed_trim p, not_isTopComma_iff.mpr (pieces_trim hwhole)⟩
  isTop := by
    rw [forall_mem_dropLast_iff]
    apply List.Pairwise.filter
    rw [List.pairwise_map]
    exact (cut_pieces cs).pairwise_run.imp fun h => isTop_run_trim (isTop_iff.mpr h)

/-- Blanks around a token stay in its piece. -/
theorem pieces_padded {t w w' : List Char} (ht : IsToken t) (hw : Blank w) (hw' : Blank w') :
    pieces {} (w ++ t ++ w') = [w ++ t ++ w'] := by
  have hend : pieces (Scan.run {} t) w' = [w'] :=
    pieces_eq_singleton_of_not_mem (fun hc => absurd (hw' _ hc) (by decide)) _
  have hpadded := (Literal.sealed_of_blank hw).pieces_eq
  rw [List.append_assoc, pieces_append hpadded, (Literal.sealed_of_blank hw).run_eq,
    pieces_append (not_isTopComma_iff.mp ht.no_comma), hend]
  rfl

/-- Tokens that are joined come apart again, whatever blanks stand around them. -/
theorem tokens_of_joins {ts : List (List Char)} (h : Joins ts cs) (hts : AreTokens ts) :
    tokens cs = ts := by
  induction h with
  | nil hw => exact Literal.tokens_of_blank hw
  | @single t w w' hw hw' =>
    have ht := hts.isToken t (by simp)
    rw [tokens, pieces_padded ht hw hw', List.map_singleton, trim_padded hw hw', ht.trimmed]
    simp [ht.ne_nil]
  | @cons t u w w' cs ts hw hw' _ ih =>
    have ht := hts.isToken t (by simp)
    have htop : Scan.run {} t = {} := isTop_iff.mp (hts.isTop t (by simp))
    have hrun : (Scan.run {} (w ++ t ++ w')).isTop := by
      rw [run_append, run_append, run_blank hw, htop, run_blank hw']
      rfl
    have hrest : AreTokens (u :: ts) :=
      ⟨fun v hv => hts.isToken v (by simp [hv]), fun v hv => hts.isTop v (by simp [hv])⟩
    have ih := ih hrest
    rw [tokens] at ih
    rw [tokens, pieces_append_comma hrun, pieces_padded ht hw hw', List.map_append,
      List.filter_append, ih, List.map_singleton, trim_padded hw hw', ht.trimmed]
    simp [ht.ne_nil]

/-- A list is what some text splits into exactly when it is a list of tokens of which only the last
may leave a quote or bracket open. Joined in any way such a list is split into itself again, so
splitting, joining and splitting is splitting. -/
theorem split_joined :
    (∀ ts : List String, (∃ raw, split raw = ts) ↔ AreTokens (ts.map String.toList)) ∧
    (∀ (ts : List String) (raw : String), AreTokens (ts.map String.toList) →
      Joins (ts.map String.toList) raw.toList → split raw = ts) ∧
    ∀ raw, split (",".intercalate (split raw)) = split raw := by
  have himage (raw : String) : AreTokens ((split raw).map String.toList) := by
    simpa [split, Function.comp_def] using areTokens_tokens raw.toList
  have hjoined (ts : List String) (raw : String) (hts : AreTokens (ts.map String.toList))
      (hraw : Joins (ts.map String.toList) raw.toList) : split raw = ts := by
    rw [split, tokens_of_joins hraw hts]
    simp [Function.comp_def]
  have hcommas (ts : List String) (hts : AreTokens (ts.map String.toList)) :
      split (",".intercalate ts) = ts := by
    apply hjoined ts _ hts
    rw [String.toList_intercalate]
    exact joins_intercalate _
  refine ⟨fun ts => ⟨?_, fun h => ⟨_, hcommas ts h⟩⟩, hjoined, fun raw => hcommas _ (himage raw)⟩
  rintro ⟨raw, rfl⟩
  exact himage raw

/-- The last token leaves a quote open, so the blank behind it is inside the quote. -/
theorem split_joined_of_openQuote :
    let ts := ["a)", "(b, 1)", "'c, ["]
    AreTokens (ts.map String.toList) ∧
      Joins (ts.map String.toList) " a)\t,(b, 1) , 'c, [ ".toList ∧
      split " a)\t,(b, 1) , 'c, [ " = ts := by
  intro ts
  have hts : AreTokens (ts.map String.toList) := (split_joined.1 ts).mp ⟨"a),(b, 1),'c, [", by decide⟩
  have hspace : Blank [' '] := by simp [Blank, isBlank]
  have htab : Blank ['\t'] := by simp [Blank, isBlank]
  have hjoins : Joins (ts.map String.toList) " a)\t,(b, 1) , 'c, [ ".toList := by
    have hlast := Joins.single (t := "'c, [".toList) hspace hspace
    have hlast := Joins.cons (t := "(b, 1)".toList) blank_nil hspace hlast
    simpa [ts] using Joins.cons (t := "a)".toList) hspace htab hlast
  exact ⟨hts, hjoins, split_joined.2.1 ts _ hts hjoins⟩

end MarkupActions.Argument
