import MarkupActions.Proofs.Json.Read

/-! Reading what follows the grammar. It is read to its end, and nothing in it is broken off, also
where it has numbers out of range or strings that stand for no text, as long as nobody wants their
values. -/

namespace MarkupActions.Json

variable {ps : List Piece} {text cs w rest : List Char} {c : Char} {n : Nat}

/-! ### Blanks -/

theorem skipSpace_blanks (hw : Blanks w) (cs : List Char) : skipSpace (w ++ cs) = skipSpace cs :=
  List.dropWhile_append_of_pos hw

theorem skipSpace_blanks_cons (hw : Blanks w) (hc : ¬ isSpace c) (cs : List Char) :
    skipSpace (w ++ c :: cs) = c :: cs := by
  rw [skipSpace_blanks hw, skipSpace_of_not_isSpace hc]

namespace Raw

theorem read_blanks (hw : Blanks w) (n : Nat) (cs : List Char) : read n (w ++ cs) = read n cs := by
  cases n with
  | zero => rfl
  | succ n => rw [read, read, skipSpace_blanks hw]

/-- A number may be followed by blanks. -/
theorem endsNumber_blanks (hw : Blanks w) (hrest : EndsNumber rest) : EndsNumber (w ++ rest) := by
  cases w with
  | nil => exact hrest
  | cons c w =>
    have hc : isSpace c := hw c List.mem_cons_self
    simp only [isSpace, Bool.or_eq_true, beq_iff_eq] at hc
    rw [List.cons_append]
    refine endsNumber_cons ?_ _
    rcases hc with ((rfl | rfl) | rfl) | rfl <;> decide

/-! ### Strings -/

theorem read_quoted (h : Quoted ps cs) (n : Nat) (rest : List Char) :
    read (n + 1) ('"' :: (cs ++ rest)) = (string ((join? ps).map String.ofList), rest) := by
  rw [read, skipSpace_of_not_isSpace (by decide)]
  exact readString_quoted h rest

/-- A string that stands for a text is read as that text. -/
theorem read_stringText {s : String} (h : StringText s text) (n : Nat) (rest : List Char) :
    read (n + 1) (text ++ rest) = (string (some s), rest) := by
  obtain ⟨ps, cs, rfl, hquoted, hspells⟩ := h
  rw [List.cons_append, read_quoted hquoted, join?_of_spells hspells, Option.map_some,
    String.ofList_toList]

/-! ### Numbers -/

/-- What follows the digits before the point is none. -/
theorem head?_exponent (h : Exponent cs) (hrest : EndsNumber rest) :
    ∀ c ∈ (cs ++ rest).head?, ¬ c.isDigit ∧ c ≠ '.' := by
  cases h with
  | none => exact fun c hc => ⟨(hrest c hc).1, (hrest c hc).2.1⟩
  | digits he _ _ =>
    intro c hc
    obtain rfl := Option.some.inj hc
    rcases he with rfl | rfl <;> decide

theorem readExponent_exponent (h : Exponent cs) (negative : Bool) (ds : List Char)
    (fraction : Option (List Char)) (hrest : EndsNumber rest) :
    ∃ x, readExponent negative ds fraction (cs ++ rest) = (number x, rest) := by
  cases h with
  | none => exact ⟨_, readExponent_none negative ds fraction fun c hc => (hrest c hc).2.2⟩
  | @digits e sign es he hsign hes =>
    obtain ⟨htake, hdrop⟩ := span_digits hes fun c hc => (hrest c hc).1
    have hne : ¬ (es ++ rest).takeWhile Char.isDigit = [] := by
      rw [htake]
      exact hes.1
    rw [List.cons_append, List.append_assoc, readExponent.eq_def]
    dsimp only
    rw [if_pos he]
    rcases hsign with rfl | rfl | rfl
    · -- digits start with no sign
      have hfirst : ∀ c ∈ (es ++ rest).head?, c.isDigit := by
        obtain ⟨d, es, rfl⟩ := List.exists_cons_of_ne_nil hes.1
        intro c hc
        obtain rfl := Option.some.inj hc
        exact hes.2 _ List.mem_cons_self
      rw [List.nil_append]
      split
      next heq => exact absurd (hfirst '-' (by rw [heq]; rfl)) (by decide)
      next heq => exact absurd (hfirst '+' (by rw [heq]; rfl)) (by decide)
      next => exact ⟨_, (if_neg hne).trans (by rw [hdrop])⟩
    · exact ⟨_, (if_neg hne).trans (congrArg (Prod.mk _) hdrop)⟩
    · exact ⟨_, (if_neg hne).trans (congrArg (Prod.mk _) hdrop)⟩

theorem readFraction_fraction {exponent : List Char} (h : Fraction cs)
    (hexponent : Exponent exponent) (negative : Bool) (ds : List Char) (hrest : EndsNumber rest) :
    ∃ x, readFraction negative ds (cs ++ (exponent ++ rest)) = (number x, rest) := by
  cases h with
  | none =>
    rw [List.nil_append, readFraction_none negative ds fun c hc =>
      (head?_exponent hexponent hrest c hc).2]
    exact readExponent_exponent hexponent negative ds none hrest
  | @digits part hpart =>
    obtain ⟨htake, hdrop⟩ := span_digits hpart fun c hc =>
      (head?_exponent hexponent hrest c hc).1
    rw [List.cons_append, readFraction, htake, hdrop, if_neg hpart.1]
    exact readExponent_exponent hexponent negative ds _ hrest

/-- A number is read to its end, in range or not. -/
theorem read_numberText (h : NumberText text) (n : Nat) (hrest : EndsNumber rest) :
    ∃ x, read (n + 1) (text ++ rest) = (number x, rest) := by
  obtain @⟨sign, ds, fraction, exponent, hsign, hds, hzero, hfraction, hexponent⟩ := h
  have hhead : ∀ c ∈ (fraction ++ (exponent ++ rest)).head?, ¬ c.isDigit := by
    cases hfraction with
    | none => exact fun c hc => (head?_exponent hexponent hrest c hc).1
    | digits _ =>
      intro c hc
      obtain rfl := Option.some.inj hc
      decide
  have hnumber (negative : Bool) :
      ∃ x, readNumber negative (ds ++ (fraction ++ (exponent ++ rest))) = (number x, rest) := by
    rw [readNumber_digits negative hds hzero hhead]
    exact readFraction_fraction hfraction hexponent negative ds hrest
  simp only [List.append_assoc]
  rcases hsign with rfl | rfl
  · obtain ⟨d, ds, rfl⟩ := List.exists_cons_of_ne_nil hds.1
    rw [List.nil_append, List.cons_append, read_digit (hds.2 d List.mem_cons_self),
      ← List.cons_append]
    exact hnumber false
  · rw [List.singleton_append, read, skipSpace_of_not_isSpace (by decide)]
    exact hnumber true

/-! ### Values -/

/-- What the text of a value is read as: a value that can be passed over and that, if the text is a
string, has what that stands for. -/
structure ReadsText (v : List Char) (r : Raw) : Prop where
  skip : r.skip = .ok ()
  string : ∀ s, StringText s v → r = .string (some s)

theorem readsText_of_read {v : List Char} {r : Raw} (hv : ValueText v) (hn : v.length ≤ n)
    (hr : read n (v ++ rest) = (r, rest)) (hskip : r.skip = .ok ()) : ReadsText v r := by
  refine ⟨hskip, fun s hs => ?_⟩
  obtain ⟨c, cs, rfl, -⟩ := exists_cons_valueText hv
  obtain ⟨n, rfl⟩ : ∃ m, n = m + 1 := Nat.exists_eq_add_one.mpr (lt_of_lt_of_le (Nat.succ_pos _) hn)
  rw [read_stringText hs] at hr
  exact (Prod.mk.inj hr).1.symm

/-- What a field is read as. -/
def ReadsField (f : List Piece × List Char) (r : Except Fault String × Raw) : Prop :=
  r.1 = keyOf ((join? f.1).map String.ofList) ∧ ReadsText f.2 r.2

theorem skipFields_of_reads {fields : List (List Piece × List Char)}
    {rs : List (Except Fault String × Raw)} (h : List.Forall₂ ReadsField fields rs) :
    skipFields rs = .ok () := by
  induction h with
  | nil => rfl
  | @cons _ r _ _ hr _ ih =>
    obtain ⟨k, v⟩ := r
    rw [skipFields, hr.2.skip]
    exact ih

mutual

/-- A value is read to its end, and nothing in it is broken off. Each value takes one off the bound,
and its text is longer than those of its parts together. -/
theorem read_valueText : ∀ {text : List Char}, ValueText text → ∀ {n : Nat}, text.length ≤ n →
    ∀ {rest : List Char}, EndsNumber rest →
      ∃ r, read n (text ++ rest) = (r, rest) ∧ r.skip = .ok ()
  | _, .null, n + 1, _, rest, _ => ⟨_, rfl, rfl⟩
  | _, .true, n + 1, _, rest, _ => ⟨_, rfl, rfl⟩
  | _, .false, n + 1, _, rest, _ => ⟨_, rfl, rfl⟩
  | _, .string h, n + 1, _, rest, _ => ⟨_, read_quoted h n rest, rfl⟩
  | _, .number h, n, hn, rest, hrest => by
    obtain ⟨c, cs, hcs, -⟩ := exists_cons_numberText h
    obtain ⟨n, rfl⟩ : ∃ m, n = m + 1 := Nat.exists_eq_add_one.mpr (by
      rw [hcs, List.length_cons] at hn
      omega)
    obtain ⟨x, hx⟩ := read_numberText h n hrest
    exact ⟨_, hx, rfl⟩
  | _, .emptyArray hw, n + 1, _, rest, _ => by
    have hclose := skipSpace_blanks_cons hw (by decide : ¬ isSpace ']') rest
    refine ⟨.array [] .closed, ?_, rfl⟩
    rw [List.cons_append, List.append_assoc, List.singleton_append, read,
      skipSpace_of_not_isSpace (by decide)]
    simp only [hclose]
  | _, @ValueText.array w cs hw h, n + 1, hn, rest, _ => by
    have hlength : cs.length ≤ n := by
      rw [List.length_cons, List.length_append] at hn
      omega
    obtain ⟨items, hitems, hskip⟩ := readItems_itemsText h hlength rest
    obtain ⟨c, ds, rfl, hspace, hclose⟩ := exists_cons_itemsText h
    refine ⟨.array items .closed, ?_, ?_⟩
    · rw [List.cons_append, List.append_assoc]
      exact read_bracket (skipSpace_blanks_cons hw hspace _) hclose hitems
    · rw [skip, hskip]
      rfl
  | _, .emptyObject hw, n + 1, _, rest, _ => by
    have hclose := skipSpace_blanks_cons hw (by decide : ¬ isSpace '}') rest
    refine ⟨.object [] .closed, ?_, rfl⟩
    rw [List.cons_append, List.append_assoc, List.singleton_append, read,
      skipSpace_of_not_isSpace (by decide)]
    simp only [hclose]
  | _, @ValueText.object w cs fields hw h, n + 1, hn, rest, _ => by
    have hlength : cs.length ≤ n := by
      rw [List.length_cons, List.length_append] at hn
      omega
    obtain ⟨raws, hraws, hreads⟩ := readFields_fieldsText h hlength rest
    obtain ⟨ds, rfl⟩ := exists_cons_fieldsText h
    refine ⟨.object raws .closed, ?_, ?_⟩
    · rw [List.cons_append, List.append_assoc]
      exact read_brace (skipSpace_blanks_cons hw (by decide) _) hraws
    · rw [skip, skipFields_of_reads hreads]
      rfl

theorem readItems_itemsText : ∀ {text : List Char}, ItemsText text → ∀ {n : Nat}, text.length ≤ n →
    ∀ (rest : List Char), ∃ rs, readItems n (text ++ rest) = (rs, .closed, rest) ∧
      skipItems rs = .ok ()
  | _, @ItemsText.last v w hv hw, n, hn, rest => by
    simp only [List.length_append, List.length_singleton] at hn
    obtain ⟨n, rfl⟩ : ∃ m, n = m + 1 := Nat.exists_eq_add_one.mpr (by omega)
    have hends : EndsNumber (w ++ ']' :: rest) :=
      endsNumber_blanks hw (endsNumber_cons (by decide) rest)
    obtain ⟨r, hr, hskip⟩ := read_valueText hv (by omega : v.length ≤ n) hends
    refine ⟨[r], ?_, ?_⟩
    · simp only [List.append_assoc, List.singleton_append]
      exact readItems_last hr (skipSpace_blanks_cons hw (by decide) rest)
    · rw [skipItems, hskip]
      rfl
  | _, @ItemsText.more v w w' cs hv hw hw' h, n, hn, rest => by
    simp only [List.length_append, List.length_cons] at hn
    obtain ⟨n, rfl⟩ : ∃ m, n = m + 1 := Nat.exists_eq_add_one.mpr (by omega)
    have hends : EndsNumber (w ++ ',' :: (w' ++ (cs ++ rest))) :=
      endsNumber_blanks hw (endsNumber_cons (by decide) _)
    obtain ⟨r, hr, hskip⟩ := read_valueText hv (by omega : v.length ≤ n) hends
    obtain ⟨rs, hrs, hskips⟩ := readItems_itemsText h (by omega : cs.length ≤ n) rest
    obtain ⟨c, ds, rfl, hspace, hclose⟩ := exists_cons_itemsText h
    refine ⟨r :: rs, ?_, ?_⟩
    · simp only [List.append_assoc, List.cons_append] at hr hrs ⊢
      exact readItems_comma hr (skipSpace_blanks_cons hw (by decide) _)
        (skipSpace_blanks_cons hw' hspace _) hclose hrs
    · rw [skipItems, hskip]
      exact hskips

theorem readFields_fieldsText : ∀ {fields : List (List Piece × List Char)} {text : List Char},
    FieldsText fields text → ∀ {n : Nat}, text.length ≤ n → ∀ (rest : List Char),
      ∃ rs, readFields n (text ++ rest) = (rs, .closed, rest) ∧
        List.Forall₂ ReadsField fields rs
  | _, _, @FieldsText.last ps k v w₁ w₂ w₃ hk hw₁ hw₂ hv hw₃, n, hn, rest => by
    simp only [List.length_append, List.length_cons] at hn
    obtain ⟨n, rfl⟩ : ∃ m, n = m + 1 := Nat.exists_eq_add_one.mpr (by omega)
    have hends : EndsNumber (w₃ ++ '}' :: rest) :=
      endsNumber_blanks hw₃ (endsNumber_cons (by decide) rest)
    have hv' : v.length ≤ n := by omega
    obtain ⟨r, hr, hskip⟩ := read_valueText hv hv' hends
    have hfield := readsText_of_read hv hv' hr hskip
    refine ⟨[(keyOf ((join? ps).map String.ofList), r)], ?_, .cons ⟨rfl, hfield⟩ .nil⟩
    simp only [List.cons_append, List.append_assoc, List.nil_append]
    exact readFields_last (readString_quoted hk _) (skipSpace_blanks_cons hw₁ (by decide) _)
      ((read_blanks hw₂ n _).trans hr) (skipSpace_blanks_cons hw₃ (by decide) rest)
  | _, _, @FieldsText.more ps k v w₁ w₂ w₃ w₄ cs fields hk hw₁ hw₂ hv hw₃ hw₄ h, n, hn, rest => by
    simp only [List.length_append, List.length_cons] at hn
    obtain ⟨n, rfl⟩ : ∃ m, n = m + 1 := Nat.exists_eq_add_one.mpr (by omega)
    have hends : EndsNumber (w₃ ++ ',' :: (w₄ ++ (cs ++ rest))) :=
      endsNumber_blanks hw₃ (endsNumber_cons (by decide) _)
    have hv' : v.length ≤ n := by omega
    obtain ⟨r, hr, hskip⟩ := read_valueText hv hv' hends
    have hfield := readsText_of_read hv hv' hr hskip
    obtain ⟨rs, hrs, hreads⟩ := readFields_fieldsText h (by omega : cs.length ≤ n) rest
    obtain ⟨ds, rfl⟩ := exists_cons_fieldsText h
    refine ⟨(keyOf ((join? ps).map String.ofList), r) :: rs, ?_, .cons ⟨rfl, hfield⟩ hreads⟩
    simp only [List.cons_append, List.append_assoc] at hr hrs ⊢
    exact readFields_comma (readString_quoted hk _) (skipSpace_blanks_cons hw₁ (by decide) _)
      ((read_blanks hw₂ n _).trans hr) (skipSpace_blanks_cons hw₃ (by decide) _)
      (skipSpace_blanks_cons hw₄ (by decide) _) hrs

end

/-! ### Objects -/

/-- The fields of an object are read in order, each with its key. -/
theorem ofText_objectText {s : String} {fields : List (String × List Char)}
    (h : ObjectText fields s.toList) : ∃ rs, ofText s = (.object rs .closed, false) ∧
      List.Forall₂ (fun f r => r.1 = .ok f.1 ∧ ReadsText f.2 r.2) fields rs := by
  have hend {w : List Char} (hw : Blanks w) : skipSpace w = [] := by
    have h := skipSpace_blanks hw []
    rwa [List.append_nil] at h
  rw [ofText]
  generalize s.toList = cs at h
  obtain ⟨n, hn⟩ : ∃ n, cs.length = n := ⟨_, rfl⟩
  simp only [hn]
  cases h with
  | @empty w w' w'' hw hw' hw'' =>
    have hclose := skipSpace_blanks_cons hw' (by decide : ¬ isSpace '}') w''
    refine ⟨[], ?_, .nil⟩
    rw [read_blanks hw, read, skipSpace_of_not_isSpace (by decide)]
    simp [hclose, hend hw'']
  | @fields w w' w'' ts keyed _ hw hw' h hkeys hw'' =>
    have hlength : ts.length ≤ n := by
      simp only [List.length_append, List.length_cons] at hn
      omega
    obtain ⟨rs, hrs, hreads⟩ := readFields_fieldsText h hlength w''
    obtain ⟨ds, rfl⟩ := exists_cons_fieldsText h
    have hread : read (n + 1) ('{' :: (w' ++ ('"' :: ds ++ w''))) = (.object rs .closed, w'') :=
      read_brace (skipSpace_blanks_cons hw' (by decide) _) hrs
    refine ⟨rs, ?_, ?_⟩
    · rw [read_blanks hw, hread]
      simp [hend hw'']
    · -- each key is read as the text that its pieces stand for
      clear hrs hread hlength h hn
      induction hkeys generalizing rs with
      | nil =>
        cases hreads
        exact .nil
      | cons hk _ ih =>
        cases hreads with
        | cons hr hrs =>
          refine .cons ⟨?_, hk.2 ▸ hr.2⟩ (ih _ hrs)
          rw [hr.1, join?_of_spells hk.1, Option.map_some, String.ofList_toList]
          rfl

end Raw

end MarkupActions.Json
