import MarkupActions.Proofs.Json.Text

/-! The grammar of data as text: blanks, strings, numbers, and values of these nested in arrays and
objects. What is written follows it. -/

namespace MarkupActions.Json

open Raw (Piece)

/-! ### The grammar -/

def Blanks (w : List Char) : Prop := ∀ c ∈ w, isSpace c

inductive Fraction : List Char → Prop where
  | none : Fraction []
  | digits {ds : List Char} (h : Digits ds) : Fraction ('.' :: ds)

inductive Exponent : List Char → Prop where
  | none : Exponent []
  | digits {e : Char} {sign ds : List Char} (he : e = 'e' ∨ e = 'E')
    (hsign : sign = [] ∨ sign = ['+'] ∨ sign = ['-']) (h : Digits ds) :
    Exponent (e :: (sign ++ ds))

/-- A number. Only zero itself starts with the digit zero before the point. -/
inductive NumberText : List Char → Prop where
  | mk {sign ds fraction exponent : List Char} (hsign : sign = [] ∨ sign = ['-']) (h : Digits ds)
    (hzero : ds.head? = some '0' → ds = ['0']) (hfraction : Fraction fraction)
    (hexponent : Exponent exponent) : NumberText (sign ++ (ds ++ (fraction ++ exponent)))

mutual

/-- A value of any kind. -/
inductive ValueText : List Char → Prop where
  | null : ValueText ['n', 'u', 'l', 'l']
  | true : ValueText ['t', 'r', 'u', 'e']
  | false : ValueText ['f', 'a', 'l', 's', 'e']
  | string {ps : List Piece} {cs : List Char} (h : Quoted ps cs) : ValueText ('"' :: cs)
  | number {cs : List Char} (h : NumberText cs) : ValueText cs
  | emptyArray {w : List Char} (hw : Blanks w) : ValueText ('[' :: (w ++ [']']))
  | array {w cs : List Char} (hw : Blanks w) (h : ItemsText cs) : ValueText ('[' :: (w ++ cs))
  | emptyObject {w : List Char} (hw : Blanks w) : ValueText ('{' :: (w ++ ['}']))
  | object {w cs : List Char} {fields : List (List Piece × List Char)} (hw : Blanks w)
    (h : FieldsText fields cs) : ValueText ('{' :: (w ++ cs))

/-- The items of an array up to its closing bracket. -/
inductive ItemsText : List Char → Prop where
  | last {v w : List Char} (hv : ValueText v) (hw : Blanks w) : ItemsText (v ++ (w ++ [']']))
  | more {v w w' cs : List Char} (hv : ValueText v) (hw : Blanks w) (hw' : Blanks w')
    (h : ItemsText cs) : ItemsText (v ++ (w ++ ',' :: (w' ++ cs)))

/-- The fields of an object up to its closing brace: the pieces of each key, and the text of its
value. -/
inductive FieldsText : List (List Piece × List Char) → List Char → Prop where
  | last {ps : List Piece} {k v w₁ w₂ w₃ : List Char} (hk : Quoted ps k) (hw₁ : Blanks w₁)
    (hw₂ : Blanks w₂) (hv : ValueText v) (hw₃ : Blanks w₃) :
    FieldsText [(ps, v)] ('"' :: (k ++ (w₁ ++ ':' :: (w₂ ++ (v ++ (w₃ ++ ['}']))))))
  | more {ps : List Piece} {k v w₁ w₂ w₃ w₄ cs : List Char}
    {fields : List (List Piece × List Char)} (hk : Quoted ps k) (hw₁ : Blanks w₁)
    (hw₂ : Blanks w₂) (hv : ValueText v) (hw₃ : Blanks w₃) (hw₄ : Blanks w₄)
    (h : FieldsText fields cs) : FieldsText ((ps, v) :: fields)
      ('"' :: (k ++ (w₁ ++ ':' :: (w₂ ++ (v ++ (w₃ ++ ',' :: (w₄ ++ cs)))))))

end

/-- An object with proper keys, their texts and those of their values in order, and blanks around
it. -/
inductive ObjectText : List (String × List Char) → List Char → Prop where
  | empty {w w' w'' : List Char} (hw : Blanks w) (hw' : Blanks w') (hw'' : Blanks w'') :
    ObjectText [] (w ++ '{' :: (w' ++ '}' :: w''))
  | fields {w w' w'' cs : List Char} {keyed : List (List Piece × List Char)}
    {fields : List (String × List Char)} (hw : Blanks w) (hw' : Blanks w')
    (h : FieldsText keyed cs)
    (hkeys : List.Forall₂ (fun k f => Spells k.1 f.1.toList ∧ k.2 = f.2) keyed fields)
    (hw'' : Blanks w'') : ObjectText fields (w ++ '{' :: (w' ++ (cs ++ w'')))

/-! ### Where a text starts -/

variable {text : List Char}

theorem not_isSpace_of_isDigit {c : Char} (h : c.isDigit) : ¬ isSpace c := by
  intro hspace
  simp only [isSpace, Bool.or_eq_true, beq_iff_eq] at hspace
  rcases hspace with ((rfl | rfl) | rfl) | rfl <;> exact absurd h (by decide)

theorem exists_cons_numberText (h : NumberText text) :
    ∃ c cs, text = c :: cs ∧ ¬ isSpace c ∧ c ≠ ']' := by
  obtain @⟨sign, ds, fraction, exponent, hsign, hds, -, -, -⟩ := h
  rcases hsign with rfl | rfl
  · obtain ⟨d, ds, rfl⟩ := List.exists_cons_of_ne_nil hds.1
    have hd := hds.2 d List.mem_cons_self
    refine ⟨d, _, rfl, not_isSpace_of_isDigit hd, ?_⟩
    rintro rfl
    cases hd
  · exact ⟨'-', _, rfl, by decide, by decide⟩

/-- A value starts with no blank and with no bracket that ends an array. -/
theorem exists_cons_valueText (h : ValueText text) :
    ∃ c cs, text = c :: cs ∧ ¬ isSpace c ∧ c ≠ ']' := by
  cases h with
  | number h => exact exists_cons_numberText h
  | _ => exact ⟨_, _, rfl, by decide, by decide⟩

theorem exists_cons_itemsText (h : ItemsText text) :
    ∃ c cs, text = c :: cs ∧ ¬ isSpace c ∧ c ≠ ']' := by
  cases h with
  | last hv _ =>
    obtain ⟨c, cs, rfl, hc⟩ := exists_cons_valueText hv
    exact ⟨c, _, rfl, hc⟩
  | more hv _ _ _ =>
    obtain ⟨c, cs, rfl, hc⟩ := exists_cons_valueText hv
    exact ⟨c, _, rfl, hc⟩

theorem exists_cons_fieldsText {fields : List (List Piece × List Char)}
    (h : FieldsText fields text) : ∃ cs, text = '"' :: cs := by
  cases h <;> exact ⟨_, rfl⟩

/-! ### What is written -/

theorem blanks_nil : Blanks [] := List.forall_mem_nil _

theorem numberText_renderInt (k : Int) : NumberText (renderInt k) := by
  cases k with
  | ofNat n =>
    have h := NumberText.mk (.inl rfl) (digits_toDigits n) toDigits_of_head? .none .none
    rwa [List.append_nil, List.append_nil] at h
  | negSucc n =>
    have h := NumberText.mk (.inr rfl) (digits_toDigits (n + 1)) toDigits_of_head? .none .none
    rwa [List.append_nil, List.append_nil] at h

mutual

/-- The text of a value follows the grammar. -/
theorem valueText_chars (j : Json) : ValueText (chars j) := by
  match j with
  | .null => exact .null
  | .bool true => exact .true
  | .bool false => exact .false
  | .number k => exact .number (numberText_renderInt k)
  | .string s =>
    obtain ⟨ps, hquoted, -⟩ := exists_quoted s.toList
    exact .string hquoted
  | .array [] => exact .emptyArray blanks_nil
  | .array (j :: js) => exact .array blanks_nil (itemsText_itemChars (j :: js) (by simp))
  | .object [] => exact .emptyObject blanks_nil
  | .object (f :: fs) =>
    obtain ⟨keyed, h, -⟩ := exists_fieldsText_fieldChars (f :: fs) (by simp)
    exact .object blanks_nil h

theorem itemsText_itemChars (items : List Json) (hne : items ≠ []) :
    ItemsText (itemChars items) := by
  match items with
  | [] => exact absurd rfl hne
  | [j] => exact .last (valueText_chars j) blanks_nil
  | j :: j' :: js =>
    have hrest := itemsText_itemChars (j' :: js) (by simp)
    exact .more (valueText_chars j) blanks_nil blanks_nil hrest

theorem exists_fieldsText_fieldChars (fields : List (String × Json)) (hne : fields ≠ []) :
    ∃ keyed, FieldsText keyed (fieldChars fields) ∧ List.Forall₂ (fun k f =>
      Spells k.1 f.1.toList ∧ k.2 = f.2) keyed (fields.map fun f => (f.1, chars f.2)) := by
  match fields with
  | [] => exact absurd rfl hne
  | [(k, j)] =>
    obtain ⟨ps, hquoted, hspells⟩ := exists_quoted k.toList
    exact ⟨_, .last hquoted blanks_nil blanks_nil (valueText_chars j) blanks_nil,
      .cons ⟨hspells, rfl⟩ .nil⟩
  | (k, j) :: f :: fs =>
    obtain ⟨ps, hquoted, hspells⟩ := exists_quoted k.toList
    obtain ⟨keyed, hrest, hkeys⟩ := exists_fieldsText_fieldChars (f :: fs) (by simp)
    exact ⟨_, .more hquoted blanks_nil blanks_nil (valueText_chars j) blanks_nil blanks_nil hrest,
      .cons ⟨hspells, rfl⟩ hkeys⟩

end

/-- The text of an object has its fields in order. -/
theorem objectText_render (fields : List (String × Json)) :
    ObjectText (fields.map fun f => (f.1, chars f.2)) (object fields).render.toList := by
  rw [render, String.toList_ofList]
  cases fields with
  | nil => exact .empty blanks_nil blanks_nil blanks_nil
  | cons f fs =>
    obtain ⟨keyed, h, hkeys⟩ := exists_fieldsText_fieldChars (f :: fs) (by simp)
    have hobject := ObjectText.fields blanks_nil blanks_nil h hkeys blanks_nil
    rwa [List.append_nil] at hobject

end MarkupActions.Json
