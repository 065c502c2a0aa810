import MarkupActions.Json.Decode
import MarkupActions.Proofs.Json.Grammar

/-! Reading the text of a value. The text of a value whose numbers fit 64 bits is read as the tree
of that value, with nothing broken off and nothing left, so a reader of a text does what it does on
the tree. -/

namespace MarkupActions.Json

mutual

/-- The tree that the text of a value is read as. -/
def toRaw : Json → Raw
  | null => .null
  | bool b => .bool b
  | number n => .number (some (.whole n))
  | string s => .string (some s)
  | array items => .array (toRawItems items) .closed
  | object fields => .object (toRawFields fields) .closed

def toRawItems : List Json → List Raw
  | [] => []
  | j :: js => toRaw j :: toRawItems js

def toRawFields : List (String × Json) → List (Except Fault String × Raw)
  | [] => []
  | (k, j) :: fs => (.ok k, toRaw j) :: toRawFields fs

end

mutual

/-- Every number is one of 64 bits, with a sign or without. -/
def Fits : Json → Prop
  | number n => Int64.minValue.toInt ≤ n ∧ n < UInt64.size
  | array items => FitItems items
  | object fields => FitFields fields
  | _ => True

def FitItems : List Json → Prop
  | [] => True
  | j :: js => Fits j ∧ FitItems js

def FitFields : List (String × Json) → Prop
  | [] => True
  | (_, j) :: fs => Fits j ∧ FitFields fs

end

theorem skipSpace_of_not_isSpace {c : Char} (h : ¬ isSpace c) (cs : List Char) :
    skipSpace (c :: cs) = c :: cs := List.dropWhile_cons_of_neg h

theorem length_chars_pos (j : Json) : 0 < (chars j).length := by
  obtain ⟨c, cs, hcs, -⟩ := exists_cons_valueText (valueText_chars j)
  rw [hcs]
  exact Nat.succ_pos _

namespace Raw

/-! ### Values without parts -/

theorem read_digit {c : Char} (hc : c.isDigit) (n : Nat) (cs : List Char) :
    read (n + 1) (c :: cs) = readNumber false (c :: cs) := by
  rw [read, skipSpace_of_not_isSpace (not_isSpace_of_isDigit hc)]
  split <;> simp_all

theorem read_renderInt {k : Int} (h : Fits (.number k)) (n : Nat) {rest : List Char}
    (hrest : EndsNumber rest) :
    read (n + 1) (renderInt k ++ rest) = (number (some (.whole k)), rest) := by
  obtain ⟨hlow, hhigh⟩ := h
  cases k with
  | ofNat m =>
    obtain ⟨c, cs, hcs⟩ := List.exists_cons_of_ne_nil (digits_toDigits m).1
    have hc : c.isDigit := (digits_toDigits m).2 c (by rw [hcs]; exact List.mem_cons_self)
    have hm : m < UInt64.size := Int.ofNat_lt.mp hhigh
    rw [renderInt, hcs, List.cons_append, read_digit hc, ← List.cons_append, ← hcs,
      readNumber_toDigits false m hrest, Number.ofDigits?_toDigits hm (by simp)]
    rfl
  | negSucc m =>
    have hm : m + 1 ≤ 1 <<< 63 := by
      have hmin : Int64.minValue.toInt = -(1 <<< 63 : Nat) := by decide
      omega
    have hsize : m + 1 < UInt64.size := lt_of_le_of_lt hm (by decide)
    have hread : read (n + 1) ('-' :: (Nat.toDigits 10 (m + 1) ++ rest)) =
        readNumber true (Nat.toDigits 10 (m + 1) ++ rest) := by
      rw [read, skipSpace_of_not_isSpace (by decide)]
      rfl
    rw [renderInt, List.cons_append, hread, readNumber_toDigits true _ hrest,
      Number.ofDigits?_toDigits hsize fun _ => ⟨Nat.succ_pos m, hm⟩]
    rfl

theorem read_renderString (s : String) (n : Nat) (rest : List Char) :
    read (n + 1) (renderString s ++ rest) = (string (some s), rest) := by
  rw [renderString, List.cons_append, List.append_assoc, List.singleton_append, read,
    skipSpace_of_not_isSpace (by decide)]
  exact readString_escaped s rest

theorem endsNumber_nil : EndsNumber [] := by simp [EndsNumber]

theorem endsNumber_cons {c : Char} (hc : ¬ c.isDigit ∧ c ≠ '.' ∧ c ≠ 'e' ∧ c ≠ 'E')
    (cs : List Char) : EndsNumber (c :: cs) := by
  intro d hd
  obtain rfl : c = d := Option.some.inj hd
  exact hc

/-! ### One step of a list -/

/-- What a key is read as, if it has a proper text. -/
def keyOf : Option String → Except Fault String
  | some s => .ok s
  | none => .error .malformed

variable {n : Nat} {c : Char} {cs ds es fs rest : List Char}

theorem read_bracket {items : List Raw} {stop : Stop} (hcs : skipSpace cs = c :: ds)
    (hclose : c ≠ ']') (h : readItems n (c :: ds) = (items, stop, rest)) :
    read (n + 1) ('[' :: cs) = (array items stop, rest) := by
  rw [read, skipSpace_of_not_isSpace (by decide)]
  simp only [hcs]
  split
  next heq => cases heq
  next heq => exact absurd (List.cons.inj heq).1 hclose
  next => rw [h]

theorem read_brace {fields : List (Except Fault String × Raw)} {stop : Stop}
    (hcs : skipSpace cs = '"' :: ds) (h : readFields n ('"' :: ds) = (fields, stop, rest)) :
    read (n + 1) ('{' :: cs) = (object fields stop, rest) := by
  rw [read, skipSpace_of_not_isSpace (by decide)]
  simp only [hcs]
  split
  next heq => cases heq
  next heq => exact absurd (List.cons.inj heq).1 (by decide)
  next => rw [h]

theorem readItems_last {item : Raw} (h : read n cs = (item, ds))
    (hds : skipSpace ds = ']' :: rest) : readItems (n + 1) cs = ([item], .closed, rest) := by
  rw [readItems, h]
  simp only [hds]

theorem readItems_comma {item : Raw} {items : List Raw} {stop : Stop}
    (h : read n cs = (item, ds)) (hds : skipSpace ds = ',' :: es) (hes : skipSpace es = c :: fs)
    (hclose : c ≠ ']') (hrest : readItems n (c :: fs) = (items, stop, rest)) :
    readItems (n + 1) cs = (item :: items, stop, rest) := by
  rw [readItems, h]
  simp only [hds, hes]
  split
  next heq => cases heq
  next heq => exact absurd (List.cons.inj heq).1 hclose
  next => rw [hrest]

/-- The field that a key and its value make, at the end of an object. -/
theorem readFields_last {key : Option String} {value : Raw}
    (hkey : readString cs = (string key, ds)) (hds : skipSpace ds = ':' :: es)
    (h : read n es = (value, fs)) (hfs : skipSpace fs = '}' :: rest) :
    readFields (n + 1) ('"' :: cs) = ([(keyOf key, value)], .closed, rest) := by
  rw [readFields, skipSpace_of_not_isSpace (by decide)]
  simp only [hkey, hds, h, hfs]
  cases key <;> rfl

theorem readFields_comma {key : Option String} {value : Raw}
    {fields : List (Except Fault String × Raw)} {stop : Stop} {gs hs : List Char}
    (hkey : readString cs = (string key, ds)) (hds : skipSpace ds = ':' :: es)
    (h : read n es = (value, fs)) (hfs : skipSpace fs = ',' :: gs) (hgs : skipSpace gs = '"' :: hs)
    (hrest : readFields n ('"' :: hs) = (fields, stop, rest)) :
    readFields (n + 1) ('"' :: cs) = ((keyOf key, value) :: fields, stop, rest) := by
  rw [readFields, skipSpace_of_not_isSpace (by decide)]
  simp only [hkey, hds, h, hfs, hgs]
  split
  next heq => cases heq
  next heq => exact absurd (List.cons.inj heq).1 (by decide)
  next =>
    rw [hrest]
    cases key <;> rfl

/-! ### Values with parts -/

mutual

/-- The text of a value is read as its tree, and reading stops where it ends. Each value takes one
off the bound, and its text is longer than those of its parts together. -/
theorem read_chars (j : Json) (hj : Fits j) {n : Nat} (hn : (chars j).length ≤ n)
    {rest : List Char} (hrest : EndsNumber rest) : read n (chars j ++ rest) = (toRaw j, rest) := by
  obtain ⟨n, rfl⟩ : ∃ m, n = m + 1 :=
    Nat.exists_eq_add_one.mpr (lt_of_lt_of_le (length_chars_pos j) hn)
  match j with
  | .null => rfl
  | .bool true => rfl
  | .bool false => rfl
  | .number k => exact read_renderInt hj n hrest
  | .string s => exact read_renderString s n rest
  | .array [] => rfl
  | .array (j :: js) =>
    have hlength : (itemChars (j :: js)).length ≤ n := Nat.le_of_succ_le_succ hn
    have hitems := readItems_chars (j :: js) (List.cons_ne_nil j js) hj hlength rest
    obtain ⟨c, cs, hcs, hspace, hclose⟩ := exists_cons_itemsText
      (itemsText_itemChars (j :: js) (List.cons_ne_nil j js))
    rw [hcs, List.cons_append] at hitems
    rw [chars, hcs]
    exact read_bracket (skipSpace_of_not_isSpace hspace _) hclose hitems
  | .object [] => rfl
  | .object (f :: fs) =>
    have hlength : (fieldChars (f :: fs)).length ≤ n := Nat.le_of_succ_le_succ hn
    have hfields := readFields_chars (f :: fs) (List.cons_ne_nil f fs) hj hlength rest
    obtain ⟨_, htext, -⟩ := exists_fieldsText_fieldChars (f :: fs) (List.cons_ne_nil f fs)
    obtain ⟨cs, hcs⟩ := exists_cons_fieldsText htext
    rw [hcs, List.cons_append] at hfields
    rw [chars, hcs]
    exact read_brace (skipSpace_of_not_isSpace (by decide) _) hfields

theorem readItems_chars (items : List Json) (hne : items ≠ []) (hitems : FitItems items) {n : Nat}
    (hn : (itemChars items).length ≤ n) (rest : List Char) :
    readItems n (itemChars items ++ rest) = (toRawItems items, .closed, rest) := by
  match items with
  | [] => exact absurd rfl hne
  | [j] =>
    simp only [itemChars, List.length_append, List.length_singleton] at hn
    obtain ⟨n, rfl⟩ : ∃ m, n = m + 1 := Nat.exists_eq_add_one.mpr (by omega)
    have hread := read_chars j hitems.1 (by omega : (chars j).length ≤ n)
      (endsNumber_cons (c := ']') (by decide) rest)
    rw [itemChars, List.append_assoc]
    exact readItems_last hread (skipSpace_of_not_isSpace (by decide) _)
  | j :: j' :: js =>
    simp only [itemChars, List.length_append, List.length_cons] at hn
    obtain ⟨n, rfl⟩ : ∃ m, n = m + 1 := Nat.exists_eq_add_one.mpr (by omega)
    have hread := read_chars j hitems.1 (by omega : (chars j).length ≤ n)
      (endsNumber_cons (c := ',') (by decide) (itemChars (j' :: js) ++ rest))
    have hrest := readItems_chars (j' :: js) (List.cons_ne_nil j' js) hitems.2
      (by omega : (itemChars (j' :: js)).length ≤ n) rest
    obtain ⟨c, cs, hcs, hspace, hclose⟩ := exists_cons_itemsText
      (itemsText_itemChars (j' :: js) (List.cons_ne_nil j' js))
    rw [hcs, List.cons_append] at hread hrest
    rw [itemChars, List.append_assoc, List.cons_append, hcs]
    · exact readItems_comma hread (skipSpace_of_not_isSpace (by decide) _)
        (skipSpace_of_not_isSpace hspace _) hclose hrest
    · simp

theorem readFields_chars (fields : List (String × Json)) (hne : fields ≠ [])
    (hfields : FitFields fields) {n : Nat} (hn : (fieldChars fields).length ≤ n)
    (rest : List Char) :
    readFields n (fieldChars fields ++ rest) = (toRawFields fields, .closed, rest) := by
  match fields with
  | [] => exact absurd rfl hne
  | [(k, j)] =>
    simp only [fieldChars, List.length_append, List.length_cons] at hn
    obtain ⟨n, rfl⟩ : ∃ m, n = m + 1 := Nat.exists_eq_add_one.mpr (by omega)
    have hread := read_chars j hfields.1 (by omega : (chars j).length ≤ n)
      (endsNumber_cons (c := '}') (by decide) rest)
    have hkey := readString_escaped k (':' :: (chars j ++ '}' :: rest))
    rw [fieldChars, renderString]
    simp only [List.cons_append, List.append_assoc, List.nil_append]
    exact readFields_last hkey (skipSpace_of_not_isSpace (by decide) _) hread
      (skipSpace_of_not_isSpace (by decide) _)
  | (k, j) :: f :: fs =>
    simp only [fieldChars, List.length_append, List.length_cons] at hn
    obtain ⟨n, rfl⟩ : ∃ m, n = m + 1 := Nat.exists_eq_add_one.mpr (by omega)
    have hread := read_chars j hfields.1 (by omega : (chars j).length ≤ n)
      (endsNumber_cons (c := ',') (by decide) (fieldChars (f :: fs) ++ rest))
    have hrest := readFields_chars (f :: fs) (List.cons_ne_nil f fs) hfields.2
      (by omega : (fieldChars (f :: fs)).length ≤ n) rest
    obtain ⟨_, htext, -⟩ := exists_fieldsText_fieldChars (f :: fs) (List.cons_ne_nil f fs)
    obtain ⟨cs, hcs⟩ := exists_cons_fieldsText htext
    have hkey := readString_escaped k (':' :: (chars j ++ ',' :: (fieldChars (f :: fs) ++ rest)))
    rw [hcs, List.cons_append] at hread hrest hkey
    rw [fieldChars, renderString, hcs]
    · simp only [List.cons_append, List.append_assoc, List.nil_append]
      exact readFields_comma hkey (skipSpace_of_not_isSpace (by decide) _) hread
        (skipSpace_of_not_isSpace (by decide) _) (skipSpace_of_not_isSpace (by decide) _) hrest
    · simp

end

theorem ofText_render {j : Json} (hj : Fits j) : ofText j.render = (toRaw j, false) := by
  have hread := read_chars j hj (Nat.le_succ _) endsNumber_nil
  rw [List.append_nil] at hread
  rw [ofText, render, String.toList_ofList, hread]
  rfl

end Raw

/-- A reader of the text of a value does what it does on the tree of the value. -/
theorem decodeText_render {α : Type} (d : Decoder α) {j : Json} (hj : Fits j) :
    decodeText d j.render = d (toRaw j) := by
  rw [decodeText, Raw.ofText_render hj]
  cases h : d (toRaw j) <;> simp only [h] <;> rfl

end MarkupActions.Json
