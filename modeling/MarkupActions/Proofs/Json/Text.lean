import Mathlib.Data.List.Basic
import Mathlib.Data.List.TakeWhile
import MarkupActions.Json.Raw

/-! Strings and whole numbers in data. A string that follows the grammar is read as the text that it
stands for, whatever follows it. What is written of a text or a whole number is read back, a number
as long as nothing that continues it follows. -/

namespace MarkupActions.Json

/-! ### The grammar of strings -/

/-- What a letter after a backslash stands for. -/
inductive Escapes : Char → Char → Prop where
  | quote : Escapes '"' '"'
  | backslash : Escapes '\\' '\\'
  | slash : Escapes '/' '/'
  | backspace : Escapes 'b' '\x08'
  | formFeed : Escapes 'f' '\x0c'
  | newline : Escapes 'n' '\n'
  | carriageReturn : Escapes 'r' '\r'
  | tab : Escapes 't' '\t'

/-- A hexadecimal digit, a letter in either case, and its value. -/
def HexDigit (c : Char) (v : Nat) : Prop := v < 16 ∧ (c = hexDigit v ∨ c = (hexDigit v).toUpper)

open Raw (Piece)

/-- A string after its opening quote, the closing one included, and the pieces that it is made of. -/
inductive Quoted : List Piece → List Char → Prop where
  | close : Quoted [] ['"']
  | plain {ps : List Piece} {cs : List Char} (c : Char) (hquote : c ≠ '"') (hescape : c ≠ '\\')
    (hcontrol : 32 ≤ c.toNat) (h : Quoted ps cs) : Quoted (.char c :: ps) (c :: cs)
  | escaped {ps : List Piece} {cs : List Char} {e c : Char} (hc : Escapes e c) (h : Quoted ps cs) :
    Quoted (.char c :: ps) ('\\' :: e :: cs)
  | unit {ps : List Piece} {cs : List Char} {a b c d : Char} {x y z u : Nat} (ha : HexDigit a x)
    (hb : HexDigit b y) (hc : HexDigit c z) (hd : HexDigit d u) (h : Quoted ps cs) :
    Quoted (.unit (0x1000 * x + 0x100 * y + 0x10 * z + u) :: ps)
      ('\\' :: 'u' :: a :: b :: c :: d :: cs)

/-- The text that pieces stand for. Characters beyond the first 65536 are pairs of surrogates, and no
other surrogates stand for any text. -/
inductive Spells : List Piece → List Char → Prop where
  | nil : Spells [] []
  | char {ps : List Piece} {cs : List Char} (c : Char) (h : Spells ps cs) :
    Spells (.char c :: ps) (c :: cs)
  | unit {ps : List Piece} {cs : List Char} {n : Nat} (hn : n < 0xD800 ∨ 0xDFFF < n)
    (h : Spells ps cs) : Spells (.unit n :: ps) (Char.ofNat n :: cs)
  | pair {ps : List Piece} {cs : List Char} {n m : Nat} (hn : 0xD800 ≤ n ∧ n ≤ 0xDBFF)
    (hm : 0xDC00 ≤ m ∧ m ≤ 0xDFFF) (h : Spells ps cs) :
    Spells (.unit n :: .unit m :: ps)
      (Char.ofNat (0x10000 + (n - 0xD800) * 0x400 + (m - 0xDC00)) :: cs)

/-- A string as a value that stands for a text. -/
def StringText (s : String) (cs : List Char) : Prop :=
  ∃ ps ds, cs = '"' :: ds ∧ Quoted ps ds ∧ Spells ps s.toList

variable {ps : List Piece} {cs : List Char} {c : Char}

theorem hexDigit_hexDigit {v : Nat} (h : v < 16) : HexDigit (hexDigit v) v := ⟨h, .inl rfl⟩

/-- A character as it is written is one piece that stands for it. -/
theorem exists_piece (c : Char) (h : Quoted ps cs) : ∃ p, Quoted (p :: ps) (escape c ++ cs) ∧
    ∀ ds, Spells ps ds → Spells (p :: ps) (c :: ds) := by
  have hshort {e : Char} (he : Escapes e c) : ∃ p, Quoted (p :: ps) (['\\', e] ++ cs) ∧
      ∀ ds, Spells ps ds → Spells (p :: ps) (c :: ds) :=
    ⟨.char c, .escaped he h, fun _ => .char c⟩
  have hcode {n : Nat} (hn : c.toNat = n) : c = Char.ofNat n := by rw [← hn, Char.ofNat_toNat]
  unfold escape
  split_ifs with hq hb hn hr ht hback hform hcontrol
  · exact hshort (hq ▸ .quote)
  · exact hshort (hb ▸ .backslash)
  · exact hshort (hn ▸ .newline)
  · exact hshort (hr ▸ .carriageReturn)
  · exact hshort (ht ▸ .tab)
  · exact hshort (hcode hback ▸ .backspace)
  · exact hshort (hcode hform ▸ .formFeed)
  · have hzero : HexDigit '0' 0 := hexDigit_hexDigit (by decide)
    have hquoted := Quoted.unit hzero hzero (hexDigit_hexDigit (by omega : c.toNat / 16 < 16))
      (hexDigit_hexDigit (by omega : c.toNat % 16 < 16)) h
    have hvalue : 0x1000 * 0 + 0x100 * 0 + 0x10 * (c.toNat / 16) + c.toNat % 16 = c.toNat := by
      omega
    refine ⟨_, hquoted, fun ds hds => ?_⟩
    have hspells := Spells.unit (n := c.toNat) (by omega) hds
    rwa [Char.ofNat_toNat, ← hvalue] at hspells
  · exact ⟨.char c, .plain c hq hb (by omega) h, fun _ => .char c⟩

/-- What is written of a text stands for it. -/
theorem exists_quoted (cs : List Char) :
    ∃ ps, Quoted ps (cs.flatMap escape ++ ['"']) ∧ Spells ps cs := by
  induction cs with
  | nil => exact ⟨[], .close, .nil⟩
  | cons c cs ih =>
    obtain ⟨ps, hquoted, hspells⟩ := ih
    obtain ⟨p, hp, hc⟩ := exists_piece c hquoted
    refine ⟨p :: ps, ?_, hc _ hspells⟩
    rwa [List.flatMap_cons, List.append_assoc]

theorem stringText_renderString (s : String) : StringText s (renderString s) := by
  obtain ⟨ps, hquoted, hspells⟩ := exists_quoted s.toList
  exact ⟨ps, _, rfl, hquoted, hspells⟩

/-! ### Reading strings -/

namespace Raw

/-- A piece that is one character, whatever pieces follow it. -/
def Piece.IsChar (p : Piece) (c : Char) : Prop := ∀ ps, join? (p :: ps) = (join? ps).map (c :: ·)

theorem isChar_char (c : Char) : (Piece.char c).IsChar c := fun _ => by rw [join?]

/-- A unit that is no surrogate has no partner. -/
theorem isChar_unit {n : Nat} (h : n < 0xD800 ∨ 0xDFFF < n) :
    (Piece.unit n).IsChar (Char.ofNat n) := by
  have hleading : isLeading n = false := by
    simp only [isLeading, Bool.and_eq_false_iff, decide_eq_false_iff_not]
    omega
  have htrailing : isTrailing n = false := by
    simp only [isTrailing, Bool.and_eq_false_iff, decide_eq_false_iff_not]
    omega
  intro ps
  rcases ps with _ | ⟨_ | m, ps⟩ <;> simp [join?, hleading, htrailing]

theorem join?_of_spells (h : Spells ps cs) : join? ps = some cs := by
  induction h with
  | nil => rfl
  | char c _ ih => rw [isChar_char, ih, Option.map_some]
  | unit hn _ ih => rw [isChar_unit hn, ih, Option.map_some]
  | @pair ps cs n m hn hm _ ih =>
    have hleading : isLeading n = true := by simp [isLeading, hn]
    have htrailing : isTrailing m = true := by simp [isTrailing, hm]
    rw [join?, if_pos hleading, if_pos htrailing, ih, Option.map_some]

theorem unescape?_of_escapes {e : Char} (h : Escapes e c) : unescape? e = some c := by
  cases h <;> rfl

theorem hexValue?_of_hexDigit {v : Nat} (h : HexDigit c v) : hexValue? c = some v := by
  have hlower : ∀ v < 16, hexValue? (hexDigit v) = some v := by decide
  have hupper : ∀ v < 16, hexValue? (hexDigit v).toUpper = some v := by decide
  obtain ⟨hv, rfl | rfl⟩ := h
  · exact hlower v hv
  · exact hupper v hv

theorem pieces_unescape {e : Char} (h : unescape? e = some c) (cs : List Char) :
    pieces ('\\' :: e :: cs) = (.char c :: (pieces cs).1, (pieces cs).2) := by
  have he : e ≠ 'u' := by
    rintro rfl
    cases h
  simp [pieces, he, h]

theorem pieces_unit {a b c d : Char} {n : Nat} (h : unit? a b c d = some n) (cs : List Char) :
    pieces ('\\' :: 'u' :: a :: b :: c :: d :: cs) =
      (.unit n :: (pieces cs).1, (pieces cs).2) := by
  rw [pieces, h]

theorem pieces_plain (hq : c ≠ '"') (hb : c ≠ '\\') (h : ¬ c.toNat < 32) (cs : List Char) :
    pieces (c :: cs) = (.char c :: (pieces cs).1, (pieces cs).2) := by
  rw [pieces.eq_def]
  split <;> simp_all

/-- A string is read up to its closing quote. -/
theorem pieces_quoted (h : Quoted ps cs) (rest : List Char) :
    pieces (cs ++ rest) = (ps, .ok rest) := by
  induction h with
  | close => rw [List.singleton_append, pieces]
  | plain c hquote hescape hcontrol _ ih =>
    rw [List.cons_append, pieces_plain hquote hescape (Nat.not_lt.mpr hcontrol), ih]
  | escaped hc _ ih =>
    rw [List.cons_append, List.cons_append, pieces_unescape (unescape?_of_escapes hc), ih]
  | @unit _ _ a b c d x y z u ha hb hc hd _ ih =>
    have hunit : unit? a b c d = some (0x1000 * x + 0x100 * y + 0x10 * z + u) := by
      have hvalue : (x * 16 + y) * 256 + z * 16 + u = 0x1000 * x + 0x100 * y + 0x10 * z + u := by
        omega
      rw [unit?, hexValue?_of_hexDigit ha, hexValue?_of_hexDigit hb, hexValue?_of_hexDigit hc,
        hexValue?_of_hexDigit hd, ← hvalue]
      rfl
    simp only [List.cons_append]
    rw [pieces_unit hunit, ih]

theorem readString_quoted (h : Quoted ps cs) (rest : List Char) :
    readString (cs ++ rest) = (string ((join? ps).map String.ofList), rest) := by
  rw [readString, pieces_quoted h]

/-- What is written between quotes is read up to the closing quote. -/
theorem readString_escaped (s : String) (rest : List Char) :
    readString (s.toList.flatMap escape ++ '"' :: rest) = (string (some s), rest) := by
  obtain ⟨ps, hquoted, hspells⟩ := exists_quoted s.toList
  have hread := readString_quoted hquoted rest
  rwa [List.append_assoc, List.singleton_append, join?_of_spells hspells, Option.map_some,
    String.ofList_toList] at hread

end Raw

/-! ### Numbers -/

/-- Decimal digits, one at least. -/
def Digits (ds : List Char) : Prop := ds ≠ [] ∧ ∀ c ∈ ds, c.isDigit

theorem digits_toDigits (n : Nat) : Digits (Nat.toDigits 10 n) :=
  ⟨Nat.toDigits_ne_nil, fun _ hc => Nat.isDigit_of_mem_toDigits (by decide) (by decide) hc⟩

/-- Only zero starts with the digit zero. -/
theorem toDigits_of_head? {n : Nat} (h : (Nat.toDigits 10 n).head? = some '0') :
    Nat.toDigits 10 n = ['0'] := by
  have hzero : n = 0 := by
    induction n using Nat.strong_induction_on with
    | _ n ih =>
      rw [Nat.toDigits_eq_if (by decide)] at h
      split at h
      next hlt =>
        have hdigit : ∀ k < 10, Nat.digitChar k = '0' → k = 0 := by decide
        exact hdigit n hlt (Option.some.inj h)
      next hge =>
        rw [List.head?_append_of_ne_nil _ Nat.toDigits_ne_nil] at h
        have := ih (n / 10) (by omega) h
        omega
  rw [hzero]
  rfl

namespace Number

theorem digitsValue_toDigits (n : Nat) : digitsValue (Nat.toDigits 10 n) = n := by
  calc digitsValue (Nat.toDigits 10 n)
      = Nat.ofDigitChars 10 (Nat.toDigits 10 n) 0 := Nat.ofDigitChars_eq_foldl.symm
    _ = n := Nat.ofDigitChars_ten_toDigits

/-- Digits are taken into a significand as long as the value of all of them fits. -/
theorem significand_eq {m : Nat} {ds : List Char}
    (h : ds.foldl (fun n d => 10 * n + digit d) m < UInt64.size) :
    significand m ds = (ds.foldl (fun n d => 10 * n + digit d) m, []) := by
  induction ds generalizing m with
  | nil => rfl
  | cons d ds ih =>
    have hle : ∀ (ds : List Char) (k : Nat), k ≤ ds.foldl (fun n d => 10 * n + digit d) k := by
      intro ds
      induction ds with
      | nil => exact fun _ => le_rfl
      | cons d ds ih =>
        intro k
        have h := ih (10 * k + digit d)
        rw [List.foldl_cons]
        omega
    rw [List.foldl_cons] at h
    rw [significand, if_pos (lt_of_le_of_lt (hle ds _) h), ih h, List.foldl_cons]

/-- A whole number that fits 64 bits, with or without a sign, is the value of its digits. -/
theorem ofDigits?_toDigits {negative : Bool} {n : Nat} (h : n < UInt64.size)
    (hneg : negative → 0 < n ∧ n ≤ 1 <<< 63) :
    ofDigits? negative (Nat.toDigits 10 n) none none =
      some (.whole (if negative then -n else n)) := by
  have hvalue : (Nat.toDigits 10 n).foldl (fun n d => 10 * n + digit d) 0 = n :=
    digitsValue_toDigits n
  have hsignificand : significand 0 (Nat.toDigits 10 n) = (n, []) := by
    rw [significand_eq (by rw [hvalue]; exact h), hvalue]
  simp only [ofDigits?, hsignificand, true_and]
  rw [if_pos hneg]

end Number

namespace Raw

/-- What a number cannot go on with. -/
def EndsNumber (rest : List Char) : Prop :=
  ∀ c ∈ rest.head?, ¬ c.isDigit ∧ c ≠ '.' ∧ c ≠ 'e' ∧ c ≠ 'E'

/-- Digits are taken up to what is none. -/
theorem span_digits {ds cs : List Char} (hds : Digits ds) (hcs : ∀ c ∈ cs.head?, ¬ c.isDigit) :
    (ds ++ cs).takeWhile Char.isDigit = ds ∧ (ds ++ cs).dropWhile Char.isDigit = cs := by
  rw [List.takeWhile_append_of_pos hds.2, List.dropWhile_append_of_pos hds.2]
  cases cs with
  | nil => simp
  | cons c cs =>
    have hc := hcs c rfl
    rw [List.takeWhile_cons_of_neg hc, List.dropWhile_cons_of_neg hc, List.append_nil]
    exact ⟨rfl, rfl⟩

/-- The digits before the point are read up to what is none. -/
theorem readNumber_digits (negative : Bool) {ds cs : List Char} (hds : Digits ds)
    (hzero : ds.head? = some '0' → ds = ['0']) (hcs : ∀ c ∈ cs.head?, ¬ c.isDigit) :
    readNumber negative (ds ++ cs) = readFraction negative ds cs := by
  obtain ⟨htake, hdrop⟩ := span_digits hds hcs
  have hzero : ¬ (ds.head? = some '0' ∧ ds ≠ ['0']) := fun h => h.2 (hzero h.1)
  rw [readNumber, htake, hdrop, if_neg hds.1, if_neg hzero]

theorem readFraction_none (negative : Bool) (ds : List Char) {cs : List Char}
    (hcs : ∀ c ∈ cs.head?, c ≠ '.') :
    readFraction negative ds cs = readExponent negative ds none cs := by
  rw [readFraction.eq_def]
  split
  next rest => exact absurd rfl (hcs '.' rfl)
  next => rfl

theorem readExponent_none (negative : Bool) (ds : List Char) (fraction : Option (List Char))
    {cs : List Char} (hcs : ∀ c ∈ cs.head?, c ≠ 'e' ∧ c ≠ 'E') :
    readExponent negative ds fraction cs =
      (number (Number.ofDigits? negative ds fraction none), cs) := by
  cases cs with
  | nil => rfl
  | cons c cs => simp [readExponent, hcs c rfl]

theorem readNumber_toDigits (negative : Bool) (n : Nat) {rest : List Char}
    (hrest : EndsNumber rest) :
    readNumber negative (Nat.toDigits 10 n ++ rest) =
      (number (Number.ofDigits? negative (Nat.toDigits 10 n) none none), rest) := by
  rw [readNumber_digits negative (digits_toDigits n) toDigits_of_head? fun c hc => (hrest c hc).1,
    readFraction_none negative _ fun c hc => (hrest c hc).2.1,
    readExponent_none negative _ none fun c hc => (hrest c hc).2.2]

end Raw

end MarkupActions.Json
