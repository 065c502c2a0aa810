import Mathlib.Data.Nat.Digits.Defs
import MarkupActions.Proofs.Argument.Written

/-! The grammar of literals. A literal has one of five forms, and a token is read as a literal
exactly when it writes that literal in its form. The first character of a token tells which form it
can have, so no token has two, and the forms can be tried in any order. -/

namespace MarkupActions.Literal

open Argument Text

/-! ### Strings -/

theorem quoted?_eq_some_iff {t text : List Char} :
    quoted? t = some text ↔ ∃ q, isQuote q ∧ t = q :: (text ++ [q]) := by
  constructor
  · intro h
    cases t with
    | nil => cases h
    | cons q cs =>
      rw [quoted?] at h
      split at h
      next hq =>
        cases h
        refine ⟨q, hq.1, ?_⟩
        rw [List.dropLast_append_getLast? q hq.2]
      next => cases h
  · rintro ⟨q, hq, rfl⟩
    exact quoted?_quoted hq text

/-! ### Integers -/

/-- The number that digits write, each of them by its place from the end. -/
def placeValue (ds : List Char) : Nat :=
  Nat.ofDigits 10 (ds.reverse.map fun d => d.toNat - '0'.toNat)

theorem decimal_eq_placeValue (ds : List Char) : decimal ds = placeValue ds := by
  rw [placeValue, Nat.ofDigits_eq_foldr, List.foldr_map, List.foldr_reverse, decimal]
  congr 1
  funext n d
  rw [Nat.cast_id, Nat.add_comm]

/-- Decimal digits, one at least, behind a minus sign or without, and the number that they write. -/
inductive IsNumeral : Int → List Char → Prop where
  | plain {ds : List Char} (hne : ds ≠ []) (h : ∀ d ∈ ds, d.isDigit) :
    IsNumeral (placeValue ds) ds
  | minus {ds : List Char} (hne : ds ≠ []) (h : ∀ d ∈ ds, d.isDigit) :
    IsNumeral (-(placeValue ds : Int)) ('-' :: ds)

theorem isDigits_iff {ds : List Char} : isDigits ds ↔ ds ≠ [] ∧ ∀ d ∈ ds, d.isDigit := by
  simp [isDigits]

theorem integer?_eq_some_iff {t : List Char} {n : Int} :
    integer? t = some n ↔ IsNumeral n t := by
  constructor
  · intro h
    unfold integer? at h
    split at h
    next ds =>
      split at h
      next hdigits =>
        cases h
        rw [isDigits_iff] at hdigits
        rw [decimal_eq_placeValue]
        exact .minus hdigits.1 hdigits.2
      next => cases h
    next =>
      split at h
      next hdigits =>
        cases h
        rw [isDigits_iff] at hdigits
        rw [decimal_eq_placeValue]
        exact .plain hdigits.1 hdigits.2
      next => cases h
  · rintro (⟨hne, h⟩ | ⟨hne, h⟩)
    · unfold integer?
      split
      next ds => exact absurd (h '-' (by simp)) (by decide)
      next => rw [if_pos (isDigits_iff.mpr ⟨hne, h⟩), decimal_eq_placeValue]
    · rw [integer?, if_pos (isDigits_iff.mpr ⟨hne, h⟩), decimal_eq_placeValue]

theorem inRange_iff {n : Int} : inRange n ↔ -2 ^ 63 ≤ n ∧ n < 2 ^ 63 := by
  have hmin : Int64.minValue.toInt = -2 ^ 63 := by decide
  have hmax : Int64.maxValue.toInt = 2 ^ 63 - 1 := by decide
  rw [inRange, Bool.and_eq_true, decide_eq_true_iff, decide_eq_true_iff, hmin, hmax]
  omega

/-- The integers in range are those that a literal holds. -/
theorem inRange_iff_exists {n : Int} : inRange n ↔ ∃ k : Int64, k.toInt = n := by
  constructor
  · intro h
    rw [inRange_iff] at h
    exact ⟨Int64.ofInt n, Int64.toInt_ofInt_of_le h.1 h.2⟩
  · rintro ⟨k, rfl⟩
    exact inRange_toInt k

/-! ### Sections -/

/-- A section with its name, and any blanks inside the braces. -/
def IsSection (name t : List Char) : Prop :=
  name ≠ [] ∧ (∀ c ∈ name, isSectionChar c) ∧ ∃ w₁ w₂ w₃ w₄, Blank w₁ ∧ Blank w₂ ∧ Blank w₃ ∧
    Blank w₄ ∧ t = sectionText w₁ w₂ w₃ w₄ name

/-- What follows when some blanks are left out comes behind blanks. -/
theorem exists_blank_of_isPrefixOf? {word cs rest : List Char}
    (h : word.isPrefixOf? (trimStart cs) = some rest) :
    ∃ w, Blank w ∧ cs = w ++ (word ++ rest) := by
  refine ⟨cs.takeWhile isBlank, fun _ => List.mem_takeWhile_imp, ?_⟩
  rw [List.isPrefixOf?_eq_some_iff_append_eq.mp h]
  exact List.takeWhile_append_dropWhile.symm

theorem section?_eq_some_iff {t name : List Char} : section? t = some name ↔ IsSection name t := by
  constructor
  · intro h
    simp only [section?, Option.bind_eq_bind, Option.bind_eq_some_iff] at h
    obtain ⟨a, ha, b, hb, c, hc, d, hd, e, he, f, hf, h⟩ := h
    split at h
    next hname =>
      obtain ⟨hne, rfl⟩ := hname
      cases h
      obtain ⟨w₁, h₁, rfl⟩ := exists_blank_of_isPrefixOf? hb
      obtain ⟨w₂, h₂, rfl⟩ := exists_blank_of_isPrefixOf? hc
      obtain ⟨w₃, h₃, rfl⟩ := exists_blank_of_isPrefixOf? hd
      obtain ⟨w₄, h₄, rfl⟩ := exists_blank_of_isPrefixOf? hf
      have hsplit : d = d.takeWhile isSectionChar ++ '\'' :: (w₄ ++ ['}']) := by
        have hquote := List.isPrefixOf?_eq_some_iff_append_eq.mp he
        conv_lhs => rw [← List.takeWhile_append_dropWhile (p := isSectionChar) (l := d), ← hquote]
        simp
      refine ⟨hne, fun _ => List.mem_takeWhile_imp, w₁, w₂, w₃, w₄, h₁, h₂, h₃, h₄, ?_⟩
      rw [← List.isPrefixOf?_eq_some_iff_append_eq.mp ha, sectionText]
      conv_lhs => rw [hsplit]
      simp
    next => cases h
  · rintro ⟨hne, hname, w₁, w₂, w₃, w₄, h₁, h₂, h₃, h₄, rfl⟩
    exact section?_sectionText h₁ h₂ h₃ h₄ hname hne

/-! ### Forms -/

/-- The grammar: when a text writes a literal. -/
def Denotes (t : List Char) : Literal → Prop
  | str text => ∃ q, isQuote q ∧ t = q :: (text.toList ++ [q])
  | int n => IsNumeral n.toInt t
  | bool b => t = (if b then "true" else "false").toList
  | sectionRef name => IsSection name.toList t
  | liveText => t = liveTextExpression.toList

/-- The forms that a token can have. -/
inductive Form where
  | string | boolean | integer | sectionRef | liveText
  deriving DecidableEq

/-- The form of a literal. -/
def form : Literal → Form
  | str _ => .string
  | int _ => .integer
  | bool _ => .boolean
  | sectionRef _ => .sectionRef
  | liveText => .liveText

namespace Form

/-- All forms, in the order in which a token is compared with them. -/
def all : List Form := [string, boolean, integer, sectionRef, liveText]

theorem mem_all (f : Form) : f ∈ all := by cases f <;> decide

/-- A token has a form. An integer may be of any size. -/
inductive Admits : Form → List Char → Prop where
  | literal {l : Literal} {t : List Char} (h : Denotes t l) : Admits l.form t
  | integer {n : Int} {t : List Char} (h : IsNumeral n t) : Admits .integer t

/-- The form that a token can have when it starts with a character. -/
def ofFirst? (c : Char) : Option Form :=
  if c.isDigit || c == '-' then some integer
  else if isQuote c then some string
  else if c == 't' || c == 'f' then some boolean
  else if c == '{' then some sectionRef
  else if c == 'd' then some liveText
  else none

theorem exists_first_of_isNumeral {n : Int} {t : List Char} (h : IsNumeral n t) :
    ∃ c ∈ t.head?, ofFirst? c = some integer := by
  cases h with
  | @plain ds hne h =>
    obtain ⟨d, ds, rfl⟩ := List.exists_cons_of_ne_nil hne
    exact ⟨d, rfl, by rw [ofFirst?, h d (by simp), Bool.true_or, if_pos rfl]⟩
  | minus hne h => exact ⟨'-', rfl, rfl⟩

theorem exists_first_of_denotes {t : List Char} {l : Literal} (h : Denotes t l) :
    ∃ c ∈ t.head?, ofFirst? c = some l.form := by
  cases l with
  | str text =>
    obtain ⟨q, hq, rfl⟩ := h
    simp only [isQuote, Bool.or_eq_true, beq_iff_eq] at hq
    rcases hq with rfl | rfl <;> exact ⟨_, rfl, rfl⟩
  | int n => exact exists_first_of_isNumeral h
  | bool b =>
    rw [Denotes] at h
    subst h
    cases b
    · exact ⟨'f', rfl, rfl⟩
    · exact ⟨'t', rfl, rfl⟩
  | sectionRef name =>
    obtain ⟨-, -, w₁, w₂, w₃, w₄, -, -, -, -, rfl⟩ := h
    exact ⟨'{', rfl, rfl⟩
  | liveText =>
    rw [Denotes] at h
    subst h
    exact ⟨'d', rfl, rfl⟩

theorem Admits.exists_first {f : Form} {t : List Char} (h : f.Admits t) :
    ∃ c ∈ t.head?, ofFirst? c = some f := by
  cases h with
  | literal h => exact exists_first_of_denotes h
  | integer h => exact exists_first_of_isNumeral h

/-- No token has two forms. -/
theorem Admits.unique {f g : Form} {t : List Char} (hf : f.Admits t) (hg : g.Admits t) :
    f = g := by
  obtain ⟨c, hc, hfc⟩ := hf.exists_first
  obtain ⟨d, hd, hgd⟩ := hg.exists_first
  obtain rfl := Option.mem_unique hc hd
  exact Option.some.inj (hfc.symm.trans hgd)

/-- What a token is when it is compared with one form: nothing if it has another, and else the
literal that it writes, or none if that is an integer out of range. -/
def read? (t : List Char) : Form → Option (Option Literal)
  | string => (quoted? t).map fun text => some (str (String.ofList text))
  | boolean =>
    if t = "true".toList then some (some (bool true))
    else if t = "false".toList then some (some (bool false))
    else none
  | integer => (integer? t).map fun n => if inRange n then some (int (Int64.ofInt n)) else none
  | sectionRef => (section? t).map fun name => some (Literal.sectionRef (String.ofList name))
  | liveText => if t = liveTextExpression.toList then some (some Literal.liveText) else none

theorem read?_eq_some_iff {f : Form} {t : List Char} {l : Literal} :
    f.read? t = some (some l) ↔ l.form = f ∧ Denotes t l := by
  constructor
  · intro h
    cases f with
    | string =>
      obtain ⟨text, htext, heq⟩ := Option.map_eq_some_iff.mp h
      cases heq
      exact ⟨rfl, by simpa [Denotes] using quoted?_eq_some_iff.mp htext⟩
    | boolean =>
      rw [read?] at h
      split at h
      next ht =>
        cases h
        exact ⟨rfl, ht⟩
      next =>
        split at h
        next ht =>
          cases h
          exact ⟨rfl, ht⟩
        next => cases h
    | integer =>
      obtain ⟨n, hn, heq⟩ := Option.map_eq_some_iff.mp h
      split at heq
      next hrange =>
        cases heq
        obtain ⟨k, rfl⟩ := inRange_iff_exists.mp hrange
        rw [Int64.ofInt_toInt]
        exact ⟨rfl, integer?_eq_some_iff.mp hn⟩
      next => cases heq
    | sectionRef =>
      obtain ⟨name, hname, heq⟩ := Option.map_eq_some_iff.mp h
      cases heq
      exact ⟨rfl, by simpa [Denotes] using section?_eq_some_iff.mp hname⟩
    | liveText =>
      rw [read?] at h
      split at h
      next ht =>
        cases h
        exact ⟨rfl, ht⟩
      next => cases h
  · rintro ⟨rfl, h⟩
    cases l with
    | str text =>
      rw [form, read?, quoted?_eq_some_iff.mpr h, Option.map_some, String.ofList_toList]
    | int n =>
      rw [form, read?, integer?_eq_some_iff.mpr h, Option.map_some, if_pos (inRange_toInt n),
        Int64.ofInt_toInt]
    | bool b =>
      rw [Denotes] at h
      subst h
      cases b <;> rfl
    | sectionRef name =>
      rw [form, read?, section?_eq_some_iff.mpr h, Option.map_some, String.ofList_toList]
    | liveText => exact if_pos h

theorem isSome_read?_iff {f : Form} {t : List Char} : (f.read? t).isSome ↔ f.Admits t := by
  constructor
  · intro h
    obtain ⟨l?, hread⟩ := Option.isSome_iff_exists.mp h
    cases l? with
    | some l =>
      obtain ⟨rfl, hl⟩ := read?_eq_some_iff.mp hread
      exact .literal hl
    | none =>
      -- only an integer is compared without giving a literal
      cases f with
      | integer =>
        obtain ⟨n, hn, -⟩ := Option.map_eq_some_iff.mp hread
        exact .integer (integer?_eq_some_iff.mp hn)
      | string | sectionRef => simp [read?] at hread
      | boolean =>
        rw [read?] at hread
        split at hread <;> [cases hread; split at hread <;> cases hread]
      | liveText =>
        rw [read?] at hread
        split at hread <;> cases hread
  · rintro (h | h)
    · rw [read?_eq_some_iff.mpr ⟨rfl, h⟩]
      rfl
    · rw [read?, integer?_eq_some_iff.mpr h]
      rfl

end Form

/-- Compares a token with forms one after the other. -/
def recognizeIn (order : List Form) (t : List Char) : Option Literal :=
  (order.findSome? (Form.read? t)).join

theorem recognize?_eq_recognizeIn (t : List Char) : recognize? t = recognizeIn Form.all t := by
  unfold recognize? recognizeIn
  simp only [Form.all, List.findSome?_cons, List.findSome?_nil, Form.read?]
  cases quoted? t with
  | some text => rfl
  | none =>
    cases integer? t with
    | some n => split_ifs <;> rfl
    | none => cases section? t <;> split_ifs <;> rfl

/-- Where one element at most gives a result, it does not matter which is asked first. -/
theorem findSome?_eq_some_iff_of_unique {α β : Type} {f : α → Option β} {order : List α}
    (h : ∀ a b, (f a).isSome → (f b).isSome → a = b) {y : β} :
    order.findSome? f = some y ↔ ∃ a ∈ order, f a = some y := by
  constructor
  · exact List.exists_of_findSome?_eq_some
  · rintro ⟨a, ha, hy⟩
    cases hfind : order.findSome? f with
    | none =>
      rw [List.findSome?_eq_none_iff.mp hfind a ha] at hy
      cases hy
    | some z =>
      obtain ⟨b, -, hz⟩ := List.exists_of_findSome?_eq_some hfind
      have hab : a = b := h a b (by rw [hy]; rfl) (by rw [hz]; rfl)
      rw [← hz, ← hab, hy]

theorem findSome?_read?_iff {order : List Form} (horder : ∀ f, f ∈ order) {t : List Char}
    {l? : Option Literal} :
    order.findSome? (Form.read? t) = some l? ↔ ∃ f : Form, f.read? t = some l? := by
  rw [findSome?_eq_some_iff_of_unique]
  · exact exists_congr fun f => and_iff_right (horder f)
  · intro f g hf hg
    exact (Form.isSome_read?_iff.mp hf).unique (Form.isSome_read?_iff.mp hg)

theorem recognizeIn_eq_recognize? {order : List Form} (horder : ∀ f, f ∈ order) (t : List Char) :
    recognizeIn order t = recognize? t := by
  have hsame : order.findSome? (Form.read? t) = Form.all.findSome? (Form.read? t) := by
    ext l?
    rw [findSome?_read?_iff horder, findSome?_read?_iff Form.mem_all]
  rw [recognize?_eq_recognizeIn, recognizeIn, hsame, recognizeIn]

theorem recognize?_eq_some_iff {t : List Char} {l : Literal} :
    recognize? t = some l ↔ Denotes t l := by
  rw [recognize?_eq_recognizeIn, recognizeIn, Option.join_eq_some_iff,
    findSome?_read?_iff Form.mem_all]
  constructor
  · rintro ⟨f, h⟩
    exact (Form.read?_eq_some_iff.mp h).2
  · intro h
    exact ⟨l.form, Form.read?_eq_some_iff.mpr ⟨rfl, h⟩⟩

theorem parse_eq_ok_iff {t : String} {l : Literal} : parse t = .ok l ↔ Denotes t.toList l := by
  rw [← recognize?_eq_some_iff, parse]
  cases recognize? t.toList <;> simp

theorem parse_eq_error_iff {t : String} {e : ActionError} :
    parse t = .error e ↔ e = .unsupported t ∧ ∀ l, ¬ Denotes t.toList l := by
  have hnone : (∀ l, ¬ Denotes t.toList l) ↔ recognize? t.toList = none := by
    rw [Option.eq_none_iff_forall_ne_some]
    exact forall_congr' fun l => not_congr recognize?_eq_some_iff.symm
  rw [hnone, parse]
  cases recognize? t.toList <;> simp [eq_comm]

/-- A token is read as a literal exactly when it writes that literal: a text between two quotes of
one kind, one of two words, a section, the live text, or digits behind a minus sign or without,
whose number is in range. What is none of these is refused and told as it is. No token has two of
the forms, so they can be tried in any order. -/
theorem parse_exact (t : String) :
    (∀ l, parse t = .ok l ↔ Denotes t.toList l) ∧
    (∀ e, parse t = .error e ↔ e = .unsupported t ∧ ∀ l, ¬ Denotes t.toList l) ∧
    (∀ n, (∃ k : Int64, k.toInt = n ∧ parse t = .ok (int k)) ↔
      IsNumeral n t.toList ∧ -2 ^ 63 ≤ n ∧ n < 2 ^ 63) ∧
    (∀ f g : Form, f.Admits t.toList → g.Admits t.toList → f = g) ∧
    ∀ order : List Form, order.Perm Form.all →
      recognizeIn order t.toList = recognize? t.toList := by
  refine ⟨fun _ => parse_eq_ok_iff, fun _ => parse_eq_error_iff, ?_, fun _ _ => Form.Admits.unique,
    fun order horder => recognizeIn_eq_recognize? (fun f => horder.mem_iff.mpr f.mem_all) _⟩
  intro n
  rw [← inRange_iff, inRange_iff_exists]
  constructor
  · rintro ⟨k, rfl, hk⟩
    exact ⟨parse_eq_ok_iff.mp hk, k, rfl⟩
  · rintro ⟨hn, k, rfl⟩
    exact ⟨k, rfl, parse_eq_ok_iff.mpr hn⟩

end MarkupActions.Literal
