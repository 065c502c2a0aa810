import Mathlib.Tactic.Common

/-! The order of texts by their UTF-8 bytes, which is their order by characters. -/

namespace MarkupActions.Text

open String (utf8EncodeChar)

/-- The bytes of a text. -/
def utf8 (s : String) : List UInt8 := s.toList.flatMap utf8EncodeChar

theorem toUTF8_eq (s : String) : s.toUTF8 = (utf8 s).toByteArray := String.utf8Encode_toList.symm

/-! ### Order -/

/-- What keeps a linear order reflects it. -/
theorem lt_iff_of_forall_lt {α β : Type} [LT α] [LT β] [ht : Std.Trichotomous (α := α) (· < ·)]
    [ha : Std.Asymm (α := β) (· < ·)] {f : α → β} (hf : ∀ a b, a < b → f a < f b) {a b : α} :
    f a < f b ↔ a < b := by
  refine ⟨fun h => ?_, hf a b⟩
  by_contra hab
  have heq : a = b := ht.trichotomous a b hab fun hba => ha.asymm _ _ h (hf b a hba)
  rw [heq] at h
  exact ha.asymm _ _ h h

theorem toNat_val_lt (c : Char) : c.val.toNat < 0x110000 := by
  have hvalid := c.valid
  simp only [UInt32.isValidChar, Nat.isValidChar] at hvalid
  omega

/-- Of two characters the lesser one has the lesser bytes, and those differ before either ends. -/
theorem utf8EncodeChar_append_lt {c d : Char} (h : c < d) (x y : List UInt8) :
    utf8EncodeChar c ++ x < utf8EncodeChar d ++ y := by
  have hlt : c.val.toNat < d.val.toNat := h
  have hc := toNat_val_lt c
  have hd := toNat_val_lt d
  simp only [utf8EncodeChar]
  generalize c.val.toNat = v at *
  generalize d.val.toNat = w at *
  -- one case for each two numbers of bytes, in which the first byte or a digit to base 64 decides
  split_ifs <;>
    simp (disch := omega) only [List.cons_append, List.nil_append, List.cons_lt_cons_iff,
      UInt8.lt_iff_toNat_lt, ← UInt8.toNat_inj, UInt8.toNat_ofNat', Nat.mod_eq_of_lt] <;>
    omega

theorem flatMap_utf8EncodeChar_lt {cs ds : List Char} (h : cs < ds) :
    cs.flatMap utf8EncodeChar < ds.flatMap utf8EncodeChar := by
  induction cs generalizing ds with
  | nil =>
    cases ds with
    | nil => exact absurd h (List.lt_irrefl [])
    | cons d ds =>
      rw [List.flatMap_cons]
      obtain ⟨b, bs, hbytes⟩ : ∃ b bs, utf8EncodeChar d = b :: bs :=
        List.exists_cons_of_ne_nil String.utf8EncodeChar_ne_nil
      rw [hbytes]
      exact List.nil_lt_cons ..
  | cons c cs ih =>
    cases ds with
    | nil => exact absurd h (List.not_lt_nil _)
    | cons d ds =>
      rw [List.flatMap_cons, List.flatMap_cons]
      rcases List.cons_lt_cons_iff.mp h with hlt | ⟨rfl, hrest⟩
      · exact utf8EncodeChar_append_lt hlt _ _
      · exact List.append_left_lt (ih hrest)

theorem utf8_lt_iff {s t : String} : utf8 s < utf8 t ↔ s < t :=
  lt_iff_of_forall_lt fun _ _ h => flatMap_utf8EncodeChar_lt h

/-- Lists of names are in the same order by the bytes of their names. -/
theorem map_utf8_lt_iff {a b : List String} : a.map utf8 < b.map utf8 ↔ a < b :=
  lt_iff_of_forall_lt fun _ _ h => List.map_lt (fun _ _ => utf8_lt_iff.mpr) h

end MarkupActions.Text
