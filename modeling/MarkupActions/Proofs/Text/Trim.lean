import Mathlib.Data.List.DropRight
import Mathlib.Data.List.TakeWhile
import MarkupActions.Text.Blank

/-! Trimming and cutting. Blanks at the ends of a text do not matter to what trimming leaves, a
text is left as it is exactly when no blank stands at either end, and cutting at a separator undoes
joining with it. -/

namespace MarkupActions.Text

/-- A run of blanks, which may be empty. -/
def Blank (cs : List Char) : Prop := ∀ c ∈ cs, isBlank c

/-- A text that trimming leaves as it is. -/
def Trimmed (cs : List Char) : Prop := trim cs = cs

instance : DecidablePred Trimmed := fun cs => inferInstanceAs (Decidable (trim cs = cs))

theorem blank_nil : Blank [] := by simp [Blank]

theorem not_isBlank_of_toNat {c : Char} (h₁ : 33 ≤ c.toNat) (h₂ : c.toNat ≤ 126) : ¬ isBlank c := by
  simp only [isBlank, Bool.or_eq_true, Bool.and_eq_true, decide_eq_true_eq, beq_iff_eq]
  omega

theorem not_isBlank_of_isAlphanum {c : Char} (h : c.isAlphanum) : ¬ isBlank c := by
  delta Char.isAlphanum Char.isAlpha Char.isUpper Char.isLower Char.isDigit at h
  simp [UInt32.le_iff_toNat_le, -Char.toNat_val] at h
  apply not_isBlank_of_toNat <;> rw [← Char.toNat_val] <;> omega

/-! ### Blanks at the ends -/

theorem trimEnd_eq_rdropWhile (cs : List Char) : trimEnd cs = cs.rdropWhile isBlank := rfl

theorem trimStart_blank_append {w : List Char} (hw : Blank w) (cs : List Char) :
    trimStart (w ++ cs) = trimStart cs :=
  List.dropWhile_append_of_pos hw

theorem trimEnd_append_blank {w : List Char} (hw : Blank w) (cs : List Char) :
    trimEnd (cs ++ w) = trimEnd cs := by
  unfold trimEnd
  rw [List.reverse_append, List.dropWhile_append_of_pos]
  intro c hc
  exact hw c (List.mem_reverse.mp hc)

theorem trimStart_eq_nil_iff {cs : List Char} : trimStart cs = [] ↔ Blank cs :=
  List.dropWhile_eq_nil_iff

theorem trim_eq_nil_of_blank {cs : List Char} (h : Blank cs) : trim cs = [] := by
  rw [trim, trimStart_eq_nil_iff.mpr h]
  rfl

theorem trim_eq_nil_iff {cs : List Char} : trim cs = [] ↔ Blank cs := by
  refine ⟨fun h c hc => ?_, trim_eq_nil_of_blank⟩
  rw [trim, trimEnd_eq_rdropWhile, List.rdropWhile_eq_nil_iff] at h
  rw [← List.takeWhile_append_dropWhile (p := isBlank) (l := cs), List.mem_append] at hc
  rcases hc with hc | hc
  · exact List.mem_takeWhile_imp hc
  · exact h c hc

/-- Blanks around a text do not change what trimming leaves. -/
theorem trim_padded {w w' : List Char} (hw : Blank w) (hw' : Blank w') (cs : List Char) :
    trim (w ++ cs ++ w') = trim cs := by
  rw [trim, List.append_assoc, trimStart_blank_append hw]
  by_cases hc : Blank cs
  · rw [trimStart_blank_append hc, trimStart_eq_nil_iff.mpr hw', trim_eq_nil_of_blank hc]
    rfl
  · -- the blanks before `cs` end inside it, so those behind it are still behind
    have hne : trimStart cs ≠ [] := fun h => hc (trimStart_eq_nil_iff.mp h)
    have hsplit : trimStart (cs ++ w') = trimStart cs ++ w' := by
      rw [trimStart, List.dropWhile_append, if_neg (by simpa [trimStart] using hne)]
      rfl
    rw [hsplit, trimEnd_append_blank hw']
    rfl

/-- Blanks end before the last character that is none. -/
theorem trimEnd_append_cons {c : Char} (hc : ¬ isBlank c) (a rest : List Char) :
    trimEnd (a ++ c :: rest) = a ++ c :: trimEnd rest := by
  have hreverse : (a ++ c :: rest).reverse = rest.reverse ++ c :: a.reverse := by simp
  rw [trimEnd, trimEnd, hreverse, List.dropWhile_append]
  split
  next h =>
    rw [List.isEmpty_iff.mp h, List.dropWhile_cons_of_neg hc]
    simp
  next => simp

theorem trimmed_nil : Trimmed [] := rfl

/-- Trimming takes blanks from around a text. -/
theorem exists_padding (cs : List Char) :
    ∃ w w', Blank w ∧ Blank w' ∧ cs = w ++ trim cs ++ w' := by
  refine ⟨cs.takeWhile isBlank, (trimStart cs).rtakeWhile isBlank,
    fun _ => List.mem_takeWhile_imp, fun _ => List.mem_rtakeWhile_imp, ?_⟩
  rw [trim, trimEnd_eq_rdropWhile, List.append_assoc, List.rdropWhile_append_rtakeWhile]
  exact List.takeWhile_append_dropWhile.symm

theorem trimmed_trim (cs : List Char) : Trimmed (trim cs) := by
  obtain ⟨w, w', hw, hw', hcs⟩ := exists_padding cs
  calc trim (trim cs)
      = trim (w ++ trim cs ++ w') := (trim_padded hw hw' _).symm
    _ = trim cs := by rw [← hcs]

/-- Trimming leaves a text as it is exactly when no blank stands at either end. -/
theorem trimmed_iff {cs : List Char} :
    Trimmed cs ↔ (∀ c ∈ cs.head?, ¬ isBlank c) ∧ ∀ c ∈ cs.getLast?, ¬ isBlank c := by
  cases cs with
  | nil => simp [trimmed_nil]
  | cons c cs =>
    by_cases hc : isBlank c
    · have hlt : (trim (c :: cs)).length < (c :: cs).length := by
        have h₁ : (trim (c :: cs)).length ≤ (trimStart (c :: cs)).length :=
          (List.rdropWhile_prefix _ (l := trimStart (c :: cs))).length_le
        have h₂ : (trimStart (c :: cs)).length ≤ cs.length := by
          rw [trimStart, List.dropWhile_cons_of_pos hc]
          exact (List.dropWhile_suffix _).length_le
        simp only [List.length_cons]
        omega
      constructor
      · intro h
        rw [h] at hlt
        exact absurd hlt (lt_irrefl _)
      · intro h
        exact absurd hc (h.1 c rfl)
    · have hstart : trimStart (c :: cs) = c :: cs := List.dropWhile_cons_of_neg hc
      rw [Trimmed, trim, hstart, trimEnd_eq_rdropWhile, List.rdropWhile_eq_self_iff]
      constructor
      · intro h
        refine ⟨by simpa using hc, fun d hd => ?_⟩
        rw [List.getLast?_eq_getLast_of_ne_nil (by simp), Option.mem_some_iff] at hd
        exact hd ▸ h (by simp)
      · intro h hne
        exact h.2 _ (List.getLast?_eq_getLast_of_ne_nil hne)

theorem trimmed_of_forall {cs : List Char} (h : ∀ c ∈ cs, ¬ isBlank c) : Trimmed cs :=
  trimmed_iff.mpr ⟨fun c hc => h c (List.mem_of_mem_head? hc),
    fun c hc => h c (List.mem_of_mem_getLast? hc)⟩

/-- What stands between two trimmed texts does not matter. -/
theorem Trimmed.append {a b : List Char} (ha : Trimmed a) (hb : Trimmed b) (hna : a ≠ [])
    (hnb : b ≠ []) (m : List Char) : Trimmed (a ++ m ++ b) := by
  rw [trimmed_iff] at ha hb ⊢
  constructor
  · rw [List.append_assoc, List.head?_append_of_ne_nil _ hna]
    exact ha.1
  · rw [List.getLast?_append_of_ne_nil _ hnb]
    exact hb.2

/-! ### Cutting -/

theorem splitOn_eq (sep : Char) (cs : List Char) : splitOn sep cs = cs.splitOn sep := by
  induction cs with
  | nil => rfl
  | cons c cs ih => simp only [splitOn, ih, List.splitOn_cons_eq_if_modifyHead, beq_iff_eq]

/-- No part holds the separator. -/
theorem not_mem_of_mem_splitOn {sep : Char} {cs p : List Char} (h : p ∈ splitOn sep cs) :
    sep ∉ p := by
  induction cs generalizing p with
  | nil =>
    rw [splitOn_nil, List.mem_singleton] at h
    simp [h]
  | cons c cs ih =>
    unfold splitOn at h
    split at h
    next =>
      rcases List.mem_cons.mp h with rfl | h
      · simp
      · exact ih h
    next hc =>
      cases hs : splitOn sep cs with
      | nil => exact absurd hs (splitOn_ne_nil sep cs)
      | cons q qs =>
        rw [hs, List.modifyHead_cons] at h
        rw [hs] at ih
        rcases List.mem_cons.mp h with rfl | h
        · simp only [List.mem_cons, not_or]
          exact ⟨Ne.symm hc, ih (by simp)⟩
        · exact ih (by simp [h])

/-- What a part holds is in the text. -/
theorem mem_of_mem_splitOn {sep d : Char} {cs p : List Char} (h : p ∈ splitOn sep cs)
    (hd : d ∈ p) : d ∈ cs := by
  induction cs generalizing p with
  | nil =>
    rw [splitOn_nil, List.mem_singleton] at h
    rwa [h] at hd
  | cons c cs ih =>
    unfold splitOn at h
    split at h
    next =>
      rcases List.mem_cons.mp h with rfl | h
      · cases hd
      · exact List.mem_cons_of_mem c (ih h hd)
    next =>
      cases hs : splitOn sep cs with
      | nil => exact absurd hs (splitOn_ne_nil sep cs)
      | cons q qs =>
        rw [hs, List.modifyHead_cons] at h
        rw [hs] at ih
        rcases List.mem_cons.mp h with rfl | h
        · exact (List.mem_cons.mp hd).elim (fun heq => heq ▸ List.mem_cons_self)
            fun hd => List.mem_cons_of_mem c (ih List.mem_cons_self hd)
        · exact List.mem_cons_of_mem c (ih (List.mem_cons_of_mem q h) hd)

/-- The parts before the first separators of one text agree, and so do the rests. -/
theorem append_sep_inj {sep : Char} {a b x y : List Char} (ha : sep ∉ a) (hb : sep ∉ b)
    (h : a ++ sep :: x = b ++ sep :: y) : a = b ∧ x = y := by
  induction a generalizing b with
  | nil =>
    cases b with
    | nil => exact ⟨rfl, (List.cons.inj h).2⟩
    | cons d ds => exact absurd (by simp [(List.cons.inj h).1]) hb
  | cons c cs ih =>
    cases b with
    | nil => exact absurd (by simp [(List.cons.inj h).1]) ha
    | cons d ds =>
      simp only [List.mem_cons, not_or] at ha hb
      obtain ⟨hcd, hrest⟩ := List.cons.inj h
      obtain ⟨hcs, hxy⟩ := ih ha.2 hb.2 hrest
      exact ⟨by rw [hcd, hcs], hxy⟩

theorem splitOn_intercalate {sep : Char} {parts : List (List Char)} (h : ∀ p ∈ parts, sep ∉ p)
    (hne : parts ≠ []) : splitOn sep ([sep].intercalate parts) = parts := by
  rw [splitOn_eq, List.splitOn_intercalate sep h hne]

theorem splitOn_of_not_mem {sep : Char} {cs : List Char} (h : sep ∉ cs) :
    splitOn sep cs = [cs] := by
  rw [splitOn_eq, List.splitOn_eq_singleton h]

/-- A separator cuts a text wherever it stands. -/
theorem splitOn_append {sep : Char} (a b : List Char) :
    splitOn sep (a ++ sep :: b) = splitOn sep a ++ splitOn sep b := by
  simp only [splitOn_eq, List.splitOn_append_cons_self]

end MarkupActions.Text
