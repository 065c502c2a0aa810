import Mathlib.Data.List.Forall2
import Mathlib.Data.Set.Function
import MarkupActions.Proofs.Json.Read

/-! Data whose objects have their fields in other orders, and records read from it. The place of a
field does not matter to a record, as long as each field is read into the draft alike whatever else
is in it already. -/

namespace MarkupActions.Json

/-- The same data, with the fields of each object in any order. -/
inductive Shuffled : Json → Json → Prop where
  | null : Shuffled null null
  | bool (b : Bool) : Shuffled (bool b) (bool b)
  | number (n : Int) : Shuffled (number n) (number n)
  | string (s : String) : Shuffled (string s) (string s)
  | array {items items' : List Json} (h : List.Forall₂ Shuffled items items') :
    Shuffled (array items) (array items')
  | object {fields fields' order : List (String × Json)}
    (hkeys : fields'.map Prod.fst = fields.map Prod.fst)
    (hvalues : List.Forall₂ Shuffled (fields.map Prod.snd) (fields'.map Prod.snd))
    (horder : fields'.Perm order) : Shuffled (object fields) (object order)

namespace Shuffled

mutual

theorem refl (j : Json) : Shuffled j j := by
  match j with
  | .null => exact .null
  | .bool b => exact .bool b
  | .number n => exact .number n
  | .string s => exact .string s
  | .array items => exact .array (forall₂_refl items)
  | .object fields => exact .object rfl (forall₂_fields_refl fields) (.refl _)

theorem forall₂_refl (items : List Json) : List.Forall₂ Shuffled items items := by
  match items with
  | [] => exact .nil
  | j :: js => exact .cons (refl j) (forall₂_refl js)

theorem forall₂_fields_refl (fields : List (String × Json)) :
    List.Forall₂ Shuffled (fields.map Prod.snd) (fields.map Prod.snd) := by
  match fields with
  | [] => exact .nil
  | (_, j) :: fs => exact .cons (refl j) (forall₂_fields_refl fs)

end

end Shuffled

theorem fitItems_iff {items : List Json} : FitItems items ↔ ∀ j ∈ items, Fits j := by
  induction items with
  | nil => simp [FitItems]
  | cons j js ih => rw [FitItems, ih, List.forall_mem_cons]

theorem fitFields_iff {fields : List (String × Json)} :
    FitFields fields ↔ ∀ j ∈ fields.map Prod.snd, Fits j := by
  induction fields with
  | nil => simp [FitFields]
  | cons f fs ih => rw [FitFields, ih, List.map_cons, List.forall_mem_cons]

mutual

/-- Another order of fields changes no number. -/
theorem Fits.of_shuffled {j k : Json} (hj : Fits j) (h : Shuffled j k) : Fits k := by
  match j, h with
  | _, .null => exact trivial
  | _, .bool b => exact trivial
  | _, .number n => exact hj
  | _, .string s => exact trivial
  | .array items, .array h =>
    exact fitItems_iff.mpr (fits_of_forall₂ items (fitItems_iff.mp hj) h)
  | .object fields, .object _ hvalues horder =>
    refine fitFields_iff.mpr fun k hk => ?_
    exact fits_of_forall₂_fields fields (fitFields_iff.mp hj) hvalues k
      ((horder.map Prod.snd).mem_iff.mpr hk)

theorem fits_of_forall₂ (items : List Json) (hitems : ∀ j ∈ items, Fits j) {items' : List Json}
    (h : List.Forall₂ Shuffled items items') : ∀ k ∈ items', Fits k := by
  match items, h with
  | [], .nil => simp
  | j :: js, .cons hj hjs =>
    rw [List.forall_mem_cons] at hitems ⊢
    exact ⟨hitems.1.of_shuffled hj, fits_of_forall₂ js hitems.2 hjs⟩

theorem fits_of_forall₂_fields (fields : List (String × Json))
    (hfields : ∀ j ∈ fields.map Prod.snd, Fits j) {values : List Json}
    (h : List.Forall₂ Shuffled (fields.map Prod.snd) values) : ∀ k ∈ values, Fits k := by
  match fields, h with
  | [], .nil => simp
  | (_, j) :: fs, .cons hj hfs =>
    rw [List.map_cons, List.forall_mem_cons] at hfields
    rw [List.forall_mem_cons]
    exact ⟨hfields.1.of_shuffled hj, fits_of_forall₂_fields fs hfields.2 hfs⟩

end

/-! ### Data without objects -/

/-- Data in which nothing can be put in another order. -/
def Rigid (j : Json) : Prop := ∀ k, Shuffled j k → k = j

theorem rigid_null : Rigid null := by
  rintro _ ⟨⟩
  rfl

theorem rigid_bool (b : Bool) : Rigid (bool b) := by
  rintro _ ⟨⟩
  rfl

theorem rigid_number (n : Int) : Rigid (number n) := by
  rintro _ ⟨⟩
  rfl

theorem rigid_string (s : String) : Rigid (string s) := by
  rintro _ ⟨⟩
  rfl

theorem eq_of_forall₂_rigid {items items' : List Json} (hitems : ∀ j ∈ items, Rigid j)
    (h : List.Forall₂ Shuffled items items') : items' = items := by
  induction h with
  | nil => rfl
  | cons hj _ ih =>
    rw [List.forall_mem_cons] at hitems
    rw [hitems.1 _ hj, ih hitems.2]

theorem rigid_array {items : List Json} (h : ∀ j ∈ items, Rigid j) : Rigid (array items) := by
  rintro _ ⟨⟩
  next hitems => rw [eq_of_forall₂_rigid h hitems]

/-- An object of such data can only have its own fields in another order. -/
theorem Shuffled.exists_order {fields : List (String × Json)} {k : Json}
    (h : Shuffled (.object fields) k) (hfields : ∀ f ∈ fields, Rigid f.2) :
    ∃ order, fields.Perm order ∧ k = .object order := by
  cases h with
  | @object _ fields' order hkeys hvalues horder =>
    have hrigid : ∀ j ∈ fields.map Prod.snd, Rigid j := List.forall_mem_map.mpr hfields
    have hsame : fields' = fields :=
      calc fields'
          = (fields.map Prod.fst).zip (fields.map Prod.snd) :=
            List.zip_of_prod hkeys (eq_of_forall₂_rigid hrigid hvalues)
        _ = fields := (List.zip_of_prod rfl rfl).symm
    exact ⟨order, hsame ▸ horder, rfl⟩

/-! ### Records -/

namespace Record

variable {δ α : Type} {rec : Record δ α} {fields order : List (String × Json)} {a : α}
  {draft : List String → δ}

/-- A field that a slot wants and the draft lacks is read into it. -/
theorem readFields_cons {slots : List (Slot δ)} {slot : Slot δ} {k : String} {r : Raw} {d d' : δ}
    (hslot : slots.find? (·.name = k) = some slot) (hgiven : slot.given d = false)
    (hread : slot.read r d = .ok d') (rs : List (Except Fault String × Raw)) :
    readFields slots ((.ok k, r) :: rs) d = readFields slots rs d' := by
  rw [readFields, hslot]
  simp only [hgiven, hread, Bool.false_eq_true, if_false]
  rfl

/-- A field that no slot wants is passed over. -/
theorem readFields_of_unknown {slots : List (Slot δ)} {k : String} {r : Raw}
    (hslot : slots.find? (·.name = k) = none) (hskip : r.skip = .ok ())
    (rs : List (Except Fault String × Raw)) (d : δ) :
    readFields slots ((.ok k, r) :: rs) d = readFields slots rs d := by
  rw [readFields, hslot]
  simp only [hskip]
  rfl

/-- Fields that a record reads as a value in any order. The draft depends on the names that are read
already, and each field adds its own name to them. -/
structure Reads (rec : Record δ α) (fields : List (String × Json)) (a : α)
    (draft : List String → δ) : Prop where
  nodup : (fields.map Prod.fst).Nodup
  start : rec.start = draft []
  read : ∀ f ∈ fields, ∃ slot, rec.slots.find? (·.name = f.1) = some slot ∧ ∀ seen, f.1 ∉ seen →
    slot.given (draft seen) = false ∧ slot.read (toRaw f.2) (draft seen) = .ok (draft (f.1 :: seen))
  finish : ∀ seen, (∀ f ∈ fields, f.1 ∈ seen) → rec.finish (draft seen) = .ok a

theorem Reads.of_perm (h : rec.Reads fields a draft) (hperm : fields.Perm order) :
    rec.Reads order a draft where
  nodup := (hperm.map Prod.fst).nodup_iff.mp h.nodup
  start := h.start
  read f hf := h.read f (hperm.mem_iff.mpr hf)
  finish seen hseen := h.finish seen fun f hf => hseen f (hperm.mem_iff.mp hf)

theorem Reads.readFields (h : rec.Reads fields a draft) {rest : List (String × Json)}
    (hrest : rest.Sublist fields) {seen : List String} (hseen : ∀ f ∈ rest, f.1 ∉ seen) :
    readFields rec.slots (toRawFields rest) (draft seen) =
      .ok (draft ((rest.map Prod.fst).reverse ++ seen)) := by
  induction rest generalizing seen with
  | nil => rfl
  | cons f fs ih =>
    rw [List.forall_mem_cons] at hseen
    obtain ⟨slot, hslot, hread⟩ := h.read f (hrest.subset List.mem_cons_self)
    obtain ⟨hgiven, hread⟩ := hread seen hseen.1
    have hnodup := (hrest.map Prod.fst).nodup h.nodup
    rw [List.map_cons, List.nodup_cons] at hnodup
    have hnext : ∀ g ∈ fs, g.1 ∉ f.1 :: seen := by
      intro g hg hmem
      rcases List.mem_cons.mp hmem with heq | hmem
      · exact hnodup.1 (heq ▸ List.mem_map_of_mem hg)
      · exact hseen.2 g hg hmem
    have ih := ih ((List.sublist_cons_self f fs).trans hrest) hnext
    rw [toRawFields, readFields_cons hslot hgiven hread, List.map_cons, List.reverse_cons,
      List.append_assoc, List.singleton_append]
    exact ih

theorem Reads.decode (h : rec.Reads fields a draft) (hperm : fields.Perm order) :
    rec.decode (toRaw (.object order)) = .ok a := by
  have horder := h.of_perm hperm
  have hnone : ∀ f ∈ order, f.1 ∉ ([] : List String) := fun _ _ => List.not_mem_nil
  have hfields := horder.readFields (.refl order) hnone
  have hall : ∀ f ∈ order, f.1 ∈ (order.map Prod.fst).reverse ++ [] := by
    intro f hf
    rw [List.append_nil, List.mem_reverse]
    exact List.mem_map_of_mem hf
  rw [toRaw, Record.decode, h.start, hfields]
  exact horder.finish _ hall

end Record

/-! ### Reading undoes writing -/

/-- Writing and reading fit together on the values that can be written: the text of such a value is
read as that value, also with the fields of any objects in it in other orders, and no two such values
have one text. -/
structure RoundTrips {α : Type} (valid : α → Prop) (encode : α → Json) (decode : Decoder α) :
    Prop where
  decode_encode : ∀ a, valid a → decodeText decode (encode a).render = .ok a
  decode_shuffled : ∀ a, valid a → ∀ j, Shuffled (encode a) j → decodeText decode j.render = .ok a
  injOn : Set.InjOn (fun a => (encode a).render) {a | valid a}

/-- It is enough to read the trees, if all numbers that are written fit. -/
theorem RoundTrips.of_shuffled {α : Type} {valid : α → Prop} {encode : α → Json}
    {decode : Decoder α} (hfits : ∀ a, valid a → Fits (encode a))
    (hread : ∀ a j, Shuffled (encode a) j → decode (toRaw j) = .ok a) :
    RoundTrips valid encode decode := by
  have hshuffled : ∀ a, valid a → ∀ j, Shuffled (encode a) j →
      decodeText decode j.render = .ok a := by
    intro a ha j h
    rw [decodeText_render decode ((hfits a ha).of_shuffled h)]
    exact hread a j h
  have hself : ∀ a, valid a → decodeText decode (encode a).render = .ok a := fun a ha =>
    hshuffled a ha _ (.refl _)
  refine ⟨hself, hshuffled, fun a ha b hb htext => ?_⟩
  have hb := hself b hb
  rw [← show (encode a).render = (encode b).render from htext, hself a ha] at hb
  exact Except.ok.inj hb

end MarkupActions.Json