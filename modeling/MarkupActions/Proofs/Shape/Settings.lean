import MarkupActions.Proofs.Action.Resolve
import MarkupActions.Proofs.Action.Text
import MarkupActions.Proofs.Json.Accept
import MarkupActions.Proofs.Json.Shuffled
import MarkupActions.Shape.Config

/-! Loading settings. The text of an object gives settings whatever else is in it, in any order and
however its strings are written, and these are loaded exactly if they are valid; otherwise what is
wrong with them is told, of the attribute first. -/

namespace MarkupActions

open Json

/-! ### Fields of a text -/

/-- What a text gives under a name: no field with this name for none, and for some text one field,
whose value is a string that stands for it. -/
def Json.Gives (fields : List (String × List Char)) (name : String) (value : Option String) : Prop :=
  List.Forall₂ (fun f s => StringText s f.2) (fields.filter (·.1 = name)) value.toList

section Gives

variable {fields : List (String × List Char)} {name name' : String} {v : List Char}
  {value : Option String}

theorem Json.Gives.eq_none (h : Gives [] name value) : value = none := by
  cases value with
  | none => rfl
  | some s => cases h

theorem Json.Gives.of_cons_self (h : Gives ((name, v) :: fields) name value) :
    ∃ s, value = some s ∧ StringText s v ∧ Gives fields name none := by
  rw [Gives, List.filter_cons_of_pos (by simp)] at h
  cases value with
  | none => cases h
  | some s =>
    cases h with
    | cons hs hrest => exact ⟨s, rfl, hs, hrest⟩

theorem Json.Gives.of_cons_of_ne (hne : name' ≠ name) (h : Gives ((name', v) :: fields) name value) :
    Gives fields name value := by
  rwa [Gives, List.filter_cons_of_neg (by simpa using hne)] at h

end Gives

namespace Config

/-! ### Reading -/

variable {fields : List (String × List Char)} {rs : List (Except Fault String × Raw)}
  {name root : Option String} {d : Draft} {s text : String} {c : Config}

/-- A draft takes in what it lacks from the fields of a text, whatever other fields there are. -/
theorem readFields_of_gives
    (h : List.Forall₂ (fun f r => r.1 = .ok f.1 ∧ Raw.ReadsText f.2 r.2) fields rs)
    (hname : Gives fields "actionAttribute" name) (hroot : Gives fields "rootNamespace" root)
    (hname' : name = none ∨ d.actionAttribute = none)
    (hroot' : root = none ∨ d.rootNamespace = none) :
    Record.readFields record.slots rs d =
      .ok ⟨d.actionAttribute.or name, d.rootNamespace.or root⟩ := by
  induction h generalizing name root d with
  | nil =>
    rw [hname.eq_none, hroot.eq_none, Option.or_none, Option.or_none]
    rfl
  | @cons f r fs rs hr _ ih =>
    obtain ⟨key, v⟩ := f
    obtain ⟨k, r⟩ := r
    obtain ⟨rfl, hreads⟩ : k = .ok key ∧ Raw.ReadsText v r := hr
    by_cases hkey : key = "actionAttribute"
    · subst hkey
      obtain ⟨s, rfl, hs, hnone⟩ := hname.of_cons_self
      have hlacks := hname'.resolve_left (Option.some_ne_none s)
      have hgiven : d.actionAttribute.isSome = false := by rw [hlacks]; rfl
      have hslot : record.slots.find? (·.name = "actionAttribute") = some _ := rfl
      have hstep : Record.readFields record.slots ((.ok _, .string (some s)) :: rs) d =
          Record.readFields record.slots rs { d with actionAttribute := some s } :=
        Record.readFields_cons hslot hgiven rfl rs
      rw [hreads.string s hs, hstep, hlacks, Option.none_or]
      exact ih hnone (hroot.of_cons_of_ne (by decide)) (.inl rfl) hroot'
    · by_cases hkey' : key = "rootNamespace"
      · subst hkey'
        obtain ⟨s, rfl, hs, hnone⟩ := hroot.of_cons_self
        have hlacks := hroot'.resolve_left (Option.some_ne_none s)
        have hgiven : d.rootNamespace.isSome = false := by rw [hlacks]; rfl
        have hslot : record.slots.find? (·.name = "rootNamespace") = some _ := rfl
        have hstep : Record.readFields record.slots ((.ok _, .string (some s)) :: rs) d =
            Record.readFields record.slots rs { d with rootNamespace := some s } :=
          Record.readFields_cons hslot hgiven rfl rs
        rw [hreads.string s hs, hstep, hlacks, Option.none_or]
        exact ih (hname.of_cons_of_ne (by decide)) hnone hname' (.inl rfl)
      · have hslot : record.slots.find? (·.name = key) = none := by
          simp [record, Ne.symm hkey, Ne.symm hkey']
        rw [Record.readFields_of_unknown hslot hreads.skip]
        exact ih (hname.of_cons_of_ne hkey) (hroot.of_cons_of_ne hkey') hname' hroot'

/-- The settings that a text gives, with the defaults of those that it does not give. -/
theorem decodeText_of_gives (h : ObjectText fields text.toList)
    (hname : Gives fields "actionAttribute" name) (hroot : Gives fields "rootNamespace" root) :
    decodeText decode text = .ok ⟨name.getD "data-action", root.getD "window"⟩ := by
  obtain ⟨rs, hrs, hreads⟩ := Raw.ofText_objectText h
  have hfields := readFields_of_gives (d := {}) hreads hname hroot (.inr rfl) (.inr rfl)
  have hdecode : decode (.object rs .closed) =
      .ok ⟨name.getD "data-action", root.getD "window"⟩ := by
    rw [decode, Record.decode, show record.start = {} from rfl, hfields]
    rfl
  rw [decodeText, hrs]
  simp only [hdecode]
  rfl

/-- Settings are loaded exactly if they can be read and are valid. -/
theorem load_eq_ok_iff :
    load text = .ok c ↔ decodeText decode text = .ok c ∧ c.validate = .ok () := by
  rw [load, bind_eq_ok_iff]
  constructor
  · rintro ⟨c', hread, h⟩
    obtain ⟨u, hvalid, h⟩ := bind_eq_ok_iff.mp h
    cases h
    cases hdecode : decodeText decode text with
    | error e =>
      rw [hdecode] at hread
      cases hread
    | ok c' =>
      rw [hdecode] at hread
      cases hread
      cases hvalidate : c.validate with
      | error e =>
        rw [hvalidate] at hvalid
        cases hvalid
      | ok u => exact ⟨rfl, rfl⟩
  · rintro ⟨hdecode, hvalidate⟩
    refine ⟨c, by rw [hdecode]; rfl, bind_eq_ok_iff.mpr ⟨(), by rw [hvalidate]; rfl, rfl⟩⟩

theorem load_of_invalid {e : ConfigError} (h : decodeText decode text = .ok c)
    (he : c.validate = .error e) : load text = .error (.invalid e) := by
  rw [load, h]
  simp only [Except.mapError, bind, Except.bind, he]

/-! ### Valid settings -/

/-- The name of an attribute: not empty, and without blanks. -/
def IsAttribute (s : String) : Prop := s ≠ "" ∧ ∀ c ∈ s.toList, ¬ Text.isBlank c

/-- What a name can start with: an ASCII letter, an underscore or a dollar sign. -/
def StartsName (c : Char) : Prop :=
  ('A' ≤ c ∧ c ≤ 'Z') ∨ ('a' ≤ c ∧ c ≤ 'z') ∨ c = '_' ∨ c = '$'

/-- A name that can be a root namespace: a start, then more such characters and digits. -/
def IsName (s : String) : Prop :=
  ∃ c cs, s.toList = c :: cs ∧ StartsName c ∧ ∀ d ∈ cs, StartsName d ∨ ('0' ≤ d ∧ d ≤ '9')

theorem isAttributeName_iff : isAttributeName s.toList ↔ IsAttribute s := by
  simp [isAttributeName, IsAttribute]

theorem isIdentifierStart_iff {ch : Char} : isIdentifierStart ch ↔ StartsName ch := by
  unfold isIdentifierStart
  delta Char.isAlpha Char.isUpper Char.isLower
  simp [StartsName, Char.le_def, or_assoc]

theorem isDigit_iff {ch : Char} : ch.isDigit ↔ '0' ≤ ch ∧ ch ≤ '9' := by
  delta Char.isDigit
  simp [Char.le_def]

theorem isIdentifier_iff : isIdentifier s.toList ↔ IsName s := by
  rw [IsName]
  cases s.toList with
  | nil => simp [isIdentifier]
  | cons c cs => simp [isIdentifier, isIdentifierStart_iff, isDigit_iff]

theorem validate_of_not_isAttribute (h : ¬ IsAttribute c.actionAttribute) :
    c.validate = .error (.badAttribute c.actionAttribute) := by
  rw [← isAttributeName_iff] at h
  simp [validate, h]

theorem validate_of_not_isName (h : IsAttribute c.actionAttribute) (h' : ¬ IsName c.rootNamespace) :
    c.validate = .error (.badRoot c.rootNamespace) := by
  rw [← isAttributeName_iff] at h
  rw [← isIdentifier_iff] at h'
  simp [validate, h, h']

/-! ### Loading -/

/-- How settings that a text gives are loaded from it. -/
structure Loads (text : String) (c : Config) : Prop where
  /-- Exactly the valid ones are, as they are. -/
  ok : load text = .ok c ↔ IsAttribute c.actionAttribute ∧ IsName c.rootNamespace
  /-- Of what is wrong, the attribute is told first. -/
  badAttribute : ¬ IsAttribute c.actionAttribute →
    load text = .error (.invalid (.badAttribute c.actionAttribute))
  badRoot : IsAttribute c.actionAttribute → ¬ IsName c.rootNamespace →
    load text = .error (.invalid (.badRoot c.rootNamespace))

theorem loads_of_gives (h : ObjectText fields text.toList)
    (hname : Gives fields "actionAttribute" name) (hroot : Gives fields "rootNamespace" root) :
    Loads text ⟨name.getD "data-action", root.getD "window"⟩ := by
  have hdecode := decodeText_of_gives h hname hroot
  constructor
  case ok =>
    rw [load_eq_ok_iff, validate_eq_ok_iff, isAttributeName_iff, isIdentifier_iff]
    exact and_iff_right hdecode
  case badAttribute => exact fun h => load_of_invalid hdecode (validate_of_not_isAttribute h)
  case badRoot => exact fun h h' => load_of_invalid hdecode (validate_of_not_isName h h')

/-- The text of settings gives them as they are. -/
theorem loads_render (c : Config) : Loads c.encode.render c := by
  have htext := objectText_render [("actionAttribute", .string c.actionAttribute),
    ("rootNamespace", .string c.rootNamespace)]
  have hname : Gives [("actionAttribute", renderString c.actionAttribute),
      ("rootNamespace", renderString c.rootNamespace)] "actionAttribute" c.actionAttribute := by
    simp [Gives, stringText_renderString]
  have hroot : Gives [("actionAttribute", renderString c.actionAttribute),
      ("rootNamespace", renderString c.rootNamespace)] "rootNamespace" c.rootNamespace := by
    simp [Gives, stringText_renderString]
  exact loads_of_gives htext hname hroot

/-- Loading is exact. An object gives settings by the strings under their names and the defaults for
the others, whatever else is in it, and these are loaded if they are valid and refused otherwise. So
the text of any settings is loaded as them exactly if they are valid, and no loaded root namespace
has a character that ends a segment of a path. -/
theorem load_is_exact :
    (∀ (text : String) (fields : List (String × List Char)) (name root : Option String),
      ObjectText fields text.toList → Gives fields "actionAttribute" name →
      Gives fields "rootNamespace" root →
        Loads text ⟨name.getD "data-action", root.getD "window"⟩) ∧
    (∀ c : Config, load c.encode.render = .ok c ↔ c.validate = .ok ()) ∧
    ∀ (text : String) (c : Config), load text = .ok c →
      ∀ ch ∈ c.rootNamespace.toList, ch ≠ '.' ∧ ch ≠ '(' ∧ ¬ Text.isBlank ch := by
  refine ⟨fun _ _ _ _ => loads_of_gives, fun c => ?_, fun text c h ch hch => ?_⟩
  · rw [(loads_render c).ok, validate_eq_ok_iff, isAttributeName_iff, isIdentifier_iff]
  · have hroot := (validate_eq_ok_iff.mp (load_eq_ok_iff.mp h).2).2
    have hsegment := ActionExpr.isSegment_of_isIdentifier hroot
    refine ⟨?_, ?_, ?_⟩
    · rintro rfl
      exact hsegment.dot_not_mem hch
    · rintro rfl
      exact hsegment.paren_not_mem hch
    · exact not_isBlank_of_isIdentifier hroot hch

/-! ### An escaped dot -/

/-- The text of a root namespace whose dot is escaped. -/
def dottedRoot : List Char := ['"', 'a', '\\', 'u', '0', '0', '2', 'E', 'b', '"']

theorem stringText_dottedRoot : StringText "a.b" dottedRoot := by
  have hzero : HexDigit '0' 0 := ⟨by decide, .inl rfl⟩
  have hrest : Quoted [.char 'b'] ['b', '"'] := .plain 'b' (by decide) (by decide) (by decide) .close
  have hdot : Quoted [.unit 0x2e, .char 'b'] ['\\', 'u', '0', '0', '2', 'E', 'b', '"'] :=
    .unit (z := 2) (u := 14) hzero hzero ⟨by decide, .inl rfl⟩ ⟨by decide, .inr rfl⟩ hrest
  exact ⟨_, _, rfl, .plain 'a' (by decide) (by decide) (by decide) hdot,
    .char 'a' (.unit (by decide) (.char 'b' .nil))⟩

/-- An array of a string that stands for no text and a number that is not whole. -/
def oddValue : List Char := "[\"\\ud800\", -0.5e+3]".toList

theorem valueText_oddValue : ValueText oddValue := by
  have hzero : HexDigit '0' 0 := ⟨by decide, .inl rfl⟩
  have hstring : Quoted [.unit 0xd800] ['\\', 'u', 'd', '8', '0', '0', '"'] :=
    .unit (x := 13) (y := 8) ⟨by decide, .inl rfl⟩ ⟨by decide, .inl rfl⟩ hzero hzero .close
  have hdigit (c : Char) (hc : c.isDigit) : Digits [c] := ⟨by simp, by simp [hc]⟩
  have hexponent : Exponent ['e', '+', '3'] :=
    .digits (.inl rfl) (.inr (.inl rfl)) (hdigit '3' (by decide))
  have hnumber : NumberText ['-', '0', '.', '5', 'e', '+', '3'] :=
    .mk (.inr rfl) (hdigit '0' (by decide)) (fun _ => rfl) (.digits (hdigit '5' (by decide)))
      hexponent
  have hblank : Blanks [' '] := by simp [Blanks, isSpace]
  exact .array blanks_nil
    (.more (.string hstring) blanks_nil hblank (.last (.number hnumber) blanks_nil))

/-- An object with a field of no use and a dotted root namespace. -/
def dottedSettings : String :=
  "\x7b \"x\" : [\"\\ud800\", -0.5e+3] ,\"rootNamespace\": \"a\\u002Eb\" \x7d"

theorem objectText_dottedSettings :
    ObjectText [("x", oddValue), ("rootNamespace", dottedRoot)] dottedSettings.toList := by
  have hblank : Blanks [' '] := by simp [Blanks, isSpace]
  obtain ⟨ps, hx, hspells⟩ := exists_quoted "x".toList
  obtain ⟨qs, hroot, hspells'⟩ := exists_quoted "rootNamespace".toList
  obtain ⟨_, _, heq, hdotted, -⟩ := stringText_dottedRoot
  have hvalue : ValueText dottedRoot := by
    rw [heq]
    exact .string hdotted
  have hfields := FieldsText.more hx hblank hblank valueText_oddValue hblank blanks_nil
    (.last hroot blanks_nil hblank hvalue hblank)
  have hkeys : List.Forall₂ (fun k f => Spells k.1 f.1.toList ∧ k.2 = f.2)
      [(ps, oddValue), (qs, dottedRoot)] [("x", oddValue), ("rootNamespace", dottedRoot)] :=
    .cons ⟨hspells, rfl⟩ (.cons ⟨hspells', rfl⟩ .nil)
  have hobject := ObjectText.fields blanks_nil hblank hfields hkeys blanks_nil
  refine (congrArg (ObjectText _) ?_).mp hobject
  decide +kernel

/-- An escaped dot is a dot, so the settings are refused for their root namespace. -/
theorem load_is_exact_of_dottedSettings :
    load dottedSettings = .error (.invalid (.badRoot "a.b")) := by
  have hname : Gives [("x", oddValue), ("rootNamespace", dottedRoot)] "actionAttribute" none := by
    simp [Gives]
  have hroot : Gives [("x", oddValue), ("rootNamespace", dottedRoot)] "rootNamespace" "a.b" := by
    simp [Gives, stringText_dottedRoot]
  have hloads := load_is_exact.1 _ _ _ _ objectText_dottedSettings hname hroot
  have hattribute : IsAttribute "data-action" := isAttributeName_iff.mp (by decide)
  exact hloads.badRoot hattribute fun h => absurd (isIdentifier_iff.mpr h) (by decide)

end Config

end MarkupActions
