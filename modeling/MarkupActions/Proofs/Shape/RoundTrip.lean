import Mathlib.Data.List.Permutation
import MarkupActions.Proofs.Json.Shuffled
import MarkupActions.Shape.Action
import MarkupActions.Shape.Config
import MarkupActions.Shape.Literal
import MarkupActions.Shape.Report

/-! Reading undoes writing for every kind of data: literals, arguments, paths, call shells, settings,
findings and reports. The records are read through the drafts that some of their fields leave; the
two tagged types by their two orders. -/

namespace MarkupActions

open Json

/-! ### Lists -/

/-- A list is read if each of its items is. -/
theorem Json.Raw.list_eq_ok {α : Type} {d : Decoder α} {xs : List α} {items : List Json}
    (h : List.Forall₂ (fun x j => d (toRaw j) = .ok x) xs items) :
    list d (toRaw (.array items)) = .ok xs := by
  have hmap : (toRawItems items).mapM d = .ok xs := by
    induction h with
    | nil => rfl
    | cons hj _ ih =>
      rw [toRawItems, List.mapM_cons, hj, ih]
      rfl
  rw [toRaw, list, hmap]
  rfl

/-! ### Paths and call shells -/

namespace ActionPath

theorem rigid_encode (p : ActionPath) : Rigid p.encode := by
  apply rigid_array
  rw [List.forall_mem_map]
  exact fun s _ => rigid_string s

theorem decode_encode (p : ActionPath) : decode (toRaw p.encode) = .ok p := by
  have hitems : List.Forall₂ (fun s j => Raw.text (toRaw j) = .ok s) p.segments
      (p.segments.map .string) := by
    rw [List.forall₂_map_right_iff, List.forall₂_same]
    exact fun _ _ => rfl
  rw [decode, encode, Raw.list_eq_ok hitems]
  rfl

theorem decode_of_shuffled (p : ActionPath) {j : Json} (h : Shuffled p.encode j) :
    decode (toRaw j) = .ok p := by
  rw [p.rigid_encode j h]
  exact p.decode_encode

theorem fits_encode (p : ActionPath) : Fits p.encode := by
  apply fitItems_iff.mpr
  rw [List.forall_mem_map]
  exact fun _ _ => trivial

end ActionPath

namespace ActionExpr

/-- The draft of a call shell once the fields with the names seen are read. -/
def draft (e : ActionExpr) (seen : List String) : Draft where
  raw := if "raw" ∈ seen then some e.raw else none
  path := if "path" ∈ seen then some e.path else none
  rawArgs := if "rawArgs" ∈ seen then some e.rawArgs else none

theorem reads (e : ActionExpr) : record.Reads
    [("raw", .string e.raw), ("path", e.path.encode), ("rawArgs", .string e.rawArgs)] e e.draft where
  nodup := by simp
  start := rfl
  read := by
    simp only [List.forall_mem_cons]
    refine ⟨?_, ?_, ?_, by simp⟩ <;> refine ⟨_, rfl, fun seen hseen => ⟨?_, ?_⟩⟩ <;>
      simp [draft, hseen, toRaw, Raw.text, ActionPath.decode_encode, bind, Except.bind, pure,
        Except.pure]
  finish seen hseen := by
    simp only [List.forall_mem_cons] at hseen
    simp [record, draft, hseen, required, bind, Except.bind, pure, Except.pure]

theorem decode_of_shuffled (e : ActionExpr) {j : Json} (h : Shuffled e.encode j) :
    decode (toRaw j) = .ok e := by
  obtain ⟨order, hperm, rfl⟩ := h.exists_order (by
    simp [rigid_string, ActionPath.rigid_encode])
  exact e.reads.decode hperm

theorem fits_encode (e : ActionExpr) : Fits e.encode :=
  ⟨trivial, e.path.fits_encode, trivial, trivial⟩

end ActionExpr

/-! ### Settings -/

namespace Config

def draft (c : Config) (seen : List String) : Draft where
  actionAttribute := if "actionAttribute" ∈ seen then some c.actionAttribute else none
  rootNamespace := if "rootNamespace" ∈ seen then some c.rootNamespace else none

theorem reads (c : Config) : record.Reads [("actionAttribute", .string c.actionAttribute),
    ("rootNamespace", .string c.rootNamespace)] c c.draft where
  nodup := by simp
  start := rfl
  read := by
    simp only [List.forall_mem_cons]
    refine ⟨?_, ?_, by simp⟩ <;> refine ⟨_, rfl, fun seen hseen => ⟨?_, ?_⟩⟩ <;>
      simp [draft, hseen, toRaw, Raw.text, bind, Except.bind, pure, Except.pure]
  finish seen hseen := by
    simp only [List.forall_mem_cons] at hseen
    simp [record, draft, hseen, Draft.complete]

theorem decode_of_shuffled (c : Config) {j : Json} (h : Shuffled c.encode j) :
    decode (toRaw j) = .ok c := by
  obtain ⟨order, hperm, rfl⟩ := h.exists_order (by simp [rigid_string])
  exact c.reads.decode hperm

theorem fits_encode (c : Config) : Fits c.encode := ⟨trivial, trivial, trivial⟩

end Config

/-! ### Findings and reports -/

theorem Json.rigid_ofString? (s : Option String) : Rigid (ofString? s) := by
  cases s with
  | none => exact rigid_null
  | some s => exact rigid_string s

namespace Finding

def draft (f : Finding) (seen : List String) : Draft where
  file := if "file" ∈ seen then some f.file else none
  tag := if "tag" ∈ seen then some f.tag else none
  elementId := if "elementId" ∈ seen then some f.elementId else none
  action := if "action" ∈ seen then some f.action else none
  code := if "code" ∈ seen then some f.code else none
  message := if "message" ∈ seen then some f.message else none
  hint := if "hint" ∈ seen then some f.hint else none

theorem nullable_ofString? (s : Option String) :
    Raw.nullable Raw.text (toRaw (.ofString? s)) = .ok s := by
  cases s <;> rfl

theorem reads (f : Finding) : record.Reads
    [("file", .string f.file), ("tag", .string f.tag), ("elementId", .ofString? f.elementId),
      ("action", .string f.action), ("code", .string f.code), ("message", .string f.message),
      ("hint", .string f.hint)] f f.draft where
  nodup := by simp
  start := rfl
  read := by
    simp only [List.forall_mem_cons]
    refine ⟨?_, ?_, ?_, ?_, ?_, ?_, ?_, by simp⟩ <;>
      refine ⟨_, rfl, fun seen hseen => ⟨?_, ?_⟩⟩ <;>
      simp [draft, hseen, nullable_ofString?, toRaw, Raw.text, bind, Except.bind, pure, Except.pure]
  finish seen hseen := by
    simp only [List.forall_mem_cons] at hseen
    simp [record, draft, hseen, required, bind, Except.bind, pure, Except.pure]

theorem decode_of_shuffled (f : Finding) {j : Json} (h : Shuffled f.encode j) :
    decode (toRaw j) = .ok f := by
  obtain ⟨order, hperm, rfl⟩ := h.exists_order (by simp [rigid_string, rigid_ofString?])
  exact f.reads.decode hperm

theorem fits_encode (f : Finding) : Fits f.encode := by
  have hid : Fits (ofString? f.elementId) := by cases f.elementId <;> exact trivial
  exact ⟨trivial, trivial, hid, trivial, trivial, trivial, trivial, trivial⟩

end Finding

namespace Report

def draft (r : Report) (seen : List String) : Draft where
  filesScanned := if "filesScanned" ∈ seen then some r.filesScanned else none
  actionsChecked := if "actionsChecked" ∈ seen then some r.actionsChecked else none
  findings := if "findings" ∈ seen then some r.findings else none

theorem count_number (n : Nat) : Raw.count (toRaw (.number n)) = .ok n := by
  simp [toRaw, Raw.count]

theorem reads (r : Report) {items : List Json}
    (h : List.Forall₂ Shuffled (r.findings.map Finding.encode) items) : record.Reads
    [("filesScanned", .number r.filesScanned), ("actionsChecked", .number r.actionsChecked),
      ("findings", .array items)] r r.draft where
  nodup := by simp
  start := rfl
  read := by
    have hfindings : Raw.list Finding.decode (toRaw (.array items)) = .ok r.findings := by
      apply Raw.list_eq_ok
      rw [List.forall₂_map_left_iff] at h
      exact h.imp fun f _ => f.decode_of_shuffled
    simp only [List.forall_mem_cons]
    refine ⟨?_, ?_, ?_, by simp⟩ <;> refine ⟨_, rfl, fun seen hseen => ⟨?_, ?_⟩⟩ <;>
      simp [draft, hseen, count_number, hfindings, bind, Except.bind, pure, Except.pure]
  finish seen hseen := by
    simp only [List.forall_mem_cons] at hseen
    simp [record, draft, hseen, required, bind, Except.bind, pure, Except.pure]

theorem decode_of_shuffled (r : Report) {j : Json} (h : Shuffled r.encode j) :
    decode (toRaw j) = .ok r := by
  cases h with
  | @object _ fields order hkeys hvalues horder =>
    have hfields := List.zip_of_prod hkeys rfl
    generalize fields.map Prod.snd = values at hvalues hfields
    obtain _ | ⟨hscanned, _ | ⟨hchecked, _ | ⟨hfindings, ⟨⟩⟩⟩⟩ := hvalues
    cases hscanned
    cases hchecked
    cases hfindings with
    | array hitems =>
      rw [hfields] at horder
      exact (r.reads hitems).decode horder

/-- The counters of a report are machine words. -/
def Sized (r : Report) : Prop := r.filesScanned < UInt64.size ∧ r.actionsChecked < UInt64.size

instance (r : Report) : Decidable r.Sized := inferInstanceAs (Decidable (_ ∧ _))

theorem fits_encode (r : Report) (h : r.Sized) : Fits r.encode := by
  have hcount : ∀ n < UInt64.size, Fits (.number n) := by
    intro n hn
    have hmin : Int64.minValue.toInt ≤ 0 := by decide
    exact ⟨hmin.trans (Int.natCast_nonneg n), Int.ofNat_lt.mpr hn⟩
  have hfindings : ∀ j ∈ r.findings.map Finding.encode, Fits j :=
    List.forall_mem_map.mpr fun f _ => f.fits_encode
  exact ⟨hcount _ h.1, hcount _ h.2, fitItems_iff.mpr hfindings, trivial⟩

end Report

/-! ### Literals and arguments -/

theorem Json.int64_number (n : Int64) : Raw.int64 (toRaw (.number n.toInt)) = .ok n := by
  have hrange : Int64.minValue.toInt ≤ n.toInt ∧ n.toInt ≤ Int64.maxValue.toInt :=
    ⟨n.minValue_le_toInt, n.toInt_le⟩
  rw [toRaw, Raw.int64, if_pos hrange, Int64.ofInt_toInt]

theorem Json.fits_int64 (n : Int64) : Fits (.number n.toInt) := by
  have hsize : Int64.maxValue.toInt < UInt64.size := by decide
  exact ⟨n.minValue_le_toInt, n.toInt_le.trans_lt hsize⟩

namespace Literal

theorem Kind.ofName_name (k : Kind) : ofName k.name = .ok k := by
  cases k <;> rfl

/-- A kind and a value are read in either order, the value kept aside until the kind is known. -/
theorem decode_pair {k : Kind} {v : Json} {l : Literal} (hv : Rigid v)
    (hvalue : decodeValue k (toRaw v) = .ok l) (htake : (toRaw v).take Raw.depthLimit = .ok ())
    {j : Json} (h : Shuffled (.object [("kind", .string k.name), ("value", v)]) j) :
    decode (toRaw j) = .ok l := by
  obtain ⟨order, hperm, rfl⟩ := h.exists_order (by simp [rigid_string, hv])
  rcases List.pair_perm.mp hperm with rfl | rfl <;>
    simp [decode, record, Record.decode, Record.readFields, toRaw, toRawFields, Kind.decode,
      Kind.ofName_name, hvalue, htake, Stop.next, bind, Except.bind, pure, Except.pure]

theorem decode_of_shuffled (l : Literal) {j : Json} (h : Shuffled l.encode j) :
    decode (toRaw j) = .ok l := by
  cases l with
  | str s => exact decode_pair (k := .str) (rigid_string s) rfl rfl h
  | int n =>
    have hvalue : decodeValue .int (toRaw (.number n.toInt)) = .ok (int n) := by
      rw [decodeValue, int64_number]
      rfl
    exact decode_pair (rigid_number _) hvalue rfl h
  | bool b => exact decode_pair (k := .bool) (rigid_bool b) rfl rfl h
  | sectionRef s => exact decode_pair (k := .sectionRef) (rigid_string s) rfl rfl h
  | liveText =>
    obtain ⟨order, hperm, rfl⟩ := h.exists_order (by simp [rigid_string])
    rw [← List.singleton_perm.mp hperm]
    rfl

theorem fits_encode (l : Literal) : Fits l.encode := by
  cases l with
  | int n => exact ⟨trivial, fits_int64 n, trivial⟩
  | liveText => exact ⟨trivial, trivial⟩
  | _ => exact ⟨trivial, trivial, trivial⟩

end Literal

namespace Value

theorem Kind.decode_name (k : Kind) : decode (.string (some k.name)) = .ok k := by
  cases k <;> rfl

theorem Kind.field_ne_type (k : Kind) : k.field ≠ "type" := by
  cases k <;> decide

/-- A type and the one field that it asks for are read in either order. -/
theorem decode_pair {k : Kind} {v : Json} {x : Value} (hv : Rigid v)
    (hcontent : decodeContent k (toRaw v) = .ok x)
    (htake : (toRaw v).take Raw.depthLimit = .ok ()) {j : Json}
    (h : Shuffled (.object [("type", .string k.name), (k.field, v)]) j) :
    decode (toRaw j) = .ok x := by
  have hfield := k.field_ne_type
  obtain ⟨order, hperm, rfl⟩ := h.exists_order (by simp [rigid_string, hv])
  rcases List.pair_perm.mp hperm with rfl | rfl <;>
    simp [decode, readFields, toRaw, toRawFields, Kind.decode_name, hcontent, htake, hfield,
      hfield.symm, Except.toOption, required, Stop.next, bind, Except.bind]

theorem decode_of_shuffled (x : Value) {j : Json} (h : Shuffled x.encode j) :
    decode (toRaw j) = .ok x := by
  cases x with
  | string s => exact decode_pair (k := .string) (rigid_string s) rfl rfl h
  | number n =>
    have hcontent : decodeContent .number (toRaw (.number n.toInt)) = .ok (number n) := by
      rw [decodeContent, int64_number]
      rfl
    exact decode_pair (rigid_number _) hcontent rfl h
  | boolean b => exact decode_pair (k := .boolean) (rigid_bool b) rfl rfl h
  | sectionRef s => exact decode_pair (k := .sectionRef) (rigid_string s) rfl rfl h
  | liveText s => exact decode_pair (k := .liveText) (rigid_string s) rfl rfl h

theorem fits_encode (x : Value) : Fits x.encode := by
  cases x with
  | number n => exact ⟨trivial, fits_int64 n, trivial⟩
  | _ => exact ⟨trivial, trivial, trivial⟩

end Value

/-! ### All data -/

/-- Whatever is written as data is read back, with the fields of its objects in any order, and no two
values of a type are written alike. Only the counters of a report are bounded, by the size of a
machine word. -/
theorem data_roundTrips :
    RoundTrips (fun _ => True) Literal.encode Literal.decode ∧
      RoundTrips (fun _ => True) Value.encode Value.decode ∧
      RoundTrips (fun _ => True) ActionPath.encode ActionPath.decode ∧
      RoundTrips (fun _ => True) ActionExpr.encode ActionExpr.decode ∧
      RoundTrips (fun _ => True) Config.encode Config.decode ∧
      RoundTrips (fun _ => True) Finding.encode Finding.decode ∧
      RoundTrips Report.Sized Report.encode Report.decode :=
  ⟨.of_shuffled (fun l _ => l.fits_encode) fun l _ => l.decode_of_shuffled,
    .of_shuffled (fun x _ => x.fits_encode) fun x _ => x.decode_of_shuffled,
    .of_shuffled (fun p _ => p.fits_encode) fun p _ => p.decode_of_shuffled,
    .of_shuffled (fun e _ => e.fits_encode) fun e _ => e.decode_of_shuffled,
    .of_shuffled (fun c _ => c.fits_encode) fun c _ => c.decode_of_shuffled,
    .of_shuffled (fun f _ => f.fits_encode) fun f _ => f.decode_of_shuffled,
    .of_shuffled Report.fits_encode fun r _ => r.decode_of_shuffled⟩

/-- A report at the limit of its counter, with its fields and those of its finding reversed. -/
theorem data_roundTrips_of_reversedReport :
    let finding : Finding := ⟨"a.html", "b", none, "f(\x01\"", "E", "\\", "é"⟩
    let report : Report := ⟨18446744073709551615, 0, [finding]⟩
    let reversed : Json := .object [("findings", .array [.object [("hint", .string "é"),
      ("message", .string "\\"), ("code", .string "E"), ("action", .string "f(\x01\""),
      ("elementId", .null), ("tag", .string "b"), ("file", .string "a.html")]]),
      ("actionsChecked", .number 0), ("filesScanned", .number 18446744073709551615)]
    report.Sized ∧ Shuffled report.encode reversed ∧
      Json.decodeText Report.decode reversed.render = .ok report := by
  intro finding report reversed
  have hsized : report.Sized := by decide
  have hfinding : Shuffled finding.encode (.object [("hint", .string "é"),
      ("message", .string "\\"), ("code", .string "E"), ("action", .string "f(\x01\""),
      ("elementId", .null), ("tag", .string "b"), ("file", .string "a.html")]) :=
    .object (by rfl) (by exact Shuffled.forall₂_fields_refl _) (List.reverse_perm _)
  have hreversed : Shuffled report.encode reversed := by
    refine .object (by rfl) ?_ (List.reverse_perm _)
    exact .cons (.refl _) (.cons (.refl _) (.cons (.array (.cons hfinding .nil)) .nil))
  exact ⟨hsized, hreversed, data_roundTrips.2.2.2.2.2.2.decode_shuffled report hsized _ hreversed⟩

end MarkupActions
