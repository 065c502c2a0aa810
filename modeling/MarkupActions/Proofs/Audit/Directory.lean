import Mathlib.Algebra.Ring.Nat
import MarkupActions.Html.Parse
import MarkupActions.Proofs.Audit.Listing

/-! What an audit of a directory tells: of each markup file what the audit of its text tells, in the
order of the paths, and one line for each file that is no text. In what order the files are found,
and in what order the workers are done with them, makes no difference to the report. -/

namespace MarkupActions

@[simp] theorem Report.filesScanned_append (r r' : Report) :
    (r ++ r').filesScanned = r.filesScanned + r'.filesScanned := rfl

@[simp] theorem Report.actionsChecked_append (r r' : Report) :
    (r ++ r').actionsChecked = r.actionsChecked + r'.actionsChecked := rfl

@[simp] theorem Report.findings_append (r r' : Report) :
    (r ++ r').findings = r.findings ++ r'.findings := rfl

theorem Report.foldl_append (r : Report) (rs : List Report) :
    rs.foldl (· ++ ·) r = ⟨r.filesScanned + (rs.map (·.filesScanned)).sum,
      r.actionsChecked + (rs.map (·.actionsChecked)).sum, r.findings ++ rs.flatMap (·.findings)⟩ := by
  induction rs generalizing r with
  | nil => simp
  | cons r' rs ih =>
    rw [List.foldl_cons, ih]
    simp [Nat.add_assoc]

/-- Reports merged are the sums of their counts and their findings in order. -/
theorem Report.merge_eq (rs : List Report) :
    merge rs = ⟨(rs.map (·.filesScanned)).sum, (rs.map (·.actionsChecked)).sum,
      rs.flatMap (·.findings)⟩ := by
  rw [merge, foldl_append]
  simp

namespace Audit

open FileTree (FilePath)

variable {base : String} {c : Config} {known : Known} {bytes : List UInt8} {html : String}
  {scanned fs : List (FilePath × List UInt8)} {texts : List (FilePath × String)}
  {unreadable : List FilePath}

/-! ### Texts of files -/

/-- Files parted into those that are texts and those that are none. -/
inductive Reads : List (FilePath × List UInt8) → List (FilePath × String) → List FilePath → Prop
  | nil : Reads [] [] []
  | text {path html scanned texts unreadable} : Reads scanned texts unreadable →
      Reads ((path, Text.utf8 html) :: scanned) ((path, html) :: texts) unreadable
  | unreadable {path bytes scanned texts unreadable} : (∀ html, Text.utf8 html ≠ bytes) →
      Reads scanned texts unreadable → Reads ((path, bytes) :: scanned) texts (path :: unreadable)

/-- The text that bytes are read as is the one whose bytes they are. -/
theorem textOf?_eq_some_iff : textOf? bytes = some html ↔ Text.utf8 html = bytes := by
  have harray : (⟨bytes.toArray⟩ : ByteArray) = bytes.toByteArray := by
    rw [ByteArray.ext_iff, List.data_toByteArray]
  have hbytes : html.toByteArray = bytes.toByteArray ↔ Text.utf8 html = bytes := by
    rw [← List.toByteArray_inj, ← Text.toUTF8_eq]
    rfl
  rw [textOf?, harray, String.fromUTF8?, ← hbytes]
  constructor
  · intro htext
    split at htext
    · rw [← Option.some.inj htext]
      rfl
    · cases htext
  · intro heq
    rw [dif_pos (heq ▸ html.isValidUTF8), Option.some.injEq, ← String.toByteArray_inj]
    exact heq.symm

theorem exists_reads (scanned : List (FilePath × List UInt8)) :
    ∃ texts unreadable, Reads scanned texts unreadable := by
  induction scanned with
  | nil => exact ⟨[], [], .nil⟩
  | cons x scanned ih =>
    obtain ⟨path, bytes⟩ := x
    obtain ⟨texts, unreadable, hreads⟩ := ih
    by_cases htext : ∃ html, Text.utf8 html = bytes
    · obtain ⟨html, rfl⟩ := htext
      exact ⟨_, _, .text hreads⟩
    · exact ⟨_, _, .unreadable (not_exists.mp htext) hreads⟩

/-- The line about a file that is no text. -/
def warning (base : String) (path : FilePath) : Log.Line :=
  ⟨.warn, .audit, "[directive] skipping unreadable template " ++
    Text.quoted (writtenPath base path) ++ ": stream did not contain valid UTF-8"⟩

/-! ### Places -/

/-- The reports of workers put back in the order of the files, and their lines as these came. -/
def collect (results : List (Nat × (Report ⊕ Log.Line))) : Report × List Log.Line :=
  let inOrder := results.mergeSort fun a b => decide (a.1 ≤ b.1)
  (Report.merge ((inOrder.map (·.2)).filterMap Sum.getLeft?),
    (results.map (·.2)).filterMap Sum.getRight?)

/-- What has a place each is put back in the order of places. -/
theorem mergeSort_places {β : Type} {l l' : List (Nat × β)} (h : l'.Perm l)
    (hplaces : (l.map (·.1)).Pairwise (· < ·)) :
    l'.mergeSort (fun a b => decide (a.1 ≤ b.1)) = l := by
  have hsorted : l.mergeSort (fun a b => decide (a.1 ≤ b.1)) = l :=
    List.mergeSort_of_pairwise ((List.pairwise_map.mp hplaces).imp fun hab =>
      decide_eq_true (Nat.le_of_lt hab))
  have hnodup : (l.map (·.1)).Nodup := hplaces.imp Nat.ne_of_lt
  refine (mergeSort_eq_of_perm Prod.fst (fun a b => decide (a ≤ b)) (fun a b => ?_)
    (fun a b c => ?_) (fun a b => ?_) h ((h.map _).nodup_iff.mpr hnodup)).trans hsorted <;>
    simp only [Bool.or_eq_true, decide_eq_true_eq] <;> omega

/-! ### Accounts -/

section

variable [MarkupParser]

/-- What the audits of some texts tell, one after another, and a line for each other file. -/
def account (base : String) (c : Config) (known : Known) (texts : List (FilePath × String))
    (unreadable : List FilePath) : Report × List Log.Line :=
  let reports := texts.map fun x => markup x.2 (writtenPath base x.1) c known
  (⟨texts.length, (reports.map (·.actionsChecked)).sum, reports.flatMap (·.findings)⟩,
    unreadable.map (warning base))

/-- The audit of files that were parted tells what the audits of the texts tell. -/
theorem Reads.results (h : Reads scanned texts unreadable) (base : String) (c : Config)
    (known : Known) :
    let results := scanned.map fun x => file base c known x.1 x.2
    results.filterMap Sum.getLeft? =
        texts.map (fun x => markup x.2 (writtenPath base x.1) c known) ∧
      results.filterMap Sum.getRight? = unreadable.map (warning base) := by
  induction h with
  | nil => exact ⟨rfl, rfl⟩
  | @text path html scanned texts unreadable _ ih =>
    have hfile : file base c known path (Text.utf8 html) =
        .inl (markup html (writtenPath base path) c known) := by
      rw [file, textOf?_eq_some_iff.mpr rfl]
    simp only [List.map_cons, hfile, List.filterMap_cons, Sum.getLeft?_inl, Sum.getRight?_inl, ih,
      and_self]
  | @unreadable path bytes scanned texts unreadable hnone _ ih =>
    have hfile : file base c known path bytes = .inr (warning base path) := by
      have htext : textOf? bytes = none := by
        rw [Option.eq_none_iff_forall_ne_some]
        exact fun html hhtml => hnone html (textOf?_eq_some_iff.mp hhtml)
      rw [file, htext]
      rfl
    simp only [List.map_cons, hfile, List.filterMap_cons, Sum.getLeft?_inr, Sum.getRight?_inr, ih,
      and_self]

theorem filesScanned_markup (html name : String) (c : Config) (known : Known) :
    (markup html name c known).filesScanned = 1 := rfl

theorem Reads.files (h : Reads (markupFiles fs) texts unreadable) :
    files base c known fs = account base c known texts unreadable := by
  obtain ⟨hreports, hlines⟩ := h.results base c known
  have hfiles : Audit.files base c known fs = (Report.merge _, _) :=
    Prod.ext (congrArg Report.merge hreports) hlines
  rw [hfiles, Report.merge_eq, account]
  simp [Function.comp_def, filesScanned_markup]

/-! ### Workers -/

/-- What workers made of the markup files, each with the place of its file, in the order in which
they were done. -/
def WorkedOn (base : String) (c : Config) (known : Known) (fs : List (FilePath × List UInt8))
    (results : List (Nat × (Report ⊕ Log.Line))) : Prop :=
  results.Perm ((markupFiles fs).zipIdx.map fun x => (x.2, file base c known x.1.1 x.1.2))

/-- In what order the workers were done does not show in the report. -/
theorem WorkedOn.collect {results : List (Nat × (Report ⊕ Log.Line))}
    (h : WorkedOn base c known fs results) :
    (collect results).1 = (files base c known fs).1 ∧
      (collect results).2.Perm (files base c known fs).2 := by
  let placed := (markupFiles fs).zipIdx.map fun x => (x.2, file base c known x.1.1 x.1.2)
  have hplaces : placed.map (·.1) = List.range' 0 (markupFiles fs).length := by
    rw [List.map_map]
    exact List.zipIdx_map_snd 0 (markupFiles fs)
  have hvalues : placed.map (·.2) =
      (markupFiles fs).map fun x => file base c known x.1 x.2 := by
    have hfiles := congrArg (List.map fun x => file base c known x.1 x.2)
      (List.zipIdx_map_fst 0 (markupFiles fs))
    rw [List.map_map] at hfiles ⊢
    exact hfiles
  have hplaced : results.mergeSort (fun a b => decide (a.1 ≤ b.1)) = placed := by
    refine mergeSort_places h ?_
    rw [hplaces]
    exact List.pairwise_lt_range'
  rw [Audit.collect, hplaced, hvalues]
  refine ⟨rfl, ?_⟩
  have hlines := ((h.map (·.2)).filterMap Sum.getRight?)
  rwa [hvalues] at hlines

theorem files_eq_of_perm {fs' : List (FilePath × List UInt8)} (h : fs.Perm fs')
    (hpaths : (fs.map (·.1)).Nodup) : files base c known fs = files base c known fs' := by
  rw [files, files, markupFiles_eq_of_perm h hpaths]

/-- For every directory tree there is one list of its markup files, and the audit tells what the
audits of those that are texts tell, in that order. It does so for every listing of the files and
for every order in which workers are done with them. -/
theorem directory_exact {entries : List (String × FileTree)}
    (h : (FileTree.directory entries).WellFormed) (base : String) (c : Config) (known : Known) :
    let t := FileTree.directory entries
    let r := directory base (some t) c known
    (∃ scanned texts unreadable, Scans t scanned ∧ Reads scanned texts unreadable) ∧
    (∀ scanned texts unreadable, Scans t scanned → Reads scanned texts unreadable →
      r = account base c known texts unreadable) ∧
    (∀ fs, Lists t fs → files base c known fs = r) ∧
    ∀ fs results, Lists t fs → WorkedOn base c known fs results →
      (collect results).1 = r.1 ∧ (collect results).2.Perm r.2 := by
  intro t r
  have hlists : Lists t t.files := lists_files h
  have hfiles (fs) (hfs : Lists t fs) : files base c known fs = r :=
    files_eq_of_perm (hfs.perm hlists) (hfs.nodup_paths h)
  refine ⟨?_, ?_, hfiles, ?_⟩
  · obtain ⟨texts, unreadable, hreads⟩ := exists_reads (markupFiles t.files)
    exact ⟨_, texts, unreadable, hlists.scans h, hreads⟩
  · intro scanned texts unreadable hscans hreads
    rw [hscans.unique (hlists.scans h)] at hreads
    exact hreads.files
  · intro fs results hfs hresults
    rw [← hfiles fs hfs]
    exact hresults.collect

end

/-- A directory with another one in it, whose entries are in no order. -/
def templates : List (String × FileTree) :=
  [("b.htm", .file [0xFF]),
    ("a.html", .file (Text.utf8 "<p data-action='f('>x</p>")),
    ("a", .directory [("x.html", .file (Text.utf8 "<i data-action='g'>y</i>")),
      (".html", .file [0xFF])]),
    ("notes.txt", .file [])]

theorem utf8_ne_invalid (html : String) : Text.utf8 html ≠ [0xFF] := by
  rw [ne_eq, ← textOf?_eq_some_iff]
  have hnone : textOf? [0xFF] = none := by decide +kernel
  rw [hnone]
  nofun

/-- What is in the inner directory comes first, as its name does, though the dot of the other name
comes before a slash. -/
theorem directory_exact_of_templates :
    let r := directory "t" (some (.directory templates)) {} none
    r.1.filesScanned = 2 ∧ r.1.actionsChecked = 2 ∧
      r.1.findings.map (·.file) = ["t/a/x.html", "t/a.html"] ∧
      r.2 = [warning "t" ["b.htm"]] := by
  intro r
  have hformed : (FileTree.directory templates).WellFormed := by
    refine .directory (by decide) ?_
    simp only [templates, List.forall_mem_cons]
    refine ⟨.file _, .file _, .directory (by decide) ?_, .file _, nofun⟩
    simp only [List.forall_mem_cons]
    exact ⟨.file _, .file _, nofun⟩
  let scanned := [(["a", "x.html"], Text.utf8 "<i data-action='g'>y</i>"),
    (["a.html"], Text.utf8 "<p data-action='f('>x</p>"), (["b.htm"], [0xFF])]
  have hscans : Scans (.directory templates) scanned :=
    scans_of_perm hformed (by decide +kernel) (by decide +kernel)
  have hreads : Reads scanned _ _ := .text (.text (.unreadable utf8_ne_invalid .nil))
  obtain ⟨-, haccount, -⟩ := directory_exact hformed "t" {} none
  have heq : r = _ := haccount _ _ _ hscans hreads
  rw [heq]
  decide +kernel

end Audit

end MarkupActions
