import Mathlib.Data.List.Sort
import MarkupActions.Audit.Directory
import MarkupActions.Proofs.Text.Trim
import MarkupActions.Proofs.Text.Utf8

/-! The files of a directory tree and the markup files among them. Where no directory has two entries
of one name, no two files have one path, so there is one order of the files by their paths, whatever
order they are found in. -/

namespace MarkupActions

namespace FileTree

variable {t : FileTree} {path : FilePath} {bytes : List UInt8} {entries : List (String × FileTree)}

/-- The names on the way to a file. -/
inductive HasFile : FileTree → FilePath → List UInt8 → Prop
  | here {bytes : List UInt8} : HasFile (file bytes) [] bytes
  | inside {entries : List (String × FileTree)} {name : String} {t : FileTree} {path : FilePath}
      {bytes : List UInt8} : (name, t) ∈ entries → HasFile t path bytes →
        HasFile (directory entries) (name :: path) bytes

/-- A tree in which no directory has two entries of one name. -/
inductive WellFormed : FileTree → Prop
  | file (bytes : List UInt8) : WellFormed (file bytes)
  | directory {entries : List (String × FileTree)} : (entries.map (·.1)).Nodup →
      (∀ e ∈ entries, WellFormed e.2) → WellFormed (directory entries)

theorem entryFiles_eq (entries : List (String × FileTree)) :
    entryFiles entries = entries.flatMap fun e => e.2.files.map fun x => (e.1 :: x.1, x.2) := by
  induction entries with
  | nil => rfl
  | cons e entries ih =>
    obtain ⟨name, t⟩ := e
    rw [entryFiles, ih, List.flatMap_cons]

theorem mem_files_directory_iff :
    (path, bytes) ∈ (directory entries).files ↔
      ∃ e ∈ entries, ∃ rest, (rest, bytes) ∈ e.2.files ∧ e.1 :: rest = path := by
  rw [files, entryFiles_eq, List.mem_flatMap]
  simp

/-- The files that are listed are those that are there. -/
theorem WellFormed.mem_files_iff (h : t.WellFormed) :
    (path, bytes) ∈ t.files ↔ t.HasFile path bytes := by
  induction h generalizing path with
  | file content =>
    rw [files, List.mem_singleton, Prod.mk.injEq]
    constructor
    · rintro ⟨rfl, rfl⟩
      exact .here
    · rintro ⟨⟩
      exact ⟨rfl, rfl⟩
  | directory _ _ ih =>
    rw [mem_files_directory_iff]
    constructor
    · rintro ⟨e, he, rest, hrest, rfl⟩
      exact .inside he ((ih e he).mp hrest)
    · rintro (_ | ⟨he, hrest⟩)
      exact ⟨_, he, _, (ih _ he).mpr hrest, rfl⟩

theorem WellFormed.nodup_files (h : t.WellFormed) : (t.files.map (·.1)).Nodup := by
  induction h with
  | file bytes => exact List.nodup_singleton []
  | @directory entries hnames _ ih =>
    have hpaths : (FileTree.directory entries).files.map (·.1) =
        entries.flatMap fun e => (e.2.files.map (·.1)).map (e.1 :: ·) := by
      rw [files, entryFiles_eq, List.map_flatMap]
      simp only [List.map_map]
      rfl
    rw [hpaths, List.nodup_flatMap]
    refine ⟨fun e he => (ih e he).map (List.cons_injective), ?_⟩
    refine (List.pairwise_map.mp hnames).imp fun hne path hpath hpath' => ?_
    obtain ⟨rest, -, rfl⟩ := List.mem_map.mp hpath
    obtain ⟨rest', -, heq⟩ := List.mem_map.mp hpath'
    exact hne (List.cons.inj heq).1.symm

end FileTree

/-! ### Names of markup files -/

namespace Text

/-- The part behind the last separator comes last. -/
theorem splitOn_append_sep {sep : Char} (a : List Char) {e : List Char} (he : sep ∉ e) :
    splitOn sep (a ++ sep :: e) = splitOn sep a ++ [e] := by
  rw [splitOn_append, splitOn_of_not_mem he]

end Text

namespace Audit

open FileTree (FilePath)

/-- A name with one of the two endings behind something else. -/
def EndsAsMarkup (name : String) : Prop :=
  ∃ stem, stem ≠ "" ∧ (name = stem ++ ".html" ∨ name = stem ++ ".htm")

theorem isMarkupName_of_cut {name : String} {a e : List Char} (h : name.toList = a ++ '.' :: e)
    (he : '.' ∉ e) :
    isMarkupName name = true ↔ (e = "html".toList ∨ e = "htm".toList) ∧ a ≠ [] := by
  have hempty : Text.splitOn '.' a = [[]] ↔ a = [] := by
    refine ⟨fun hsplit => ?_, fun ha => by rw [ha, Text.splitOn_nil]⟩
    have hjoin : ['.'].intercalate (a.splitOn '.') = a := List.intercalate_splitOn '.'
    rw [← Text.splitOn_eq, hsplit] at hjoin
    exact hjoin.symm
  obtain ⟨p, ps, hparts⟩ : ∃ p ps, (Text.splitOn '.' a).reverse = p :: ps :=
    List.exists_cons_of_ne_nil (by simpa using Text.splitOn_ne_nil '.' a)
  have hstem : p :: ps ≠ [[]] ↔ a ≠ [] := by
    rw [← hparts, ne_eq, List.reverse_eq_iff, List.reverse_singleton, hempty]
  rw [isMarkupName, h, Text.splitOn_append_sep a he, List.reverse_append, hparts]
  simp only [List.reverse_singleton, List.singleton_append, Bool.and_eq_true, Bool.or_eq_true,
    decide_eq_true_eq, hstem]

theorem isMarkupName_iff {name : String} : isMarkupName name = true ↔ EndsAsMarkup name := by
  constructor
  · intro hname
    by_cases hdot : '.' ∈ name.toList
    · -- the name is cut at its last dot
      obtain ⟨e, a, hcut, he⟩ := List.eq_append_cons_of_mem (List.mem_reverse.mpr hdot)
      have hcut' : name.toList = a.reverse ++ '.' :: e.reverse := by
        rw [← List.reverse_reverse name.toList, hcut]
        simp
      obtain ⟨hending, ha⟩ := (isMarkupName_of_cut hcut' (by simpa using he)).mp hname
      refine ⟨String.ofList a.reverse, by simpa [← String.toList_inj] using ha, ?_⟩
      refine hending.imp (fun hend => ?_) fun hend => ?_ <;>
        simp [← String.toList_inj, hcut', hend]
    · rw [isMarkupName, Text.splitOn_of_not_mem hdot] at hname
      cases hname
  · rintro ⟨stem, hstem, rfl | rfl⟩
    · exact (isMarkupName_of_cut String.toList_append (by decide)).mpr
        ⟨.inl rfl, by simpa using hstem⟩
    · exact (isMarkupName_of_cut String.toList_append (by decide)).mpr
        ⟨.inr rfl, by simpa using hstem⟩

/-! ### Order of paths -/

theorem pathLe_iff {a b : FilePath} : pathLe a b = true ↔ ¬ b < a := by
  rw [pathLe, decide_eq_true_eq]

theorem pathLe_total (a b : FilePath) : (pathLe a b || pathLe b a) = true := by
  rw [Bool.or_eq_true, pathLe_iff, pathLe_iff, ← not_and_or]
  exact fun h => List.lt_asymm h.1 h.2

theorem pathLe_trans {a b c : FilePath} (hab : pathLe a b = true) (hbc : pathLe b c = true) :
    pathLe a c = true := by
  rw [pathLe_iff, List.not_lt] at hab hbc ⊢
  exact List.le_trans hab hbc

theorem pathLe_antisymm {a b : FilePath} (hab : pathLe a b = true) (hba : pathLe b a = true) :
    a = b := by
  rw [pathLe_iff, List.not_lt] at hab hba
  exact List.le_antisymm hab hba

theorem lt_of_pathLe {a b : FilePath} (hab : pathLe a b = true) (hne : a ≠ b) : a < b := by
  by_contra hlt
  exact hne (pathLe_antisymm hab (pathLe_iff.mpr hlt))

section Sorting

variable {α κ : Type} (key : α → κ) (le : κ → κ → Bool)
  (htotal : ∀ a b, (le a b || le b a) = true)
  (htrans : ∀ a b c, le a b = true → le b c = true → le a c = true)
include htotal htrans

theorem pairwise_mergeSort_key (l : List α) :
    (l.mergeSort fun a b => le (key a) (key b)).Pairwise fun a b => le (key a) (key b) = true :=
  List.pairwise_mergeSort (fun a b c => htrans (key a) (key b) (key c))
    (fun a b => htotal (key a) (key b)) l

/-- Sorting by keys that are not shared gives one list, whatever order the entries come in. -/
theorem mergeSort_eq_of_perm (hantisymm : ∀ a b, le a b = true → le b a = true → a = b)
    {l l' : List α} (h : l.Perm l') (hkey : (l.map key).Nodup) :
    (l.mergeSort fun a b => le (key a) (key b)) = l'.mergeSort fun a b => le (key a) (key b) := by
  have hsorted := pairwise_mergeSort_key key le htotal htrans
  refine List.Perm.eq_of_pairwise (fun a b ha hb hab hba => ?_) (hsorted l) (hsorted l')
    ((List.mergeSort_perm l _).trans (h.trans (List.mergeSort_perm l' _).symm))
  have hb' : b ∈ l := h.mem_iff.mpr (List.mem_mergeSort.mp hb)
  exact List.inj_on_of_nodup_map hkey (List.mem_mergeSort.mp ha) hb' (hantisymm _ _ hab hba)

end Sorting

/-! ### The files that are scanned -/

/-- The markup files of a tree, in the order of their paths: name by name, each by its bytes. -/
structure Scans (t : FileTree) (scanned : List (FilePath × List UInt8)) : Prop where
  mem : ∀ path bytes, (path, bytes) ∈ scanned ↔
    t.HasFile path bytes ∧ ∃ name, path.getLast? = some name ∧ EndsAsMarkup name
  increasing : scanned.Pairwise fun a b => a.1.map Text.utf8 < b.1.map Text.utf8

/-- The files of a tree, each once, in any order. -/
structure Lists (t : FileTree) (fs : List (FilePath × List UInt8)) : Prop where
  mem : ∀ path bytes, (path, bytes) ∈ fs ↔ t.HasFile path bytes
  nodup : fs.Nodup

variable {t : FileTree} {fs fs' : List (FilePath × List UInt8)}

theorem lists_files (h : t.WellFormed) : Lists t t.files where
  mem := fun _ _ => h.mem_files_iff
  nodup := h.nodup_files.of_map _

theorem Lists.perm (h : Lists t fs) (h' : Lists t fs') : fs.Perm fs' :=
  (List.perm_ext_iff_of_nodup h.nodup h'.nodup).mpr fun x => (h.mem x.1 x.2).trans
    (h'.mem x.1 x.2).symm

/-- No two files have one path. -/
theorem Lists.nodup_paths (h : Lists t fs) (ht : t.WellFormed) : (fs.map (·.1)).Nodup :=
  ((h.perm (lists_files ht)).map _).nodup_iff.mpr ht.nodup_files

theorem nodup_paths_filter (h : (fs.map (·.1)).Nodup) (p : FilePath × List UInt8 → Bool) :
    ((fs.filter p).map (·.1)).Nodup :=
  h.sublist (List.filter_sublist.map _)

/-- A file below a directory whose own name is one of a markup file. -/
def isMarkupFile (x : FilePath × List UInt8) : Bool := x.1.getLast?.any isMarkupName

theorem scans_of_perm (ht : t.WellFormed) {scanned : List (FilePath × List UInt8)}
    (h : scanned.Perm (t.files.filter isMarkupFile))
    (hincreasing : scanned.Pairwise fun a b => a.1.map Text.utf8 < b.1.map Text.utf8) :
    Scans t scanned where
  mem := fun path bytes => by
    rw [h.mem_iff, List.mem_filter, ht.mem_files_iff, isMarkupFile, Option.any_eq_true]
    simp only [isMarkupName_iff]
  increasing := hincreasing

theorem Lists.scans (h : Lists t fs) (ht : t.WellFormed) : Scans t (markupFiles fs) := by
  have hnodup : ((markupFiles fs).map (·.1)).Nodup :=
    ((List.mergeSort_perm _ _).map _).nodup_iff.mpr (nodup_paths_filter (h.nodup_paths ht) _)
  have hsorted : (markupFiles fs).Pairwise fun a b => pathLe a.1 b.1 = true :=
    pairwise_mergeSort_key Prod.fst pathLe pathLe_total (fun _ _ _ => pathLe_trans) _
  refine scans_of_perm ht ((List.mergeSort_perm _ _).trans ((h.perm (lists_files ht)).filter _)) ?_
  refine (hsorted.and (List.pairwise_map.mp hnodup)).imp fun hab => ?_
  exact Text.map_utf8_lt_iff.mpr (lt_of_pathLe hab.1 hab.2)

/-- There is one such list. -/
theorem Scans.unique {scanned scanned' : List (FilePath × List UInt8)} (h : Scans t scanned)
    (h' : Scans t scanned') : scanned = scanned' := by
  have hnodup {l : List (FilePath × List UInt8)} (hl : Scans t l) : l.Nodup := by
    refine hl.increasing.imp fun hab => ?_
    rintro rfl
    exact List.lt_irrefl _ hab
  have hperm : scanned.Perm scanned' := by
    refine (List.perm_ext_iff_of_nodup (hnodup h) (hnodup h')).mpr fun x => ?_
    rw [h.mem x.1 x.2, h'.mem x.1 x.2]
  exact List.Perm.eq_of_pairwise (fun a b _ _ hab hba => absurd hba (List.lt_asymm hab))
    h.increasing h'.increasing hperm

/-- It does not matter in what order the files are found. -/
theorem markupFiles_eq_of_perm (h : fs.Perm fs') (hpaths : (fs.map (·.1)).Nodup) :
    markupFiles fs = markupFiles fs' :=
  mergeSort_eq_of_perm Prod.fst pathLe pathLe_total (fun _ _ _ => pathLe_trans)
    (fun _ _ => pathLe_antisymm) (h.filter _) (nodup_paths_filter hpaths _)

end Audit

end MarkupActions
