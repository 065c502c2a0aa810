import MarkupActions.Audit.Markup
import MarkupActions.Log.Basic
import MarkupActions.Text.Quoted

/-! Checking the markup files below a directory. A directory is a finite tree: a name in it is
Unicode text, so a file whose name is other bytes is not covered, and neither is one that cannot be
opened. What a link leads to stands in its place. -/

namespace MarkupActions

/-- What a name in a directory stands for: a file with its bytes, or a directory with its entries. -/
inductive FileTree where
  | file (bytes : List UInt8)
  | directory (entries : List (String × FileTree))
  deriving Inhabited

namespace FileTree

/-- A file below a directory, by the names on the way to it. -/
abbrev FilePath := List String

mutual

/-- All files at and below a node, with the names on the way to each. -/
def files : FileTree → List (FilePath × List UInt8)
  | file bytes => [([], bytes)]
  | directory entries => entryFiles entries

def entryFiles : List (String × FileTree) → List (FilePath × List UInt8)
  | [] => []
  | (name, t) :: rest => t.files.map (fun (path, bytes) => (name :: path, bytes)) ++ entryFiles rest

end

/-- Where a list of names leads from a node, with the directories around it, the innermost first. An
empty name and a dot stay, two dots go back, and nothing leads on from a file. -/
def follow? : List FileTree → FileTree → List String → Option FileTree
  | _, t, [] => some t
  | _, file _, _ :: _ => none
  | around, directory entries, name :: names =>
    if name = "" || name = "." then follow? around (directory entries) names
    else if name = ".." then
      match around with
      | t :: around => follow? around t names
      | [] => none
    else
      match entries.lookup name with
      | some t => follow? (directory entries :: around) t names
      | none => none

/-- The names between the slashes of a written path. -/
def splitPath (path : String) : List String := (Text.splitOn '/' path.toList).map String.ofList

/-- What a written path leads to. -/
def at? (t : FileTree) (path : String) : Option FileTree := follow? [] t (splitPath path)

/-- Puts a node where a list of names leads to. Directories on the way are made, and a directory put
in place of a directory changes nothing. -/
def put (t : FileTree) : FilePath → FileTree → FileTree
  | [], old =>
    match t, old with
    | directory _, directory _ => old
    | _, _ => t
  | name :: rest, old =>
    let entries := match old with
      | file _ => []
      | directory entries => entries
    let inner := t.put rest ((entries.lookup name).getD (directory []))
    if entries.any (·.1 = name) then
      directory (entries.map fun e => if e.1 = name then (name, inner) else e)
    else directory (entries ++ [(name, inner)])

/-- The names that a written path comes to. A dot names nothing and two dots take back the name
before. -/
def namesOf (path : String) : FilePath :=
  (splitPath path).foldl (fun names s =>
    if s = "" || s = "." then names
    else if s = ".." then names.dropLast
    else names ++ [s]) []

end FileTree

namespace Audit

open FileTree (FilePath)

variable [MarkupParser]

/-- Whether a file name ends in `.html` or `.htm` after at least one character. -/
def isMarkupName (name : String) : Bool :=
  match (Text.splitOn '.' name.toList).reverse with
  | ending :: stem@(_ :: _) =>
    (ending = "html".toList || ending = "htm".toList) && stem ≠ [[]]
  | _ => false

/-- Order of paths: name by name, each by its characters. -/
def pathLe (a b : FilePath) : Bool := ¬ b < a

/-- The text of a file, if its bytes are well-formed UTF-8. -/
def textOf? (bytes : List UInt8) : Option String := String.fromUTF8? ⟨bytes.toArray⟩

/-- The path as it is written in findings: names below `base`, which is written as given. -/
def writtenPath (base : String) (path : FilePath) : String :=
  let rest := "/".intercalate path
  if path = [] then base
  else if base = "" || base.toList.getLast? = some '/' then base ++ rest
  else base ++ "/" ++ rest

/-- The markup files among some files, in the order of their paths. -/
def markupFiles (files : List (FilePath × List UInt8)) : List (FilePath × List UInt8) :=
  (files.filter fun (path, _) => (path.getLast?).any isMarkupName).mergeSort fun a b =>
    pathLe a.1 b.1

/-- What a file gives: a report, or a line about why there is none. -/
def file (base : String) (c : Config) (known : Known) (path : FilePath) (bytes : List UInt8) :
    Report ⊕ Log.Line :=
  let name := writtenPath base path
  match textOf? bytes with
  | some html => .inl (markup html name c known)
  | none => .inr ⟨.warn, .audit, "[directive] skipping unreadable template " ++
      Text.quoted name ++ ": stream did not contain valid UTF-8"⟩

/-- Checks the markup files among some files. -/
def files (base : String) (c : Config) (known : Known) (fs : List (FilePath × List UInt8)) :
    Report × List Log.Line :=
  let results := (markupFiles fs).map fun (path, bytes) => file base c known path bytes
  (Report.merge (results.filterMap Sum.getLeft?), results.filterMap Sum.getRight?)

/-- Checks the markup files at and below a node of a file tree. The name of the node itself counts as
the last name of `base`. -/
def directory (base : String) (t : Option FileTree) (c : Config) (known : Known) :
    Report × List Log.Line :=
  match t with
  | none => ({}, [])
  | some (.file bytes) =>
    match (Text.splitOn '/' base.toList).getLast? with
    | some name =>
      if isMarkupName (String.ofList name) then
        match file base c known [] bytes with
        | .inl r => (r, [])
        | .inr l => ({}, [l])
      else ({}, [])
    | none => ({}, [])
  | some t => files base c known t.files

end Audit

end MarkupActions
