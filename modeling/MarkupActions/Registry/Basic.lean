import Std.Data.TreeSet
import MarkupActions.Json.Basic
import MarkupActions.Text.Blank

/-! The namespace tree that action paths are looked up in. A segment is bound to a function, to a
namespace of further segments, or to a plain value; nothing lies below a function or a value. Plain
values are data values whose numbers are whole. No path leads to what a value holds, so which
values there are makes no difference to any lookup. -/

namespace MarkupActions

mutual

/-- What a path segment is bound to. -/
inductive Binding (φ : Type) where
  | function (f : φ)
  | scope (members : Namespace φ)
  | value (v : Json)

/-- Names with their bindings, each name once, in the order in which they were first bound. -/
inductive Namespace (φ : Type) where
  | nil
  | cons (name : String) (binding : Binding φ) (rest : Namespace φ)

end

/-- Why a path cannot be bound. -/
inductive RegistryError where
  | emptyPath
  | pathConflict (path segment : String)
  deriving DecidableEq, Repr

namespace RegistryError

def kind : RegistryError → String
  | emptyPath => "EmptyPath"
  | pathConflict _ _ => "PathConflict"

def message : RegistryError → String
  | emptyPath => "cannot register an empty path"
  | pathConflict path segment =>
    "'" ++ segment ++ "' in '" ++ path ++ "' is already bound to a non-namespace value"

end RegistryError

namespace Namespace

variable {φ : Type}

instance : Inhabited (Namespace φ) := ⟨nil⟩

def get? (name : String) : Namespace φ → Option (Binding φ)
  | nil => none
  | cons n b rest => if n = name then some b else rest.get? name

/-- Binds a name, in place of what it was bound to before. -/
def insert (name : String) (binding : Binding φ) : Namespace φ → Namespace φ
  | nil => cons name binding nil
  | cons n b rest => if n = name then cons n binding rest else cons n b (rest.insert name binding)

/-- Binds a leaf at the end of a list of segments. Namespaces that are missing on the way are made,
also when the walk then fails. -/
def bind (path : String) (leaf : Binding φ) :
    List String → Namespace φ → Except RegistryError Unit × Namespace φ
  | [], ns => (.error .emptyPath, ns)
  | [name], ns => (.ok (), ns.insert name leaf)
  | name :: rest, ns =>
    match ns.get? name with
    | none =>
      let (result, inner) := bind path leaf rest nil
      (result, ns.insert name (.scope inner))
    | some (.scope inner) =>
      let (result, inner) := bind path leaf rest inner
      (result, ns.insert name (.scope inner))
    | some _ => (.error (.pathConflict path name), ns)

/-- What a list of segments is bound to. Only namespaces are walked through. -/
def lookup : List String → Namespace φ → Option (Binding φ)
  | [], _ => none
  | [name], ns => ns.get? name
  | name :: rest, ns =>
    match ns.get? name with
    | some (.scope inner) => inner.lookup rest
    | _ => none

/-- A name below a path. The empty path is the root. -/
def extend (path name : String) : String := if path = "" then name else path ++ "." ++ name

end Namespace

mutual

/-- The dotted paths of the functions at or below a binding that stands at `path`. -/
def Binding.callables {φ : Type} (path : String) : Binding φ → List String
  | .function _ => [path]
  | .scope members => members.callables path
  | .value _ => []

/-- The dotted paths of the functions below a namespace that stands at `path`. -/
def Namespace.callables {φ : Type} (path : String) : Namespace φ → List String
  | .nil => []
  | .cons name b rest => b.callables (Namespace.extend path name) ++ rest.callables path

end

/-- The registered targets, below a root namespace. -/
structure Registry (φ : Type) where
  root : Namespace φ := .nil

namespace Registry

variable {φ : Type}

/-- The segments of a dotted path; empty ones are dropped and blanks are kept. -/
def segments (path : String) : List String :=
  ((Text.splitOn '.' path.toList).filter (· ≠ [])).map String.ofList

def bind (r : Registry φ) (path : String) (leaf : Binding φ) :
    Except RegistryError Unit × Registry φ :=
  let (result, root) := r.root.bind path leaf (segments path)
  (result, ⟨root⟩)

/-- Registers a function under a dotted path. A leaf that is there already is replaced. -/
def register (r : Registry φ) (path : String) (f : φ) : Except RegistryError Unit × Registry φ :=
  r.bind path (.function f)

/-- Binds a plain value, which can be named but not called. -/
def defineValue (r : Registry φ) (path : String) (v : Json) :
    Except RegistryError Unit × Registry φ :=
  r.bind path (.value v)

def lookup (r : Registry φ) (path : List String) : Option (Binding φ) := r.root.lookup path

/-- The dotted paths of all functions. -/
def callablePaths (r : Registry φ) : Std.TreeSet String := .ofList (r.root.callables "")

end Registry

end MarkupActions
