/-! What a node of a document is. -/

namespace MarkupActions

/-- The vocabulary that an element's name belongs to. -/
inductive Vocabulary where
  | html | svg | mathml
  deriving DecidableEq, Repr

/-- An attribute under its local name, which is what follows a prefix such as `xlink:`. -/
structure Attribute where
  name : String
  value : String
  deriving DecidableEq, Repr

structure Element where
  vocabulary : Vocabulary
  name : String
  attributes : List Attribute
  deriving DecidableEq, Repr

/-- The value of the first attribute with a name. -/
def Element.attribute? (e : Element) (name : String) : Option String :=
  (e.attributes.find? (·.name = name)).map (·.value)

inductive NodeKind where
  | document
  | doctype
  | element (e : Element)
  | text (s : String)
  | comment (s : String)
  deriving DecidableEq, Repr

namespace NodeKind

def element? : NodeKind → Option Element
  | element e => some e
  | _ => none

def isElement (k : NodeKind) : Bool := k.element?.isSome

/-- The value of an attribute; only elements have any. -/
def attribute? (k : NodeKind) (name : String) : Option String :=
  k.element?.bind (·.attribute? name)

def tagName? (k : NodeKind) : Option String := k.element?.map (·.name)

/-- The text that a node itself holds. -/
def ownText : NodeKind → String
  | text s => s
  | _ => ""

/-- An anchor to a fragment of the same page. -/
def isFragmentLink (k : NodeKind) : Bool :=
  k.tagName? = some "a" && (k.attribute? "href").any fun href => href.toList.head? = some '#'

end NodeKind

end MarkupActions
