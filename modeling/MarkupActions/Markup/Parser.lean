import MarkupActions.Markup.Node
import MarkupActions.Markup.Tree

/-! How markup is read. A page works with any parser, and what is shown of pages is shown for all. -/

namespace MarkupActions

/-- A way to read markup. Whatever the text, it gives a forest. -/
class MarkupParser where
  /-- The nodes of a page: the children of its document node. -/
  page (text : String) : List (Tree NodeKind)
  /-- The nodes that a text adds to an element, which is given by its vocabulary and its name. -/
  contents (v : Vocabulary) (name text : String) : List (Tree NodeKind)

end MarkupActions
