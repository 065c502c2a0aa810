import MarkupActions.Html.Builder

/-! Formatting elements: they are opened again after a block that closed them, and an end tag that
crosses a block splits them. -/

namespace MarkupActions.Html.Build

open Builder

/-- Whether two tags would open the same element, whatever the order of their attributes. -/
def sameTag (s t : Tag) : Bool :=
  let sorted := fun (u : Tag) =>
    (u.attributes.map fun a => (a.name, a.value)).mergeSort fun x y =>
      x.1 < y.1 || (x.1 = y.1 && x.2 ≤ y.2)
  s.name = t.name && sorted s == sorted t

/-- Opens again, in order, the formatting elements that are no longer open. -/
def reconstruct : Build Unit := do
  let b ← get
  let closed := b.recent.takeWhile fun (_, n, _) => !b.opened.contains n
  for (i, _, t) in closed.reverse do
    let n ← insertElement .html t.name t.attributes
    modify fun b => { b with formatting := b.formatting.setIfInBounds i (.element n t) }

/-- Opens a formatting element. Of four alike since the last marker the oldest is forgotten. -/
def insertFormatting (t : Tag) : Build Unit := do
  let alike := (← get).recent.filter fun (_, _, s) => sameTag s t
  if 3 ≤ alike.length then
    match alike.getLast? with
    | some (i, _, _) => modify fun b => { b with formatting := b.formatting.eraseIdxIfInBounds i }
    | none => pure ()
  let n ← insertElement .html t.name t.attributes
  modify fun b => { b with formatting := b.formatting.push (.element n t) }

def forgetFormatting (n : Nat) : Build Unit := modify fun b =>
  match b.formattingIndex? n with
  | some i => { b with formatting := b.formatting.eraseIdxIfInBounds i }
  | none => b

/-- An end tag without rules of its own closes the innermost element of its name, unless a special
element is in the way. -/
def closeOther (name : String) : Build Unit := do
  let b ← get
  let found := b.opened.toList.reverse.find? fun n =>
    isNamed name (b.element n) || isSpecial (b.element n)
  match found with
  | some n =>
    if isNamed name (b.element n) then
      modify fun b => { b with opened := b.opened.popWhile (· ≠ n) }
      pop
  | none => pure ()

/-- Where the clone of a formatting element goes in the list of formatting elements. -/
inductive Bookmark where
  | replacing (n : Nat)
  | after (n : Nat)

/-- The walk from a block up to the formatting element that is split: `below` is what hangs from the
clones made so far, and `count` how many elements the walk has met. Elements that are no longer
formatting, or further than three away, are dropped from the open ones. -/
def climb (block formattingNode : Nat) :
    Nat → Nat → Nat → Bookmark → Build (Nat × Bookmark)
  | 0, _, below, mark => return (below, mark)
  | index + 1, count, below, mark => do
    let b ← get
    let n := b.opened[index]?.getD rootNode
    if n = formattingNode then return (below, mark)
    let drop : Build Unit := modify fun b => { b with opened := b.opened.eraseIdxIfInBounds index }
    match b.formattingIndex? n with
    | none => drop; climb block formattingNode index (count + 1) below mark
    | some i =>
      if 3 ≤ count then
        forgetFormatting n
        drop
        climb block formattingNode index (count + 1) below mark
      else
        match b.formatting[i]? with
        | some (.element _ t) =>
          let clone ← createElement .html t.name t.attributes
          modify fun b => { b with
            opened := b.opened.setIfInBounds index clone
            formatting := b.formatting.setIfInBounds i (.element clone t) }
          let mark := if below = block then .after clone else mark
          place below (.below clone)
          climb block formattingNode index (count + 1) clone mark
        | _ => return (below, mark)

/-- Splits the formatting element that an end tag closes where it reaches into a block, as often as
the first argument says. -/
def adopt (name : String) : Nat → Build Unit
  | 0 => pure ()
  | n + 1 => do
    let b ← get
    match b.recent.find? fun (_, _, t) => t.name = name with
    | none => closeOther name
    | some (i, node, tag) =>
      match b.opened.toList.findIdx? (· = node) with
      | none => modify fun b => { b with formatting := b.formatting.eraseIdxIfInBounds i }
      | some position =>
        if !b.nodeInScope isScope node then pure ()
        else
          let inner := (b.opened.toList.drop position).findIdx? fun m => isSpecial (b.element m)
          match inner with
          | none =>
            modify fun b => { b with
              opened := b.opened.take position
              formatting := b.formatting.eraseIdxIfInBounds i }
          | some offset =>
            let blockIndex := position + offset
            let block := b.opened[blockIndex]?.getD rootNode
            let outer := b.opened[position - 1]?.getD rootNode
            let (below, mark) ← climb block node blockIndex 0 block (.replacing node)
            placeIn outer below
            let clone ← createElement .html tag.name tag.attributes
            modify fun b => { b with arena := b.arena.moveChildren block clone }
            place clone (.below block)
            modify fun b =>
              let entry := Formatting.element clone tag
              { b with formatting := match mark with
                | .replacing m => match b.formattingIndex? m with
                  | some k => b.formatting.setIfInBounds k entry
                  | none => b.formatting
                | .after m => match b.formattingIndex? m with
                  | some k =>
                    let (before, behind) := b.formatting.toList.splitAt (k + 1)
                    (before ++ entry :: behind).toArray
                  | none => b.formatting }
            match mark with
            | .after _ => forgetFormatting node
            | .replacing _ => pure ()
            removeOpen node
            modify fun b => { b with opened := b.opened.flatMap fun m =>
              if m = block then #[m, clone] else #[m] }
            adopt name n

/-- The end tag of a formatting element. -/
def closeFormatting (name : String) : Build Unit := do
  let b ← get
  if isNamed name b.currentElement && (b.formattingIndex? b.current).isNone then pop
  else adopt name 8

end MarkupActions.Html.Build
