import MarkupActions.Text.Category

/-! Characters that cannot be seen, or not for themselves. -/

namespace MarkupActions.Text

/-- Letters and marks that extend the character before them, beside the marks that take no room. -/
def extending : List Run := Run.ofTable
  ["9be,9d7,b3e,b57,bbe,bd7,cc0,cc2,cc7-cc8,cca-ccb,cd5-cd6,d3e,d57,dcf,ddf,1715,1734,1b35,1b3b",
   "1b3d,1b43-1b44,1baa,1bf2-1bf3,200c,302e-302f,a953,a9c0,ff9e-ff9f,111c0,11235,1133e,1134d",
   "11357,113b8,113c2,113c5,113c7-113c9,113cf,114b0,114bd,115af,116b6,11930,1193d,11f41",
   "16ff0-16ff1,1d165-1d166,1d16d-1d172,e0020-e007f"]

/-- Letters that fill a place and may be ignored. -/
def fillers : List Run := Run.ofTable ["115f-1160,3164,ffa0"]

/-- Whether a character has no shape of its own: controls, format characters, separators other than
the space, codes without a public meaning, and what extends the character before it. -/
def isUnseen (c : Char) : Bool :=
  if c.toNat < 0x7F then c.toNat < 0x20
  else match Category.ofChar c with
    | .control | .format | .privateUse | .unassigned | .space | .lineSeparator
    | .paragraphSeparator | .nonspacingMark | .enclosingMark => true
    | _ => isIn extending c || isIn fillers c

end MarkupActions.Text
