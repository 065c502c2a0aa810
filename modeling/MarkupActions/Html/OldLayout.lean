import MarkupActions.Html.Token

/-! Doctypes that ask for the old layout: those of documents written before layouts were agreed on,
told by their identifiers. Letters are compared without case. -/

namespace MarkupActions.Html.OldLayout

/-- The owners of public identifiers, each with the names of its old document types. A public
identifier is old if it starts with an owner and such a name. -/
def documentTypes : List (String × List String) :=
  [("+//silmaril//dtd ", ["html pro v0r11 19970101//"]),
   ("-//advasoft ltd//dtd ", ["html 3.0 aswedit + extensions//"]),
   ("-//as//dtd ", ["html 3.0 aswedit + extensions//"]),
   ("-//ietf//dtd html",
    ["//", " 2.0 level 1//", " 2.0 level 2//", " 2.0 strict level 1//", " 2.0 strict level 2//",
     " 2.0 strict//", " 2.0//", " 2.1e//", " 3.0//", " 3.2 final//", " 3.2//", " 3//",
     " level 0//", " level 1//", " level 2//", " level 3//", " strict level 0//",
     " strict level 1//", " strict level 2//", " strict level 3//", " strict//"]),
   ("-//metrius//dtd ", ["metrius presentational//"]),
   ("-//microsoft//dtd internet explorer ",
    ["2.0 html strict//", "2.0 html//", "2.0 tables//", "3.0 html strict//", "3.0 html//",
     "3.0 tables//"]),
   ("-//netscape comm. corp.//dtd ", ["html//", "strict html//"]),
   ("-//o'reilly and associates//dtd html ",
    ["2.0//", "extended 1.0//", "extended relaxed 1.0//"]),
   ("-//softquad software//dtd ", ["hotmetal pro 6.0::19990601::extensions to html 4.0//"]),
   ("-//softquad//dtd ", ["hotmetal pro 4.0::19971010::extensions to html 4.0//"]),
   ("-//spyglass//dtd ", ["html 2.0 extended//"]),
   ("-//sq//dtd ", ["html 2.0 hotmetal + extensions//"]),
   ("-//sun microsystems corp.//dtd hotjava ", ["html//", "strict html//"]),
   ("-//w3c//dtd ",
    ["html 3 1995-03-24//", "html 3.2 draft//", "html 3.2 final//", "html 3.2//",
     "html 3.2s draft//", "html 4.0 frameset//", "html 4.0 transitional//",
     "html experimental 19960712//", "html experimental 970421//", "w3 html//"]),
   ("-//w3o//dtd ", ["w3 html 3.0//"]),
   ("-//webtechs//dtd ", ["mozilla html 2.0//", "mozilla html//"])]

/-- Beginnings of public identifiers that are old only without a system identifier. -/
def bareDocumentTypes : List String :=
  ["-//w3c//dtd html 4.01 frameset//", "-//w3c//dtd html 4.01 transitional//"]

/-- Old public identifiers that stand for themselves only. -/
def publicIds : List String :=
  ["-//w3o//dtd w3 html strict 3.0//en//", "-/w3c/dtd html 4.0 transitional/en", "html"]

/-- The segments of the one old system identifier. -/
def systemId : List String :=
  ["http:", "", "www.ibm.com", "data", "dtd", "v11", "ibmxhtml1-transitional.dtd"]

def isOldPublic (id : String) : Bool :=
  publicIds.contains (id.map Char.toLower) ||
    documentTypes.any fun (owner, names) =>
      startsWith owner.toList id.toList &&
        names.any fun name => startsWith name.toList (id.toList.drop owner.length)

def isOldSystem (id : String) : Bool := id.map Char.toLower = "/".intercalate systemId

/-- Whether pages with this doctype are laid out in the old way. -/
def isAskedBy (d : Doctype) : Bool :=
  d.damaged || d.name ≠ some "html" || d.publicId.any isOldPublic || d.systemId.any isOldSystem ||
    (d.systemId.isNone && d.publicId.any fun id =>
      bareDocumentTypes.any fun s => startsWith s.toList id.toList)

end MarkupActions.Html.OldLayout
