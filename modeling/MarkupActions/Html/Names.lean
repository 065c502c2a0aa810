import MarkupActions.Markup.Node

/-! Classes of elements that the rules for repairing markup tell apart. -/

namespace MarkupActions.Html

/-- Whether an element is one of some elements of plain markup. -/
def oneOf (names : List String) (e : Element) : Bool := e.vocabulary = .html && names.contains e.name

def isNamed (name : String) (e : Element) : Bool := e.vocabulary = .html && e.name = name

/-- Elements that stop an end tag from looking further. -/
def isSpecial : Element → Bool := oneOf
  ["address", "applet", "area", "article", "aside", "base", "basefont", "bgsound", "blockquote",
   "body", "br", "button", "caption", "center", "col", "colgroup", "dd", "details", "dir", "div",
   "dl", "dt", "embed", "fieldset", "figcaption", "figure", "footer", "form", "frame", "frameset",
   "h1", "h2", "h3", "h4", "h5", "h6", "head", "header", "hgroup", "hr", "html", "iframe", "img",
   "input", "isindex", "li", "link", "listing", "main", "marquee", "menu", "meta", "nav", "noembed",
   "noframes", "noscript", "object", "ol", "p", "param", "plaintext", "pre", "script", "section",
   "select", "source", "style", "summary", "table", "tbody", "td", "template", "textarea", "tfoot",
   "th", "thead", "title", "tr", "track", "ul", "wbr", "xmp"]

/-- Formula elements that hold ordinary text. -/
def isFormulaText (e : Element) : Bool :=
  e.vocabulary = .mathml && ["mi", "mo", "mn", "ms", "mtext"].contains e.name

/-- Drawing elements that hold ordinary markup. -/
def isDrawingMarkup (e : Element) : Bool :=
  e.vocabulary = .svg && ["foreignObject", "desc", "title"].contains e.name

/-- A formula annotation that says it holds ordinary markup. -/
def holdsMarkup (e : Element) : Bool :=
  e.vocabulary = .mathml && e.name = "annotation-xml" &&
    (e.attribute? "encoding").any fun s =>
      ["text/html", "application/xhtml+xml"].contains (s.map Char.toLower)

/-- Elements out of which an end tag does not reach. -/
def isScope (e : Element) : Bool :=
  oneOf ["applet", "caption", "html", "table", "td", "th", "marquee", "object", "template"] e ||
    isFormulaText e || isDrawingMarkup e

def isListScope (e : Element) : Bool := isScope e || oneOf ["ol", "ul"] e

def isButtonScope (e : Element) : Bool := isScope e || isNamed "button" e

def isTableScope : Element → Bool := oneOf ["html", "table", "template"]

def isSelectScope (e : Element) : Bool := !oneOf ["optgroup", "option"] e

/-- Elements whose end tag may be left out. -/
def isImplied : Element → Bool := oneOf
  ["dd", "dt", "li", "option", "optgroup", "p", "rb", "rp", "rt", "rtc"]

/-- Elements whose end tag may be left out at the end of a template. -/
def isImpliedInTemplate (e : Element) : Bool :=
  isImplied e ||
    oneOf ["caption", "colgroup", "tbody", "td", "tfoot", "th", "thead", "tr"] e

def headingNames : List String := ["h1", "h2", "h3", "h4", "h5", "h6"]

def isHeading : Element → Bool := oneOf headingNames

/-- Parts of a table around which text does not belong. -/
def isTablePart : Element → Bool := oneOf ["table", "tbody", "tfoot", "thead", "tr"]

def isTableBodyContext : Element → Bool := oneOf ["tbody", "tfoot", "thead", "template", "html"]

def isTableRowContext : Element → Bool := oneOf ["tr", "template", "html"]

def isTableCell : Element → Bool := oneOf ["td", "th"]

/-! ### Spelling inside drawings and formulas -/

/-- The names of drawing elements that have capitals. -/
def drawingNames : List String :=
  ["altGlyph", "altGlyphDef", "altGlyphItem", "animateColor", "animateMotion", "animateTransform",
   "clipPath", "feBlend", "feColorMatrix", "feComponentTransfer", "feComposite",
   "feConvolveMatrix", "feDiffuseLighting", "feDisplacementMap", "feDistantLight", "feDropShadow",
   "feFlood", "feFuncA", "feFuncB", "feFuncG", "feFuncR", "feGaussianBlur", "feImage", "feMerge",
   "feMergeNode", "feMorphology", "feOffset", "fePointLight", "feSpecularLighting", "feSpotLight",
   "feTile", "feTurbulence", "foreignObject", "glyphRef", "linearGradient", "radialGradient",
   "textPath"]

/-- The names of drawing attributes that have capitals. -/
def drawingAttributes : List String :=
  ["attributeName", "attributeType", "baseFrequency", "baseProfile", "calcMode", "clipPathUnits",
   "diffuseConstant", "edgeMode", "filterUnits", "glyphRef", "gradientTransform", "gradientUnits",
   "kernelMatrix", "kernelUnitLength", "keyPoints", "keySplines", "keyTimes", "lengthAdjust",
   "limitingConeAngle", "markerHeight", "markerUnits", "markerWidth", "maskContentUnits",
   "maskUnits", "numOctaves", "pathLength", "patternContentUnits", "patternTransform",
   "patternUnits", "pointsAtX", "pointsAtY", "pointsAtZ", "preserveAlpha", "preserveAspectRatio",
   "primitiveUnits", "refX", "refY", "repeatCount", "repeatDur", "requiredExtensions",
   "requiredFeatures", "specularConstant", "specularExponent", "spreadMethod", "startOffset",
   "stdDeviation", "stitchTiles", "surfaceScale", "systemLanguage", "tableValues", "targetX",
   "targetY", "textLength", "viewBox", "viewTarget", "xChannelSelector", "yChannelSelector",
   "zoomAndPan"]

/-- The local names of attributes that are written with a prefix. -/
def prefixedAttributes : List (String × String) :=
  [("xlink:actuate", "actuate"), ("xlink:arcrole", "arcrole"), ("xlink:href", "href"),
   ("xlink:role", "role"), ("xlink:show", "show"), ("xlink:title", "title"),
   ("xlink:type", "type"), ("xml:lang", "lang"), ("xml:space", "space"), ("xmlns:xlink", "xlink")]

/-- The spelling, among some names, of a name in small letters. -/
def respell (names : List String) (name : String) : String :=
  (names.find? fun n => n.map Char.toLower = name).getD name

/-- An attribute name as it is spelled in a vocabulary. -/
def attributeSpelling (v : Vocabulary) (name : String) : String :=
  let name := match v with
    | .svg => respell drawingAttributes name
    | .mathml => respell ["definitionURL"] name
    | .html => name
  (prefixedAttributes.lookup name).getD name

def spellAttributes (v : Vocabulary) (attributes : List Attribute) : List Attribute :=
  attributes.map fun a => { a with name := attributeSpelling v a.name }

/-- Elements of plain markup that break out of a drawing or a formula. -/
def breakoutNames : List String :=
  ["b", "big", "blockquote", "body", "br", "center", "code", "dd", "div", "dl", "dt", "em", "embed",
   "h1", "h2", "h3", "h4", "h5", "h6", "head", "hr", "i", "img", "li", "listing", "menu", "meta",
   "nobr", "ol", "p", "pre", "ruby", "s", "small", "span", "strong", "strike", "sub", "sup",
   "table", "tt", "u", "ul", "var"]

end MarkupActions.Html
