/-!
# Names of elements

Elements belong to one of three vocabularies. How a tag is taken depends on which elements are open,
and for that elements are put into classes by their names.

## Main results

* `isImplied_of_isCursorilyImplied`: what ends without notice does so too when much ends at once.
-/

namespace FeatureScan.Markup

/-- A vocabulary of elements. -/
inductive Vocabulary
  | html
  | math
  | svg
  deriving DecidableEq, Repr

/-- The name of an element with its vocabulary. -/
structure ElementName where
  /-- The vocabulary. -/
  vocabulary : Vocabulary
  /-- The name, in small letters. -/
  label : String
  deriving DecidableEq, Repr

namespace ElementName

/-- A name of the main vocabulary. -/
def html (label : String) : ElementName := ⟨.html, label⟩

/-- Whether this is a given name of the main vocabulary. -/
def isHtml (label : String) (n : ElementName) : Bool := n.vocabulary == .html && n.label == label

/-- Whether this is one of some names of the main vocabulary. -/
def isHtmlIn (labels : List String) (n : ElementName) : Bool :=
  n.vocabulary == .html && labels.contains n.label

/-- Elements of formulas that hold text. -/
def isFormulaText (n : ElementName) : Bool :=
  n.vocabulary == .math && ["mi", "mo", "mn", "ms", "mtext"].contains n.label

/-- Elements of drawings that hold elements of the main vocabulary. -/
def isDrawingText (n : ElementName) : Bool :=
  n.vocabulary == .svg && ["foreignobject", "desc", "title"].contains n.label

/-! ## Scopes -/

/-- Elements that hide what is open outside of them. -/
def bounds (n : ElementName) : Bool :=
  n.isHtmlIn ["applet", "caption", "html", "table", "td", "th", "marquee", "object", "template"] ||
    n.isFormulaText || n.isDrawingText

/-- Elements that hide what is open outside of them from items of a list. -/
def boundsItems (n : ElementName) : Bool := n.bounds || n.isHtmlIn ["ol", "ul"]

/-- Elements that hide what is open outside of them from paragraphs. -/
def boundsParagraphs (n : ElementName) : Bool := n.bounds || n.isHtml "button"

/-- Elements that hide what is open outside of them from parts of tables. -/
def boundsTables (n : ElementName) : Bool := n.isHtmlIn ["html", "table", "template"]

/-- Elements that hide what is open outside of them from selections: all but options. -/
def boundsSelections (n : ElementName) : Bool := !n.isHtmlIn ["optgroup", "option"]

/-! ## Classes -/

/-- Elements that take rows. -/
def holdsRows (n : ElementName) : Bool := n.isHtmlIn ["tbody", "tfoot", "thead", "template", "html"]

/-- Elements that take cells. -/
def holdsCells (n : ElementName) : Bool := n.isHtmlIn ["tr", "template", "html"]

/-- Cells of a table. -/
def isCell (n : ElementName) : Bool := n.isHtmlIn ["td", "th"]

/-- Elements in which text cannot stand, so that it is put before the table. -/
def refusesText (n : ElementName) : Bool := n.isHtmlIn ["table", "tbody", "tfoot", "thead", "tr"]

/-- Headings. -/
def isHeading (n : ElementName) : Bool := n.isHtmlIn ["h1", "h2", "h3", "h4", "h5", "h6"]

/-- Elements whose end tags may be left out. -/
def isCursorilyImplied (n : ElementName) : Bool :=
  n.isHtmlIn ["dd", "dt", "li", "option", "optgroup", "p", "rb", "rp", "rt", "rtc"]

/-- Elements whose end tags may be left out, those of tables included. -/
def isImplied (n : ElementName) : Bool :=
  n.isCursorilyImplied ||
    n.isHtmlIn ["caption", "colgroup", "tbody", "td", "tfoot", "th", "thead", "tr"]

theorem isImplied_of_isCursorilyImplied {n : ElementName} (h : n.isCursorilyImplied = true) :
    n.isImplied = true := by
  simp [isImplied, h]

/-- Labels of elements that end tags of other elements do not close. -/
def specialLabels : List String := [
  "address", "applet", "area", "article", "aside", "base", "basefont", "bgsound", "blockquote",
  "body", "br", "button", "caption", "center", "col", "colgroup", "dd", "details", "dir", "div",
  "dl", "dt", "embed", "fieldset", "figcaption", "figure", "footer", "form", "frame", "frameset",
  "h1", "h2", "h3", "h4", "h5", "h6", "head", "header", "hgroup", "hr", "html", "iframe", "img",
  "input", "isindex", "li", "link", "listing", "main", "marquee", "menu", "meta", "nav", "noembed",
  "noframes", "noscript", "object", "ol", "p", "param", "plaintext", "pre", "script", "section",
  "select", "source", "style", "summary", "table", "tbody", "td", "template", "textarea", "tfoot",
  "th", "thead", "title", "tr", "track", "ul", "wbr", "xmp"]

/-- Elements that end tags of other elements do not close. -/
def isSpecial (n : ElementName) : Bool := n.isHtmlIn specialLabels

/-- Special elements that items of a list do not look beyond. -/
def stopsItems (n : ElementName) : Bool := n.isSpecial && !n.isHtmlIn ["address", "div", "p"]

end ElementName

end FeatureScan.Markup
