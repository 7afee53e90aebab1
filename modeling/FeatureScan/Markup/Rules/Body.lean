import FeatureScan.Markup.Adoption
import FeatureScan.Markup.Rules.Head

/-!
# Rules for the body

How tokens are taken in the body of a document. Tables, cells and most other modes fall back on
these rules.

## Main results

* `inBody_null`: a null character leaves everything as it is.
-/

namespace FeatureScan.Markup.Building

/-! ## Attributes of foreign elements -/

/-- Attributes of foreign elements that go by another name there. -/
def foreignLabels : List (String × String) := [
  ("xlink:actuate", "actuate"), ("xlink:arcrole", "arcrole"), ("xlink:href", "href"),
  ("xlink:role", "role"), ("xlink:show", "show"), ("xlink:title", "title"), ("xlink:type", "type"),
  ("xml:base", "base"), ("xml:lang", "lang"), ("xml:space", "space"), ("xmlns", "xmlns"),
  ("xmlns:xlink", "xlink")]

/-- An attribute as it is called in a foreign element. -/
def foreignAttribute (a : Attribute) : Attribute :=
  match foreignLabels.find? fun p => p.1 == a.name with
  | some (_, name) => { a with name, foreign := true }
  | none => a

/-- Opens a foreign element, or only places it if its tag closes itself. -/
def enterForeign (b : Building) (vocabulary : Vocabulary) (tag : Tag) : Building :=
  let name : ElementName := ⟨vocabulary, tag.name⟩
  let attributes := tag.attributes.map foreignAttribute
  if tag.selfClosing then b.place name attributes else b.enter name attributes

/-! ## Labels -/

/-- Labels of blocks, which end a paragraph. -/
def blockLabels : List String := [
  "address", "article", "aside", "blockquote", "center", "details", "dialog", "dir", "div", "dl",
  "fieldset", "figcaption", "figure", "footer", "header", "hgroup", "main", "menu", "nav", "ol",
  "p", "section", "summary", "ul"]

/-- Labels of end tags that close a block. -/
def blockEndLabels : List String := [
  "address", "article", "aside", "blockquote", "button", "center", "details", "dialog", "dir",
  "div", "dl", "fieldset", "figcaption", "figure", "footer", "header", "hgroup", "listing", "main",
  "menu", "nav", "ol", "pre", "section", "summary", "ul"]

/-- Labels of headings. -/
def headingLabels : List String := ["h1", "h2", "h3", "h4", "h5", "h6"]

/-- Labels of formatting, links and unbroken text apart. -/
def formattingLabels : List String :=
  ["b", "big", "code", "em", "font", "i", "s", "small", "strike", "strong", "tt", "u"]

/-- Labels of elements that bound formatting. -/
def boundingLabels : List String := ["applet", "marquee", "object"]

/-- Labels of elements that stand in a line of text and hold nothing. -/
def emptyLabels : List String := ["area", "br", "embed", "img", "keygen", "wbr", "input"]

/-- Labels of elements that hold nothing and do not restore formatting. -/
def sourceLabels : List String := ["param", "source", "track"]

/-- Labels of parts of tables and frames, which mean nothing in the body. -/
def misplacedLabels : List String := [
  "caption", "col", "colgroup", "frame", "head", "tbody", "td", "tfoot", "th", "thead", "tr"]

/-- Labels that are taken by the rules of the head. -/
def headLabels : List String :=
  ["base", "basefont", "bgsound", "link", "meta", "noframes", "script", "style", "template",
    "title"]

/-- Whether an input is hidden. -/
def isHidden (tag : Tag) : Bool :=
  (valueOf? tag.attributes "type").any fun v => Text.sameIgnoringCase v "hidden"

/-! ## Single rules -/

/-- Adds the attributes of another tag of the body to the body. -/
def meetBody (b : Building) (tag : Tag) : Building :=
  match b.body? with
  | some o =>
    if b.isOpen "template" then b else b.forbidFrames.addAttributes o.id tag.attributes
  | none => b

/-- Puts frames in place of the body, if that has shown nothing yet. -/
def replaceBody (b : Building) (tag : Tag) : Building :=
  match b.framesAllowed, b.body? with
  | true, some body =>
    let root := b.stack.drop (b.stack.length - 1)
    ({ b with tree := b.tree.detach body.id, stack := root }.enterTag tag).moveTo .inFrames
  | _, _ => b

/-- Closes the item before another one: the nearest open element of some labels, unless a special
one lies before that. -/
def closeItem (b : Building) (labels : List String) : Building :=
  let inner := b.stack.takeWhile fun o => !(o.name.isHtmlIn labels || o.name.stopsItems)
  match b.stack.drop inner.length with
  | o :: _ =>
    if o.name.isHtmlIn labels then
      (b.closeImpliedExcept o.name.label).popThroughNamed o.name.label
    else b
  | [] => b

/-- Opens an item of a list. -/
def beginItem (b : Building) (tag : Tag) : Building :=
  let labels := if tag.name == "li" then ["li"] else ["dd", "dt"]
  ((b.forbidFrames.closeItem labels).endParagraph).enterTag tag

/-- Opens a form; forms do not nest. -/
def beginForm (b : Building) (tag : Tag) : Building :=
  let inTemplate := b.isOpen "template"
  if b.form?.isSome && !inTemplate then b
  else
    let b := b.endParagraph
    let id := b.tree.size
    let b := b.enterTag tag
    if inTemplate then b else { b with form? := some id }

/-- Closes the form that is open. -/
def endForm (b : Building) : Building :=
  if b.isOpen "template" then
    if b.hasInScope ElementName.bounds "form" then b.closeImplied.popThroughNamed "form" else b
  else
    match b.form? with
    | none => b
    | some id =>
      let b := { b with form? := none }
      if inScope ElementName.bounds (fun o => o.id == id) b.stack then b.closeImplied.remove id
      else b

/-- Opens a button; buttons do not nest. -/
def beginButton (b : Building) (tag : Tag) : Building :=
  let b :=
    if b.hasInScope ElementName.bounds "button" then b.closeImplied.popThroughNamed "button" else b
  (b.restoreFormatting.enterTag tag).forbidFrames

/-- Opens unbroken text, which does not nest. -/
def beginUnbroken (b : Building) (tag : Tag) : Building :=
  let b := b.restoreFormatting
  let b :=
    if b.hasInScope ElementName.bounds "nobr" then
      (b.closeFormatting "nobr").restoreFormatting
    else b
  b.beginFormatting tag

/-- Opens a selection. -/
def beginSelect (b : Building) (tag : Tag) : Building :=
  let b := (b.restoreFormatting.enterTag tag).forbidFrames
  let isInTable := [.inTable, .inCaption, .inTableBody, .inRow, .inCell].contains b.mode
  b.moveTo (if isInTable then .inTableSelect else .inSelect)

/-- Places an element that stands in a line of text and holds nothing. -/
def placeEmpty (b : Building) (tag : Tag) : Building :=
  let b := b.restoreFormatting.placeTag tag
  if tag.name == "input" && isHidden tag then b else b.forbidFrames

/-- Takes character data. -/
def takeText (b : Building) (isBlank : Bool) : Building :=
  let b := b.restoreFormatting
  if isBlank then b else b.forbidFrames

/-! ## Start tags -/

/-- Takes a start tag in the body. -/
def startInBody (b : Building) (tag : Tag) : Building × Outcome :=
  let name := tag.name
  if name == "html" then (b.meetRoot tag).done
  else if headLabels.contains name then b.inHead (.start tag)
  else if name == "body" then (b.meetBody tag).done
  else if name == "frameset" then (b.replaceBody tag).done
  else if blockLabels.contains name then (b.endParagraph.enterTag tag).done
  else if headingLabels.contains name then
    let b := b.endParagraph
    ((if b.currentIs ElementName.isHeading then b.pop else b).enterTag tag).done
  else if name == "pre" || name == "listing" then
    { (b.endParagraph.enterTag tag).forbidFrames with skipsBreak := true }.done
  else if name == "form" then (b.beginForm tag).done
  else if ["li", "dd", "dt"].contains name then (b.beginItem tag).done
  else if name == "plaintext" then (b.endParagraph.enterTag tag, .content .plain)
  else if name == "button" then (b.beginButton tag).done
  else if name == "a" then (b.endLink.restoreFormatting.beginFormatting tag).done
  else if formattingLabels.contains name then (b.restoreFormatting.beginFormatting tag).done
  else if name == "nobr" then (b.beginUnbroken tag).done
  else if boundingLabels.contains name then
    (b.restoreFormatting.enterTag tag).mark.forbidFrames.done
  else if name == "table" then
    (((if b.isOld then b else b.endParagraph).enterTag tag).forbidFrames.moveTo .inTable).done
  else if name == "image" then (b.placeEmpty { tag with name := "img" }).done
  else if emptyLabels.contains name then (b.placeEmpty tag).done
  else if sourceLabels.contains name then (b.placeTag tag).done
  else if name == "hr" then (b.endParagraph.placeTag tag).forbidFrames.done
  else if name == "textarea" then b.forbidFrames.enterRaw tag
  else if name == "xmp" then b.endParagraph.restoreFormatting.forbidFrames.enterRaw tag
  else if name == "iframe" then b.forbidFrames.enterRaw tag
  else if name == "noembed" || name == "noscript" then b.enterRaw tag
  else if name == "select" then (b.beginSelect tag).done
  else if name == "optgroup" || name == "option" then
    ((if b.currentNamed "option" then b.pop else b).restoreFormatting.enterTag tag).done
  else if name == "rb" || name == "rtc" then
    ((if b.hasInScope ElementName.bounds "ruby" then b.closeImplied else b).enterTag tag).done
  else if name == "rp" || name == "rt" then
    ((if b.hasInScope ElementName.bounds "ruby" then b.closeImpliedExcept "rtc" else b).enterTag
      tag).done
  else if name == "math" then (b.restoreFormatting.enterForeign .math tag).done
  else if name == "svg" then (b.restoreFormatting.enterForeign .svg tag).done
  else if misplacedLabels.contains name then b.done
  else (b.restoreFormatting.enterTag tag).done

/-! ## End tags -/

/-- Takes an end tag in the body. -/
def finishInBody (b : Building) (name : String) : Building × Outcome :=
  if name == "template" then b.endTemplate.done
  else if name == "body" then
    (if b.hasInScope ElementName.bounds "body" then b.moveTo .afterBody else b).done
  else if name == "html" then
    if b.hasInScope ElementName.bounds "body" then b.again .afterBody else b.done
  else if blockEndLabels.contains name then
    (if b.hasInScope ElementName.bounds name then b.closeImplied.popThroughNamed name else b).done
  else if name == "form" then b.endForm.done
  else if name == "p" then
    let b := if b.hasInScope ElementName.boundsParagraphs "p" then b else b.enterNamed "p"
    b.closeParagraph.done
  else if ["li", "dd", "dt"].contains name then
    let bounds := if name == "li" then ElementName.boundsItems else ElementName.bounds
    (if b.hasInScope bounds name then (b.closeImpliedExcept name).popThroughNamed name else b).done
  else if headingLabels.contains name then
    (if b.hasClassInScope ElementName.bounds ElementName.isHeading then
      b.closeImplied.popThrough ElementName.isHeading
    else b).done
  else if name == "a" || name == "nobr" || formattingLabels.contains name then
    (b.closeFormatting name).done
  else if boundingLabels.contains name then
    (if b.hasInScope ElementName.bounds name then
      (b.closeImplied.popThroughNamed name).clearToMarker
    else b).done
  else if name == "br" then (b.placeEmpty { name := "br" }).done
  else (b.closeOrdinary name).done

/-! ## All tokens -/

/-- In the body. -/
def inBody (b : Building) : Token → Building × Outcome
  | .null | .remark | .doctype _ => b.done
  | .lineBreak | .blank => (b.takeText true).done
  | .text => (b.takeText false).done
  | .start tag => b.startInBody tag
  | .finish name => b.finishInBody name
  | .finale => if b.templates.isEmpty then b.done else b.endInTemplate

theorem inBody_null (b : Building) : b.inBody .null = b.done := rfl

end FeatureScan.Markup.Building
