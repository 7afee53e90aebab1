import FeatureScan.Markup.Building

/-!
# Rules for the top of a document

How tokens are taken before the root, before the head, in the head and behind it, and the rules for
templates that are shared with other modes.

## Main results

* `beforeHead_remark`: a comment leaves everything as it is.
-/

namespace FeatureScan.Markup.Building

/-- Takes a start tag of the root where there is a root already: it may add attributes to that. -/
def meetRoot (b : Building) (tag : Tag) : Building :=
  if b.isOpen "template" then b
  else
    match b.outermost? with
    | some o => b.addAttributes o.id tag.attributes
    | none => b

/-- Closes everything up to the innermost template and that too. -/
def closeTemplate (b : Building) : Building :=
  let b := (b.popThroughNamed "template").clearToMarker
  { b with templates := b.templates.drop 1 }.resetMode

/-- Takes an end tag of a template. -/
def endTemplate (b : Building) : Building :=
  if b.isOpen "template" then (b.popWhile ElementName.isImplied).closeTemplate else b

/-- Opens a template. -/
def beginTemplate (b : Building) (tag : Tag) : Building :=
  let b := (b.enterTag tag).mark.forbidFrames
  { b with mode := .inTemplate, templates := .inTemplate :: b.templates }

/-- Labels of elements of the head that hold nothing. -/
def emptyHeadLabels : List String := ["base", "basefont", "bgsound", "link", "meta"]

/-- Labels of elements that hold raw text. -/
def rawHeadLabels : List String := ["title", "noframes", "style", "noscript"]

/-- Labels of end tags that close what has been left open at the top of a document. -/
def closingLabels : List String := ["body", "html", "br"]

/-- Before the document type or any tag. -/
def initial (b : Building) : Token → Building × Outcome
  | .lineBreak | .blank | .remark => b.done
  | .doctype d => { b with isOld := d.isOld, mode := .beforeHtml }.done
  | _ => { b with isOld := true }.again .beforeHtml

/-- Makes the root. -/
def makeRoot (b : Building) (attributes : List Attribute) : Building :=
  { b.enter (.html "html") attributes with mode := .beforeHead }

/-- Before the root. -/
def beforeHtml (b : Building) : Token → Building × Outcome
  | .lineBreak | .blank | .remark => b.done
  | .start tag =>
    if tag.name == "html" then (b.makeRoot tag.attributes).done
    else (b.makeRoot []).again .beforeHead
  | .finish name =>
    if name == "head" || closingLabels.contains name then (b.makeRoot []).again .beforeHead
    else b.done
  | _ => (b.makeRoot []).again .beforeHead

/-- Makes the head. -/
def makeHead (b : Building) (tag : Tag) : Building :=
  let id := b.tree.size
  { b.enterTag tag with head? := some id }

/-- Before the head. -/
def beforeHead (b : Building) : Token → Building × Outcome
  | .lineBreak | .blank | .remark => b.done
  | .start tag =>
    if tag.name == "html" then (b.meetRoot tag).done
    else if tag.name == "head" then ((b.makeHead tag).moveTo .inHead).done
    else (b.makeHead { name := "head" }).again .inHead
  | .finish name =>
    if name == "head" || closingLabels.contains name then
      (b.makeHead { name := "head" }).again .inHead
    else b.done
  | _ => (b.makeHead { name := "head" }).again .inHead

/-- In the head. -/
def inHead (b : Building) : Token → Building × Outcome
  | .lineBreak | .blank | .remark => b.done
  | .start tag =>
    if tag.name == "html" then (b.meetRoot tag).done
    else if emptyHeadLabels.contains tag.name then (b.placeTag tag).done
    else if rawHeadLabels.contains tag.name then b.enterRaw tag
    else if tag.name == "script" then b.enterContent tag .script
    else if tag.name == "template" then (b.beginTemplate tag).done
    else if tag.name == "head" then b.done
    else b.pop.again .afterHead
  | .finish name =>
    if name == "head" then (b.pop.moveTo .afterHead).done
    else if name == "template" then b.endTemplate.done
    else if closingLabels.contains name then b.pop.again .afterHead
    else b.done
  | _ => b.pop.again .afterHead

/-- Labels of elements that belong into the head even behind it. -/
def lateHeadLabels : List String :=
  ["base", "basefont", "bgsound", "link", "meta", "noframes", "script", "style", "template",
    "title"]

/-- Takes a token by the rules of the head, which is opened again for it. -/
def backInHead (b : Building) (token : Token) : Building × Outcome :=
  match b.head? with
  | none => b.done
  | some id =>
    let (b, outcome) := inHead { b with stack := ⟨id, .html "head"⟩ :: b.stack } token
    (b.remove id, outcome)

/-- Behind the head. -/
def afterHead (b : Building) : Token → Building × Outcome
  | .lineBreak | .blank | .remark => b.done
  | .start tag =>
    if tag.name == "html" then (b.meetRoot tag).done
    else if tag.name == "body" then ((b.enterTag tag).forbidFrames.moveTo .inBody).done
    else if tag.name == "frameset" then ((b.enterTag tag).moveTo .inFrames).done
    else if lateHeadLabels.contains tag.name then b.backInHead (.start tag)
    else if tag.name == "head" then b.done
    else (b.enterNamed "body").again .inBody
  | .finish name =>
    if name == "template" then b.inHead (.finish name)
    else if closingLabels.contains name then (b.enterNamed "body").again .inBody
    else b.done
  | _ => (b.enterNamed "body").again .inBody

/-- Ends the innermost template at the end of the text; without one, all is done. -/
def endInTemplate (b : Building) : Building × Outcome :=
  if b.isOpen "template" then
    let b := b.closeTemplate
    b.again b.mode
  else b.done

theorem beforeHead_remark (b : Building) : b.beforeHead .remark = b.done := rfl

end FeatureScan.Markup.Building
