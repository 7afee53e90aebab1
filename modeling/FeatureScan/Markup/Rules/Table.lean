import FeatureScan.Markup.Rules.Body

/-!
# Rules for tables

How tokens are taken in a table and its parts. What cannot stand there is put before the table, and
text is put off until it is known whether it is all blank.

## Main results

* `fosterInBody_fostering`: fostering is over when a token has been taken.
-/

namespace FeatureScan.Markup.Building

/-- Takes a token by the rules of the body, and puts what comes of it before the table. -/
def fosterInBody (b : Building) (token : Token) : Building × Outcome :=
  let (b, outcome) := inBody { b with fostering := true } token
  ({ b with fostering := false }, outcome)

/-- Labels of end tags that mean nothing in a table. -/
def tableStrayEnds : List String := [
  "body", "caption", "col", "colgroup", "html", "tbody", "td", "tfoot", "th", "thead", "tr"]

/-- Takes character data in a table. -/
def textInTable (b : Building) (token : Token) : Building × Outcome :=
  if b.currentIs ElementName.refusesText then { b with returnMode := b.mode }.again .tableText
  else b.fosterInBody token

/-- Closes elements up to the table, before a part of it begins. -/
def backToTable (b : Building) : Building := b.popBackTo ElementName.boundsTables

/-- Takes a start tag in a table. -/
def startInTable (b : Building) (tag : Tag) : Building × Outcome :=
  let name := tag.name
  if name == "caption" then ((b.backToTable.mark.enterTag tag).moveTo .inCaption).done
  else if name == "colgroup" then ((b.backToTable.enterTag tag).moveTo .inColumns).done
  else if name == "col" then (b.backToTable.enterNamed "colgroup").again .inColumns
  else if ["tbody", "tfoot", "thead"].contains name then
    ((b.backToTable.enterTag tag).moveTo .inTableBody).done
  else if ["td", "th", "tr"].contains name then
    (b.backToTable.enterNamed "tbody").again .inTableBody
  else if name == "table" then
    if b.hasInScope ElementName.boundsTables "table" then
      let b := b.popThroughNamed "table"
      b.again b.properMode
    else b.done
  else if ["style", "script", "template"].contains name then b.inHead (.start tag)
  else if name == "input" && isHidden tag then (b.placeTag tag).done
  else if name == "form" then
    if !b.isOpen "template" && b.form?.isNone then
      let id := b.tree.size
      { b.placeTag tag with form? := some id }.done
    else b.done
  else b.fosterInBody (.start tag)

/-- Takes an end tag in a table. -/
def finishInTable (b : Building) (name : String) : Building × Outcome :=
  if name == "table" then
    (if b.hasInScope ElementName.boundsTables "table" then (b.popThroughNamed "table").resetMode
    else b).done
  else if tableStrayEnds.contains name then b.done
  else if name == "template" then b.endTemplate.done
  else b.fosterInBody (.finish name)

/-- In a table. -/
def inTable (b : Building) : Token → Building × Outcome
  | .remark | .doctype _ => b.done
  | .start tag => b.startInTable tag
  | .finish name => b.finishInTable name
  | .finale => b.inBody .finale
  | token => b.textInTable token

/-- In the text of a table. -/
def tableText (b : Building) (token : Token) : Building × Outcome :=
  match token with
  | .null => b.done
  | .lineBreak | .blank => b.done
  | .text => { b with textPending := true }.done
  | _ =>
    let b := if b.textPending then (b.fosterInBody .text).1 else b
    { b with textPending := false }.again b.returnMode

/-- Labels of parts of tables, which end a caption or a cell and are taken again. -/
def partLabels : List String :=
  ["caption", "col", "colgroup", "tbody", "td", "tfoot", "th", "thead", "tr"]

/-- Closes a caption. -/
def closeCaption (b : Building) : Building :=
  (b.closeImplied.popThroughNamed "caption").clearToMarker

/-- In a caption. -/
def inCaption (b : Building) (token : Token) : Building × Outcome :=
  let inScope := b.hasInScope ElementName.boundsTables "caption"
  match token with
  | .start tag =>
    if partLabels.contains tag.name then
      if inScope then b.closeCaption.again .inTable else b.done
    else b.inBody token
  | .finish name =>
    if name == "caption" then (if inScope then b.closeCaption.moveTo .inTable else b).done
    else if name == "table" then if inScope then b.closeCaption.again .inTable else b.done
    else if tableStrayEnds.contains name then b.done
    else b.inBody token
  | _ => b.inBody token

/-- Among columns. -/
def inColumns (b : Building) (token : Token) : Building × Outcome :=
  let leave :=
    if b.currentNamed "colgroup" then b.pop.again .inTable else b.done
  match token with
  | .lineBreak | .blank | .remark | .doctype _ => b.done
  | .start tag =>
    if tag.name == "html" then (b.meetRoot tag).done
    else if tag.name == "col" then (b.placeTag tag).done
    else if tag.name == "template" then b.inHead token
    else leave
  | .finish name =>
    if name == "colgroup" then (if b.currentNamed "colgroup" then b.pop.moveTo .inTable else b).done
    else if name == "col" then b.done
    else if name == "template" then b.inHead token
    else leave
  | .finale => b.inBody .finale
  | _ => leave

/-- Closes elements up to a part of the table that takes rows, and that too. -/
def closeRows (b : Building) : Building := (b.popBackTo ElementName.holdsRows).pop

/-- Leaves the rows for a tag that is taken again in the table. -/
def leaveRows (b : Building) : Building × Outcome :=
  let isPart := ElementName.isHtmlIn ["table", "tbody", "tfoot"]
  if b.hasClassInScope ElementName.boundsTables isPart then
    b.closeRows.again .inTable
  else b.done

/-- In a part of a table that takes rows. -/
def inTableBody (b : Building) (token : Token) : Building × Outcome :=
  match token with
  | .start tag =>
    if tag.name == "tr" then
      (((b.popBackTo ElementName.holdsRows).enterTag tag).moveTo .inRow).done
    else if tag.name == "th" || tag.name == "td" then
      ((b.popBackTo ElementName.holdsRows).enterNamed "tr").again .inRow
    else if ["caption", "col", "colgroup", "tbody", "tfoot", "thead"].contains tag.name then
      b.leaveRows
    else b.inTable token
  | .finish name =>
    if ["tbody", "tfoot", "thead"].contains name then
      (if b.hasInScope ElementName.boundsTables name then b.closeRows.moveTo .inTable else b).done
    else if name == "table" then b.leaveRows
    else if ["body", "caption", "col", "colgroup", "html", "td", "th", "tr"].contains name then
      b.done
    else b.inTable token
  | _ => b.inTable token

/-- Closes a row. -/
def closeRow (b : Building) : Building := (b.popBackTo ElementName.holdsCells).pop

/-- Leaves a row for a tag that is taken again among the rows. -/
def leaveRow (b : Building) : Building × Outcome :=
  if b.hasInScope ElementName.boundsTables "tr" then b.closeRow.again .inTableBody else b.done

/-- In a row. -/
def inRow (b : Building) (token : Token) : Building × Outcome :=
  match token with
  | .start tag =>
    if tag.name == "th" || tag.name == "td" then
      (((b.popBackTo ElementName.holdsCells).enterTag tag).moveTo .inCell).mark.done
    else if ["caption", "col", "colgroup", "tbody", "tfoot", "thead", "tr"].contains tag.name then
      b.leaveRow
    else b.inTable token
  | .finish name =>
    if name == "tr" then
      let isInScope := b.hasInScope ElementName.boundsTables "tr"
      (if isInScope then b.closeRow.moveTo .inTableBody else b).done
    else if name == "table" then b.leaveRow
    else if ["tbody", "tfoot", "thead"].contains name then
      if b.hasInScope ElementName.boundsTables name then b.leaveRow else b.done
    else if ["body", "caption", "col", "colgroup", "html", "td", "th"].contains name then b.done
    else b.inTable token
  | _ => b.inTable token

/-- Closes a cell. -/
def closeCell (b : Building) : Building :=
  (b.closeImplied.popThrough ElementName.isCell).clearToMarker

/-- In a cell. -/
def inCell (b : Building) (token : Token) : Building × Outcome :=
  match token with
  | .start tag =>
    if partLabels.contains tag.name then
      if b.hasClassInScope ElementName.boundsTables ElementName.isCell then b.closeCell.again .inRow
      else b.done
    else b.inBody token
  | .finish name =>
    if name == "td" || name == "th" then
      (if b.hasInScope ElementName.boundsTables name then
        ((b.closeImplied.popThroughNamed name).clearToMarker).moveTo .inRow
      else b).done
    else if ["body", "caption", "col", "colgroup", "html"].contains name then b.done
    else if ["table", "tbody", "tfoot", "thead", "tr"].contains name then
      if b.hasInScope ElementName.boundsTables name then b.closeCell.again .inRow else b.done
    else b.inBody token
  | _ => b.inBody token

theorem fosterInBody_fostering (b : Building) (token : Token) :
    (b.fosterInBody token).1.fostering = false := rfl

end FeatureScan.Markup.Building
