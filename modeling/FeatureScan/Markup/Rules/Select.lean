import FeatureScan.Markup.Rules.Table

/-!
# Rules for selections

How tokens are taken in a selection, which holds options and nothing else.

## Main results

* `inSelect_text`: text in a selection leaves everything as it is.
-/

namespace FeatureScan.Markup.Building

/-- Opens a group of options. -/
def beginGroup (b : Building) (tag : Tag) : Building :=
  let b := if b.currentNamed "option" then b.pop else b
  (if b.currentNamed "optgroup" then b.pop else b).enterTag tag

/-- Closes a group of options. -/
def endGroup (b : Building) : Building :=
  let b :=
    match b.stack with
    | o :: p :: _ => if o.name.isHtml "option" && p.name.isHtml "optgroup" then b.pop else b
    | _ => b
  if b.currentNamed "optgroup" then b.pop else b

/-- Closes the selection, if it is in scope. -/
def endSelect (b : Building) : Building :=
  if b.hasInScope ElementName.boundsSelections "select" then (b.popThroughNamed "select").resetMode
  else b

/-- In a selection. -/
def inSelect (b : Building) (token : Token) : Building × Outcome :=
  match token with
  | .start tag =>
    let name := tag.name
    if name == "html" then (b.meetRoot tag).done
    else if name == "option" then
      ((if b.currentNamed "option" then b.pop else b).enterTag tag).done
    else if name == "optgroup" then (b.beginGroup tag).done
    else if name == "select" then b.endSelect.done
    else if ["input", "keygen", "textarea"].contains name then
      if b.hasInScope ElementName.boundsSelections "select" then
        let b := b.popThroughNamed "select"
        b.again b.properMode
      else b.done
    else if name == "script" || name == "template" then b.inHead token
    else b.done
  | .finish name =>
    if name == "optgroup" then b.endGroup.done
    else if name == "option" then (if b.currentNamed "option" then b.pop else b).done
    else if name == "select" then b.endSelect.done
    else if name == "template" then b.inHead token
    else b.done
  | .finale => b.inBody .finale
  | _ => b.done

/-- Labels of the parts of a table that end a selection in it. -/
def selectEnders : List String := ["caption", "table", "tbody", "tfoot", "thead", "tr", "td", "th"]

/-- In a selection that stands in a table. -/
def inTableSelect (b : Building) (token : Token) : Building × Outcome :=
  let leave :=
    let b := b.popThroughNamed "select"
    b.again b.properMode
  match token with
  | .start tag => if selectEnders.contains tag.name then leave else b.inSelect token
  | .finish name =>
    if selectEnders.contains name then
      if b.hasInScope ElementName.boundsTables name then leave else b.done
    else b.inSelect token
  | _ => b.inSelect token

theorem inSelect_text (b : Building) : b.inSelect .text = b.done := rfl

end FeatureScan.Markup.Building
