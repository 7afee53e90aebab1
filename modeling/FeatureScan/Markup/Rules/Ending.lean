import FeatureScan.Markup.Rules.Select

/-!
# Rules for templates, frames and the end

How tokens are taken in a template, in frames, and behind the body.

## Main results

* `afterBody_finale`: the end of the text behind the body ends everything.
-/

namespace FeatureScan.Markup.Building

/-- Takes a token again in the mode that its tag asks for within a template. -/
def turnTemplate (b : Building) (mode : Mode) : Building × Outcome :=
  { b with templates := mode :: b.templates.drop 1 }.again mode

/-- In a template. -/
def inTemplate (b : Building) (token : Token) : Building × Outcome :=
  match token with
  | .start tag =>
    let name := tag.name
    if headLabels.contains name then b.inHead token
    else if ["caption", "colgroup", "tbody", "tfoot", "thead"].contains name then
      b.turnTemplate .inTable
    else if name == "col" then b.turnTemplate .inColumns
    else if name == "tr" then b.turnTemplate .inTableBody
    else if name == "td" || name == "th" then b.turnTemplate .inRow
    else b.turnTemplate .inBody
  | .finish name => if name == "template" then b.inHead token else b.done
  | .finale => b.endInTemplate
  | .null => b.done
  | _ => b.inBody token

/-- Behind the body. -/
def afterBody (b : Building) (token : Token) : Building × Outcome :=
  match token with
  | .lineBreak | .blank => b.inBody token
  | .remark | .doctype _ | .finale => b.done
  | .start tag => if tag.name == "html" then (b.meetRoot tag).done else b.again .inBody
  | .finish name => if name == "html" then (b.moveTo .afterAfterBody).done else b.again .inBody
  | _ => b.again .inBody

/-- Behind the root. -/
def afterAfterBody (b : Building) (token : Token) : Building × Outcome :=
  match token with
  | .lineBreak | .blank => b.inBody token
  | .remark | .doctype _ | .finale => b.done
  | .start tag => if tag.name == "html" then (b.meetRoot tag).done else b.again .inBody
  | _ => b.again .inBody

/-- In frames. -/
def inFrames (b : Building) (token : Token) : Building × Outcome :=
  match token with
  | .start tag =>
    if tag.name == "html" then (b.meetRoot tag).done
    else if tag.name == "frameset" then (b.enterTag tag).done
    else if tag.name == "frame" then (b.placeTag tag).done
    else if tag.name == "noframes" then b.inHead token
    else b.done
  | .finish name =>
    if name == "frameset" && b.stack.length != 1 then
      let b := b.pop
      (if b.currentNamed "frameset" then b else b.moveTo .afterFrames).done
    else b.done
  | _ => b.done

/-- Behind frames. -/
def afterFrames (b : Building) (token : Token) : Building × Outcome :=
  match token with
  | .start tag =>
    if tag.name == "html" then (b.meetRoot tag).done
    else if tag.name == "noframes" then b.inHead token
    else b.done
  | .finish name => (if name == "html" then b.moveTo .afterAfterFrames else b).done
  | _ => b.done

/-- Behind the root of a document with frames. -/
def afterAfterFrames (b : Building) (token : Token) : Building × Outcome :=
  match token with
  | .lineBreak | .blank => b.inBody token
  | .start tag =>
    if tag.name == "html" then (b.meetRoot tag).done
    else if tag.name == "noframes" then b.inHead token
    else b.done
  | _ => b.done

/-- In raw text. -/
def rawText (b : Building) (token : Token) : Building × Outcome :=
  match token with
  | .finish _ => (b.pop.moveTo b.returnMode).done
  | .finale => b.pop.again b.returnMode
  | _ => b.done

theorem afterBody_finale (b : Building) : b.afterBody .finale = b.done := rfl

end FeatureScan.Markup.Building
