import FeatureScan.Markup.Rules.Ending

/-!
# Rules for foreign content, and which rules apply

Inside formulas and drawings tags are taken as they stand, until one comes that can only belong to
the main vocabulary.

## Main results

* `isForeign_finale`: the end of the text is never foreign.
-/

namespace FeatureScan.Markup.Building

/-- Takes a token by the rules of a mode. -/
def byMode (b : Building) (mode : Mode) (token : Token) : Building × Outcome :=
  match mode with
  | .initial => b.initial token
  | .beforeHtml => b.beforeHtml token
  | .beforeHead => b.beforeHead token
  | .inHead => b.inHead token
  | .afterHead => b.afterHead token
  | .inBody => b.inBody token
  | .rawText => b.rawText token
  | .inTable => b.inTable token
  | .tableText => b.tableText token
  | .inCaption => b.inCaption token
  | .inColumns => b.inColumns token
  | .inTableBody => b.inTableBody token
  | .inRow => b.inRow token
  | .inCell => b.inCell token
  | .inSelect => b.inSelect token
  | .inTableSelect => b.inTableSelect token
  | .inTemplate => b.inTemplate token
  | .afterBody => b.afterBody token
  | .inFrames => b.inFrames token
  | .afterFrames => b.afterFrames token
  | .afterAfterBody => b.afterAfterBody token
  | .afterAfterFrames => b.afterAfterFrames token

/-- Whether a token is character data. -/
def isCharacters : Token → Bool
  | .lineBreak | .blank | .text | .null => true
  | _ => false

/-- Whether a token is taken by the rules for foreign content, by the current element. -/
def isForeignIn (n : ElementName) (token : Token) : Bool :=
  if n.vocabulary == .html then false
  else
    match token with
    | .finale => false
    | .start tag =>
      !(n.isFormulaText && tag.name != "mglyph" && tag.name != "malignmark") && !n.isDrawingText &&
        !(n == ⟨.math, "annotation-xml"⟩ && tag.name == "svg")
    | token => !(isCharacters token && (n.isFormulaText || n.isDrawingText))

/-- Whether a token is taken by the rules for foreign content. -/
def isForeign (b : Building) (token : Token) : Bool := b.currentIs fun n => isForeignIn n token

/-- Labels of elements that cannot be foreign. -/
def domesticLabels : List String := [
  "b", "big", "blockquote", "body", "br", "center", "code", "dd", "div", "dl", "dt", "em", "embed",
  "h1", "h2", "h3", "h4", "h5", "h6", "head", "hr", "i", "img", "li", "listing", "menu", "meta",
  "nobr", "ol", "p", "pre", "ruby", "s", "small", "span", "strong", "strike", "sub", "sup", "table",
  "tt", "u", "ul", "var"]

/-- Whether a start tag ends foreign content. -/
def isDomestic (tag : Tag) : Bool :=
  domesticLabels.contains tag.name ||
    (tag.name == "font" &&
      ["color", "face", "size"].any fun a => (valueOf? tag.attributes a).isSome)

/-- Leaves foreign content, so that the token is taken again outside of it. -/
def leaveForeign (b : Building) : Building × Outcome :=
  (b.pop.popBackTo fun n => n.vocabulary == .html || n.isFormulaText || n.isDrawingText, .retry)

/-- Takes an end tag in foreign content: it closes the nearest element of its name, as long as that
is foreign too. -/
def finishInForeign (name : String) (b : Building) (isFirst : Bool) :
    List OpenElement → Building × Outcome
  | [] => b.done
  | [_] => b.done
  | o :: os =>
    if !isFirst && o.name.vocabulary == .html then b.byMode b.mode (.finish name)
    else if o.name.label == name then { b with stack := os }.done
    else finishInForeign name b false os

/-- In foreign content. -/
def inForeign (b : Building) (token : Token) : Building × Outcome :=
  match token with
  | .text => b.forbidFrames.done
  | .start tag =>
    if isDomestic tag then b.leaveForeign
    else
      match b.current? with
      | some o => (b.enterForeign o.name.vocabulary tag).done
      | none => b.done
  | .finish name =>
    if name == "br" || name == "p" then b.leaveForeign else finishInForeign name b true b.stack
  | _ => b.done

/-- Takes a token once. -/
def takeOnce (b : Building) (token : Token) : Building × Outcome :=
  if b.isForeign token then b.inForeign token else b.byMode b.mode token

/-- Takes a token until nothing more is to be done, and tells how the text goes on if it is not as
data. `fuel` bounds how often the token is taken again. -/
def takeUpTo (token : Token) : Nat → Building → Building × Option Content
  | 0, b => (b, none)
  | fuel + 1, b =>
    match b.takeOnce token with
    | (b, .done) => (b, none)
    | (b, .again mode) => takeUpTo token fuel (b.moveTo mode)
    | (b, .retry) => takeUpTo token fuel b
    | (b, .content c) => (b, some c)

/-- A bound for how often a token is taken: each time closes an element or comes to a later mode. -/
def patience (b : Building) : Nat := 4 * b.stack.length + 64

/-- Takes a token. A line break right behind the start of preformatted text is dropped. -/
def take (b : Building) (token : Token) : Building × Option Content :=
  let skips := b.skipsBreak
  let b := { b with skipsBreak := false }
  if skips && token == .lineBreak then (b, none)
  else
    match token with
    | .doctype d => (if b.mode == .initial then (b.initial (.doctype d)).1 else b, none)
    | token => takeUpTo token b.patience b

theorem isForeign_finale (b : Building) : b.isForeign .finale = false := by
  unfold isForeign currentIs
  cases b.current? with
  | none => rfl
  | some o => simp [isForeignIn]

end FeatureScan.Markup.Building
