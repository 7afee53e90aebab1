import FeatureScan.Markup.Token
import FeatureScan.Markup.Tree

/-!
# Building a tree

The state that tags act on: the tree, the elements that are open, the elements for formatting that
are to be opened again where something closed them by accident, and the mode that tells how the next
token is taken.

## Main results

* `inScope_of_mem`: an element above all bounds is in scope.
* `formatting_clearToMarker_length_le`: clearing the formatting never adds to it.
-/

namespace FeatureScan.Markup

/-- The mode tells how the next token is taken. -/
inductive Mode
  | initial
  | beforeHtml
  | beforeHead
  | inHead
  | afterHead
  | inBody
  | rawText
  | inTable
  | tableText
  | inCaption
  | inColumns
  | inTableBody
  | inRow
  | inCell
  | inSelect
  | inTableSelect
  | inTemplate
  | afterBody
  | inFrames
  | afterFrames
  | afterAfterBody
  | afterAfterFrames
  deriving DecidableEq, Repr

/-- An open element. -/
structure OpenElement where
  /-- Its number in the tree. -/
  id : Nat
  /-- Its name. -/
  name : ElementName
  deriving DecidableEq, Repr

/-- An entry of the list of formatting. -/
inductive Formatting
  /-- What stands before it is out of reach. -/
  | marker
  /-- An element with the tag that made it. -/
  | element (id : Nat) (tag : Tag)
  deriving DecidableEq, Repr

namespace Formatting

/-- Whether an entry is a marker. -/
def isMarker : Formatting → Bool
  | marker => true
  | element .. => false

/-- Whether an entry is for an element. -/
def isFor (id : Nat) : Formatting → Bool
  | marker => false
  | element i _ => i == id

end Formatting

/-- A document being built. -/
structure Building where
  /-- The tree so far. -/
  tree : Tree := {}
  /-- The open elements, the current one first. -/
  stack : List OpenElement := []
  /-- The formatting, the latest first. -/
  formatting : List Formatting := []
  /-- The modes of the open templates, the innermost first. -/
  templates : List Mode := []
  /-- The mode. -/
  mode : Mode := .initial
  /-- The mode to come back to behind raw text or the text of a table. -/
  returnMode : Mode := .initial
  /-- The head, once there is one. -/
  head? : Option Nat := none
  /-- The form that is open. -/
  form? : Option Nat := none
  /-- Whether frames may still take the place of the body. -/
  framesAllowed : Bool := true
  /-- Whether what cannot stand in a table is put before it. -/
  fostering : Bool := false
  /-- Whether this is an old document. -/
  isOld : Bool := false
  /-- Whether the text of a table that has been put off is more than blank. -/
  textPending : Bool := false
  /-- Whether a line break that follows at once is dropped. -/
  skipsBreak : Bool := false

/-- What comes of a token. -/
inductive Outcome
  /-- Nothing more is to be done. -/
  | done
  /-- The mode changes and the token is taken again. -/
  | again (mode : Mode)
  /-- The token is taken again in the same mode. -/
  | retry
  /-- The element just opened holds other text than data. -/
  | content (c : Content)

namespace Building

/-! ## Open elements -/

/-- The current element. -/
def current? (b : Building) : Option OpenElement := b.stack.head?

/-- Whether the current element is in a class. -/
def currentIs (b : Building) (p : ElementName → Bool) : Bool := b.current?.any fun o => p o.name

/-- Whether the current element has a given name. -/
def currentNamed (b : Building) (label : String) : Bool := b.currentIs (ElementName.isHtml label)

/-- Closes the current element. -/
def pop (b : Building) : Building := { b with stack := b.stack.drop 1 }

/-- Closes elements up to and with one of a class. -/
def popThrough (b : Building) (p : ElementName → Bool) : Building :=
  { b with stack := (b.stack.dropWhile fun o => !p o.name).drop 1 }

/-- Closes elements up to and with one of a given name. -/
def popThroughNamed (b : Building) (label : String) : Building :=
  b.popThrough (ElementName.isHtml label)

/-- Closes elements until the current one is in a class. -/
def popBackTo (b : Building) (p : ElementName → Bool) : Building :=
  { b with stack := b.stack.dropWhile fun o => !p o.name }

/-- Closes current elements as long as they are in a class. -/
def popWhile (b : Building) (p : ElementName → Bool) : Building :=
  { b with stack := b.stack.dropWhile fun o => p o.name }

/-- Closes an element wherever it is among the open ones. -/
def remove (b : Building) (id : Nat) : Building :=
  { b with stack := b.stack.filter fun o => o.id != id }

/-- Whether an element that passes a test is open and no bound hides it. -/
def inScope (bounds : ElementName → Bool) (p : OpenElement → Bool) : List OpenElement → Bool
  | [] => false
  | o :: os => p o || (!bounds o.name && inScope bounds p os)

/-- Whether an element of a given name is in scope. -/
def hasInScope (b : Building) (bounds : ElementName → Bool) (label : String) : Bool :=
  inScope bounds (fun o => o.name.isHtml label) b.stack

/-- Whether an element of a class is in scope. -/
def hasClassInScope (b : Building) (bounds p : ElementName → Bool) : Bool :=
  inScope bounds (fun o => p o.name) b.stack

/-- Whether an element of a given name is open. -/
def isOpen (b : Building) (label : String) : Bool := b.stack.any fun o => o.name.isHtml label

/-- The outermost element. -/
def outermost? (b : Building) : Option OpenElement := b.stack.getLast?

/-- The body, if it is the second of the open elements. -/
def body? (b : Building) : Option OpenElement :=
  match b.stack.reverse with
  | _ :: o :: _ => if o.name.isHtml "body" then some o else none
  | _ => none

/-- Closes elements whose end tags may be left out. -/
def closeImplied (b : Building) : Building := b.popWhile ElementName.isCursorilyImplied

/-- Closes elements whose end tags may be left out, but none of a given name. -/
def closeImpliedExcept (b : Building) (label : String) : Building :=
  b.popWhile fun n => n.isCursorilyImplied && !n.isHtml label

/-- Closes a paragraph. -/
def closeParagraph (b : Building) : Building := (b.closeImpliedExcept "p").popThroughNamed "p"

/-- Closes a paragraph if there is one in scope. -/
def endParagraph (b : Building) : Building :=
  if b.hasInScope ElementName.boundsParagraphs "p" then b.closeParagraph else b

/-! ## Insertion -/

/-- Where a node is put. -/
inductive Slot
  /-- Behind the last child of a node. -/
  | last (parent : Nat)
  /-- Before a table, or if that has no parent behind the last child of another node. -/
  | before (table otherwise : Nat)

/-- The slot for what has no place inside a table. -/
def fosterSlot : List OpenElement → Slot
  | [] => .last 0
  | [o] => .last o.id
  | o :: next :: os =>
    if o.name.isHtml "template" then .last (Tree.contentsOf o.id)
    else if o.name.isHtml "table" then .before o.id next.id
    else fosterSlot (next :: os)

/-- The slot for a node that is meant for an element. -/
def slotIn (b : Building) (target : OpenElement) : Slot :=
  if b.fostering && target.name.refusesText then fosterSlot b.stack
  else if target.name.isHtml "template" then .last (Tree.contentsOf target.id)
  else .last target.id

/-- Puts a node into a slot. -/
def putAt (t : Tree) (id : Nat) : Slot → Tree
  | .last parent => t.append parent id
  | .before table otherwise =>
    if (t.parent? table).isSome then t.insertBefore table id else t.append otherwise id

/-- Puts a new element where it belongs. -/
def place (b : Building) (name : ElementName) (attributes : List Attribute) : Building :=
  let id := b.tree.size
  let tree := b.tree.create name attributes
  { b with tree := match b.current? with
      | some o => putAt tree id (b.slotIn o)
      | none => tree }

/-- Puts a new element where it belongs, and opens it. -/
def enter (b : Building) (name : ElementName) (attributes : List Attribute) : Building :=
  let id := b.tree.size
  let b := b.place name attributes
  { b with stack := ⟨id, name⟩ :: b.stack }

/-- Puts the element of a tag where it belongs, without opening it. -/
def placeTag (b : Building) (tag : Tag) : Building := b.place (.html tag.name) tag.attributes

/-- Puts the element of a tag where it belongs, and opens it. -/
def enterTag (b : Building) (tag : Tag) : Building := b.enter (.html tag.name) tag.attributes

/-- Opens an element for which there is no tag. -/
def enterNamed (b : Building) (label : String) : Building := b.enter (.html label) []

/-- Adds attributes to an element that has not got them. -/
def addAttributes (b : Building) (id : Nat) (attributes : List Attribute) : Building :=
  { b with tree := b.tree.addAttributes id attributes }

/-- Opens the element of a tag, which holds other text than data. -/
def enterContent (b : Building) (tag : Tag) (c : Content) : Building × Outcome :=
  ({ b.enterTag tag with mode := .rawText, returnMode := b.mode }, .content c)

/-- Opens the element of a tag, which holds raw text. -/
def enterRaw (b : Building) (tag : Tag) : Building × Outcome :=
  b.enterContent tag (.raw tag.name.toList)

/-! ## Formatting -/

/-- The formatting up to the last marker. -/
def reachable (b : Building) : List Formatting := b.formatting.takeWhile fun f => !f.isMarker

/-- Drops formatting through the last marker. -/
def clearToMarker (b : Building) : Building :=
  { b with formatting := (b.formatting.dropWhile fun f => !f.isMarker).drop 1 }

/-- Sets a marker. -/
def mark (b : Building) : Building := { b with formatting := .marker :: b.formatting }

/-- Drops the entry for an element. -/
def forget (b : Building) (id : Nat) : Building :=
  { b with formatting := b.formatting.filter fun f => !f.isFor id }

/-- Whether there is an entry for an element. -/
def isFormatting (b : Building) (id : Nat) : Bool := b.formatting.any (·.isFor id)

/-- Whether an entry is a marker or for an open element. -/
def isMarkerOrOpen (b : Building) : Formatting → Bool
  | .marker => true
  | .element id _ => b.stack.any fun o => o.id == id

/-- Opens an element of formatting and notes it. -/
def enterFormatting (b : Building) (tag : Tag) : Building :=
  let id := b.tree.size
  let b := b.enterTag tag
  { b with formatting := .element id tag :: b.formatting }

/-- Opens again what has been closed by accident since the last marker. -/
def restoreFormatting (b : Building) : Building :=
  let closed := b.formatting.takeWhile fun f => !b.isMarkerOrOpen f
  let kept := b.formatting.drop closed.length
  closed.reverse.foldl (fun b f =>
    match f with
    | .marker => b
    | .element _ tag => b.enterFormatting tag) { b with formatting := kept }

/-- Whether two tags have the same name and, in any order, the same attributes. -/
def isAlike (s t : Tag) : Bool :=
  s.name == t.name && s.attributes.length == t.attributes.length &&
    s.attributes.all fun a => t.attributes.contains a

/-- Opens an element of formatting. Of elements that are alike only three are kept in reach, so the
oldest of them goes. -/
def beginFormatting (b : Building) (tag : Tag) : Building :=
  let alike := b.reachable.filterMap fun f =>
    match f with
    | .element id t => if isAlike tag t then some id else none
    | .marker => none
  let b := if alike.length < 3 then b else alike.getLast?.elim b b.forget
  b.enterFormatting tag

/-! ## Modes -/

/-- The mode for a selection, by the elements around it. -/
def selectMode : List OpenElement → Mode
  | [] => .inSelect
  | o :: os =>
    if o.name.isHtml "template" then .inSelect
    else if o.name.isHtml "table" then .inTableSelect
    else selectMode os

/-- The mode that the open elements ask for. -/
def modeOf (templates : List Mode) (hasHead : Bool) : List OpenElement → Mode
  | [] => .inBody
  | o :: os =>
    if o.name.vocabulary != .html then modeOf templates hasHead os
    else
      match o.name.label with
      | "select" => selectMode os
      | "td" | "th" => if os.isEmpty then .inBody else .inCell
      | "tr" => .inRow
      | "tbody" | "thead" | "tfoot" => .inTableBody
      | "caption" => .inCaption
      | "colgroup" => .inColumns
      | "table" => .inTable
      | "template" => templates.head?.getD .inBody
      | "head" => if os.isEmpty then .inBody else .inHead
      | "body" => .inBody
      | "frameset" => .inFrames
      | "html" => if hasHead then .afterHead else .beforeHead
      | _ => modeOf templates hasHead os

/-- The mode that the open elements ask for. -/
def properMode (b : Building) : Mode := modeOf b.templates b.head?.isSome b.stack

/-- Changes to the mode that the open elements ask for. -/
def resetMode (b : Building) : Building := { b with mode := b.properMode }

/-- Frames may not take the place of the body any more. -/
def forbidFrames (b : Building) : Building := { b with framesAllowed := false }

/-- Changes the mode. -/
def moveTo (b : Building) (mode : Mode) : Building := { b with mode }

/-- Nothing more is to be done. -/
def done (b : Building) : Building × Outcome := (b, .done)

/-- The token is taken again in another mode. -/
def again (b : Building) (mode : Mode) : Building × Outcome := (b, .again mode)

/-! ## Laws -/

theorem inScope_of_mem {bounds : ElementName → Bool} {p : OpenElement → Bool}
    {inner outer : List OpenElement} {o : OpenElement} (hp : p o = true)
    (h : ∀ i ∈ inner, bounds i.name = false) : inScope bounds p (inner ++ o :: outer) = true := by
  induction inner with
  | nil => simp [inScope, hp]
  | cons i inner ih =>
    have hi := h i (by simp)
    have := ih fun j hj => h j (List.mem_cons_of_mem _ hj)
    simp [inScope, hi, this]

theorem formatting_clearToMarker_length_le (b : Building) :
    b.clearToMarker.formatting.length ≤ b.formatting.length := by
  have h : (b.formatting.dropWhile fun f => !f.isMarker).Sublist b.formatting :=
    List.dropWhile_sublist _
  have := h.length_le
  simp [clearToMarker]
  omega

end Building

end FeatureScan.Markup
