import FeatureScan.Markup.Building

/-!
# Misnested formatting

An end tag of formatting may come while a block that began inside is still open. Then the formatting
is split: what is in the block gets a copy of it, and the block itself moves out.

## Main results

* `closeOrdinary_tree`: an ordinary end tag leaves the tree as it is.
-/

namespace FeatureScan.Markup.Building

/-- Takes an end tag that nothing special is known of: it closes the nearest element of its name, if
no special element lies before that. -/
def closeOrdinary (b : Building) (label : String) : Building :=
  let inner := b.stack.takeWhile fun o => !(o.name.isHtml label || o.name.isSpecial)
  match b.stack.drop inner.length with
  | o :: outer =>
    if o.name.isHtml label then { b with stack := outer } else b
  | [] => b

/-- What has been done to the elements between some formatting and a block in it. -/
structure Reopening where
  /-- The document. -/
  building : Building
  /-- How many elements have been looked at. -/
  count : Nat
  /-- The elements that stay open, the innermost first, in reverse. -/
  kept : List OpenElement
  /-- The node to be put into the next copy. -/
  last : Nat
  /-- The first copy, behind which the new formatting is noted. -/
  anchor? : Option Nat

/-- Replaces the entry for an element. -/
def renote (b : Building) (id : Nat) (f : Formatting) : Building :=
  { b with formatting := b.formatting.map fun g => if g.isFor id then f else g }

/-- Notes formatting behind the entry for an element. -/
def noteBehind (b : Building) (id : Nat) (f : Formatting) : Building :=
  { b with formatting := b.formatting.flatMap fun g => if g.isFor id then [f, g] else [g] }

/-- Copies one of the elements between some formatting and a block, and puts the last node into the
copy. An element that is no formatting, and every element behind the third, is closed instead. -/
def reopen (r : Reopening) (o : OpenElement) : Reopening :=
  let count := r.count + 1
  let b := r.building
  let entry? := b.formatting.find? fun f => f.isFor o.id
  match entry? with
  | some (.element _ tag) =>
    if count > 3 then { r with count, building := b.forget o.id }
    else
      let copy := b.tree.size
      let tree := (b.tree.create (.html tag.name) tag.attributes).append copy r.last
      { building := { b with tree }.renote o.id (.element copy tag)
        count
        kept := ⟨copy, .html tag.name⟩ :: r.kept
        last := copy
        anchor? := r.anchor?.or (some copy) }
  | _ => { r with count }

/-- Splits formatting at a block: `inner` are the open elements within the block, `between` those
from the block out to the formatting, and `outer` those around it. -/
def split (b : Building) (id : Nat) (tag : Tag) (block : OpenElement)
    (inner between outer : List OpenElement) : Building :=
  let r := between.foldl reopen ⟨b, 0, [], block.id, none⟩
  let b := r.building
  let b := { b with
    tree := match outer with
      | ancestor :: _ => putAt (b.tree.detach r.last) r.last (b.slotIn ancestor)
      | [] => b.tree }
  let copy := b.tree.size
  let tree := b.tree.create (.html tag.name) tag.attributes
  let tree := (tree.handOver block.id copy).append block.id copy
  let entry := Formatting.element copy tag
  let b := { b with tree }
  let b := match r.anchor? with
    | none => b.renote id entry
    | some anchor => (b.noteBehind anchor entry).forget id
  { b with stack := inner ++ ⟨copy, .html tag.name⟩ :: block :: (r.kept.reverse ++ outer) }

/-- Takes an end tag of formatting up to so many times. -/
def closeFormattingUpTo (label : String) : Nat → Building → Building
  | 0, b => b
  | n + 1, b =>
    let entry? := b.reachable.find? fun f =>
      match f with
      | .element _ tag => tag.name == label
      | .marker => false
    match entry? with
    | some (.element id tag) =>
      let above := b.stack.takeWhile fun o => o.id != id
      match b.stack.drop above.length with
      | [] => b.forget id
      | o :: outer =>
        if !inScope ElementName.bounds (fun o => o.id == id) b.stack then b
        else
          -- The block is the outermost special element within the formatting.
          let between := (above.reverse.takeWhile fun o => !o.name.isSpecial).reverse
          let within := above.take (above.length - between.length)
          match within.reverse with
          | [] => { b with stack := outer }.forget o.id
          | block :: inner =>
            closeFormattingUpTo label n (split b id tag block inner.reverse between outer)
    | _ => b.closeOrdinary label

/-- Takes an end tag of formatting. -/
def closeFormatting (b : Building) (label : String) : Building :=
  match b.current? with
  | some o =>
    if o.name.isHtml label && !b.isFormatting o.id then b.pop else closeFormattingUpTo label 8 b
  | none => b

/-- Closes a link that is open, since links do not nest. -/
def endLink (b : Building) : Building :=
  let link? := b.reachable.findSome? fun f =>
    match f with
    | .element id tag => if tag.name == "a" then some id else none
    | .marker => none
  match link? with
  | none => b
  | some id => ((b.closeFormatting "a").forget id).remove id

theorem closeOrdinary_tree (b : Building) (label : String) :
    (b.closeOrdinary label).tree = b.tree := by
  simp only [closeOrdinary]
  split
  · split <;> rfl
  · rfl

end FeatureScan.Markup.Building
