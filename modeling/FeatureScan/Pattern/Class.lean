import FeatureScan.Pattern.Escape

/-!
# Classes in brackets

Classes hold characters, ranges, escapes, named classes of ASCII and classes in turn, and combine
with what stands before them by intersection, difference and symmetric difference, from the left.

## Main results

* `asciiClass?_ascii`: the named class of all of ASCII.
-/

namespace FeatureScan.Pattern

/-- The named classes of ASCII. -/
def asciiClass? (name : String) : Option CharSet :=
  match name with
  | "alnum" => some (.ofRanges [(48, 57), (65, 90), (97, 122)])
  | "alpha" => some (.ofRanges [(65, 90), (97, 122)])
  | "ascii" => some (.range 0 0x7F)
  | "blank" => some (.ofRanges [(9, 9), (32, 32)])
  | "cntrl" => some (.ofRanges [(0, 0x1F), (0x7F, 0x7F)])
  | "digit" => some asciiDigits
  | "graph" => some (.range 33 126)
  | "lower" => some (.range 97 122)
  | "print" => some (.range 32 126)
  | "punct" => some (.ofRanges [(33, 47), (58, 64), (91, 96), (123, 126)])
  | "space" => some asciiBlanks
  | "upper" => some (.range 65 90)
  | "word" => some asciiWords
  | "xdigit" => some (.ofRanges [(48, 57), (65, 70), (97, 102)])
  | _ => none

theorem asciiClass?_ascii : asciiClass? "ascii" = some (.range 0 0x7F) := rfl

/-- The items of a class so far. -/
structure ClassItems where
  /-- Their characters. -/
  chars : CharSet := .empty
  /-- How many there are. -/
  count : Nat := 0
  /-- How deep the deepest of them is. -/
  depth : Nat := 0

/-- One side of an operation on classes. -/
structure ClassSide where
  /-- Its characters. -/
  chars : CharSet
  /-- How deep it is. -/
  depth : Nat

/-- Adds an item. -/
def ClassItems.add (i : ClassItems) (set : CharSet) (depth : Nat) : ClassItems :=
  ⟨i.chars.union set, i.count + 1, Nat.max i.depth depth⟩

/-- The items as one side of an operation: more than one of them are a union. -/
def ClassItems.side (i : ClassItems) : ClassSide :=
  ⟨i.chars, if 1 < i.count then i.depth + 1 else i.depth⟩

/-- The operations on classes. -/
inductive ClassOp
  /-- What both have. -/
  | inter
  /-- What the first has and the second lacks. -/
  | diff
  /-- What exactly one has. -/
  | symmDiff

/-- The operation on two sets. -/
def ClassOp.apply : ClassOp → CharSet → CharSet → CharSet
  | inter => CharSet.inter
  | diff => CharSet.diff
  | symmDiff => CharSet.symmDiff

/-- The operation that two equal characters stand for. -/
def ClassOp.ofChars? (a b : Char) : Option ClassOp :=
  if a != b then none
  else
    match a with
    | '&' => some inter
    | '-' => some diff
    | '~' => some symmDiff
    | _ => none

/-- A class that is open. -/
structure OpenClass where
  /-- What the class around it held before. -/
  around : ClassItems
  /-- Whether it is negated. -/
  negated : Bool
  /-- The operation that waits for its second side, and the first side. -/
  pending : Option (ClassOp × ClassSide)

/-- A set with its variants in case, if the switches ask for them. -/
def withVariants (s : Switches) (set : CharSet) : CharSet :=
  if s.ignoreCase then
    if s.unicode then Unicode.foldedSet set
    else (Unicode.foldedSet set).inter (.range 0 0x7F)
  else set

/-- Carries out the operation that waits, with a second side. -/
def OpenClass.close (s : Switches) (o : OpenClass) (right : ClassSide) : ClassSide :=
  match o.pending with
  | none => right
  | some (op, left) =>
    ⟨op.apply (withVariants s left.chars) (withVariants s right.chars),
      Nat.max left.depth right.depth + 1⟩

/-- Reads hyphens at the start of a class, which mean themselves. -/
def leadingHyphens (s : Switches) : Nat → ClassItems → List Char → Option (ClassItems × List Char)
  | _, _, [] => none
  | 0, i, cs => some (i, cs)
  | room + 1, i, c :: cs =>
    if c == '-' then leadingHyphens s room (i.add (.single '-') 0) (skip s cs)
    else some (i, c :: cs)

/-- Reads the opening of a class, behind its bracket: the sign of negation, hyphens, and a closing
bracket that means itself since it comes first. -/
def readClassStart (s : Switches) (cs : List Char) : Option (Bool × ClassItems × List Char) :=
  let cs := skip s cs
  let (negated, cs) :=
    match cs with
    | '^' :: rest => (true, skip s rest)
    | cs => (false, cs)
  match leadingHyphens s cs.length {} cs with
  | none => none
  | some (items, cs) =>
    match cs with
    | ']' :: rest =>
      if items.count == 0 then
        match skip s rest with
        | [] => none
        | rest => some (negated, items.add (.single ']') 0, rest)
      else some (negated, items, cs)
    | cs => some (negated, items, cs)

/-- Reads a named class of ASCII, behind its bracket, if there is one. -/
def readAsciiClass? (s : Switches) : List Char → Option (Option CharSet × List Char)
  | ':' :: cs =>
    let (negated, cs) :=
      match cs with
      | '^' :: rest => (true, rest)
      | cs => (false, cs)
    match cs.dropWhile (· != ':') with
    | ':' :: ']' :: rest =>
      (asciiClass? (String.ofList (cs.takeWhile (· != ':')))).map fun set =>
        (finishClass s negated set, rest)
    | _ => none
  | _ => none

/-- Reads one atom of a class. -/
def readClassAtom (s : Switches) : List Char → Option (Atom × List Char)
  | [] => none
  | '\\' :: cs => readEscape s cs
  | c :: cs => some (.char c false, cs)

/-- The code point of a character in a class; without Unicode it is to be one of ASCII. -/
def classPoint? (s : Switches) : Atom → Option Nat
  | .char c _ => if s.unicode || c.toNat < 0x80 then some c.toNat else none
  | _ => none

/-- The set of an atom in a class. Conditions have none. -/
def classSet? (s : Switches) (a : Atom) : Option CharSet :=
  match a with
  | .set chars => some chars
  | .look _ => none
  | a => (classPoint? s a).map fun n => .range n n

/-- Reads a character, a range or an escape in a class. A hyphen is no range before a closing
bracket or another hyphen. -/
def readClassItem (s : Switches) (cs : List Char) : Option (CharSet × List Char) :=
  match readClassAtom s cs with
  | none => none
  | some (a, rest) =>
    match skip s rest with
    | [] => none
    | c :: rest =>
      let isRange := c == '-' && ahead? s rest != some ']' && ahead? s rest != some '-'
      if isRange then
        match readClassAtom s (skip s rest) with
        | none => none
        | some (b, rest') =>
          match classPoint? s a, classPoint? s b with
          | some lo, some hi => if lo ≤ hi then some (.range lo hi, rest') else none
          | _, _ => none
      else (classSet? s a).map fun set => (set, c :: rest)

/-- Reads a class up to its end; `levels` are the open classes, innermost first, and `items` are
those of the innermost. Every round takes a character, so `room` need not exceed the length of the
text. -/
def readClassFrom (s : Switches) :
    Nat → List OpenClass → ClassItems → List Char → Option (ClassSide × List Char)
  | 0, _, _, _ => none
  | room + 1, levels, items, cs =>
    match levels, skip s cs with
    | [], _ => none
    | _, [] => none
    | level :: outer, c :: cs =>
      let next := cs.head?.getD ' '
      if c == '[' then
        match readAsciiClass? s cs with
        | some (some set, rest) => readClassFrom s room (level :: outer) (items.add set 0) rest
        | some (none, _) => none
        | none =>
          match readClassStart s cs with
          | none => none
          | some (negated, inner, rest) =>
            readClassFrom s room (⟨items, negated, none⟩ :: level :: outer) inner rest
      else if c == ']' then
        let side := level.close s items.side
        match finishClass s level.negated side.chars with
        | none => none
        | some set =>
          if outer.isEmpty then some (⟨set, side.depth + 1⟩, cs)
          else readClassFrom s room outer (level.around.add set (side.depth + 1)) cs
      else
        match ClassOp.ofChars? c next with
        | some op =>
          let left := level.close s items.side
          readClassFrom s room ({ level with pending := some (op, left) } :: outer) {} (cs.drop 1)
        | none =>
          match readClassItem s (c :: cs) with
          | none => none
          | some (set, rest) => readClassFrom s room (level :: outer) (items.add set 0) rest

/-- Reads a class, behind its bracket. -/
def readClass (s : Switches) (cs : List Char) : Option (ClassSide × List Char) :=
  match readClassStart s cs with
  | none => none
  | some (negated, items, rest) =>
    readClassFrom s (rest.length + 1) [⟨{}, negated, none⟩] items rest

end FeatureScan.Pattern
