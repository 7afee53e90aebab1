import FeatureScan.Pattern.Class
import FeatureScan.Pattern.Reach
import FeatureScan.Pattern.Size

/-!
# Patterns

Reading a pattern. What is read is checked as it is read: groups and classes are closed, repetitions
have something to repeat, names of groups are used once, nesting stays within a limit, and so does
the room that a machine for the pattern takes.

## Main results

* `read?_empty`: the empty pattern is one, and matches nothing in particular.
-/

namespace FeatureScan

/-- A pattern that has been read. -/
structure Pattern where
  /-- Its text. -/
  source : String
  /-- What it matches. -/
  node : Pattern.Node
  deriving DecidableEq, Repr

namespace Pattern

/-- Whether a pattern matches anywhere in a subject. -/
def occursIn (p : Pattern) (s : Subject) : Bool := p.node.occursIn s

/-! ## Sizes -/

/-- How deeply a pattern may be nested. -/
def nestingLimit : Nat := 250

/-- A part of a pattern, with what has to be known of it for what it becomes part of. -/
structure Piece where
  /-- What it matches. -/
  node : Node
  /-- How deeply it is nested. -/
  depth : Nat := 0
  /-- Whether it can be repeated: switches cannot. -/
  repeatable : Bool := true

/-- The piece of pieces one after another. -/
def Piece.seqs : List Piece → Piece
  | [] => { node := .empty, repeatable := false }
  | [p] => p
  | ps =>
    { node := .seqs (ps.map Piece.node)
      depth := ps.foldl (fun d p => Nat.max d p.depth) 0 + 1 }

/-- The piece of pieces of which one is to match. -/
def Piece.alts : List Piece → Piece
  | [p] => p
  | ps =>
    { node := .alts (ps.map Piece.node)
      depth := ps.foldl (fun d p => Nat.max d p.depth) 0 + 1 }

/-- A repetition of a piece. -/
def Piece.repeated (min : Nat) (max : Option Nat) (p : Piece) : Piece :=
  { node := .repeated min max p.node, depth := p.depth + 1 }

/-! ## Repetitions -/

/-- A decimal number of at most 32 bits, between blanks. -/
def digitRun (s : Switches) (cs : List Char) : List Char × List Char :=
  match cs with
  | [] => ([], [])
  | c :: cs =>
    if c.isDigit then
      let r := digitRun s (skip s cs)
      (c :: r.1, r.2)
    else ([], c :: cs)
  termination_by cs.length
  decreasing_by
    have := length_skip_le s cs
    simp
    omega

/-- The number that digits write, if there is one and it has at most 32 bits. -/
def count? (digits : List Char) : Option Nat :=
  if digits.isEmpty then none
  else
    let n := digits.foldl (fun v c => 10 * v + (c.toNat - 48)) 0
    if n < Nat.pow 2 32 then some n else none

/-- Reads a decimal number between blanks; `none` stands for a missing or an excessive one. -/
def readCount (s : Switches) (cs : List Char) : Option Nat × List Char :=
  let r := digitRun s (cs.dropWhile Text.isBlank)
  (count? r.1, r.2.dropWhile Text.isBlank)

/-- Drops the sign that makes a repetition prefer few. -/
def dropLazy : List Char → List Char
  | '?' :: cs => cs
  | cs => cs

/-- Reads a counted repetition, behind its brace. -/
def readCounts (s : Switches) (cs : List Char) : Option ((Nat × Option Nat) × List Char) :=
  let finish (min : Nat) (max : Option Nat) (cs : List Char) :
      Option ((Nat × Option Nat) × List Char) :=
    match cs with
    | '\x7d' :: rest =>
      if max.all (min ≤ ·) then some ((min, max), dropLazy (skip s rest)) else none
    | _ => none
  match readCount s (skip s cs) with
  | (none, _) => none
  | (some min, ',' :: rest) =>
    match skip s rest with
    | '\x7d' :: rest => finish min none ('\x7d' :: rest)
    | rest =>
      match readCount s rest with
      | (none, _) => none
      | (some max, rest) => finish min (some max) rest
  | (some n, rest) => finish n (some n) rest

/-! ## Groups -/

/-- Whether a character may stand in the name of a group. -/
def isNameChar (first : Bool) (c : Char) : Bool :=
  c == '_' || Unicode.alphabetic.contains c ||
    (!first && (c == '.' || c == '[' || c == ']' ||
      (Unicode.categoryUnion ["nd", "nl", "no"]).contains c))

/-- Reads the name of a group up to the closing angle and behind it. -/
def readName (cs : List Char) : Option (String × List Char) :=
  let name := cs.takeWhile (· != '>')
  match cs.dropWhile (· != '>'), name with
  | '>' :: rest, c :: more =>
    if isNameChar true c && more.all (isNameChar false) then some (String.ofList name, rest)
    else none
  | _, _ => none

/-- What an opening parenthesis introduces. -/
inductive Opening
  /-- Switches for what follows. -/
  | switches (list : SwitchList)
  /-- A group with switches of its own, that is not counted. -/
  | plain (list : SwitchList)
  /-- A counted group, with a name or without. -/
  | counted (name : Option String)

/-- Reads what follows an opening parenthesis. Conditions on what surrounds a match are refused. -/
def readOpening (s : Switches) (cs : List Char) : Option (Opening × List Char) :=
  match skip s cs with
  | '?' :: '=' :: _ => none
  | '?' :: '!' :: _ => none
  | '?' :: '<' :: '=' :: _ => none
  | '?' :: '<' :: '!' :: _ => none
  | '?' :: 'P' :: '<' :: cs => (readName cs).map fun r => (.counted (some r.1), r.2)
  | '?' :: '<' :: cs => (readName cs).map fun r => (.counted (some r.1), r.2)
  | '?' :: cs =>
    match readSwitches {} cs with
    | none => none
    | some (l, ')', rest) => if l.seen.isEmpty then none else some (.switches l, rest)
    | some (l, _, rest) => some (.plain l, rest)
  | cs => some (.counted none, cs)

/-! ## Reading -/

/-- A group that is open. -/
structure OpenPiece where
  /-- The pieces before it, in reverse. -/
  items : List Piece
  /-- The alternatives before it, in reverse. -/
  branches : List Piece
  /-- The switches to be restored behind it. -/
  switches : Switches
  /-- Whether it is counted. -/
  counted : Bool

/-- How far a pattern has been read. -/
structure Progress where
  /-- The open groups, innermost first. -/
  groups : List OpenPiece := []
  /-- The pieces of the alternative being read, in reverse. -/
  items : List Piece := []
  /-- The alternatives of the innermost group, in reverse. -/
  branches : List Piece := []
  /-- The switches that hold. -/
  switches : Switches
  /-- The names of groups in use. -/
  names : List String := []

namespace Progress

/-- Adds a piece. -/
def add (r : Progress) (p : Piece) : Progress := { r with items := p :: r.items }

/-- The piece of everything in the innermost group. -/
def whole (r : Progress) : Piece :=
  .alts (Piece.seqs r.items.reverse :: r.branches).reverse

/-- Repeats the last piece, if there is one that can be repeated. -/
def repeatLast (r : Progress) (min : Nat) (max : Option Nat) : Option Progress :=
  match r.items with
  | p :: ps => if p.repeatable then some { r with items := .repeated min max p :: ps } else none
  | [] => none

/-- Opens a group. -/
def openGroup (r : Progress) (counted : Bool) : Progress :=
  { r with groups := ⟨r.items, r.branches, r.switches, counted⟩ :: r.groups, items := [],
           branches := [] }

/-- Closes the innermost group, if one is open. -/
def closeGroup (r : Progress) : Option Progress :=
  match r.groups with
  | [] => none
  | g :: gs =>
    let p := r.whole
    let p : Piece :=
      { node := if g.counted then .group p.node else p.node, depth := p.depth + 1 }
    some { r with groups := gs, items := p :: g.items, branches := g.branches,
                  switches := g.switches }

/-- Takes up what an opening parenthesis has introduced. -/
def opened (r : Progress) : Opening → Option Progress
  | .switches l =>
    let r := { r with switches := r.switches.apply l }
    some (r.add { node := .empty, repeatable := false })
  | .plain l =>
    let r := r.openGroup false
    some { r with switches := r.switches.apply l }
  | .counted none => some (r.openGroup true)
  | .counted (some name) =>
    if r.names.contains name then none
    else some { r.openGroup true with names := name :: r.names }

/-- The piece of an atom. Without Unicode a character written as one byte is to be one of ASCII. -/
def atom? (s : Switches) : Atom → Option Piece
  | .set chars => some { node := .chars chars }
  | .look l => some { node := .look l }
  | .char c byte =>
    if !s.unicode && byte && 0x80 ≤ c.toNat then none
    else
      let set :=
        if !s.ignoreCase then .single c
        else if s.unicode then Unicode.foldedChar c
        else if c.toNat < 0x80 then (Unicode.foldedChar c).inter (.range 0 0x7F)
        else .single c
      some { node := .chars set }

/-- The piece of a dot. Without Unicode a dot would take parts of characters. -/
def dot? (s : Switches) : Option Piece :=
  let set :=
    if s.dotAll then .full
    else if s.returns then CharSet.compl (.ofRanges [(10, 10), (13, 13)])
    else CharSet.compl (.range 10 10)
  if s.unicode then some { node := .chars set } else none

/-- Reads on by one construct, behind its first character. -/
def step (r : Progress) (c : Char) (cs : List Char) : Option (Progress × List Char) :=
  let s := r.switches
  match c with
  | '(' => (readOpening s cs).bind fun o => (r.opened o.1).map fun r => (r, o.2)
  | ')' => r.closeGroup.map fun r => (r, cs)
  | '|' =>
    some ({ r with branches := .seqs r.items.reverse :: r.branches, items := [] }, cs)
  | '[' =>
    (readClass s cs).map fun k =>
      (r.add { node := .chars k.1.chars, depth := k.1.depth }, k.2)
  | '?' => (r.repeatLast 0 (some 1)).map fun r => (r, dropLazy cs)
  | '*' => (r.repeatLast 0 none).map fun r => (r, dropLazy cs)
  | '+' => (r.repeatLast 1 none).map fun r => (r, dropLazy cs)
  | '\x7b' => (readCounts s cs).bind fun k => (r.repeatLast k.1.1 k.1.2).map fun r => (r, k.2)
  | '\\' => (readEscape s cs).bind fun a => (atom? s a.1).map fun p => (r.add p, a.2)
  | '.' => (dot? s).map fun p => (r.add p, cs)
  | '^' => some (r.add { node := .look (if s.multiLine then .lineStart s.returns else .start) }, cs)
  | '$' =>
    some (r.add { node := .look (if s.multiLine then .lineFinish s.returns else .finish) }, cs)
  | c => (atom? s (.char c false)).map fun p => (r.add p, cs)

/-- Reads to the end. Every step takes a character, so `room` need not exceed the length of the
text. -/
def run : Nat → Progress → List Char → Option Progress
  | 0, _, _ => none
  | room + 1, r, cs =>
    match skip r.switches cs with
    | [] => some r
    | c :: cs =>
      match r.step c cs with
      | some (r, rest) => run room r rest
      | none => none

/-- The piece of the whole pattern, if every group is closed and the limits are kept. -/
def finish (r : Progress) : Option Piece :=
  let p := r.whole
  if r.groups.isEmpty && p.depth ≤ nestingLimit && p.node.fits then some p else none

end Progress

/-- Reads a pattern, whose letters stand for their variants in case if `ignoreCase` is true. -/
def read? (ignoreCase : Bool) (source : String) : Option Pattern :=
  let cs := source.toList
  (Progress.run (cs.length + 1) { switches := { ignoreCase } } cs).bind fun r =>
    r.finish.map fun p => ⟨source, p.node⟩

theorem read?_empty (ignoreCase : Bool) : read? ignoreCase "" = some ⟨"", .empty⟩ := by
  cases ignoreCase <;> rfl

end Pattern

end FeatureScan
