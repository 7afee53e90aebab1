import FeatureScan.Pattern.Node

/-!
# The size of the machine for a pattern

Patterns whose machine would take too much room are refused. There are two machines, one that reads
the bytes of a subject forwards and one that reads them backwards, and each is to stay within the
limit. A set of characters is a small machine of its own, on the byte sequences that encode it.

## Main results

* `size_group`: only the machine that reads forwards marks groups.
-/

namespace FeatureScan.Pattern

/-- The bytes that one machine may take. -/
def sizeLimit : Nat := 10 * 1024 * 1024

/-- The bytes of a state without what it refers to. -/
def stateSize : Nat := 32

/-- The bytes of one way out of a state that looks at its input. -/
def wayOutSize : Nat := 8

/-- The bytes of one way out of a state that branches. -/
def branchSize : Nat := 4

/-! ## Sets of characters as byte sequences -/

/-- A range of bytes. -/
abbrev ByteRange := Nat × Nat

/-- How many bytes encode a code point. -/
def byteCount (n : Nat) : Nat :=
  if n < 0x80 then 1 else if n < 0x800 then 2 else if n < 0x10000 then 3 else 4

/-- The bytes that encode a code point. -/
def encodeBytes (n : Nat) : List Nat :=
  match byteCount n with
  | 1 => [n]
  | 2 => [0xC0 + n / 0x40, 0x80 + n % 0x40]
  | 3 => [0xE0 + n / 0x1000, 0x80 + n / 0x40 % 0x40, 0x80 + n % 0x40]
  | _ => [0xF0 + n / 0x40000, 0x80 + n / 0x1000 % 0x40, 0x80 + n / 0x40 % 0x40, 0x80 + n % 0x40]

/-- Where to cut a range of code points so that the parts come nearer to being one sequence of byte
ranges: between encodings of different lengths, and between blocks of 64, 4096 and 262144; `none` if
it is one sequence already. The second number begins the second part. -/
def cutPoint? (lo hi : Nat) : Option Nat :=
  match [0x80, 0x800, 0x10000].find? fun m => lo < m && m ≤ hi with
  | some m => some m
  | none =>
    if hi < 0x80 then none
    else
      [0x40, 0x1000, 0x40000].findSome? fun m =>
        if lo / m == hi / m then none
        else if lo % m != 0 then some ((lo / m + 1) * m)
        else if hi % m != m - 1 then some (hi / m * m)
        else none

/-- The sequences of byte ranges for a range of code points, in order. -/
def byteSequences : Nat → Nat → Nat → List (List ByteRange)
  | 0, _, _ => []
  | room + 1, lo, hi =>
    if hi < lo then []
    else
      match cutPoint? lo hi with
      | some m => byteSequences room lo (m - 1) ++ byteSequences room m hi
      | none => [(encodeBytes lo).zip (encodeBytes hi)]

/-- How often a range of code points can be cut: each kind of cut is made at most twice. -/
def cutRoom : Nat := 16

/-- The sequences of byte ranges for a set, whose edges are given. Surrogates are no characters. -/
def setSequences : List Nat → List (List ByteRange)
  | [] => []
  | [a] => byteSequences cutRoom a 0xD7FF ++ byteSequences cutRoom (Nat.max a 0xE000) 0x10FFFF
  | a :: b :: es =>
    byteSequences cutRoom a (Nat.min (b - 1) 0xD7FF) ++
      byteSequences cutRoom (Nat.max a 0xE000) (b - 1) ++ setSequences es

/-! ## The machine of a set -/

/-- The states behind `depth` bytes of the sequences, by what leads to them: sequences that begin
alike share a state for as long as they do. -/
def backwardStates (seqs : List (List ByteRange)) : Nat :=
  (seqs.foldl (fun (acc : Nat × List ByteRange) s =>
    let shared := ((s.zip acc.2).takeWhile fun p => p.1 == p.2).length
    (acc.1 + (s.length - shared), s)) (0, [])).1

/-- A state of the forward machine: what it accepts, and the numbers of the states that follow. -/
abbrev ForwardState := List (ByteRange × Nat)

/-- The number of a state among those known; a new one is added. -/
def intern (s : ForwardState) (known : List ForwardState) : Nat × List ForwardState :=
  match known.findIdx? (· == s) with
  | some i => (known.length - i, known)
  | none => (known.length + 1, s :: known)

/-- The states for sequences of which the first bytes are taken, in the order of the sequences:
equal states are one. State 0 is the end. -/
def forwardState : Nat → List (List ByteRange) → List ForwardState → Nat × List ForwardState
  | 0, _, known => (0, known)
  | depth + 1, seqs, known =>
    if seqs.all List.isEmpty then (0, known)
    else
      let groups := seqs.splitBy fun s t => s.head? == t.head?
      let (ways, known) := groups.foldl (fun (acc : ForwardState × List ForwardState) g =>
        match g.head?.bind List.head? with
        | none => acc
        | some r =>
          let (n, known) := forwardState depth (g.map List.tail) acc.2
          ((r, n) :: acc.1, known)) ([], known)
      intern ways.reverse known

/-- The bytes for a set whose characters are all of ASCII. -/
def asciiSize (set : CharSet) : Nat := 2 * stateSize + wayOutSize * (set.edges.length / 2)

/-- The code point of a set that has just one. -/
def onlyPoint? (set : CharSet) : Option Nat :=
  match set.edges with
  | [a, b] => if b == a + 1 then some a else none
  | _ => none

/-- The bytes for a set in the machine that reads forwards. -/
def forwardSetSize (set : CharSet) : Nat :=
  match onlyPoint? set with
  | some n => stateSize * byteCount n
  | none =>
    if set.isAscii then asciiSize set
    else
      let states := (forwardState 5 (setSequences set.edges) []).2
      states.foldl (fun n s => n + stateSize + wayOutSize * s.length) stateSize

/-- The bytes for a set in the machine that reads backwards. -/
def backwardSetSize (set : CharSet) : Nat :=
  match onlyPoint? set with
  | some n => stateSize * byteCount n
  | none =>
    if set.isAscii then asciiSize set
    else
      let seqs := setSequences set.edges
      2 * stateSize + stateSize * backwardStates seqs + branchSize * seqs.length

/-- Bytes that are enough for a set in both machines: a range has at most seven sequences for each
length of its encodings, and a sequence at most four states. -/
def setSizeBound (set : CharSet) : Nat :=
  if set.isAscii then asciiSize set
  else 2 * stateSize + (set.edges.length + 1) * 16 * (4 * (stateSize + wayOutSize) + branchSize)

/-! ## The machine of a pattern -/

/-- Whether a match can take no characters. -/
def Node.isNullable : Node → Bool
  | .empty => true
  | .chars _ => false
  | .look _ => true
  | .seq a b => a.isNullable && b.isNullable
  | .alt a b => a.isNullable || b.isNullable
  | .group a => a.isNullable
  | .many min _ a => min == 0 || a.isNullable

/-- The bytes of a branching state with two ways. -/
def forkSize : Nat := stateSize + 2 * branchSize

/-- Whether a part of a sequence can be left out. -/
def Node.isEmpty : Node → Bool
  | .empty => true
  | _ => false

/-- The bytes that the states of a pattern take, where `ofSet` gives those of a set and `ofGroup`
those that mark a group. -/
def Node.size (ofSet : CharSet → Nat) (ofGroup : Nat) : Node → Nat
  | .empty => stateSize
  | .chars set => ofSet set
  | .look _ => stateSize
  | .seq a b =>
    (if a.isEmpty then 0 else a.size ofSet ofGroup) + if b.isEmpty then 0 else b.size ofSet ofGroup
  | .alt a b => a.size ofSet ofGroup + b.size ofSet ofGroup + stateSize + 2 * branchSize
  | .group a => a.size ofSet ofGroup + ofGroup
  | .many min max a =>
    let one := a.size ofSet ofGroup
    match max with
    | none =>
      if min == 0 && a.isNullable then one + 2 * forkSize + stateSize
      else Nat.max min 1 * one + forkSize
    | some n =>
      if n == min then n * one
      else
        n * one + (n - min) * forkSize + (if min == 0 && 1 < n then 2 * stateSize else stateSize)

theorem size_group (ofSet : CharSet → Nat) (ofGroup : Nat) (a : Node) :
    (Node.group a).size ofSet ofGroup = a.size ofSet ofGroup + ofGroup := rfl

/-- The bytes around a pattern: the search for its start, the marks of the whole, and the end. -/
def frameSize : Nat := 4 * stateSize + wayOutSize + 2 * branchSize + 2 * stateSize

/-- Whether both machines for a pattern stay within the limit. -/
def Node.fits (n : Node) : Bool :=
  n.size setSizeBound (2 * stateSize) + frameSize ≤ sizeLimit ||
    (n.size forwardSetSize (2 * stateSize) + frameSize ≤ sizeLimit &&
      n.size backwardSetSize 0 + frameSize ≤ sizeLimit)

end FeatureScan.Pattern
