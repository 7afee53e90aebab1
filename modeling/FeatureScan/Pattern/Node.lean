import FeatureScan.CharSet
import FeatureScan.Unicode.Property

/-!
# The meaning of patterns

A pattern means a set of pairs of positions in a subject: where a match can begin and where it can
end. Names and greed do not show in that, so they are absent here; counted groups are kept for the
room that they take in a machine.

## Main results

* `Node.repeated_none_of_widthless`: repeating what takes no characters is doing it at most once.
-/

namespace FeatureScan

/-- A text to be searched. -/
structure Subject where
  /-- Its characters. -/
  chars : Array Char
  /-- Its positions, in order. -/
  positions : List Nat

namespace Subject

/-- The subject of a list of characters. -/
def ofChars (cs : List Char) : Subject :=
  let chars := cs.toArray
  ⟨chars, List.range (chars.size + 1)⟩

/-- The subject of a string. -/
def ofString (s : String) : Subject := ofChars s.toList

/-- The character behind a position. -/
def after? (s : Subject) (p : Nat) : Option Char := s.chars[p]?

/-- The character before a position. -/
def before? (s : Subject) : Nat → Option Char
  | 0 => none
  | p + 1 => s.chars[p]?

end Subject

namespace Pattern

/-- Whether a character is a letter, a digit or the underscore of ASCII. -/
def isAsciiWord (c : Char) : Bool := c.isAlphanum || c == '_'

/-- Whether a character stands in words. -/
def isWord (c : Char) : Bool :=
  if c.toNat < 0x80 then isAsciiWord c else Unicode.wordChars.contains c

/-- What is asked of the two sides of a position about words. -/
inductive WordTest
  /-- Word on exactly one side. -/
  | boundary
  /-- Word on both sides or on none. -/
  | within
  /-- Word behind the position only. -/
  | start
  /-- Word before the position only. -/
  | finish
  /-- No word before the position. -/
  | openStart
  /-- No word behind the position. -/
  | openFinish
  deriving DecidableEq, Repr

/-- The answer to a question about words, from the two sides of the position. -/
def WordTest.holds : WordTest → Bool → Bool → Bool
  | boundary, b, a => b != a
  | within, b, a => b == a
  | start, b, a => !b && a
  | finish, b, a => b && !a
  | openStart, b, _ => !b
  | openFinish, _, a => !a

/-- A condition on a position. -/
inductive Look
  /-- The start of the subject. -/
  | start
  /-- The end of the subject. -/
  | finish
  /-- The start of a line; with `returns`, lines may end in carriage returns. -/
  | lineStart (returns : Bool)
  /-- The end of a line. -/
  | lineFinish (returns : Bool)
  /-- A condition on words, of all scripts or of ASCII. -/
  | word (test : WordTest) (unicode : Bool)
  deriving DecidableEq, Repr

/-- Whether a condition holds at a position. -/
def Look.holds (s : Subject) (l : Look) (p : Nat) : Bool :=
  let before := s.before? p
  let after := s.after? p
  match l with
  | start => p == 0
  | finish => p == s.chars.size
  | lineStart false => p == 0 || before == some '\n'
  | lineStart true =>
    p == 0 || before == some '\n' || (before == some '\r' && after != some '\n')
  | lineFinish false => p == s.chars.size || after == some '\n'
  | lineFinish true =>
    p == s.chars.size || after == some '\r' || (after == some '\n' && before != some '\r')
  | word test unicode =>
    let isIn := if unicode then isWord else isAsciiWord
    test.holds (before.any isIn) (after.any isIn)

/-- What a pattern matches. -/
inductive Node
  /-- Nothing, anywhere. -/
  | empty
  /-- One character of a set. -/
  | chars (set : CharSet)
  /-- Nothing, where a condition holds. -/
  | look (l : Look)
  /-- One thing and then another. -/
  | seq (first second : Node)
  /-- One thing or another. -/
  | alt (first second : Node)
  /-- A counted group. -/
  | group (body : Node)
  /-- At least `min` and at most `max` times the same. -/
  | many (min : Nat) (max : Option Nat) (body : Node)
  deriving DecidableEq, Repr

namespace Node

/-- Whether a match cannot take a character. -/
def isWidthless : Node → Bool
  | empty => true
  | chars _ => false
  | look _ => true
  | seq a b => a.isWidthless && b.isWidthless
  | alt a b => a.isWidthless && b.isWidthless
  | group a => a.isWidthless
  | many _ _ a => a.isWidthless

/-- A repetition. What takes no characters is as good once as any number of times. -/
def repeated (min : Nat) (max : Option Nat) (body : Node) : Node :=
  if max == some 0 then empty
  else if body.isWidthless then many (Nat.min min 1) (some 1) body
  else many min max body

theorem repeated_none_of_widthless {body : Node} (h : body.isWidthless = true) (min : Nat) :
    repeated min none body = many (Nat.min min 1) (some 1) body := by
  simp [repeated, h]

/-- Some things, one after the other. -/
def seqs : List Node → Node
  | [] => empty
  | [n] => n
  | n :: ns => seq n (seqs ns)

/-- The set of a node that is one. -/
def set? : Node → Option CharSet
  | chars set => some set
  | _ => none

/-- One of two things; two sets are one set. -/
def either (a b : Node) : Node :=
  match a.set?, b.set? with
  | some s, some t => chars (s.union t)
  | _, _ => alt a b

/-- Some things, of which one is to match. -/
def alts : List Node → Node
  | [] => empty
  | [n] => n
  | n :: ns => either n (alts ns)

end Node

end Pattern

end FeatureScan
