import FeatureScan.Json.Value

/-!
# Writing JSON

A value is written on one line, or over several with two spaces for each level.

## Main results

* `Layout.lines_compact`: the compact layout writes no line ends.
-/

namespace FeatureScan.Json

/-- How a text is laid out. -/
structure Layout where
  /-- Whether each item and member stands on a line of its own. -/
  spread : Bool
  /-- Whether characters outside ASCII are written as escapes. -/
  asciiOnly : Bool

/-- One line. -/
def compact : Layout := ⟨false, false⟩

/-- One line of ASCII characters. -/
def compactAscii : Layout := ⟨false, true⟩

/-- One line per item and member. -/
def pretty : Layout := ⟨true, false⟩

/-- The line end and indentation in front of an item at a given level. -/
def Layout.lines (l : Layout) (level : Nat) : List Char :=
  if l.spread then '\n' :: List.replicate (2 * level) ' ' else []

theorem Layout.lines_compact (level : Nat) : compact.lines level = [] := rfl

/-- Four hexadecimal digits. -/
def hex4 (n : Nat) : List Char :=
  [Nat.digitChar (n / 4096 % 16), Nat.digitChar (n / 256 % 16), Nat.digitChar (n / 16 % 16),
    Nat.digitChar (n % 16)]

/-- The escape of a code unit. -/
def unitEscape (n : Nat) : List Char := '\\' :: 'u' :: hex4 n

/-- A character inside a string. -/
def charText (l : Layout) (c : Char) : List Char :=
  if c == '\x22' then ['\\', '\x22']
  else if c == '\\' then ['\\', '\\']
  else if c == '\x08' then ['\\', 'b']
  else if c == '\x0c' then ['\\', 'f']
  else if c == '\n' then ['\\', 'n']
  else if c == '\r' then ['\\', 'r']
  else if c == '\t' then ['\\', 't']
  else if c.toNat < 0x20 then unitEscape c.toNat
  else if l.asciiOnly && c.toNat ≥ 0x7F then
    if c.toNat < 0x10000 then unitEscape c.toNat
    else
      let n := c.toNat - 0x10000
      unitEscape (0xD800 + n / 1024) ++ unitEscape (0xDC00 + n % 1024)
  else [c]

/-- A string with its quotes. -/
def stringText (l : Layout) (s : String) : List Char :=
  '\x22' :: s.toList.flatMap (charText l) ++ ['\x22']

mutual

/-- The text of a value at a given level. -/
def write (l : Layout) (level : Nat) : Json → List Char
  | null => "null".toList
  | bool b => (if b then "true" else "false").toList
  | number n => n.text
  | string s => stringText l s
  | array [] => ['[', ']']
  | array (j :: js) =>
    '[' :: l.lines (level + 1) ++ write l (level + 1) j ++ writeItems l (level + 1) js ++
      l.lines level ++ [']']
  | object [] => ['{', '}']
  | object ((k, j) :: ms) =>
    '{' :: l.lines (level + 1) ++ writeMember l (level + 1) k j ++ writeMembers l (level + 1) ms ++
      l.lines level ++ ['}']

/-- The text of the items behind the first one. -/
def writeItems (l : Layout) (level : Nat) : List Json → List Char
  | [] => []
  | j :: js => ',' :: l.lines level ++ write l level j ++ writeItems l level js

/-- The text of a member. -/
def writeMember (l : Layout) (level : Nat) (k : String) (j : Json) : List Char :=
  stringText l k ++ (if l.spread then [':', ' '] else [':']) ++ write l level j

/-- The text of the members behind the first one. -/
def writeMembers (l : Layout) (level : Nat) : List (String × Json) → List Char
  | [] => []
  | (k, j) :: ms => ',' :: l.lines level ++ writeMember l level k j ++ writeMembers l level ms

end

/-- The text of a value. -/
def text (l : Layout) (j : Json) : String := String.ofList (write l 0 j)

end FeatureScan.Json
