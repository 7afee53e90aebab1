import FeatureScan.Pattern.Switches
import FeatureScan.Pattern.Node
import FeatureScan.Unicode.Script
import FeatureScan.Unicode.Folding

/-!
# Escapes

What a backslash introduces in a pattern: characters by number or by letter, classes of Perl and of
Unicode, and conditions on words. Without the switch for Unicode everything has to stay within
ASCII, since a match never ends inside a character.

## Main results

* `length_hexRun_le`: reading a number takes from the text only.
-/

namespace FeatureScan.Pattern

/-- A part of a pattern that takes one character or none. -/
inductive Atom
  /-- One character; `byte` tells that it is written as two hexadecimal digits. -/
  | char (c : Char) (byte : Bool)
  /-- A class. -/
  | set (chars : CharSet)
  /-- A condition. -/
  | look (l : Look)

/-! ## Characters by number -/

/-- The value of a hexadecimal digit. -/
def hexValue? (c : Char) : Option Nat :=
  if '0' ≤ c && c ≤ '9' then some (c.toNat - 48)
  else if 'a' ≤ c && c ≤ 'f' then some (c.toNat - 87)
  else if 'A' ≤ c && c ≤ 'F' then some (c.toNat - 55)
  else none

/-- The character with a code point, if there is one. -/
def charOf? (n : Nat) : Option Char := if n.isValidChar then some (Char.ofNat n) else none

/-- Reads exactly `n` hexadecimal digits onto a value, with spacing skipped behind each. -/
def hexRun (s : Switches) : Nat → Nat → List Char → Option (Nat × List Char)
  | 0, v, cs => some (v, cs)
  | _ + 1, _, [] => none
  | n + 1, v, c :: cs =>
    match hexValue? c with
    | some d => hexRun s n (16 * v + d) (skip s cs)
    | none => none

theorem length_hexRun_le {s : Switches} {n v : Nat} {cs : List Char} {r : Nat × List Char}
    (h : hexRun s n v cs = some r) : r.2.length ≤ cs.length := by
  fun_induction hexRun s n v cs with
  | case1 => simp_all; grind
  | case2 => simp at h
  | case3 n v c cs d hd ih =>
    have := length_skip_le s cs
    have := ih h
    simp
    omega
  | case4 => simp at h

/-- Reads up to the closing brace and behind it, with spacing skipped. -/
def untilBrace (s : Switches) (cs : List Char) : Option (List Char × List Char) :=
  match cs with
  | [] => none
  | c :: cs =>
    if c == '\x7d' then some ([], cs)
    else (untilBrace s (skip s cs)).map fun r => (c :: r.1, r.2)
  termination_by cs.length
  decreasing_by
    have := length_skip_le s cs
    simp
    omega

/-- The value of hexadecimal digits; there is to be one. -/
def hexNumber? : List Char → Option Nat
  | [] => none
  | cs => cs.foldlM (fun v c => (hexValue? c).map (16 * v + ·)) 0

/-- Reads a character by number, behind the letter that tells how many digits there are. -/
def readHex (s : Switches) (digits : Nat) (cs : List Char) : Option (Atom × List Char) :=
  match skip s cs with
  | [] => none
  | '\x7b' :: cs =>
    match untilBrace s (skip s cs) with
    | none => none
    | some (ds, rest) =>
      match (hexNumber? ds).bind charOf? with
      | none => none
      | some c => some (.char c false, skip s rest)
  | cs =>
    match hexRun s digits 0 cs with
    | none => none
    | some (v, rest) => (charOf? v).map fun c => (.char c (digits == 2), rest)

/-! ## Classes -/

/-- A set as a class under the switches: with all variants, and negated after that. Without Unicode
a negated class would take parts of characters. -/
def finishClass (s : Switches) (negated : Bool) (set : CharSet) : Option CharSet :=
  if s.unicode then
    let set := if s.ignoreCase then Unicode.foldedSet set else set
    some (if negated then set.compl else set)
  else if negated then none
  else some (if s.ignoreCase then (Unicode.foldedSet set).inter (.range 0 0x7F) else set)

/-- The digits of ASCII. -/
def asciiDigits : CharSet := .range 48 57

/-- The blanks of ASCII. -/
def asciiBlanks : CharSet := .ofRanges [(9, 13), (32, 32)]

/-- The word characters of ASCII. -/
def asciiWords : CharSet := .ofRanges [(48, 57), (65, 90), (95, 95), (97, 122)]

/-- The class of a letter: digits, white space or word characters, negated by the capital. -/
def perlClass (s : Switches) (letter : Char) : Option CharSet :=
  let pick (unicode ascii : CharSet) : CharSet := if s.unicode then unicode else ascii
  let set := match letter.toLower with
    | 'd' => pick Unicode.digitChars asciiDigits
    | 's' => pick Unicode.blankChars asciiBlanks
    | _ => pick Unicode.wordChars asciiWords
  if !letter.isUpper then some set
  else if s.unicode then some set.compl
  else none

/-- The characters of a property or of one of its values, by a loose name. Three names of categories
abbreviate properties too, and mean the categories. -/
def unicodeSet? (name : String) : Option CharSet :=
  let name := Unicode.looseName name
  let property :=
    if ["cf", "sc", "lc"].contains name then none else Unicode.property? name
  (property.or (Unicode.category? name)).or (Unicode.script? name)

/-- The characters that have a value of a property. -/
def unicodeValueSet? (name value : String) : Option CharSet :=
  let value := Unicode.looseName value
  match Unicode.looseName name with
  | "gc" | "generalcategory" | "category" => Unicode.category? value
  | "sc" | "script" => Unicode.script? value
  | "scx" | "scriptextensions" => Unicode.scriptExtension? value
  | _ => none

/-- The two parts of a text around the first place of a separator. -/
def cutAt? (sep : List Char) : List Char → Option (List Char × List Char)
  | [] => none
  | c :: cs =>
    if sep.isPrefixOf (c :: cs) then some ([], (c :: cs).drop sep.length)
    else (cutAt? sep cs).map fun r => (c :: r.1, r.2)

/-- The set that the text in the braces of a class asks for. -/
def bracedSet? (text : List Char) : Option CharSet :=
  match ((cutAt? ['!', '='] text).or (cutAt? [':'] text)).or (cutAt? ['='] text) with
  | some (name, value) => unicodeValueSet? (String.ofList name) (String.ofList value)
  | none => unicodeSet? (String.ofList text)

/-- Reads a class of Unicode, behind the letter. -/
def readProperty (s : Switches) (negated : Bool) (cs : List Char) : Option (Atom × List Char) :=
  let finish (set? : Option CharSet) (rest : List Char) : Option (Atom × List Char) :=
    if s.unicode then
      (set?.bind (finishClass s negated)).map fun set => (.set set, rest)
    else none
  match skip s cs with
  | [] => none
  | '\x7b' :: cs => (untilBrace s (skip s cs)).bind fun r => finish (bracedSet? r.1) r.2
  | '\\' :: _ => none
  | c :: cs => finish (unicodeSet? c.toString) (skip s cs)

/-! ## Conditions on words -/

/-- Whether a character stands in the name of a condition on words. -/
def isTestChar (c : Char) : Bool := c.isAlpha || c == '-'

/-- The name of a condition, and the text behind it. -/
def testName (s : Switches) (cs : List Char) : List Char × List Char :=
  match cs with
  | [] => ([], [])
  | c :: cs =>
    if isTestChar c then
      let r := testName s (skip s cs)
      (c :: r.1, r.2)
    else ([], c :: cs)
  termination_by cs.length
  decreasing_by
    have := length_skip_le s cs
    simp
    omega

/-- The condition on words of a name. -/
def wordTest? (name : List Char) : Option WordTest :=
  match String.ofList name with
  | "start" => some .start
  | "end" => some .finish
  | "start-half" => some .openStart
  | "end-half" => some .openFinish
  | _ => none

/-- Reads what may follow the letter of a word boundary: the name of a condition in braces. Braces
that begin with something else are a repetition. -/
def readBoundary (s : Switches) (cs : List Char) : Option (WordTest × List Char) :=
  match cs with
  | '\x7b' :: rest =>
    match skip s rest with
    | [] => none
    | c :: cs' =>
      if isTestChar c then
        match testName s (c :: cs') with
        | (name, '\x7d' :: rest) => (wordTest? name).map fun t => (t, rest)
        | _ => none
      else some (.boundary, cs)
  | cs => some (.boundary, cs)

/-! ## Escapes -/

/-- Whether a backslash in front of a character gives just that character. -/
def isEscapable (c : Char) : Bool :=
  c.toNat < 0x80 && !c.isAlphanum && c != '<' && c != '>'

/-- The control character that a letter stands for. -/
def controlOf? : Char → Option Char
  | 'a' => some '\x07'
  | 'f' => some '\x0c'
  | 't' => some '\t'
  | 'n' => some '\n'
  | 'r' => some '\r'
  | 'v' => some '\x0b'
  | _ => none

/-- Reads an escape, behind the backslash. -/
def readEscape (s : Switches) : List Char → Option (Atom × List Char)
  | [] => none
  | c :: cs =>
    let word (t : WordTest) : Atom := .look (.word t s.unicode)
    if isEscapable c then some (.char c false, cs)
    else
      match c with
      | 'x' => readHex s 2 cs
      | 'u' => readHex s 4 cs
      | 'U' => readHex s 8 cs
      | 'p' => readProperty s false cs
      | 'P' => readProperty s true cs
      | 'd' | 's' | 'w' | 'D' | 'S' | 'W' => (perlClass s c).map fun set => (.set set, cs)
      | 'A' => some (.look .start, cs)
      | 'z' => some (.look .finish, cs)
      | 'b' => (readBoundary s cs).map fun r => (word r.1, r.2)
      | 'B' => some (word .within, cs)
      | '<' => some (word .start, cs)
      | '>' => some (word .finish, cs)
      | c => (controlOf? c).map fun c => (.char c false, cs)

end FeatureScan.Pattern
