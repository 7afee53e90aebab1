import FeatureScan.Css.Numeral

/-!
# Tokens of style sheets

The tokens that a style sheet is made of, and the text that stands for a token: names, strings and
addresses with the escapes that they need, numbers in their shortest form, white space as it was
found out to be.

## Main results

* `escapedName_of_plain`: a name of letters, digits, `-` and `_` is written as it is.
-/

namespace FeatureScan.Css

/-- The three kinds of brackets; a function counts as round. -/
inductive Bracket
  | round
  | square
  | curly
  deriving DecidableEq, Repr

/-- The character that closes a bracket. -/
def Bracket.closer : Bracket → Char
  | round => ')'
  | square => ']'
  | curly => '}'

/-- A token. Names, strings and addresses are kept with their escapes resolved. -/
inductive Token
  | ident (name : String)
  | atKeyword (name : String)
  | hash (name : String)
  | idHash (name : String)
  | string (value : String)
  | url (value : String)
  | delim (c : Char)
  | number (n : Numeral)
  | percentage (n : Numeral)
  | dimension (n : Numeral) (unit : String)
  | blank
  | comment
  | colon
  | semicolon
  | comma
  /-- One of the signs that compare an attribute with a value, without its equals sign. -/
  | compare (sign : Char)
  | commentOpen
  | commentClose
  | function (name : String)
  | openBracket (kind : Bracket)
  | closeBracket (kind : Bracket)
  /-- An address that breaks the rules, as it was written. -/
  | badUrl (written : String)
  /-- A string that a line end cut off. -/
  | badString (value : String)
  deriving DecidableEq, Repr

namespace Token

/-- The bracket that a token opens. -/
def opens? : Token → Option Bracket
  | function _ => some .round
  | openBracket b => some b
  | _ => none

/-- The bracket that a token closes. -/
def closes? : Token → Option Bracket
  | closeBracket b => some b
  | _ => none

end Token

/-! ## Escapes -/

/-- A lower-case hexadecimal digit. -/
def hexDigit (n : Nat) : Char := Nat.digitChar n

/-- A character as an escape of its code point, ended by a space. -/
def hexEscape (c : Char) : List Char :=
  let n := c.toNat
  if n > 15 then ['\\', hexDigit (n / 16), hexDigit (n % 16), ' '] else ['\\', hexDigit n, ' ']

/-- Letters, digits, `-` and `_` of ASCII: what a name may hold unescaped. -/
def isPlainNameChar (c : Char) : Bool := c.isAlphanum || c == '_' || c == '-'

/-- Whether a character is a control character of ASCII other than NUL. -/
def isControl (c : Char) : Bool := (1 ≤ c.toNat && c.toNat ≤ 0x1F) || c.toNat == 0x7F

/-- Whether a character lies outside ASCII. -/
def isWide (c : Char) : Bool := c.toNat ≥ 0x80

/-- A character of a name. -/
def nameChar (c : Char) : List Char :=
  if isPlainNameChar c || isWide c then [c]
  else if c.toNat = 0 then ['\ufffd']
  else if isControl c then hexEscape c
  else ['\\', c]

/-- A name, each character escaped where needed. -/
def escapedName (cs : List Char) : List Char := cs.flatMap nameChar

theorem escapedName_of_plain {cs : List Char} (h : ∀ c ∈ cs, isPlainNameChar c = true) :
    escapedName cs = cs := by
  induction cs with
  | nil => rfl
  | cons c cs ih =>
    have hc := h c (by simp)
    have := ih fun d hd => h d (by simp [hd])
    simp [escapedName, nameChar, hc] at this ⊢
    exact this

/-- The characters behind a possible first digit, the digit escaped. -/
def identBody : List Char → List Char
  | c :: cs => if c.isDigit then hexEscape c ++ escapedName cs else escapedName (c :: cs)
  | [] => []

/-- An identifier: a name whose first characters must not read as a number or a sign. -/
def escapedIdent : List Char → List Char
  | [] => []
  | '-' :: '-' :: cs => '-' :: '-' :: escapedName cs
  | ['-'] => ['\\', '-']
  | '-' :: cs => '-' :: identBody cs
  | cs => identBody cs

/-- A character of a string between double quotes. -/
def stringChar (c : Char) : List Char :=
  if c == '\x22' then ['\\', c]
  else if c == '\\' then ['\\', c]
  else if c.toNat = 0 then ['\ufffd']
  else if isControl c then hexEscape c
  else [c]

/-- A character of an address without quotes. -/
def urlChar (c : Char) : List Char :=
  if c.toNat ≤ 0x20 || c.toNat == 0x7F then hexEscape c
  else if c == '(' || c == ')' || c == '\x22' || c == '\x27' || c == '\\' then ['\\', c]
  else [c]

/-- A unit. A unit that begins like a power of ten has its `e` escaped. -/
def unitText (unit : List Char) : List Char :=
  match unit with
  | ['e'] | ['E'] => ['\\', '6', '5', ' ']
  | 'e' :: '-' :: cs => ['\\', '6', '5', ' '] ++ escapedName ('-' :: cs)
  | 'E' :: '-' :: cs => ['\\', '6', '5', ' '] ++ escapedName ('-' :: cs)
  | cs => escapedIdent cs

/-- The text of a token. White space is left to the writer of the whole text. -/
def Token.text : Token → List Char
  | .ident name => escapedIdent name.toList
  | .atKeyword name => '@' :: escapedIdent name.toList
  | .hash name => '#' :: escapedName name.toList
  | .idHash name => '#' :: escapedIdent name.toList
  | .string value => '\x22' :: value.toList.flatMap stringChar ++ ['\x22']
  | .url value => "url(".toList ++ value.toList.flatMap urlChar ++ [')']
  | .delim c => [c]
  | .number n => n.text
  | .percentage n => n.percentText ++ ['%']
  | .dimension n unit => n.text ++ unitText unit.toList
  | .blank => [' ']
  | .comment => []
  | .colon => [':']
  | .semicolon => [';']
  | .comma => [',']
  | .compare sign => [sign, '=']
  | .commentOpen => "<!--".toList
  | .commentClose => "-->".toList
  | .function name => escapedIdent name.toList ++ ['(']
  | .openBracket .round => ['(']
  | .openBracket .square => ['[']
  | .openBracket .curly => ['{']
  | .closeBracket b => [b.closer]
  | .badUrl written => "url(".toList ++ written.toList ++ [')']
  | .badString value => '\x22' :: value.toList.flatMap stringChar

end FeatureScan.Css
