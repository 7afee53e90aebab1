import FeatureScan.Text.Ascii
import FeatureScan.Css.Token

/-!
# Reading tokens from a style sheet

A source is a list of characters, each with the number of its line. A scanner takes what belongs to
one token from the front and leaves the rest. Every source is a sequence of tokens; what breaks the
rules becomes a delimiter, a bad string or a bad address.

Scanners that follow escapes count down from the length of the source, which no step can exceed.

## Main results

* `places_chars`: numbering the lines keeps the characters.
-/

namespace FeatureScan.Css

/-- A character of a source with the line that it stands on, counted from 1. -/
structure SourceChar where
  /-- The character. -/
  char : Char
  /-- The number of its line. -/
  line : Nat
  deriving DecidableEq, Repr

/-- The rest of a source. -/
abbrev Source := List SourceChar

namespace Source

/-- Whether a line ends behind `c`, given what follows. A carriage return in front of a line feed
leaves the end to the line feed. -/
def endsLine (c : Char) (next : List Char) : Bool :=
  c == '\n' || c == '\x0c' || (c == '\r' && next.head? != some '\n')

/-- Numbers the lines of a text from `line` on; `placed` holds what has been done, in reverse. -/
def placesFrom : Source → Nat → List Char → Source × Nat
  | placed, line, [] => (placed.reverse, line)
  | placed, line, c :: cs =>
    placesFrom (⟨c, line⟩ :: placed) (if endsLine c cs then line + 1 else line) cs

/-- The characters of a text with their lines, and the line on which the text ends. -/
def places (cs : List Char) : Source × Nat := placesFrom [] 1 cs

theorem placesFrom_chars (placed : Source) (line : Nat) (cs : List Char) :
    (placesFrom placed line cs).1.map SourceChar.char =
      (placed.map SourceChar.char).reverse ++ cs := by
  induction cs generalizing placed line with
  | nil => simp [placesFrom]
  | cons c cs ih => simp [placesFrom, ih]

theorem places_chars (cs : List Char) : (places cs).1.map SourceChar.char = cs := by
  simp [places, placesFrom_chars]

/-- The text of a source. -/
def text (s : Source) : List Char := s.map SourceChar.char

/-- The next character. -/
def peek? : Source → Option Char
  | [] => none
  | c :: _ => some c.char

/-- The character after the next one. -/
def second? : Source → Option Char
  | _ :: c :: _ => some c.char
  | _ => none

/-- The third character. -/
def third? : Source → Option Char
  | _ :: _ :: c :: _ => some c.char
  | _ => none

end Source

open Source

/-! ## Character classes -/

/-- The characters that end a line. -/
def isLineEnd (c : Char) : Bool := c == '\n' || c == '\x0c' || c == '\r'

/-- The characters of white space between tokens. -/
def isSpace (c : Char) : Bool := c == ' ' || c == '\t' || isLineEnd c

/-- Whether the next character ends a line. -/
def atLineEnd (s : Source) : Bool := (peek? s).any isLineEnd

/-- The value of a hexadecimal digit. -/
def hexValue? (c : Char) : Option Nat :=
  if '0' ≤ c ∧ c ≤ '9' then some (c.toNat - 48)
  else if 'a' ≤ c ∧ c ≤ 'f' then some (c.toNat - 87)
  else if 'A' ≤ c ∧ c ≤ 'F' then some (c.toNat - 55)
  else none

/-- The value of a decimal digit. -/
def digitValue? (c : Char) : Option Nat :=
  if '0' ≤ c ∧ c ≤ '9' then some (c.toNat - 48) else none

/-- Whether a character is a decimal digit. -/
def isDigit (c : Char) : Bool := (digitValue? c).isSome

/-- Whether a character can start a name without an escape. -/
def startsName (c : Char) : Bool := c.isAlpha || c == '_' || c.toNat == 0 || isWide c

/-- Whether an identifier starts here. Behind a minus sign a backslash starts one even at the end of
a line. -/
def atIdent (s : Source) : Bool :=
  match peek? s with
  | none => false
  | some '-' =>
    match (second? s) with
    | none => false
    | some c => startsName c || c == '-' || c == '\\'
  | some '\\' => !((second? s).any isLineEnd)
  | some c => startsName c

/-! ## Escapes -/

/-- Reads up to `left` hexadecimal digits. -/
def scanHex : Nat → Nat → Source → Nat × Source
  | 0, value, s => (value, s)
  | _ + 1, value, [] => (value, [])
  | left + 1, value, c :: s =>
    match hexValue? c.char with
    | some d => scanHex left (16 * value + d) s
    | none => (value, c :: s)

/-- Drops the one space or line end that may follow an escape of digits. -/
def dropOneSpace : Source → Source
  | [] => []
  | c :: s =>
    if c.char == '\r' then (if peek? s == some '\n' then s.tail else s)
    else if isSpace c.char then s
    else c :: s

/-- The character of a code point; one that is none becomes the replacement character. -/
def charOfCode (n : Nat) : Char :=
  if n ≠ 0 ∧ n.isValidChar then Char.ofNat n else '\ufffd'

/-- Reads what follows a backslash. -/
def scanEscape : Source → Char × Source
  | [] => ('\ufffd', [])
  | c :: s =>
    if (hexValue? c.char).isSome then
      let (n, rest) := scanHex 6 0 (c :: s)
      (charOfCode n, dropOneSpace rest)
    else if c.char.toNat = 0 then ('\ufffd', s)
    else (c.char, s)

/-! ## Names -/

/-- Reads a name; `name` holds its characters in reverse. -/
def scanNameFrom : Nat → List Char → Source → List Char × Source
  | 0, name, s => (name.reverse, s)
  | _ + 1, name, [] => (name.reverse, [])
  | fuel + 1, name, c :: s =>
    if isPlainNameChar c.char || isWide c.char then scanNameFrom fuel (c.char :: name) s
    else if c.char == '\\' then
      if atLineEnd s then (name.reverse, c :: s)
      else
        let (e, rest) := scanEscape s
        scanNameFrom fuel (e :: name) rest
    else if c.char.toNat = 0 then scanNameFrom fuel ('\ufffd' :: name) s
    else (name.reverse, c :: s)

/-- Reads a name. -/
def scanName (s : Source) : String × Source :=
  let (name, rest) := scanNameFrom (s.length + 1) [] s
  (String.ofList name, rest)

/-! ## Strings -/

/-- Reads a string behind its opening quote. A line end leaves a bad string; the end of the source
closes a string. -/
def scanStringFrom (quote : Char) : Nat → List Char → Source → Token × Source
  | 0, value, s => (.string (String.ofList value.reverse), s)
  | _ + 1, value, [] => (.string (String.ofList value.reverse), [])
  | fuel + 1, value, c :: s =>
    if c.char == quote then (.string (String.ofList value.reverse), s)
    else if isLineEnd c.char then (.badString (String.ofList value.reverse), c :: s)
    else if c.char == '\\' then
      if s.isEmpty then (.string (String.ofList value.reverse), [])
      else if atLineEnd s then scanStringFrom quote fuel value (dropOneSpace s)
      else
        let (e, rest) := scanEscape s
        scanStringFrom quote fuel (e :: value) rest
    else if c.char.toNat = 0 then scanStringFrom quote fuel ('\ufffd' :: value) s
    else scanStringFrom quote fuel (c.char :: value) s

/-- Reads a string behind its opening quote. -/
def scanString (quote : Char) (s : Source) : Token × Source :=
  scanStringFrom quote (s.length + 1) [] s

/-! ## Addresses -/

/-- The source from the parenthesis on that ends a bad address. A backslash hides a parenthesis or
a backslash behind it. -/
def skipBadUrl : Source → Source
  | [] => []
  | [c] => if c.char == ')' then [c] else []
  | c :: d :: s =>
    if c.char == ')' then c :: d :: s
    else if c.char == '\\' && (d.char == ')' || d.char == '\\') then skipBadUrl s
    else skipBadUrl (d :: s)

/-- A bad address that began at `start`, given the source behind the character that spoilt it. -/
def badUrl (start s : Source) : Token × Source :=
  let rest := skipBadUrl s
  let written := Source.text (start.take (start.length - rest.length))
  (.badUrl (String.ofList written), rest.tail)

/-- Ends an address behind white space: only a parenthesis may follow. -/
def endUrl (start : Source) (value : String) (s : Source) : Token × Source :=
  match s.dropWhile fun c => isSpace c.char with
  | [] => (.url value, [])
  | c :: rest => if c.char == ')' then (.url value, rest) else badUrl start rest

/-- Whether a character spoils an address without quotes. -/
def spoilsUrl (c : Char) : Bool :=
  let n := c.toNat
  (1 ≤ n && n ≤ 8) || n == 0x0B || (0x0E ≤ n && n ≤ 0x1F) || n == 0x7F ||
    c == '\x22' || c == '\x27' || c == '('

/-- Reads an address without quotes that began at `start`. -/
def scanUrlFrom (start : Source) : Nat → List Char → Source → Token × Source
  | 0, value, s => (.url (String.ofList value.reverse), s)
  | _ + 1, value, [] => (.url (String.ofList value.reverse), [])
  | fuel + 1, value, c :: s =>
    if isSpace c.char then endUrl start (String.ofList value.reverse) (c :: s)
    else if c.char == ')' then (.url (String.ofList value.reverse), s)
    else if spoilsUrl c.char then badUrl start s
    else if c.char == '\\' then
      if atLineEnd s then badUrl start s
      else
        let (e, rest) := scanEscape s
        scanUrlFrom start fuel (e :: value) rest
    else if c.char.toNat = 0 then scanUrlFrom start fuel ('\ufffd' :: value) s
    else scanUrlFrom start fuel (c.char :: value) s

/-- Reads what follows the word `url` and a parenthesis: an address without quotes, or nothing if
a quote comes first, when the word is the name of a function. -/
def scanUrl? (s : Source) : Option (Token × Source) :=
  let start := s.dropWhile fun c => isSpace c.char
  match start with
  | [] => some (.url "", [])
  | c :: rest =>
    if c.char == '\x22' || c.char == '\x27' then none
    else if c.char == ')' then some (.url "", rest)
    else some (scanUrlFrom start (start.length + 1) [] start)

/-- Reads an identifier, function or address. -/
def scanIdentLike (s : Source) : Token × Source :=
  let (name, rest) := scanName s
  match rest with
  | c :: inner =>
    if c.char == '(' then
      if Text.asciiLower name == "url" then (scanUrl? inner).getD (.function name, inner)
      else (.function name, inner)
    else (.ident name, rest)
  | [] => (.ident name, rest)

/-! ## Numbers -/

/-- Reads decimal digits; `digits` holds those read, in reverse. -/
def scanDigits : List Nat → Source → List Nat × Source
  | digits, [] => (digits.reverse, [])
  | digits, c :: s =>
    match digitValue? c.char with
    | some d => scanDigits (d :: digits) s
    | none => (digits.reverse, c :: s)

/-- Reads a sign. -/
def scanSign : Source → Option Bool × Source
  | [] => (none, [])
  | c :: s =>
    if c.char == '-' then (some true, s)
    else if c.char == '+' then (some false, s)
    else (none, c :: s)

/-- Reads the digits behind a point, if a digit follows the point. -/
def scanFraction (s : Source) : Option (List Nat) × Source :=
  if peek? s == some '.' && (second? s).any isDigit then
    let (digits, rest) := scanDigits [] s.tail
    (some digits, rest)
  else (none, s)

/-- Reads a power of ten, if digits follow the letter and its sign. -/
def scanPower (s : Source) : Option (Bool × Nat) × Source :=
  let signed := (second? s).any fun c => c == '+' || c == '-'
  if (peek? s).any (fun c => c == 'e' || c == 'E') &&
      ((second? s).any isDigit || (signed && (third? s).any isDigit)) then
    let (sign, rest) := scanSign s.tail
    let (digits, rest) := scanDigits [] rest
    (some (sign == some true, digits.foldl (fun n d => 10 * n + d) 0), rest)
  else (none, s)

/-- Reads a number with its unit or percent sign. -/
def scanNumeric (s : Source) : Token × Source :=
  let (sign, rest) := scanSign s
  let (whole, rest) := scanDigits [] rest
  let (fraction, rest) := scanFraction rest
  let (power, rest) := scanPower rest
  let written : Written := ⟨sign, whole, fraction, power⟩
  if peek? rest == some '%' then (.percentage written.percentage, rest.tail)
  else if atIdent rest then
    let (unit, rest) := scanName rest
    (.dimension written.numeral unit, rest)
  else (.number written.numeral, rest)

/-- Whether a number starts behind a sign. -/
def numberBehindSign (s : Source) : Bool :=
  (second? s).any isDigit || ((second? s) == some '.' && (third? s).any isDigit)

/-! ## Comments -/

/-- The source behind a comment whose opening has been read; an open comment ends with the
source. -/
def skipComment : Source → Source
  | [] => []
  | [_] => []
  | c :: d :: s => if c.char == '*' && d.char == '/' then s else skipComment (d :: s)

/-! ## One token -/

/-- The token that starts with `c` and is a sign of its own, if `c` is one. -/
def signToken? (c : Char) : Option Token :=
  match c with
  | '(' => some (.openBracket .round)
  | ')' => some (.closeBracket .round)
  | '[' => some (.openBracket .square)
  | ']' => some (.closeBracket .square)
  | '{' => some (.openBracket .curly)
  | '}' => some (.closeBracket .curly)
  | ',' => some .comma
  | ':' => some .colon
  | ';' => some .semicolon
  | _ => none

/-- Whether a character followed by an equals sign compares an attribute with a value. -/
def isComparison (c : Char) : Bool := c == '$' || c == '*' || c == '^' || c == '|' || c == '~'

/-- Reads a number sign and what belongs to it. -/
def scanHash (s : Source) : Token × Source :=
  if atIdent s then
    let (name, rest) := scanName s
    (.idHash name, rest)
  else if (peek? s).any (fun c => isDigit c || c == '-') then
    let (name, rest) := scanName s
    (.hash name, rest)
  else (.delim '#', s)

/-- Reads a token that starts with a minus sign. -/
def scanMinus (c : SourceChar) (s : Source) : Token × Source :=
  if numberBehindSign (c :: s) then scanNumeric (c :: s)
  else if peek? s == some '-' && second? s == some '>' then (.commentClose, s.drop 2)
  else if atIdent (c :: s) then scanIdentLike (c :: s)
  else (.delim '-', s)

/-- Reads one token from a source that starts with `c`. -/
def scanToken (c : SourceChar) (s : Source) : Token × Source :=
  if isSpace c.char then (.blank, s.dropWhile fun d => isSpace d.char)
  else if c.char == '\x22' || c.char == '\x27' then scanString c.char s
  else if c.char == '#' then scanHash s
  else if isComparison c.char && peek? s == some '=' then (.compare c.char, s.tail)
  else if c.char == '+' then
    if numberBehindSign (c :: s) then scanNumeric (c :: s) else (.delim '+', s)
  else if c.char == '-' then scanMinus c s
  else if c.char == '.' then
    if (peek? s).any isDigit then scanNumeric (c :: s) else (.delim '.', s)
  else if c.char == '/' && peek? s == some '*' then (.comment, skipComment s.tail)
  else if isDigit c.char then scanNumeric (c :: s)
  else if c.char == '<' && peek? s == some '!' && second? s == some '-' && third? s == some '-' then
    (.commentOpen, s.drop 3)
  else if c.char == '@' then
    if atIdent s then
      let (name, rest) := scanName s
      (.atKeyword name, rest)
    else (.delim '@', s)
  else if c.char == '\\' then
    if atLineEnd s then (.delim '\\', s) else scanIdentLike (c :: s)
  else if startsName c.char then scanIdentLike (c :: s)
  else
    match signToken? c.char with
    | some t => (t, s)
    | none => (.delim c.char, s)

/-! ## All tokens -/

/-- A token with the line on which the source goes on behind it. -/
structure PlacedToken where
  /-- The token. -/
  token : Token
  /-- The line behind it. -/
  line : Nat
  deriving DecidableEq, Repr

/-- Reads the tokens of a source whose last line is `last`; `tokens` holds those read, in
reverse. -/
def tokensFrom (last : Nat) : Nat → List PlacedToken → Source → List PlacedToken
  | 0, tokens, _ => tokens.reverse
  | _ + 1, tokens, [] => tokens.reverse
  | fuel + 1, tokens, c :: s =>
    let (token, rest) := scanToken c s
    let line := (rest.head?.map SourceChar.line).getD last
    tokensFrom last fuel (⟨token, line⟩ :: tokens) rest

/-- The tokens of a text and the line on which it ends. -/
def tokens (cs : List Char) : List PlacedToken × Nat :=
  let (source, last) := places cs
  (tokensFrom last (source.length + 1) [] source, last)

end FeatureScan.Css
