import FeatureScan.Json.Value

/-!
# Reading JSON

The grammar of JSON texts, with objects and arrays nested at most 127 deep.

## Main results

* `skipSpace_of_not_isSpace`: reading goes on at once where there is no white space.
-/

namespace FeatureScan.Json

/-- How deep objects and arrays may be nested. -/
def depthLimit : Nat := 127

/-- White space between the parts of a JSON text. -/
def isSpace (c : Char) : Bool := c == ' ' || c == '\n' || c == '\t' || c == '\r'

/-- Skips white space. -/
def skipSpace (cs : List Char) : List Char := cs.dropWhile isSpace

theorem skipSpace_of_not_isSpace {c : Char} (cs : List Char) (h : isSpace c = false) :
    skipSpace (c :: cs) = c :: cs := by
  simp [skipSpace, h]

/-! ## Strings -/

/-- The value of a hexadecimal digit. -/
def hexValue? (c : Char) : Option Nat :=
  if '0' ≤ c ∧ c ≤ '9' then some (c.toNat - 48)
  else if 'a' ≤ c ∧ c ≤ 'f' then some (c.toNat - 87)
  else if 'A' ≤ c ∧ c ≤ 'F' then some (c.toNat - 55)
  else none

/-- Whether a character is a hexadecimal digit. -/
def isHexDigit (c : Char) : Bool := (hexValue? c).isSome

/-- Reads four hexadecimal digits. -/
def readHex4 : List Char → Option (Nat × List Char)
  | a :: b :: c :: d :: cs => do
    let a ← hexValue? a
    let b ← hexValue? b
    let c ← hexValue? c
    let d ← hexValue? d
    return (4096 * a + 256 * b + 16 * c + d, cs)
  | _ => none

/-- Reads what follows a backslash and `u`: one code unit, or two that form a pair. -/
def readUnicode (cs : List Char) : Option (Char × List Char) := do
  let (n, cs) ← readHex4 cs
  if 0xDC00 ≤ n ∧ n ≤ 0xDFFF then none
  else if 0xD800 ≤ n ∧ n ≤ 0xDBFF then
    match cs with
    | '\\' :: 'u' :: cs =>
      let (m, cs) ← readHex4 cs
      if 0xDC00 ≤ m ∧ m ≤ 0xDFFF then
        return (Char.ofNat (0x10000 + (n - 0xD800) * 1024 + (m - 0xDC00)), cs)
      else none
    | _ => none
  else return (Char.ofNat n, cs)

/-- The character of a one-letter escape. -/
def escaped? (c : Char) : Option Char :=
  if c == '\x22' || c == '\\' || c == '/' then some c
  else if c == 'b' then some '\x08'
  else if c == 'f' then some '\x0c'
  else if c == 'n' then some '\n'
  else if c == 'r' then some '\r'
  else if c == 't' then some '\t'
  else none

/-- Reads a string behind its opening quote; `done` holds its characters in reverse. The first
argument bounds the number of characters. -/
def readStringFrom : Nat → List Char → List Char → Option (String × List Char)
  | 0, _, _ => none
  | _ + 1, _, [] => none
  | fuel + 1, done, c :: cs =>
    if c == '\x22' then some (String.ofList done.reverse, cs)
    else if c == '\\' then
      match cs with
      | 'u' :: cs =>
        match readUnicode cs with
        | some (d, cs) => readStringFrom fuel (d :: done) cs
        | none => none
      | d :: cs =>
        match escaped? d with
        | some e => readStringFrom fuel (e :: done) cs
        | none => none
      | [] => none
    else if c.toNat < 0x20 then none
    else readStringFrom fuel (c :: done) cs

/-! ## Numbers -/

/-- The value of a decimal digit. -/
def digitValue? (c : Char) : Option Nat :=
  if '0' ≤ c ∧ c ≤ '9' then some (c.toNat - 48) else none

/-- Reads decimal digits; `done` holds those read, in reverse. -/
def readDigits : List Nat → List Char → List Nat × List Char
  | done, [] => (done.reverse, [])
  | done, c :: cs =>
    match digitValue? c with
    | some d => readDigits (d :: done) cs
    | none => (done.reverse, c :: cs)

/-- Reads the digits after a point, if there is a point. -/
def readFraction : List Char → Option (Option (List Nat) × List Char)
  | '.' :: cs =>
    let (ds, cs) := readDigits [] cs
    if ds.isEmpty then none else some (some ds, cs)
  | cs => some (none, cs)

/-- Reads a sign in front of a power of ten. -/
def readPowerSign : List Char → Bool × List Char
  | '+' :: cs => (false, cs)
  | '-' :: cs => (true, cs)
  | cs => (false, cs)

/-- Reads a power of ten, if there is one. -/
def readPower : List Char → Option (Option (Bool × Nat) × List Char)
  | c :: cs =>
    if c == 'e' || c == 'E' then
      let (down, cs) := readPowerSign cs
      let (ds, cs) := readDigits [] cs
      if ds.isEmpty then none else some (some (down, ds.foldl (fun n d => 10 * n + d) 0), cs)
    else some (none, c :: cs)
  | [] => some (none, [])

/-- Reads the digits of a number behind its sign. No further digit may follow a leading zero. -/
def readWritten (negative : Bool) (cs : List Char) : Option (Written × List Char) := do
  let (whole, cs) := readDigits [] cs
  if whole.isEmpty ∨ (whole.head? = some 0 ∧ whole.length ≠ 1) then none
  else
    let (fraction, cs) ← readFraction cs
    let (power, cs) ← readPower cs
    return (⟨negative, whole, fraction, power⟩, cs)

/-- Reads a number without its minus sign. -/
def readNumber (negative : Bool) (cs : List Char) : Option (Number × List Char) := do
  let (w, cs) ← readWritten negative cs
  let n ← w.number?
  return (n, cs)

/-! ## Values -/

/-- Reads the words `null`, `true` and `false`. -/
def readWord : List Char → Option (Json × List Char)
  | 'n' :: 'u' :: 'l' :: 'l' :: cs => some (null, cs)
  | 't' :: 'r' :: 'u' :: 'e' :: cs => some (bool true, cs)
  | 'f' :: 'a' :: 'l' :: 's' :: 'e' :: cs => some (bool false, cs)
  | _ => none

/-- Reads the items of an array from the first one on; `done` holds those read, in reverse. -/
def readItems (item : List Char → Option (Json × List Char)) :
    Nat → List Json → List Char → Option (Json × List Char)
  | 0, _, _ => none
  | fuel + 1, done, cs =>
    match item cs with
    | none => none
    | some (j, cs) =>
      match skipSpace cs with
      | ',' :: cs => readItems item fuel (j :: done) cs
      | ']' :: cs => some (array (j :: done).reverse, cs)
      | _ => none

/-- Reads a key and the colon behind it. -/
def readKey (fuel : Nat) (cs : List Char) : Option (String × List Char) :=
  match skipSpace cs with
  | '\x22' :: cs =>
    match readStringFrom fuel [] cs with
    | some (key, cs) =>
      match skipSpace cs with
      | ':' :: cs => some (key, cs)
      | _ => none
    | none => none
  | _ => none

/-- Reads the members of an object from the first one on; `done` holds those read, in reverse, and
`value` reads the value behind a key. -/
def readMembers (fuel : Nat) (value : String → List Char → Option (Json × List Char)) :
    Nat → List (String × Json) → List Char → Option (Json × List Char)
  | 0, _, _ => none
  | count + 1, done, cs =>
    match readKey fuel cs with
    | none => none
    | some (key, cs) =>
      match value key cs with
      | none => none
      | some (j, cs) =>
        match skipSpace cs with
        | ',' :: cs => readMembers fuel value count ((key, j) :: done) cs
        | '}' :: cs => some (object ((key, j) :: done).reverse, cs)
        | _ => none

/-- Reads a value with at most `depth` levels of objects and arrays; `fuel` is the length of the
text. -/
def readValue (fuel depth : Nat) (cs : List Char) : Option (Json × List Char) :=
  match skipSpace cs with
  | [] => none
  | c :: cs =>
    if c == '\x22' then (readStringFrom fuel [] cs).map fun (s, cs) => (string s, cs)
    else if c == '-' then (readNumber true cs).map fun (n, cs) => (number n, cs)
    else if (digitValue? c).isSome then
      (readNumber false (c :: cs)).map fun (n, cs) => (number n, cs)
    else if c == '[' then
      match depth with
      | 0 => none
      | depth + 1 =>
        match skipSpace cs with
        | ']' :: cs => some (array [], cs)
        | _ => readItems (readValue fuel depth) fuel [] cs
    else if c == '{' then
      match depth with
      | 0 => none
      | depth + 1 =>
        match skipSpace cs with
        | '}' :: cs => some (object [], cs)
        | _ => readMembers fuel (fun _ => readValue fuel depth) fuel [] cs
    else readWord (c :: cs)

/-- What a reader takes from a whole text, behind which only white space may stand. The reader is
told a bound on the number of steps. -/
def readAll (reader : Nat → List Char → Option (Json × List Char)) (text : String) : Option Json :=
  let cs := text.toList
  match reader (cs.length + 1) cs with
  | some (j, rest) => if (skipSpace rest).isEmpty then some j else none
  | none => none

/-- The value of a JSON text, with members as they were written. -/
def read? (text : String) : Option Json := readAll (fun fuel => readValue fuel depthLimit) text

/-- The value of a JSON text, in canonical form. -/
def parse? (text : String) : Option Json := (read? text).map canonical

end FeatureScan.Json
