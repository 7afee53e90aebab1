import FeatureScan.Markup.Reference
import FeatureScan.Text.Ascii

/-!
# Tags

A tag is read one character at a time, up to the sign that closes it. Names are taken in small
letters, and of attributes with one name the first counts. A tag that is never closed is none.

## Main results

* `length_read_rest_lt`: what follows a tag is shorter than the text of the tag with it.
-/

namespace FeatureScan.Markup

/-- An attribute. -/
structure Attribute where
  /-- The name, in small letters. -/
  name : String
  /-- The value; empty if none is written. -/
  value : String
  /-- Whether the name lies in a vocabulary of its own, so that asking for the plain name does not
  find it. -/
  foreign : Bool := false
  deriving DecidableEq, Repr

/-- A start tag. -/
structure Tag where
  /-- The name, in small letters. -/
  name : String
  /-- The attributes, in order. -/
  attributes : List Attribute := []
  /-- Whether a slash closes the tag. -/
  selfClosing : Bool := false
  deriving DecidableEq, Repr

/-- The value of an attribute that is asked for by its plain name. -/
def valueOf? (attributes : List Attribute) (name : String) : Option String :=
  (attributes.find? fun a => a.name == name && !a.foreign).map Attribute.value

namespace Tag

/-- Whether a character separates the parts of a tag. -/
def isGap (c : Char) : Bool := c == '\t' || c == '\n' || c == '\x0c' || c == ' '

/-- The letter that a name takes for a written one. -/
def letter (c : Char) : Char := if c == '\x00' then '\uFFFD' else Text.lowerChar c

/-- What has been read of a tag. Texts are kept in reverse. -/
structure Draft where
  /-- The name of the tag. -/
  name : List Char := []
  /-- The attributes that are finished, the latest first. -/
  attributes : List Attribute := []
  /-- The name of the attribute being read. -/
  label : List Char := []
  /-- The value of the attribute being read. -/
  value : List Char := []

/-- Where in a tag the reading is. -/
inductive Stage
  /-- In the name of the tag. -/
  | name
  /-- Before an attribute. -/
  | gap
  /-- In the name of an attribute. -/
  | label
  /-- Behind the name of an attribute. -/
  | named
  /-- Before a value. -/
  | equals
  /-- In a value between quotes. -/
  | quoted (quote : Char)
  /-- In a value without quotes. -/
  | bare
  /-- Behind a quote that ends a value. -/
  | unquoted
  /-- Behind a slash. -/
  | slash

/-- How reading goes on after a character. -/
inductive Progress
  /-- The tag goes on. -/
  | more (stage : Stage) (draft : Draft)
  /-- The tag is closed, with a slash or without. -/
  | closed (draft : Draft) (selfClosing : Bool)

namespace Draft

/-- Finishes the attribute being read; one with a name that is there already is dropped. -/
def finish (d : Draft) : Draft :=
  if d.label.isEmpty then d
  else
    let name := String.ofList d.label.reverse
    let cleared := { d with label := [], value := [] }
    if d.attributes.any fun a => a.name == name then cleared
    else
      let value := Reference.attributeValue d.value.reverse
      { cleared with attributes := { name, value } :: d.attributes }

/-- Begins the next attribute. -/
def begin (d : Draft) (c : Char) : Draft := { d.finish with label := [letter c], value := [] }

/-- The tag. -/
def tag (d : Draft) (selfClosing : Bool) : Tag :=
  { name := String.ofList d.name.reverse, attributes := d.finish.attributes.reverse, selfClosing }

end Draft

/-- Takes a character between attributes. -/
def inGap (d : Draft) (c : Char) : Progress :=
  if isGap c then .more .gap d
  else if c == '/' then .more .slash d
  else if c == '>' then .closed d false
  else .more .label (d.begin c)

/-- Takes a character of a value without quotes. -/
def inBare (d : Draft) (c : Char) : Progress :=
  if isGap c then .more .gap d
  else if c == '>' then .closed d false
  else .more .bare { d with value := c :: d.value }

/-- Takes one more character. -/
def advance (stage : Stage) (d : Draft) (c : Char) : Progress :=
  match stage with
  | .name =>
    if isGap c then .more .gap d
    else if c == '/' then .more .slash d
    else if c == '>' then .closed d false
    else .more .name { d with name := letter c :: d.name }
  | .gap => inGap d c
  | .label =>
    if isGap c then .more .named d
    else if c == '/' then .more .slash d
    else if c == '>' then .closed d false
    else if c == '=' then .more .equals d
    else .more .label { d with label := letter c :: d.label }
  | .named => if c == '=' then .more .equals d else if isGap c then .more .named d else inGap d c
  | .equals =>
    if isGap c then .more .equals d
    else if c == '\x22' || c == '\x27' then .more (.quoted c) d
    else inBare d c
  | .quoted quote =>
    if c == quote then .more .unquoted d else .more (.quoted quote) { d with value := c :: d.value }
  | .bare => inBare d c
  | .unquoted => inGap d c
  | .slash => if c == '>' then .closed d true else inGap d c

/-- Reads a tag to its end, and tells it and what follows. -/
def readFrom (stage : Stage) (d : Draft) : List Char → Option (Tag × List Char)
  | [] => none
  | c :: cs =>
    match advance stage d c with
    | .more stage d => readFrom stage d cs
    | .closed d selfClosing => some (d.tag selfClosing, cs)

/-- Reads a tag from its name on. -/
def read? (cs : List Char) : Option (Tag × List Char) := readFrom .name {} cs

theorem length_readFrom_rest_lt {stage : Stage} {d : Draft} {cs rest : List Char} {tag : Tag}
    (h : readFrom stage d cs = some (tag, rest)) : rest.length < cs.length := by
  induction cs generalizing stage d with
  | nil => simp [readFrom] at h
  | cons c cs ih =>
    simp only [readFrom] at h
    split at h
    · exact Nat.lt_succ_of_lt (ih h)
    · simp only [Option.some.injEq, Prod.mk.injEq] at h
      obtain ⟨-, rfl⟩ := h
      simp

theorem length_read_rest_lt {cs rest : List Char} {tag : Tag} (h : read? cs = some (tag, rest)) :
    rest.length < cs.length := length_readFrom_rest_lt h

end Tag

end FeatureScan.Markup
