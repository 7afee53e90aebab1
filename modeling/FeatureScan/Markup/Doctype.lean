import FeatureScan.Markup.Tag

/-!
# Document types

The declaration at the top of a document decides whether it is laid out by the rules of old pages.
One of those rules shows in the tree: there a table does not end a paragraph.

## Main results

* `isOld_of_broken`: a declaration that breaks off makes an old document.
-/

namespace FeatureScan.Markup

/-- A document type. -/
structure Doctype where
  /-- The name, in small letters. -/
  name : String := ""
  /-- The public identifier. -/
  publicId? : Option String := none
  /-- The system identifier. -/
  systemId? : Option String := none
  /-- Whether the declaration breaks off. -/
  broken : Bool := false
  deriving DecidableEq, Repr

namespace Doctype

/-- What follows the blanks in front. -/
def afterGaps (cs : List Char) : List Char := cs.dropWhile Tag.isGap

/-- The text of an identifier, with the mark for what is no character in place of null. -/
def identifier (cs : List Char) : String :=
  String.ofList (cs.map fun c => if c == '\x00' then '\uFFFD' else c)

/-- Reads an identifier up to its closing quote. What follows the quote is told if there is one. -/
def quoted (quote : Char) (cs : List Char) : String × Option (List Char) :=
  (identifier (cs.takeWhile (· != quote)),
    match cs.dropWhile (· != quote) with
    | [] => none
    | _ :: rest => some rest)

/-- Reads a system identifier. -/
def readSystem (required : Bool) (d : Doctype) (cs : List Char) : Doctype :=
  match afterGaps cs with
  | [] => { d with broken := required }
  | c :: rest =>
    if c == '\x22' || c == '\x27' then
      let (text, behind?) := quoted c rest
      { d with systemId? := some text, broken := behind?.isNone }
    else { d with broken := true }

/-- Reads a public identifier and, if there is more, a system identifier. -/
def readPublic (d : Doctype) (cs : List Char) : Doctype :=
  match afterGaps cs with
  | [] => { d with broken := true }
  | c :: rest =>
    if c == '\x22' || c == '\x27' then
      match quoted c rest with
      | (text, none) => { d with publicId? := some text, broken := true }
      | (text, some behind) => readSystem false { d with publicId? := some text } behind
    else { d with broken := true }

/-- Reads what stands between the keyword of the declaration and the sign that closes it. -/
def ofContent (content : List Char) : Doctype :=
  let content := afterGaps content
  let written := content.takeWhile fun c => !Tag.isGap c
  let name := Text.asciiLower (identifier written)
  let behind := afterGaps (content.drop written.length)
  let keyword := Text.asciiLower (String.ofList (behind.take 6))
  if written.isEmpty then { broken := true }
  else if behind.isEmpty then { name }
  else if keyword == "public" then readPublic { name } (behind.drop 6)
  else if keyword == "system" then readSystem true { name } (behind.drop 6)
  else { name, broken := true }

/-! ## Old documents -/

/-- Public identifiers of old documents. -/
def oldPublicIds : List String :=
  ["html", "-//w3o//dtd w3 html strict 3.0//en//", "-/w3c/dtd html 4.0 transitional/en"]

/-- What public identifiers of old documents begin with. -/
def oldPublicFronts : List String := [
  "-//ietf//dtd html 2.0 level 1//", "-//ietf//dtd html 2.0 level 2//",
  "-//ietf//dtd html 2.0 strict level 1//", "-//ietf//dtd html 2.0 strict level 2//",
  "-//ietf//dtd html 2.0 strict//", "-//ietf//dtd html 2.0//", "-//ietf//dtd html 2.1e//",
  "-//ietf//dtd html 3.0//", "-//ietf//dtd html 3.2 final//", "-//ietf//dtd html 3.2//",
  "-//ietf//dtd html 3//", "-//ietf//dtd html level 0//", "-//ietf//dtd html level 1//",
  "-//ietf//dtd html level 2//", "-//ietf//dtd html level 3//",
  "-//ietf//dtd html strict level 0//", "-//ietf//dtd html strict level 1//",
  "-//ietf//dtd html strict level 2//", "-//ietf//dtd html strict level 3//",
  "-//ietf//dtd html strict//", "-//ietf//dtd html//",
  "-//w3c//dtd html 3 1995-03-24//", "-//w3c//dtd html 3.2 draft//", "-//w3c//dtd html 3.2 final//",
  "-//w3c//dtd html 3.2//", "-//w3c//dtd html 3.2s draft//", "-//w3c//dtd html 4.0 frameset//",
  "-//w3c//dtd html 4.0 transitional//", "-//w3c//dtd html experimental 19960712//",
  "-//w3c//dtd html experimental 970421//", "-//w3c//dtd w3 html//", "-//w3o//dtd w3 html 3.0//"]

/-- What public identifiers begin with that make an old document if no system identifier follows. -/
def halfOldPublicFronts : List String := [
  "-//w3c//dtd html 4.01 frameset//", "-//w3c//dtd html 4.01 transitional//"]

/-- Whether a text begins with one of some others. -/
def beginsWithAny (fronts : List String) (s : String) : Bool :=
  fronts.any fun front => Text.hasFront front.toList s.toList

/-- Whether a public identifier is that of an old document. -/
def isOldPublicId (systemId? : Option String) (id : String) : Bool :=
  let id := Text.asciiLower id
  oldPublicIds.contains id || beginsWithAny oldPublicFronts id ||
    (systemId?.isNone && beginsWithAny halfOldPublicFronts id)

/-- Whether a document is an old one by its type. -/
def isOld (d : Doctype) : Bool :=
  d.broken || d.name != "html" || d.publicId?.any (isOldPublicId d.systemId?)

theorem isOld_of_broken {d : Doctype} (h : d.broken = true) : d.isOld = true := by
  simp [isOld, h]

end Doctype

end FeatureScan.Markup
