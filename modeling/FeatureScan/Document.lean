import FeatureScan.Fault
import FeatureScan.Json.Reader
import FeatureScan.Pattern.Reader
import FeatureScan.Rule
import FeatureScan.Text.Ascii

/-!
# Rule documents

What a user writes to add rules or to replace builtin ones: rules for style sheets and scripts, and
four lookups for markup. A document is read entry by entry, so that an entry that makes no sense
costs no other, and keys that begin with an underscore are comments.

## Main results

* `Document.ofJson?_eq_none_iff`: only a document that is no object cannot be read.
* `Entries.get_set`: the lookups of markup are kept apart.
-/

namespace FeatureScan

/-! ## The lookups of markup -/

/-- The user's entries for the four lookups of markup. -/
structure Entries where
  /-- Features by element. -/
  elements : Dict String := .empty
  /-- Features by attribute. -/
  attributes : Dict String := .empty
  /-- Features by type of input. -/
  inputTypes : Dict String := .empty
  /-- Features by attribute, colon and value. -/
  attributeValues : Dict String := .empty
  deriving DecidableEq, Repr

namespace Entries

/-- The entries of one lookup. -/
def get (e : Entries) : LookupKind → Dict String
  | .elements => e.elements
  | .attributes => e.attributes
  | .inputTypes => e.inputTypes
  | .attributeValues => e.attributeValues

/-- The entries with those of one lookup replaced. -/
def set (e : Entries) (kind : LookupKind) (d : Dict String) : Entries :=
  match kind with
  | .elements => { e with elements := d }
  | .attributes => { e with attributes := d }
  | .inputTypes => { e with inputTypes := d }
  | .attributeValues => { e with attributeValues := d }

/-- How many entries there are. -/
def size (e : Entries) : Nat := LookupKind.all.foldl (fun n k => n + (e.get k).size) 0

/-- Whether there is no entry. -/
def isEmpty (e : Entries) : Bool := LookupKind.all.all fun k => (e.get k).isEmpty

theorem get_set (e : Entries) (k k' : LookupKind) (d : Dict String) :
    (e.set k d).get k' = if k = k' then d else e.get k' := by
  cases k <;> cases k' <;> rfl

end Entries

/-! ## Documents -/

/-- The rules of a user. -/
structure Document where
  /-- Rules for style sheets. -/
  css : Dict Rule := .empty
  /-- Rules for scripts. -/
  javaScript : Dict Rule := .empty
  /-- Lookups for markup. -/
  html : Entries := {}
  deriving DecidableEq, Repr

namespace Document

/-- The document without rules. -/
def empty : Document := {}

/-- How many rules and entries there are. -/
def size (d : Document) : Nat := d.css.size + d.javaScript.size + d.html.size

/-- Whether there is nothing in a document. -/
def isEmpty (d : Document) : Bool := d.size == 0

/-- The rules of a section; the section for markup holds none. -/
def rules? (d : Document) : Section → Option (Dict Rule)
  | .css => some d.css
  | .javaScript => some d.javaScript
  | .html => none

/-- The rules for the patterns of a language. -/
def rulesFor (d : Document) (l : Language) : Dict Rule := (d.rules? l.ruleSection).getD .empty

/-- Whether the user defines a name in a section. For markup the name is a key of the lookup asked
for; if none is, it is a key or a feature of any. -/
def contains (d : Document) (s : Section) (id : String) (kind? : Option LookupKind) : Bool :=
  match s with
  | .css => d.css.contains id
  | .javaScript => d.javaScript.contains id
  | .html =>
    match kind? with
    | some k => (d.html.get k).contains id
    | none =>
      LookupKind.all.any fun k =>
        (d.html.get k).contains id || (d.html.get k).values.contains id

/-! ## Reading -/

/-- Whether a key is a comment. -/
def isComment (key : String) : Bool := key.toList.head? == some '_'

/-- The strings among the items of an array. -/
def stringItems (items : List Json) : List String := items.filterMap Json.string?

/-- The patterns that an entry gives: a list, of which the strings count, or one string. -/
def patterns? (entry : Json) : Option (List String) :=
  match entry.member? "patterns" with
  | some (.array items) => some (stringItems items)
  | some (.string s) => some [s]
  | _ => none

/-- The rule of an entry. Without a description it is described by its id. -/
def rule? (id : String) (entry : Json) : Option Rule :=
  (patterns? entry).map fun patterns =>
    { id, patterns
      description := ((entry.member? "description").bind Json.string?).getD id
      category := customCategory
      keywords := (((entry.member? "keywords").bind Json.array?).map stringItems).getD [] }

/-- The members of an object that are no comments. -/
def members (content : List (String × Json)) : List (String × Json) :=
  content.filter fun m => !isComment m.1

/-- The rules of a section. -/
def rulesOf (content : List (String × Json)) : Dict Rule :=
  .ofList ((members content).filterMap fun m => (rule? m.1 m.2).map fun r => (m.1, r))

/-- The entries of a lookup, with their keys in small letters; of entries with one key the last
counts. -/
def entriesOf (lookup : List (String × Json)) : Dict String :=
  .ofList ((members lookup).filterMap fun m => m.2.string?.map fun id => (Text.asciiLower m.1, id))

/-- The object of a section, if it is one. -/
def sectionOf (root : Json) (s : Section) : List (String × Json) :=
  ((root.member? s.key).bind Json.object?).getD []

/-- The entries of one lookup in the section for markup. -/
def lookupOf (root : Json) (kind : LookupKind) : List (String × Json) :=
  (((Json.object (sectionOf root .html)).member? kind.key).bind Json.object?).getD []

/-- The document of a value, if that is an object. -/
def ofJson? (root : Json) : Option Document :=
  root.object?.map fun _ =>
    { css := rulesOf (sectionOf root .css)
      javaScript := rulesOf (sectionOf root .javaScript)
      html := LookupKind.all.foldl (fun e k => e.set k (entriesOf (lookupOf root k))) {} }

theorem ofJson?_eq_none_iff (root : Json) : ofJson? root = none ↔ root.object? = none := by
  simp [ofJson?]

/-- The document of a value, or why there is none. -/
def ofJson (root : Json) : Except Fault Document :=
  match ofJson? root with
  | some d => .ok d
  | none => .error .documentNoObject

/-- The document of a text, or why there is none. -/
def ofText (text : String) : Except Fault Document :=
  match Json.parse? text with
  | some root => ofJson root
  | none => .error .malformedDocument

/-! ## What is left out in reading -/

/-- A part of a document that was left out. -/
inductive Omission
  /-- A section that is no object. -/
  | wholeSection (s : Section)
  /-- A rule without patterns to use. -/
  | rule (s : Section) (id : String)
  /-- A lookup that is no object. -/
  | lookup (kind : LookupKind)
  /-- An entry of a lookup that names no feature. -/
  | entry (kind : LookupKind) (key : String)
  deriving DecidableEq, Repr

/-- What is left out of a section as a whole: one that is there, and is neither an object nor
null. -/
def sectionOmissions (root : Json) (s : Section) : List Omission :=
  match root.member? s.key with
  | none | some .null | some (.object _) => []
  | some _ => [.wholeSection s]

/-- The rules left out of a section. -/
def ruleOmissions (root : Json) (s : Section) : List Omission :=
  (members (sectionOf root s)).filterMap fun m =>
    if (rule? m.1 m.2).isNone then some (.rule s m.1) else none

/-- What is left out of a lookup. -/
def lookupOmissions (root : Json) (kind : LookupKind) : List Omission :=
  match (Json.object (sectionOf root .html)).member? kind.key with
  | none => []
  | some (.object lookup) =>
    (members lookup).filterMap fun m =>
      if m.2.string?.isNone then some (.entry kind m.1) else none
  | some _ => [.lookup kind]

/-- What is left out of a document, in the order of reading. -/
def omissions (root : Json) : List Omission :=
  match root with
  | .object _ =>
    sectionOmissions root .css ++ ruleOmissions root .css ++
      sectionOmissions root .javaScript ++ ruleOmissions root .javaScript ++
      sectionOmissions root .html ++ LookupKind.all.flatMap (lookupOmissions root)
  | _ => []

/-! ## Writing -/

/-- The entry of a rule. -/
def ruleJson (r : Rule) : Json :=
  .object
    ([("description", .string r.description)] ++
      (if r.keywords.isEmpty then [] else [("keywords", .strings r.keywords)]) ++
      [("patterns", .strings r.patterns)])

/-- The object of some rules. -/
def rulesJson (rules : Dict Rule) : Json := .ofDict (rules.mapValues fun _ r => ruleJson r)

/-- The object of some entries. -/
def entriesJson (entries : Dict String) : Json := .ofDict (entries.mapValues fun _ id => .string id)

/-- The document as a value, with the keys of its objects in order. -/
def toJson (d : Document) : Json :=
  .object [
    ("css", rulesJson d.css),
    ("html", .object [
      ("attribute_values", entriesJson d.html.attributeValues),
      ("attributes", entriesJson d.html.attributes),
      ("elements", entriesJson d.html.elements),
      ("input_types", entriesJson d.html.inputTypes)]),
    ("javascript", rulesJson d.javaScript)]

/-! ## Checking -/

/-- What is wrong with a rule: that it has no patterns, or each pattern that is none. -/
def ruleFaults (r : Rule) : List Fault :=
  (if r.patterns.isEmpty then [.noPatterns r.id] else []) ++
    r.patterns.filterMap fun p =>
      if (Pattern.read? false p).isNone then some (.invalidPattern r.id p) else none

/-- What is wrong with the rules of a document, in the order of the rules. -/
def faults (d : Document) : List Fault :=
  (d.css.values ++ d.javaScript.values).flatMap ruleFaults

end Document

end FeatureScan
