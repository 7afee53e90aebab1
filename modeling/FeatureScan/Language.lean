import FeatureScan.Path
import FeatureScan.Text.Ascii

/-!
# Languages, rule sections and layers

The three languages that sources are written in, the sections of a user's rule document, the four
kinds of markup lookups, and the layer that a rule in force comes from.

## Main results

* `Language.ofName?_name`, `Section.ofKey?_key`, `LookupKind.ofKey?_key`: a name or key reads back.
-/

namespace FeatureScan

/-- The language of a source decides how it is read and which rules apply. -/
inductive Language
  | css
  | javaScript
  | html
  deriving DecidableEq, Repr

namespace Language

/-- The name of a language in reports and messages. -/
def name : Language → String
  | css => "css"
  | javaScript => "javascript"
  | html => "html"

/-- All languages. -/
def all : List Language := [css, javaScript, html]

/-- The language with a given name. -/
def ofName? (s : String) : Option Language := all.find? fun l => l.name == s

@[simp] theorem ofName?_name (l : Language) : ofName? l.name = some l := by
  cases l <;> decide

/-- The language of a file name extension in small letters. -/
def ofExtension? (ext : String) : Option Language :=
  if ext == "css" then some css
  else if ["js", "mjs", "cjs", "jsx", "ts", "tsx"].contains ext then some javaScript
  else if ["html", "htm", "xhtml"].contains ext then some html
  else none

end Language

/-- The language of a file, told by its extension in any ASCII case. -/
def Language.ofPath? (path : String) : Option Language := do
  let ext ← Path.extension? path
  Language.ofExtension? (Text.asciiLower ext)

/-! ## Sections and lookups of a rule document -/

/-- The top-level sections of a user's rule document. -/
inductive Section
  | css
  | javaScript
  | html
  deriving DecidableEq, Repr

namespace Section

/-- The key of a section in the document. -/
def key : Section → String
  | css => "css"
  | javaScript => "javascript"
  | html => "html"

/-- All sections. -/
def all : List Section := [css, javaScript, html]

/-- The section with a given key. -/
def ofKey? (s : String) : Option Section := all.find? fun l => l.key == s

@[simp] theorem ofKey?_key (l : Section) : ofKey? l.key = some l := by
  cases l <;> decide

end Section

/-- The section that holds the rules for a language. -/
def Language.ruleSection : Language → Section
  | .css => .css
  | .javaScript => .javaScript
  | .html => .html

/-- What the markup lookups are keyed by. -/
inductive LookupKind
  | elements
  | attributes
  | inputTypes
  | attributeValues
  deriving DecidableEq, Repr

namespace LookupKind

/-- The key of a lookup in the markup section of a document. -/
def key : LookupKind → String
  | elements => "elements"
  | attributes => "attributes"
  | inputTypes => "input_types"
  | attributeValues => "attribute_values"

/-- All kinds, in the order in which they are consulted. -/
def all : List LookupKind := [elements, attributes, inputTypes, attributeValues]

/-- The kind with a given key. -/
def ofKey? (s : String) : Option LookupKind := all.find? fun k => k.key == s

@[simp] theorem ofKey?_key (k : LookupKind) : ofKey? k.key = some k := by
  cases k <;> decide

theorem mem_all (k : LookupKind) : k ∈ all := by cases k <;> decide

end LookupKind

/-! ## Layers -/

/-- Where a rule in force comes from: the builtin tables, or the user's document, whose rule may
take the place of a builtin one. -/
inductive Layer
  | builtin
  | custom (overridesBuiltin : Bool)
  deriving DecidableEq, Repr

namespace Layer

/-- Whether the user's document provides the rule. -/
def isCustom : Layer → Bool
  | builtin => false
  | custom _ => true

/-- Whether the rule takes the place of a builtin one. -/
def isOverride : Layer → Bool
  | builtin => false
  | custom overrides => overrides

@[simp] theorem isCustom_of_isOverride {l : Layer} (h : l.isOverride = true) :
    l.isCustom = true := by
  cases l <;> simp_all [isOverride, isCustom]

end Layer

end FeatureScan
