import FeatureScan.Json.Fields
import FeatureScan.Json.Record
import FeatureScan.Scanner

/-!
# Written forms

How languages, layers, rules, findings, reports and options are written as JSON values, and how they
are read from them. Reading takes more than writing makes: records may be arrays, members that are
no fields are passed over, and fields with a usual value may be missing. Where a text is read, such
members need not even have a value.

## Main results

* `Language.ofJson?_toJson`, `Layer.ofJson?_toJson`, `Evidence.ofJson?_toJson`: what is written
  reads back.
-/

namespace FeatureScan

/-! ## Names -/

namespace Language

/-- The written form of a language: its name. -/
def toJson (l : Language) : Json := .string l.name

/-- Reads a language. -/
def ofJson? (j : Json) : Option Language := j.case?.bind ofName?

/-- Reads a language from a text. -/
def ofText? (text : String) : Option Language := (Json.read? text).bind ofJson?

theorem ofJson?_toJson (l : Language) : ofJson? l.toJson = some l := by
  simp [ofJson?, toJson, Json.case?]

end Language

namespace Section

/-- The written form of a section: its key. -/
def toJson (s : Section) : Json := .string s.key

/-- Reads a section. -/
def ofJson? (j : Json) : Option Section := j.case?.bind ofKey?

/-- Reads a section from a text. -/
def ofText? (text : String) : Option Section := (Json.read? text).bind ofJson?

theorem ofJson?_toJson (s : Section) : ofJson? s.toJson = some s := by
  simp [ofJson?, toJson, Json.case?]

end Section

namespace LookupKind

/-- The written form of a kind of lookup: its key. -/
def toJson (k : LookupKind) : Json := .string k.key

/-- Reads a kind of lookup. -/
def ofJson? (j : Json) : Option LookupKind := j.case?.bind ofKey?

/-- Reads a kind of lookup from a text. -/
def ofText? (text : String) : Option LookupKind := (Json.read? text).bind ofJson?

theorem ofJson?_toJson (k : LookupKind) : ofJson? k.toJson = some k := by
  simp [ofJson?, toJson, Json.case?]

end LookupKind

/-! ## Layers -/

namespace Layer

/-- The fields of a custom layer. -/
def fieldNames : List String := ["overrides_builtin"]

/-- The written form of a layer. -/
def toJson : Layer → Json
  | builtin => .string "builtin"
  | custom overrides => .object [("custom", .object [("overrides_builtin", .bool overrides)])]

/-- Reads a layer. -/
def ofJson? (j : Json) : Option Layer :=
  if j.case? == some "builtin" then some builtin
  else
    match j.caseWith? with
    | some ("custom", value) => do
      let f ← value.fields? fieldNames
      let overrides ← f.required? "overrides_builtin" Json.bool?
      return custom overrides
    | _ => none

/-- Reads a layer from a text. -/
def ofText? (text : String) : Option Layer := (Json.readCase? fieldNames text).bind ofJson?

theorem ofJson?_toJson (l : Layer) : ofJson? l.toJson = some l := by
  cases l <;> rfl

end Layer

/-! ## Findings -/

namespace Evidence

/-- The member that evidence is written as. -/
def toMember : Evidence → String × Json
  | properties patterns => ("matched_properties", .strings patterns)
  | pattern source => ("pattern", .string source)
  | element name => ("element", .string name)
  | .attribute text => ("attribute", .string text)
  | detector seen => ("detector", .string seen)

/-- The keys of members that hold evidence. -/
def keys : List String := ["matched_properties", "pattern", "element", "attribute", "detector"]

/-- Reads evidence from a member. -/
def ofMember? (m : String × Json) : Option Evidence :=
  match m.1 with
  | "matched_properties" => m.2.strings?.map properties
  | "pattern" => m.2.string?.map pattern
  | "element" => m.2.string?.map element
  | "attribute" => m.2.string?.map .attribute
  | "detector" => m.2.string?.map detector
  | _ => none

/-- The written form of evidence. -/
def toJson (e : Evidence) : Json := .object [e.toMember]

/-- Reads evidence. -/
def ofJson? (j : Json) : Option Evidence := j.caseWith?.bind ofMember?

/-- Reads evidence from a text. -/
def ofText? (text : String) : Option Evidence := (Json.read? text).bind ofJson?

theorem ofMember?_toMember (e : Evidence) : ofMember? e.toMember = some e := by
  cases e <;> simp [ofMember?, toMember, Json.strings?_strings, Json.string?]

theorem ofJson?_toJson (e : Evidence) : ofJson? e.toJson = some e := by
  simp [ofJson?, toJson, Json.caseWith?, ofMember?_toMember]

end Evidence

namespace Match

/-- The written form of a finding: the evidence stands among the fields. -/
def toJson (m : Match) : Json :=
  .object [("feature", .string m.feature), ("description", .string m.description),
    m.evidence.toMember]

/-- Reads a finding. The first member that can hold evidence does. -/
def ofJson? (j : Json) : Option Match := do
  let members ← j.object?
  let f ← j.fields? ["feature", "description"]
  let feature ← f.required? "feature" Json.string?
  let description ← f.required? "description" Json.string?
  let evidence ← (members.find? fun m => Evidence.keys.contains m.1).bind Evidence.ofMember?
  return { feature, description, evidence }

/-- Reads a finding from a text. Any member may be evidence, so all need a value. -/
def ofText? (text : String) : Option Match := (Json.read? text).bind ofJson?

end Match

/-- Reads a set of names. -/
def NameSet.ofJson? (j : Json) : Option NameSet := j.strings?.map NameSet.ofNames

namespace ScanResult

/-- The fields of a result. -/
def fieldNames : List String := ["features", "details", "unrecognized"]

/-- The members of a result. -/
def toMembers (r : ScanResult) : List (String × Json) :=
  [("features", .strings r.features.toList), ("details", .array (r.details.map Match.toJson)),
    ("unrecognized", .strings r.unrecognized.toList)]

/-- The written form of a result. -/
def toJson (r : ScanResult) : Json := .object r.toMembers

/-- Reads a result. -/
def ofJson? (j : Json) : Option ScanResult := do
  let f ← j.fields? fieldNames
  let features ← f.required? "features" NameSet.ofJson?
  let details ← f.required? "details" (Json.list? Match.ofJson?)
  let unrecognized ← f.required? "unrecognized" NameSet.ofJson?
  return { features, details, unrecognized }

/-- Reads a result from a text. -/
def ofText? (text : String) : Option ScanResult := (Json.readRecord? fieldNames text).bind ofJson?

end ScanResult

/-! ## Reports -/

namespace Report

/-- The fields of a report. -/
def fieldNames : List String :=
  ["language", "total_features", "by_category", "custom_features", "total_unrecognized",
    "unrecognized"]

/-- The written form of a report. -/
def toJson (r : Report) : Json :=
  .object [
    ("language", (r.language.map Language.toJson).getD .null),
    ("total_features", .nat r.totalFeatures),
    ("by_category", .ofDict (r.byCategory.mapValues fun _ l => .strings l)),
    ("custom_features", .strings r.customFeatures),
    ("total_unrecognized", .nat r.totalUnrecognized),
    ("unrecognized", .strings r.unrecognized)]

/-- Reads the language of a report. It may be missing where the fields have names. -/
def languageIn? (f : Json.Fields) : Option (Option Language) :=
  if f.positional then f.required? "language" (Json.nullable? Language.ofJson?)
  else f.withDefault? "language" none (Json.nullable? Language.ofJson?)

/-- Reads a report. -/
def ofJson? (j : Json) : Option Report := do
  let f ← j.fields? fieldNames
  let language ← languageIn? f
  let totalFeatures ← f.required? "total_features" Json.nat?
  let byCategory ← f.required? "by_category" (Json.dict? Json.strings?)
  let customFeatures ← f.required? "custom_features" Json.strings?
  let totalUnrecognized ← f.required? "total_unrecognized" Json.nat?
  let unrecognized ← f.required? "unrecognized" Json.strings?
  return { language, totalFeatures, byCategory, customFeatures, totalUnrecognized, unrecognized }

/-- Reads a report from a text. -/
def ofText? (text : String) : Option Report := (Json.readRecord? fieldNames text).bind ofJson?

end Report

/-! ## Rules and options -/

namespace Rule

/-- The fields of a rule. -/
def fieldNames : List String := ["id", "patterns", "description", "category", "keywords"]

/-- The written form of a rule; keywords are left out if there are none. -/
def toJson (r : Rule) : Json :=
  .object
    ([("id", .string r.id), ("patterns", .strings r.patterns),
      ("description", .string r.description), ("category", .string r.category)] ++
      if r.keywords.isEmpty then [] else [("keywords", .strings r.keywords)])

/-- Reads a rule. -/
def ofJson? (j : Json) : Option Rule := do
  let f ← j.fields? fieldNames
  let id ← f.required? "id" Json.string?
  let patterns ← f.required? "patterns" Json.strings?
  let description ← f.withDefault? "description" "" Json.string?
  let category ← f.withDefault? "category" customCategory Json.string?
  let keywords ← f.withDefault? "keywords" [] Json.strings?
  return { id, patterns, description, category, keywords }

/-- Reads a rule from a text. -/
def ofText? (text : String) : Option Rule := (Json.readRecord? fieldNames text).bind ofJson?

end Rule

namespace ScanOptions

/-- The fields of options. -/
def fieldNames : List String := ["report_unrecognized"]

/-- The written form of options. -/
def toJson (o : ScanOptions) : Json := .object [("report_unrecognized", .bool o.reportUnknown)]

/-- Reads options. -/
def ofJson? (j : Json) : Option ScanOptions := do
  let f ← j.fields? fieldNames
  let usual : ScanOptions := {}
  let reportUnknown ← f.withDefault? "report_unrecognized" usual.reportUnknown Json.bool?
  return { reportUnknown }

/-- Reads options from a text. -/
def ofText? (text : String) : Option ScanOptions := (Json.readRecord? fieldNames text).bind ofJson?

theorem ofJson?_toJson (o : ScanOptions) : ofJson? o.toJson = some o := by
  cases o; rfl

end ScanOptions

end FeatureScan
