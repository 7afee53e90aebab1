import FeatureScan.Finding
import FeatureScan.Markup.Parsing
import FeatureScan.Markup.Rulebook

/-!
# Scanning markup

A scan goes through the places of a document and adds to one result. At each place the name, the
attributes and their values are looked up, and the detectors are tried; what leads to a feature that
has been found already is passed over. A custom element or an attribute that no rule knows is
reported, unless it is plain.
-/

namespace FeatureScan.Markup

/-! ## Values -/

/-- The value that counts for a look-up of an attribute: without blanks around it and in small
letters, and of a type only what stands before a semicolon. -/
def plainValue (name value : String) : String :=
  let written := if name == "type" then value.toList.takeWhile (· != ';') else value.toList
  Text.asciiLower (String.ofList (Text.trim written))

/-- The key of an attribute with a value. -/
def pairKey (name value : String) : String := name ++ ":" ++ value

/-- How an attribute with a value is written as evidence. -/
def pairText (name value : String) : String := name ++ "=\"" ++ value ++ "\""

namespace Rulebook

/-! ## Unknown names -/

/-- Whether an element is unknown: a custom one that no rule is for. -/
def isUnknownElement (r : Rulebook) (name : String) : Bool :=
  isCustomElement name && !(r.lookup .elements).contains name

/-- Whether an attribute is unknown, where the given ones are known to rules. -/
def isUnknownAttribute (known : List String) (name : String) : Bool :=
  !known.contains name && !isPlainAttribute name

/-- How an unknown element is reported. -/
def elementReport (name : String) : String := "element: <" ++ name ++ ">"

/-- How an unknown attribute is reported. -/
def attributeReport (name : String) : String := "attribute: " ++ name

/-! ## Looking -/

/-- Looks a key up, and records the feature that it leads to unless it has been found already. -/
def recordKey (r : Rulebook) (kind : LookupKind) (key : String) (evidence : Evidence)
    (result : ScanResult) : ScanResult :=
  match (r.lookup kind).get? key with
  | some (feature, _) =>
    if result.contains feature then result
    else result.record ⟨feature, Catalog.featureDescription feature, evidence⟩
  | none => result

/-- Looks up an attribute with a value; no value leads to nothing. -/
def recordPair (r : Rulebook) (name value : String) (result : ScanResult) : ScanResult :=
  if value.isEmpty then result
  else r.recordKey .attributeValues (pairKey name value) (.attribute (pairText name value)) result

/-- Looks up the value of an attribute that is the type of an input. -/
def recordInput (r : Rulebook) (element name value : String) (result : ScanResult) :
    ScanResult :=
  if element == "input" && name == "type" then
    r.recordKey .inputTypes value (.attribute ("input " ++ pairText "type" value)) result
  else result

/-- Looks up each of the relations that an attribute states. -/
def recordRelations (r : Rulebook) (name value : String) (result : ScanResult) : ScanResult :=
  if name == "rel" then
    (Text.words value).foldl (fun result word => r.recordPair name word result) result
  else result

/-- Reports a name if it is unknown and unknown names are asked for. -/
def reportName (reportUnknown unknown : Bool) (text : String) (result : ScanResult) : ScanResult :=
  if reportUnknown && unknown then result.addUnrecognized text else result

/-- Looks at an attribute of an element: its name, its value as the type of an input, its value, and
each of the relations that it states. -/
def inspectAttribute (r : Rulebook) (reportUnknown : Bool) (known : List String)
    (element : String) (result : ScanResult) (a : Attribute) : ScanResult :=
  let name := Text.asciiLower a.name
  let value := plainValue name a.value
  let result := r.recordKey .attributes name (.attribute name) result
  let result := r.recordInput element name value result
  let result := r.recordPair name value result
  let result := r.recordRelations name value result
  reportName reportUnknown (isUnknownAttribute known name) (attributeReport name) result

/-- Tries a detector, unless its feature has been found already. -/
def detect (p : Place) (result : ScanResult) (d : Detector) : ScanResult :=
  if !result.contains d.feature && d.holds p then
    result.record ⟨d.feature, Catalog.featureDescription d.feature, .detector d.evidence⟩
  else result

/-- Looks at a place: at its name, at its attributes, and with the given detectors. -/
def inspect (r : Rulebook) (tests : List Detector) (reportUnknown : Bool) (known : List String)
    (result : ScanResult) (p : Place) : ScanResult :=
  let name := Text.asciiLower p.name
  let result := r.recordKey .elements name (.element name) result
  let result := reportName reportUnknown (r.isUnknownElement name) (elementReport name) result
  let result := p.attributes.foldl (r.inspectAttribute reportUnknown known name) result
  tests.foldl (detect p) result

/-! ## Scanning -/

/-- The result of going through some places with the given detectors; `reportUnknown` asks for
unknown names. -/
def walk (r : Rulebook) (tests : List Detector) (reportUnknown : Bool) (places : List Place) :
    ScanResult :=
  places.foldl (r.inspect tests reportUnknown r.knownAttributes) .empty

/-- The result of scanning a document. -/
def scanTree (r : Rulebook) (reportUnknown : Bool) (root : Element) : ScanResult :=
  r.walk detectors reportUnknown root.places

/-- The result of scanning a text. -/
def scan (r : Rulebook) (reportUnknown : Bool) (source : String) : ScanResult :=
  r.scanTree reportUnknown (parse source)

end Rulebook

end FeatureScan.Markup
