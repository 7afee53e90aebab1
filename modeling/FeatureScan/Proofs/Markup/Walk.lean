import FeatureScan.Markup.Scan

/-!
# The walk through a document

A walk adds to one result, and looks at what has been found so far before it looks up a key or tries
a detector. Told without the result, each place leads to a row of findings and to some unknown
names; the walk records the rows of all places one after the other. What it passes over because it
has been found already makes no difference, as of a feature only the first finding is kept.

## Main results

* `mem_findings_cases`: what a place leads to comes from a lookup or from a detector.
* `inspect_eq`: looking at a place notes what the place leads to.
* `walk_eq`: a walk notes what its places lead to.
* `mem_features_walk`, `mem_unrecognized_walk`: what is found on a walk is found at its places.
-/

namespace FeatureScan

/-! ## Noting -/

namespace ScanResult

/-- The result with a row of findings and some unknown names. -/
def noting (r : ScanResult) (found : List Match) (unknown : List String) : ScanResult :=
  { found.foldl record r with unrecognized := unknown.foldl NameSet.add r.unrecognized }

theorem foldl_record_with_unrecognized (found : List Match) (r : ScanResult) (names : NameSet) :
    found.foldl record { r with unrecognized := names } =
      { found.foldl record r with unrecognized := names } := by
  induction found generalizing r with
  | nil => rfl
  | cons m found ih =>
      have hrecord : ({ r with unrecognized := names } : ScanResult).record m =
          { r.record m with unrecognized := names } := by
        unfold record contains
        dsimp only
        split <;> rfl
      rw [List.foldl_cons, List.foldl_cons, hrecord, ih]

theorem noting_nil (r : ScanResult) : r.noting [] [] = r := rfl

theorem noting_noting (r : ScanResult) (found found' : List Match)
    (unknown unknown' : List String) :
    (r.noting found unknown).noting found' unknown' =
      r.noting (found ++ found') (unknown ++ unknown') := by
  simp only [noting, foldl_record_with_unrecognized, List.foldl_append]

/-- A finding of a feature that has been found already is passed over. -/
theorem noting_known {r : ScanResult} {m : Match} (h : r.contains m.feature = true) :
    r.noting [m] [] = r := by
  have hrecord : r.record m = r := if_pos h
  simp only [noting, List.foldl_cons, List.foldl_nil, hrecord]

theorem noting_new (r : ScanResult) (m : Match) : r.noting [m] [] = r.record m := by
  have hnames : (r.record m).unrecognized = r.unrecognized :=
    unrecognized_foldl_record [m] r
  simp only [noting, List.foldl_cons, List.foldl_nil, ← hnames]

/-- Steps of which each notes something note all of it. -/
theorem foldl_noting {α : Type} {step : ScanResult → α → ScanResult} {found : α → List Match}
    {unknown : α → List String} (h : ∀ r a, step r a = r.noting (found a) (unknown a))
    (l : List α) (r : ScanResult) :
    l.foldl step r = r.noting (l.flatMap found) (l.flatMap unknown) := by
  induction l generalizing r with
  | nil => rfl
  | cons a l ih =>
      rw [List.foldl_cons, ih, h, noting_noting, List.flatMap_cons, List.flatMap_cons]

/-- Unknown names make no difference to what is found. -/
theorem features_noting (r : ScanResult) (found : List Match) (unknown : List String) :
    (r.noting found unknown).features = (found.foldl record r).features := rfl

theorem details_noting (r : ScanResult) (found : List Match) (unknown : List String) :
    (r.noting found unknown).details = (found.foldl record r).details := rfl

theorem mem_features_noting (r : ScanResult) (found : List Match) (unknown : List String)
    (x : String) :
    x ∈ (r.noting found unknown).features.toList ↔
      x ∈ r.features.toList ∨ ∃ m ∈ found, m.feature = x :=
  features_foldl_record found r x

theorem mem_unrecognized_noting (r : ScanResult) (found : List Match) (unknown : List String)
    (x : String) :
    x ∈ (r.noting found unknown).unrecognized.toList ↔
      x ∈ unknown ∨ x ∈ r.unrecognized.toList :=
  NameSet.mem_foldl_add unknown r.unrecognized x

end ScanResult

namespace Markup.Rulebook

open ScanResult (noting noting_nil noting_noting noting_known noting_new foldl_noting)

/-! ## What a place leads to -/

/-- What a key of a lookup leads to. -/
def found? (r : Rulebook) (kind : LookupKind) (key : String) (evidence : Evidence) :
    Option Match :=
  ((r.lookup kind).get? key).map fun p => ⟨p.1, Catalog.featureDescription p.1, evidence⟩

/-- What an attribute with a value leads to. -/
def pairFinding? (r : Rulebook) (name value : String) : Option Match :=
  if value.isEmpty then none
  else r.found? .attributeValues (pairKey name value) (.attribute (pairText name value))

/-- What the type of an input leads to. -/
def inputFinding? (r : Rulebook) (element name value : String) : Option Match :=
  if element == "input" && name == "type" then
    r.found? .inputTypes value (.attribute ("input " ++ pairText "type" value))
  else none

/-- What the relations that an attribute states lead to. -/
def relationFindings (r : Rulebook) (name value : String) : List Match :=
  if name == "rel" then (Text.words value).filterMap (r.pairFinding? name) else []

/-- What an attribute with its value leads to. -/
def attributeFindings (r : Rulebook) (element name value : String) : List Match :=
  (r.found? .attributes name (.attribute name)).toList ++
    ((r.inputFinding? element name value).toList ++
      ((r.pairFinding? name value).toList ++ r.relationFindings name value))

/-- What an attribute of an element leads to, in small letters both. -/
def findingsOf (r : Rulebook) (element : String) (a : Attribute) : List Match :=
  r.attributeFindings element (Text.asciiLower a.name)
    (plainValue (Text.asciiLower a.name) a.value)

/-- What a detector sees at a place. -/
def detection (d : Detector) : Match :=
  ⟨d.feature, Catalog.featureDescription d.feature, .detector d.evidence⟩

/-- Everything that a place leads to, in the order of looking. -/
def findings (r : Rulebook) (tests : List Detector) (p : Place) : List Match :=
  (r.found? .elements (Text.asciiLower p.name) (.element (Text.asciiLower p.name))).toList ++
    (p.attributes.flatMap (r.findingsOf (Text.asciiLower p.name)) ++
      (tests.filter fun d => d.holds p).map detection)

/-- The names that a report tells of, if they are asked for and unknown. -/
def reported (reportUnknown unknown : Bool) (text : String) : List String :=
  if reportUnknown && unknown then [text] else []

/-- The unknown names at a place, where the given attributes are known to rules. -/
def unknownNames (r : Rulebook) (reportUnknown : Bool) (known : List String) (p : Place) :
    List String :=
  reported reportUnknown (r.isUnknownElement (Text.asciiLower p.name))
      (elementReport (Text.asciiLower p.name)) ++
    p.attributes.flatMap fun a =>
      reported reportUnknown (isUnknownAttribute known (Text.asciiLower a.name))
        (attributeReport (Text.asciiLower a.name))

/-- What a pair of attribute and value leads to comes from a lookup. -/
theorem exists_found?_of_pairFinding? {r : Rulebook} {name value : String} {m : Match}
    (h : r.pairFinding? name value = some m) :
    ∃ kind key evidence, r.found? kind key evidence = some m := by
  unfold pairFinding? at h
  split at h
  · cases h
  · exact ⟨_, _, _, h⟩

/-- What an attribute leads to comes from one of the three lookups for attributes. -/
theorem exists_found?_of_mem_attributeFindings {r : Rulebook} {element name value : String}
    {m : Match} (h : m ∈ r.attributeFindings element name value) :
    ∃ kind key evidence, r.found? kind key evidence = some m := by
  simp only [attributeFindings, List.mem_append, Option.mem_toList] at h
  rcases h with hname | hinput | hpair | hrelation
  · exact ⟨_, _, _, hname⟩
  · unfold inputFinding? at hinput
    split at hinput
    · exact ⟨_, _, _, hinput⟩
    · cases hinput
  · exact exists_found?_of_pairFinding? hpair
  · unfold relationFindings at hrelation
    split at hrelation
    · obtain ⟨word, -, hword⟩ := List.mem_filterMap.1 hrelation
      exact exists_found?_of_pairFinding? hword
    · cases hrelation

/-- What a place leads to comes from a lookup or from a detector. -/
theorem mem_findings_cases {r : Rulebook} {tests : List Detector} {p : Place} {m : Match}
    (h : m ∈ r.findings tests p) :
    (∃ kind key evidence, r.found? kind key evidence = some m) ∨ ∃ d ∈ tests, detection d = m := by
  simp only [findings, List.mem_append, Option.mem_toList] at h
  rcases h with helement | hattribute | hdetected
  · exact .inl ⟨_, _, _, helement⟩
  · obtain ⟨a, -, ha⟩ := List.mem_flatMap.1 hattribute
    exact .inl (exists_found?_of_mem_attributeFindings ha)
  · obtain ⟨d, hd, hm⟩ := List.mem_map.1 hdetected
    exact .inr ⟨d, (List.mem_filter.1 hd).1, hm⟩

/-! ## One step -/

section Steps

variable (r : Rulebook) (result : ScanResult)

theorem recordKey_eq (kind : LookupKind) (key : String) (evidence : Evidence) :
    r.recordKey kind key evidence result =
      result.noting (r.found? kind key evidence).toList [] := by
  rw [recordKey, found?]
  cases (r.lookup kind).get? key with
  | none => exact (noting_nil result).symm
  | some p =>
      dsimp only [Option.map_some, Option.toList_some]
      split
      · next hknown => exact (noting_known hknown).symm
      · exact (noting_new result _).symm

theorem recordPair_eq (name value : String) :
    r.recordPair name value result = result.noting (r.pairFinding? name value).toList [] := by
  rw [recordPair, pairFinding?]
  split
  · rfl
  · exact recordKey_eq r result _ _ _

theorem recordInput_eq (element name value : String) :
    r.recordInput element name value result =
      result.noting (r.inputFinding? element name value).toList [] := by
  rw [recordInput, inputFinding?]
  split
  · exact recordKey_eq r result _ _ _
  · rfl

/-- Each relation is looked up as a value of its own. -/
theorem recordRelations_eq (name value : String) :
    r.recordRelations name value result = result.noting (r.relationFindings name value) [] := by
  rw [recordRelations, relationFindings]
  split
  · induction Text.words value generalizing result with
    | nil => rfl
    | cons word words ih =>
        rw [List.foldl_cons, ih, recordPair_eq, noting_noting, List.filterMap_cons]
        cases r.pairFinding? name word <;> rfl
  · rfl

theorem reportName_eq (reportUnknown unknown : Bool) (text : String) :
    reportName reportUnknown unknown text result =
      result.noting [] (reported reportUnknown unknown text) := by
  rw [reportName, reported]
  split <;> rfl

/-- Looking at an attribute notes what it leads to. -/
theorem inspectAttribute_eq (reportUnknown : Bool) (known : List String) (element : String)
    (a : Attribute) :
    r.inspectAttribute reportUnknown known element result a =
      result.noting (r.findingsOf element a)
        (reported reportUnknown (isUnknownAttribute known (Text.asciiLower a.name))
          (attributeReport (Text.asciiLower a.name))) := by
  rw [inspectAttribute, recordKey_eq, recordInput_eq, recordPair_eq, recordRelations_eq, reportName_eq,
    noting_noting, noting_noting, noting_noting, noting_noting, List.append_nil]
  rfl

/-- Trying a detector notes what it sees. -/
theorem detect_eq (p : Place) (d : Detector) :
    detect p result d = result.noting (if d.holds p then [detection d] else []) [] := by
  unfold detect
  cases hholds : d.holds p with
  | false => simp [noting_nil]
  | true =>
      cases hknown : result.contains d.feature with
      | false => exact (noting_new result (detection d)).symm
      | true => exact (noting_known hknown).symm

theorem foldl_detect (p : Place) (tests : List Detector) :
    tests.foldl (detect p) result =
      result.noting ((tests.filter fun d => d.holds p).map detection) [] := by
  induction tests generalizing result with
  | nil => rfl
  | cons d tests ih =>
      rw [List.foldl_cons, ih, detect_eq, noting_noting, List.filter_cons]
      split <;> rfl

/-- Looking at a place notes what the place leads to. -/
theorem inspect_eq (tests : List Detector) (reportUnknown : Bool) (known : List String)
    (p : Place) :
    r.inspect tests reportUnknown known result p =
      result.noting (r.findings tests p) (r.unknownNames reportUnknown known p) := by
  rw [inspect, recordKey_eq, reportName_eq, foldl_noting (inspectAttribute_eq r · reportUnknown known _),
    foldl_detect, noting_noting, noting_noting, noting_noting, List.append_nil]
  rfl

end Steps

/-! ## The walk -/

/-- A walk notes what its places lead to. -/
theorem walk_eq (r : Rulebook) (tests : List Detector) (reportUnknown : Bool)
    (places : List Place) :
    r.walk tests reportUnknown places =
      ScanResult.empty.noting (places.flatMap (r.findings tests))
        (places.flatMap (r.unknownNames reportUnknown r.knownAttributes)) :=
  foldl_noting (inspect_eq r · tests reportUnknown r.knownAttributes) places .empty

theorem mem_features_walk (r : Rulebook) (tests : List Detector) (reportUnknown : Bool)
    (places : List Place) (x : String) :
    x ∈ (r.walk tests reportUnknown places).features.toList ↔
      ∃ p ∈ places, ∃ m ∈ r.findings tests p, m.feature = x := by
  have hnone : x ∉ ScanResult.empty.features.toList := List.not_mem_nil
  rw [walk_eq, ScanResult.mem_features_noting, or_iff_right hnone]
  simp only [List.mem_flatMap]
  grind

theorem mem_unrecognized_walk (r : Rulebook) (tests : List Detector) (reportUnknown : Bool)
    (places : List Place) (x : String) :
    x ∈ (r.walk tests reportUnknown places).unrecognized.toList ↔
      ∃ p ∈ places, x ∈ r.unknownNames reportUnknown r.knownAttributes p := by
  have hnone : x ∉ ScanResult.empty.unrecognized.toList := List.not_mem_nil
  rw [walk_eq, ScanResult.mem_unrecognized_noting, or_iff_left hnone, List.mem_flatMap]

end Markup.Rulebook

end FeatureScan
