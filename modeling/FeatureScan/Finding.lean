import FeatureScan.Dict

/-!
# Findings

What a scan finds: features, each with one piece of evidence, and names that no rule knows.

## Main results

* `ScanResult.mem_features_merge`: the features of a merge are those of both sides, and those that
  the details merged in name.
* `ScanResult.merge_empty`: merging nothing changes nothing.
-/

namespace FeatureScan

/-- What shows that a feature is used. -/
inductive Evidence
  /-- The patterns of a style rule that match. -/
  | properties (patterns : List String)
  /-- The first pattern of a script rule that matches. -/
  | pattern (source : String)
  /-- The name of an element. -/
  | element (name : String)
  /-- An attribute, or an attribute with its value. -/
  | attribute (text : String)
  /-- What a structural check looks for. -/
  | detector (description : String)
  deriving DecidableEq, Repr

/-- A feature found, with evidence. -/
structure Match where
  /-- The feature. -/
  feature : String
  /-- What the feature is called. -/
  description : String
  /-- What shows it. -/
  evidence : Evidence
  deriving DecidableEq, Repr

/-- The result of a scan. -/
structure ScanResult where
  /-- The features found. -/
  features : NameSet := .empty
  /-- Their evidence, in the order of finding. -/
  details : List Match := []
  /-- The names that no rule knows. -/
  unrecognized : NameSet := .empty
  deriving DecidableEq, Repr

namespace ScanResult

/-- The result without findings. -/
def empty : ScanResult := {}

/-- Whether a feature has been found. -/
def contains (r : ScanResult) (feature : String) : Bool := r.features.has feature

/-- The result with one more finding; of a feature only the first is kept. -/
def record (r : ScanResult) (m : Match) : ScanResult :=
  if r.contains m.feature then r
  else { r with features := r.features.add m.feature, details := r.details ++ [m] }

/-- The result with one more unknown name. -/
def addUnrecognized (r : ScanResult) (name : String) : ScanResult :=
  { r with unrecognized := r.unrecognized.add name }

/-- Two results together. A result may name features without details. -/
def merge (r other : ScanResult) : ScanResult :=
  let r := other.details.foldl record r
  { r with features := r.features.union other.features
           unrecognized := r.unrecognized.union other.unrecognized }

/-- Whether nothing has been found. -/
def isEmpty (r : ScanResult) : Bool := Dict.isEmpty r.features && Dict.isEmpty r.unrecognized

/-- The evidence for a feature. -/
def detail? (r : ScanResult) (feature : String) : Option Match :=
  r.details.find? fun m => m.feature == feature

/-! ## What is found -/

theorem features_record (r : ScanResult) (m : Match) (x : String) :
    x ∈ (r.record m).features.toList ↔ x = m.feature ∨ x ∈ r.features.toList := by
  unfold record
  split
  · next h =>
    have hm : m.feature ∈ r.features.toList := (Dict.contains_eq_true_iff _ _).1 h
    constructor
    · exact Or.inr
    · rintro (rfl | hx)
      · exact hm
      · exact hx
  · exact NameSet.mem_add _ _ _

theorem features_foldl_record (ms : List Match) (r : ScanResult) (x : String) :
    x ∈ (ms.foldl record r).features.toList ↔
      x ∈ r.features.toList ∨ ∃ m ∈ ms, m.feature = x := by
  induction ms generalizing r with
  | nil => simp
  | cons m ms ih =>
    rw [List.foldl_cons, ih, features_record]
    grind

theorem mem_features_merge (r other : ScanResult) (x : String) :
    x ∈ (r.merge other).features.toList ↔
      x ∈ r.features.toList ∨ (∃ m ∈ other.details, m.feature = x) ∨ x ∈ other.features.toList := by
  unfold merge
  rw [NameSet.mem_union, features_foldl_record]
  grind

theorem unrecognized_foldl_record (ms : List Match) (r : ScanResult) :
    (ms.foldl record r).unrecognized = r.unrecognized := by
  induction ms generalizing r with
  | nil => rfl
  | cons m ms ih =>
    rw [List.foldl_cons, ih]
    unfold record
    split <;> rfl

theorem merge_empty (r : ScanResult) : r.merge empty = r := rfl

end ScanResult

end FeatureScan
