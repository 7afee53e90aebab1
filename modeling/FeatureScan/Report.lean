import FeatureScan.Finding
import FeatureScan.LayeredTable

/-!
# Reports

The findings of a scan, grouped by the categories of their rules.

## Main results

* `Report.unrecognized_length`: the unknown names are counted as they are listed.
-/

namespace FeatureScan

/-- A summary of a scan. -/
structure Report where
  /-- The language, if it is known. -/
  language : Option Language := none
  /-- How many features there are. -/
  totalFeatures : Nat := 0
  /-- The features of each category. -/
  byCategory : Dict (List String) := .empty
  /-- The features that the user's rules provide. -/
  customFeatures : List String := []
  /-- How many unknown names there are. -/
  totalUnrecognized : Nat := 0
  /-- The unknown names. -/
  unrecognized : List String := []
  deriving DecidableEq, Repr

namespace Report

/-- The category of features without an origin. -/
def uncategorized : String := "uncategorized"

/-- The category of a feature. -/
def categoryOf (origin : String → Option Origin) (feature : String) : String :=
  ((origin feature).map Origin.category).getD uncategorized

/-- Puts a feature behind those of its category. -/
def group (origin : String → Option Origin) (d : Dict (List String)) (feature : String) :
    Dict (List String) :=
  let c := categoryOf origin feature
  d.insert c ((d.get? c).getD [] ++ [feature])

/-- The report on a result. -/
def build (l : Language) (r : ScanResult) (origin : String → Option Origin) : Report where
  language := some l
  totalFeatures := r.features.size
  byCategory := r.features.toList.foldl (group origin) .empty
  customFeatures := r.features.toList.filter fun f => (origin f).any Origin.userDefined
  totalUnrecognized := r.unrecognized.size
  unrecognized := r.unrecognized.toList

theorem unrecognized_length (l : Language) (r : ScanResult) (origin : String → Option Origin) :
    (build l r origin).unrecognized.length = (build l r origin).totalUnrecognized := by
  simp [build, NameSet.toList, Dict.keys, Dict.size]

end Report

end FeatureScan
