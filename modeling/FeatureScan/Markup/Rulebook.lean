import FeatureScan.Catalog.Markup
import FeatureScan.Document
import FeatureScan.LayeredTable
import FeatureScan.Lookup
import FeatureScan.Markup.Detector
import FeatureScan.Text.Pieces

/-!
# Rules for markup in force

The four lookups of markup, each with the user's entries over the builtin ones, and what can be told
from them and from the detectors: which features can be found, where they come from, and which
attributes some rule knows.

## Main results

* `lookup_make`: each lookup has its own entries.
* `mem_supported_iff`: the supported features are those of the lookups and of the detectors.
-/

namespace FeatureScan.Markup

/-- The rules for markup in force. -/
structure Rulebook where
  /-- Features by element. -/
  elements : Lookup
  /-- Features by attribute. -/
  attributes : Lookup
  /-- Features by type of input. -/
  inputTypes : Lookup
  /-- Features by attribute, colon and value. -/
  attributeValues : Lookup
  deriving DecidableEq, Repr

namespace Rulebook

/-- The lookup of a kind. -/
def lookup (r : Rulebook) : LookupKind → Lookup
  | .elements => r.elements
  | .attributes => r.attributes
  | .inputTypes => r.inputTypes
  | .attributeValues => r.attributeValues

/-- The lookup of a kind under a user's entries. -/
def layered (entries : Entries) (kind : LookupKind) : Lookup :=
  .make (Catalog.builtinLookup kind) (entries.get kind)

/-- The rules under a user's entries. -/
def make (entries : Entries) : Rulebook :=
  ⟨layered entries .elements, layered entries .attributes, layered entries .inputTypes,
    layered entries .attributeValues⟩

/-- The features that can be found. -/
def supportedSet (r : Rulebook) : NameSet :=
  .ofNames (LookupKind.all.flatMap (fun k => (r.lookup k).features) ++ detectedFeatures)

/-- The features that can be found, in order. -/
def supported (r : Rulebook) : List String := r.supportedSet.toList

/-- The category of features that detectors find. -/
def structureCategory : String := "structure"

/-- The category of a feature: the first lookup that leads to it, or that of detectors. -/
def category? (r : Rulebook) (feature : String) : Option String :=
  match LookupKind.all.find? fun k => (r.lookup k).features.contains feature with
  | some k => some k.key
  | none => if detectedFeatures.contains feature then some structureCategory else none

/-- Whether an entry of the user leads to a feature. -/
def userProvides (r : Rulebook) (feature : String) : Bool :=
  LookupKind.all.any fun k => (r.lookup k).userProvides feature

/-- Where a feature comes from. -/
def origin? (r : Rulebook) (feature : String) : Option Origin :=
  (r.category? feature).map fun c => ⟨c, r.userProvides feature⟩

/-- The attribute that a key of attribute and value is for: what stands before the first colon. -/
def attributeOf? (key : String) : Option String :=
  if key.toList.contains ':' then some (String.ofList (key.toList.takeWhile (· != ':'))) else none

/-- The attributes that some rule knows. -/
def knownAttributes (r : Rulebook) : List String :=
  (r.lookup .attributes).keys ++ (r.lookup .attributeValues).keys.filterMap attributeOf?

@[simp] theorem lookup_make (entries : Entries) (kind : LookupKind) :
    (make entries).lookup kind = layered entries kind := by
  cases kind <;> rfl

theorem mem_supported_iff (r : Rulebook) (feature : String) :
    feature ∈ r.supported ↔
      (∃ k, feature ∈ (r.lookup k).features) ∨ feature ∈ detectedFeatures := by
  simp only [supported, supportedSet, NameSet.ofNames, NameSet.mem_foldl_add, List.mem_append,
    List.mem_flatMap]
  constructor
  · rintro ((⟨k, -, h⟩ | h) | h)
    · exact Or.inl ⟨k, h⟩
    · exact Or.inr h
    · simp [NameSet.toList, Dict.keys, Dict.empty] at h
  · rintro (⟨k, h⟩ | h)
    · exact Or.inl (Or.inl ⟨k, LookupKind.mem_all k, h⟩)
    · exact Or.inl (Or.inr h)

end Rulebook

end FeatureScan.Markup
