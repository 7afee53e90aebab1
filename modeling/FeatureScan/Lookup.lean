import FeatureScan.Dict
import FeatureScan.Language

/-!
# Lookups in two layers

A lookup finds a feature by a name used in markup. The user's entries lie over the builtin ones; of
builtin entries with one key the last holds.

## Main results

* `Lookup.isSome_get?`: a key is found exactly if one of the layers has it.
-/

namespace FeatureScan

/-- A lookup in two layers. -/
structure Lookup where
  /-- The builtin entries. -/
  builtin : Dict String
  /-- The user's entries. -/
  custom : Dict String
  deriving DecidableEq, Repr

namespace Lookup

/-- A user's entries over a list of builtin ones. -/
def make (builtin : List (String × String)) (custom : Dict String) : Lookup :=
  ⟨Dict.ofList builtin, custom⟩

/-- The feature of a key, and the layer it comes from. -/
def get? (l : Lookup) (key : String) : Option (String × Layer) :=
  match l.custom.get? key with
  | some id => some (id, .custom (l.builtin.contains key))
  | none => (l.builtin.get? key).map fun id => (id, .builtin)

/-- Whether a key has a feature. -/
def contains (l : Lookup) (key : String) : Bool := l.custom.contains key || l.builtin.contains key

/-- The builtin entries that the user has not replaced. -/
def remaining (l : Lookup) : Dict String := l.builtin.filter fun k _ => !l.custom.contains k

/-- The keys of both layers. -/
def keys (l : Lookup) : List String := l.remaining.keys ++ l.custom.keys

/-- The features of the keys, one for each key. -/
def features (l : Lookup) : List String := l.remaining.values ++ l.custom.values

/-- Whether the user's entries lead to a feature. -/
def userProvides (l : Lookup) (id : String) : Bool := l.custom.values.contains id

theorem isSome_get? (l : Lookup) (key : String) : (l.get? key).isSome = l.contains key := by
  unfold get? contains Dict.contains
  cases l.custom.get? key <;> simp

end Lookup

end FeatureScan
