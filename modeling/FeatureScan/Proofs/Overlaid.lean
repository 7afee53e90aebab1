import FeatureScan.Proofs.Markup.ClosedForm
import FeatureScan.Proofs.Membership

/-!
# A lookup in two layers as one map

Keys, features, and the answer for a key are told from two layers that are kept in different ways:
the builtin entries as a list in which keys may repeat, the user's as a map. Each question puts the
layers together in its own way, and all come to one map: the user's entries over the last builtin
ones.

## Main results

* `Lookup.get?_make`: what a lookup answers.
* `Lookup.features_eq`: the features are the answers for the keys, one by one.
* `Lookup.make_coherent`: all questions are answered from one map.
-/

namespace FeatureScan

namespace Lookup

/-! ## One map -/

/-- What the user's entries over some builtin pairs answer: the user's feature for the key, or else
the feature of the last pair with the key. -/
def overlaid (pairs : List (String × String)) (custom : Dict String) (key : String) :
    Option (String × Layer) :=
  match custom.get? key with
  | some id => some (id, .custom (pairs.any fun e => e.1 == key))
  | none => (pairs.reverse.find? fun e => e.1 == key).map fun e => (e.2, .builtin)

theorem contains_builtin_make (pairs : List (String × String)) (custom : Dict String)
    (key : String) : (make pairs custom).builtin.contains key = pairs.any fun e => e.1 == key := by
  rw [make, Dict.contains, Dict.get?_ofList, Option.isSome_map, List.isSome_find?, List.any_reverse]

/-- What a lookup answers. -/
theorem get?_make (pairs : List (String × String)) (custom : Dict String) (key : String) :
    (make pairs custom).get? key = overlaid pairs custom key := by
  have hcontains := contains_builtin_make pairs custom key
  unfold get? overlaid
  rw [hcontains, make, Dict.get?_ofList, Option.map_map]
  rfl

/-! ## Keys and features -/

/-- A key of one layer is passed over in the other, so none comes twice. -/
theorem nodup_keys (l : Lookup) : l.keys.Nodup := by
  rw [keys, List.nodup_append]
  refine ⟨nodup_of_increasing (Dict.keys_sorted _), nodup_of_increasing (Dict.keys_sorted _), ?_⟩
  rintro key hremaining _ hcustom rfl
  obtain ⟨id, hid⟩ := (Dict.mem_keys_iff _ key).1 hremaining
  rw [remaining, Dict.get?_filter, Option.filter_eq_some_iff] at hid
  have hnot : l.custom.contains key = false := by simpa using hid.2
  rw [(Dict.contains_eq_true_iff l.custom key).2 hcustom] at hnot
  cases hnot

/-- The features are the answers for the keys, one by one. -/
theorem features_eq (l : Lookup) :
    l.features = l.keys.filterMap fun key => (l.get? key).map Prod.fst := by
  have hremaining : ∀ key ∈ l.remaining.keys,
      l.remaining.get? key = (l.get? key).map Prod.fst := by
    intro key hkey
    obtain ⟨id, hid⟩ := (Dict.mem_keys_iff _ key).1 hkey
    rw [hid]
    rw [remaining, Dict.get?_filter, Option.filter_eq_some_iff] at hid
    have hnone : l.custom.get? key = none := by simpa [Dict.contains] using hid.2
    rw [get?, hnone, hid.1]
    rfl
  have hcustom : ∀ key ∈ l.custom.keys, l.custom.get? key = (l.get? key).map Prod.fst := by
    intro key hkey
    obtain ⟨id, hid⟩ := (Dict.mem_keys_iff _ key).1 hkey
    rw [get?, hid]
    rfl
  rw [features, keys, List.filterMap_append, Dict.values_eq_filterMap_keys,
    Dict.values_eq_filterMap_keys, List.filterMap_congr hremaining, List.filterMap_congr hcustom]

theorem mem_features_iff_exists_key (l : Lookup) (id : String) :
    id ∈ l.features ↔ ∃ key ∈ l.keys, ∃ layer, l.get? key = some (id, layer) := by
  rw [features_eq, List.mem_filterMap]
  simp only [Option.map_eq_some_iff, Prod.exists, exists_and_right, exists_eq_right]

/-- The layer of an answer: the user's exactly for the user's keys, and over a builtin entry exactly
for keys of both. -/
theorem layer_of_get? {l : Lookup} {key id : String} {layer : Layer}
    (h : l.get? key = some (id, layer)) :
    layer.isCustom = l.custom.contains key ∧
      layer.isOverride = (l.custom.contains key && l.builtin.contains key) := by
  unfold get? at h
  split at h
  · next hcustom =>
    cases h
    simp [Layer.isCustom, Layer.isOverride, Dict.contains, hcustom]
  · next hcustom =>
    obtain ⟨_, -, heq⟩ := Option.map_eq_some_iff.1 h
    cases heq
    simp [Layer.isCustom, Layer.isOverride, Dict.contains, hcustom]

/-- A builtin feature whose entry the user has replaced is gone, unless another key leads to it. -/
theorem mem_features_of_replaced {l : Lookup} {key id other : String}
    (hcustom : l.custom.get? key = some other) (hne : other ≠ id) :
    id ∈ l.features ↔ ∃ key' ∈ l.keys, key' ≠ key ∧ ∃ layer, l.get? key' = some (id, layer) := by
  rw [mem_features_iff_exists_key]
  constructor
  · rintro ⟨key', hkey, layer, hget⟩
    refine ⟨key', hkey, ?_, layer, hget⟩
    rintro rfl
    rw [get?, hcustom] at hget
    cases hget
    exact hne rfl
  · rintro ⟨key', hkey, -, layer, hget⟩
    exact ⟨key', hkey, layer, hget⟩

/-- All that is asked of a user's entries over any builtin pairs is answered from one map. Its keys
are those with an answer, each once, and the features are the answers for the keys, with repeats. Of
a key of the user the answer is the user's feature, of another the last builtin one, and the layer
tells the keys of the user and those of both. So a builtin feature whose entry the user has replaced
is gone, unless another key leads to it. -/
theorem make_coherent (pairs : List (String × String)) (custom : Dict String) :
    (∀ key, (make pairs custom).get? key = overlaid pairs custom key) ∧
    (∀ key, ((make pairs custom).contains key = true ↔ key ∈ (make pairs custom).keys) ∧
      (key ∈ (make pairs custom).keys ↔ ((make pairs custom).get? key).isSome = true)) ∧
    (make pairs custom).keys.Nodup ∧
    (make pairs custom).features.Perm
      ((make pairs custom).keys.filterMap fun key => (overlaid pairs custom key).map Prod.fst) ∧
    (∀ key id layer, (make pairs custom).get? key = some (id, layer) →
      (layer.isCustom = true ↔ key ∈ custom.keys) ∧
      (layer.isOverride = true ↔ key ∈ custom.keys ∧ key ∈ pairs.map Prod.fst)) ∧
    ∀ key id other, (key, id) ∈ pairs → custom.get? key = some other → other ≠ id →
      (id ∈ (make pairs custom).features ↔
        ∃ key' ∈ (make pairs custom).keys, key' ≠ key ∧
          (overlaid pairs custom key').map Prod.fst = some id) := by
  have hget := get?_make pairs custom
  refine ⟨hget, ?_, nodup_keys _, ?_, ?_, ?_⟩
  · intro key
    exact ⟨(mem_keys_iff _ key).symm, by rw [mem_keys_iff, isSome_get?]⟩
  · simp only [features_eq, hget]
    exact .refl _
  · intro key id layer hlayer
    obtain ⟨hcustom, hoverride⟩ := layer_of_get? hlayer
    have hpair : (make pairs custom).builtin.contains key = true ↔ key ∈ pairs.map Prod.fst :=
      Dict.contains_ofList pairs key
    have hkey : (make pairs custom).custom.contains key = true ↔ key ∈ custom.keys :=
      Dict.contains_eq_true_iff custom key
    rw [hcustom, hoverride, Bool.and_eq_true, hpair, hkey]
    exact ⟨Iff.rfl, Iff.rfl⟩
  · intro key id other _ hcustom hne
    rw [mem_features_of_replaced (l := make pairs custom) hcustom hne]
    simp only [hget, Option.map_eq_some_iff, Prod.exists, exists_and_right, exists_eq_right]

/-- Builtin pairs of which two have one key, and one leads where another one does. -/
def repeatingPairs : List (String × String) :=
  [("dialog", "modal"), ("summary", "details"), ("details", "details"), ("dialog", "dialog")]

/-- A user's entry in the place of a builtin one. -/
def replacingEntries : Dict String := .ofList [("details", "folding"), ("x-fold", "folding")]

theorem make_coherent_repeating :
    (make repeatingPairs replacingEntries).get? "dialog" = some ("dialog", .builtin) ∧
    (make repeatingPairs replacingEntries).keys.Nodup ∧
    (Layer.custom true).isOverride = true ∧ "details" ∈ replacingEntries.keys ∧
    "details" ∈ (make repeatingPairs replacingEntries).features := by
  obtain ⟨hget, -, hnodup, -, hlayer, hreplaced⟩ := make_coherent repeatingPairs replacingEntries
  have hdetails : (make repeatingPairs replacingEntries).get? "details" =
      some ("folding", .custom true) := by
    rw [hget]
    decide
  obtain ⟨hcustom, hoverride⟩ := hlayer "details" "folding" (.custom true) hdetails
  refine ⟨by rw [hget]; decide, hnodup, hoverride.2 (by decide), hcustom.1 rfl, ?_⟩
  refine (hreplaced "details" "details" "folding" (by decide) (by decide) (by decide)).2 ?_
  exact ⟨"summary", by decide, by decide, by decide⟩

end Lookup

end FeatureScan
