import FeatureScan.Proofs.Effective
import FeatureScan.Style.Scan

/-!
# What a style sheet's scan reports

A feature is reported if and only if the rule in force for it has a pattern that occurs in the text
made of the style sheet.

## Main results

* `mem_features_scan`: when a feature is reported.
* `get?_layered_empty`: without rules of a user the builtin rules are in force.
-/

namespace FeatureScan.Style

/-- The user's rule for a feature is in force, or else the builtin one. -/
theorem get?_layered {custom : Dict Rule} (h : custom.Keyed) (id : String) :
    (layered custom).get? id =
      ((custom.get? id).map fun r =>
        .ofRule true (LayeredTable.layerOver builtinTable r) r).or
          ((builtinTable.get? id).map (CompiledRule.ofRule true .builtin)) := by
  have hcustom : (layered custom).custom.get? id = (custom.get? id).map fun r =>
      .ofRule true (LayeredTable.layerOver builtinTable r) r :=
    LayeredTable.get?_compileCustom true builtinTable h id
  have hbuiltin : (layered custom).builtin.get? id =
      (builtinTable.get? id).map (CompiledRule.ofRule true .builtin) :=
    Dict.get?_mapValues (fun _ r => CompiledRule.ofRule true .builtin r) builtinTable.rules id
  rw [LayeredTable.get?_eq, hcustom, hbuiltin]

/-- Without rules of a user the builtin rules are in force. -/
theorem get?_layered_empty (id : String) :
    (layered .empty).get? id =
      (builtinTable.get? id).map (CompiledRule.ofRule true .builtin) := by
  rw [get?_layered Dict.keyed_empty, Dict.get?_empty, Option.map_none, Option.none_or]

theorem wellKeyed_layered (custom : Dict Rule) : (layered custom).WellKeyed :=
  LayeredTable.wellKeyed_make true .css Catalog.styleTopics custom

theorem find?_eq_some_iff (s : Subject) (r : CompiledRule) :
    (∃ m, find? s r = some m ∧ m.feature = r.id) ↔ ∃ p ∈ r.patterns, p.occursIn s = true := by
  have hmatching : r.matching s = r.patterns.filter fun p => p.occursIn s := rfl
  rw [find?, hmatching]
  cases hf : r.patterns.filter fun p => p.occursIn s with
  | nil =>
      rw [List.filter_eq_nil_iff] at hf
      constructor
      · rintro ⟨m, hm, -⟩
        cases hm
      · rintro ⟨p, hp, ho⟩
        exact absurd ho (hf p hp)
  | cons p ps =>
      have hp : p ∈ r.patterns.filter fun p => p.occursIn s := by
        rw [hf]
        exact List.mem_cons_self
      exact ⟨fun _ => ⟨p, (List.mem_filter.1 hp).1, (List.mem_filter.1 hp).2⟩,
        fun _ => ⟨_, rfl, rfl⟩⟩

theorem feature_of_find? {s : Subject} {r : CompiledRule} {m : Match} (h : find? s r = some m) :
    m.feature = r.id := by
  unfold find? at h
  split at h
  · cases h
  · cases h
    rfl

theorem features_scan (rules : LayeredTable) (reportUnknown : Bool) (source : String) :
    (scan rules reportUnknown source).features =
      ((rules.toList.filterMap (find? (.ofString (Css.extract source).matchable))).foldl
        ScanResult.record .empty).features := by
  unfold scan scanExtraction
  dsimp only
  split <;> rfl

/-- A feature is reported if and only if the rule in force for it has a pattern that occurs in the
text made of the style sheet. -/
theorem mem_features_scan {rules : LayeredTable} (h : rules.WellKeyed) (reportUnknown : Bool)
    (source id : String) :
    id ∈ (scan rules reportUnknown source).features.toList ↔
      ∃ r, rules.get? id = some r ∧
        ∃ p ∈ r.patterns, p.occursIn (.ofString (Css.extract source).matchable) = true := by
  rw [features_scan, ScanResult.features_foldl_record]
  constructor
  · rintro (hnone | ⟨m, hm, rfl⟩)
    · exact absurd hnone List.not_mem_nil
    · obtain ⟨r, hr, hfind⟩ := List.mem_filterMap.1 hm
      obtain ⟨id, hid⟩ := (rules.mem_toList r).1 hr
      have hfeature := feature_of_find? hfind
      refine ⟨r, ?_, (find?_eq_some_iff _ r).1 ⟨m, hfind, hfeature⟩⟩
      rw [hfeature, h id r hid]
      exact hid
  · rintro ⟨r, hr, hp⟩
    obtain ⟨m, hm, hfeature⟩ := (find?_eq_some_iff _ r).2 hp
    refine Or.inr ⟨m, List.mem_filterMap.2 ⟨r, (rules.mem_toList r).2 ⟨id, hr⟩, hm⟩, ?_⟩
    rw [hfeature, h id r hr]

end FeatureScan.Style
