import FeatureScan.Proofs.Css.Lettering
import FeatureScan.Proofs.Pattern.CaseBlind
import FeatureScan.Proofs.Style.Features
import FeatureScan.Scanner

/-!
# Style sheets in other letters

The case of the letters of ASCII counts nowhere in a style sheet: whatever capitals are put in small
letters or small letters in capitals, the same features are found by the same patterns, and the same
names are unknown. This needs rules whose patterns set no switches, as all builtin ones do.

## Main results

* `scan_alike`: what rules with blind patterns find in alike style sheets.
* `scan_ignores_case`: the builtin rules find the same in alike style sheets.
-/

namespace FeatureScan.Style

open Css Pattern Text

/-- Rules in force whose patterns do not tell a capital from its small letter. -/
def BlindRules (rules : LayeredTable) : Prop :=
  ∀ r ∈ rules.toList, ∀ p ∈ r.patterns, p.node.CaseBlind

/-- A rule with blind patterns finds the same in texts that are alike. -/
theorem find?_alike {s t : String} (h : Alike s.toList t.toList) {r : CompiledRule}
    (hr : ∀ p ∈ r.patterns, p.node.CaseBlind) :
    find? (.ofString s) r = find? (.ofString t) r := by
  have hmatching : r.matching (.ofString s) = r.matching (.ofString t) :=
    List.filter_congr fun p hp => occursIn_alike h (hr p hp)
  rw [find?, find?, hmatching]

/-- Rules with blind patterns find the same in alike style sheets. -/
theorem scan_alike {rules : LayeredTable} (hrules : BlindRules rules) (reportUnknown : Bool)
    {s t : String} (h : Alike s.toList t.toList) :
    scan rules reportUnknown s = scan rules reportUnknown t := by
  have hfound : rules.toList.filterMap (find? (.ofString (extract s).matchable)) =
      rules.toList.filterMap (find? (.ofString (extract t).matchable)) :=
    List.filterMap_congr fun r hr => find?_alike (matchable_alike h) (hrules r hr)
  have hunknown : unrecognized rules (extract s) = unrecognized rules (extract t) := by
    rw [← unrecognized_carried rules 0 .small, extract_alike h, unrecognized_carried]
  unfold scan scanExtraction
  dsimp only
  rw [hfound, hunknown]

/-! ## The builtin rules -/

/-- No builtin pattern sets a switch. -/
theorem switchless_builtin : ∀ topic ∈ Catalog.styleTopics, ∀ d ∈ topic.definitions,
    ∀ p ∈ d.patterns, switchless p.toList = true := by
  simp only [Catalog.styleTopics, Catalog.layoutTopic, Catalog.typographyTopic,
    Catalog.visualTopic, Catalog.animationTopic, Catalog.selectorsTopic, Catalog.atRulesTopic,
    Catalog.valuesTopic, Catalog.interactionTopic, List.forall_mem_cons, String.toList_append]
  simp only [List.not_mem_nil, false_implies, implies_true, and_true]
  -- A text is told apart by the list it is made of: to decode one takes long.
  and_intros <;> repeat rw [String.toList_ofList]
  all_goals decide +kernel

/-- The builtin rules do not tell a capital from its small letter. -/
theorem blindRules_builtin : BlindRules (layered .empty) := by
  intro r hr p hp
  obtain ⟨id, hid⟩ := ((layered .empty).mem_toList r).1 hr
  rw [get?_layered_empty] at hid
  obtain ⟨rule, hrule, rfl⟩ := Option.map_eq_some_iff.1 hid
  have hdefined : rule ∈ RuleTable.defined Catalog.styleTopics := by
    have hget := RuleTable.get?_ofTopics .css Catalog.styleTopics id
    exact List.mem_of_find?_eq_some (hget.symm.trans hrule)
  obtain ⟨topic, htopic, hmem⟩ := List.mem_flatMap.1 (List.mem_reverse.1 hdefined)
  obtain ⟨d, hd, rfl⟩ := List.mem_map.1 hmem
  obtain ⟨source, hsource, hread⟩ := List.mem_filterMap.1 hp
  exact caseBlind_read? (switchless_builtin topic htopic d hd source hsource) hread

end FeatureScan.Style

namespace FeatureScan.Scanner

open Style

/-- Of two style sheets that differ in the case of letters only, the builtin rules give the same
result: the same features, with the same patterns as evidence, and the same unknown names. -/
theorem scan_ignores_case (options : ScanOptions) {s t : String}
    (h : Text.asciiLower s = Text.asciiLower t) :
    (make options .empty).scan .css s = (make options .empty).scan .css t :=
  scan_alike blindRules_builtin options.reportUnknown (Text.alike_of_asciiLower_eq h)

/-- A selector, a property with an escape, a function and a dimension with an exponent. -/
theorem scan_ignores_case_mixed :
    Text.asciiLower "A:Hover\x7b\\43 olor:Rgb(1E3PX)\x7d" =
        Text.asciiLower "a:hover\x7b\\43 OLOR:RGB(1e3px)\x7d" ∧
      (make {} .empty).scan .css "A:Hover\x7b\\43 olor:Rgb(1E3PX)\x7d" =
        (make {} .empty).scan .css "a:hover\x7b\\43 OLOR:RGB(1e3px)\x7d" :=
  have h : Text.asciiLower "A:Hover\x7b\\43 olor:Rgb(1E3PX)\x7d" =
      Text.asciiLower "a:hover\x7b\\43 OLOR:RGB(1e3px)\x7d" := by
    decide +kernel
  ⟨h, scan_ignores_case {} h⟩

end FeatureScan.Scanner
