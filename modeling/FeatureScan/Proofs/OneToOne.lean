import FeatureScan.Proofs.Batch
import FeatureScan.Proofs.Detection
import FeatureScan.Proofs.Markup.Walk
import FeatureScan.Proofs.Style.Features

/-!
# Features and their evidence

A result keeps a set of features and a row of details. Each step that puts a result together keeps
the two in step: no feature has two details, and none is without one. Merging writes features twice,
with the details and on its own, so there the result merged in has to be in step as well.

What a scan finds is put together by such steps, and so is the outcome of a batch. Style sheets and
scripts are scanned rule by rule in the order of the features, so their details are in that order.

## Main results

* `ScanResult.Built.oneToOne`: what is put together step by step has one detail for each feature.
* `Scanner.built_scan`, `Scanner.built_merged`: scans and batches are put together so.
* `Scanner.one_to_one`: the results of every scanner.
-/

namespace FeatureScan

namespace ScanResult

/-! ## Building results -/

/-- Results that are put together from the empty one: by recording a finding, by adding an unknown
name, and by merging in a result that is put together likewise. -/
inductive Built : ScanResult → Prop
  | empty : Built .empty
  | record {r : ScanResult} (h : Built r) (m : Match) : Built (r.record m)
  | addUnrecognized {r : ScanResult} (h : Built r) (name : String) :
    Built (r.addUnrecognized name)
  | merge {r other : ScanResult} (h : Built r) (hother : Built other) : Built (r.merge other)

theorem Built.foldl_record {r : ScanResult} (h : r.Built) (found : List Match) :
    (found.foldl ScanResult.record r).Built := by
  induction found generalizing r with
  | nil => exact h
  | cons m found ih => exact ih (h.record m)

theorem Built.foldl_addUnrecognized {r : ScanResult} (h : r.Built) (names : List String) :
    ({ r with unrecognized := names.foldl NameSet.add r.unrecognized } : ScanResult).Built := by
  induction names generalizing r with
  | nil => exact h
  | cons name names ih => exact ih (h.addUnrecognized name)

/-- Any unknown names can be added to a result without any. -/
theorem Built.with_unrecognized {r : ScanResult} (h : r.Built) (hnone : r.unrecognized = .empty)
    (names : NameSet) : ({ r with unrecognized := names } : ScanResult).Built := by
  have hnames : names.toList.foldl NameSet.add r.unrecognized = names := by
    rw [hnone]
    exact NameSet.ext_mem (NameSet.mem_ofNames names.toList)
  rw [← hnames]
  exact h.foldl_addUnrecognized names.toList

theorem Built.noting {r : ScanResult} (h : r.Built) (found : List Match) (unknown : List String) :
    (r.noting found unknown).Built := by
  have hnames : (found.foldl ScanResult.record r).unrecognized = r.unrecognized :=
    unrecognized_foldl_record found r
  rw [ScanResult.noting, ← hnames]
  exact (h.foldl_record found).foldl_addUnrecognized unknown

theorem Built.foldl_merge {r : ScanResult} (h : r.Built) {rs : List ScanResult}
    (hrs : ∀ other ∈ rs, other.Built) : (rs.foldl ScanResult.merge r).Built := by
  induction rs generalizing r with
  | nil => exact h
  | cons other rs ih =>
      have hother := hrs other List.mem_cons_self
      exact ih (h.merge hother) fun other' hmem => hrs other' (List.mem_cons_of_mem other hmem)

/-! ## One detail for each feature -/

/-- Features and details are in step: no two details are of one feature, and the features are those
of the details. -/
structure InStep (r : ScanResult) : Prop where
  nodup : (r.details.map Match.feature).Nodup
  mem_features_iff : ∀ x, x ∈ r.features.toList ↔ ∃ m ∈ r.details, m.feature = x

theorem inStep_empty : InStep .empty := by
  constructor
  · exact List.nodup_nil
  · intro x
    simp [empty, NameSet.toList, Dict.keys, Dict.empty]

/-- A finding is recorded in both places or in none. -/
theorem InStep.record {r : ScanResult} (h : r.InStep) (m : Match) : (r.record m).InStep := by
  by_cases hknown : r.contains m.feature = true
  · have hrecord : r.record m = r := if_pos hknown
    rw [hrecord]
    exact h
  · have hnew : m.feature ∉ r.features.toList := by
      intro hmem
      exact hknown ((NameSet.has_eq_true_iff r.features m.feature).2 hmem)
    have hdetails : (r.record m).details = r.details ++ [m] := by
      rw [ScanResult.record, if_neg hknown]
    constructor
    · rw [hdetails, List.map_append, List.nodup_append]
      refine ⟨h.nodup, List.nodup_singleton _, ?_⟩
      intro x hx y hy heq
      have hy' : y = m.feature := List.mem_singleton.1 hy
      apply hnew
      rw [← hy', ← heq, h.mem_features_iff]
      exact List.mem_map.1 hx
    · intro x
      rw [features_record, hdetails, h.mem_features_iff]
      simp only [List.mem_append, List.mem_singleton]
      grind

theorem InStep.foldl_record {r : ScanResult} (h : r.InStep) (found : List Match) :
    (found.foldl ScanResult.record r).InStep := by
  induction found generalizing r with
  | nil => exact h
  | cons m found ih => exact ih (h.record m)

/-- The features that merging writes on their own have come with the details already. -/
theorem InStep.merge {r other : ScanResult} (h : r.InStep) (hother : other.InStep) :
    (r.merge other).InStep := by
  have hfold := h.foldl_record other.details
  have hdetails : (r.merge other).details = (other.details.foldl ScanResult.record r).details := rfl
  constructor
  · rw [hdetails]
    exact hfold.nodup
  · intro x
    rw [hdetails, ← hfold.mem_features_iff, mem_features_merge, features_foldl_record,
      hother.mem_features_iff]
    grind

/-- What is put together step by step is in step. -/
theorem Built.inStep {r : ScanResult} (h : r.Built) : r.InStep := by
  induction h with
  | empty => exact inStep_empty
  | record _ m ih => exact ih.record m
  | addUnrecognized _ name ih => exact ⟨ih.nodup, ih.mem_features_iff⟩
  | merge _ _ ih ihother => exact ih.merge ihother

/-- One detail for each feature, and the two ways to ask agree: a feature has been found if and only
if there is evidence for it, and the evidence for a feature is its only detail. -/
structure OneToOne (r : ScanResult) : Prop where
  nodup : (r.details.map Match.feature).Nodup
  mem_features_iff : ∀ x, x ∈ r.features.toList ↔ ∃ m ∈ r.details, m.feature = x
  contains_eq : ∀ x, r.contains x = (r.detail? x).isSome
  detail?_eq_some_iff : ∀ x m, r.detail? x = some m ↔ m ∈ r.details ∧ m.feature = x

/-- Where no two details are of one feature, the evidence for a feature is any detail of it. -/
theorem find?_feature_eq_some_iff {details : List Match}
    (h : (details.map Match.feature).Nodup) (x : String) (m : Match) :
    (details.find? fun m => m.feature == x) = some m ↔ m ∈ details ∧ m.feature = x := by
  induction details with
  | nil => simp
  | cons m' details ih =>
      rw [List.map_cons, List.nodup_cons] at h
      have hrest := ih h.2
      by_cases hx : m'.feature = x
      · have hother : ¬ (m ∈ details ∧ m.feature = x) := by
          intro hm
          apply h.1
          rw [hx, ← hm.2]
          exact List.mem_map_of_mem hm.1
        rw [List.find?_cons_of_pos (by simpa using hx), Option.some_inj, List.mem_cons]
        grind
      · rw [List.find?_cons_of_neg (by simpa using hx), hrest, List.mem_cons]
        grind

theorem InStep.oneToOne {r : ScanResult} (h : r.InStep) : r.OneToOne where
  nodup := h.nodup
  mem_features_iff := h.mem_features_iff
  contains_eq := by
    intro x
    rw [Bool.eq_iff_iff]
    show r.features.has x = true ↔ _
    rw [NameSet.has_eq_true_iff, h.mem_features_iff, detail?, List.find?_isSome]
    simp
  detail?_eq_some_iff := find?_feature_eq_some_iff h.nodup

/-- What is put together step by step has one detail for each feature. -/
theorem Built.oneToOne {r : ScanResult} (h : r.Built) : r.OneToOne := h.inStep.oneToOne

end ScanResult

/-! ## Scans -/

theorem Style.built_scan (rules : LayeredTable) (reportUnknown : Bool) (source : String) :
    (Style.scan rules reportUnknown source).Built := by
  have hfound := ScanResult.Built.empty.foldl_record
    (rules.toList.filterMap (Style.find? (.ofString (Css.extract source).matchable)))
  unfold Style.scan Style.scanExtraction
  cases reportUnknown with
  | false => exact hfound
  | true => exact hfound.with_unrecognized (ScanResult.unrecognized_foldl_record _ .empty) _

theorem Script.built_scan (rules : LayeredTable) (source : String) :
    (Script.scan rules source).Built :=
  ScanResult.Built.empty.foldl_record _

theorem Markup.Rulebook.built_walk (r : Rulebook) (tests : List Detector) (reportUnknown : Bool)
    (places : List Place) : (r.walk tests reportUnknown places).Built := by
  rw [walk_eq]
  exact ScanResult.Built.empty.noting _ _

/-! ## The order of the rules -/

/-- Rules that give findings of their own features give them in their order. -/
theorem LayeredTable.features_findings_increasing {t : LayeredTable} (h : t.WellKeyed)
    {find? : CompiledRule → Option Match}
    (hfind : ∀ r m, find? r = some m → m.feature = r.id) :
    ((t.toList.filterMap find?).map Match.feature).Pairwise (· < ·) := by
  refine h.supported_increasing.sublist ?_
  rw [supported]
  induction t.toList with
  | nil => exact .slnil
  | cons r rules ih =>
      rw [List.filterMap_cons, List.map_cons]
      cases hr : find? r with
      | none => exact ih.cons r.id
      | some m =>
          rw [List.map_cons, hfind r m hr]
          exact ih.cons_cons r.id

/-- The details of a style sheet are the findings of the rules, one rule after the other. -/
theorem Style.details_scan {rules : LayeredTable} (h : rules.WellKeyed) (reportUnknown : Bool)
    (source : String) :
    (Style.scan rules reportUnknown source).details =
      rules.toList.filterMap (Style.find? (.ofString (Css.extract source).matchable)) := by
  have hfound := LayeredTable.features_findings_increasing h
    fun r m => Style.feature_of_find? (s := .ofString (Css.extract source).matchable)
  rw [← (ScanResult.details_foldl_record hfound).1]
  cases reportUnknown <;> rfl

theorem Style.details_scan_increasing {rules : LayeredTable} (h : rules.WellKeyed)
    (reportUnknown : Bool) (source : String) :
    ((Style.scan rules reportUnknown source).details.map Match.feature).Pairwise (· < ·) := by
  rw [Style.details_scan h]
  exact LayeredTable.features_findings_increasing h fun r m => Style.feature_of_find?

theorem Script.feature_of_find? {s : Subject} {r : CompiledRule} {m : Match}
    (h : Script.find? s r = some m) : m.feature = r.id := by
  obtain ⟨p, -, rfl⟩ := Option.map_eq_some_iff.1 h
  rfl

/-- The details of a script are the findings of the rules, one rule after the other. -/
theorem Script.details_scan {rules : LayeredTable} (h : rules.WellKeyed) (source : String) :
    (Script.scan rules source).details =
      rules.toList.filterMap (Script.find? (.ofString (withoutComments source))) := by
  have hfound := LayeredTable.features_findings_increasing h
    fun r m => Script.feature_of_find? (s := .ofString (withoutComments source))
  rw [Script.scan, (ScanResult.details_foldl_record hfound).1]

theorem Script.details_scan_increasing {rules : LayeredTable} (h : rules.WellKeyed)
    (source : String) :
    ((Script.scan rules source).details.map Match.feature).Pairwise (· < ·) := by
  rw [Script.details_scan h]
  exact LayeredTable.features_findings_increasing h fun r m => Script.feature_of_find?

/-! ## Scanners -/

namespace Scanner

theorem built_scan (s : Scanner) (l : Language) (source : String) : (s.scan l source).Built := by
  cases l with
  | css => exact Style.built_scan s.css s.options.reportUnknown source
  | javaScript => exact Script.built_scan s.javaScript source
  | html => exact s.html.built_walk Markup.detectors s.options.reportUnknown _

/-- A file gives the result of a scan or a fault. -/
theorem built_of_scanFileAs {s : Scanner} {f : Files} {l : Language} {path : String}
    {r : ScanResult} (h : (s.scanFileAs f l path).value.toOption = some r) : r.Built := by
  unfold scanFileAs at h
  split at h
  · cases h
  · cases h
    exact built_scan s l _

theorem built_of_scanFile {s : Scanner} {f : Files} {path : String} {r : ScanResult}
    (h : (s.scanFile f path).value.toOption = some r) : r.Built := by
  unfold scanFile at h
  split at h
  · exact built_of_scanFileAs h
  · cases h

/-- Outcomes that are put together step by step are merged so. -/
theorem built_merged {outcomes : List (Except Fault ScanResult)}
    (h : ∀ o ∈ outcomes, ∀ r, o.toOption = some r → r.Built) : (merged outcomes).Built := by
  refine ScanResult.Built.empty.foldl_merge fun r hr => ?_
  obtain ⟨o, ho, hvalue⟩ := List.mem_filterMap.1 hr
  exact h o ho r hvalue

theorem built_scanFiles (s : Scanner) (f : Files) (paths : List String) :
    (s.scanFiles f paths).value.Built := by
  apply built_merged
  intro o ho r hr
  rw [List.map_map] at ho
  obtain ⟨path, -, rfl⟩ := List.mem_map.1 ho
  exact built_of_scanFile hr

theorem built_scanFilesAs (s : Scanner) (f : Files) (l : Language) (paths : List String) :
    (s.scanFilesAs f l paths).value.Built := by
  apply built_merged
  intro o ho r hr
  rw [List.map_map] at ho
  obtain ⟨path, -, rfl⟩ := List.mem_map.1 ho
  exact built_of_scanFileAs hr

/-- Whatever is put together from the empty result by recording, by adding unknown names and by
merging has one detail for each feature. Every scan with the rules of any document is put together
so, and every batch, and the details of a single style sheet or script are in strictly increasing
order of their features. -/
theorem one_to_one :
    (∀ r : ScanResult, r.Built → r.OneToOne) ∧
    ∀ (options : ScanOptions) (d : Document),
      (∀ l source, ((make options d).scan l source).Built ∧
        ((make options d).scan l source).OneToOne) ∧
      (∀ f paths, ((make options d).scanFiles f paths).value.Built ∧
        ((make options d).scanFiles f paths).value.OneToOne) ∧
      (∀ f l paths, ((make options d).scanFilesAs f l paths).value.Built ∧
        ((make options d).scanFilesAs f l paths).value.OneToOne) ∧
      ∀ source,
        (((make options d).scan .css source).details.map Match.feature).Pairwise (· < ·) ∧
        (((make options d).scan .javaScript source).details.map Match.feature).Pairwise
          (· < ·) := by
  refine ⟨fun r h => h.oneToOne, fun options d => ⟨?_, ?_, ?_, ?_⟩⟩
  · intro l source
    have hbuilt := built_scan (make options d) l source
    exact ⟨hbuilt, hbuilt.oneToOne⟩
  · intro f paths
    have hbuilt := built_scanFiles (make options d) f paths
    exact ⟨hbuilt, hbuilt.oneToOne⟩
  · intro f l paths
    have hbuilt := built_scanFilesAs (make options d) f l paths
    exact ⟨hbuilt, hbuilt.oneToOne⟩
  · intro source
    constructor
    · exact Style.details_scan_increasing (Style.wellKeyed_layered d.css) options.reportUnknown
        source
    · apply Script.details_scan_increasing
      exact LayeredTable.wellKeyed_make false .javaScript Catalog.scriptTopics d.javaScript

end Scanner

end FeatureScan
