import FeatureScan.Proofs.Membership
import FeatureScan.Proofs.OneToOne
import Mathlib.Algebra.GroupWithZero.Nat
import Mathlib.Data.List.Nodup
import Mathlib.Data.List.Perm.Basic

/-!
# What a report makes of a result

A report puts each feature of a result under one category, that of its origin. It is made in one
walk over the features in their order, so the features of a category stay in order, and the lists of
all categories together are the features again. Whatever the details of the result say does not
matter.

Of two results that are merged the reports are united list by list. This needs the second result to
have a feature for each of its details, as all results of scans and batches have.

## Main results

* `Report.under_build`: the features under a category are those with that category, in order.
* `Report.flatten_values_perm`: the lists of all categories hold each feature once.
* `Report.unites_build_merge`: the report of a merge unites the reports of both sides.
* `Report.build_partitions`: a report partitions the result.
-/

namespace FeatureScan

/-- The members of a set stand in strictly increasing order. -/
theorem NameSet.toList_increasing (s : NameSet) : s.toList.Pairwise (· < ·) := Dict.keys_sorted s

namespace Report

/-! ## Under a category -/

/-- The features that a report has under a category. -/
def under (p : Report) (c : String) : List String := (p.byCategory.get? c).getD []

section Build

variable (l : Language) (r : ScanResult) (origin : String → Option Origin)

/-- A report has a list under a category if and only if some feature has that category. -/
theorem get?_byCategory_build (c : String) :
    (build l r origin).byCategory.get? c =
      if r.features.toList.any fun f => categoryOf origin f == c then
        some (r.features.toList.filter fun f => categoryOf origin f == c)
      else none := by
  rw [build, get?_foldl_group, Dict.get?_empty, Option.getD_none, List.nil_append]

/-- The features under a category are those with that category, in order. -/
theorem under_build (c : String) : (build l r origin).under c =
    r.features.toList.filter fun f => categoryOf origin f == c := by
  rw [under, get?_byCategory_build]
  split
  · rfl
  · next hnone =>
    refine (List.filter_eq_nil_iff.2 fun f hf hc => hnone ?_).symm
    exact List.any_eq_true.2 ⟨f, hf, hc⟩

theorem mem_under_build_iff (c x : String) : x ∈ (build l r origin).under c ↔
    x ∈ r.features.toList ∧ categoryOf origin x = c := by
  rw [under_build, List.mem_filter, beq_iff_eq]

/-- Every list of a report is in order, and holds a feature. -/
theorem of_get?_byCategory_build {c : String} {names : List String}
    (h : (build l r origin).byCategory.get? c = some names) :
    names ≠ [] ∧ names.Pairwise (· < ·) := by
  rw [get?_byCategory_build] at h
  split at h
  · next hany =>
    obtain rfl := Option.some.inj h
    obtain ⟨f, hf, hc⟩ := List.any_eq_true.1 hany
    exact ⟨List.ne_nil_of_mem (List.mem_filter.2 ⟨hf, hc⟩), r.features.toList_increasing.filter _⟩
  · cases h

/-- The lists of all categories hold each feature once. -/
theorem flatten_values_perm :
    (build l r origin).byCategory.values.flatten.Perm r.features.toList := by
  have hlist : ∀ e ∈ (build l r origin).byCategory.entries,
      (build l r origin).byCategory.get? e.1 = some e.2 := fun e he =>
    (Dict.get?_eq_some_iff _ e.1 e.2).2 he
  have hmem : ∀ e ∈ (build l r origin).byCategory.entries, ∀ x,
      x ∈ e.2 ↔ x ∈ r.features.toList ∧ categoryOf origin x = e.1 := by
    intro e he x
    rw [← mem_under_build_iff l, under, hlist e he, Option.getD_some]
  have hnodup : (build l r origin).byCategory.values.flatten.Nodup := by
    rw [List.nodup_flatten]
    constructor
    · intro names hnames
      obtain ⟨e, he, rfl⟩ := List.mem_map.1 hnames
      exact nodup_of_increasing (of_get?_byCategory_build l r origin (hlist e he)).2
    · -- Lists under different categories share nothing, as a feature has one category.
      refine List.pairwise_map.2 ((build l r origin).byCategory.sorted.imp_of_mem ?_)
      intro e e' he he' hlt x hx hx'
      have hcategory := ((hmem e he x).1 hx).2.symm.trans ((hmem e' he' x).1 hx').2
      exact String.lt_irrefl e.1 (by rwa [← hcategory] at hlt)
  have hfeatures := nodup_of_increasing r.features.toList_increasing
  refine (List.perm_ext_iff_of_nodup hnodup hfeatures).2 fun x => ?_
  rw [List.mem_flatten]
  constructor
  · rintro ⟨names, hnames, hx⟩
    obtain ⟨e, he, rfl⟩ := List.mem_map.1 hnames
    exact ((hmem e he x).1 hx).1
  · intro hx
    have hunder := (mem_under_build_iff l r origin _ x).2 ⟨hx, rfl⟩
    cases hget : (build l r origin).byCategory.get? (categoryOf origin x) with
    | none => simp [under, hget] at hunder
    | some names =>
        rw [under, hget] at hunder
        exact ⟨names, (Dict.mem_values_iff _ names).2 ⟨_, hget⟩, hunder⟩

/-- The lengths of the lists add up to the number of features. -/
theorem sum_length_values : ((build l r origin).byCategory.values.map List.length).sum =
    (build l r origin).totalFeatures := by
  rw [← List.length_flatten, (flatten_values_perm l r origin).length_eq]
  exact List.length_map _

end Build

/-! ## Reports of merged results -/

/-- A report whose lists are the lists of two others, united. -/
structure Unites (p a b : Report) : Prop where
  /-- Under each category. -/
  under : ∀ c x, x ∈ p.under c ↔ x ∈ a.under c ∨ x ∈ b.under c
  /-- There are no other categories. -/
  categories : ∀ c, c ∈ p.byCategory.keys ↔ c ∈ a.byCategory.keys ∨ c ∈ b.byCategory.keys
  /-- The features of the user's rules. -/
  custom : ∀ x, x ∈ p.customFeatures ↔ x ∈ a.customFeatures ∨ x ∈ b.customFeatures
  /-- The unknown names. -/
  unrecognized : ∀ x, x ∈ p.unrecognized ↔ x ∈ a.unrecognized ∨ x ∈ b.unrecognized

theorem mem_keys_build_iff (l : Language) (r : ScanResult) (origin : String → Option Origin)
    (c : String) : c ∈ (build l r origin).byCategory.keys ↔
      ∃ x ∈ r.features.toList, categoryOf origin x = c := by
  rw [← Dict.contains_eq_true_iff, Dict.contains, get?_byCategory_build]
  split
  · next hany => simpa using hany
  · next hany => simpa using hany

/-- The report of a merge unites the reports of both sides, if the second has a feature for each of
its details. -/
theorem unites_build_merge (l : Language) (origin : String → Option Origin) (a : ScanResult)
    {b : ScanResult} (h : b.InStep) :
    (build l (a.merge b) origin).Unites (build l a origin) (build l b origin) := by
  have hfeatures : ∀ x, x ∈ (a.merge b).features.toList ↔
      x ∈ a.features.toList ∨ x ∈ b.features.toList := by
    intro x
    rw [ScanResult.mem_features_merge, ← h.mem_features_iff, or_self]
  constructor
  · intro c x
    rw [mem_under_build_iff, mem_under_build_iff, mem_under_build_iff, hfeatures, or_and_right]
  · intro c
    simp only [mem_keys_build_iff, hfeatures, or_and_right, exists_or]
  · intro x
    rw [mem_customFeatures_iff, mem_customFeatures_iff, mem_customFeatures_iff, hfeatures,
      or_and_right]
  · exact ScanResult.mem_unrecognized_merge a b

/-- A report on any result, with any origins, has each feature under one category and no other, that
of its origin. Every list is in strictly increasing order and not empty, and the lengths add up to
the number of features. The custom features are those with an origin of the user's, and the unknown
names are listed and counted. Results that are put together step by step, as those of all scans and
batches are, have reports that are united when they are merged. -/
theorem build_partitions (l : Language) (origin : String → Option Origin) :
    (∀ r : ScanResult,
      (build l r origin).language = some l ∧
      (∀ x ∈ r.features.toList, ∃! c, x ∈ (build l r origin).under c) ∧
      (∀ c x, x ∈ (build l r origin).under c ↔
        x ∈ r.features.toList ∧ categoryOf origin x = c) ∧
      (∀ c names, (build l r origin).byCategory.get? c = some names →
        names ≠ [] ∧ names.Pairwise (· < ·)) ∧
      ((build l r origin).byCategory.values.map List.length).sum =
        (build l r origin).totalFeatures ∧
      (build l r origin).totalFeatures = r.features.toList.length ∧
      (build l r origin).customFeatures.Pairwise (· < ·) ∧
      (∀ x, x ∈ (build l r origin).customFeatures ↔
        x ∈ r.features.toList ∧ ∃ o, origin x = some o ∧ o.userDefined = true) ∧
      (build l r origin).unrecognized = r.unrecognized.toList ∧
      (build l r origin).unrecognized.Pairwise (· < ·) ∧
      (build l r origin).totalUnrecognized = (build l r origin).unrecognized.length) ∧
    (∀ a b : ScanResult, a.Built → b.Built →
      (build l (a.merge b) origin).Unites (build l a origin) (build l b origin)) ∧
    ∀ (s : Scanner) (f : Files),
      (∀ source, (s.scan l source).Built) ∧
      (∀ paths, (s.scanFiles f paths).value.Built) ∧
      ∀ paths, (s.scanFilesAs f l paths).value.Built := by
  refine ⟨fun r => ⟨rfl, ?_, mem_under_build_iff l r origin, fun c names =>
    of_get?_byCategory_build l r origin, sum_length_values l r origin, (List.length_map _).symm,
    r.features.toList_increasing.filter _, ?_, rfl, r.unrecognized.toList_increasing,
    (unrecognized_length l r origin).symm⟩, fun a b _ hb => unites_build_merge l origin a hb.inStep,
    fun s f => ⟨s.built_scan l, s.built_scanFiles f, s.built_scanFilesAs f l⟩⟩
  · intro x hx
    refine ⟨categoryOf origin x, (mem_under_build_iff l r origin _ x).2 ⟨hx, rfl⟩, ?_⟩
    intro c hc
    exact ((mem_under_build_iff l r origin c x).1 hc).2.symm
  · intro x
    rw [mem_customFeatures_iff, Option.any_eq_true]

/-- A builtin origin for one feature and an origin of the user's for another. -/
def gridOrigin (x : String) : Option Origin :=
  if x = "css-grid" then some ⟨"layout", false⟩
  else if x = "tilt" then some ⟨customCategory, true⟩
  else none

/-- A result with the builtin feature. -/
def gridResult : ScanResult := ScanResult.empty.record ⟨"css-grid", "CSS Grid", .properties []⟩

/-- A result with the user's feature, one without an origin, and an unknown name. -/
def tiltResult : ScanResult :=
  ((ScanResult.empty.record ⟨"tilt", "Tilt", .properties []⟩).record
    ⟨"ghost", "Ghost", .properties []⟩).addUnrecognized "property: tilt-x"

theorem build_partitions_grid :
    gridResult.Built ∧ tiltResult.Built ∧
    (build .css (gridResult.merge tiltResult) gridOrigin).Unites
      (build .css gridResult gridOrigin) (build .css tiltResult gridOrigin) ∧
    "css-grid" ∈ (build .css (gridResult.merge tiltResult) gridOrigin).under "layout" ∧
    "ghost" ∈ (build .css (gridResult.merge tiltResult) gridOrigin).under uncategorized ∧
    (build .css (gridResult.merge tiltResult) gridOrigin).totalFeatures = 3 := by
  have hgrid : gridResult.Built := ScanResult.Built.empty.record _
  have htilt : tiltResult.Built :=
    ((ScanResult.Built.empty.record _).record _).addUnrecognized _
  obtain ⟨hone, hmerge, -⟩ := build_partitions .css gridOrigin
  obtain ⟨-, -, hunder, -, -, htotal, -⟩ := hone (gridResult.merge tiltResult)
  refine ⟨hgrid, htilt, hmerge _ _ hgrid htilt, ?_, ?_, ?_⟩
  · rw [hunder]
    decide
  · rw [hunder]
    decide
  · rw [htotal]
    decide

end Report

end FeatureScan
