import FeatureScan.Proofs.Document.Reload
import FeatureScan.Proofs.Markup.Walk
import FeatureScan.Proofs.Merged
import FeatureScan.Scanner

/-!
# What results may name

What a scan finds it finds through a rule in force, through an entry of a lookup that no entry of
the user hides, or through a detector. The supported features and the origins of features are told
from the same rules, entries and detectors, each in its own way. They agree: a result names nothing
but supported features, these are the features with an origin, and so each has a category.

## Main results

* `Lookup.mem_features_iff`: the features of a lookup are those that its keys lead to.
* `Scanner.scan_within`: a result names supported features only.
* `Scanner.isSome_origin?_iff`: the features with an origin are the supported ones.
* `Report.get?_foldl_group`: the features of a report under a category.
* `Scanner.results_supported`: what the results of a scanner made from a document may name.
-/

namespace FeatureScan

/-! ## Results within some names -/

namespace ScanResult

/-- A result names nothing but some features. -/
structure Within (r : ScanResult) (names : List String) : Prop where
  features : ∀ x ∈ r.features.toList, x ∈ names
  details : ∀ m ∈ r.details, m.feature ∈ names

theorem mem_details_foldl_record {ms : List Match} {r : ScanResult} {m : Match}
    (h : m ∈ (ms.foldl record r).details) : m ∈ r.details ∨ m ∈ ms := by
  induction ms generalizing r with
  | nil => exact .inl h
  | cons m' ms ih =>
      rcases ih h with hrecord | hms
      · unfold record at hrecord
        split at hrecord
        · exact .inl hrecord
        · rcases List.mem_append.1 hrecord with hold | hnew
          · exact .inl hold
          · rw [List.mem_singleton.1 hnew]
            exact .inr List.mem_cons_self
      · exact .inr (List.mem_cons_of_mem _ hms)

/-- Findings that are recorded bring no other features. -/
theorem within_foldl_record {ms : List Match} {names : List String}
    (h : ∀ m ∈ ms, m.feature ∈ names) : (ms.foldl record .empty).Within names := by
  constructor
  · intro x hx
    rcases (features_foldl_record ms .empty x).1 hx with hnone | ⟨m, hm, rfl⟩
    · exact absurd hnone List.not_mem_nil
    · exact h m hm
  · intro m hm
    rcases mem_details_foldl_record hm with hnone | hms
    · exact absurd hnone List.not_mem_nil
    · exact h m hms

end ScanResult

/-! ## Style sheets and scripts -/

theorem Style.scan_within (rules : LayeredTable) (reportUnknown : Bool) (source : String) :
    (Style.scan rules reportUnknown source).Within rules.supported := by
  have hfound : ∀ s, ∀ m ∈ rules.toList.filterMap (Style.find? s), m.feature ∈ rules.supported := by
    intro s m hm
    obtain ⟨r, hr, hfind⟩ := List.mem_filterMap.1 hm
    unfold Style.find? at hfind
    split at hfind
    · cases hfind
    · obtain rfl := Option.some.inj hfind
      exact List.mem_map_of_mem hr
  have hwithin := ScanResult.within_foldl_record
    (hfound (.ofString (Css.extract source).matchable))
  unfold Style.scan Style.scanExtraction
  dsimp only
  split
  · exact ⟨hwithin.features, hwithin.details⟩
  · exact hwithin

theorem Script.scan_within (rules : LayeredTable) (source : String) :
    (Script.scan rules source).Within rules.supported := by
  refine ScanResult.within_foldl_record fun m hm => ?_
  obtain ⟨r, hr, hfind⟩ := List.mem_filterMap.1 hm
  obtain ⟨p, -, rfl⟩ := Option.map_eq_some_iff.1 hfind
  exact List.mem_map_of_mem hr

/-- Rules that have been read stand under their own features. -/
theorem Document.RulesSettled.keyed {rules : Dict Rule} (h : RulesSettled rules) : rules.Keyed :=
  fun e he => (h e he).2.1

namespace LayeredTable

variable (ignoreCase : Bool) (l : Language) (topics : List Topic) {custom : Dict Rule}

theorem isSome_origin?_make (h : custom.Keyed) (id : String) :
    ((make ignoreCase (.ofTopics l topics) custom).origin? id).isSome = true ↔
      id ∈ (make ignoreCase (.ofTopics l topics) custom).supported := by
  have hrefines := make_refines ignoreCase l topics h
  rw [hrefines.origin?_eq, hrefines.supported_eq, Option.isSome_map, find?_merged topics h,
    map_id_merged h, mem_ruled_iff]

theorem supported_make_increasing (h : custom.Keyed) :
    (make ignoreCase (.ofTopics l topics) custom).supported.Pairwise (· < ·) := by
  rw [(make_refines ignoreCase l topics h).supported_eq]
  exact merged_increasing topics h

/-- The category of a rule in force is that of the user's rules, or the name of a topic. -/
theorem category_of_origin?_make (h : Document.RulesSettled custom) {id : String} {o : Origin}
    (ho : (make ignoreCase (.ofTopics l topics) custom).origin? id = some o) :
    o.category = customCategory ∨ ∃ t ∈ topics, o.category = t.name := by
  rw [(make_refines ignoreCase l topics h.keyed).origin?_eq, find?_merged topics h.keyed] at ho
  obtain ⟨e, he, rfl⟩ := Option.map_eq_some_iff.1 ho
  unfold inForce? at he
  split at he
  · next r hr =>
    obtain rfl := Option.some.inj he
    exact .inl (h (id, r) ((Dict.get?_eq_some_iff custom id r).1 hr)).2.2
  · obtain ⟨r, hr, rfl⟩ := Option.map_eq_some_iff.1 he
    obtain ⟨t, ht, hrule⟩ :=
      List.mem_flatMap.1 (List.mem_reverse.1 (List.mem_of_find?_eq_some hr))
    obtain ⟨d, -, rfl⟩ := List.mem_map.1 hrule
    exact .inr ⟨t, ht, rfl⟩

end LayeredTable

/-! ## Lookups -/

theorem Dict.mem_values_iff {α : Type} (d : Dict α) (v : α) :
    v ∈ d.values ↔ ∃ k, d.get? k = some v := by
  simp only [values, List.mem_map, get?_eq_some_iff]
  constructor
  · rintro ⟨e, he, rfl⟩
    exact ⟨e.1, he⟩
  · rintro ⟨k, hk⟩
    exact ⟨(k, v), hk, rfl⟩

/-- The features of a lookup are those that its keys lead to: a builtin entry counts unless the user
has one with its key. -/
theorem Lookup.mem_features_iff (l : Lookup) (x : String) :
    x ∈ l.features ↔ ∃ key layer, l.get? key = some (x, layer) := by
  have hremaining : ∀ key, l.remaining.get? key = some x ↔
      l.builtin.get? key = some x ∧ l.custom.get? key = none := by
    intro key
    rw [Dict.get?_eq_some_iff, Dict.get?_eq_some_iff, remaining, Dict.filter, List.mem_filter,
      Dict.contains]
    simp
  rw [features, List.mem_append, Dict.mem_values_iff, Dict.mem_values_iff]
  simp only [hremaining]
  constructor
  · rintro (⟨key, hbuiltin, hcustom⟩ | ⟨key, hcustom⟩)
    · exact ⟨key, .builtin, by simp [get?, hbuiltin, hcustom]⟩
    · exact ⟨key, .custom (l.builtin.contains key), by simp [get?, hcustom]⟩
  · rintro ⟨key, layer, hget⟩
    unfold get? at hget
    split at hget
    · next id hcustom =>
      cases hget
      exact .inr ⟨key, hcustom⟩
    · next hcustom =>
      obtain ⟨id, hbuiltin, heq⟩ := Option.map_eq_some_iff.1 hget
      cases heq
      exact .inl ⟨key, hbuiltin, hcustom⟩

/-! ## Markup -/

namespace Markup.Rulebook

variable {r : Rulebook}

theorem feature_of_found? {kind : LookupKind} {key : String} {evidence : Evidence} {m : Match}
    (h : r.found? kind key evidence = some m) : m.feature ∈ r.supported := by
  obtain ⟨⟨x, layer⟩, hget, rfl⟩ := Option.map_eq_some_iff.1 h
  refine (mem_supported_iff r x).2 (.inl ⟨kind, ?_⟩)
  exact (Lookup.mem_features_iff _ x).2 ⟨key, layer, hget⟩

/-- Each finding at a place is of an entry in force, or of a detector. -/
theorem feature_of_findings {p : Place} {m : Match} (h : m ∈ r.findings detectors p) :
    m.feature ∈ r.supported := by
  rcases mem_findings_cases h with ⟨kind, key, evidence, hfound⟩ | ⟨d, hd, rfl⟩
  · exact feature_of_found? hfound
  · exact (mem_supported_iff r _).2 (.inr (List.mem_map_of_mem hd))

theorem scan_within (r : Rulebook) (reportUnknown : Bool) (source : String) :
    (r.scan reportUnknown source).Within r.supported := by
  have hfound : ∀ m ∈ (parse source).places.flatMap (r.findings detectors),
      m.feature ∈ r.supported := by
    intro m hm
    obtain ⟨p, -, hp⟩ := List.mem_flatMap.1 hm
    exact feature_of_findings hp
  have hwithin := ScanResult.within_foldl_record hfound
  rw [scan, scanTree, walk_eq]
  exact ⟨hwithin.features, hwithin.details⟩

theorem isSome_origin?_iff (r : Rulebook) (x : String) :
    (r.origin? x).isSome = true ↔ x ∈ r.supported := by
  rw [origin?, Option.isSome_map, mem_supported_iff, category?]
  cases hkind : LookupKind.all.find? fun k => (r.lookup k).features.contains x with
  | some kind =>
      have hmem : x ∈ (r.lookup kind).features := by
        simpa using List.find?_some hkind
      exact iff_of_true rfl (.inl ⟨kind, hmem⟩)
  | none =>
      have hnone : ¬ ∃ kind, x ∈ (r.lookup kind).features := by
        rintro ⟨kind, hmem⟩
        have hnot := List.find?_eq_none.1 hkind kind (LookupKind.mem_all kind)
        exact hnot (by simpa using hmem)
      by_cases hdetected : x ∈ detectedFeatures
      · simp [hdetected]
      · simp [hdetected, hnone]

/-- The category of a feature is a lookup or that of detectors. -/
theorem category_of_origin? {x : String} {o : Origin} (h : r.origin? x = some o) :
    (∃ kind : LookupKind, o.category = kind.key) ∨ o.category = structureCategory := by
  obtain ⟨c, hc, rfl⟩ := Option.map_eq_some_iff.1 h
  unfold category? at hc
  split at hc
  · next kind _ =>
    obtain rfl := Option.some.inj hc
    exact .inl ⟨kind, rfl⟩
  · split at hc
    · obtain rfl := Option.some.inj hc
      exact .inr rfl
    · cases hc

/-- A feature that nothing leads to but builtin entries in whose place the user has put others. -/
structure Displaced (r : Rulebook) (x : String) : Prop where
  overridden : ∀ kind key, (r.lookup kind).builtin.get? key = some x →
    ∃ id, (r.lookup kind).custom.get? key = some id ∧ id ≠ x
  not_custom : ∀ kind key, (r.lookup kind).custom.get? key ≠ some x
  not_detected : x ∉ detectedFeatures

/-- A displaced feature is not supported. -/
theorem Displaced.not_mem_supported {x : String} (h : r.Displaced x) : x ∉ r.supported := by
  intro hmem
  rcases (mem_supported_iff r x).1 hmem with ⟨kind, hkind⟩ | hdetected
  · obtain ⟨key, layer, hget⟩ := (Lookup.mem_features_iff _ x).1 hkind
    unfold Lookup.get? at hget
    split at hget
    · next id hcustom =>
      cases hget
      exact h.not_custom kind key hcustom
    · next hcustom =>
      obtain ⟨id, hbuiltin, heq⟩ := Option.map_eq_some_iff.1 hget
      cases heq
      obtain ⟨other, hother, -⟩ := h.overridden kind key hbuiltin
      rw [hcustom] at hother
      cases hother
  · exact h.not_detected hdetected

end Markup.Rulebook

/-! ## Reports -/

namespace Report

/-- A report has under a category what was there before and the features of that category. -/
theorem get?_foldl_group (origin : String → Option Origin) (features : List String)
    (d : Dict (List String)) (c : String) :
    (features.foldl (group origin) d).get? c =
      if features.any fun f => categoryOf origin f == c then
        some ((d.get? c).getD [] ++ features.filter fun f => categoryOf origin f == c)
      else d.get? c := by
  induction features generalizing d with
  | nil => rfl
  | cons f features ih =>
      rw [List.foldl_cons, ih, group, Dict.get?_insert, List.any_cons, List.filter_cons]
      by_cases hcategory : categoryOf origin f = c
      · by_cases hrest : (features.any fun f => categoryOf origin f == c) = true
        · simp [hcategory, hrest]
        · have hnone : (features.filter fun f => categoryOf origin f == c) = [] := by
            rw [List.filter_eq_nil_iff]
            intro g hg hgc
            exact hrest (List.any_eq_true.2 ⟨g, hg, hgc⟩)
          simp [hcategory, hrest, hnone]
      · have hother : (categoryOf origin f == c) = false := beq_eq_false_iff_ne.2 hcategory
        simp [hcategory, hother]

end Report

/-! ## Scanners -/

namespace Scanner

theorem scan_within (s : Scanner) (l : Language) (source : String) :
    (s.scan l source).Within (s.supported l) := by
  cases l with
  | css => exact Style.scan_within s.css s.options.reportUnknown source
  | javaScript => exact Script.scan_within s.javaScript source
  | html => exact s.html.scan_within s.options.reportUnknown source

section Make

variable {d : Document} (h : d.Settled) (options : ScanOptions) (l : Language)

include h

theorem isSome_origin?_iff (x : String) :
    ((make options d).origin? l x).isSome = true ↔ x ∈ (make options d).supported l := by
  cases l with
  | css =>
      exact LayeredTable.isSome_origin?_make true .css Catalog.styleTopics
        h.css.keyed x
  | javaScript =>
      exact LayeredTable.isSome_origin?_make false .javaScript Catalog.scriptTopics
        h.javaScript.keyed x
  | html => exact Markup.Rulebook.isSome_origin?_iff _ x

theorem supported_increasing : ((make options d).supported l).Pairwise (· < ·) := by
  cases l with
  | css =>
      exact LayeredTable.supported_make_increasing true .css Catalog.styleTopics
        h.css.keyed
  | javaScript =>
      exact LayeredTable.supported_make_increasing false .javaScript Catalog.scriptTopics
        h.javaScript.keyed
  | html => exact Dict.keys_sorted _

/-- No origin has the category of features without one. -/
theorem category_ne_uncategorized {x : String} {o : Origin}
    (ho : (make options d).origin? l x = some o) : o.category ≠ Report.uncategorized := by
  have hcustom : customCategory ≠ Report.uncategorized := by decide
  cases l with
  | css =>
      have htopics : ∀ t ∈ Catalog.styleTopics, t.name ≠ Report.uncategorized := by decide
      rcases LayeredTable.category_of_origin?_make true .css Catalog.styleTopics h.css ho with
        hc | ⟨t, ht, hc⟩
      · rw [hc]
        exact hcustom
      · rw [hc]
        exact htopics t ht
  | javaScript =>
      have htopics : ∀ t ∈ Catalog.scriptTopics, t.name ≠ Report.uncategorized := by decide
      rcases LayeredTable.category_of_origin?_make false .javaScript Catalog.scriptTopics
        h.javaScript ho with hc | ⟨t, ht, hc⟩
      · rw [hc]
        exact hcustom
      · rw [hc]
        exact htopics t ht
  | html =>
      rcases Markup.Rulebook.category_of_origin? ho with ⟨kind, hc⟩ | hc
      · rw [hc]
        cases kind <;> decide
      · rw [hc]
        decide

/-- A supported feature is reported under a category of its own. -/
theorem categoryOf_ne_uncategorized {x : String} (hx : x ∈ (make options d).supported l) :
    Report.categoryOf ((make options d).origin? l) x ≠ Report.uncategorized := by
  obtain ⟨o, ho⟩ := Option.isSome_iff_exists.1 ((isSome_origin?_iff h options l x).2 hx)
  rw [Report.categoryOf, ho]
  exact category_ne_uncategorized h options l ho

end Make

/-- The results of a scanner that is made from a document name supported features only, and their
reports have nothing without a category. The supported features are those with an origin, in order
and each once. A feature of markup that the user has displaced is neither supported nor found. -/
theorem results_supported {root : Json} {d : Document} (hd : Document.ofJson root = .ok d)
    (options : ScanOptions) (l : Language) :
    (∀ source, ((make options d).scan l source).Within ((make options d).supported l)) ∧
    (∀ x, ((make options d).origin? l x).isSome = true ↔ x ∈ (make options d).supported l) ∧
    (∀ source, ((make options d).report l ((make options d).scan l source)).byCategory.get?
      Report.uncategorized = none) ∧
    ((make options d).supported l).Pairwise (· < ·) ∧
    ∀ x, (make options d).html.Displaced x → x ∉ (make options d).supported .html ∧
      ∀ source, x ∉ ((make options d).scan .html source).features.toList := by
  have hsettled := Document.settled_of_ofJson? (Document.ofJson_eq_ok_iff.1 hd)
  refine ⟨scan_within _ l, isSome_origin?_iff hsettled options l, ?_,
    supported_increasing hsettled options l, ?_⟩
  · intro source
    have hnone : (((make options d).scan l source).features.toList.any fun f =>
        Report.categoryOf ((make options d).origin? l) f == Report.uncategorized) = false := by
      rw [List.any_eq_false]
      intro x hx heq
      have hsupported := (scan_within (make options d) l source).features x hx
      exact categoryOf_ne_uncategorized hsettled options l hsupported (beq_iff_eq.1 heq)
    rw [report, Report.build, Report.get?_foldl_group, hnone]
    rfl
  · intro x hx
    refine ⟨hx.not_mem_supported, fun source hfound => ?_⟩
    exact hx.not_mem_supported ((scan_within _ .html source).features x hfound)

/-- An object that gives both elements of one feature to another. -/
def foldingRoot : Json :=
  .object [("html", .object [("elements",
    .object [("details", .string "folding"), ("summary", .string "folding")])])]

/-- The document that is read from it. -/
def foldingDocument : Document :=
  { html := { elements := .ofList [("details", "folding"), ("summary", "folding")] } }

theorem results_supported_folding :
    Document.ofJson foldingRoot = .ok foldingDocument ∧
    (make {} foldingDocument).html.Displaced "details" ∧
    "details" ∉ (make {} foldingDocument).supported .html ∧
    "details" ∉ ((make {} foldingDocument).scan .html "<details>").features.toList ∧
    ((make {} foldingDocument).report .html
      ((make {} foldingDocument).scan .html "<details>")).byCategory.get?
        Report.uncategorized = none := by
  have hroot : Document.ofJson foldingRoot = .ok foldingDocument := by rfl
  have hbuiltin : ∀ kind, ∀ e ∈ Catalog.builtinLookup kind, e.2 = "details" →
      (foldingDocument.html.get kind).get? e.1 = some "folding" := by
    intro kind
    cases kind <;> decide +kernel
  have hcustom : ∀ kind, ∀ e ∈ (foldingDocument.html.get kind).entries, e.2 ≠ "details" := by
    intro kind
    cases kind <;> decide +kernel
  have hdisplaced : (make {} foldingDocument).html.Displaced "details" := by
    constructor
    · intro kind key hkey
      rw [make, Markup.Rulebook.lookup_make] at hkey ⊢
      have hmem := Dict.mem_ofList ((Dict.get?_eq_some_iff _ key _).1 hkey)
      exact ⟨"folding", hbuiltin kind _ hmem rfl, by decide⟩
    · intro kind key hkey
      rw [make, Markup.Rulebook.lookup_make] at hkey
      exact hcustom kind _ ((Dict.get?_eq_some_iff _ key _).1 hkey) rfl
    · decide
  obtain ⟨-, -, hreport, -, hnever⟩ := results_supported hroot {} .html
  obtain ⟨hsupported, hfound⟩ := hnever "details" hdisplaced
  exact ⟨hroot, hdisplaced, hsupported, hfound "<details>", hreport "<details>"⟩

end Scanner

end FeatureScan
