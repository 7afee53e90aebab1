import FeatureScan.Proofs.Document.Reload
import FeatureScan.Proofs.Merged
import FeatureScan.Script.Scan
import FeatureScan.Style.Scan

/-!
# What a scan detects

The findings of a style sheet and of a script are told from the rules in force alone: one for each
rule of which a pattern can be read and occurs, in the order of the features. A builtin rule that
gives way to one of the user takes no part.

## Main results

* `details_foldl_record`: findings in the order of their features are all kept, in that order.
* `detects_scan_style`, `detects_scan_script`: what a scan finds under a table in two layers.
* `layered_exact`: a table in two layers answers, and detects, as the list of the rules in force.
-/

namespace FeatureScan

/-! ## Keeping findings -/

theorem ScanResult.details_foldl_record {ms : List Match}
    (h : (ms.map Match.feature).Pairwise (· < ·)) :
    (ms.foldl record .empty).details = ms ∧
      (ms.foldl record .empty).features.toList = ms.map Match.feature := by
  have hkept : ∀ (ms : List Match) (r : ScanResult), (ms.map Match.feature).Pairwise (· < ·) →
      (∀ m ∈ ms, m.feature ∉ r.features.toList) →
        (ms.foldl record r).details = r.details ++ ms := by
    intro ms
    induction ms with
    | nil => exact fun r _ _ => (List.append_nil _).symm
    | cons m ms ih =>
        intro r hms hnew
        rw [List.map_cons, List.pairwise_cons] at hms
        have hfirst : r.contains m.feature = false := by
          rw [← Bool.not_eq_true]
          exact fun hc => hnew m List.mem_cons_self ((Dict.contains_eq_true_iff _ _).1 hc)
        have hrest : ∀ m' ∈ ms, m'.feature ∉ (r.record m).features.toList := by
          intro m' hm' hmem
          rcases (features_record r m m'.feature).1 hmem with heq | hold
          · have hlt := hms.1 m'.feature (List.mem_map_of_mem hm')
            exact String.lt_irrefl _ (heq ▸ hlt)
          · exact hnew m' (List.mem_cons_of_mem _ hm') hold
        rw [List.foldl_cons, ih _ hms.2 hrest, record, if_neg (by rw [hfirst]; decide)]
        exact List.append_assoc _ _ _
  refine ⟨hkept ms .empty h fun _ _ => List.not_mem_nil, ?_⟩
  refine (Dict.keys_sorted _).eq_of_mem_iff h fun id => ?_
  have hfeatures := features_foldl_record ms .empty id
  rw [List.mem_map]
  exact hfeatures.trans (or_iff_right List.not_mem_nil)

/-! ## What is found by the rules in force -/

/-- What a scan of a subject has to find where these topics and rules of a user are in force;
`shown?` makes the evidence for a feature of the patterns that occur. -/
structure ScanResult.Detects (result : ScanResult) (topics : List Topic) (custom : Dict Rule)
    (ignoreCase : Bool) (s : Subject) (shown? : List String → Option Evidence) : Prop where
  details_eq : result.details = (merged topics custom).filterMap fun e =>
    (shown? (e.1.occurring ignoreCase s)).map fun shown => ⟨e.1.id, e.1.description, shown⟩
  features_eq : result.features.toList =
    ((merged topics custom).filter fun e => !(e.1.occurring ignoreCase s).isEmpty).map
      fun e => e.1.id
  one_each : result.details.map Match.feature = result.features.toList
  custom_only : ∀ id r, custom.get? id = some r → ∀ m ∈ result.details, m.feature = id →
    shown? (r.occurring ignoreCase s) = some m.evidence

section Detects

variable {topics : List Topic} {custom : Dict Rule} {ignoreCase : Bool} {s : Subject}
  {shown? : List String → Option Evidence}

/-- The findings of the rules in force, each recorded in turn, are what has to be found. -/
theorem detects_foldl_record (h : custom.Keyed)
    (hshown : ∀ ps, (shown? ps).isSome = !ps.isEmpty) {ms : List Match}
    (hms : ms = (merged topics custom).filterMap fun e =>
      (shown? (e.1.occurring ignoreCase s)).map fun shown => ⟨e.1.id, e.1.description, shown⟩)
    {result : ScanResult} (hdetails : result.details = (ms.foldl ScanResult.record .empty).details)
    (hfeatures : result.features = (ms.foldl ScanResult.record .empty).features) :
    result.Detects topics custom ignoreCase s shown? := by
  have hids : ms.map Match.feature =
      ((merged topics custom).filter fun e => !(e.1.occurring ignoreCase s).isEmpty).map
        fun e => e.1.id := by
    rw [hms]
    induction merged topics custom with
    | nil => rfl
    | cons e rules ih =>
        have hsome := hshown (e.1.occurring ignoreCase s)
        rw [List.filterMap_cons, List.filter_cons, ← hsome]
        cases hs : shown? (e.1.occurring ignoreCase s) with
        | none => simpa using ih
        | some shown => simpa using ih
  have hincreasing : (ms.map Match.feature).Pairwise (· < ·) := by
    rw [hids]
    exact (merged_increasing topics h).sublist (List.filter_sublist.map _)
  obtain ⟨hkept, hnamed⟩ := ScanResult.details_foldl_record hincreasing
  rw [← hdetails] at hkept
  rw [← hfeatures] at hnamed
  refine ⟨hkept.trans hms, hnamed.trans hids, by rw [hkept, hnamed], ?_⟩
  intro id r hr m hm hid
  rw [hkept, hms] at hm
  obtain ⟨e, he, hfound⟩ := List.mem_filterMap.1 hm
  obtain ⟨shown, hshow, rfl⟩ := Option.map_eq_some_iff.1 hfound
  -- Of the user's feature the user's rule is the one in the list.
  have hrule : inForce? topics custom id = some e := by
    rw [← hid]
    exact (mem_merged h).1 he
  rw [inForce?, hr] at hrule
  obtain rfl := Option.some.inj hrule
  exact hshow

end Detects

/-! ## Style sheets -/

/-- The evidence for a feature of a style sheet: all patterns that occur. -/
def Style.shown? (ps : List String) : Option Evidence :=
  if ps.isEmpty then none else some (.properties ps)

theorem Style.find?_ofRule (ignoreCase : Bool) (s : Subject) (e : Rule × Layer) :
    Style.find? s (.ofRule ignoreCase e.2 e.1) =
      (Style.shown? (e.1.occurring ignoreCase s)).map fun shown =>
        ⟨e.1.id, e.1.description, shown⟩ := by
  rw [← map_source_matching ignoreCase e.2, Style.find?, Style.shown?]
  split
  · rename_i hnone
    simp [hnone]
  · rename_i hsome
    rw [List.isEmpty_map, if_neg (by rwa [List.isEmpty_iff])]
    rfl

/-- What is found in a style sheet under a table in two layers. -/
theorem detects_scan_style (l : Language) (topics : List Topic) {custom : Dict Rule}
    (h : custom.Keyed) (ignoreCase reportUnknown : Bool) (source : String) :
    (Style.scan (.make ignoreCase (.ofTopics l topics) custom) reportUnknown source).Detects
      topics custom ignoreCase (.ofString (Css.extract source).matchable) Style.shown? := by
  have hfound : (LayeredTable.make ignoreCase (.ofTopics l topics) custom).toList.filterMap
      (Style.find? (.ofString (Css.extract source).matchable)) =
        (merged topics custom).filterMap fun e =>
          (Style.shown? (e.1.occurring ignoreCase (.ofString (Css.extract source).matchable))).map
            fun shown => ⟨e.1.id, e.1.description, shown⟩ := by
    rw [LayeredTable.toList_make ignoreCase l topics h, List.filterMap_map]
    simp only [Function.comp_def, Style.find?_ofRule]
  refine detects_foldl_record h (fun ps => ?_) hfound ?_ ?_
  · cases ps <;> rfl
  · unfold Style.scan Style.scanExtraction
    dsimp only
    split <;> rfl
  · unfold Style.scan Style.scanExtraction
    dsimp only
    split <;> rfl

/-! ## Scripts -/

/-- The evidence for a feature of a script: the first pattern that occurs. -/
def Script.shown? (ps : List String) : Option Evidence := ps.head?.map .pattern

theorem Script.find?_ofRule (ignoreCase : Bool) (s : Subject) (e : Rule × Layer) :
    Script.find? s (.ofRule ignoreCase e.2 e.1) =
      (Script.shown? (e.1.occurring ignoreCase s)).map fun shown =>
        ⟨e.1.id, e.1.description, shown⟩ := by
  rw [← map_source_matching ignoreCase e.2, Script.find?, Script.shown?,
    CompiledRule.firstMatch?_eq_head?, List.head?_map, Option.map_map, Option.map_map]
  rfl

/-- What is found in a script under a table in two layers. -/
theorem detects_scan_script (l : Language) (topics : List Topic) {custom : Dict Rule}
    (h : custom.Keyed) (ignoreCase : Bool) (source : String) :
    (Script.scan (.make ignoreCase (.ofTopics l topics) custom) source).Detects
      topics custom ignoreCase (.ofString (Script.withoutComments source)) Script.shown? := by
  have hfound : (LayeredTable.make ignoreCase (.ofTopics l topics) custom).toList.filterMap
      (Script.find? (.ofString (Script.withoutComments source))) =
        (merged topics custom).filterMap fun e =>
          (Script.shown? (e.1.occurring ignoreCase (.ofString (Script.withoutComments source)))).map
            fun shown => ⟨e.1.id, e.1.description, shown⟩ := by
    rw [LayeredTable.toList_make ignoreCase l topics h, List.filterMap_map]
    simp only [Function.comp_def, Script.find?_ofRule]
  refine detects_foldl_record h (fun ps => ?_) hfound rfl rfl
  cases ps <;> rfl

/-! ## The two layers as a whole -/

/-- What a user's document gives to a section is keyed. -/
theorem Document.keyed_rulesOf (content : List (String × Json)) : (rulesOf content).Keyed :=
  fun e he => (rulesSettled_rulesOf content e he).2.1

/-- A table in two layers answers as the list of the rules in force does, which has one rule for
each feature, in order: the user's, or the last definition. A scan under it detects what that list
tells. The rules for style sheets and for scripts are such tables. -/
theorem layered_exact (ignoreCase : Bool) (l : Language) (topics : List Topic) {custom : Dict Rule}
    (h : custom.Keyed) :
    ((merged topics custom).map fun e => e.1.id).Pairwise (· < ·) ∧
    (∀ id, (merged topics custom).find? (fun e => e.1.id == id) = inForce? topics custom id) ∧
    (LayeredTable.make ignoreCase (.ofTopics l topics) custom).Refines ignoreCase
      (merged topics custom) ∧
    (∀ reportUnknown source,
      (Style.scan (.make ignoreCase (.ofTopics l topics) custom) reportUnknown source).Detects
        topics custom ignoreCase (.ofString (Css.extract source).matchable) Style.shown?) ∧
    (∀ source,
      (Script.scan (.make ignoreCase (.ofTopics l topics) custom) source).Detects
        topics custom ignoreCase (.ofString (Script.withoutComments source)) Script.shown?) ∧
    Style.layered custom = .make true (.ofTopics .css Catalog.styleTopics) custom ∧
    Script.layered custom = .make false (.ofTopics .javaScript Catalog.scriptTopics) custom :=
  ⟨merged_increasing topics h, find?_merged topics h,
    LayeredTable.make_refines ignoreCase l topics h,
    detects_scan_style l topics h ignoreCase, detects_scan_script l topics h ignoreCase, rfl, rfl⟩

/-- Two topics, the second of which defines both features again. -/
def redefining : List Topic :=
  [⟨"first", [⟨"grid", "Grid", ["grid"], []⟩, ⟨"zoom", "Zoom", ["zoom"], []⟩]⟩,
    ⟨"second", [⟨"zoom", "Zooming", ["zoom"], []⟩, ⟨"grid", "Grids", ["rid"], []⟩]⟩]

/-- A section with a rule for one of them, the first pattern of which cannot be read. -/
def overriding : List (String × Json) :=
  [("zoom", .object [("patterns", .array [.string "(", .string "oom", .string "zoo"])])]

theorem layered_exact_overriding :
    (Document.rulesOf overriding).Keyed ∧
      (Script.scan (.make false (.ofTopics .javaScript redefining) (Document.rulesOf overriding))
        "grid(zoom)").details =
          [⟨"grid", "Grids", .pattern "rid"⟩, ⟨"zoom", "zoom", .pattern "oom"⟩] := by
  have hkeyed := Document.keyed_rulesOf overriding
  obtain ⟨-, -, -, -, hscript, -⟩ := layered_exact false .javaScript redefining hkeyed
  refine ⟨hkeyed, (hscript "grid(zoom)").details_eq.trans ?_⟩
  decide +kernel

end FeatureScan
