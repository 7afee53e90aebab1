import FeatureScan.Proofs.Markup.ClosedForm
import FeatureScan.Proofs.OneToOne

/-!
# The order of attributes

The attributes of an element have no order of their own, and which features a document shows does
not depend on the one that they are met in. The evidence does: of a feature the first finding is
kept, and where two attributes of one element lead to the same feature it is the order that decides
between them. This happens at the first place of a document that shows a feature, if the name of the
element there does not lead to it already. Everywhere else the details are the same in any order.

## Main results

* `mem_details_scanTree_iff`: of each feature the first finding at the first place is kept.
* `first?_of_reordered`: where no attributes vie for a feature, its first finding does not depend on
  the order.
* `details_of_shuffled`: what the order makes no difference to, and when it makes none to the
  details.
* `details_of_form_swapped`: two ways to write a form, with different evidence.
-/

namespace FeatureScan

/-! ## First findings -/

namespace ScanResult

/-- What is new of a row is the first finding of each feature that is not known. -/
theorem mem_newFindings_iff (known : NameSet) (ms : List Match) (m : Match) :
    m ∈ newFindings known ms ↔
      m.feature ∉ known.toList ∧ (ms.find? fun m' => m'.feature == m.feature) = some m := by
  induction ms generalizing known with
  | nil => simp [newFindings]
  | cons m' ms ih =>
      have hhas := NameSet.has_eq_true_iff known m'.feature
      rw [newFindings]
      by_cases hsame : m'.feature = m.feature
      · rw [List.find?_cons_of_pos (by simpa using hsame)]
        by_cases hknown : known.has m'.feature = true
        · have hmem := hhas.1 hknown
          rw [if_pos hknown, ih, ← hsame]
          exact iff_of_false (fun h => h.1 hmem) (fun h => h.1 hmem)
        · have hnew : m.feature ∉ known.toList := by
            rw [← hsame]
            exact fun hmem => hknown (hhas.2 hmem)
          rw [if_neg hknown, List.mem_cons, ih, NameSet.mem_add, Option.some_inj]
          grind
      · rw [List.find?_cons_of_neg (by simpa using hsame)]
        by_cases hknown : known.has m'.feature = true
        · rw [if_pos hknown, ih]
        · rw [if_neg hknown, List.mem_cons, ih, NameSet.mem_add]
          grind

/-- Of a row of findings the first one of each feature is kept. -/
theorem mem_details_foldl_record_iff (ms : List Match) (m : Match) :
    m ∈ (ms.foldl record .empty).details ↔
      (ms.find? fun m' => m'.feature == m.feature) = some m := by
  have hnone : m.feature ∉ ScanResult.empty.features.toList := List.not_mem_nil
  have hempty : ScanResult.empty.details = [] := rfl
  rw [details_foldl_record_eq, hempty, List.nil_append, mem_newFindings_iff]
  exact and_iff_right hnone

end ScanResult

/-- A search for the only value that there is to be found does not depend on the order. -/
theorem findSome?_of_perm {α β : Type} {l l' : List α} {f : α → Option β} (h : l'.Perm l)
    (hsame : ∀ a ∈ l, ∀ b ∈ l, ∀ v w, f a = some v → f b = some w → v = w) :
    l'.findSome? f = l.findSome? f := by
  have hvalue : ∀ l₁ : List α, (∀ a, a ∈ l₁ ↔ a ∈ l) → ∀ v,
      l₁.findSome? f = some v ↔ ∃ a ∈ l, f a = some v := by
    intro l₁ hmem v
    constructor
    · intro hv
      obtain ⟨a, ha, hfa⟩ := List.exists_of_findSome?_eq_some hv
      exact ⟨a, (hmem a).1 ha, hfa⟩
    · rintro ⟨a, ha, hfa⟩
      cases hfind : l₁.findSome? f with
      | none =>
          have hnot := List.findSome?_eq_none_iff.1 hfind a ((hmem a).2 ha)
          rw [hfa] at hnot
          cases hnot
      | some w =>
          obtain ⟨b, hb, hfb⟩ := List.exists_of_findSome?_eq_some hfind
          rw [hsame a ha b ((hmem b).1 hb) v w hfa hfb]
  refine Option.ext fun v => ?_
  rw [hvalue l' (fun a => h.mem_iff) v, hvalue l (fun _ => Iff.rfl) v]

namespace Markup

/-! ## Documents that differ in the order of attributes -/

mutual

/-- Two elements that differ in the order of attributes at most, each with everything in it. -/
inductive Element.Shuffled : Element → Element → Prop
  | mk {name : String} {attributes attributes' : List Attribute}
      {contents contents' children children' : List Element}
      (hattributes : attributes'.Perm attributes) (hcontents : Element.AllShuffled contents contents')
      (hchildren : Element.AllShuffled children children') :
    Shuffled (.mk name attributes contents children) (.mk name attributes' contents' children')

/-- Two rows of elements that differ in the order of attributes at most. -/
inductive Element.AllShuffled : List Element → List Element → Prop
  | nil : AllShuffled [] []
  | cons {e e' : Element} {es es' : List Element} (h : Element.Shuffled e e')
      (hs : AllShuffled es es') : AllShuffled (e :: es) (e' :: es')

end

/-- A place with its attributes put into another order. -/
def Place.rearranged (f : List Attribute → List Attribute) (p : Place) : Place :=
  { p with attributes := f p.attributes }

namespace Element

mutual

theorem Shuffled.placesOnto {e e' : Element} (h : e.Shuffled e') {later later' : List Place}
    (hlater : List.Forall₂ Place.Reordered later later') (parent? : Option String)
    (ancestors : List String) :
    List.Forall₂ Place.Reordered (placesOnto later parent? ancestors e)
      (Element.placesOnto later' parent? ancestors e') := by
  cases h with
  | mk hattributes hcontents hchildren =>
    rw [Element.placesOnto, Element.placesOnto]
    exact .cons ⟨rfl, rfl, rfl, hattributes⟩
      (hcontents.placesOnto (hchildren.placesOnto hlater _ _) _ _)

theorem AllShuffled.placesOnto {es es' : List Element} (h : AllShuffled es es')
    {later later' : List Place} (hlater : List.Forall₂ Place.Reordered later later')
    (parent? : Option String) (ancestors : List String) :
    List.Forall₂ Place.Reordered (allPlacesOnto later parent? ancestors es)
      (allPlacesOnto later' parent? ancestors es') := by
  cases h with
  | nil => exact hlater
  | cons h hs =>
    rw [allPlacesOnto, allPlacesOnto]
    exact h.placesOnto (hs.placesOnto hlater _ _) _ _

end

/-- The places of the two documents differ in the order of attributes alone. -/
theorem Shuffled.places {root root' : Element} (h : root.Shuffled root') :
    List.Forall₂ Place.Reordered root.places root'.places :=
  h.placesOnto .nil none []

mutual

/-- The element with the attributes everywhere in it put into another order. -/
def rearranged (f : List Attribute → List Attribute) : Element → Element
  | .mk name attributes contents children =>
    .mk name (f attributes) (allRearranged f contents) (allRearranged f children)

/-- The elements with the attributes everywhere in them put into another order. -/
def allRearranged (f : List Attribute → List Attribute) : List Element → List Element
  | [] => []
  | e :: es => rearranged f e :: allRearranged f es

end

section Rearranged

variable {f : List Attribute → List Attribute}

mutual

theorem shuffled_rearranged (hf : ∀ l, (f l).Perm l) (e : Element) :
    e.Shuffled (e.rearranged f) := by
  cases e with
  | mk name attributes contents children =>
    rw [rearranged]
    exact .mk (hf attributes) (allShuffled_allRearranged hf contents)
      (allShuffled_allRearranged hf children)

theorem allShuffled_allRearranged (hf : ∀ l, (f l).Perm l) (es : List Element) :
    AllShuffled es (allRearranged f es) := by
  cases es with
  | nil => exact .nil
  | cons e es =>
    rw [allRearranged]
    exact .cons (shuffled_rearranged hf e) (allShuffled_allRearranged hf es)

end

mutual

theorem placesOnto_rearranged (later : List Place) (parent? : Option String)
    (ancestors : List String) (e : Element) :
    placesOnto (later.map (Place.rearranged f)) parent? ancestors (e.rearranged f) =
      (placesOnto later parent? ancestors e).map (Place.rearranged f) := by
  cases e with
  | mk name attributes contents children =>
    rw [rearranged, placesOnto, placesOnto, allPlacesOnto_rearranged, allPlacesOnto_rearranged]
    rfl

theorem allPlacesOnto_rearranged (later : List Place) (parent? : Option String)
    (ancestors : List String) (es : List Element) :
    allPlacesOnto (later.map (Place.rearranged f)) parent? ancestors (allRearranged f es) =
      (allPlacesOnto later parent? ancestors es).map (Place.rearranged f) := by
  cases es with
  | nil => rfl
  | cons e es =>
    rw [allRearranged, allPlacesOnto, allPlacesOnto, allPlacesOnto_rearranged,
      placesOnto_rearranged]

end

theorem places_rearranged (root : Element) :
    (root.rearranged f).places = root.places.map (Place.rearranged f) :=
  placesOnto_rearranged [] none [] root

end Rearranged

end Element

/-! ## First findings at a place -/

namespace Rulebook

/-- The first thing that an attribute of an element gives for a feature. -/
def evidence? (r : Rulebook) (element x : String) (a : Attribute) : Option Match :=
  (r.findingsOf element a).find? fun m => m.feature == x

/-- The first thing that a place gives for a feature. -/
def first? (r : Rulebook) (x : String) (p : Place) : Option Match :=
  (r.findings detectors p).find? fun m => m.feature == x

/-- The name of the element comes first, then the attributes in order, then the detectors. -/
theorem first?_eq (r : Rulebook) (x : String) (p : Place) :
    r.first? x p =
      ((r.found? .elements (Text.asciiLower p.name) (.element (Text.asciiLower p.name))).toList.find?
        fun m => m.feature == x).or
      ((p.attributes.findSome? (r.evidence? (Text.asciiLower p.name) x)).or
        (((detectors.filter fun d => d.holds p).map detection).find? fun m => m.feature == x)) := by
  rw [first?, findings, List.find?_append, List.find?_append, List.find?_flatMap]
  rfl

/-- Of each feature the first finding at the first place that shows it is kept. -/
theorem mem_details_scanTree_iff (r : Rulebook) (reportUnknown : Bool) (root : Element) (m : Match) :
    m ∈ (r.scanTree reportUnknown root).details ↔
      root.places.findSome? (r.first? m.feature) = some m := by
  rw [scanTree, walk_eq, ScanResult.details_noting, ScanResult.mem_details_foldl_record_iff,
    List.find?_flatMap]
  rfl

variable {entries : Entries} {x : String} {p q : Place}

theorem isSome_first?_iff : ((make entries).first? x p).isSome = true ↔ FoundAt entries p x := by
  rw [first?, List.find?_isSome, ← exists_mem_findings_iff]
  simp

theorem first?_eq_none_iff : (make entries).first? x p = none ↔ ¬ FoundAt entries p x := by
  rw [← isSome_first?_iff]
  simp

/-- Two attributes of a place vie for a feature: the name of the element does not lead to it, and
each of the two gives evidence of its own. -/
structure Contested (entries : Entries) (p : Place) (x : String) : Prop where
  not_element : ¬ Leads entries .elements (Text.asciiLower p.name) x
  rivals : ∃ a ∈ p.attributes, ∃ b ∈ p.attributes, ∃ m m',
    (make entries).evidence? (Text.asciiLower p.name) x a = some m ∧
      (make entries).evidence? (Text.asciiLower p.name) x b = some m' ∧ m ≠ m'

/-- A name that does not lead to a feature gives no evidence for it. -/
theorem find?_found?_of_not_leads {kind : LookupKind} {key : String}
    (h : ¬ Leads entries kind key x) (evidence : Evidence) :
    (((make entries).found? kind key evidence).toList.find? fun m => m.feature == x) = none := by
  rw [List.find?_eq_none]
  intro m hm hx
  have hfound := Option.mem_toList.1 hm
  exact h ((exists_found?_iff key evidence x).1 ⟨m, hfound, by simpa using hx⟩)

theorem find?_found?_of_leads {kind : LookupKind} {key : String} (h : Leads entries kind key x)
    (evidence : Evidence) :
    ∃ m, (((make entries).found? kind key evidence).toList.find? fun m => m.feature == x) =
      some m := by
  obtain ⟨m, hfound, hx⟩ := (exists_found?_iff key evidence x).2 h
  exact ⟨m, by simp [hfound, hx]⟩

/-- Where no attributes vie for a feature, its first finding does not depend on their order. -/
theorem first?_of_reordered (hr : p.Reordered q) (hnames : p.NamesOnce)
    (h : ¬ Contested entries p x) : (make entries).first? x q = (make entries).first? x p := by
  rw [first?_eq, first?_eq, hr.name_eq]
  by_cases helement : Leads entries .elements (Text.asciiLower p.name) x
  · obtain ⟨m, hm⟩ := find?_found?_of_leads helement (.element (Text.asciiLower p.name))
    rw [hm, Option.some_or, Option.some_or]
  · have hsame : ∀ a ∈ p.attributes, ∀ b ∈ p.attributes, ∀ m m',
        (make entries).evidence? (Text.asciiLower p.name) x a = some m →
        (make entries).evidence? (Text.asciiLower p.name) x b = some m' → m = m' := by
      intro a ha b hb m m' hm hm'
      by_contra hne
      exact h ⟨helement, a, ha, b, hb, m, m', hm, hm', hne⟩
    have hdetectors : (detectors.filter fun d => d.holds q) = detectors.filter fun d => d.holds p :=
      List.filter_congr (holds_of_reordered hr hnames)
    rw [findSome?_of_perm hr.attributes_perm hsame, hdetectors]

/-! ## First findings in a document -/

/-- The first place of a document at which a feature is found. -/
def FirstPlace (entries : Entries) (places : List Place) (x : String) (p : Place) : Prop :=
  ∃ before after, places = before ++ p :: after ∧ FoundAt entries p x ∧
    ∀ q ∈ before, ¬ FoundAt entries q x

theorem FirstPlace.cons {places : List Place} (hq : ¬ FoundAt entries q x)
    (h : FirstPlace entries places x p) : FirstPlace entries (q :: places) x p := by
  obtain ⟨before, after, rfl, hfound, hbefore⟩ := h
  refine ⟨q :: before, after, rfl, hfound, ?_⟩
  intro q' hq'
  rcases List.mem_cons.1 hq' with rfl | hmem
  · exact hq
  · exact hbefore q' hmem

theorem foundAt_of_reordered (hr : p.Reordered q) (hnames : p.NamesOnce) :
    FoundAt entries q x ↔ FoundAt entries p x := by
  rw [← exists_mem_findings_iff, ← exists_mem_findings_iff]
  simp only [mem_findings_of_reordered (make entries) (.refl detectors) hr hnames]

/-- Where no attributes vie for a feature at the first place that shows it, its first finding in a
document does not depend on the order of attributes. -/
theorem findSome?_first?_of_shuffled {places places' : List Place}
    (h : List.Forall₂ Place.Reordered places places') (hnames : ∀ p ∈ places, p.NamesOnce)
    (hfirst : ∀ p, FirstPlace entries places x p → ¬ Contested entries p x) :
    places'.findSome? ((make entries).first? x) = places.findSome? ((make entries).first? x) := by
  induction h with
  | nil => rfl
  | @cons p q places places' hpq hrest ih =>
      have hp := hnames p List.mem_cons_self
      by_cases hfound : FoundAt entries p x
      · have hcontested : ¬ Contested entries p x :=
          hfirst p ⟨[], places, rfl, hfound, fun _ hq => absurd hq List.not_mem_nil⟩
        obtain ⟨m, hm⟩ := Option.isSome_iff_exists.1 (isSome_first?_iff.2 hfound)
        have hq := first?_of_reordered hpq hp hcontested
        rw [List.findSome?_cons, List.findSome?_cons, hq, hm]
      · have hnone := first?_eq_none_iff.2 hfound
        have hnone' := first?_eq_none_iff.2 (mt (foundAt_of_reordered hpq hp).1 hfound)
        rw [List.findSome?_cons, List.findSome?_cons, hnone, hnone']
        exact ih (fun p' hp' => hnames p' (List.mem_cons_of_mem p hp'))
          fun p' hp' => hfirst p' (hp'.cons hfound)

/-- The attributes with all that are equal to a given one put in front. -/
def withFirst (a : Attribute) (l : List Attribute) : List Attribute :=
  l.filter (fun b => decide (b = a)) ++ l.filter fun b => !decide (b = a)

theorem withFirst_perm (a : Attribute) (l : List Attribute) : (withFirst a l).Perm l :=
  List.filter_append_perm _ l

/-- With an attribute in front that gives a finding, that finding is the first among those of the
attributes. -/
theorem findSome?_withFirst {a : Attribute} {l : List Attribute} {f : Attribute → Option Match}
    {m : Match} (ha : a ∈ l) (hm : f a = some m) : (withFirst a l).findSome? f = some m := by
  have hfront : (l.filter fun b => decide (b = a)).findSome? f = some m := by
    have hmem : a ∈ l.filter fun b => decide (b = a) := by simpa using ha
    cases hfind : (l.filter fun b => decide (b = a)).findSome? f with
    | none =>
        have hnot := List.findSome?_eq_none_iff.1 hfind a hmem
        rw [hm] at hnot
        cases hnot
    | some m' =>
        obtain ⟨b, hb, hfb⟩ := List.exists_of_findSome?_eq_some hfind
        obtain rfl : b = a := by simpa using (List.mem_filter.1 hb).2
        rw [← hfb, hm]
  rw [withFirst, List.findSome?_append, hfront, Option.some_or]

/-- Each attribute that gives evidence for a feature at the first place that shows it is met first
in some order, if the name of the element does not lead to the feature. -/
theorem findSome?_first?_withFirst {places : List Place} (hnames : ∀ p ∈ places, p.NamesOnce)
    (hp : FirstPlace entries places x p)
    (helement : ¬ Leads entries .elements (Text.asciiLower p.name) x) {a : Attribute} {m : Match}
    (ha : a ∈ p.attributes)
    (hm : (make entries).evidence? (Text.asciiLower p.name) x a = some m) :
    (places.map (Place.rearranged (withFirst a))).findSome? ((make entries).first? x) =
      some m := by
  obtain ⟨before, after, rfl, -, hbefore⟩ := hp
  have hnone : (before.map (Place.rearranged (withFirst a))).findSome?
      ((make entries).first? x) = none := by
    rw [List.findSome?_eq_none_iff]
    intro q hq
    obtain ⟨p', hp', rfl⟩ := List.mem_map.1 hq
    have hreordered : p'.Reordered (p'.rearranged (withFirst a)) :=
      ⟨rfl, rfl, rfl, withFirst_perm a p'.attributes⟩
    have honce := hnames p' (List.mem_append_left _ hp')
    exact first?_eq_none_iff.2 (mt (foundAt_of_reordered hreordered honce).1 (hbefore p' hp'))
  have hhere : (make entries).first? x (p.rearranged (withFirst a)) = some m := by
    have hattributes := findSome?_withFirst ha hm
    rw [first?_eq, Place.rearranged]
    dsimp only
    rw [find?_found?_of_not_leads helement, Option.none_or, hattributes, Option.some_or]
  rw [List.map_append, List.findSome?_append, hnone, Option.none_or, List.map_cons,
    List.findSome?_cons, hhere]

/-! ## Details in any order -/

/-- A finding is described by its feature alone. -/
theorem description_of_mem_findings {r : Rulebook} {m : Match} (h : m ∈ r.findings detectors p) :
    m.description = Catalog.featureDescription m.feature := by
  rcases mem_findings_cases h with ⟨kind, key, evidence, hfound⟩ | ⟨d, -, rfl⟩
  · obtain ⟨_, -, rfl⟩ := Option.map_eq_some_iff.1 hfound
    rfl
  · rfl

/-- But for their evidence, the details are the features with their descriptions. -/
theorem exists_detail_iff (r : Rulebook) (reportUnknown : Bool) (root : Element) (x text : String) :
    (∃ m ∈ (r.scanTree reportUnknown root).details, m.feature = x ∧ m.description = text) ↔
      x ∈ (r.scanTree reportUnknown root).features.toList ∧ text = Catalog.featureDescription x := by
  have hstep := (built_walk r detectors reportUnknown root.places).inStep
  have hdescription : ∀ m ∈ (r.scanTree reportUnknown root).details,
      m.description = Catalog.featureDescription m.feature := by
    intro m hm
    have hfirst := (mem_details_scanTree_iff r reportUnknown root m).1 hm
    obtain ⟨p, -, hp⟩ := List.exists_of_findSome?_eq_some hfirst
    exact description_of_mem_findings (List.mem_of_find?_eq_some hp)
  constructor
  · rintro ⟨m, hm, rfl, rfl⟩
    exact ⟨(hstep.mem_features_iff m.feature).2 ⟨m, hm, rfl⟩, hdescription m hm⟩
  · rintro ⟨hx, rfl⟩
    obtain ⟨m, hm, rfl⟩ := (hstep.mem_features_iff x).1 hx
    exact ⟨m, hm, rfl, hdescription m hm⟩

/-- In whatever order the attributes of a document are met, it shows the same features under the
same descriptions, and the same names are unknown. The details are the same in every order if and
only if no two attributes vie for a feature at the first place that shows it. -/
theorem details_of_shuffled (d : Document) (reportUnknown : Bool) {root : Element}
    (hnames : ∀ p, root.HasPlace none [] p → p.NamesOnce) :
    (∀ root', root.Shuffled root' →
      ((make d.html).scanTree reportUnknown root').features =
        ((make d.html).scanTree reportUnknown root).features ∧
      ((make d.html).scanTree reportUnknown root').unrecognized =
        ((make d.html).scanTree reportUnknown root).unrecognized ∧
      ∀ x text, (∃ m ∈ ((make d.html).scanTree reportUnknown root').details,
          m.feature = x ∧ m.description = text) ↔
        ∃ m ∈ ((make d.html).scanTree reportUnknown root).details,
          m.feature = x ∧ m.description = text) ∧
    ((∀ root', root.Shuffled root' → ∀ m,
        m ∈ ((make d.html).scanTree reportUnknown root').details ↔
          m ∈ ((make d.html).scanTree reportUnknown root).details) ↔
      ∀ x p, FirstPlace d.html root.places x p → ¬ Contested d.html p x) := by
  have hplaces : ∀ p ∈ root.places, p.NamesOnce := by
    intro p hp
    exact hnames p ((Element.mem_places_iff root p).1 hp)
  refine ⟨?_, ?_, ?_⟩
  · intro root' hshuffled
    have hreordered : ReorderedPlaces root.places root'.places :=
      ⟨root.places, .refl _, hshuffled.places⟩
    have hfeatures := features_walk_of_reordered (make d.html) (.refl detectors) hreordered hplaces
      reportUnknown
    refine ⟨hfeatures, unrecognized_walk_of_reordered _ _ hreordered reportUnknown, ?_⟩
    intro x text
    rw [exists_detail_iff, exists_detail_iff, scanTree, hfeatures, scanTree]
  · -- Two attributes that vie for a feature are put first in turn: the feature has two details.
    intro hsame x p hp hcontested
    obtain ⟨helement, a, ha, b, hb, m, m', hm, hm', hne⟩ := hcontested
    have hkept : ∀ {a m}, a ∈ p.attributes →
        (make d.html).evidence? (Text.asciiLower p.name) x a = some m →
        root.places.findSome? ((make d.html).first? x) = some m := by
      intro a m ha hm
      have hx : m.feature = x := by simpa using List.find?_some hm
      have hfirst := findSome?_first?_withFirst hplaces hp helement ha hm
      rw [← Element.places_rearranged, ← hx, ← mem_details_scanTree_iff _ reportUnknown] at hfirst
      have hroot := (hsame _ (Element.shuffled_rearranged (withFirst_perm a) root) m).1 hfirst
      rw [mem_details_scanTree_iff, hx] at hroot
      exact hroot
    have heq := (hkept ha hm).symm.trans (hkept hb hm')
    exact hne (Option.some.inj heq)
  · intro hfirst root' hshuffled m
    rw [mem_details_scanTree_iff, mem_details_scanTree_iff,
      findSome?_first?_of_shuffled hshuffled.places hplaces (hfirst m.feature)]

/-- A form that has to be filled in, and need not be. -/
def formPlace : Place :=
  ⟨"form", [⟨"required", "", false⟩, ⟨"novalidate", "", false⟩], some "body", ["body", "html"]⟩

/-- A page with the form. -/
def formPage : Element :=
  .mk "html" [] [] [.mk "head" [] [] [], .mk "body" [] []
    [.mk "form" formPlace.attributes [] []]]

theorem details_of_shuffled_form :
    (∀ p, formPage.HasPlace none [] p → p.NamesOnce) ∧
    Contested Document.empty.html formPlace "form-validation" ∧
    ¬ ∀ root', formPage.Shuffled root' → ∀ m,
      m ∈ ((make Document.empty.html).scanTree true root').details ↔
        m ∈ ((make Document.empty.html).scanTree true formPage).details := by
  have hnames : ∀ p, formPage.HasPlace none [] p → p.NamesOnce := by
    have hplaces : ∀ p ∈ formPage.places, ∀ a ∈ p.attributes, ∀ b ∈ p.attributes,
        a.foreign = false → b.foreign = false → a.name = b.name → a.value = b.value := by
      decide
    intro p hp
    exact hplaces p ((Element.mem_places_iff formPage p).2 hp)
  have hcontested : Contested Document.empty.html formPlace "form-validation" := by
    refine ⟨?_, ⟨"required", "", false⟩, by decide, ⟨"novalidate", "", false⟩, by decide,
      ⟨"form-validation", Catalog.featureDescription "form-validation", .attribute "required"⟩,
      ⟨"form-validation", Catalog.featureDescription "form-validation", .attribute "novalidate"⟩,
      by decide +kernel, by decide +kernel, by decide⟩
    intro h
    cases h with
    | custom h => cases h
    | builtin _ h => exact absurd h (by decide)
  have hfirst : FirstPlace Document.empty.html formPage.places "form-validation" formPlace := by
    refine ⟨formPage.places.take 3, [], by decide, ?_, ?_⟩
    · exact .attributeName ⟨"required", "", false⟩ (by decide) (.builtin rfl (by decide))
    · have hnone : ∀ q ∈ formPage.places.take 3,
          (make Document.empty.html).first? "form-validation" q = none := by
        decide +kernel
      intro q hq
      exact first?_eq_none_iff.1 (hnone q hq)
  refine ⟨hnames, hcontested, fun hsame => ?_⟩
  exact (details_of_shuffled .empty true hnames).2.1 hsame _ _ hfirst hcontested

/-- Of one form, written in two ways that differ in the order of attributes, the evidence differs. -/
theorem details_of_form_swapped :
    (parse "<form required novalidate>").Shuffled (parse "<form novalidate required>") ∧
    ⟨"form-validation", Catalog.featureDescription "form-validation", .attribute "required"⟩ ∈
      ((Scanner.make {} .empty).scan .html "<form required novalidate>").details ∧
    ⟨"form-validation", Catalog.featureDescription "form-validation", .attribute "required"⟩ ∉
      ((Scanner.make {} .empty).scan .html "<form novalidate required>").details := by
  have hfirst : parse "<form required novalidate>" = formPage := by rfl
  have hsecond : parse "<form novalidate required>" =
      .mk "html" [] [] [.mk "head" [] [] [], .mk "body" [] []
        [.mk "form" [⟨"novalidate", "", false⟩, ⟨"required", "", false⟩] [] []]] := by rfl
  refine ⟨?_, by decide +kernel, by decide +kernel⟩
  rw [hfirst, hsecond]
  exact .mk .nil .nil (.cons (.mk .nil .nil .nil) (.cons (.mk .nil .nil
    (.cons (.mk (.swap _ _ _) .nil .nil) .nil)) .nil))

end Rulebook

end Markup

end FeatureScan
