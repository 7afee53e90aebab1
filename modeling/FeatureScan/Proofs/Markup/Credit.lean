import FeatureScan.Proofs.Markup.ClosedForm
import FeatureScan.Proofs.Membership

/-!
# Credit for features of markup

A report credits the user with a feature if some entry of the user leads to it. It is made of a
result, in which a feature no longer tells what it was found through: the entry that earns the
credit need not be one that the document has anything for. So every feature that an entry of the
user was hit for is credited, and with it each feature that was found through builtin entries and
detectors alone while an entry of the user for it lies idle.

## Main results

* `foundAt_iff`: a place leads to a feature by a key that it asks for, or by a detector.
* `Element.mem_features_iff`: what is found is found through the user's entries or without them.
* `Scanner.customFeatures_markup`: which features of a document are credited to the user, and when
  all of them are credited truthfully.
* `Scanner.credit_of_idle_entry`: a page that hits no entry of the user, with a credited feature.
-/

namespace FeatureScan

namespace Markup

/-! ## Keys -/

/-- A place asks the lookups for keys: the name of the element; of each attribute the name, its
value where it is the type of an input, the value together with the name, and each of the relations
that it states. -/
inductive Place.Asks (p : Place) : LookupKind → String → Prop
  | elementName : Asks p .elements (Text.asciiLower p.name)
  | attributeName (a : Attribute) (ha : a ∈ p.attributes) :
    Asks p .attributes (Text.asciiLower a.name)
  | inputType (a : Attribute) (ha : a ∈ p.attributes) (hinput : Text.asciiLower p.name = "input")
      (htype : Text.asciiLower a.name = "type") : Asks p .inputTypes (plainValue "type" a.value)
  | value (a : Attribute) (ha : a ∈ p.attributes)
      (hvalue : plainValue (Text.asciiLower a.name) a.value ≠ "") :
    Asks p .attributeValues
      (Text.asciiLower a.name ++ ":" ++ plainValue (Text.asciiLower a.name) a.value)
  | relation (a : Attribute) (ha : a ∈ p.attributes) (hrel : Text.asciiLower a.name = "rel")
      (token : String) (htoken : token ∈ Text.words (plainValue "rel" a.value)) :
    Asks p .attributeValues ("rel:" ++ token)

/-- A place leads to a feature by a key that it asks for, or by a detector. -/
theorem foundAt_iff (entries : Entries) (p : Place) (x : String) :
    FoundAt entries p x ↔
      (∃ kind key, p.Asks kind key ∧ Leads entries kind key x) ∨
        ∃ d ∈ detectors, d.holds p = true ∧ d.feature = x := by
  constructor
  · intro h
    cases h with
    | elementName h => exact .inl ⟨_, _, .elementName, h⟩
    | attributeName a ha h => exact .inl ⟨_, _, .attributeName a ha, h⟩
    | inputType a ha hinput htype h => exact .inl ⟨_, _, .inputType a ha hinput htype, h⟩
    | value a ha hvalue h => exact .inl ⟨_, _, .value a ha hvalue, h⟩
    | relation a ha hrel token htoken h =>
        exact .inl ⟨_, _, .relation a ha hrel token htoken, h⟩
    | detector d hd h => exact .inr ⟨d, hd, h, rfl⟩
  · rintro (⟨kind, key, hasks, h⟩ | ⟨d, hd, hholds, rfl⟩)
    · cases hasks with
      | elementName => exact .elementName h
      | attributeName a ha => exact .attributeName a ha h
      | inputType a ha hinput htype => exact .inputType a ha hinput htype h
      | value a ha hvalue => exact .value a ha hvalue h
      | relation a ha hrel token htoken => exact .relation a ha hrel token htoken h
    · exact .detector d hd hholds

/-! ## Documents -/

namespace Element

/-- A document hits an entry of the user for a feature: some place of it asks for the key. -/
def HitsEntry (root : Element) (entries : Entries) (x : String) : Prop :=
  ∃ p, root.HasPlace none [] p ∧
    ∃ kind key, p.Asks kind key ∧ (entries.get kind).get? key = some x

/-- A document shows a feature without the user: some place of it asks for the key of a builtin
entry that is in force, or a detector holds there. -/
def ShowsBuiltin (root : Element) (entries : Entries) (x : String) : Prop :=
  ∃ p, root.HasPlace none [] p ∧
    ((∃ kind key, p.Asks kind key ∧ (entries.get kind).get? key = none ∧
        (key, x) ∈ Catalog.builtinLookup kind) ∨
      ∃ d ∈ detectors, d.holds p = true ∧ d.feature = x)

/-- What is found in a document is what it hits an entry of the user for, and what it shows without
the user. -/
theorem mem_features_iff (root : Element) (entries : Entries) (reportUnknown : Bool) (x : String) :
    x ∈ ((Rulebook.make entries).scanTree reportUnknown root).features.toList ↔
      root.HitsEntry entries x ∨ root.ShowsBuiltin entries x := by
  have hleads : ∀ kind key, Leads entries kind key x ↔ (entries.get kind).get? key = some x ∨
      (entries.get kind).get? key = none ∧ (key, x) ∈ Catalog.builtinLookup kind := by
    intro kind key
    constructor
    · intro h
      cases h with
      | custom h => exact .inl h
      | builtin hnone h => exact .inr ⟨hnone, h⟩
    · rintro (h | ⟨hnone, h⟩)
      · exact .custom h
      · exact .builtin hnone h
  rw [Rulebook.scanTree, Rulebook.mem_features_walk]
  simp only [Rulebook.exists_mem_findings_iff, mem_places_iff, foundAt_iff, hleads, HitsEntry,
    ShowsBuiltin]
  constructor
  · rintro ⟨p, hp, ⟨kind, key, hasks, hcustom | hbuiltin⟩ | hdetector⟩
    · exact .inl ⟨p, hp, kind, key, hasks, hcustom⟩
    · exact .inr ⟨p, hp, .inl ⟨kind, key, hasks, hbuiltin⟩⟩
    · exact .inr ⟨p, hp, .inr hdetector⟩
  · rintro (⟨p, hp, kind, key, hasks, hcustom⟩ | ⟨p, hp, ⟨kind, key, hasks, hbuiltin⟩ | hdetector⟩)
    · exact ⟨p, hp, .inl ⟨kind, key, hasks, .inl hcustom⟩⟩
    · exact ⟨p, hp, .inl ⟨kind, key, hasks, .inr hbuiltin⟩⟩
    · exact ⟨p, hp, .inr hdetector⟩

end Element

/-! ## Entries of the user -/

/-- Some entry of the user leads to a feature, whether or not a document hits it. -/
def HasEntryFor (entries : Entries) (x : String) : Prop :=
  ∃ kind key, (entries.get kind).get? key = some x

theorem Element.HitsEntry.hasEntryFor {root : Element} {entries : Entries} {x : String}
    (h : root.HitsEntry entries x) : HasEntryFor entries x := by
  obtain ⟨p, -, kind, key, -, hget⟩ := h
  exact ⟨kind, key, hget⟩

theorem Rulebook.userProvides_make_iff (entries : Entries) (x : String) :
    (make entries).userProvides x = true ↔ HasEntryFor entries x := by
  rw [userProvides, List.any_eq_true]
  simp only [lookup_make, Lookup.userProvides, layered, Lookup.make, List.contains_iff_mem,
    Dict.mem_values_iff]
  constructor
  · rintro ⟨kind, -, key, h⟩
    exact ⟨kind, key, h⟩
  · rintro ⟨kind, key, h⟩
    exact ⟨kind, LookupKind.mem_all kind, key, h⟩

end Markup

/-! ## Reports -/

namespace Scanner

open Markup

variable (d : Document) (options : ScanOptions) (source : String)

/-- The features that the report on a text of markup credits to the user. -/
def creditedFeatures : List String :=
  ((make options d).report .html ((make options d).scan .html source)).customFeatures

theorem mem_features_scan_html (x : String) :
    x ∈ ((make options d).scan .html source).features.toList ↔
      (parse source).HitsEntry d.html x ∨ (parse source).ShowsBuiltin d.html x :=
  Element.mem_features_iff (parse source) d.html options.reportUnknown x

/-- A feature that was found is credited if some entry of the user leads to it. -/
theorem mem_creditedFeatures_iff (x : String) :
    x ∈ creditedFeatures d options source ↔
      x ∈ ((make options d).scan .html source).features.toList ∧ HasEntryFor d.html x := by
  rw [creditedFeatures, report, Report.mem_customFeatures_iff]
  refine and_congr_right fun hfound => ?_
  have hsupported : x ∈ (make options d).html.supported :=
    (scan_within (make options d) .html source).features x hfound
  have horigin := (Rulebook.isSome_origin?_iff (make options d).html x).2 hsupported
  rw [← Rulebook.userProvides_make_iff]
  exact (Rulebook.any_userDefined_origin?_iff _ x).trans (and_iff_right horigin)

/-- The features found in a document are those that it hits an entry of the user for and those that
it shows without the user; the ones credited to the user are the former, and of the latter each for
which the user has any entry. So exactly those that an entry of the user was hit for are credited
if and only if no feature that the document shows without the user has nothing but idle entries. -/
theorem customFeatures_markup :
    (∀ x, x ∈ ((make options d).scan .html source).features.toList ↔
      (parse source).HitsEntry d.html x ∨ (parse source).ShowsBuiltin d.html x) ∧
    (∀ x, x ∈ creditedFeatures d options source ↔
      (parse source).HitsEntry d.html x ∨
        (parse source).ShowsBuiltin d.html x ∧ HasEntryFor d.html x) ∧
    ((∀ x, x ∈ creditedFeatures d options source ↔
        x ∈ ((make options d).scan .html source).features.toList ∧
          (parse source).HitsEntry d.html x) ↔
      ∀ x, (parse source).ShowsBuiltin d.html x → HasEntryFor d.html x →
        (parse source).HitsEntry d.html x) := by
  have hfound := mem_features_scan_html d options source
  have hcredited : ∀ x, x ∈ creditedFeatures d options source ↔
      (parse source).HitsEntry d.html x ∨
        (parse source).ShowsBuiltin d.html x ∧ HasEntryFor d.html x := by
    intro x
    rw [mem_creditedFeatures_iff, hfound, or_and_right]
    exact or_congr_left (and_iff_left_of_imp Element.HitsEntry.hasEntryFor)
  refine ⟨hfound, hcredited, ?_, ?_⟩
  · intro htruthful x hshows hentry
    exact ((htruthful x).1 ((hcredited x).2 (.inr ⟨hshows, hentry⟩))).2
  · intro hidle x
    rw [hcredited, hfound]
    constructor
    · rintro (hhits | ⟨hshows, hentry⟩)
      · exact ⟨.inl hhits, hhits⟩
      · exact ⟨.inr hshows, hidle x hshows hentry⟩
    · intro h
      exact .inl h.2

/-- An object with an entry for an element that leads to a builtin feature. -/
def idleRoot : Json :=
  .object [("html", .object [("elements", .object [("x-player", .string "video")])])]

/-- The document that is read from it. -/
def idleDocument : Document := { html := { elements := .ofList [("x-player", "video")] } }

/-- On a page without the element of the user's entry, the feature is credited to the user
nevertheless. -/
theorem credit_of_idle_entry :
    Document.ofJson idleRoot = .ok idleDocument ∧
    ¬ (parse "<video></video>").HitsEntry idleDocument.html "video" ∧
    creditedFeatures idleDocument {} "<video></video>" = ["video"] := by
  refine ⟨rfl, ?_, by decide +kernel⟩
  rintro ⟨p, hp, kind, key, hasks, hget⟩
  have hplaces : ∀ q ∈ (parse "<video></video>").places, Text.asciiLower q.name ≠ "x-player" := by
    decide +kernel
  have hmem := (Dict.get?_eq_some_iff _ key _).1 hget
  cases kind with
  | elements =>
      obtain rfl : key = "x-player" := congrArg Prod.fst (List.mem_singleton.1 hmem)
      generalize hkey : "x-player" = key at hasks
      cases hasks
      exact hplaces p ((Element.mem_places_iff _ p).2 hp) hkey.symm
  | attributes => cases hmem
  | inputTypes => cases hmem
  | attributeValues => cases hmem

end Scanner

end FeatureScan
