import FeatureScan.Proofs.Merged
import FeatureScan.Proofs.Supported
import FeatureScan.Scanner
import FeatureScan.Store

/-!
# Whose a rule is

Whether the user has a rule or an entry is asked in three places: of the document, whose maps are
looked into; of the tables in two layers, into which the rules have been put anew under their own
features; and of the lookups of markup, which keep the entries by key. The answers agree on every
document that was read, and so do a store and the reports of a scanner made from its rules.

Only for features of markup is it one direction: an entry is asked for by its key or by its feature,
and a key that is no feature comes into no report.

## Main results

* `LayeredTable.layer?_make`: the layer of a feature, told from the rules.
* `LayeredTable.agrees_make`: what a table says of the user's rules.
* `Lookup.agrees_make`: what a lookup says of the user's entries.
* `Scanner.membership_agrees`: the document, the rules in force, the store and the reports agree.
-/

namespace FeatureScan

/-! ## Rules -/

namespace LayeredTable

/-- A table in two layers agrees with the builtin rules that it lies over, and with a test for the
features that the user has rules for. -/
structure Agrees (t : LayeredTable) (builtin : RuleTable) (isUsers : String → Bool) : Prop where
  layer_iff : ∀ id, isUsers id = true ↔ ∃ overrides, t.layer? id = some (.custom overrides)
  isCustom_eq : ∀ id, t.isCustom id = isUsers id
  origin_iff : ∀ id, isUsers id = true ↔ (t.origin? id).any Origin.userDefined = true
  isOverride_eq : ∀ id, t.isOverride id = (isUsers id && builtin.contains id)

/-- The user provides what the user's layer answers for. -/
theorem any_userDefined_origin? (t : LayeredTable) (id : String) :
    (t.origin? id).any Origin.userDefined = (t.layer? id).any Layer.isCustom := by
  rw [origin?, layer?, Option.any_map, Option.any_map]

section Make

variable (ignoreCase : Bool) (l : Language) (topics : List Topic) {custom : Dict Rule}

/-- The layer of a feature: the user's, if the user has a rule for it. -/
theorem layer?_make (h : custom.Keyed) (id : String) :
    (make ignoreCase (.ofTopics l topics) custom).layer? id =
      if custom.contains id then some (.custom ((RuleTable.ofTopics l topics).contains id))
      else if (RuleTable.ofTopics l topics).contains id then some .builtin else none := by
  rw [(make_refines ignoreCase l topics h).layer?_eq, find?_merged topics h, inForce?,
    RuleTable.contains_ofTopics, Dict.contains]
  cases custom.get? id with
  | some r => rfl
  | none =>
      rw [← List.isSome_find?]
      cases (RuleTable.defined topics).find? fun d => d.id == id <;> rfl

theorem isOverride_make (h : custom.Keyed) (id : String) :
    (make ignoreCase (.ofTopics l topics) custom).isOverride id =
      (custom.contains id && (RuleTable.ofTopics l topics).contains id) := by
  rw [(make_refines ignoreCase l topics h).isOverride_eq, find?_merged topics h, inForce?,
    RuleTable.contains_ofTopics, Dict.contains]
  cases custom.get? id with
  | some r => rfl
  | none => simp [Layer.isOverride, Option.any_map]

/-- Rules under their own features are found in the table as they are found in the document. -/
theorem agrees_make (h : custom.Keyed) :
    (make ignoreCase (.ofTopics l topics) custom).Agrees (.ofTopics l topics) custom.contains := by
  have hlayer := layer?_make ignoreCase l topics h
  have hcustom : ∀ id, custom.contains id =
      ((make ignoreCase (.ofTopics l topics) custom).layer? id).any Layer.isCustom := by
    intro id
    rw [hlayer id]
    cases custom.contains id with
    | true => rfl
    | false => cases (RuleTable.ofTopics l topics).contains id <;> rfl
  constructor
  · intro id
    constructor
    · intro hid
      exact ⟨_, by rw [hlayer id, if_pos hid]⟩
    · rintro ⟨overrides, hid⟩
      rw [hcustom, hid]
      rfl
  · intro id
    have hrefines := make_refines ignoreCase l topics h
    rw [hrefines.isCustom_eq, hcustom, hrefines.layer?_eq, Option.any_map]
  · intro id
    rw [any_userDefined_origin?, ← hcustom]
  · exact isOverride_make ignoreCase l topics h

end Make

end LayeredTable

/-! ## Entries -/

theorem Dict.contains_ofList {α : Type} (l : List (String × α)) (k : String) :
    (ofList l).contains k = true ↔ k ∈ l.map Prod.fst := by
  have hfold : ∀ (l : List (String × α)) (d : Dict α),
      (l.foldl (fun d e => d.insert e.1 e.2) d).contains k = true ↔
        k ∈ l.map Prod.fst ∨ d.contains k = true := by
    intro l
    induction l with
    | nil => simp
    | cons e l ih =>
        intro d
        rw [List.foldl_cons, ih, List.map_cons, List.mem_cons, contains, get?_insert]
        by_cases hk : e.1 = k
        · simp [hk]
        · simp [hk, Ne.symm hk, contains]
  rw [ofList, hfold l empty]
  simp [contains]

namespace Lookup

/-- A lookup agrees with the builtin pairs that it lies over, and with a test for the keys that the
user has entries for. -/
structure Agrees (l : Lookup) (pairs : List (String × String)) (isUsers : String → Bool) :
    Prop where
  layer_iff : ∀ key, isUsers key = true ↔ ∃ x overrides, l.get? key = some (x, .custom overrides)
  overrides_iff : ∀ key x overrides, l.get? key = some (x, .custom overrides) →
    (overrides = true ↔ key ∈ pairs.map Prod.fst)

/-- The user's layer of a lookup answers for the user's keys. -/
theorem get?_eq_custom_iff (l : Lookup) (key x : String) (overrides : Bool) :
    l.get? key = some (x, .custom overrides) ↔
      l.custom.get? key = some x ∧ l.builtin.contains key = overrides := by
  unfold get?
  cases l.custom.get? key with
  | some id => simp
  | none => simp

theorem agrees_make (pairs : List (String × String)) (custom : Dict String) :
    (make pairs custom).Agrees pairs custom.contains := by
  constructor
  · intro key
    simp only [get?_eq_custom_iff]
    rw [Dict.contains, Option.isSome_iff_exists]
    constructor
    · rintro ⟨x, hx⟩
      exact ⟨x, _, hx, rfl⟩
    · rintro ⟨x, overrides, hx, -⟩
      exact ⟨x, hx⟩
  · intro key x overrides hget
    obtain ⟨-, hbuiltin⟩ := (get?_eq_custom_iff _ key x overrides).1 hget
    rw [← hbuiltin]
    exact Dict.contains_ofList pairs key

end Lookup

/-- The user provides a feature that has an origin if some entry of the user leads to it. -/
theorem Markup.Rulebook.any_userDefined_origin?_iff (r : Rulebook) (x : String) :
    (r.origin? x).any Origin.userDefined = true ↔
      (r.origin? x).isSome = true ∧ r.userProvides x = true := by
  rw [origin?, Option.any_map, Option.isSome_map]
  cases r.category? x with
  | some c => simp
  | none => simp

/-- A feature that some entry leads to is found among the features of the document. -/
theorem Document.contains_of_userProvides (d : Document) {x : String}
    (h : (Markup.Rulebook.make d.html).userProvides x = true) : d.contains .html x none = true := by
  obtain ⟨kind, hkind, hprovides⟩ := List.any_eq_true.1 h
  rw [Markup.Rulebook.lookup_make] at hprovides
  exact List.any_eq_true.2 ⟨kind, hkind, Bool.or_eq_true_iff.2 (.inr hprovides)⟩

/-! ## Reports -/

/-- The custom features of a report are the features with an origin of the user's. -/
theorem Report.mem_customFeatures_iff (l : Language) (r : ScanResult) (origin : String → Option Origin)
    (x : String) : x ∈ (build l r origin).customFeatures ↔
      x ∈ r.features.toList ∧ (origin x).any Origin.userDefined = true :=
  List.mem_filter

namespace Scanner

section Make

variable {d : Document} (h : d.Settled) (options : ScanOptions)

include h

theorem css_agrees : (make options d).css.Agrees Style.builtinTable d.css.contains :=
  LayeredTable.agrees_make true .css Catalog.styleTopics h.css.keyed

theorem javaScript_agrees :
    (make options d).javaScript.Agrees Script.builtinTable d.javaScript.contains :=
  LayeredTable.agrees_make false .javaScript Catalog.scriptTopics h.javaScript.keyed

/-- Outside of markup the user provides a feature that the document has a rule for. -/
theorem any_userDefined_origin?_iff {l : Language} (hl : l ≠ .html) (kind? : Option LookupKind)
    (x : String) : ((make options d).origin? l x).any Origin.userDefined = true ↔
      d.contains l.ruleSection x kind? = true := by
  cases l with
  | css => exact ((css_agrees h options).origin_iff x).symm
  | javaScript => exact ((javaScript_agrees h options).origin_iff x).symm
  | html => exact absurd rfl hl

end Make

theorem contains_of_userDefined {d : Document} (options : ScanOptions) {x : String}
    (hx : ((make options d).origin? .html x).any Origin.userDefined = true) :
    d.contains .html x none = true :=
  d.contains_of_userProvides ((Markup.Rulebook.any_userDefined_origin?_iff _ x).1 hx).2

/-- On a document that was read, the test for a user's rule agrees with the layers of the tables and
lookups, with the origins of features, and with what is said to override a builtin rule. A store of
such rules agrees with the reports of a scanner made from them: the custom features of a report on
a style sheet or script are the features found that the store has rules for, and the store knows
each custom feature of a report on markup. -/
theorem membership_agrees {root : Json} {d : Document} (hd : Document.ofJson root = .ok d)
    (options : ScanOptions) :
    (∀ kind?, (make options d).css.Agrees Style.builtinTable (d.contains .css · kind?)) ∧
    (∀ kind?, (make options d).javaScript.Agrees Script.builtinTable
      (d.contains .javaScript · kind?)) ∧
    (∀ kind, ((make options d).html.lookup kind).Agrees (Catalog.builtinLookup kind)
      (d.contains .html · (some kind))) ∧
    (∀ x, ((make options d).origin? .html x).any Origin.userDefined = true →
      d.contains .html x none = true) ∧
    ∀ store : Store, store.rules = d → ∀ (r : ScanResult) (x : String),
      (∀ l, l ≠ .html → ∀ kind?,
        (x ∈ ((make options d).report l r).customFeatures ↔
          x ∈ r.features.toList ∧ store.isUserRule l.ruleSection x kind? = true)) ∧
      (x ∈ ((make options d).report .html r).customFeatures →
        store.isUserRule .html x none = true) := by
  have hsettled := Document.settled_of_ofJson? (Document.ofJson_eq_ok_iff.1 hd)
  refine ⟨fun _ => css_agrees hsettled options, fun _ => javaScript_agrees hsettled options, ?_,
    fun x => contains_of_userDefined options, ?_⟩
  · intro kind
    rw [make, Markup.Rulebook.lookup_make]
    exact Lookup.agrees_make _ _
  · intro store hstore r x
    rw [Store.isUserRule, hstore]
    constructor
    · intro l hl kind?
      rw [Store.isUserRule, hstore, report, Report.mem_customFeatures_iff,
        any_userDefined_origin?_iff hsettled options hl kind?]
    · intro hx
      exact contains_of_userDefined options ((Report.mem_customFeatures_iff _ _ _ _).1 hx).2

/-- An object with a rule for a builtin feature, one for a feature of the user's own, and an entry
whose key is written in capitals. -/
def blendedRoot : Json :=
  .object [("css", .object [("flexbox", .object [("patterns", .string "flex")]),
      ("tilt", .object [("patterns", .string "tilt")])]),
    ("html", .object [("elements", .object [("DIALOG", .string "modal")])])]

/-- The document that is read from it. -/
def blendedDocument : Document where
  css := .ofList [("flexbox", ⟨"flexbox", ["flex"], "flexbox", customCategory, []⟩),
    ("tilt", ⟨"tilt", ["tilt"], "tilt", customCategory, []⟩)]
  html := { elements := .ofList [("dialog", "modal")] }

theorem membership_agrees_blended :
    Document.ofJson blendedRoot = .ok blendedDocument ∧
    (∃ overrides, (make {} blendedDocument).css.layer? "flexbox" = some (.custom overrides)) ∧
    (make {} blendedDocument).css.isOverride "flexbox" = true ∧
    (make {} blendedDocument).css.isOverride "tilt" = false ∧
    (∃ x, ((make {} blendedDocument).html.lookup .elements).get? "dialog" =
      some (x, .custom true)) ∧
    "tilt" ∈ ((make {} blendedDocument).report .css
      { features := .ofNames ["css-grid", "tilt"] }).customFeatures := by
  have hroot : Document.ofJson blendedRoot = .ok blendedDocument := by rfl
  obtain ⟨hcss, -, hhtml, -, hreport⟩ := membership_agrees hroot {}
  obtain ⟨hlayer, -, -, hoverride⟩ := hcss none
  obtain ⟨hkey, hflag⟩ := hhtml .elements
  have hbuiltin : ∀ id, Style.builtinTable.contains id =
      (RuleTable.defined Catalog.styleTopics).any fun r => r.id == id :=
    RuleTable.contains_ofTopics .css Catalog.styleTopics
  obtain ⟨x, overrides, hget⟩ := (hkey "dialog").1 (by decide)
  have hoverrides : overrides = true := (hflag "dialog" x overrides hget).2 (by decide)
  refine ⟨hroot, (hlayer "flexbox").1 (by decide), ?_, ?_, ⟨x, by rw [hget, hoverrides]⟩, ?_⟩
  · rw [hoverride, hbuiltin]
    decide +kernel
  · rw [hoverride, hbuiltin]
    decide +kernel
  · have hstore := (hreport ⟨"rules.json", true, blendedDocument, 1⟩ rfl
      { features := .ofNames ["css-grid", "tilt"] } "tilt").1 .css (by decide) none
    exact hstore.2 ⟨by decide, by decide⟩

end Scanner

end FeatureScan
