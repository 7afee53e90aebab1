import FeatureScan.Proofs.Markup.Walk
import FeatureScan.Scanner
import Mathlib.Data.List.Forall2

/-!
# What is found in a document

The walk through a document looks up keys that it makes of names and values, passes over what has
been found before, and takes elements, attributes and detectors in a certain order. What it finds
can be told without the walk: it is what the entries in force and the detectors give at some place
of the document, and what is reported as unknown has no entry in force at all.

## Main results

* `Element.mem_places_iff`: the places are those of the root and of all elements below it.
* `exists_get?_layered_iff`: the lookups answer with the entries in force.
* `mem_knownAttributes_iff`: the attributes that the lookups know.
* `holds_of_reordered`: no detector depends on the order of the attributes.
* `scanTree_closed_form`: what is found and what is reported, without the walk.
-/

namespace FeatureScan

/-- The keys of a lookup are those that it has a feature for. -/
theorem Lookup.mem_keys_iff (l : Lookup) (key : String) :
    key ∈ l.keys ↔ l.contains key = true := by
  have hremaining : key ∈ l.remaining.keys ↔
      l.builtin.contains key = true ∧ l.custom.contains key = false := by
    rw [Dict.contains_eq_true_iff]
    simp only [remaining, Dict.filter, Dict.keys, List.mem_map, List.mem_filter]
    grind
  rw [keys, List.mem_append, hremaining, ← Dict.contains_eq_true_iff, contains]
  cases l.custom.contains key <;> simp

namespace Markup

/-! ## Places -/

/-- A place is that of an element under a given parent and inside given elements, or that of an
element below it. What a template holds lies inside the template, but has no parent. -/
inductive Element.HasPlace : Element → Option String → List String → Place → Prop
  | here {name : String} {attributes : List Attribute} {contents children : List Element}
      {parent? : Option String} {ancestors : List String} :
    HasPlace (.mk name attributes contents children) parent? ancestors
      ⟨name, attributes, parent?, ancestors⟩
  | child {name : String} {attributes : List Attribute} {contents children : List Element}
      {parent? : Option String} {ancestors : List String} {e : Element} {p : Place}
      (he : e ∈ children) (h : HasPlace e (some name) (name :: ancestors) p) :
    HasPlace (.mk name attributes contents children) parent? ancestors p
  | content {name : String} {attributes : List Attribute} {contents children : List Element}
      {parent? : Option String} {ancestors : List String} {e : Element} {p : Place}
      (he : e ∈ contents) (h : HasPlace e none (name :: ancestors) p) :
    HasPlace (.mk name attributes contents children) parent? ancestors p

namespace Element

theorem hasPlace_mk_iff {name : String} {attributes : List Attribute}
    {contents children : List Element} {parent? : Option String} {ancestors : List String}
    {p : Place} :
    HasPlace (.mk name attributes contents children) parent? ancestors p ↔
      p = ⟨name, attributes, parent?, ancestors⟩ ∨
        (∃ e ∈ children, HasPlace e (some name) (name :: ancestors) p) ∨
          ∃ e ∈ contents, HasPlace e none (name :: ancestors) p := by
  constructor
  · intro h
    cases h with
    | here => exact .inl rfl
    | child he h => exact .inr (.inl ⟨_, he, h⟩)
    | content he h => exact .inr (.inr ⟨_, he, h⟩)
  · rintro (rfl | ⟨e, he, h⟩ | ⟨e, he, h⟩)
    · exact .here
    · exact .child he h
    · exact .content he h

mutual

theorem mem_placesOnto_iff (parent? : Option String) (ancestors : List String) (e : Element)
    (p : Place) :
    p ∈ placesOnto [] parent? ancestors e ↔ e.HasPlace parent? ancestors p := by
  cases e with
  | mk name attributes contents children =>
    rw [placesOnto, allPlacesOnto_eq _ none, allPlacesOnto_eq _ (some name), List.mem_cons,
      List.mem_append, List.append_nil, mem_allPlacesOnto_iff none, mem_allPlacesOnto_iff (some name),
      hasPlace_mk_iff]
    grind

theorem mem_allPlacesOnto_iff (parent? : Option String) (ancestors : List String)
    (es : List Element) (p : Place) :
    p ∈ allPlacesOnto [] parent? ancestors es ↔ ∃ e ∈ es, e.HasPlace parent? ancestors p := by
  cases es with
  | nil => simp [allPlacesOnto]
  | cons e es =>
    rw [allPlacesOnto, placesOnto_eq, List.mem_append, mem_placesOnto_iff, mem_allPlacesOnto_iff]
    simp

end

/-- The places of a document are those of the root and of all elements below it. -/
theorem mem_places_iff (root : Element) (p : Place) :
    p ∈ root.places ↔ root.HasPlace none [] p :=
  mem_placesOnto_iff none [] root p

end Element

/-! ## Entries in force -/

/-- An entry in force leads from a key to a feature: an entry of the user, or a builtin entry for a
key that the user has no entry for. -/
inductive Leads (entries : Entries) (kind : LookupKind) (key x : String) : Prop
  | custom (h : (entries.get kind).get? key = some x)
  | builtin (hnone : (entries.get kind).get? key = none)
      (h : (key, x) ∈ Catalog.builtinLookup kind)

/-- Some rule is for an attribute: an entry in force has its name as the key, or its name and a
value; a name with a colon is never taken for a name and a value. -/
inductive KnownAttribute (entries : Entries) (name : String) : Prop
  | named (x : String) (h : Leads entries .attributes name x)
  | valued (value x : String) (hcolon : ':' ∉ name.toList)
      (h : Leads entries .attributeValues (name ++ ":" ++ value) x)

/-! ## What a place leads to -/

/-- What leads to a feature at a place: the name of the element; the name of an attribute, its value
where it is the type of an input, its value together with the name, or a relation among several that
it states; or a detector. -/
inductive FoundAt (entries : Entries) (p : Place) : String → Prop
  | elementName {x : String} (h : Leads entries .elements (Text.asciiLower p.name) x) :
    FoundAt entries p x
  | attributeName {x : String} (a : Attribute) (ha : a ∈ p.attributes)
      (h : Leads entries .attributes (Text.asciiLower a.name) x) : FoundAt entries p x
  | inputType {x : String} (a : Attribute) (ha : a ∈ p.attributes)
      (hinput : Text.asciiLower p.name = "input") (htype : Text.asciiLower a.name = "type")
      (h : Leads entries .inputTypes (plainValue "type" a.value) x) : FoundAt entries p x
  | value {x : String} (a : Attribute) (ha : a ∈ p.attributes)
      (hvalue : plainValue (Text.asciiLower a.name) a.value ≠ "")
      (h : Leads entries .attributeValues
        (Text.asciiLower a.name ++ ":" ++ plainValue (Text.asciiLower a.name) a.value) x) :
    FoundAt entries p x
  | relation {x : String} (a : Attribute) (ha : a ∈ p.attributes)
      (hrel : Text.asciiLower a.name = "rel") (token : String)
      (htoken : token ∈ Text.words (plainValue "rel" a.value))
      (h : Leads entries .attributeValues ("rel:" ++ token) x) : FoundAt entries p x
  | detector (d : Detector) (hd : d ∈ detectors) (h : d.holds p = true) :
    FoundAt entries p d.feature

/-- What is reported at a place: an element with a hyphen that no entry is for, unless it belongs to
drawings and formulas, and an attribute that no rule is for and that is not plain. -/
inductive ReportedAt (entries : Entries) (p : Place) : String → Prop
  | elementName (hhyphen : '-' ∈ (Text.asciiLower p.name).toList)
      (hforeign : Text.asciiLower p.name ∉ hyphenatedElements)
      (hnone : ∀ x, ¬ Leads entries .elements (Text.asciiLower p.name) x) :
    ReportedAt entries p ("element: <" ++ Text.asciiLower p.name ++ ">")
  | attributeName (a : Attribute) (ha : a ∈ p.attributes)
      (hunknown : ¬ KnownAttribute entries (Text.asciiLower a.name))
      (hplain : isPlainAttribute (Text.asciiLower a.name) = false) :
    ReportedAt entries p ("attribute: " ++ Text.asciiLower a.name)

namespace Rulebook

variable {entries : Entries} {kind : LookupKind}

/-! ## Lookups -/

/-- A lookup answers with the entry in force. -/
theorem exists_get?_layered_iff (key x : String) :
    (∃ layer, (layered entries kind).get? key = some (x, layer)) ↔ Leads entries kind key x := by
  have hbuiltin : (Dict.ofList (Catalog.builtinLookup kind)).get? key = some x ↔
      (key, x) ∈ Catalog.builtinLookup kind :=
    Dict.get?_ofList_eq_some_iff (Catalog.builtinLookup_keys_nodup kind) key x
  rw [layered, Lookup.make, Lookup.get?]
  dsimp only
  cases hcustom : (entries.get kind).get? key with
  | some id =>
      constructor
      · rintro ⟨layer, heq⟩
        cases heq
        exact .custom hcustom
      · intro h
        cases h with
        | custom h =>
            rw [hcustom] at h
            cases h
            exact ⟨_, rfl⟩
        | builtin hnone h =>
            rw [hcustom] at hnone
            cases hnone
  | none =>
      constructor
      · rintro ⟨layer, heq⟩
        obtain ⟨id, hid, hpair⟩ := Option.map_eq_some_iff.1 heq
        cases hpair
        exact .builtin hcustom (hbuiltin.1 hid)
      · intro h
        cases h with
        | custom h =>
            rw [hcustom] at h
            cases h
        | builtin hnone h =>
            rw [hbuiltin.2 h]
            exact ⟨_, rfl⟩

theorem contains_layered_iff (key : String) :
    (layered entries kind).contains key = true ↔ ∃ x, Leads entries kind key x := by
  rw [← Lookup.isSome_get?, Option.isSome_iff_exists]
  simp only [← exists_get?_layered_iff, Prod.exists]

theorem exists_found?_iff (key : String) (evidence : Evidence) (x : String) :
    (∃ m, (make entries).found? kind key evidence = some m ∧ m.feature = x) ↔
      Leads entries kind key x := by
  rw [← exists_get?_layered_iff, found?, lookup_make]
  cases (layered entries kind).get? key with
  | none => simp
  | some p => simp [Prod.ext_iff]

/-! ## Findings at a place -/

theorem exists_pairFinding?_iff (name value x : String) :
    (∃ m, (make entries).pairFinding? name value = some m ∧ m.feature = x) ↔
      value ≠ "" ∧ Leads entries .attributeValues (name ++ ":" ++ value) x := by
  rw [pairFinding?]
  by_cases hvalue : value = ""
  · simp [hvalue]
  · have hempty : value.isEmpty = false := by simpa [String.isEmpty_iff] using hvalue
    rw [hempty, if_neg (by decide), exists_found?_iff, pairKey]
    exact (and_iff_right hvalue).symm

theorem exists_inputFinding?_iff (element name value x : String) :
    (∃ m, (make entries).inputFinding? element name value = some m ∧ m.feature = x) ↔
      element = "input" ∧ name = "type" ∧ Leads entries .inputTypes value x := by
  rw [inputFinding?]
  by_cases h : element = "input" ∧ name = "type"
  · rw [if_pos (by simpa using h), exists_found?_iff]
    exact ⟨fun hleads => ⟨h.1, h.2, hleads⟩, fun hall => hall.2.2⟩
  · rw [if_neg (by simpa using h)]
    constructor
    · rintro ⟨m, hm, -⟩
      cases hm
    · intro hall
      exact absurd ⟨hall.1, hall.2.1⟩ h

theorem exists_mem_relationFindings_iff (name value x : String) :
    (∃ m ∈ (make entries).relationFindings name value, m.feature = x) ↔
      name = "rel" ∧ ∃ token ∈ Text.words value,
        Leads entries .attributeValues (name ++ ":" ++ token) x := by
  rw [relationFindings]
  by_cases hrel : name = "rel"
  · have hword : ∀ token ∈ Text.words value,
        ((∃ m, (make entries).pairFinding? name token = some m ∧ m.feature = x) ↔
          Leads entries .attributeValues (name ++ ":" ++ token) x) := by
      intro token htoken
      have hne : token ≠ "" := by
        simpa [String.isEmpty_iff] using Text.isEmpty_of_mem_words htoken
      rw [exists_pairFinding?_iff]
      exact and_iff_right hne
    rw [if_pos (by simpa using hrel)]
    simp only [List.mem_filterMap]
    grind
  · rw [if_neg (by simpa using hrel)]
    simp [hrel]

/-- What an attribute leads to, clause by clause. -/
theorem exists_mem_attributeFindings_iff (element name value x : String) :
    (∃ m ∈ (make entries).attributeFindings element name value, m.feature = x) ↔
      Leads entries .attributes name x ∨
      (element = "input" ∧ name = "type" ∧ Leads entries .inputTypes value x) ∨
      (value ≠ "" ∧ Leads entries .attributeValues (name ++ ":" ++ value) x) ∨
      (name = "rel" ∧ ∃ token ∈ Text.words value,
        Leads entries .attributeValues (name ++ ":" ++ token) x) := by
  rw [← exists_found?_iff name (.attribute name), ← exists_inputFinding?_iff,
    ← exists_pairFinding?_iff, ← exists_mem_relationFindings_iff]
  simp only [attributeFindings, List.mem_append, Option.mem_toList]
  grind

theorem exists_mem_findings_iff (p : Place) (x : String) :
    (∃ m ∈ (make entries).findings detectors p, m.feature = x) ↔ FoundAt entries p x := by
  have hsplit : (∃ m ∈ (make entries).findings detectors p, m.feature = x) ↔
      (∃ m, (make entries).found? .elements (Text.asciiLower p.name)
          (.element (Text.asciiLower p.name)) = some m ∧ m.feature = x) ∨
        (∃ a ∈ p.attributes, ∃ m ∈ (make entries).findingsOf (Text.asciiLower p.name) a,
          m.feature = x) ∨
        ∃ d ∈ detectors, d.holds p = true ∧ d.feature = x := by
    simp only [findings, List.mem_append, Option.mem_toList, List.mem_flatMap, List.mem_map,
      List.mem_filter]
    constructor
    · rintro ⟨m, hm | ⟨a, ha, hm⟩ | ⟨d, hd, rfl⟩, hx⟩
      · exact .inl ⟨m, hm, hx⟩
      · exact .inr (.inl ⟨a, ha, m, hm, hx⟩)
      · exact .inr (.inr ⟨d, hd.1, hd.2, hx⟩)
    · rintro (⟨m, hm, hx⟩ | ⟨a, ha, m, hm, hx⟩ | ⟨d, hd, hholds, hx⟩)
      · exact ⟨m, .inl hm, hx⟩
      · exact ⟨m, .inr (.inl ⟨a, ha, hm⟩), hx⟩
      · exact ⟨detection d, .inr (.inr ⟨d, ⟨hd, hholds⟩, rfl⟩), hx⟩
  rw [hsplit, exists_found?_iff]
  simp only [findingsOf, exists_mem_attributeFindings_iff]
  constructor
  · rintro (h | ⟨a, ha, h | ⟨hinput, htype, h⟩ | ⟨hvalue, h⟩ | ⟨hrel, token, htoken, h⟩⟩ |
      ⟨d, hd, hholds, rfl⟩)
    · exact .elementName h
    · exact .attributeName a ha h
    · rw [htype] at h
      exact .inputType a ha hinput htype h
    · exact .value a ha hvalue h
    · rw [hrel] at htoken h
      exact .relation a ha hrel token htoken h
    · exact .detector d hd hholds
  · intro h
    cases h with
    | elementName h => exact .inl h
    | attributeName a ha h => exact .inr (.inl ⟨a, ha, .inl h⟩)
    | inputType a ha hinput htype h =>
        refine .inr (.inl ⟨a, ha, .inr (.inl ⟨hinput, htype, ?_⟩)⟩)
        rw [htype]
        exact h
    | value a ha hvalue h => exact .inr (.inl ⟨a, ha, .inr (.inr (.inl ⟨hvalue, h⟩))⟩)
    | relation a ha hrel token htoken h =>
        refine .inr (.inl ⟨a, ha, .inr (.inr (.inr ⟨hrel, token, ?_, ?_⟩))⟩)
        · rw [hrel]
          exact htoken
        · rw [hrel]
          exact h
    | detector d hd hholds => exact .inr (.inr ⟨d, hd, hholds, rfl⟩)

/-! ## Unknown names at a place -/

/-- A key is for an attribute if it is the name of the attribute, a colon, and anything. -/
theorem attributeOf?_eq_some_iff (key name : String) :
    attributeOf? key = some name ↔
      ':' ∉ name.toList ∧ ∃ value, key = name ++ ":" ++ value := by
  have hlist : ∀ value, (name ++ ":" ++ value).toList = name.toList ++ ':' :: value.toList := by
    intro value
    simp
  rw [attributeOf?]
  constructor
  · intro h
    by_cases hcolon : ':' ∈ key.toList
    · rw [if_pos (by simpa using hcolon)] at h
      have hname : key.toList.takeWhile (· != ':') = name.toList := by
        rw [← Option.some.inj h, String.toList_ofList]
      have hsplit := List.takeWhile_append_dropWhile (p := (· != ':')) (l := key.toList)
      rw [hname] at hsplit
      have hfree : ':' ∉ name.toList := by
        rw [← hname]
        intro hmem
        simpa using List.all_eq_true.1 List.all_takeWhile ':' hmem
      refine ⟨hfree, ?_⟩
      -- What follows the name begins with the first colon.
      cases hrest : key.toList.dropWhile (· != ':') with
      | nil =>
          rw [hrest, List.append_nil] at hsplit
          rw [← hsplit] at hcolon
          exact absurd hcolon hfree
      | cons c cs =>
          have hc : c = ':' := by
            have hhead := List.head?_dropWhile_not (· != ':') key.toList
            rw [hrest] at hhead
            simpa using hhead
          refine ⟨String.ofList cs, String.toList_injective ?_⟩
          rw [hlist, String.toList_ofList, ← hsplit, hrest, hc]
    · rw [if_neg (by simpa using hcolon)] at h
      cases h
  · rintro ⟨hfree, value, rfl⟩
    have hname : (name ++ ":" ++ value).toList.takeWhile (· != ':') = name.toList := by
      rw [hlist, List.takeWhile_append_of_pos]
      · simp
      · intro c hc
        have hne : c ≠ ':' := fun heq => hfree (heq ▸ hc)
        simpa using hne
    rw [if_pos (by simp [hlist]), hname, String.ofList_toList]

theorem mem_keys_layered_iff (key : String) :
    key ∈ (layered entries kind).keys ↔ ∃ x, Leads entries kind key x := by
  rw [← contains_layered_iff]
  exact Lookup.mem_keys_iff _ key

/-- The attributes that the lookups know are those that some rule is for. -/
theorem mem_knownAttributes_iff (name : String) :
    name ∈ (make entries).knownAttributes ↔ KnownAttribute entries name := by
  rw [knownAttributes, lookup_make, lookup_make, List.mem_append, List.mem_filterMap,
    mem_keys_layered_iff]
  simp only [mem_keys_layered_iff, attributeOf?_eq_some_iff]
  constructor
  · rintro (⟨x, h⟩ | ⟨key, ⟨x, h⟩, hcolon, value, rfl⟩)
    · exact .named x h
    · exact .valued value x hcolon h
  · intro h
    cases h with
    | named x h => exact .inl ⟨x, h⟩
    | valued value x hcolon h => exact .inr ⟨_, ⟨x, h⟩, hcolon, value, rfl⟩

theorem mem_unknownNames_iff (p : Place) (text : String) :
    text ∈ (make entries).unknownNames true (make entries).knownAttributes p ↔
      ReportedAt entries p text := by
  have helement : ∀ name, (make entries).isUnknownElement name = true ↔
      '-' ∈ name.toList ∧ name ∉ hyphenatedElements ∧ ∀ x, ¬ Leads entries .elements name x := by
    intro name
    rw [isUnknownElement, isCustomElement, lookup_make, Bool.and_eq_true, Bool.not_eq_true',
      ← Bool.not_eq_true, contains_layered_iff]
    simp [and_assoc]
  have hattribute : ∀ name, isUnknownAttribute (make entries).knownAttributes name = true ↔
      ¬ KnownAttribute entries name ∧ isPlainAttribute name = false := by
    intro name
    rw [← mem_knownAttributes_iff, isUnknownAttribute]
    simp
  have hreported : ∀ unknown report,
      text ∈ reported true unknown report ↔ unknown = true ∧ text = report := by
    intro unknown report
    cases unknown <;> simp [reported]
  rw [unknownNames, List.mem_append, List.mem_flatMap, hreported, helement]
  simp only [hreported, hattribute]
  constructor
  · rintro (⟨⟨hhyphen, hforeign, hnone⟩, rfl⟩ | ⟨a, ha, ⟨hunknown, hplain⟩, rfl⟩)
    · exact .elementName hhyphen hforeign hnone
    · exact .attributeName a ha hunknown hplain
  · intro h
    cases h with
    | elementName hhyphen hforeign hnone => exact .inl ⟨⟨hhyphen, hforeign, hnone⟩, rfl⟩
    | attributeName a ha hunknown hplain => exact .inr ⟨a, ha, ⟨hunknown, hplain⟩, rfl⟩

theorem unknownNames_unasked (r : Rulebook) (known : List String) (p : Place) :
    r.unknownNames false known p = [] := by
  simp [unknownNames, reported]

end Rulebook

/-! ## Order -/

/-- Two places that differ in the order of their attributes at most. -/
structure Place.Reordered (p q : Place) : Prop where
  name_eq : q.name = p.name
  parent?_eq : q.parent? = p.parent?
  ancestors_eq : q.ancestors = p.ancestors
  attributes_perm : q.attributes.Perm p.attributes

/-- The same places in another order, each with its attributes in another order. -/
def ReorderedPlaces (places places' : List Place) : Prop :=
  ∃ middle, places.Perm middle ∧ List.Forall₂ Place.Reordered middle places'

/-- No attribute of an element is written twice: a plain name has one value. -/
def Place.NamesOnce (p : Place) : Prop :=
  ∀ a ∈ p.attributes, ∀ b ∈ p.attributes, a.foreign = false → b.foreign = false →
    a.name = b.name → a.value = b.value

section Order

variable {p q : Place}

/-- Where each plain name has one value, the value asked for is that of any attribute of the name. -/
theorem Place.NamesOnce.value?_eq_some_iff (h : p.NamesOnce) (name v : String) :
    p.value? name = some v ↔
      ∃ a ∈ p.attributes, a.name = name ∧ a.foreign = false ∧ a.value = v := by
  rw [Place.value?, valueOf?]
  constructor
  · intro hv
    obtain ⟨a, ha, hvalue⟩ := Option.map_eq_some_iff.1 hv
    have hname := List.find?_some ha
    simp only [Bool.and_eq_true, beq_iff_eq, Bool.not_eq_true'] at hname
    exact ⟨a, List.mem_of_find?_eq_some ha, hname.1, hname.2, hvalue⟩
  · rintro ⟨a, ha, hname, hplain, rfl⟩
    cases hfind : p.attributes.find? fun a => a.name == name && !a.foreign with
    | none =>
        have hnot := List.find?_eq_none.1 hfind a ha
        simp [hname, hplain] at hnot
    | some b =>
        have hb := List.find?_some hfind
        simp only [Bool.and_eq_true, beq_iff_eq, Bool.not_eq_true'] at hb
        have hsame := h a ha b (List.mem_of_find?_eq_some hfind) hplain hb.2
          (hname.trans hb.1.symm)
        rw [Option.map_some, hsame]

theorem value?_of_reordered (hr : p.Reordered q) (h : p.NamesOnce) : q.value? = p.value? := by
  have hq : q.NamesOnce := by
    intro a ha b hb
    exact h a (hr.attributes_perm.mem_iff.1 ha) b (hr.attributes_perm.mem_iff.1 hb)
  funext name
  refine Option.ext fun v => ?_
  rw [hq.value?_eq_some_iff, h.value?_eq_some_iff]
  simp only [hr.attributes_perm.mem_iff]

/-- No detector depends on the order of the attributes. -/
theorem holds_of_reordered (hr : p.Reordered q) (h : p.NamesOnce) :
    ∀ d ∈ detectors, d.holds q = d.holds p := by
  have hvalue := value?_of_reordered hr h
  have hany : ∀ test : Attribute → Bool, q.attributes.any test = p.attributes.any test := by
    intro test
    exact hr.attributes_perm.any_eq
  have hnamed : q.isNamed = p.isNamed := by
    funext name
    rw [Place.isNamed, Place.isNamed, hr.name_eq]
  have hrelation : q.hasRelation = p.hasRelation := by
    funext relation
    rw [Place.hasRelation, Place.hasRelation, hvalue]
  have hhas : q.has = p.has := by
    funext name
    rw [Place.has, Place.has, hvalue]
  have hhasValue : q.hasValue = p.hasValue := by
    funext name value
    rw [Place.hasValue, Place.hasValue, hvalue]
  have haddresses : q.addresses = p.addresses := by
    rw [Place.addresses, Place.addresses, hvalue]
  simp only [detectors, List.forall_mem_cons, List.not_mem_nil, false_imp_iff, implies_true,
    and_true, offersImages, isImageOrSource, Place.isUnder, carriesData, isLinkTo, isDrawingIcon,
    showsDrawing, choices, refersIntoDrawing, Place.isWithin, isStrictRoot, hnamed, hhas,
    hhasValue, hrelation, haddresses, hvalue, hany, hr.name_eq, hr.parent?_eq, hr.ancestors_eq]

namespace Rulebook

variable (r : Rulebook) {tests : List Detector}

theorem mem_findings_of_reordered (htests : tests.Perm detectors) (hr : p.Reordered q)
    (h : p.NamesOnce) (m : Match) : m ∈ r.findings tests q ↔ m ∈ r.findings detectors p := by
  have hholds := holds_of_reordered hr h
  simp only [findings, List.mem_append, List.mem_flatMap, List.mem_map, List.mem_filter,
    hr.name_eq, hr.attributes_perm.mem_iff, htests.mem_iff]
  grind

theorem mem_unknownNames_of_reordered (hr : p.Reordered q) (reportUnknown : Bool)
    (known : List String) (text : String) :
    text ∈ r.unknownNames reportUnknown known q ↔ text ∈ r.unknownNames reportUnknown known p := by
  simp only [unknownNames, List.mem_append, List.mem_flatMap, hr.name_eq,
    hr.attributes_perm.mem_iff]

/-- What holds at some place of a document holds at some place of it in another order. -/
theorem exists_mem_reordered {places places' : List Place} (h : ReorderedPlaces places places')
    {here here' : Place → Prop}
    (hiff : ∀ p ∈ places, ∀ q, p.Reordered q → (here' q ↔ here p)) :
    (∃ q ∈ places', here' q) ↔ ∃ p ∈ places, here p := by
  obtain ⟨middle, hperm, hforall⟩ := h
  have hmiddle : ∀ p ∈ middle, ∀ q, p.Reordered q → (here' q ↔ here p) := by
    intro p hp
    exact hiff p (hperm.mem_iff.2 hp)
  have hsame : (∃ p ∈ places, here p) ↔ ∃ p ∈ middle, here p := by
    simp only [hperm.mem_iff]
  rw [hsame]
  clear hiff hsame hperm
  induction hforall with
  | nil => simp
  | @cons p q middle places' hpq _ ih =>
      have hfirst := hmiddle p List.mem_cons_self q hpq
      have hrest : (∃ q ∈ places', here' q) ↔ ∃ p ∈ middle, here p :=
        ih fun p' hp' => hmiddle p' (List.mem_cons_of_mem p hp')
      rw [List.exists_mem_cons_iff, List.exists_mem_cons_iff, hfirst, hrest]

/-- The order of elements, attributes and detectors makes no difference to what is found. -/
theorem features_walk_of_reordered (htests : tests.Perm detectors) {places places' : List Place}
    (h : ReorderedPlaces places places') (hnames : ∀ p ∈ places, p.NamesOnce)
    (reportUnknown : Bool) :
    (r.walk tests reportUnknown places').features =
      (r.walk detectors reportUnknown places).features := by
  apply NameSet.ext_mem
  intro x
  rw [mem_features_walk, mem_features_walk]
  apply exists_mem_reordered h
  intro p hp q hpq
  simp only [mem_findings_of_reordered r htests hpq (hnames p hp)]

theorem unrecognized_walk_of_reordered (tests' : List Detector) {places places' : List Place}
    (h : ReorderedPlaces places places') (reportUnknown : Bool) :
    (r.walk tests reportUnknown places').unrecognized =
      (r.walk tests' reportUnknown places).unrecognized := by
  apply NameSet.ext_mem
  intro x
  rw [mem_unrecognized_walk, mem_unrecognized_walk]
  apply exists_mem_reordered h
  intro p _ q hpq
  exact mem_unknownNames_of_reordered r hpq reportUnknown r.knownAttributes x

end Rulebook

end Order

/-! ## Documents -/

namespace Rulebook

/-- What is found in a document is what the entries in force and the detectors give at the root or
at an element below it, and what is reported is what has no entry in force there. Without the report
nothing is reported and the same is found. Elements, attributes and detectors may come in any
order. -/
theorem scanTree_closed_form (d : Document) (root : Element) :
    (∀ reportUnknown x,
      x ∈ ((make d.html).scanTree reportUnknown root).features.toList ↔
        ∃ p, root.HasPlace none [] p ∧ FoundAt d.html p x) ∧
    (∀ text, text ∈ ((make d.html).scanTree true root).unrecognized.toList ↔
      ∃ p, root.HasPlace none [] p ∧ ReportedAt d.html p text) ∧
    ((make d.html).scanTree false root).unrecognized = .empty ∧
    ((make d.html).scanTree false root).features =
      ((make d.html).scanTree true root).features ∧
    ((make d.html).scanTree false root).details = ((make d.html).scanTree true root).details ∧
    (∀ reportUnknown tests places, tests.Perm detectors → ReorderedPlaces root.places places →
      (∀ p, root.HasPlace none [] p → p.NamesOnce) →
        ((make d.html).walk tests reportUnknown places).features =
          ((make d.html).scanTree reportUnknown root).features ∧
        ((make d.html).walk tests reportUnknown places).unrecognized =
          ((make d.html).scanTree reportUnknown root).unrecognized) ∧
    ∀ options source, (Scanner.make options d).scan .html source =
      (make d.html).scanTree options.reportUnknown (parse source) := by
  refine ⟨?_, ?_, ?_, ?_, ?_, ?_, fun _ _ => rfl⟩
  · intro reportUnknown x
    rw [scanTree, mem_features_walk]
    simp only [exists_mem_findings_iff, Element.mem_places_iff]
  · intro text
    rw [scanTree, mem_unrecognized_walk]
    simp only [mem_unknownNames_iff, Element.mem_places_iff]
  · apply NameSet.ext_mem
    intro text
    rw [scanTree, mem_unrecognized_walk]
    simp only [unknownNames_unasked, List.not_mem_nil, and_false, exists_false, false_iff]
    exact List.not_mem_nil
  · rw [scanTree, scanTree, walk_eq, walk_eq, ScanResult.features_noting,
      ScanResult.features_noting]
  · rw [scanTree, scanTree, walk_eq, walk_eq, ScanResult.details_noting,
      ScanResult.details_noting]
  · intro reportUnknown tests places htests hplaces hnames
    have hnames' : ∀ p ∈ root.places, p.NamesOnce := by
      intro p hp
      exact hnames p ((Element.mem_places_iff root p).1 hp)
    exact ⟨features_walk_of_reordered _ htests hplaces hnames' reportUnknown,
      unrecognized_walk_of_reordered _ _ hplaces reportUnknown⟩

/-- A document of a user that knows one custom element. -/
def cardDocument : Document := { html := { elements := .ofList [("x-card", "cards")] } }

/-- A page with a link, and with two custom elements in a template. -/
def cardPage : Element :=
  .mk "HTML" [] [] [
    .mk "Link" [⟨"HREF", "a.css", false⟩, ⟨"rel", "icon PRELOAD", false⟩] [] [],
    .mk "template" [] [.mk "X-Card" [] [] [], .mk "x-list" [] [] []] []]

theorem scanTree_closed_form_cards :
    (∀ p, cardPage.HasPlace none [] p → p.NamesOnce) ∧
    "cards" ∈ ((make cardDocument.html).scanTree true cardPage).features.toList ∧
    "element: <x-list>" ∈ ((make cardDocument.html).scanTree true cardPage).unrecognized.toList ∧
    "link-rel-preload" ∈ ((make cardDocument.html).walk detectors.reverse false
      (cardPage.places.reverse.map fun p =>
        { p with attributes := p.attributes.reverse })).features.toList := by
  have hnames : ∀ p, cardPage.HasPlace none [] p → p.NamesOnce := by
    have hplaces : ∀ p ∈ cardPage.places, ∀ a ∈ p.attributes, ∀ b ∈ p.attributes,
        a.foreign = false → b.foreign = false → a.name = b.name → a.value = b.value := by
      decide
    intro p hp
    exact hplaces p ((Element.mem_places_iff cardPage p).2 hp)
  have hreordered : ReorderedPlaces cardPage.places (cardPage.places.reverse.map fun p =>
      { p with attributes := p.attributes.reverse }) := by
    refine ⟨cardPage.places.reverse, (List.reverse_perm _).symm, ?_⟩
    rw [List.forall₂_map_right_iff]
    exact List.forall₂_same.2 fun p _ => ⟨rfl, rfl, rfl, List.reverse_perm _⟩
  obtain ⟨hfound, hreported, -, -, -, horder, -⟩ := scanTree_closed_form cardDocument cardPage
  refine ⟨hnames, ?_, ?_, ?_⟩
  · have hplace : cardPage.HasPlace none [] ⟨"X-Card", [], none, ["template", "HTML"]⟩ :=
      (Element.mem_places_iff _ _).1 (by decide)
    rw [hfound]
    exact ⟨_, hplace, .elementName (.custom (by decide))⟩
  · have hplace : cardPage.HasPlace none [] ⟨"x-list", [], none, ["template", "HTML"]⟩ :=
      (Element.mem_places_iff _ _).1 (by decide)
    have hnone : ∀ x, ¬ Leads cardDocument.html .elements "x-list" x := by
      have hbuiltin : ∀ e ∈ Catalog.builtinLookup .elements, e.1 ≠ "x-list" := by decide
      intro x h
      cases h with
      | custom h => cases h
      | builtin _ h => exact hbuiltin _ h rfl
    rw [hreported]
    exact ⟨_, hplace, .elementName (by decide) (by decide) hnone⟩
  · have hplace : cardPage.HasPlace none []
        ⟨"Link", [⟨"HREF", "a.css", false⟩, ⟨"rel", "icon PRELOAD", false⟩], some "HTML",
          ["HTML"]⟩ :=
      (Element.mem_places_iff _ _).1 (by decide)
    have hdetected : FoundAt cardDocument.html _ "link-rel-preload" :=
      .detector ⟨"link-rel-preload", "link rel=preload", isLinkTo "preload"⟩
        (by simp [detectors]) (p := ⟨"Link", [⟨"HREF", "a.css", false⟩,
          ⟨"rel", "icon PRELOAD", false⟩], some "HTML", ["HTML"]⟩) (by decide)
    rw [(horder false _ _ (List.reverse_perm _) hreordered hnames).1, hfound]
    exact ⟨_, hplace, hdetected⟩

end Rulebook

end Markup

end FeatureScan
