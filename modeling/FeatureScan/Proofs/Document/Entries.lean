import FeatureScan.Proofs.Document.Reload
import FeatureScan.Proofs.Json.Nesting
import FeatureScan.Proofs.Merged

/-!
# Entries are read one by one

Only a value that is no object cannot be read as a document. Whatever else is wrong in it costs no
more than itself: the rule for an id is told by the entries for the id, the feature of a key of a
lookup by the entries whose keys are that key in small letters, a section or a lookup that makes no
sense is empty and no other is, and keys that begin with an underscore do nothing at any level.

The members of a value are taken as they stand, and a key may repeat among them. In a value that was
parsed none does, and the members stand in the order of their keys.

## Main results

* `get?_rulesOf`: the last entry for an id that gives patterns is its rule.
* `get?_entriesOf`: the last entry for a key that names a feature counts.
* `ofJson?_putMember`, `ofJson?_putLookup`: what a section or a lookup that makes no sense costs.
* `ofJson?_dropComments`: comments do nothing.
* `entries_isolated`: a document is read entry by entry.
-/

namespace FeatureScan

/-! ## Values with a member replaced -/

namespace Json

/-- An object with a member put at its place; one with the same key gives way. -/
def putMember (j : Json) (key : String) (value : Json) : Json :=
  match j with
  | object members => object (Dict.place key value members)
  | j => j

theorem member?_putMember (key key' : String) (value : Json) (content : List (String × Json)) :
    ((object content).putMember key value).member? key' =
      if key = key' then some value else (object content).member? key' :=
  Dict.find?_place key key' value content

/-- A canonical value without parts that are nested too deep. -/
structure Orderly (depth : Nat) (j : Json) : Prop where
  nested : j.Nested depth
  canonical_eq : j.canonical = j

/-- The members of an orderly object stand in the order of their keys, and are orderly too. -/
theorem Orderly.members {depth : Nat} {content : List (String × Json)}
    (h : (object content).Orderly (depth + 1)) :
    (content.map Prod.fst).Pairwise (· < ·) ∧ ∀ m ∈ content, m.2.Orderly depth := by
  have hcontent : (Dict.ofList (content.map fun m => (m.1, m.2.canonical))).entries = content := by
    have heq := h.canonical_eq
    rw [canonical_object, ofDict] at heq
    exact object.inj heq
  constructor
  · rw [← hcontent]
    exact Dict.keys_sorted _
  · intro m hm
    rw [← hcontent] at hm
    obtain ⟨m', hm', rfl⟩ := exists_of_mem_canonical hm
    have hnested : m'.2.Nested depth := h.nested m' hm'
    exact ⟨hnested.canonical, hnested.canonical_canonical⟩

/-- And so is the object that a member holds, if it holds one. -/
theorem Orderly.objectOf {depth : Nat} {content : List (String × Json)}
    (h : (object content).Orderly (depth + 2)) (key : String) :
    (object ((((object content).member? key).bind object?).getD [])).Orderly (depth + 1) := by
  have hnil : (object []).Orderly (depth + 1) := ⟨nofun, rfl⟩
  cases hmember : (object content).member? key with
  | none => exact hnil
  | some value =>
      obtain ⟨m, hfind, rfl⟩ := Option.map_eq_some_iff.1 hmember
      have hvalue := h.members.2 m (List.mem_of_find?_eq_some hfind)
      rw [Option.bind_some]
      cases hm : m.2 with
      | object inner => exact hm ▸ hvalue
      | _ => exact hnil

/-- What was parsed is orderly. -/
theorem orderly_of_parse? {text : String} {j : Json} (h : parse? text = some j) :
    j.Orderly depthLimit := by
  obtain ⟨written, hread, rfl⟩ := Option.map_eq_some_iff.1 h
  have hnested := nested_read? hread
  exact ⟨hnested.canonical, hnested.canonical_canonical⟩

end Json

namespace Document

/-! ## One entry -/

/-- The entries for an id in a section, in order. -/
def entriesFor (content : List (String × Json)) (id : String) : List Json :=
  (content.filter fun m => m.1 == id).map Prod.snd

/-- The features that the entries of a lookup name whose keys, but for comments, are a given one in
small letters, in order. -/
def featuresFor (lookup : List (String × Json)) (key : String) : List String :=
  ((members lookup).filter fun m => Text.asciiLower m.1 == key).filterMap fun m => m.2.string?

/-- The rule for an id in a section. -/
def ruleFor? (d : Document) (s : Section) (id : String) : Option Rule :=
  (d.rules? s).bind fun rules => rules.get? id

/-- Without repeated keys there is no more than one entry for an id. -/
theorem entriesFor_of_nodup {content : List (String × Json)} (h : (content.map Prod.fst).Nodup)
    (id : String) : entriesFor content id = ((Json.object content).member? id).toList := by
  simp only [entriesFor, Json.member?, Json.object?, Option.bind_eq_bind, Option.bind_some]
  induction content with
  | nil => rfl
  | cons m content ih =>
      rw [List.map_cons, List.nodup_cons] at h
      by_cases hid : m.1 = id
      · have hnone : content.filter (fun m => m.1 == id) = [] := by
          refine List.filter_eq_nil_iff.2 fun m' hm' hkey => h.1 ?_
          rw [hid, ← beq_iff_eq.1 hkey]
          exact List.mem_map_of_mem hm'
        simp [hid, hnone]
      · simpa [hid] using ih h.2

/-- Of pairs made of members, those with a key are made of the members that give the key. -/
theorem values_filter_filterMap {α : Type} (key : String × Json → String)
    (read : String × Json → Option α) (k : String) (l : List (String × Json)) :
    ((l.filterMap fun m => (read m).map fun v => (key m, v)).filter fun e => e.1 == k).map
        Prod.snd =
      (l.filter fun m => key m == k).filterMap read := by
  induction l with
  | nil => rfl
  | cons m l ih =>
      rw [List.filterMap_cons, List.filter_cons]
      cases hread : read m with
      | none => by_cases hk : key m = k <;> simp [hk, hread, ih]
      | some v => by_cases hk : key m = k <;> simp [hk, hread, ih]

/-- The last entry for an id that gives patterns is its rule. -/
theorem get?_rulesOf (content : List (String × Json)) (id : String) :
    (rulesOf content).get? id =
      if isComment id then none else ((entriesFor content id).filterMap (rule? id)).getLast? := by
  have hmembers : (members content).filter (fun m => m.1 == id) =
      if isComment id then [] else content.filter fun m => m.1 == id := by
    rw [members, List.filter_filter]
    split
    · rename_i hcomment
      refine List.filter_eq_nil_iff.2 fun m _ hm => ?_
      simp only [Bool.and_eq_true, beq_iff_eq, Bool.not_eq_true'] at hm
      rw [hm.1, hcomment] at hm
      cases hm.2
    · rename_i hcomment
      refine List.filter_congr fun m _ => ?_
      by_cases hid : m.1 = id <;> simp [hid, hcomment]
  rw [rulesOf, Dict.get?_ofList_eq_getLast?,
    values_filter_filterMap Prod.fst fun m => rule? m.1 m.2, hmembers]
  split
  · rfl
  · rw [entriesFor, List.filterMap_map]
    refine congrArg List.getLast? (List.filterMap_congr fun m hm => ?_)
    rw [Function.comp_apply, beq_iff_eq.1 (List.mem_filter.1 hm).2]

/-- The last entry for a key that names a feature counts. -/
theorem get?_entriesOf (lookup : List (String × Json)) (key : String) :
    (entriesOf lookup).get? key = (featuresFor lookup key).getLast? := by
  rw [entriesOf, Dict.get?_ofList_eq_getLast?,
    values_filter_filterMap (fun m => Text.asciiLower m.1) fun m => m.2.string?, featuresFor]

/-- Two keys that differ in case name one element, and a comment names none. -/
example : featuresFor (lookupOf untidy .elements) "dialog" = ["dialog", "modal"] ∧
    featuresFor (lookupOf untidy .elements) "_p" = [] := ⟨by rfl, by rfl⟩

/-! ## The parts of a document -/

/-- A document with the parts that are read from the members of an object. -/
structure ReadFrom (d : Document) (content : List (String × Json)) : Prop where
  css : d.css = rulesOf (sectionOf (.object content) .css)
  javaScript : d.javaScript = rulesOf (sectionOf (.object content) .javaScript)
  html : ∀ kind, d.html.get kind = entriesOf (lookupOf (.object content) kind)

theorem ofJson?_object {content : List (String × Json)} {d : Document} :
    ofJson? (.object content) = some d ↔ d.ReadFrom content := by
  constructor
  · intro h
    obtain rfl := Option.some.inj h
    exact ⟨rfl, rfl, fun kind => get_foldl_set _ kind⟩
  · rintro ⟨hcss, hscript, hhtml⟩
    obtain ⟨css, javaScript, elements, attributes, inputTypes, attributeValues⟩ := d
    obtain rfl : css = _ := hcss
    obtain rfl : javaScript = _ := hscript
    obtain rfl : elements = _ := hhtml .elements
    obtain rfl : attributes = _ := hhtml .attributes
    obtain rfl : inputTypes = _ := hhtml .inputTypes
    obtain rfl : attributeValues = _ := hhtml .attributeValues
    rfl

theorem exists_of_ofJson {root : Json} {d : Document} (h : ofJson root = .ok d) :
    ∃ content, root = .object content ∧ d.ReadFrom content := by
  have hread := ofJson_eq_ok_iff.1 h
  cases root with
  | object content => exact ⟨content, rfl, ofJson?_object.1 hread⟩
  | _ => cases hread

/-- The rules of a section are those of its object. -/
theorem ReadFrom.ruleFor? {content : List (String × Json)} {d : Document} (h : d.ReadFrom content)
    {s : Section} (hs : s ≠ .html) (id : String) :
    d.ruleFor? s id = (rulesOf (sectionOf (.object content) s)).get? id := by
  cases s with
  | css => rw [Document.ruleFor?, rules?, Option.bind_some, h.css]
  | javaScript => rw [Document.ruleFor?, rules?, Option.bind_some, h.javaScript]
  | html => exact absurd rfl hs

/-! ## A section or a lookup that makes no sense -/

/-- A document without the rules or entries of a section. -/
def withoutSection (d : Document) : Section → Document
  | .css => { d with css := .empty }
  | .javaScript => { d with javaScript := .empty }
  | .html => { d with html := {} }

/-- A document without the entries of a lookup. -/
def withoutLookup (d : Document) (kind : LookupKind) : Document :=
  { d with html := d.html.set kind .empty }

/-- A value with a lookup replaced in its section for markup, which is made an object if it is
none. -/
def putLookup (root : Json) (kind : LookupKind) (value : Json) : Json :=
  root.putMember Section.html.key ((Json.object (sectionOf root .html)).putMember kind.key value)

theorem sectionOf_putMember (content : List (String × Json)) (s s' : Section) (value : Json) :
    sectionOf ((Json.object content).putMember s.key value) s' =
      if s = s' then value.object?.getD [] else sectionOf (.object content) s' := by
  have hkeys : s.key = s'.key ↔ s = s' := by cases s <;> cases s' <;> decide
  rw [sectionOf, Json.member?_putMember]
  by_cases hs : s = s'
  · rw [if_pos hs, if_pos (hkeys.2 hs), Option.bind_some]
  · rw [if_neg hs, if_neg (mt hkeys.1 hs), sectionOf]

theorem sectionOf_putLookup (content : List (String × Json)) (kind : LookupKind) (value : Json)
    (s : Section) :
    sectionOf (putLookup (.object content) kind value) s =
      if s = .html then Dict.place kind.key value (sectionOf (.object content) .html)
      else sectionOf (.object content) s := by
  rw [putLookup, sectionOf_putMember]
  cases s <;> rfl

theorem lookupOf_putLookup (content : List (String × Json)) (kind kind' : LookupKind)
    (value : Json) :
    lookupOf (putLookup (.object content) kind value) kind' =
      if kind = kind' then value.object?.getD [] else lookupOf (.object content) kind' := by
  have hkeys : kind.key = kind'.key ↔ kind = kind' := by cases kind <;> cases kind' <;> decide
  have hmember :=
    Json.member?_putMember kind.key kind'.key value (sectionOf (.object content) .html)
  rw [lookupOf, sectionOf_putLookup, if_pos rfl]
  rw [Json.putMember] at hmember
  rw [hmember]
  by_cases hk : kind = kind'
  · rw [if_pos hk, if_pos (hkeys.2 hk), Option.bind_some]
  · rw [if_neg hk, if_neg (mt hkeys.1 hk), lookupOf]

theorem rulesOf_nil : rulesOf [] = .empty := rfl

theorem entriesOf_nil : entriesOf [] = .empty := rfl

/-- A section that is no object is empty, and no other is. -/
theorem ReadFrom.putMember {content : List (String × Json)} {d : Document} (h : d.ReadFrom content)
    (s : Section) {value : Json} (hvalue : value.object? = none) :
    (d.withoutSection s).ReadFrom (Dict.place s.key value content) := by
  have hsection : ∀ s', sectionOf (.object (Dict.place s.key value content)) s' =
      if s = s' then [] else sectionOf (.object content) s' := by
    intro s'
    have hput := sectionOf_putMember content s s' value
    rwa [hvalue, Option.getD_none] at hput
  refine ⟨?_, ?_, fun kind => ?_⟩
  · rw [hsection]
    cases s with
    | css => rfl
    | javaScript => exact h.css
    | html => exact h.css
  · rw [hsection]
    cases s with
    | css => exact h.javaScript
    | javaScript => rfl
    | html => exact h.javaScript
  · rw [lookupOf, hsection]
    cases s with
    | css => exact h.html kind
    | javaScript => exact h.html kind
    | html => cases kind <;> rfl

/-- A lookup that is no object is empty, and no other is. -/
theorem ReadFrom.putLookup {content : List (String × Json)} {d : Document} (h : d.ReadFrom content)
    (kind : LookupKind) {value : Json} (hvalue : value.object? = none) :
    ofJson? (Document.putLookup (.object content) kind value) = some (d.withoutLookup kind) := by
  obtain ⟨content', hcontent⟩ : ∃ content',
    Document.putLookup (.object content) kind value = .object content' := ⟨_, rfl⟩
  rw [hcontent]
  refine ofJson?_object.2 ⟨?_, ?_, fun kind' => ?_⟩
  · rw [← hcontent, sectionOf_putLookup]
    exact h.css
  · rw [← hcontent, sectionOf_putLookup]
    exact h.javaScript
  · rw [← hcontent, lookupOf_putLookup, hvalue, withoutLookup, Entries.get_set]
    split
    · rfl
    · exact h.html kind'

/-! ## Comments -/

/-- A value without the comments in objects that are nested less deep than so many levels. -/
def dropComments : Nat → Json → Json
  | depth + 1, .object content =>
    .object ((members content).map fun m => (m.1, dropComments depth m.2))
  | _, j => j

/-- Members without comments, and without those in their values. -/
def dropFrom : Nat → List (String × Json) → List (String × Json)
  | 0, content => content
  | depth + 1, content => (members content).map fun m => (m.1, dropComments depth m.2)

theorem dropComments_object (depth : Nat) (content : List (String × Json)) :
    dropComments depth (.object content) = .object (dropFrom depth content) := by
  cases depth <;> rfl

theorem dropComments_of_no_object {j : Json} (h : j.object? = none) (depth : Nat) :
    dropComments depth j = j := by
  cases j with
  | object content => cases h
  | _ => cases depth <;> rfl

theorem object?_dropComments (depth : Nat) (j : Json) :
    (dropComments depth j).object? = j.object?.map (dropFrom depth) := by
  cases j with
  | object content => rw [dropComments_object, Json.object?, Json.object?, Option.map_some]
  | _ => rw [dropComments_of_no_object rfl]; rfl

theorem string?_dropComments (depth : Nat) (j : Json) :
    (dropComments depth j).string? = j.string? := by
  cases j with
  | object content => rw [dropComments_object]; rfl
  | _ => rw [dropComments_of_no_object rfl]

theorem array?_dropComments (depth : Nat) (j : Json) :
    (dropComments depth j).array? = j.array? := by
  cases j with
  | object content => rw [dropComments_object]; rfl
  | _ => rw [dropComments_of_no_object rfl]

/-- A member that is no comment stays, without the comments in it. -/
theorem member?_dropComments {key : String} (hkey : isComment key = false) (depth : Nat)
    (j : Json) :
    (dropComments depth j).member? key = (j.member? key).map (dropComments (depth - 1)) := by
  cases j with
  | object content =>
      rw [dropComments_object]
      cases depth with
      | zero =>
          have hzero : dropComments 0 = id := funext fun j => by cases j <;> rfl
          rw [dropFrom, Nat.zero_sub, hzero, Option.map_id_fun, id_eq]
      | succ depth =>
          have htest : (fun m : String × Json => decide ((!isComment m.1) = true ∧
              (m.1 == key) = true)) = fun m => m.1 == key := by
            funext m
            by_cases hm : m.1 = key <;> simp [hm, hkey]
          simp only [Json.member?, Json.object?, Option.bind_eq_bind, Option.bind_some, dropFrom,
            members, List.find?_map, Function.comp_def, List.find?_filter, htest, Option.map_map,
            Nat.add_sub_cancel]
  | _ => rw [dropComments_of_no_object rfl]; rfl

theorem patterns?_dropComments (depth : Nat) (entry : Json) :
    patterns? (dropComments depth entry) = patterns? entry := by
  rw [patterns?, member?_dropComments (by decide), patterns?]
  cases entry.member? "patterns" with
  | none => rfl
  | some j =>
      cases j with
      | object content => rw [Option.map_some, dropComments_object]
      | _ => rw [Option.map_some, dropComments_of_no_object rfl]

theorem rule?_dropComments (depth : Nat) (id : String) (entry : Json) :
    rule? id (dropComments depth entry) = rule? id entry := by
  have hdescription : ((dropComments depth entry).member? "description").bind Json.string? =
      (entry.member? "description").bind Json.string? := by
    rw [member?_dropComments (by decide), Option.bind_map]
    congr 1
    exact funext fun j => string?_dropComments _ j
  have hkeywords : ((dropComments depth entry).member? "keywords").bind Json.array? =
      (entry.member? "keywords").bind Json.array? := by
    rw [member?_dropComments (by decide), Option.bind_map]
    congr 1
    exact funext fun j => array?_dropComments _ j
  rw [rule?, patterns?_dropComments, hdescription, hkeywords, rule?]

theorem members_dropFrom_succ (depth : Nat) (content : List (String × Json)) :
    members (dropFrom (depth + 1) content) =
      (members content).map fun m => (m.1, dropComments depth m.2) := by
  rw [members, dropFrom, List.filter_map, members, List.filter_filter]
  simp

/-- Rules and entries are read without comments, so dropping these makes no difference. -/
theorem rulesOf_dropFrom (depth : Nat) (content : List (String × Json)) :
    rulesOf (dropFrom depth content) = rulesOf content := by
  cases depth with
  | zero => rfl
  | succ depth =>
      rw [rulesOf, members_dropFrom_succ, List.filterMap_map, rulesOf]
      congr 2
      funext m
      rw [Function.comp_apply, rule?_dropComments]

theorem entriesOf_dropFrom (depth : Nat) (lookup : List (String × Json)) :
    entriesOf (dropFrom depth lookup) = entriesOf lookup := by
  cases depth with
  | zero => rfl
  | succ depth =>
      rw [entriesOf, members_dropFrom_succ, List.filterMap_map, entriesOf]
      congr 2
      funext m
      rw [Function.comp_apply, string?_dropComments]

/-- The object of a member that is no comment. -/
theorem objectOf_dropComments {key : String} (hkey : isComment key = false) (depth : Nat)
    (j : Json) :
    (((dropComments depth j).member? key).bind Json.object?).getD [] =
      dropFrom (depth - 1) (((j.member? key).bind Json.object?).getD []) := by
  rw [member?_dropComments hkey]
  have hnil : dropFrom (depth - 1) [] = [] := by cases depth - 1 <;> rfl
  cases j.member? key with
  | none => exact hnil.symm
  | some value =>
      rw [Option.map_some, Option.bind_some, object?_dropComments, Option.bind_some]
      cases value.object? with
      | none => exact hnil.symm
      | some content => rfl

theorem sectionOf_dropComments (depth : Nat) (root : Json) (s : Section) :
    sectionOf (dropComments depth root) s = dropFrom (depth - 1) (sectionOf root s) :=
  objectOf_dropComments (by cases s <;> decide) depth root

theorem lookupOf_dropComments (depth : Nat) (root : Json) (kind : LookupKind) :
    lookupOf (dropComments depth root) kind = dropFrom (depth - 1 - 1) (lookupOf root kind) := by
  rw [lookupOf, sectionOf_dropComments, ← dropComments_object, lookupOf]
  exact objectOf_dropComments (by cases kind <;> decide) (depth - 1) _

/-- Comments do nothing. -/
theorem ofJson_dropComments (depth : Nat) (root : Json) :
    ofJson (dropComments depth root) = ofJson root := by
  have hread : ofJson? (dropComments depth root) = ofJson? root := by
    cases root with
    | object content =>
        rw [ofJson?, object?_dropComments, ofJson?, Json.object?, Option.map_some, Option.map_some,
          Option.map_some]
        simp only [sectionOf_dropComments, lookupOf_dropComments, rulesOf_dropFrom,
          entriesOf_dropFrom]
    | _ => rw [dropComments_of_no_object rfl]
  rw [ofJson, hread, ofJson]

/-! ## All of it -/

/-- In what was parsed, the members of sections and lookups stand in the order of their keys. -/
theorem sorted_of_parse? {text : String} {content : List (String × Json)}
    (h : Json.parse? text = some (.object content)) :
    (∀ s, ((sectionOf (.object content) s).map Prod.fst).Pairwise (· < ·)) ∧
      ∀ kind, ((lookupOf (.object content) kind).map Prod.fst).Pairwise (· < ·) := by
  have hsection : ∀ s, (Json.object (sectionOf (.object content) s)).Orderly 126 :=
    fun s => (Json.orderly_of_parse? h).objectOf s.key
  have hlookup : ∀ kind, (Json.object (lookupOf (.object content) kind)).Orderly 125 :=
    fun kind => (hsection .html).objectOf kind.key
  exact ⟨fun s => (hsection s).members.1, fun kind => (hlookup kind).members.1⟩

theorem ofJson_eq_error_iff {root : Json} :
    (∃ e, ofJson root = .error e) ↔ root.object? = none := by
  rw [← ofJson?_eq_none_iff, ofJson]
  cases ofJson? root <;> simp

/-- **A document is read entry by entry.** Only what is no object cannot be read. A rule is told by
the entries for its id, so documents that agree in these agree in the rule. The feature of a key is
told by the entries whose keys are that key in small letters. A section or a lookup that is no
object is empty, and no other is. Comments do nothing. In a document that was parsed there is at
most one entry for an id, and the entries of a lookup stand in the order of their keys. -/
theorem entries_isolated :
    (∀ root, (∃ e, ofJson root = .error e) ↔ root.object? = none) ∧
    (∀ root d, ofJson root = .ok d → ∀ s, s ≠ .html → ∀ id, d.ruleFor? s id =
      if isComment id then none
      else ((entriesFor (sectionOf root s) id).filterMap (rule? id)).getLast?) ∧
    (∀ root root' d d', ofJson root = .ok d → ofJson root' = .ok d' → ∀ s, s ≠ .html →
      ∀ id, entriesFor (sectionOf root s) id = entriesFor (sectionOf root' s) id →
        d.ruleFor? s id = d'.ruleFor? s id) ∧
    (∀ root d, ofJson root = .ok d → ∀ kind key,
      (d.html.get kind).get? key = (featuresFor (lookupOf root kind) key).getLast?) ∧
    (∀ root d, ofJson root = .ok d → ∀ value : Json, value.object? = none →
      (∀ s : Section, ofJson (root.putMember s.key value) = .ok (d.withoutSection s)) ∧
      ∀ kind, ofJson (putLookup root kind value) = .ok (d.withoutLookup kind)) ∧
    (∀ depth root, ofJson (dropComments depth root) = ofJson root) ∧
    (∀ text root d, Json.parse? text = some root → ofJson root = .ok d →
      (∀ s id, entriesFor (sectionOf root s) id =
        ((Json.object (sectionOf root s)).member? id).toList) ∧
      ∀ kind, ((lookupOf root kind).map Prod.fst).Pairwise (· < ·)) := by
  have hrule : ∀ root d, ofJson root = .ok d → ∀ s, s ≠ .html → ∀ id, d.ruleFor? s id =
      if isComment id then none
      else ((entriesFor (sectionOf root s) id).filterMap (rule? id)).getLast? := by
    intro root d h s hs id
    obtain ⟨content, rfl, hread⟩ := exists_of_ofJson h
    rw [hread.ruleFor? hs, get?_rulesOf]
  refine ⟨fun _ => ofJson_eq_error_iff, hrule, ?_, ?_, ?_, ofJson_dropComments, ?_⟩
  · intro root root' d d' h h' s hs id hsame
    rw [hrule root d h s hs, hrule root' d' h' s hs, hsame]
  · intro root d h kind key
    obtain ⟨content, rfl, hread⟩ := exists_of_ofJson h
    rw [hread.html, get?_entriesOf]
  · intro root d h value hvalue
    obtain ⟨content, rfl, hread⟩ := exists_of_ofJson h
    refine ⟨fun s => ?_, fun kind => ?_⟩
    · exact ofJson_eq_ok_iff.2 (ofJson?_object.2 (hread.putMember s hvalue))
    · exact ofJson_eq_ok_iff.2 (hread.putLookup kind hvalue)
  · intro text root d hparse h
    obtain ⟨content, rfl, -⟩ := exists_of_ofJson h
    obtain ⟨hsections, hlookups⟩ := sorted_of_parse? hparse
    exact ⟨fun s => entriesFor_of_nodup (nodup_of_increasing (hsections s)), hlookups⟩

end Document

end FeatureScan
