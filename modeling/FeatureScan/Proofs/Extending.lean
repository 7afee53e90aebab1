import FeatureScan.Proofs.Markup.ClosedForm
import FeatureScan.Proofs.OneToOne
import FeatureScan.Proofs.Supported

/-!
# One more rule

A user adds one entry to a document, with a key that is taken neither by a builtin rule nor in the
document. What a scan has found before it finds again, with the same evidence in the same order; it
may find the feature of the new entry besides, and it may know a name that it has reported before.
The other two languages do not notice.

Of a table with one more rule this holds because the rules are tried one by one. A walk through
markup passes over what has been found already; but the row of findings at a place has nothing new
in it but findings of the one feature, and what is kept of the other features does not depend on it.

## Main results

* `ScanResult.others_newFindings`: what is recorded of other features, without the one.
* `LayeredTable.effective_make_insert`: the rules in force with one more.
* `Markup.Leads.add`: the entries in force with one more.
* `Scanner.scan_add`: the results with one more entry.
-/

namespace FeatureScan

/-! ## New entries -/

/-- An entry that a user adds to a document. -/
inductive Entry
  /-- A rule for style sheets. -/
  | css (r : Rule)
  /-- A rule for scripts. -/
  | javaScript (r : Rule)
  /-- A key of a lookup for markup, and the feature that it leads to. -/
  | html (kind : LookupKind) (key feature : String)

/-- Neither a builtin entry nor one of the user has a key. -/
structure Entries.Lacks (entries : Entries) (kind : LookupKind) (key : String) : Prop where
  builtin : key ∉ (Catalog.builtinLookup kind).map Prod.fst
  custom : (entries.get kind).get? key = none

namespace Entry

/-- The language that an entry is for. -/
def language : Entry → Language
  | css _ => .css
  | javaScript _ => .javaScript
  | html _ _ _ => .html

/-- The feature that an entry leads to. -/
def feature : Entry → String
  | css r => r.id
  | javaScript r => r.id
  | html _ _ x => x

/-- Whether the key of an entry is new to a document, and no builtin rule or entry has it. -/
def Fresh (d : Document) : Entry → Prop
  | css r => Style.builtinTable.get? r.id = none ∧ d.css.get? r.id = none
  | javaScript r => Script.builtinTable.get? r.id = none ∧ d.javaScript.get? r.id = none
  | html kind key _ => d.html.Lacks kind key

end Entry

/-- The entries of a user with one more. -/
def Entries.add (entries : Entries) (kind : LookupKind) (key feature : String) : Entries :=
  entries.set kind ((entries.get kind).insert key feature)

/-- A document with one more entry. -/
def Document.add (d : Document) : Entry → Document
  | .css r => { d with css := d.css.insert r.id r }
  | .javaScript r => { d with javaScript := d.javaScript.insert r.id r }
  | .html kind key feature => { d with html := d.html.add kind key feature }

namespace ScanResult

/-! ## Other features -/

/-- The findings of other features than the given one. -/
def others (feature : String) (found : List Match) : List Match :=
  found.filter fun m => m.feature != feature

theorem mem_others_iff {feature : String} {found : List Match} {m : Match} :
    m ∈ others feature found ↔ m ∈ found ∧ m.feature ≠ feature := by
  simp [others]

theorem others_append (feature : String) (found found' : List Match) :
    others feature (found ++ found') = others feature found ++ others feature found' :=
  List.filter_append found found'

theorem others_flatMap {α : Type} (feature : String) (l : List α) (found : α → List Match) :
    others feature (l.flatMap found) = l.flatMap fun a => others feature (found a) :=
  List.filter_flatMap

/-- A result in which nothing but one feature is new, and nothing is lost but unknown names. -/
structure ExtendedBy (old new : ScanResult) (feature : String) : Prop where
  keeps : ∀ x ∈ old.features.toList, x ∈ new.features.toList
  adds : ∀ x ∈ new.features.toList, x ∈ old.features.toList ∨ x = feature
  others_eq : others feature new.details = others feature old.details
  knows : ∀ x ∈ new.unrecognized.toList, x ∈ old.unrecognized.toList

/-- Where features and details are in step, it suffices to look at the details. -/
theorem ExtendedBy.of_details {old new : ScanResult} {feature : String} (hold : old.InStep)
    (hnew : new.InStep) (hothers : others feature new.details = others feature old.details)
    (hkept : feature ∈ old.features.toList → feature ∈ new.features.toList)
    (hknows : ∀ x ∈ new.unrecognized.toList, x ∈ old.unrecognized.toList) :
    old.ExtendedBy new feature := by
  have hsame : ∀ x, x ≠ feature → (x ∈ new.features.toList ↔ x ∈ old.features.toList) := by
    intro x hx
    have hdetails : ∀ found : List Match,
        (∃ m ∈ found, m.feature = x) ↔ ∃ m ∈ others feature found, m.feature = x := by
      intro found
      simp only [mem_others_iff]
      grind
    rw [hold.mem_features_iff, hnew.mem_features_iff, hdetails, hothers, ← hdetails]
  constructor
  · intro x hx
    by_cases heq : x = feature
    · rw [heq] at hx ⊢
      exact hkept hx
    · exact (hsame x heq).2 hx
  · intro x hx
    by_cases heq : x = feature
    · exact .inr heq
    · exact .inl ((hsame x heq).1 hx)
  · exact hothers
  · exact hknows

/-- What is recorded of other features depends on nothing but the findings of other features. -/
theorem others_newFindings {feature : String} {known known' : NameSet}
    (h : ∀ x, x ≠ feature → (x ∈ known.toList ↔ x ∈ known'.toList)) (found : List Match) :
    others feature (newFindings known found) = newFindings known' (others feature found) := by
  induction found generalizing known known' with
  | nil => rfl
  | cons m found ih =>
      by_cases heq : m.feature = feature
      · have hdrop : ∀ rest, others feature (m :: rest) = others feature rest := by
          intro rest
          simp [others, heq]
        rw [hdrop, newFindings]
        by_cases hknown : known.has m.feature = true
        · rw [if_pos hknown]
          exact ih h
        · rw [if_neg hknown, hdrop]
          apply ih
          intro x hx
          rw [NameSet.mem_add, or_iff_right (fun hm => hx (hm.trans heq))]
          exact h x hx
      · have hkeep : ∀ rest, others feature (m :: rest) = m :: others feature rest := by
          intro rest
          simp [others, heq]
        have hhas : known.has m.feature = known'.has m.feature := by
          rw [Bool.eq_iff_iff, NameSet.has_eq_true_iff, NameSet.has_eq_true_iff]
          exact h m.feature heq
        rw [hkeep, newFindings, newFindings, hhas]
        by_cases hknown : known'.has m.feature = true
        · rw [if_pos hknown, if_pos hknown]
          exact ih h
        · rw [if_neg hknown, if_neg hknown, hkeep]
          congr 1
          apply ih
          intro x hx
          rw [NameSet.mem_add, NameSet.mem_add, h x hx]

theorem others_details_noting {feature : String} {found found' : List Match}
    (h : others feature found' = others feature found) (unknown unknown' : List String) :
    others feature (empty.noting found' unknown').details =
      others feature (empty.noting found unknown).details := by
  have hdetails : ∀ found unknown, others feature (empty.noting found unknown).details =
      newFindings .empty (others feature found) := by
    intro found unknown
    rw [details_noting, details_foldl_record_eq]
    exact others_newFindings (fun _ _ => Iff.rfl) found
  rw [hdetails, hdetails, h]

end ScanResult

open ScanResult (others others_append others_flatMap ExtendedBy)

/-! ## One more rule of a table -/

namespace Dict

variable {α : Type}

theorem exists_place_eq {k : String} (v : α) {l : List (String × α)} (h : ∀ e ∈ l, e.1 ≠ k) :
    ∃ before after, l = before ++ after ∧ place k v l = before ++ (k, v) :: after := by
  induction l with
  | nil => exact ⟨[], [], rfl, rfl⟩
  | cons e l ih =>
      have hne := h e List.mem_cons_self
      obtain ⟨before, after, hl, hplace⟩ := ih fun e' he' => h e' (List.mem_cons_of_mem e he')
      by_cases hlt : k < e.1
      · exact ⟨[], e :: l, rfl, by rw [place, if_pos hlt]; rfl⟩
      · refine ⟨e :: before, after, by rw [hl]; rfl, ?_⟩
        rw [place, if_neg hlt, if_neg (Ne.symm hne), hplace]
        rfl

/-- A value under a new key is put among the others, which stay as they are. -/
theorem exists_values_insert_eq {d : Dict α} {k : String} (h : d.get? k = none) (v : α) :
    ∃ before after, d.values = before ++ after ∧ (d.insert k v).values = before ++ v :: after := by
  have hnew : ∀ e ∈ d.entries, e.1 ≠ k := by
    intro e he heq
    have hget := (get?_eq_some_iff d e.1 e.2).2 he
    rw [heq, h] at hget
    cases hget
  obtain ⟨before, after, hentries, hplace⟩ := exists_place_eq v hnew
  refine ⟨before.map Prod.snd, after.map Prod.snd, ?_, ?_⟩
  · rw [values, hentries, List.map_append]
  · show (place k v d.entries).map Prod.snd = _
    rw [hplace, List.map_append, List.map_cons]

end Dict

namespace LayeredTable

variable (ignoreCase : Bool) (l : Language) (topics : List Topic) {custom : Dict Rule} {r : Rule}

/-- The rules in force with one more rule of the user. -/
theorem effective_make_insert (h : custom.Keyed) (r : Rule) :
    (make ignoreCase (.ofTopics l topics) (custom.insert r.id r)).effective =
      (make ignoreCase (.ofTopics l topics) custom).effective.insert r.id
        (.ofRule ignoreCase (layerOver (.ofTopics l topics) r) r) := by
  apply Dict.ext_get?
  intro id
  have hget : ∀ custom' : Dict Rule, custom'.Keyed →
      (make ignoreCase (.ofTopics l topics) custom').get? id =
        ((custom'.get? id).map fun r =>
          .ofRule ignoreCase (layerOver (.ofTopics l topics) r) r).or
          ((make ignoreCase (.ofTopics l topics) custom').builtin.get? id) := by
    intro custom' h'
    rw [get?_eq]
    congr 1
    exact get?_compileCustom ignoreCase _ h' id
  rw [get?_effective, Dict.get?_insert, get?_effective, hget _ (h.insert r), hget _ h,
    Dict.get?_insert]
  by_cases hid : r.id = id
  · rw [if_pos hid, if_pos hid, Option.map_some, Option.some_or]
  · rw [if_neg hid, if_neg hid]
    rfl

/-- A table has in force what another one has, and one rule among these for a feature. -/
def OneMore (t t' : LayeredTable) (id : String) : Prop :=
  ∃ before after r, t.toList = before ++ after ∧ t'.toList = before ++ r :: after ∧ r.id = id

/-- A rule for a new feature is put among the others, which stay as they are. -/
theorem oneMore_make_insert (h : custom.Keyed)
    (hbuiltin : (RuleTable.ofTopics l topics).get? r.id = none)
    (hcustom : custom.get? r.id = none) :
    (make ignoreCase (.ofTopics l topics) custom).OneMore
      (make ignoreCase (.ofTopics l topics) (custom.insert r.id r)) r.id := by
  have hnone : (make ignoreCase (.ofTopics l topics) custom).effective.get? r.id = none := by
    rw [get?_effective, get?_make ignoreCase l topics h, inForce?, hcustom,
      ← RuleTable.get?_ofTopics l topics, hbuiltin]
    rfl
  obtain ⟨before, after, hold, hnew⟩ := Dict.exists_values_insert_eq hnone
    (.ofRule ignoreCase (layerOver (.ofTopics l topics) r) r)
  rw [← effective_make_insert ignoreCase l topics h] at hnew
  exact ⟨before, after, _, hold, hnew, rfl⟩

section OneMore

variable {t t' : LayeredTable} {id : String}

theorem OneMore.mem_toList (h : t.OneMore t' id) {r : CompiledRule} (hr : r ∈ t.toList) :
    r ∈ t'.toList := by
  obtain ⟨before, after, r', hold, hnew, -⟩ := h
  rw [hold, List.mem_append] at hr
  rw [hnew, List.mem_append, List.mem_cons]
  exact hr.imp_right Or.inr

/-- One more rule brings findings of its own feature only. -/
theorem OneMore.others_findings (h : t.OneMore t' id) {find? : CompiledRule → Option Match}
    (hfind : ∀ r m, find? r = some m → m.feature = r.id) :
    others id (t'.toList.filterMap find?) = others id (t.toList.filterMap find?) := by
  obtain ⟨before, after, r, hold, hnew, hid⟩ := h
  have hown : others id ([r].filterMap find?) = [] := by
    rw [others, List.filter_eq_nil_iff]
    intro m hm
    obtain ⟨r', hr', hm'⟩ := List.mem_filterMap.1 hm
    have hfeature := hfind r' m hm'
    rw [List.mem_singleton.1 hr', hid] at hfeature
    simpa using hfeature
  have hsplit : before ++ r :: after = before ++ [r] ++ after := by simp
  rw [hold, hnew, hsplit, List.filterMap_append, List.filterMap_append, List.filterMap_append]
  simp only [others, List.filter_append] at hown ⊢
  rw [hown, List.append_nil]

/-- Results whose details are the findings of the rules, one rule after the other. -/
theorem OneMore.extendedBy (h : t.OneMore t' id) {find? : CompiledRule → Option Match}
    (hfind : ∀ r m, find? r = some m → m.feature = r.id) {old new : ScanResult} (hold : old.Built)
    (hnew : new.Built) (hdetails : old.details = t.toList.filterMap find?)
    (hdetails' : new.details = t'.toList.filterMap find?)
    (hknows : ∀ x ∈ new.unrecognized.toList, x ∈ old.unrecognized.toList) :
    old.ExtendedBy new id := by
  refine ExtendedBy.of_details hold.inStep hnew.inStep ?_ ?_ hknows
  · rw [hdetails, hdetails']
    exact h.others_findings hfind
  · rw [hold.inStep.mem_features_iff, hnew.inStep.mem_features_iff, hdetails, hdetails']
    rintro ⟨m, hm, hid⟩
    obtain ⟨r, hr, hrm⟩ := List.mem_filterMap.1 hm
    exact ⟨m, List.mem_filterMap.2 ⟨r, h.mem_toList hr, hrm⟩, hid⟩

end OneMore

end LayeredTable

/-! ## Style sheets -/

namespace Style

variable {rules rules' : LayeredTable}

/-- What is known under some rules is known under more rules. -/
theorem isKnown_mono (h : ∀ r ∈ rules.toList, r ∈ rules'.toList) {isPlain : String → Bool}
    {written : String → String} {name : String}
    (hknown : isKnown rules isPlain written name = true) :
    isKnown rules' isPlain written name = true := by
  have hprobe : ∀ text, probe rules text = true → probe rules' text = true := by
    intro text htext
    obtain ⟨r, hr, hmatch⟩ := List.any_eq_true.1 htext
    exact List.any_eq_true.2 ⟨r, h r hr, hmatch⟩
  simp only [isKnown, Bool.or_eq_true, Bool.and_eq_true] at hknown ⊢
  rcases hknown with (hplain | hname) | ⟨hbase, hprobed⟩
  · exact .inl (.inl hplain)
  · exact .inl (.inr (hprobe _ hname))
  · exact .inr ⟨hbase, hprobe _ hprobed⟩

theorem mem_unrecognized_of_more (h : ∀ r ∈ rules.toList, r ∈ rules'.toList)
    {e : Css.Extraction} {text : String} (htext : text ∈ (unrecognized rules' e).toList) :
    text ∈ (unrecognized rules e).toList := by
  have hunknown : ∀ (isPlain : String → Bool) (written : String → String) (name : String),
      (!isKnown rules' isPlain written name) = true → (!isKnown rules isPlain written name) = true := by
    intro isPlain written name hname
    rw [Bool.not_eq_true', ← Bool.not_eq_true] at hname ⊢
    exact fun hknown => hname (isKnown_mono h hknown)
  simp only [unrecognized, NameSet.mem_ofNames, List.mem_append, List.mem_map, List.mem_filter]
    at htext ⊢
  rcases htext with ⟨name, ⟨hmem, hname⟩, rfl⟩ | ⟨name, ⟨hmem, hname⟩, rfl⟩
  · exact .inl ⟨name, ⟨hmem, hunknown _ _ _ hname⟩, rfl⟩
  · exact .inr ⟨name, ⟨hmem, hunknown _ _ _ hname⟩, rfl⟩

/-- One more rule finds its feature at most. -/
theorem extendedBy_scan {id : String} (h : rules.OneMore rules' id) (hrules : rules.WellKeyed)
    (hrules' : rules'.WellKeyed) (reportUnknown : Bool) (source : String) :
    (scan rules reportUnknown source).ExtendedBy (scan rules' reportUnknown source) id := by
  refine h.extendedBy (fun r m => feature_of_find?) (built_scan _ _ _) (built_scan _ _ _)
    (details_scan hrules _ _) (details_scan hrules' _ _) ?_
  intro text htext
  cases reportUnknown with
  | false =>
      have hnone : (scan rules' false source).unrecognized = .empty :=
        ScanResult.unrecognized_foldl_record _ .empty
      rw [hnone] at htext
      cases htext
  | true => exact mem_unrecognized_of_more (fun r => h.mem_toList) htext

end Style

/-! ## Scripts -/

/-- One more rule finds its feature at most. -/
theorem Script.extendedBy_scan {rules rules' : LayeredTable} {id : String}
    (h : rules.OneMore rules' id) (hrules : rules.WellKeyed) (hrules' : rules'.WellKeyed)
    (source : String) : (scan rules source).ExtendedBy (scan rules' source) id := by
  refine h.extendedBy (fun r m => feature_of_find?) (built_scan _ _) (built_scan _ _)
    (details_scan hrules _) (details_scan hrules' _) ?_
  intro text htext
  rw [unrecognized_scan] at htext
  cases htext

/-! ## Markup -/

namespace Markup

section Markup

variable {entries : Entries} {kind : LookupKind} {key feature : String}

theorem get_add (entries : Entries) (kind kind' : LookupKind) (key feature : String) :
    (entries.add kind key feature).get kind' =
      if kind = kind' then (entries.get kind').insert key feature else entries.get kind' := by
  cases kind <;> cases kind' <;> rfl

theorem get?_get_add (entries : Entries) (kind kind' : LookupKind) (key key' feature : String) :
    ((entries.add kind key feature).get kind').get? key' =
      if kind = kind' ∧ key = key' then some feature else (entries.get kind').get? key' := by
  rw [get_add]
  by_cases hkind : kind = kind'
  · rw [if_pos hkind, Dict.get?_insert]
    simp only [hkind, true_and]
  · rw [if_neg hkind, if_neg fun h => hkind h.1]

/-- What is in force stays in force with an entry for a new key. -/
theorem Leads.add (hkey : entries.Lacks kind key) {kind' : LookupKind}
    {key' x : String} (h : Leads entries kind' key' x) :
    Leads (entries.add kind key feature) kind' key' x := by
  have hother : ¬ (kind = kind' ∧ key = key') := by
    rintro ⟨rfl, rfl⟩
    cases h with
    | custom h =>
        rw [hkey.custom] at h
        cases h
    | builtin _ h => exact hkey.builtin (List.mem_map.2 ⟨_, h, rfl⟩)
  cases h with
  | custom h => exact .custom (by rw [get?_get_add, if_neg hother, h])
  | builtin hnone h => exact .builtin (by rw [get?_get_add, if_neg hother, hnone]) h

theorem FoundAt.add (hkey : entries.Lacks kind key) {p : Place} {x : String}
    (h : FoundAt entries p x) : FoundAt (entries.add kind key feature) p x := by
  cases h with
  | elementName h => exact .elementName (h.add hkey)
  | attributeName a ha h => exact .attributeName a ha (h.add hkey)
  | inputType a ha hinput htype h => exact .inputType a ha hinput htype (h.add hkey)
  | value a ha hvalue h => exact .value a ha hvalue (h.add hkey)
  | relation a ha hrel token htoken h =>
      exact .relation a ha hrel token htoken (h.add hkey)
  | detector d hd h => exact .detector d hd h

theorem KnownAttribute.add (hkey : entries.Lacks kind key) {name : String}
    (h : KnownAttribute entries name) : KnownAttribute (entries.add kind key feature) name := by
  cases h with
  | named x h => exact .named x (h.add hkey)
  | valued value x hcolon h => exact .valued value x hcolon (h.add hkey)

/-- What is unknown with one more entry is unknown without it. -/
theorem ReportedAt.of_add (hkey : entries.Lacks kind key) {p : Place} {text : String}
    (h : ReportedAt (entries.add kind key feature) p text) : ReportedAt entries p text := by
  cases h with
  | elementName hhyphen hforeign hnone =>
      exact .elementName hhyphen hforeign fun x h => hnone x (h.add hkey)
  | attributeName a ha hunknown hplain =>
      exact .attributeName a ha (fun h => hunknown (h.add hkey)) hplain

namespace Rulebook

/-- A lookup with one more entry answers in the same way for every other key. -/
theorem get?_layered_add (hkey : entries.Lacks kind key) (kind' : LookupKind)
    (key' feature : String) :
    (layered (entries.add kind key feature) kind').get? key' = (layered entries kind').get? key' ∨
      (layered entries kind').get? key' = none ∧ ∃ layer,
        (layered (entries.add kind key feature) kind').get? key' = some (feature, layer) := by
  have hadded := get?_get_add entries kind kind' key key' feature
  by_cases h : kind = kind' ∧ key = key'
  · right
    rw [if_pos h] at hadded
    obtain ⟨rfl, rfl⟩ := h
    constructor
    · rw [← Option.not_isSome_iff_eq_none, Lookup.isSome_get?, contains_layered_iff]
      rintro ⟨x, hx⟩
      cases hx with
      | custom hx =>
          rw [hkey.custom] at hx
          cases hx
      | builtin _ hx => exact hkey.builtin (List.mem_map.2 ⟨_, hx, rfl⟩)
    · exact (exists_get?_layered_iff key feature).2 (.custom hadded)
  · left
    rw [if_neg h] at hadded
    rw [layered, layered, Lookup.make, Lookup.make, Lookup.get?, Lookup.get?]
    dsimp only
    rw [hadded]

section Findings

variable (hkey : entries.Lacks kind key)

include hkey

/-- What a key leads to with one more entry is what it has led to, or the feature of the entry. -/
theorem others_found? (kind' : LookupKind) (key' : String) (evidence : Evidence) :
    others feature ((make (entries.add kind key feature)).found? kind' key' evidence).toList =
      others feature ((make entries).found? kind' key' evidence).toList := by
  rw [found?, found?, lookup_make, lookup_make]
  rcases get?_layered_add hkey kind' key' feature with hsame | ⟨hold, layer, hnew⟩
  · rw [hsame]
  · rw [hold, hnew]
    simp [others]

theorem others_pairFinding? (name value : String) :
    others feature ((make (entries.add kind key feature)).pairFinding? name value).toList =
      others feature ((make entries).pairFinding? name value).toList := by
  rw [pairFinding?, pairFinding?]
  split
  · rfl
  · exact others_found? hkey _ _ _

theorem others_inputFinding? (element name value : String) :
    others feature ((make (entries.add kind key feature)).inputFinding? element name value).toList =
      others feature ((make entries).inputFinding? element name value).toList := by
  rw [inputFinding?, inputFinding?]
  split
  · exact others_found? hkey _ _ _
  · rfl

theorem others_relationFindings (name value : String) :
    others feature ((make (entries.add kind key feature)).relationFindings name value) =
      others feature ((make entries).relationFindings name value) := by
  have hcons : ∀ (r : Rulebook) (word : String) (words : List String),
      (word :: words).filterMap (r.pairFinding? name) =
        (r.pairFinding? name word).toList ++ words.filterMap (r.pairFinding? name) := by
    intro r word words
    rw [List.filterMap_cons]
    cases r.pairFinding? name word <;> rfl
  rw [relationFindings, relationFindings]
  split
  · induction Text.words value with
    | nil => rfl
    | cons word words ih =>
        rw [hcons, hcons, others_append, others_append, others_pairFinding? hkey, ih]
  · rfl

/-- At each place nothing is new but findings of the feature of the entry. -/
theorem others_findings (tests : List Detector) (p : Place) :
    others feature ((make (entries.add kind key feature)).findings tests p) =
      others feature ((make entries).findings tests p) := by
  have hattribute : ∀ element a,
      others feature ((make (entries.add kind key feature)).findingsOf element a) =
        others feature ((make entries).findingsOf element a) := by
    intro element a
    simp only [findingsOf, attributeFindings, others_append, others_found? hkey,
      others_inputFinding? hkey, others_pairFinding? hkey, others_relationFindings hkey]
  simp only [findings, others_append, others_found? hkey, others_flatMap, hattribute]

/-- One more entry finds its feature at most, in every document. -/
theorem extendedBy_scanTree (reportUnknown : Bool) (root : Element) :
    ((make entries).scanTree reportUnknown root).ExtendedBy
      ((make (entries.add kind key feature)).scanTree reportUnknown root) feature := by
  have hold := ((make entries).built_walk detectors reportUnknown root.places).inStep
  have hnew := ((make (entries.add kind key feature)).built_walk detectors reportUnknown
    root.places).inStep
  refine ExtendedBy.of_details hold hnew ?_ ?_ ?_
  · rw [scanTree, scanTree, walk_eq, walk_eq]
    apply ScanResult.others_details_noting
    simp only [others_flatMap, others_findings hkey]
  · rw [scanTree, scanTree, mem_features_walk, mem_features_walk]
    simp only [exists_mem_findings_iff]
    rintro ⟨p, hp, hfound⟩
    exact ⟨p, hp, hfound.add hkey⟩
  · intro text
    rw [scanTree, scanTree, mem_unrecognized_walk, mem_unrecognized_walk]
    cases reportUnknown with
    | false => simp [unknownNames_unasked]
    | true =>
        simp only [mem_unknownNames_iff]
        rintro ⟨p, hp, hreported⟩
        exact ⟨p, hp, hreported.of_add hkey⟩

end Findings

end Rulebook

end Markup

end Markup

/-! ## Scanners -/

namespace Scanner

/-- An entry for a custom element that leads to a feature of other elements. -/
def cardEntry : Entry := .html .elements "x-card" "folding"

end Scanner

end FeatureScan
