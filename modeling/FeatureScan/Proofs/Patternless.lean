import FeatureScan.Proofs.Css.Joining
import FeatureScan.Proofs.Extending
import FeatureScan.Proofs.Membership

/-!
# Entries without a pattern

An entry of a user's document may hold no pattern: it is no object, or has no patterns, or what it
gives for patterns is neither a string nor a list with a string in it. Such an entry is passed over
when the document is read, with one exception. An entry that gives a list is taken for a rule, even
if the list is empty. A rule without patterns finds nothing, yet it takes the place of a builtin
rule for its feature. A scan is then what it would be if nobody had a rule for the feature.

A scan looks at the rules in force that have patterns, and at no others. So the two tables, with the
rule that finds nothing and without any rule for the feature, are compared by these alone.

## Main results

* `Document.ofJson?_withoutEntry`: a document without an entry is read without its rule.
* `Document.isSome_get?_rulesOf_iff`: which entries without a pattern are taken for rules.
* `Style.scan_congr`, `Script.scan_congr`: a scan depends on the rules that have patterns.
* `Style.scan_erase_eq_iff`, `Script.scan_erase_eq_iff`: when a feature is not missed.
* `Scanner.scan_of_patternless`: what becomes of a scan under an entry without a pattern.
-/

namespace FeatureScan

/-! ## Dictionaries without some keys -/

namespace Dict

variable {α : Type}

theorem filter_insert (p : String → Bool) (d : Dict α) (k : String) (v : α) :
    (d.insert k v).filter (fun k _ => p k) =
      if p k then (d.filter fun k _ => p k).insert k v else d.filter fun k _ => p k := by
  refine ext_get? fun k' => ?_
  by_cases hk : k = k'
  · subst hk
    cases hp : p k <;> simp [get?_filter, get?_insert, hp]
  · cases hp : p k <;> simp [get?_filter, get?_insert, hk]

/-- Pairs with some keys left out make the dictionary without these keys. -/
theorem ofList_filter (p : String → Bool) (l : List (String × α)) :
    ofList (l.filter fun e => p e.1) = (ofList l).filter fun k _ => p k := by
  have hfold : ∀ d : Dict α,
      (l.filter fun e => p e.1).foldl (fun d e => d.insert e.1 e.2) (d.filter fun k _ => p k) =
        (l.foldl (fun d e => d.insert e.1 e.2) d).filter fun k _ => p k := by
    induction l with
    | nil => exact fun d => rfl
    | cons e l ih =>
        intro d
        rw [List.foldl_cons, ← ih, filter_insert, List.filter_cons]
        split <;> rfl
  exact hfold empty

theorem filter_eq_self {d : Dict α} {k : String} (h : d.get? k = none) :
    d.filter (fun k' _ => k' != k) = d := by
  refine ext_get? fun k' => ?_
  rw [get?_filter]
  by_cases hk : k' = k
  · rw [hk, h]
    rfl
  · cases d.get? k' <;> simp [hk]

theorem Keyed.filter {rules : Dict Rule} (h : rules.Keyed) (p : String → Rule → Bool) :
    (rules.filter p).Keyed := fun e he => h e (List.mem_filter.1 he).1

end Dict

/-! ## Entries -/

namespace Document

/-- An entry holds a pattern: a string, or a list with a string in it. -/
inductive HoldsPattern (entry : Json) : Prop
  | single {s : String} (h : entry.member? "patterns" = some (.string s))
  | listed {items : List Json} {s : String} (h : entry.member? "patterns" = some (.array items))
      (hs : .string s ∈ items)

/-- An entry for an id gives a list of patterns, whatever is in it, and the id is no comment. -/
def TakenAsRule (root : Json) (s : Section) (id : String) : Prop :=
  isComment id = false ∧ ∃ entry items,
    (id, entry) ∈ sectionOf root s ∧ entry.member? "patterns" = some (.array items)

/-- A section without the entry for an id. -/
def dropEntry (id : String) : Json → Json
  | .object content => .object (content.filter fun m => m.1 != id)
  | j => j

/-- A value without the entry for an id in one section. -/
def withoutEntry (root : Json) (s : Section) (id : String) : Json :=
  match root with
  | .object content =>
    .object (content.map fun m => if m.1 == s.key then (m.1, dropEntry id m.2) else m)
  | j => j

/-- A document without the rule for an id in one section. -/
def erase (d : Document) (s : Section) (id : String) : Document :=
  match s with
  | .css => { d with css := d.css.filter fun k _ => k != id }
  | .javaScript => { d with javaScript := d.javaScript.filter fun k _ => k != id }
  | .html => d

section Reading

variable {root : Json} {s : Section} {id : String}

theorem member?_withoutEntry (root : Json) (s : Section) (id key : String) :
    (withoutEntry root s id).member? key =
      (root.member? key).map fun j => if key == s.key then dropEntry id j else j := by
  cases root with
  | object content =>
      simp only [withoutEntry, Json.member?, Json.object?, Option.bind_eq_bind, Option.bind_some]
      induction content with
      | nil => rfl
      | cons m content ih =>
          have hkey : (if m.1 == s.key then (m.1, dropEntry id m.2) else m).1 = m.1 := by
            split <;> rfl
          rw [List.map_cons, List.find?_cons, List.find?_cons, hkey]
          by_cases hm : m.1 = key
          · subst hm
            simp only [beq_self_eq_true, Option.map_some]
            split <;> rfl
          · rw [beq_eq_false_iff_ne.2 hm]
            exact ih
  | _ => rfl

theorem sectionOf_withoutEntry (root : Json) (s s' : Section) (id : String) :
    sectionOf (withoutEntry root s id) s' =
      if s' = s then (sectionOf root s').filter fun m => m.1 != id else sectionOf root s' := by
  have hkeys : (s'.key == s.key) = decide (s' = s) := by cases s <;> cases s' <;> decide
  rw [sectionOf, sectionOf, member?_withoutEntry, hkeys]
  by_cases hs : s' = s
  · rw [if_pos hs]
    cases hmember : root.member? s'.key with
    | none => rfl
    | some j => cases j <;> simp [hs, dropEntry, Json.object?]
  · rw [if_neg hs]
    simp [hs]

theorem rulesOf_filter (content : List (String × Json)) (id : String) :
    rulesOf (content.filter fun m => m.1 != id) = (rulesOf content).filter fun k _ => k != id := by
  rw [rulesOf, rulesOf, ← Dict.ofList_filter]
  congr 1
  rw [members, members, List.filter_filter, List.filterMap_filter, List.filter_filterMap,
    List.filterMap_filter]
  refine List.filterMap_congr fun m _ => ?_
  cases hcomment : isComment m.1 <;> cases hid : m.1 != id <;> cases rule? m.1 m.2 <;>
    simp [Option.filter_some, hid]

/-- A document without an entry for a style sheet or script is read without its rule. -/
theorem ofJson?_withoutEntry (hs : s ≠ .html) (root : Json) (id : String) :
    ofJson? (withoutEntry root s id) = (ofJson? root).map fun d => d.erase s id := by
  have hobject : (withoutEntry root s id).object?.isSome = root.object?.isSome := by
    cases root <;> rfl
  have hlookup : ∀ kind, lookupOf (withoutEntry root s id) kind = lookupOf root kind := fun kind => by
    rw [lookupOf, lookupOf, sectionOf_withoutEntry, if_neg (Ne.symm hs)]
  rw [ofJson?, ofJson?]
  simp only [hlookup]
  cases hold : root.object? with
  | none =>
      rw [hold, Option.isSome_none, Option.isSome_eq_false_iff, Option.isNone_iff_eq_none] at hobject
      rw [hobject]
      rfl
  | some content =>
      rw [hold] at hobject
      obtain ⟨content', hnew⟩ := Option.isSome_iff_exists.1 hobject
      rw [hnew, Option.map_some, Option.map_some, Option.map_some, sectionOf_withoutEntry,
        sectionOf_withoutEntry]
      cases s with
      | css => simp only [erase, if_true, reduceCtorEq, if_false, rulesOf_filter]
      | javaScript => simp only [erase, if_true, reduceCtorEq, if_false, rulesOf_filter]
      | html => exact absurd rfl hs

/-- The rules for a style sheet or script are read from their section. -/
theorem rulesFor_of_ofJson? {d : Document} (h : ofJson? root = some d) {l : Language}
    (hl : l ≠ .html) : d.rulesFor l = rulesOf (sectionOf root l.ruleSection) := by
  obtain ⟨content, -, rfl⟩ := Option.map_eq_some_iff.1 h
  cases l with
  | css => rfl
  | javaScript => rfl
  | html => exact absurd rfl hl

theorem get?_rulesFor_erase (d : Document) {l : Language} (hl : l ≠ .html) (id : String) :
    ((d.erase l.ruleSection id).rulesFor l).get? id = none := by
  have hnone : ∀ rules : Dict Rule, (rules.filter fun k _ => k != id).get? id = none := fun rules => by
    rw [Dict.get?_filter]
    cases rules.get? id <;> simp [Option.filter_some]
  cases l with
  | css => exact hnone d.css
  | javaScript => exact hnone d.javaScript
  | html => exact absurd rfl hl

theorem erase_of_none {d : Document} {l : Language} (hl : l ≠ .html)
    (h : (d.rulesFor l).get? id = none) : d.erase l.ruleSection id = d := by
  cases l with
  | css =>
      have hsame : d.css.filter (fun k _ => k != id) = d.css := Dict.filter_eq_self h
      simp only [Language.ruleSection, erase, hsame]
  | javaScript =>
      have hsame : d.javaScript.filter (fun k _ => k != id) = d.javaScript := Dict.filter_eq_self h
      simp only [Language.ruleSection, erase, hsame]
  | html => exact absurd rfl hl

/-- Of an entry without a pattern no pattern is taken; it is taken for a rule if it gives a list. -/
theorem patterns?_of_not_holdsPattern {entry : Json} (h : ¬ HoldsPattern entry) :
    (∀ ps, patterns? entry = some ps → ps = []) ∧
      ((patterns? entry).isSome = true ↔
        ∃ items, entry.member? "patterns" = some (.array items)) := by
  unfold patterns?
  split
  · rename_i items hitems
    constructor
    · rintro ps heq
      obtain rfl := Option.some.inj heq
      rw [stringItems, List.filterMap_eq_nil_iff]
      intro item hitem
      cases item with
      | string s => exact absurd (.listed hitems hitem) h
      | _ => rfl
    · exact ⟨fun _ => ⟨items, hitems⟩, fun _ => rfl⟩
  · rename_i s hsingle
    exact absurd (.single hsingle) h
  · rename_i hlist _
    refine ⟨fun ps heq => ?_, fun hsome => ?_, ?_⟩
    · cases heq
    · cases hsome
    · rintro ⟨items, hitems⟩
      exact absurd hitems (hlist items)

section Patternless

variable {content : List (String × Json)} (h : ∀ entry, (id, entry) ∈ content → ¬ HoldsPattern entry)

include h

/-- Whatever is read for the id has no patterns. -/
theorem patterns_of_get?_rulesOf {r : Rule} (hr : (rulesOf content).get? id = some r) :
    r.patterns = [] := by
  obtain ⟨m, hm, hrule⟩ := List.mem_filterMap.1 (Dict.mem_ofList ((Dict.get?_eq_some_iff _ id r).1 hr))
  obtain ⟨r', hr', heq⟩ := Option.map_eq_some_iff.1 hrule
  obtain ⟨rfl, rfl⟩ := Prod.mk.inj heq
  obtain ⟨ps, hps, rfl⟩ := Option.map_eq_some_iff.1 hr'
  exact (patterns?_of_not_holdsPattern (h m.2 (List.mem_filter.1 hm).1)).1 ps hps

/-- An entry without a pattern is taken for a rule if and only if it gives a list and its id is no
comment. -/
theorem isSome_get?_rulesOf_iff :
    ((rulesOf content).get? id).isSome = true ↔
      isComment id = false ∧ ∃ entry items,
        (id, entry) ∈ content ∧ entry.member? "patterns" = some (.array items) := by
  have hread : ∀ entry, (rule? id entry).isSome = (patterns? entry).isSome := fun entry => by
    rw [rule?, Option.isSome_map]
  rw [← Dict.contains, rulesOf, Dict.contains_ofList, List.mem_map]
  constructor
  · rintro ⟨e, he, rfl⟩
    obtain ⟨m, hm, hrule⟩ := List.mem_filterMap.1 he
    obtain ⟨r, hr, rfl⟩ := Option.map_eq_some_iff.1 hrule
    have hmem := (List.mem_filter.1 hm).1
    have hsome : (patterns? m.2).isSome = true := by
      rw [← hread, hr]
      rfl
    obtain ⟨items, hitems⟩ := (patterns?_of_not_holdsPattern (h m.2 hmem)).2.1 hsome
    exact ⟨isComment_of_mem_members hm, m.2, items, hmem, hitems⟩
  · rintro ⟨hcomment, entry, items, hmem, hitems⟩
    have hsome := (patterns?_of_not_holdsPattern (h entry hmem)).2.2 ⟨items, hitems⟩
    rw [← hread] at hsome
    obtain ⟨r, hr⟩ := Option.isSome_iff_exists.1 hsome
    refine ⟨(id, r), List.mem_filterMap.2 ⟨(id, entry), ?_, by rw [hr]; rfl⟩, rfl⟩
    exact List.mem_filter.2 ⟨hmem, by simp [hcomment]⟩

end Patternless

end Reading

end Document

/-! ## Tables without the rules for a feature -/

/-- What is made of the items that a test accepts is what is made of all, if nothing is made of the
others. -/
theorem List.filterMap_filter_of_none {α β : Type} {f : α → Option β} {q : α → Bool}
    (h : ∀ a, q a = false → f a = none) (l : List α) : (l.filter q).filterMap f = l.filterMap f := by
  rw [List.filterMap_filter]
  refine List.filterMap_congr fun a _ => ?_
  cases hq : q a with
  | true => rfl
  | false => simp [h a hq]

/-- Whether a rule has patterns. -/
def CompiledRule.hasPatterns (r : CompiledRule) : Bool := !r.patterns.isEmpty

namespace LayeredTable

/-- A table without the rules for a feature, in either layer. -/
def erase (t : LayeredTable) (id : String) : LayeredTable :=
  { t with
    builtin := t.builtin.filter fun k _ => k != id
    custom := t.custom.filter fun k _ => k != id }

theorem get?_erase (t : LayeredTable) (id k : String) :
    (t.erase id).get? k = (t.get? k).filter fun _ => k != id := by
  rw [get?_eq, get?_eq, erase, Dict.get?_filter, Dict.get?_filter]
  cases hk : k != id <;> cases t.custom.get? k <;> cases t.builtin.get? k <;>
    simp [Option.filter_some]

theorem WellKeyed.erase {t : LayeredTable} (h : t.WellKeyed) (id : String) :
    (t.erase id).WellKeyed := by
  intro k r hr
  rw [get?_erase, Option.filter_eq_some_iff] at hr
  exact h k r hr.1

theorem mem_of_mem_toList_erase {t : LayeredTable} {id : String} {r : CompiledRule}
    (h : r ∈ (t.erase id).toList) : r ∈ t.toList := by
  obtain ⟨k, hk⟩ := (mem_toList _ r).1 h
  rw [get?_erase, Option.filter_eq_some_iff] at hk
  exact (mem_toList t r).2 ⟨k, hk.1⟩

/-- Tables that answer alike, as far as a test accepts the answers, have the same such rules in
force, in the same order. -/
theorem filter_toList_congr {t t' : LayeredTable} {q : CompiledRule → Bool}
    (h : ∀ k, (t.get? k).filter q = (t'.get? k).filter q) :
    t.toList.filter q = t'.toList.filter q := by
  have hvalues : ∀ t : LayeredTable,
      t.toList.filter q = (t.effective.filter fun _ r => q r).values := by
    intro t
    rw [toList, Dict.values, List.filter_map]
    rfl
  have heffective : t.effective.filter (fun _ r => q r) = t'.effective.filter fun _ r => q r := by
    refine Dict.ext_get? fun k => ?_
    rw [Dict.get?_filter, Dict.get?_filter, get?_effective, get?_effective, h]
  rw [hvalues, hvalues, heffective]

theorem matchesAny_congr {t t' : LayeredTable}
    (h : t.toList.filter CompiledRule.hasPatterns = t'.toList.filter CompiledRule.hasPatterns)
    (s : Subject) : t.matchesAny s = t'.matchesAny s := by
  have hany : ∀ rules : List CompiledRule,
      (rules.any fun r => r.patterns.any fun p => p.occursIn s) =
        (rules.filter CompiledRule.hasPatterns).any fun r =>
          r.patterns.any fun p => p.occursIn s := by
    intro rules
    rw [List.any_filter]
    congr 1
    funext r
    cases hr : r.patterns <;> simp [CompiledRule.hasPatterns, hr]
  rw [matchesAny, matchesAny, hany t.toList, hany t'.toList, h]

section Findings

variable {t : LayeredTable} (h : t.WellKeyed) {find? : CompiledRule → Option Match}
  (hfind : ∀ r m, find? r = some m → m.feature = r.id)

include h hfind

/-- A feature is among the findings if the rule in force for it finds something. -/
theorem exists_mem_findings_iff (id : String) :
    (∃ m ∈ t.toList.filterMap find?, m.feature = id) ↔
      ∃ r, t.get? id = some r ∧ (find? r).isSome = true := by
  constructor
  · rintro ⟨m, hm, rfl⟩
    obtain ⟨r, hr, hfound⟩ := List.mem_filterMap.1 hm
    obtain ⟨k, hk⟩ := (t.mem_toList r).1 hr
    refine ⟨r, ?_, by rw [hfound]; rfl⟩
    rw [hfind r m hfound, h k r hk, hk]
  · rintro ⟨r, hr, hfound⟩
    obtain ⟨m, hm⟩ := Option.isSome_iff_exists.1 hfound
    refine ⟨m, List.mem_filterMap.2 ⟨r, (t.mem_toList r).2 ⟨id, hr⟩, hm⟩, ?_⟩
    rw [hfind r m hm, h id r hr]

/-- The findings without the rules for a feature are those with them if and only if the feature is
not among these. -/
theorem findings_erase_eq_iff (id : String) :
    (t.erase id).toList.filterMap find? = t.toList.filterMap find? ↔
      ¬ ∃ m ∈ t.toList.filterMap find?, m.feature = id := by
  constructor
  · intro heq
    rw [← heq, exists_mem_findings_iff (h.erase id) hfind]
    rintro ⟨r, hr, -⟩
    rw [get?_erase, Option.filter_eq_some_iff] at hr
    simp at hr
  · intro hnot
    rw [exists_mem_findings_iff h hfind] at hnot
    have hsome : ∀ r, (find? r).isSome = false → find? r = none := fun r hr => by simpa using hr
    have hrules : t.toList.filter (fun r => (find? r).isSome) =
        (t.erase id).toList.filter fun r => (find? r).isSome := by
      refine filter_toList_congr fun k => ?_
      rw [get?_erase]
      by_cases hk : k = id
      · subst hk
        cases hget : t.get? k with
        | none => rfl
        | some r =>
            have hnone : ¬ (find? r).isSome = true := fun hr => hnot ⟨r, hget, hr⟩
            simp [Option.filter_some, hnone]
      · cases t.get? k <;> simp [Option.filter_some, hk]
    rw [← List.filterMap_filter_of_none hsome, ← hrules, List.filterMap_filter_of_none hsome]

end Findings

/-- A rule of the user without patterns leaves what there is without any rule for its feature. -/
theorem filter_toList_of_patternless (ignoreCase : Bool) (l : Language) (topics : List Topic)
    {custom : Dict Rule} (h : custom.Keyed) {id : String} {r : Rule} (hr : custom.get? id = some r)
    (hnil : r.patterns = []) :
    (make ignoreCase (.ofTopics l topics) custom).toList.filter CompiledRule.hasPatterns =
      ((make ignoreCase (.ofTopics l topics) (custom.filter fun k _ => k != id)).erase
        id).toList.filter CompiledRule.hasPatterns := by
  refine filter_toList_congr fun k => ?_
  rw [get?_erase, get?_make ignoreCase l topics h, get?_make ignoreCase l topics (h.filter _),
    inForce?, inForce?, Dict.get?_filter]
  by_cases hk : k = id
  · subst hk
    rw [hr]
    simp [Option.filter_some, CompiledRule.ofRule, CompiledRule.hasPatterns, hnil]
  · have hne : (k != id) = true := by simpa using hk
    have hall : ∀ {α : Type} (o : Option α), o.filter (fun _ => true) = o := fun o => by
      cases o <;> rfl
    simp only [hne, hall]

/-- Nothing is left out where there is no rule for the feature. -/
theorem toList_erase_of_none {t : LayeredTable} {id : String} (h : t.get? id = none) :
    (t.erase id).toList = t.toList := by
  have heffective : (t.erase id).effective = t.effective := by
    refine Dict.ext_get? fun k => ?_
    rw [get?_effective, get?_effective, get?_erase]
    by_cases hk : k = id
    · rw [hk, h]
      rfl
    · cases t.get? k <;> simp [Option.filter_some, hk]
  rw [toList, toList, heffective]

theorem get?_make_of_not_mem_supported (ignoreCase : Bool) (l : Language) (topics : List Topic)
    {custom : Dict Rule} (h : custom.Keyed) {id : String} (hcustom : custom.get? id = none)
    (hbuiltin : id ∉ (make ignoreCase (.ofTopics l topics) .empty).supported) :
    (make ignoreCase (.ofTopics l topics) custom).get? id = none := by
  rw [← isSome_origin?_make ignoreCase l topics Dict.keyed_empty, origin?, Option.isSome_map,
    get?_make ignoreCase l topics Dict.keyed_empty, Option.isSome_map, Option.not_isSome_iff_eq_none,
    inForce?, Dict.get?_empty] at hbuiltin
  rw [get?_make ignoreCase l topics h, inForce?, hcustom]
  exact Option.map_eq_none_iff.2 hbuiltin

end LayeredTable

/-! ## Style sheets -/

namespace Style

variable {rules rules' : LayeredTable}

theorem find?_of_not_hasPatterns (s : Subject) (r : CompiledRule) (h : r.hasPatterns = false) :
    find? s r = none := by
  have hnil : r.patterns = [] := by simpa [CompiledRule.hasPatterns] using h
  rw [find?, CompiledRule.matching, hnil]
  rfl

/-- A result is told by the findings of the rules and by what probes say. -/
theorem scan_eq_of_findings {source : String} {reportUnknown : Bool}
    (hfound : rules.toList.filterMap (find? (.ofString (Css.extract source).matchable)) =
      rules'.toList.filterMap (find? (.ofString (Css.extract source).matchable)))
    (hunknown : (scan rules reportUnknown source).unrecognized =
      (scan rules' reportUnknown source).unrecognized) :
    scan rules reportUnknown source = scan rules' reportUnknown source := by
  rw [unrecognized_scan, unrecognized_scan] at hunknown
  cases reportUnknown with
  | false =>
      simp only [scan, scanExtraction, Bool.false_eq_true, if_false]
      rw [hfound]
  | true =>
      have hnames : unrecognized rules (Css.extract source) =
          unrecognized rules' (Css.extract source) := hunknown
      simp only [scan, scanExtraction]
      rw [hfound, hnames]

/-- A scan depends on the rules in force that have patterns. -/
theorem scan_congr
    (h : rules.toList.filter CompiledRule.hasPatterns =
      rules'.toList.filter CompiledRule.hasPatterns)
    (reportUnknown : Bool) (source : String) :
    scan rules reportUnknown source = scan rules' reportUnknown source := by
  have hprobe : probe rules = probe rules' :=
    funext fun text => LayeredTable.matchesAny_congr h (.ofString text)
  refine scan_eq_of_findings ?_ ?_
  · rw [← List.filterMap_filter_of_none (find?_of_not_hasPatterns _) rules.toList, h,
      List.filterMap_filter_of_none (find?_of_not_hasPatterns _)]
  · rw [unrecognized_scan, unrecognized_scan]
    simp only [unrecognized, isKnown, hprobe]

/-- The feature is not missed if it is not found, and no name is unknown without its rules. -/
theorem scan_erase_eq_iff (h : rules.WellKeyed) (id : String) (reportUnknown : Bool)
    (source : String) :
    scan (rules.erase id) reportUnknown source = scan rules reportUnknown source ↔
      id ∉ (scan rules reportUnknown source).features.toList ∧
        ∀ x ∈ (scan (rules.erase id) reportUnknown source).unrecognized.toList,
          x ∈ (scan rules reportUnknown source).unrecognized.toList := by
  have hmissed := LayeredTable.findings_erase_eq_iff h
    (fun r m => feature_of_find? (s := .ofString (Css.extract source).matchable)) id
  rw [← details_scan h reportUnknown, ← details_scan (h.erase id) reportUnknown,
    ← (built_scan rules reportUnknown source).inStep.mem_features_iff] at hmissed
  constructor
  · intro heq
    exact ⟨hmissed.1 (by rw [heq]), fun x hx => by rwa [heq] at hx⟩
  · rintro ⟨hnot, hknown⟩
    have hfound := hmissed.2 hnot
    rw [details_scan h, details_scan (h.erase id)] at hfound
    refine scan_eq_of_findings hfound (NameSet.ext_mem fun x => ⟨hknown x, fun hx => ?_⟩)
    -- With fewer rules nothing becomes known.
    rw [unrecognized_scan] at hx ⊢
    cases reportUnknown with
    | false =>
        rw [if_neg Bool.false_ne_true] at hx
        cases hx
    | true =>
        rw [if_pos rfl] at hx ⊢
        exact mem_unrecognized_of_more (fun r => LayeredTable.mem_of_mem_toList_erase) hx

end Style

/-! ## Scripts -/

namespace Script

variable {rules rules' : LayeredTable}

theorem find?_of_not_hasPatterns (s : Subject) (r : CompiledRule) (h : r.hasPatterns = false) :
    find? s r = none := by
  have hnil : r.patterns = [] := by simpa [CompiledRule.hasPatterns] using h
  rw [find?, CompiledRule.firstMatch?, hnil]
  rfl

/-- A scan depends on the rules in force that have patterns. -/
theorem scan_congr
    (h : rules.toList.filter CompiledRule.hasPatterns =
      rules'.toList.filter CompiledRule.hasPatterns) (source : String) :
    scan rules source = scan rules' source := by
  rw [scan, scan, ← List.filterMap_filter_of_none (find?_of_not_hasPatterns _) rules.toList, h,
    List.filterMap_filter_of_none (find?_of_not_hasPatterns _)]

/-- The feature is not missed if it is not found. -/
theorem scan_erase_eq_iff (h : rules.WellKeyed) (id source : String) :
    scan (rules.erase id) source = scan rules source ↔
      id ∉ (scan rules source).features.toList := by
  have hmissed := LayeredTable.findings_erase_eq_iff h
    (fun r m => feature_of_find? (s := .ofString (withoutComments source))) id
  rw [← details_scan h, ← details_scan (h.erase id),
    ← (built_scan rules source).inStep.mem_features_iff] at hmissed
  rw [← hmissed]
  constructor
  · intro heq
    rw [heq]
  · intro hfound
    rw [details_scan h, details_scan (h.erase id)] at hfound
    rw [scan, scan, hfound]

end Script

/-! ## Scanners -/

namespace Scanner

/-- A scanner without the rules for a feature of style sheets or scripts. -/
def erase (s : Scanner) (id : String) : Scanner :=
  { s with css := s.css.erase id, javaScript := s.javaScript.erase id }

section Make

variable {d : Document} (h : d.Settled) (options : ScanOptions) {l : Language} (hl : l ≠ .html)
  {id : String}

include h hl

/-- Under a rule without patterns a scan is what it is without any rule for the feature. -/
theorem scan_make_of_patternless {r : Rule} (hr : (d.rulesFor l).get? id = some r)
    (hnil : r.patterns = []) (source : String) :
    (make options d).scan l source =
      ((make options (d.erase l.ruleSection id)).erase id).scan l source := by
  cases l with
  | css =>
      exact Style.scan_congr
        (LayeredTable.filter_toList_of_patternless true .css Catalog.styleTopics h.css.keyed hr hnil)
        options.reportUnknown source
  | javaScript =>
      exact Script.scan_congr
        (LayeredTable.filter_toList_of_patternless false .javaScript Catalog.scriptTopics
          h.javaScript.keyed hr hnil) source
  | html => exact absurd rfl hl

omit h in
/-- A feature is not missed if it is not found, and no name is unknown without its rules. -/
theorem scan_erase_eq_iff (d : Document) (id source : String) :
    ((make options d).erase id).scan l source = (make options d).scan l source ↔
      id ∉ ((make options d).scan l source).features.toList ∧
        ∀ x ∈ (((make options d).erase id).scan l source).unrecognized.toList,
          x ∈ ((make options d).scan l source).unrecognized.toList := by
  cases l with
  | css => exact Style.scan_erase_eq_iff (Style.wellKeyed_layered _) id options.reportUnknown source
  | javaScript =>
      have hscript := Script.scan_erase_eq_iff
        (LayeredTable.wellKeyed_make false .javaScript Catalog.scriptTopics d.javaScript) id source
      constructor
      · intro heq
        exact ⟨hscript.1 heq, fun x hx => by rwa [heq] at hx⟩
      · exact fun hmissed => hscript.2 hmissed.1
  | html => exact absurd rfl hl

/-- Nothing is missed of a feature that neither the user nor the builtin table has a rule for. -/
theorem scan_erase_of_no_rule (hcustom : (d.rulesFor l).get? id = none)
    (hbuiltin : id ∉ builtin.value.supported l) (source : String) :
    ((make options d).erase id).scan l source = (make options d).scan l source := by
  cases l with
  | css =>
      have hnone : (Style.layered d.css).get? id = none :=
        LayeredTable.get?_make_of_not_mem_supported true .css Catalog.styleTopics h.css.keyed
          hcustom hbuiltin
      exact Style.scan_congr
        (congrArg (List.filter _) (LayeredTable.toList_erase_of_none hnone))
        options.reportUnknown source
  | javaScript =>
      have hnone : (Script.layered d.javaScript).get? id = none :=
        LayeredTable.get?_make_of_not_mem_supported false .javaScript Catalog.scriptTopics
          h.javaScript.keyed hcustom hbuiltin
      exact Script.scan_congr
        (congrArg (List.filter _) (LayeredTable.toList_erase_of_none hnone)) source
  | html => exact absurd rfl hl

end Make

/-- An entry for a style sheet or script that holds no pattern, on a document that was read,
compared with the document without it. An entry that gives no list of patterns, or whose id is a
comment, changes nothing. One that gives a list is taken for a rule: then a scan finds what is found
without the entry and without a builtin rule for the feature. So the results are the same if there is
no builtin rule, and else for exactly those sources in which the builtin rule finds nothing and makes
no name known. -/
theorem scan_of_patternless {root : Json} {d : Document} (hd : Document.ofJson root = .ok d)
    {l : Language} (hl : l ≠ .html) {id : String}
    (h : ∀ entry, (id, entry) ∈ Document.sectionOf root l.ruleSection →
      ¬ Document.HoldsPattern entry) (options : ScanOptions) :
    ∃ d₀, Document.ofJson (Document.withoutEntry root l.ruleSection id) = .ok d₀ ∧
      (¬ Document.TakenAsRule root l.ruleSection id → d = d₀) ∧
      (Document.TakenAsRule root l.ruleSection id → ∀ source,
        (make options d).scan l source = ((make options d₀).erase id).scan l source) ∧
      (id ∉ builtin.value.supported l → ∀ source,
        (make options d).scan l source = (make options d₀).scan l source) ∧
      ∀ source, (make options d).scan l source = (make options d₀).scan l source ↔
        (Document.TakenAsRule root l.ruleSection id →
          id ∉ ((make options d₀).scan l source).features.toList ∧
            ∀ x ∈ ((make options d).scan l source).unrecognized.toList,
              x ∈ ((make options d₀).scan l source).unrecognized.toList) := by
  have hread := Document.ofJson_eq_ok_iff.1 hd
  have hsettled := Document.settled_of_ofJson? hread
  have hsection : l.ruleSection ≠ .html := by
    cases l <;> first | exact absurd rfl hl | decide
  have hwithout : Document.ofJson? (Document.withoutEntry root l.ruleSection id) =
      some (d.erase l.ruleSection id) := by
    rw [Document.ofJson?_withoutEntry hsection, hread, Option.map_some]
  have hsettled₀ := Document.settled_of_ofJson? hwithout
  have hrules := Document.rulesFor_of_ofJson? hread hl
  have hnone := Document.get?_rulesFor_erase d hl id
  -- What the entry is read as: nothing, or a rule without patterns.
  have htaken := Document.isSome_get?_rulesOf_iff h
  rw [← hrules] at htaken
  have hkept : ¬ Document.TakenAsRule root l.ruleSection id → d = d.erase l.ruleSection id :=
    fun hnot => (Document.erase_of_none hl (Option.not_isSome_iff_eq_none.1 (mt htaken.1 hnot))).symm
  have herased : Document.TakenAsRule root l.ruleSection id → ∀ source, (make options d).scan l source =
      ((make options (d.erase l.ruleSection id)).erase id).scan l source := by
    intro hrule source
    obtain ⟨r, hr⟩ := Option.isSome_iff_exists.1 (htaken.2 hrule)
    have hnil := Document.patterns_of_get?_rulesOf h (hrules ▸ hr)
    exact scan_make_of_patternless hsettled options hl hr hnil source
  refine ⟨_, Document.ofJson_eq_ok_iff.2 hwithout, hkept, herased, ?_, ?_⟩
  · intro hbuiltin source
    by_cases hrule : Document.TakenAsRule root l.ruleSection id
    · rw [herased hrule, scan_erase_of_no_rule hsettled₀ options hl hnone hbuiltin]
    · rw [← hkept hrule]
  · intro source
    by_cases hrule : Document.TakenAsRule root l.ruleSection id
    · rw [herased hrule, scan_erase_eq_iff options hl, imp_iff_right hrule]
    · rw [← hkept hrule]
      exact ⟨fun _ hrule' => absurd hrule' hrule, fun _ => rfl⟩

/-- An object whose entry for a builtin feature gives an empty list of patterns. -/
def hollowRoot : Json :=
  .object [("css", .object [("fontface", .object [("patterns", .array [])])])]

/-- The document that is read from it. -/
def hollowDocument : Document where
  css := .ofList [("fontface", ⟨"fontface", [], "fontface", customCategory, []⟩)]

theorem not_holdsPattern_hollow :
    ∀ entry, ("fontface", entry) ∈ Document.sectionOf hollowRoot .css →
      ¬ Document.HoldsPattern entry := by
  intro entry hentry
  have hsection : Document.sectionOf hollowRoot .css =
      [("fontface", .object [("patterns", .array [])])] := by rfl
  rw [hsection, List.mem_singleton] at hentry
  obtain ⟨-, rfl⟩ := Prod.mk.inj hentry
  rintro (⟨h⟩ | ⟨h, hs⟩)
  · cases h
  · cases h
    cases hs

theorem takenAsRule_hollow : Document.TakenAsRule hollowRoot .css "fontface" :=
  ⟨by decide, _, [], List.mem_singleton.2 rfl, rfl⟩

theorem scan_of_patternless_hollow :
    Document.ofJson hollowRoot = .ok hollowDocument ∧ Language.css ≠ .html ∧
    (∀ entry, ("fontface", entry) ∈ Document.sectionOf hollowRoot .css →
      ¬ Document.HoldsPattern entry) ∧
    ∃ d₀, Document.ofJson (Document.withoutEntry hollowRoot .css "fontface") = .ok d₀ ∧
      (make {} hollowDocument).scan .css "@font-face\x7b\x7d" =
        ((make {} d₀).erase "fontface").scan .css "@font-face\x7b\x7d" := by
  have hroot : Document.ofJson hollowRoot = .ok hollowDocument := by rfl
  obtain ⟨d₀, hd₀, -, herased, -⟩ :=
    scan_of_patternless hroot (l := .css) (by decide) not_holdsPattern_hollow {}
  exact ⟨hroot, by decide, not_holdsPattern_hollow, d₀, hd₀, herased takenAsRule_hollow _⟩

/-- The builtin rule for fonts finds something where the user has none. -/
theorem find?_fontface :
    ((RuleTable.defined Catalog.styleTopics).find? fun r => r.id == "fontface").any (fun r =>
      (r.patterns.filterMap (Pattern.read? true)).any fun p =>
        p.occursIn (.ofString (Css.extract "@font-face\x7b\x7d").matchable)) = true := by
  decide +kernel

/-- An entry with an empty list of patterns disables the builtin rule for its feature. -/
theorem scan_hollow_ne :
    Document.ofJson hollowRoot = .ok hollowDocument ∧
    (∀ entry, ("fontface", entry) ∈ Document.sectionOf hollowRoot .css →
      ¬ Document.HoldsPattern entry) ∧
    Document.ofJson (Document.withoutEntry hollowRoot .css "fontface") = .ok .empty ∧
    "fontface" ∈ ((make {} .empty).scan .css "@font-face\x7b\x7d").features.toList ∧
    "fontface" ∉ ((make {} hollowDocument).scan .css "@font-face\x7b\x7d").features.toList ∧
    (make {} hollowDocument).scan .css "@font-face\x7b\x7d" ≠
      (make {} .empty).scan .css "@font-face\x7b\x7d" := by
  have hfound :
      "fontface" ∈ ((make {} .empty).scan .css "@font-face\x7b\x7d").features.toList := by
    obtain ⟨rule, hrule, hoccurs⟩ := (Option.any_eq_true ..).1 find?_fontface
    obtain ⟨p, hp, hoccurs⟩ := List.any_eq_true.1 hoccurs
    have hbuiltin : Style.builtinTable.get? "fontface" = some rule :=
      (RuleTable.get?_ofTopics .css Catalog.styleTopics "fontface").trans hrule
    refine (Style.mem_features_scan (Style.wellKeyed_layered .empty) _ _ _).2
      ⟨.ofRule true .builtin rule, ?_, p, hp, hoccurs⟩
    rw [Style.get?_layered_empty, hbuiltin, Option.map_some]
  have hmissed :
      "fontface" ∉ ((make {} hollowDocument).scan .css "@font-face\x7b\x7d").features.toList := by
    intro hmem
    obtain ⟨r, hr, p, hp, -⟩ :=
      (Style.mem_features_scan (Style.wellKeyed_layered hollowDocument.css) _ _ _).1 hmem
    have hkeyed : hollowDocument.css.Keyed := by
      intro e he
      obtain rfl := List.mem_singleton.1 he
      rfl
    rw [Style.get?_layered hkeyed] at hr
    obtain rfl := Option.some.inj hr
    cases hp
  exact ⟨by rfl, not_holdsPattern_hollow, by rfl, hfound, hmissed, fun heq =>
    hmissed (by rw [heq]; exact hfound)⟩

end Scanner

end FeatureScan
