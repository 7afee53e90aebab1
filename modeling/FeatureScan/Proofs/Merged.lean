import FeatureScan.Proofs.Effective
import Mathlib.Data.List.Sort

/-!
# Two layers as one list

The rules in force can be told without layers: of each feature the user's rule, or the last
definition where the user has none, listed by feature. A table in two layers keeps the user's rules
and the builtin ones apart, and all that is asked of it is answered as this list answers it.

## Main results

* `mem_merged`: the list holds what is in force, and nothing else.
* `merged_increasing`: it is in strictly increasing order of the features.
* `make_refines`: a table in two layers answers as the list does.
-/

namespace FeatureScan

/-! ## Dictionaries by their keys -/

/-- Texts in strictly increasing order do not repeat. -/
theorem nodup_of_increasing {l : List String} (h : l.Pairwise (· < ·)) : l.Nodup := by
  refine h.imp ?_
  rintro x _ hlt rfl
  exact String.lt_irrefl x hlt

namespace Dict

variable {α β : Type}

theorem values_eq_filterMap_keys (d : Dict α) : d.values = d.keys.filterMap d.get? := by
  have hget : ∀ e ∈ d.entries, (d.get? ∘ Prod.fst) e = (some ∘ Prod.snd) e :=
    fun e he => (get?_eq_some_iff d e.1 e.2).2 he
  rw [keys, values, List.filterMap_map, List.filterMap_congr hget, List.filterMap_eq_map]

theorem get?_filter (p : String → α → Bool) (d : Dict α) (k : String) :
    (d.filter p).get? k = (d.get? k).filter (p k) := by
  refine Option.ext fun v => ?_
  rw [get?_eq_some_iff, Option.filter_eq_some_iff, get?_eq_some_iff]
  exact List.mem_filter

/-- Of pairs with one key the last one counts. -/
theorem get?_ofList (l : List (String × α)) (k : String) :
    (ofList l).get? k = (l.reverse.find? fun e => e.1 == k).map Prod.snd := by
  have hfold : ∀ (l : List (String × α)) (d : Dict α),
      (l.foldl (fun d e => d.insert e.1 e.2) d).get? k =
        ((l.reverse.find? fun e => e.1 == k).map Prod.snd).or (d.get? k) := by
    intro l
    induction l with
    | nil => exact fun d => rfl
    | cons e l ih =>
        intro d
        rw [List.foldl_cons, ih, get?_insert, List.reverse_cons, List.find?_append,
          List.find?_singleton]
        cases hlater : l.reverse.find? fun e => e.1 == k with
        | some e' => rfl
        | none => by_cases hk : e.1 = k <;> simp [hk]
  rw [ofList, hfold, get?_empty, Option.or_none]

theorem get?_ofList_eq_getLast? (l : List (String × α)) (k : String) :
    (ofList l).get? k = ((l.filter fun e => e.1 == k).map Prod.snd).getLast? := by
  rw [get?_ofList, List.getLast?_map, ← List.head?_filter, List.filter_reverse, List.head?_reverse]

theorem keys_eq_of_isSome {d : Dict α} {d' : Dict β}
    (h : ∀ k, (d.get? k).isSome = (d'.get? k).isSome) : d.keys = d'.keys :=
  d.keys_sorted.eq_of_mem_iff d'.keys_sorted fun k => by
    rw [← contains_eq_true_iff, ← contains_eq_true_iff, contains, contains, h]

end Dict

/-! ## The list -/

/-- The rule in force for a feature, and the layer that it comes from: the user's rule, or else the
last definition of the feature. -/
def inForce? (topics : List Topic) (custom : Dict Rule) (id : String) : Option (Rule × Layer) :=
  match custom.get? id with
  | some r => some (r, .custom ((RuleTable.defined topics).any fun d => d.id == id))
  | none => ((RuleTable.defined topics).find? fun d => d.id == id).map fun d => (d, .builtin)

/-- The features that there are rules for. -/
def ruled (topics : List Topic) (custom : Dict Rule) : NameSet :=
  .ofNames (custom.keys ++ (RuleTable.defined topics).map Rule.id)

/-- The rules in force, in the order of their features. -/
def merged (topics : List Topic) (custom : Dict Rule) : List (Rule × Layer) :=
  (ruled topics custom).toList.filterMap (inForce? topics custom)

/-- The patterns of a rule that can be read and occur in a subject, in order. -/
def Rule.occurring (ignoreCase : Bool) (s : Subject) (r : Rule) : List String :=
  r.patterns.filter fun p => (Pattern.read? ignoreCase p).any fun q => q.occursIn s

theorem source_of_read? {ignoreCase : Bool} {p : String} {q : Pattern}
    (h : Pattern.read? ignoreCase p = some q) : q.source = p := by
  obtain ⟨r, -, hr⟩ := Option.bind_eq_some_iff.1 h
  obtain ⟨piece, -, rfl⟩ := Option.map_eq_some_iff.1 hr
  rfl

/-- The patterns that match are those of the rule that can be read and occur. -/
theorem map_source_matching (ignoreCase : Bool) (layer : Layer) (s : Subject) (r : Rule) :
    ((CompiledRule.ofRule ignoreCase layer r).matching s).map Pattern.source =
      r.occurring ignoreCase s := by
  rw [CompiledRule.matching, CompiledRule.ofRule, Rule.occurring]
  induction r.patterns with
  | nil => rfl
  | cons p ps ih =>
      rw [List.filterMap_cons, List.filter_cons]
      cases hread : Pattern.read? ignoreCase p with
      | none => simpa using ih
      | some q =>
          cases hoccurs : q.occursIn s with
          | true => simpa [hoccurs, source_of_read? hread] using ih
          | false => simpa [hoccurs] using ih

theorem any_occursIn_ofRule (ignoreCase : Bool) (layer : Layer) (s : Subject) (r : Rule) :
    ((CompiledRule.ofRule ignoreCase layer r).patterns.any fun p => p.occursIn s) =
      !(r.occurring ignoreCase s).isEmpty := by
  rw [← map_source_matching ignoreCase layer, List.isEmpty_map, CompiledRule.matching,
    Bool.eq_iff_iff]
  simp

section Merged

variable {topics : List Topic} {custom : Dict Rule} {id : String} {e : Rule × Layer}

theorem id_of_inForce? (h : custom.Keyed) (he : inForce? topics custom id = some e) :
    e.1.id = id := by
  unfold inForce? at he
  split at he
  · rename_i r hr
    obtain rfl := Option.some.inj he
    exact h.id_eq hr
  · obtain ⟨d, hd, rfl⟩ := Option.map_eq_some_iff.1 he
    simpa using List.find?_some hd

theorem mem_ruled_iff :
    id ∈ (ruled topics custom).toList ↔ (inForce? topics custom id).isSome = true := by
  rw [ruled, NameSet.mem_ofNames, List.mem_append, ← Dict.contains_eq_true_iff, Dict.contains,
    inForce?]
  cases custom.get? id with
  | some r => simp
  | none => simp [List.mem_map]

/-- The list holds what is in force, and nothing else. -/
theorem mem_merged (h : custom.Keyed) :
    e ∈ merged topics custom ↔ inForce? topics custom e.1.id = some e := by
  rw [merged, List.mem_filterMap]
  constructor
  · rintro ⟨id, -, he⟩
    rwa [id_of_inForce? h he]
  · intro he
    exact ⟨e.1.id, mem_ruled_iff.2 (by rw [he]; rfl), he⟩

/-- The features of the list are those that there are rules for. -/
theorem map_id_merged (h : custom.Keyed) :
    (merged topics custom).map (fun e => e.1.id) = (ruled topics custom).toList := by
  have hid : ∀ id ∈ (ruled topics custom).toList,
      (inForce? topics custom id).map (fun e => e.1.id) = some id := by
    intro id hmem
    obtain ⟨e, he⟩ := Option.isSome_iff_exists.1 (mem_ruled_iff.1 hmem)
    rw [he, Option.map_some, id_of_inForce? h he]
  rw [merged, List.map_filterMap, List.filterMap_congr hid, List.filterMap_some]

/-- The list is in strictly increasing order of the features. -/
theorem merged_increasing (topics : List Topic) (h : custom.Keyed) :
    ((merged topics custom).map fun e => e.1.id).Pairwise (· < ·) := by
  rw [map_id_merged h]
  exact Dict.keys_sorted _

theorem find?_merged (topics : List Topic) (h : custom.Keyed) (id : String) :
    (merged topics custom).find? (fun e => e.1.id == id) = inForce? topics custom id := by
  cases hfind : (merged topics custom).find? fun e => e.1.id == id with
  | some e =>
      have hid : e.1.id = id := by simpa using List.find?_some hfind
      rw [← hid]
      exact ((mem_merged h).1 (List.mem_of_find?_eq_some hfind)).symm
  | none =>
      cases hforce : inForce? topics custom id with
      | none => rfl
      | some e =>
          have hid := id_of_inForce? h hforce
          have hmem : e ∈ merged topics custom := (mem_merged h).2 (by rw [hid, hforce])
          simpa [hid] using List.find?_eq_none.1 hfind e hmem

end Merged

/-! ## The table in two layers -/

/-- What a table in two layers has to answer where these are the rules in force. -/
structure LayeredTable.Refines (t : LayeredTable) (ignoreCase : Bool) (rules : List (Rule × Layer)) :
    Prop where
  toList_eq : t.toList = rules.map fun e => .ofRule ignoreCase e.2 e.1
  size_eq : t.effective.size = rules.length
  supported_eq : t.supported = rules.map fun e => e.1.id
  get?_eq : ∀ id, t.get? id =
    (rules.find? fun e => e.1.id == id).map fun e => .ofRule ignoreCase e.2 e.1
  layer?_eq : ∀ id, t.layer? id = (rules.find? fun e => e.1.id == id).map Prod.snd
  isCustom_eq : ∀ id, t.isCustom id = (rules.find? fun e => e.1.id == id).any fun e => e.2.isCustom
  isOverride_eq : ∀ id,
    t.isOverride id = (rules.find? fun e => e.1.id == id).any fun e => e.2.isOverride
  origin?_eq : ∀ id, t.origin? id =
    (rules.find? fun e => e.1.id == id).map fun e => ⟨e.1.category, e.2.isCustom⟩
  matchesAny_eq : ∀ s, t.matchesAny s = rules.any fun e => !(e.1.occurring ignoreCase s).isEmpty

namespace LayeredTable

section Make

variable (ignoreCase : Bool) (l : Language) (topics : List Topic) {custom : Dict Rule}

theorem layerOver_ofTopics (r : Rule) :
    layerOver (.ofTopics l topics) r =
      .custom ((RuleTable.defined topics).any fun d => d.id == r.id) := by
  rw [layerOver, RuleTable.contains_ofTopics]

theorem get?_custom_make (h : custom.Keyed) (id : String) :
    (make ignoreCase (.ofTopics l topics) custom).custom.get? id = (custom.get? id).map
      (.ofRule ignoreCase (.custom ((RuleTable.defined topics).any fun d => d.id == id))) := by
  have hget : (make ignoreCase (.ofTopics l topics) custom).custom.get? id =
      (custom.get? id).map fun r => .ofRule ignoreCase (layerOver (.ofTopics l topics) r) r :=
    get?_compileCustom ignoreCase _ h id
  rw [hget]
  cases hr : custom.get? id with
  | none => rfl
  | some r => rw [Option.map_some, Option.map_some, layerOver_ofTopics, h.id_eq hr]

theorem get?_builtin_make (custom : Dict Rule) (id : String) :
    (make ignoreCase (.ofTopics l topics) custom).builtin.get? id =
      ((RuleTable.defined topics).find? fun d => d.id == id).map (.ofRule ignoreCase .builtin) := by
  rw [← RuleTable.get?_ofTopics l topics id]
  exact Dict.get?_mapValues _ (RuleTable.ofTopics l topics).rules id

/-- The table answers for a feature with the rule in force. -/
theorem get?_make (h : custom.Keyed) (id : String) :
    (make ignoreCase (.ofTopics l topics) custom).get? id =
      (inForce? topics custom id).map fun e => .ofRule ignoreCase e.2 e.1 := by
  rw [get?_eq, get?_custom_make ignoreCase l topics h, get?_builtin_make, inForce?]
  cases custom.get? id with
  | some r => rfl
  | none =>
      rw [Option.map_map]
      rfl

/-- The rules in force are those of the list. -/
theorem toList_make (h : custom.Keyed) :
    (make ignoreCase (.ofTopics l topics) custom).toList =
      (merged topics custom).map fun e => .ofRule ignoreCase e.2 e.1 := by
  have hget : ∀ id, (make ignoreCase (.ofTopics l topics) custom).effective.get? id =
      (inForce? topics custom id).map fun e => .ofRule ignoreCase e.2 e.1 := fun id => by
    rw [get?_effective, get?_make ignoreCase l topics h]
  have hkeys : (make ignoreCase (.ofTopics l topics) custom).effective.keys =
      (ruled topics custom).toList := by
    refine Dict.keys_eq_of_isSome fun id => ?_
    rw [hget, Option.isSome_map, Bool.eq_iff_iff, ← mem_ruled_iff, ← Dict.contains]
    exact (Dict.contains_eq_true_iff _ id).symm
  rw [toList, Dict.values_eq_filterMap_keys, hkeys, merged, List.map_filterMap]
  exact List.filterMap_congr fun id _ => hget id

/-- A table in two layers answers as the list of the rules in force does. -/
theorem make_refines (h : custom.Keyed) :
    (make ignoreCase (.ofTopics l topics) custom).Refines ignoreCase (merged topics custom) where
  toList_eq := toList_make ignoreCase l topics h
  size_eq := by
    have hlength := congrArg List.length (toList_make ignoreCase l topics h)
    rwa [toList, Dict.values, List.length_map, List.length_map] at hlength
  supported_eq := by
    rw [supported, toList_make ignoreCase l topics h, List.map_map]
    rfl
  get?_eq id := by rw [find?_merged topics h, get?_make ignoreCase l topics h]
  layer?_eq id := by
    rw [find?_merged topics h, layer?, get?_make ignoreCase l topics h, Option.map_map]
    rfl
  isCustom_eq id := by
    rw [find?_merged topics h, isCustom, Dict.contains, get?_custom_make ignoreCase l topics h,
      inForce?]
    cases custom.get? id with
    | some r => rfl
    | none => simp [Layer.isCustom, Option.any_map]
  isOverride_eq id := by
    rw [find?_merged topics h, isOverride, get?_custom_make ignoreCase l topics h, inForce?]
    cases custom.get? id with
    | some r => rfl
    | none => simp [Layer.isOverride, Option.any_map]
  origin?_eq id := by
    rw [find?_merged topics h, origin?, get?_make ignoreCase l topics h, Option.map_map]
    rfl
  matchesAny_eq s := by
    rw [matchesAny, toList_make ignoreCase l topics h, List.any_map]
    simp only [Function.comp_def, any_occursIn_ofRule]

end Make

end LayeredTable

end FeatureScan
