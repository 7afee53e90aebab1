import FeatureScan.LayeredTable

/-!
# Which rule is in force

A table of topics answers with the last definition of a feature, and a layered table has its rules
in force by the features that it answers for. The rules of a user are put under their own features
when they are read, so every table is well keyed, with whatever keys they come.

## Main results

* `get?_ofTopics`: the last definition of a feature holds.
* `get?_effective`: the rule in force for a feature is the one that the table answers with.
* `wellKeyed_make`: the rules of a table in two layers answer for their own features.
* `supported_increasing`: so they are in force in strictly increasing order of the features.
-/

namespace FeatureScan

/-! ## Rules by their features -/

namespace Dict

/-- Whether every rule stands under its own feature. -/
def Keyed (rules : Dict Rule) : Prop := ∀ e ∈ rules.entries, e.2.id = e.1

theorem keyed_empty : Keyed empty := fun _ he => absurd he List.not_mem_nil

theorem keyed_mapValues {α : Type} {f : String → α → Rule} (h : ∀ id a, (f id a).id = id)
    (d : Dict α) : (d.mapValues f).Keyed := by
  intro e he
  obtain ⟨e', -, rfl⟩ := List.mem_map.1 he
  exact h e'.1 e'.2

theorem Keyed.insert {rules : Dict Rule} (h : rules.Keyed) (r : Rule) :
    (rules.insert r.id r).Keyed := by
  intro e he
  rcases mem_place he with rfl | hold
  · rfl
  · exact h e hold

theorem Keyed.id_eq {rules : Dict Rule} (h : rules.Keyed) {id : String} {r : Rule}
    (hr : rules.get? id = some r) : r.id = id :=
  h (id, r) ((get?_eq_some_iff rules id r).1 hr)

end Dict

/-! ## Tables of topics -/

namespace RuleTable

/-- The rules that topics define, the last one first. -/
def defined (topics : List Topic) : List Rule :=
  (topics.flatMap fun t => t.definitions.map fun d => d.rule t.name).reverse

theorem get?_extend (t : RuleTable) (topic : Topic) (id : String) :
    (t.extend topic).get? id =
      ((topic.definitions.map fun d => d.rule topic.name).reverse.find? fun r => r.id == id).or
        (t.get? id) := by
  unfold extend
  induction topic.definitions generalizing t with
  | nil => rfl
  | cons d ds ih =>
      rw [List.foldl_cons, ih, get?_define, List.map_cons, List.reverse_cons, List.find?_append,
        List.find?_singleton, Option.or_assoc]
      congr 1
      by_cases h : d.id = id
      · have hid : (d.rule topic.name).id = id := h
        simp [h, hid]
      · have hid : (d.rule topic.name).id ≠ id := h
        simp [h, hid]

/-- The last definition of a feature holds. -/
theorem get?_ofTopics (l : Language) (topics : List Topic) (id : String) :
    (ofTopics l topics).get? id = (defined topics).find? fun r => r.id == id := by
  have hfold : ∀ t : RuleTable, (topics.foldl extend t).get? id =
      ((defined topics).find? fun r => r.id == id).or (t.get? id) := by
    induction topics with
    | nil => exact fun t => rfl
    | cons topic topics ih =>
        intro t
        rw [List.foldl_cons, ih, get?_extend, defined, defined, List.flatMap_cons,
          List.reverse_append, List.find?_append, Option.or_assoc]
  rw [ofTopics, hfold]
  exact Option.or_none

theorem contains_ofTopics (l : Language) (topics : List Topic) (id : String) :
    (ofTopics l topics).contains id = (defined topics).any fun d => d.id == id := by
  have hget := get?_ofTopics l topics id
  rw [get?] at hget
  rw [contains, Dict.contains, hget, List.isSome_find?]

theorem id_of_get? {l : Language} {topics : List Topic} {id : String} {r : Rule}
    (h : (ofTopics l topics).get? id = some r) : r.id = id := by
  rw [get?_ofTopics] at h
  simpa using List.find?_some h

end RuleTable

/-! ## Layers -/

namespace LayeredTable

/-- The rule in force for a feature is the one that the table answers with. -/
theorem get?_effective (t : LayeredTable) (id : String) : t.effective.get? id = t.get? id :=
  Dict.get?_foldl_insert t.custom.entries t.custom.sorted t.builtin id

theorem mem_toList (t : LayeredTable) (r : CompiledRule) :
    r ∈ t.toList ↔ ∃ id, t.get? id = some r := by
  simp only [toList, Dict.values, List.mem_map, ← get?_effective, Dict.get?_eq_some_iff]
  constructor
  · rintro ⟨e, he, rfl⟩
    exact ⟨e.1, he⟩
  · rintro ⟨id, h⟩
    exact ⟨_, h, rfl⟩

/-- The rules of a table answer for their own features. -/
def WellKeyed (t : LayeredTable) : Prop := ∀ id r, t.get? id = some r → r.id = id

/-- The rules in force are listed in strictly increasing order of the features. -/
theorem WellKeyed.supported_increasing {t : LayeredTable} (h : t.WellKeyed) :
    t.supported.Pairwise (· < ·) := by
  have hkeys : t.supported = t.effective.keys := by
    rw [supported, toList, Dict.values, List.map_map, Dict.keys]
    refine List.map_congr_left fun e he => h e.1 e.2 ?_
    rw [← get?_effective]
    exact (Dict.get?_eq_some_iff _ _ _).2 he
  rw [hkeys]
  exact Dict.keys_sorted _

variable (ignoreCase : Bool) (t : RuleTable)

theorem id_of_get?_compileCustom {custom : Dict Rule} {id : String} {r : CompiledRule}
    (h : (compileCustom ignoreCase t custom).get? id = some r) : r.id = id := by
  have hmem := (Dict.get?_eq_some_iff _ id r).1 h
  obtain ⟨rule, -, heq⟩ := List.mem_map.1 (Dict.mem_ofList hmem)
  cases heq
  rfl

/-- Rules that stand under their own features already stay where they are. -/
theorem get?_compileCustom {custom : Dict Rule} (h : custom.Keyed) (id : String) :
    (compileCustom ignoreCase t custom).get? id =
      (custom.get? id).map fun r => .ofRule ignoreCase (layerOver t r) r := by
  have hentries : (custom.values.map fun r => (r.id, CompiledRule.ofRule ignoreCase (layerOver t r) r)) =
      (custom.mapValues fun _ r => CompiledRule.ofRule ignoreCase (layerOver t r) r).entries := by
    rw [Dict.values, List.map_map, Dict.mapValues]
    refine List.map_congr_left fun e he => ?_
    rw [Function.comp_apply, h e he]
  rw [compileCustom, hentries, Dict.ofList_entries, Dict.get?_mapValues]

/-- The rules of a table in two layers answer for their own features. -/
theorem wellKeyed_make (l : Language) (topics : List Topic) (custom : Dict Rule) :
    (make ignoreCase (.ofTopics l topics) custom).WellKeyed := by
  intro id r h
  rcases Option.or_eq_some_iff.1 h with hcustom | ⟨-, hbuiltin⟩
  · exact id_of_get?_compileCustom ignoreCase _ hcustom
  · have hget : (compileBuiltin ignoreCase (.ofTopics l topics)).get? id = some r := hbuiltin
    rw [compileBuiltin, Dict.get?_mapValues] at hget
    obtain ⟨rule, hrule, rfl⟩ := Option.map_eq_some_iff.1 hget
    exact RuleTable.id_of_get? hrule

end LayeredTable

end FeatureScan
