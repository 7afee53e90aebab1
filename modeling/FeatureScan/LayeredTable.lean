import FeatureScan.Pattern.Reader
import FeatureScan.Rule

/-!
# Rules in force

A user's rules lie over the builtin ones: a rule of the user takes the place of the builtin rule for
the same feature. Patterns are read once, when the table is made, and those that are no patterns are
left out.

## Main results

* `LayeredTable.get?_eq`: the user's rule is asked first, then the builtin one.
* `CompiledRule.matching_sublist`: the patterns that match are among those of the rule, in order.
-/

namespace FeatureScan

/-- A rule whose patterns have been read. -/
structure CompiledRule where
  /-- The feature. -/
  id : String
  /-- What the feature is called. -/
  description : String
  /-- The category of the rule. -/
  category : String
  /-- Words to find the rule by. -/
  keywords : List String
  /-- The patterns that could be read, in order. -/
  patterns : List Pattern
  /-- Where the rule comes from. -/
  layer : Layer

namespace CompiledRule

/-- A rule with its patterns read; `ignoreCase` tells how letters are taken. -/
def ofRule (ignoreCase : Bool) (layer : Layer) (r : Rule) : CompiledRule :=
  ⟨r.id, r.description, r.category, r.keywords,
    r.patterns.filterMap (Pattern.read? ignoreCase), layer⟩

/-- The patterns that match a subject, in order. -/
def matching (r : CompiledRule) (s : Subject) : List Pattern :=
  r.patterns.filter fun p => p.occursIn s

/-- The first pattern that matches a subject. -/
def firstMatch? (r : CompiledRule) (s : Subject) : Option Pattern :=
  r.patterns.find? fun p => p.occursIn s

theorem matching_sublist (r : CompiledRule) (s : Subject) :
    (r.matching s).Sublist r.patterns := List.filter_sublist

theorem firstMatch?_eq_head? (r : CompiledRule) (s : Subject) :
    r.firstMatch? s = (r.matching s).head? := by
  simp [firstMatch?, matching]

end CompiledRule

/-- Where a feature comes from. -/
structure Origin where
  /-- The category that it is reported under. -/
  category : String
  /-- Whether the user provides it. -/
  userDefined : Bool
  deriving DecidableEq, Repr

/-- The rules of one language in two layers. -/
structure LayeredTable where
  /-- The language. -/
  language : Language
  /-- The builtin rules, by feature. -/
  builtin : Dict CompiledRule
  /-- The user's rules, by feature. -/
  custom : Dict CompiledRule

namespace LayeredTable

/-- The builtin rules of a table, with their patterns read. -/
def compileBuiltin (ignoreCase : Bool) (t : RuleTable) : Dict CompiledRule :=
  t.rules.mapValues fun _ r => CompiledRule.ofRule ignoreCase .builtin r

/-- The layer of a user's rule over a table. -/
def layerOver (t : RuleTable) (r : Rule) : Layer := .custom (t.contains r.id)

/-- The user's rules over a table, with their patterns read. Each stands under its own feature,
whatever key it came with. -/
def compileCustom (ignoreCase : Bool) (t : RuleTable) (custom : Dict Rule) : Dict CompiledRule :=
  .ofList (custom.values.map fun r => (r.id, CompiledRule.ofRule ignoreCase (layerOver t r) r))

/-- A user's rules over a table of which the patterns have been read. -/
def ofCompiled (ignoreCase : Bool) (t : RuleTable) (compiled : Dict CompiledRule)
    (custom : Dict Rule) : LayeredTable :=
  ⟨t.language, compiled, compileCustom ignoreCase t custom⟩

/-- A user's rules over a table. -/
def make (ignoreCase : Bool) (t : RuleTable) (custom : Dict Rule) : LayeredTable :=
  ofCompiled ignoreCase t (compileBuiltin ignoreCase t) custom

/-- The features whose builtin rule gives way to one of the user, in order. -/
def overridden (t : RuleTable) (custom : Dict Rule) : List String :=
  (custom.values.filter fun r => t.contains r.id).map Rule.id

/-- The rule in force for a feature. -/
def get? (t : LayeredTable) (id : String) : Option CompiledRule :=
  (t.custom.get? id).or (t.builtin.get? id)

/-- The layer of the rule in force for a feature. -/
def layer? (t : LayeredTable) (id : String) : Option Layer := (t.get? id).map CompiledRule.layer

/-- Whether the user has a rule for a feature. -/
def isCustom (t : LayeredTable) (id : String) : Bool := t.custom.contains id

/-- Whether the user has a rule for a feature that has a builtin one too. -/
def isOverride (t : LayeredTable) (id : String) : Bool :=
  (t.custom.get? id).any fun r => r.layer.isOverride

/-- The rules in force, by feature. -/
def effective (t : LayeredTable) : Dict CompiledRule :=
  t.custom.entries.foldl (fun d e => d.insert e.1 e.2) t.builtin

/-- The rules in force, in the order of their features. -/
def toList (t : LayeredTable) : List CompiledRule := t.effective.values

/-- The features that can be found, in order. -/
def supported (t : LayeredTable) : List String := t.toList.map CompiledRule.id

/-- Whether any pattern of any rule in force matches a subject. -/
def matchesAny (t : LayeredTable) (s : Subject) : Bool :=
  t.toList.any fun r => r.patterns.any fun p => p.occursIn s

/-- Where a feature comes from. -/
def origin? (t : LayeredTable) (id : String) : Option Origin :=
  (t.get? id).map fun r => ⟨r.category, r.layer.isCustom⟩

theorem get?_eq (t : LayeredTable) (id : String) :
    t.get? id = (t.custom.get? id).or (t.builtin.get? id) := rfl

end LayeredTable

end FeatureScan
