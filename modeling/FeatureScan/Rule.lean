import FeatureScan.Dict
import FeatureScan.Language

/-!
# Rules and rule tables

A rule names a feature and the patterns that show it. The builtin rules come in topics, and a table
gathers the topics of one language; where two topics define a rule, the later definition holds.

## Main results

* `RuleTable.get?_define`: what a table answers after one more definition.
-/

namespace FeatureScan

/-- A rule that shows the use of a feature: any of its patterns is enough. -/
structure Rule where
  /-- The feature. -/
  id : String
  /-- The patterns, in the order in which they are tried. -/
  patterns : List String
  /-- What the feature is called. -/
  description : String
  /-- The topic that the rule belongs to. -/
  category : String
  /-- Words to find the rule by. -/
  keywords : List String
  deriving DecidableEq, Repr

/-- The category of rules from a user's document. -/
def customCategory : String := "custom"

/-- A rule of a topic. -/
structure Definition where
  /-- The feature. -/
  id : String
  /-- What the feature is called. -/
  description : String
  /-- The patterns. -/
  patterns : List String
  /-- Words to find the rule by. -/
  keywords : List String
  deriving DecidableEq, Repr

/-- The rule that a definition makes within a category. -/
def Definition.rule (d : Definition) (category : String) : Rule :=
  ⟨d.id, d.patterns, d.description, category, d.keywords⟩

/-- Definitions that belong together. -/
structure Topic where
  /-- The category of its rules. -/
  name : String
  /-- The definitions, in order. -/
  definitions : List Definition
  deriving DecidableEq, Repr

/-- The rules for one language, by feature. -/
structure RuleTable where
  /-- The language. -/
  language : Language
  /-- The rules. -/
  rules : Dict Rule
  deriving DecidableEq, Repr

/-- A definition that took the place of an earlier one. -/
structure Redefinition where
  /-- The language of the table. -/
  language : Language
  /-- The feature. -/
  id : String
  /-- The topic of the later definition. -/
  topic : String
  deriving DecidableEq, Repr

namespace RuleTable

/-- The table without rules. -/
def empty (l : Language) : RuleTable := ⟨l, .empty⟩

/-- The table with one more definition, which takes the place of an earlier one. -/
def define (t : RuleTable) (category : String) (d : Definition) : RuleTable :=
  { t with rules := t.rules.insert d.id (d.rule category) }

/-- The table with the definitions of a topic. -/
def extend (t : RuleTable) (topic : Topic) : RuleTable :=
  topic.definitions.foldl (fun t d => t.define topic.name d) t

/-- The definitions of a topic that take the place of others, in order. -/
def redefinitions (t : RuleTable) (topic : Topic) : List Redefinition :=
  (topic.definitions.foldl (fun (acc : RuleTable × List Redefinition) d =>
    (acc.1.define topic.name d,
      if acc.1.rules.contains d.id then ⟨t.language, d.id, topic.name⟩ :: acc.2 else acc.2))
    (t, [])).2.reverse

/-- The table of several topics. -/
def ofTopics (l : Language) (topics : List Topic) : RuleTable := topics.foldl extend (empty l)

/-- The rule of a feature. -/
def get? (t : RuleTable) (id : String) : Option Rule := t.rules.get? id

/-- Whether there is a rule for a feature. -/
def contains (t : RuleTable) (id : String) : Bool := t.rules.contains id

/-- How many rules there are. -/
def size (t : RuleTable) : Nat := t.rules.size

/-- The rules in the order of their features. -/
def toList (t : RuleTable) : List Rule := t.rules.values

theorem get?_define (t : RuleTable) (category : String) (d : Definition) (id : String) :
    (t.define category d).get? id = if d.id = id then some (d.rule category) else t.get? id := by
  simp only [get?, define, Dict.get?_insert]

end RuleTable

end FeatureScan
