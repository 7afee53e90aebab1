import FeatureScan.Catalog.Scripts
import FeatureScan.Finding
import FeatureScan.LayeredTable
import FeatureScan.Script.Comments

/-!
# Scanning scripts

Every rule in force is tried on the text without comments. The first pattern of a rule that matches
is the evidence. There is no set of names to compare a script with, so none is reported as unknown.

## Main results

* `unrecognized_scan`: a script has no unknown names.
-/

namespace FeatureScan.Script

/-- The builtin rules for scripts. -/
def builtinTable : RuleTable := .ofTopics .javaScript Catalog.scriptTopics

/-- The builtin rules with their patterns read. -/
def builtinRules : Dict CompiledRule := LayeredTable.compileBuiltin false builtinTable

/-- The rules for scripts under a user's rules. Letters stand for themselves. -/
def layered (custom : Dict Rule) : LayeredTable :=
  .ofCompiled false builtinTable builtinRules custom

/-- The finding of a rule on a subject. -/
def find? (s : Subject) (r : CompiledRule) : Option Match :=
  (r.firstMatch? s).map fun p => ⟨r.id, r.description, .pattern p.source⟩

/-- The result of scanning a script. -/
def scan (rules : LayeredTable) (source : String) : ScanResult :=
  let s := Subject.ofString (withoutComments source)
  (rules.toList.filterMap (find? s)).foldl ScanResult.record .empty

theorem unrecognized_scan (rules : LayeredTable) (source : String) :
    (scan rules source).unrecognized = .empty := by
  simp only [scan, ScanResult.unrecognized_foldl_record]
  rfl

end FeatureScan.Script
