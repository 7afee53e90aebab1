import FeatureScan.Css.Step
import FeatureScan.Text.Vendor

/-!
# What a style sheet says

A style sheet is flattened into its declarations, at-rules and selectors. Every block of
declarations gets a number of its own, and a declaration carries the selector and the number of its
block. The findings are recorded in the order in which the source is read.

## Main results

* `Extraction.ofEvents_append`: what is found in two stretches of findings is found in the first and
  then in the second.
-/

namespace FeatureScan.Css

/-- A declaration with the selector and number of its block. -/
structure Declaration where
  /-- The property, in small letters unless it is the author's own. -/
  property : String
  /-- The value. -/
  value : String
  /-- The selector of the block. -/
  selector : String
  /-- The number of the block. -/
  block : Nat
  deriving DecidableEq, Repr

/-- An at-rule: its keyword in small letters, and what stands before its block or semicolon. -/
structure AtRule where
  /-- The keyword without its sign. -/
  keyword : String
  /-- The prelude. -/
  prelude : String
  deriving DecidableEq, Repr

/-- The selector of a rule with the number of its block. -/
structure SelectorEntry where
  /-- The selector. -/
  selector : String
  /-- The number of the block. -/
  block : Nat
  deriving DecidableEq, Repr

/-- One finding. -/
inductive Event
  | declaration (d : Declaration)
  | atRule (a : AtRule)
  | selector (s : SelectorEntry)
  | notice (n : Notice)
  deriving DecidableEq, Repr

/-- Everything found in a style sheet. -/
structure Extraction where
  /-- The declarations in order. -/
  declarations : List Declaration
  /-- The at-rules in order. -/
  atRules : List AtRule
  /-- The selectors of rules in order. -/
  selectors : List SelectorEntry
  /-- The notices in order. -/
  notices : List Notice
  deriving DecidableEq, Repr

namespace Extraction

/-- Sorts findings by kind. -/
def ofEvents (events : List Event) : Extraction where
  declarations := events.filterMap fun | .declaration d => some d | _ => none
  atRules := events.filterMap fun | .atRule a => some a | _ => none
  selectors := events.filterMap fun | .selector s => some s | _ => none
  notices := events.filterMap fun | .notice n => some n | _ => none

/-- One extraction behind another. -/
def append (a b : Extraction) : Extraction :=
  ⟨a.declarations ++ b.declarations, a.atRules ++ b.atRules, a.selectors ++ b.selectors,
    a.notices ++ b.notices⟩

instance : Append Extraction := ⟨append⟩

theorem ofEvents_append (a b : List Event) : ofEvents (a ++ b) = ofEvents a ++ ofEvents b := by
  change _ = append _ _
  simp [ofEvents, append]

end Extraction

/-! ## Recording -/

/-- The record kept while a style sheet is read: the number of the last block, and the findings in
reverse. -/
structure Recorder where
  /-- The number given to the latest block. -/
  lastBlock : Nat
  /-- The findings, latest first. -/
  events : List Event

namespace Recorder

/-- Nothing recorded. -/
def start : Recorder := ⟨0, []⟩

/-- Records a finding. -/
def record (r : Recorder) (e : Event) : Recorder := { r with events := e :: r.events }

/-- Records notices. -/
def recordNotices (r : Recorder) (ns : List Notice) : Recorder :=
  ns.foldl (fun r n => r.record (.notice n)) r

/-- Gives the next number to a block. -/
def newBlock (r : Recorder) : Recorder := { r with lastBlock := r.lastBlock + 1 }

/-- The findings in order. -/
def found (r : Recorder) : List Event := r.events.reverse

end Recorder

/-! ## Reading -/

/-- The at-rules whose block holds rules, or declarations of the rule around it; vendors' names of
them count too. -/
def containerKeywords : List String :=
  ["media", "supports", "keyframes", "layer", "container", "scope", "starting-style", "document"]

/-- The setting of the block of an at-rule, which is given block number `block` if it holds
declarations. A container among rules holds rules. Inside a style rule a container holds
declarations of that rule, except that keyframes are always rules. The declarations of any other
at-rule belong to its name. -/
def atRuleSetting (outer : Setting) (keyword : String) (block : Nat) : Setting :=
  let base := Text.dropVendorTag keyword
  if containerKeywords.contains base then
    match outer with
    | .style selector _ => if base != "keyframes" then .style selector block else .rules
    | .rules => .rules
  else .style ("@" ++ keyword) block

/-- Reads the block of an at-rule with `inner`, giving it a number if it holds declarations. -/
def readAtRuleBody (inner : Setting → Body → Recorder → Recorder) (outer : Setting)
    (keyword : String) (body : Body) (r : Recorder) : Recorder :=
  match atRuleSetting outer keyword (r.lastBlock + 1) with
  | .rules => inner .rules body r
  | .style selector block => inner (.style selector block) body r.newBlock

/-- Records the outcome of a step; `inner` reads the blocks inside. -/
def recordStep (inner : Setting → Body → Recorder → Recorder) (setting : Setting) (r : Recorder)
    (step : Step) : Recorder :=
  let r := r.recordNotices step.notices
  match step.item with
  | none => r
  | some (.declaration property value) =>
    match setting with
    | .style selector block => r.record (.declaration ⟨property, value, selector, block⟩)
    | .rules => r
  | some (.rule selector _ body) =>
    let block := r.lastBlock + 1
    inner (.style selector block) body (r.newBlock.record (.selector ⟨selector, block⟩))
  | some (.atRule keyword prelude body) =>
    let r := r.record (.atRule ⟨keyword, prelude⟩)
    match body with
    | none => r
    | some body => readAtRuleBody inner setting keyword body r

/-- Reads a block where `room` further levels of nesting are allowed. -/
def readBody (room : Nat) (setting : Setting) (body : Body) (r : Recorder) : Recorder :=
  let inner :=
    match room with
    | 0 => fun _ _ r => r
    | room + 1 => readBody room
  (steps room setting body).foldl (recordStep inner setting) r

/-- The findings in a piece of a style sheet that stands among rules. -/
def findings (room : Nat) (body : Body) : List Event :=
  (readBody room .rules body .start).found

/-- Everything found in a style sheet. -/
def extract (source : String) : Extraction :=
  Extraction.ofEvents (findings nestingLimit (Body.ofText source.toList))

end FeatureScan.Css
