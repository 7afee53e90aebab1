import FeatureScan.Text.Excerpt

/-!
# Notices about malformed style sheets

A part of a style sheet that makes no sense is skipped, and a notice says where and why.
-/

namespace FeatureScan.Css

/-- How many blocks and brackets may be nested in each other. -/
def nestingLimit : Nat := 128

/-- Why a part of a style sheet was skipped. -/
inductive Cause
  | tooDeep
  | strayCloser (written : String)
  | ruleWithoutBlock (selector : String)
  | blockWithoutSelector
  | invalidDeclaration (selector : String)
  deriving DecidableEq, Repr

/-- How many characters of a selector a notice quotes. -/
def quotedLength : Nat := 60

/-- The words for a cause. -/
def Cause.message : Cause → String
  | tooDeep => "nesting deeper than " ++ toString nestingLimit ++ " levels"
  | strayCloser written => "stray `" ++ written ++ "`"
  | ruleWithoutBlock selector => "rule without block: " ++ Text.excerpt quotedLength selector
  | blockWithoutSelector => "block without selector"
  | invalidDeclaration selector =>
    "invalid declaration in `" ++ Text.excerpt quotedLength selector ++ "`"

/-- A skipped part. -/
structure Notice where
  /-- The line reached when it was skipped. -/
  line : Nat
  /-- Why it was skipped. -/
  cause : Cause
  deriving DecidableEq, Repr

/-- The text of a notice. -/
def Notice.message (n : Notice) : String :=
  "Malformed source at line " ++ toString n.line ++ ": " ++ n.cause.message ++ ", node skipped"

end FeatureScan.Css
