import FeatureScan.Catalog.Styles
import FeatureScan.Css.Matchable
import FeatureScan.Finding
import FeatureScan.LayeredTable
import FeatureScan.Style.Plain

/-!
# Scanning style sheets

A style sheet is taken apart and written again in the form that patterns expect; then every rule in
force is tried on it, and all patterns of a rule that match are its evidence. A property or at-rule
is unknown if it is not plain and no pattern matches its name alone, with or without the tag of a
vendor.
-/

namespace FeatureScan.Style

/-- The builtin rules for style sheets. -/
def builtinTable : RuleTable := .ofTopics .css Catalog.styleTopics

/-- The builtin rules with their patterns read. -/
def builtinRules : Dict CompiledRule := LayeredTable.compileBuiltin true builtinTable

/-- The rules for style sheets under a user's rules. Letters stand for their variants in case. -/
def layered (custom : Dict Rule) : LayeredTable :=
  .ofCompiled true builtinTable builtinRules custom

/-- The finding of a rule on a subject. -/
def find? (s : Subject) (r : CompiledRule) : Option Match :=
  match r.matching s with
  | [] => none
  | ps => some ⟨r.id, r.description, .properties (ps.map Pattern.source)⟩

/-! ## Unknown names -/

/-- Whether any pattern in force matches a text. -/
def probe (rules : LayeredTable) (text : String) : Bool := rules.matchesAny (.ofString text)

/-- Whether a name is known: its form without the tag of a vendor is plain, or a pattern matches
what `written` makes of it or of that form. -/
def isKnown (rules : LayeredTable) (isPlain : String → Bool) (written : String → String)
    (name : String) : Bool :=
  let base := Text.dropVendorTag name
  isPlain base || probe rules (written name) || (base != name && probe rules (written base))

/-- Whether a property is the author's own, which rules do not name. -/
def isAuthors (property : String) : Bool := "--".toList.isPrefixOf property.toList

/-- The names of a style sheet that no rule knows. -/
def unrecognized (rules : LayeredTable) (e : Css.Extraction) : NameSet :=
  let properties := NameSet.ofNames ((e.declarations.map Css.Declaration.property).filter
    fun p => !isAuthors p)
  let keywords := NameSet.ofNames (e.atRules.map Css.AtRule.keyword)
  let unknownProperties := properties.toList.filter fun p =>
    !isKnown rules isPlainProperty (· ++ ":") p
  let unknownKeywords := keywords.toList.filter fun k =>
    !isKnown rules isPlainAtRule ("@" ++ ·) k
  .ofNames (unknownProperties.map ("property: " ++ ·) ++ unknownKeywords.map ("@-rule: @" ++ ·))

/-! ## Scanning -/

/-- The result of scanning a style sheet that has been taken apart; `reportUnknown` asks for unknown
names. -/
def scanExtraction (rules : LayeredTable) (reportUnknown : Bool) (e : Css.Extraction) :
    ScanResult :=
  let s := Subject.ofString e.matchable
  let found := (rules.toList.filterMap (find? s)).foldl ScanResult.record .empty
  if reportUnknown then { found with unrecognized := unrecognized rules e } else found

/-- The result of scanning a style sheet. -/
def scan (rules : LayeredTable) (reportUnknown : Bool) (source : String) : ScanResult :=
  scanExtraction rules reportUnknown (Css.extract source)

end FeatureScan.Style
