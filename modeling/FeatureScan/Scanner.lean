import FeatureScan.Markup.Scan
import FeatureScan.Report
import FeatureScan.Script.Scan
import FeatureScan.Style.Scan

/-!
# Scanners

A scanner holds the rules in force for the three languages, all made from one document of a user.

## Main results

* `scan_css`: of a style sheet only the rules for style sheets count.
-/

namespace FeatureScan

/-- What a caller may choose about scans. -/
structure ScanOptions where
  /-- Whether names that no rule knows are reported. -/
  reportUnknown : Bool := true
  deriving DecidableEq, Repr

/-- The rules in force for all languages. -/
structure Scanner where
  /-- The document of the user. -/
  document : Document
  /-- What the caller has chosen. -/
  options : ScanOptions
  /-- Rules for style sheets. -/
  css : LayeredTable
  /-- Rules for scripts. -/
  javaScript : LayeredTable
  /-- Rules for markup. -/
  html : Markup.Rulebook

namespace Scanner

/-- The scanner for a user's document. -/
def make (options : ScanOptions) (document : Document) : Scanner where
  document := document
  options := options
  css := Style.layered document.css
  javaScript := Script.layered document.javaScript
  html := .make document.html

/-- Scans a text. -/
def scan (s : Scanner) (l : Language) (source : String) : ScanResult :=
  match l with
  | .css => Style.scan s.css s.options.reportUnknown source
  | .javaScript => Script.scan s.javaScript source
  | .html => s.html.scan s.options.reportUnknown source

/-- The features that can be found, in order. -/
def supported (s : Scanner) : Language → List String
  | .css => s.css.supported
  | .javaScript => s.javaScript.supported
  | .html => s.html.supported

/-- Where a feature comes from. -/
def origin? (s : Scanner) : Language → String → Option Origin
  | .css => s.css.origin?
  | .javaScript => s.javaScript.origin?
  | .html => s.html.origin?

/-- The report on a result. -/
def report (s : Scanner) (l : Language) (r : ScanResult) : Report := .build l r (s.origin? l)

theorem scan_css (s t : Scanner) (hc : s.css = t.css) (ho : s.options = t.options)
    (source : String) :
    s.scan .css source = t.scan .css source := by
  simp [scan, hc, ho]

end Scanner

end FeatureScan
