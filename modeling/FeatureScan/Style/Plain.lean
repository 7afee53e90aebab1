import FeatureScan.Dict

/-!
# Plain names of style sheets

The properties and at-rules that every browser has long known. They are no features, and are never
reported as unknown.
-/

namespace FeatureScan.Style

/-- The plain properties. -/
def plainProperties : NameSet := .ofNames
  ["display", "position", "top", "right", "bottom", "left", "float", "clear", "z-index", "width",
   "height", "min-width", "min-height", "max-width", "max-height", "margin", "margin-top",
   "margin-right", "margin-bottom", "margin-left", "padding", "padding-top", "padding-right",
   "padding-bottom", "padding-left", "overflow", "overflow-x", "overflow-y", "visibility", "clip",
   "vertical-align", "border", "border-top", "border-right", "border-bottom", "border-left",
   "border-width", "border-style", "border-color", "border-top-width", "border-right-width",
   "border-bottom-width", "border-left-width", "border-top-style", "border-right-style",
   "border-bottom-style", "border-left-style", "border-top-color", "border-right-color",
   "border-bottom-color", "border-left-color", "border-collapse", "border-spacing", "outline",
   "outline-width", "outline-style", "outline-color", "background", "background-color",
   "background-image", "background-repeat", "background-position", "background-attachment",
   "color", "font", "font-family", "font-size", "font-weight", "font-style", "font-variant",
   "line-height", "letter-spacing", "word-spacing", "text-align", "text-decoration", "text-indent",
   "text-transform", "white-space", "direction", "quotes", "content", "src", "unicode-range",
   "list-style", "list-style-type", "list-style-position", "list-style-image", "table-layout",
   "caption-side", "empty-cells", "cursor", "page-break-before", "page-break-after",
   "page-break-inside", "orphans", "widows", "size", "marks", "gap", "row-gap", "column-gap"]

/-- The plain at-rules, without their sign. -/
def plainAtRules : NameSet := .ofNames
  ["media", "import", "charset", "font-face", "keyframes", "namespace", "page"]

/-- Whether a property is plain. -/
def isPlainProperty (name : String) : Bool := plainProperties.has name

/-- Whether an at-rule is plain. -/
def isPlainAtRule (keyword : String) : Bool := plainAtRules.has keyword

end FeatureScan.Style
