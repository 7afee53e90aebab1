import FeatureScan.Rule

/-!
# Rules for style sheets

The builtin rules that style sheets are searched by. Patterns see one line per block, in the form
`selector`, brace, declarations, brace, and one line per at-rule; what is to stand in one block is
held together by excluding the closing brace. Letters stand for their variants in case.
-/

namespace FeatureScan.Catalog

/-- How boxes are laid out. -/
def layoutTopic : Topic := ⟨"layout", [
  ⟨"css-grid", "CSS Grid Layout",
    ["(?:^|[\x7b;\\s])display\\s*:\\s*(?:inline-)?grid\\b",
     "(?:^|[\x7b;\\s])grid-template(?:-columns|-rows|-areas)?\\s*:",
     "(?:^|[\x7b;\\s])grid-(?:area|column|row)(?:-start|-end)?\\s*:",
     "(?:^|[\x7b;\\s])grid-auto-(?:flow|columns|rows)\\s*:"],
    ["grid", "layout"]⟩,
  ⟨"css-subgrid", "CSS Subgrid",
    ["(?:^|[\x7b;\\s])grid-template-(?:columns|rows)\\s*:\\s*subgrid\\b"],
    []⟩,
  ⟨"flexbox", "CSS Flexible Box Layout",
    ["(?:^|[\x7b;\\s])display\\s*:\\s*(?:inline-)?flex\\b",
     "(?:^|[\x7b;\\s])flex(?:-direction|-wrap|-flow|-grow|-shrink|-basis)?\\s*:"],
    ["flex", "layout"]⟩,
  ⟨"flexbox-gap", "gap property for Flexbox",
    ["display\\s*:\\s*(?:inline-)?flex[^\x7d]*[\x7b;\\s](?:row-|column-)?gap\\s*:",
     "[\x7b;\\s](?:row-|column-)?gap\\s*:[^\x7d]*display\\s*:\\s*(?:inline-)?flex"],
    []⟩,
  ⟨"multicolumn", "CSS3 Multiple column layout",
    ["(?:^|[\x7b;\\s])columns\\s*:",
     "(?:^|[\x7b;\\s])column-(?:count|width|rule|span|fill)\\s*:"],
    []⟩,
  ⟨"css-display-contents", "CSS display: contents",
    ["(?:^|[\x7b;\\s])display\\s*:\\s*contents\\b"],
    []⟩,
  ⟨"inline-block", "CSS inline-block",
    ["(?:^|[\x7b;\\s])display\\s*:\\s*inline-block\\b"],
    []⟩,
  ⟨"css-table", "CSS Table display",
    ["(?:^|[\x7b;\\s])display\\s*:\\s*(?:inline-)?table(?:-cell|-row|-column)?\\b"],
    []⟩,
  ⟨"flow-root", "display: flow-root",
    ["(?:^|[\x7b;\\s])display\\s*:\\s*flow-root\\b"],
    []⟩,
  ⟨"css-sticky", "CSS position:sticky",
    ["(?:^|[\x7b;\\s])position\\s*:\\s*(?:-webkit-)?sticky\\b"],
    []⟩,
  ⟨"css-logical-props", "CSS Logical Properties",
    ["(?:^|[\x7b;\\s])(?:margin|padding|border|inset)-(?:inline|block)(?:-start" ++
       "|-end)?(?:-width|-style|-color)?\\s*:",
     "(?:^|[\x7b;\\s])(?:min-|max-)?(?:inline|block)-size\\s*:"],
    []⟩,
  ⟨"css3-boxsizing", "CSS3 Box-sizing",
    ["(?:^|[\x7b;\\s])box-sizing\\s*:"],
    []⟩,
  ⟨"css-aspect-ratio", "CSS aspect-ratio",
    ["(?:^|[\x7b;\\s])aspect-ratio\\s*:"],
    []⟩,
  ⟨"css-containment", "CSS Containment",
    ["(?:^|[\x7b;\\s])contain\\s*:"],
    []⟩,
  ⟨"css-content-visibility", "CSS content-visibility",
    ["(?:^|[\x7b;\\s])content-visibility\\s*:", "(?:^|[\x7b;\\s])contain-intrinsic-size\\s*:"],
    []⟩,
  ⟨"object-fit", "CSS3 object-fit/object-position",
    ["(?:^|[\x7b;\\s])object-(?:fit|position)\\s*:"],
    []⟩,
  ⟨"css-overflow-anchor", "CSS overflow-anchor (Scroll Anchoring)",
    ["(?:^|[\x7b;\\s])overflow-anchor\\s*:"],
    []⟩,
  ⟨"css-overflow", "CSS overflow property with clip",
    ["(?:^|[\x7b;\\s])overflow(?:-x|-y)?\\s*:\\s*clip\\b",
     "(?:^|[\x7b;\\s])overflow-clip-margin\\s*:"],
    []⟩,
  ⟨"css-anchor-positioning", "CSS Anchor Positioning",
    ["(?:^|[\x7b;\\s])(?:anchor-name|position-anchor|position-area" ++
       "|position-try(?:-fallbacks)?)\\s*:",
     "\\banchor\\("],
    []⟩,
  ⟨"css-shapes", "CSS Shapes Level 1",
    ["(?:^|[\x7b;\\s])shape-(?:outside|margin|image-threshold)\\s*:"],
    []⟩,
  ⟨"css-zoom", "CSS zoom",
    ["(?:^|[\x7b;\\s])zoom\\s*:"],
    []⟩]⟩

/-- Fonts and text. -/
def typographyTopic : Topic := ⟨"typography", [
  ⟨"fontface", "@font-face Web fonts",
    ["@font-face\\b"],
    ["fonts"]⟩,
  ⟨"woff", "WOFF - Web Open Font Format",
    ["format\\(\\s*[\"']?woff[\"']?\\s*\\)", "\\.woff\\b"],
    []⟩,
  ⟨"woff2", "WOFF 2.0 - Web Open Font Format",
    ["format\\(\\s*[\"']?woff2", "\\.woff2\\b"],
    []⟩,
  ⟨"ttf", "TTF/OTF - TrueType and OpenType font support",
    ["format\\(\\s*[\"']?(?:truetype|opentype)", "\\.(?:ttf|otf)\\b"],
    []⟩,
  ⟨"font-feature", "CSS font-feature-settings",
    ["(?:^|[\x7b;\\s])font-feature-settings\\s*:"],
    []⟩,
  ⟨"font-variant-alternates", "CSS font-variant-alternates",
    ["(?:^|[\x7b;\\s])font-variant-alternates\\s*:"],
    []⟩,
  ⟨"font-variant-numeric", "CSS font-variant-numeric",
    ["(?:^|[\x7b;\\s])font-variant-numeric\\s*:"],
    []⟩,
  ⟨"variable-fonts", "Variable fonts",
    ["(?:^|[\x7b;\\s])font-variation-settings\\s*:", "(?:^|[\x7b;\\s])font-optical-sizing\\s*:"],
    []⟩,
  ⟨"css-font-rendering-controls", "CSS font-display",
    ["(?:^|[\x7b;\\s])font-display\\s*:"],
    []⟩,
  ⟨"css-font-stretch", "CSS font-stretch",
    ["(?:^|[\x7b;\\s])font-stretch\\s*:"],
    []⟩,
  ⟨"font-size-adjust", "CSS font-size-adjust",
    ["(?:^|[\x7b;\\s])font-size-adjust\\s*:"],
    []⟩,
  ⟨"font-kerning", "CSS3 font-kerning",
    ["(?:^|[\x7b;\\s])font-kerning\\s*:"],
    []⟩,
  ⟨"css-font-palette", "CSS font-palette",
    ["(?:^|[\x7b;\\s])font-palette\\s*:", "@font-palette-values\\b"],
    []⟩,
  ⟨"extended-system-fonts",
    "ui-serif, ui-sans-serif, ui-monospace and ui-rounded values for font-family",
    ["(?:^|[\x7b;\\s])font(?:-family)?\\s*:[^;\x7d]*\\b(?:system-ui|ui-serif|ui-sans-serif" ++
       "|ui-monospace|ui-rounded)\\b"],
    []⟩,
  ⟨"css-text-align-last", "CSS3 text-align-last",
    ["(?:^|[\x7b;\\s])text-align-last\\s*:"],
    []⟩,
  ⟨"text-decoration", "text-decoration styling",
    ["(?:^|[\x7b;\\s])text-decoration-(?:line|style|color|thickness|skip(?:-ink)?)\\s*:",
     "(?:^|[\x7b;\\s])text-underline-(?:offset|position)\\s*:"],
    []⟩,
  ⟨"text-overflow", "CSS3 Text-overflow",
    ["(?:^|[\x7b;\\s])text-overflow\\s*:"],
    []⟩,
  ⟨"css-hyphens", "CSS Hyphenation",
    ["(?:^|[\x7b;\\s])(?:-webkit-|-ms-)?hyphens\\s*:"],
    []⟩,
  ⟨"css-text-wrap-balance", "CSS text-wrap: balance",
    ["(?:^|[\x7b;\\s])text-wrap(?:-style)?\\s*:\\s*(?:balance|pretty)\\b"],
    []⟩,
  ⟨"css-writing-mode", "CSS writing-mode property",
    ["(?:^|[\x7b;\\s])writing-mode\\s*:"],
    []⟩,
  ⟨"css-text-orientation", "CSS text-orientation",
    ["(?:^|[\x7b;\\s])text-orientation\\s*:"],
    []⟩,
  ⟨"css-initial-letter", "CSS initial-letter",
    ["(?:^|[\x7b;\\s])(?:-webkit-)?initial-letter\\s*:"],
    []⟩,
  ⟨"word-break", "CSS3 word-break",
    ["(?:^|[\x7b;\\s])word-break\\s*:"],
    []⟩,
  ⟨"wordwrap", "CSS3 Overflow-wrap",
    ["(?:^|[\x7b;\\s])(?:overflow-wrap|word-wrap)\\s*:"],
    []⟩,
  ⟨"text-stroke", "CSS text-stroke and text-fill",
    ["(?:^|[\x7b;\\s])-webkit-text-(?:stroke|fill-color)(?:-width|-color)?\\s*:"],
    []⟩,
  ⟨"css-line-clamp", "CSS line-clamp",
    ["(?:^|[\x7b;\\s])(?:-webkit-)?line-clamp\\s*:"],
    []⟩,
  ⟨"css-unicode-bidi", "CSS unicode-bidi property",
    ["(?:^|[\x7b;\\s])unicode-bidi\\s*:"],
    []⟩,
  ⟨"css-text-justify", "CSS text-justify",
    ["(?:^|[\x7b;\\s])text-justify\\s*:"],
    []⟩,
  ⟨"text-size-adjust", "CSS text-size-adjust",
    ["(?:^|[\x7b;\\s])(?:-webkit-|-moz-|-ms-)?text-size-adjust\\s*:"],
    []⟩]⟩

/-- Colours, images, borders and effects. -/
def visualTopic : Topic := ⟨"visual", [
  ⟨"css-gradients", "CSS Gradients",
    ["\\b(?:-webkit-|-moz-|-o-)?(?:linear|radial)-gradient\\("],
    []⟩,
  ⟨"css-repeating-gradients", "CSS Repeating Gradients",
    ["\\brepeating-(?:linear|radial|conic)-gradient\\("],
    []⟩,
  ⟨"css-conic-gradients", "CSS Conical Gradients",
    ["\\b(?:repeating-)?conic-gradient\\("],
    []⟩,
  ⟨"border-radius", "CSS3 Border-radius (rounded corners)",
    ["(?:^|[\x7b;\\s])border(?:-(?:top|bottom)-(?:left|right))?-radius\\s*:"],
    []⟩,
  ⟨"css-boxshadow", "CSS3 Box-shadow",
    ["(?:^|[\x7b;\\s])box-shadow\\s*:"],
    []⟩,
  ⟨"css-textshadow", "CSS3 Text-shadow",
    ["(?:^|[\x7b;\\s])text-shadow\\s*:"],
    []⟩,
  ⟨"css-filters", "CSS Filter Effects",
    ["(?:^|[\x7b;\\s])(?:-webkit-)?filter\\s*:\\s*[a-z-]+\\("],
    []⟩,
  ⟨"css-backdrop-filter", "CSS Backdrop Filter",
    ["(?:^|[\x7b;\\s])(?:-webkit-)?backdrop-filter\\s*:"],
    []⟩,
  ⟨"css-mixblendmode", "Blending of HTML/SVG elements",
    ["(?:^|[\x7b;\\s])mix-blend-mode\\s*:"],
    []⟩,
  ⟨"css-backgroundblendmode", "CSS background-blend-mode",
    ["(?:^|[\x7b;\\s])background-blend-mode\\s*:"],
    []⟩,
  ⟨"css-clip-path", "CSS clip-path property (for HTML)",
    ["(?:^|[\x7b;\\s])(?:-webkit-)?clip-path\\s*:"],
    []⟩,
  ⟨"css-masks", "CSS Masks",
    ["(?:^|[\x7b;\\s])(?:-webkit-)?mask(?:-image|-size|-position|-repeat|-mode|-composite" ++
       "|-clip|-origin)?\\s*:"],
    []⟩,
  ⟨"css-opacity", "CSS3 Opacity",
    ["(?:^|[\x7b;\\s])opacity\\s*:"],
    []⟩,
  ⟨"css3-colors", "CSS3 Colors",
    ["\\b(?:rgba|hsla?)\\("],
    []⟩,
  ⟨"css-lch-lab", "LCH and Lab color values",
    ["\\b(?:ok)?(?:lab|lch)\\("],
    []⟩,
  ⟨"css-color-function", "CSS color() function",
    ["(?:^|[\\s:,(])color\\(\\s*(?:from\\s+)?[a-z-]+"],
    []⟩,
  ⟨"css-color-mix", "CSS color-mix()",
    ["\\bcolor-mix\\("],
    []⟩,
  ⟨"css-relative-colors", "CSS Relative color syntax",
    ["\\b(?:rgb|hsl|hwb|lab|lch|oklab|oklch|color)\\(\\s*from\\b"],
    []⟩,
  ⟨"css-image-set", "CSS image-set",
    ["\\b(?:-webkit-)?image-set\\("],
    []⟩,
  ⟨"background-img-opts", "CSS3 Background-image options",
    ["(?:^|[\x7b;\\s])background-(?:size|origin|clip)\\s*:"],
    []⟩,
  ⟨"background-clip-text", "Background-clip: text",
    ["(?:^|[\x7b;\\s])(?:-webkit-)?background-clip\\s*:\\s*text\\b"],
    []⟩,
  ⟨"css-crisp-edges", "Crisp edges/pixelated images",
    ["(?:^|[\x7b;\\s])image-rendering\\s*:"],
    []⟩,
  ⟨"border-image", "CSS3 Border images",
    ["(?:^|[\x7b;\\s])border-image(?:-source|-slice|-width|-outset|-repeat)?\\s*:"],
    []⟩,
  ⟨"outline", "CSS outline properties",
    ["(?:^|[\x7b;\\s])outline-offset\\s*:"],
    []⟩,
  ⟨"css-color-adjust", "CSS print-color-adjust",
    ["(?:^|[\x7b;\\s])(?:-webkit-)?(?:print-)?color-adjust\\s*:"],
    []⟩,
  ⟨"css-color-scheme", "CSS color-scheme property",
    ["(?:^|[\x7b;\\s])color-scheme\\s*:"],
    []⟩,
  ⟨"css3-cursors", "CSS3 Cursors (original values)",
    ["(?:^|[\x7b;\\s])cursor\\s*:\\s*(?:none|context-menu|cell|vertical-text|alias|copy" ++
       "|no-drop|not-allowed|[a-z]+-resize)\\b"],
    []⟩,
  ⟨"css3-cursors-grab", "CSS grab & grabbing cursors",
    ["(?:^|[\x7b;\\s])cursor\\s*:\\s*(?:-webkit-|-moz-)?grab(?:bing)?\\b"],
    []⟩,
  ⟨"css3-cursors-newer", "CSS3 Cursors: zoom-in & zoom-out",
    ["(?:^|[\x7b;\\s])cursor\\s*:\\s*(?:-webkit-|-moz-)?zoom-(?:in|out)\\b"],
    []⟩]⟩

/-- Transitions, transforms and animations. -/
def animationTopic : Topic := ⟨"animation", [
  ⟨"css-animation", "CSS Animation",
    ["@(?:-webkit-|-moz-|-o-)?keyframes\\b",
     "(?:^|[\x7b;\\s])(?:-webkit-)?animation(?:-name|-duration|-delay|-iteration-count" ++
       "|-direction|-fill-mode|-play-state|-timing-function)?\\s*:"],
    ["keyframes"]⟩,
  ⟨"css-transitions", "CSS3 Transitions",
    ["(?:^|[\x7b;\\s])(?:-webkit-)?transition(?:-property|-duration|-delay" ++
       "|-timing-function)?\\s*:"],
    []⟩,
  ⟨"transforms2d", "CSS3 2D Transforms",
    ["(?:^|[\x7b;\\s])(?:-webkit-|-ms-)?transform(?:-origin)?\\s*:"],
    []⟩,
  ⟨"transforms3d", "CSS3 3D Transforms",
    ["\\b(?:translate3d|rotate3d|scale3d|matrix3d|translateZ|rotate[XY]|scaleZ|perspective)\\(",
     "(?:^|[\x7b;\\s])perspective(?:-origin)?\\s*:",
     "(?:^|[\x7b;\\s])transform-style\\s*:\\s*preserve-3d\\b",
     "(?:^|[\x7b;\\s])backface-visibility\\s*:"],
    []⟩,
  ⟨"css-individual-transforms", "Individual CSS transform properties",
    ["(?:^|[\x7b;\\s])(?:translate|rotate|scale)\\s*:"],
    []⟩,
  ⟨"will-change", "CSS will-change property",
    ["(?:^|[\x7b;\\s])will-change\\s*:"],
    []⟩,
  ⟨"css-motion-paths", "CSS Motion Path",
    ["(?:^|[\x7b;\\s])offset-(?:path|distance|rotate|anchor)\\s*:"],
    []⟩,
  ⟨"css-scroll-timeline", "CSS Scroll-driven Animations",
    ["(?:^|[\x7b;\\s])(?:animation-timeline|animation-range|scroll-timeline(?:-name|-axis)?" ++
       "|view-timeline(?:-name|-axis|-inset)?)\\s*:",
     ":\\s*(?:scroll|view)\\("],
    []⟩,
  ⟨"view-transitions", "View Transitions API (single-document)",
    ["(?:^|[\x7b;\\s])view-transition-name\\s*:", "::view-transition", "@view-transition\\b"],
    []⟩,
  ⟨"css-starting-style", "CSS @starting-style",
    ["@starting-style\\b"],
    []⟩,
  ⟨"css-transition-behavior", "CSS transition-behavior / allow-discrete",
    ["(?:^|[\x7b;\\s])transition-behavior\\s*:", "\\ballow-discrete\\b"],
    []⟩,
  ⟨"css-easing-functions", "CSS linear() easing function",
    ["(?:^|[\\s:,])linear\\(\\s*[-0-9.]"],
    []⟩]⟩

/-- What rules select. -/
def selectorsTopic : Topic := ⟨"selectors", [
  ⟨"css-has", ":has() CSS relational pseudo-class",
    [":has\\("],
    []⟩,
  ⟨"css-matches-pseudo", ":is() CSS pseudo-class",
    [":is\\(", ":matches\\(", ":-(?:webkit|moz)-any\\("],
    []⟩,
  ⟨"css-where-pseudo", ":where() CSS pseudo-class",
    [":where\\("],
    []⟩,
  ⟨"css-not-sel-list", "selector list argument of :not()",
    [":not\\([^)\x7b\x7d]*,"],
    []⟩,
  ⟨"css-nth-child-of", "selector list argument of :nth-child and :nth-last-child",
    [":nth-(?:last-)?child\\([^)\x7b\x7d]*\\bof\\b"],
    []⟩,
  ⟨"css-focus-visible", ":focus-visible CSS pseudo-class",
    [":focus-visible\\b"],
    []⟩,
  ⟨"css-focus-within", ":focus-within CSS pseudo-class",
    [":focus-within\\b"],
    []⟩,
  ⟨"css-placeholder", "::placeholder CSS pseudo-element",
    ["::?(?:-webkit-input-|-moz-)?placeholder\\b"],
    []⟩,
  ⟨"css-placeholder-shown", ":placeholder-shown CSS pseudo-class",
    [":placeholder-shown\\b"],
    []⟩,
  ⟨"css-selection", "::selection CSS pseudo-element",
    ["::(?:-moz-)?selection\\b"],
    []⟩,
  ⟨"css-marker-pseudo", "CSS ::marker pseudo-element",
    ["::marker\\b"],
    []⟩,
  ⟨"css-gencontent", "CSS Generated content for pseudo-elements",
    ["::?(?:before|after)\\b"],
    []⟩,
  ⟨"css-sel3", "CSS3 selectors",
    [":(?:nth-child|nth-last-child|nth-of-type|nth-last-of-type)\\(",
     ":(?:last-child|first-of-type|last-of-type|only-child|only-of-type|checked|empty|target" ++
       "|enabled|disabled)\\b"],
    []⟩,
  ⟨"css-read-only-write", "CSS :read-only and :read-write selectors",
    [":(?:-moz-)?read-(?:only|write)\\b"],
    []⟩,
  ⟨"css-default-pseudo", ":default CSS pseudo-class",
    [":default\\b"],
    []⟩,
  ⟨"css-indeterminate-pseudo", ":indeterminate CSS pseudo-class",
    [":indeterminate\\b"],
    []⟩,
  ⟨"css-in-out-of-range", ":in-range and :out-of-range CSS pseudo-classes",
    [":(?:in|out-of)-range\\b"],
    []⟩,
  ⟨"css-optional-pseudo", ":optional CSS pseudo-class",
    [":(?:optional|required)\\b"],
    []⟩,
  ⟨"form-validation", "Form validation pseudo-classes",
    [":(?:invalid|valid|user-invalid|user-valid)\\b"],
    []⟩,
  ⟨"css-any-link", ":any-link CSS pseudo-class",
    [":any-link\\b"],
    []⟩,
  ⟨"css-dir-pseudo", ":dir() CSS pseudo-class",
    [":dir\\("],
    []⟩,
  ⟨"css-case-insensitive", "Case-insensitive CSS attribute selectors",
    ["\\[[^\\]\x7b\x7d]*=\\s*(?:\"[^\"]*\"|'[^']*'|[\\w-]+)\\s+i\\s*\\]"],
    []⟩,
  ⟨"css-file-selector-button", "::file-selector-button CSS pseudo-element",
    ["::file-selector-button\\b"],
    []⟩,
  ⟨"css-autofill", ":autofill CSS pseudo-class",
    [":(?:-webkit-)?autofill\\b"],
    []⟩,
  ⟨"fullscreen", "Full Screen API pseudo-class",
    [":(?:-webkit-)?full-?screen\\b", "::backdrop\\b"],
    []⟩,
  ⟨"css-nesting", "CSS Nesting",
    ["(?:^|[\\s,\x7b(])&"],
    ["nesting", "&"]⟩,
  ⟨"css-first-letter", "::first-letter CSS pseudo-element",
    ["::?first-letter\\b"],
    []⟩,
  ⟨"css-first-line", "CSS first-line pseudo-element",
    ["::?first-line\\b"],
    []⟩,
  ⟨"css-modal-pseudo", ":modal CSS pseudo-class",
    [":modal\\b"],
    []⟩,
  ⟨"css-popover-pseudo", ":popover-open CSS pseudo-class",
    [":popover-open\\b"],
    []⟩]⟩

/-- Rules with an at sign. -/
def atRulesTopic : Topic := ⟨"at-rules", [
  ⟨"css-mediaqueries", "CSS3 Media Queries",
    ["@media\\b"],
    []⟩,
  ⟨"css-featurequeries", "CSS Feature Queries",
    ["@supports\\b"],
    []⟩,
  ⟨"css-container-queries", "CSS Container Queries (Size)",
    ["@container\\b", "(?:^|[\x7b;\\s])container(?:-type|-name)?\\s*:"],
    ["container"]⟩,
  ⟨"css-container-queries-style", "CSS Container Style Queries",
    ["@container\\b[^\\n\x7b]*\\bstyle\\("],
    []⟩,
  ⟨"css-cascade-layers", "CSS Cascade Layers",
    ["@layer\\b", "@import\\b[^\\n]*\\blayer\\b"],
    []⟩,
  ⟨"css-cascade-scope", "Scoped Styles: the @scope rule",
    ["@scope\\b"],
    []⟩,
  ⟨"css-at-counter-style", "CSS Counter Styles",
    ["@counter-style\\b"],
    []⟩,
  ⟨"css-paged-media", "CSS Paged Media (@page)",
    ["@page\\b"],
    []⟩,
  ⟨"css-at-property", "CSS @property",
    ["@property\\b"],
    []⟩,
  ⟨"css-namespaces", "CSS namespaces",
    ["@namespace\\b"],
    []⟩,
  ⟨"css-media-range-syntax", "Media Queries: Range Syntax",
    ["@(?:media|container)\\b[^\\n]*\\([^)\\n]*[<>]"],
    []⟩,
  ⟨"prefers-color-scheme", "prefers-color-scheme media query",
    ["\\bprefers-color-scheme\\b"],
    []⟩,
  ⟨"prefers-reduced-motion", "prefers-reduced-motion media query",
    ["\\bprefers-reduced-motion\\b"],
    []⟩,
  ⟨"css-media-resolution", "Media Queries: resolution feature",
    ["@media\\b[^\\n]*\\b(?:min-|max-)?resolution\\b",
     "-webkit-(?:min-|max-)?device-pixel-ratio"],
    []⟩,
  ⟨"css-media-interaction", "Media Queries: interaction media features",
    ["@media\\b[^\\n]*\\b(?:any-)?(?:hover|pointer)\\s*:"],
    []⟩,
  ⟨"css-media-scripting", "Media Queries: scripting media feature",
    ["@media\\b[^\\n]*\\bscripting\\b"],
    []⟩,
  ⟨"css-when-else", "CSS @when / @else conditional rules",
    ["@when\\b", "@else\\b"],
    []⟩]⟩

/-- Units and functions in values. -/
def valuesTopic : Topic := ⟨"values", [
  ⟨"css-variables", "CSS Variables (Custom Properties)",
    ["\\bvar\\(\\s*--", "(?:^|[\x7b;\\s])--[\\w-]+\\s*:"],
    ["custom properties"]⟩,
  ⟨"calc", "calc() as CSS unit value",
    ["\\b(?:-webkit-|-moz-)?calc\\("],
    []⟩,
  ⟨"css-math-functions", "CSS min(), max() and clamp()",
    ["\\b(?:min|max|clamp)\\("],
    []⟩,
  ⟨"css-trig-functions", "CSS trigonometric and exponential functions",
    ["\\b(?:sin|cos|tan|asin|acos|atan|atan2|pow|sqrt|hypot|log|exp|round|mod|rem)\\("],
    []⟩,
  ⟨"viewport-units", "Viewport units: vw, vh, vmin, vmax",
    ["\\d(?:vw|vh|vmin|vmax)\\b"],
    []⟩,
  ⟨"viewport-unit-variants", "Small, Large, and Dynamic viewport units",
    ["\\d(?:[sld]v(?:w|h|i|b|min|max))\\b"],
    []⟩,
  ⟨"rem", "rem (root em) units",
    ["\\drem\\b"],
    []⟩,
  ⟨"ch-unit", "ch (character) unit",
    ["\\dch\\b"],
    []⟩,
  ⟨"css-container-query-units", "CSS Container Query Units",
    ["\\d(?:cqw|cqh|cqi|cqb|cqmin|cqmax)\\b"],
    []⟩,
  ⟨"css-env-function", "CSS Environment Variables env()",
    ["\\benv\\(\\s*[a-z-]+"],
    []⟩,
  ⟨"css-unset-value", "CSS unset value",
    [":\\s*unset\\b"],
    []⟩,
  ⟨"css-initial-value", "CSS initial value",
    [":\\s*initial\\b"],
    []⟩,
  ⟨"css-revert-value", "CSS revert value",
    [":\\s*revert(?:-layer)?\\b"],
    []⟩,
  ⟨"css-all", "CSS all property",
    ["(?:^|[\x7b;\\s])all\\s*:"],
    []⟩,
  ⟨"css-rrggbbaa", "#rrggbbaa hex color notation",
    ["#[0-9a-f]\x7b8\x7d\\b", ":\\s*#[0-9a-f]\x7b4\x7d\\b"],
    []⟩,
  ⟨"intrinsic-width", "Intrinsic & Extrinsic Sizing",
    ["\\b(?:min-content|max-content|fit-content)\\b"],
    []⟩,
  ⟨"css-counters", "CSS Counters",
    ["(?:^|[\x7b;\\s])counter-(?:reset|increment|set)\\s*:", "\\bcounters?\\("],
    []⟩,
  ⟨"css-attr-function", "CSS attr() function",
    ["\\battr\\(\\s*[\\w-]+"],
    []⟩,
  ⟨"css-light-dark", "CSS light-dark() color function",
    ["\\blight-dark\\("],
    []⟩]⟩

/-- Pointers, scrolling and what the user does. -/
def interactionTopic : Topic := ⟨"interaction", [
  ⟨"pointer-events", "CSS pointer-events (for HTML)",
    ["(?:^|[\x7b;\\s])pointer-events\\s*:"],
    []⟩,
  ⟨"css-touch-action", "CSS touch-action property",
    ["(?:^|[\x7b;\\s])touch-action\\s*:"],
    []⟩,
  ⟨"user-select-none", "CSS user-select: none",
    ["(?:^|[\x7b;\\s])(?:-webkit-|-moz-|-ms-)?user-select\\s*:"],
    []⟩,
  ⟨"css-resize", "CSS resize property",
    ["(?:^|[\x7b;\\s])resize\\s*:"],
    []⟩,
  ⟨"css-appearance", "CSS Appearance",
    ["(?:^|[\x7b;\\s])(?:-webkit-|-moz-)?appearance\\s*:"],
    []⟩,
  ⟨"css-scroll-behavior", "CSS Scroll-behavior",
    ["(?:^|[\x7b;\\s])scroll-behavior\\s*:"],
    []⟩,
  ⟨"css-snappoints", "CSS Scroll Snap",
    ["(?:^|[\x7b;\\s])scroll-snap-(?:type|align|stop)\\s*:",
     "(?:^|[\x7b;\\s])scroll-(?:padding|margin)(?:-[a-z]+)*\\s*:"],
    []⟩,
  ⟨"css-overscroll-behavior", "CSS overscroll-behavior",
    ["(?:^|[\x7b;\\s])overscroll-behavior(?:-x|-y|-inline|-block)?\\s*:"],
    []⟩,
  ⟨"css-scrollbar", "CSS scrollbar styling",
    ["(?:^|[\x7b;\\s])scrollbar-(?:width|color)\\s*:", "::-webkit-scrollbar"],
    []⟩,
  ⟨"css-scrollbar-gutter", "CSS scrollbar-gutter",
    ["(?:^|[\x7b;\\s])scrollbar-gutter\\s*:"],
    []⟩,
  ⟨"css-caret-color", "CSS caret-color",
    ["(?:^|[\x7b;\\s])caret-color\\s*:"],
    []⟩,
  ⟨"css-accent-color", "accent-color",
    ["(?:^|[\x7b;\\s])accent-color\\s*:"],
    []⟩,
  ⟨"css-field-sizing", "CSS field-sizing",
    ["(?:^|[\x7b;\\s])field-sizing\\s*:"],
    []⟩,
  ⟨"css-interpolate-size", "CSS interpolate-size",
    ["(?:^|[\x7b;\\s])interpolate-size\\s*:", "\\bcalc-size\\("],
    []⟩]⟩

/-- The topics of style sheets, in the order in which they are entered. -/
def styleTopics : List Topic :=
  [layoutTopic, typographyTopic, visualTopic, animationTopic, selectorsTopic, atRulesTopic,
   valuesTopic, interactionTopic]

end FeatureScan.Catalog
