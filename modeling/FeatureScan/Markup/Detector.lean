import FeatureScan.Markup.Element
import FeatureScan.Markup.Names
import FeatureScan.Text.Blank
import FeatureScan.Text.Pieces

/-!
# Detectors

Some features show in no single name, but in how an element, its attributes and the elements around
it belong together. A detector is a test for one such feature.

## Main results

* `detectors_features_nodup`: no two detectors are for one feature.
-/

namespace FeatureScan.Markup

namespace Place

/-! ## Tests of places -/

/-- Whether the element has a given name, case apart. -/
def isNamed (p : Place) (name : String) : Bool := Text.sameIgnoringCase p.name name

/-- Whether the parent has a given name, case apart. -/
def isUnder (p : Place) (name : String) : Bool :=
  p.parent?.any fun parent => Text.sameIgnoringCase parent name

/-- The value of an attribute that is asked for by its plain name. -/
def value? (p : Place) (name : String) : Option String := valueOf? p.attributes name

/-- Whether there is an attribute of that plain name. -/
def has (p : Place) (name : String) : Bool := (p.value? name).isSome

/-- Whether an attribute has a given value, blanks around it and case apart. -/
def hasValue (p : Place) (name value : String) : Bool :=
  (p.value? name).any fun v => Text.sameIgnoringCase (Text.trimmed v) value

/-- Whether a relation is among those that the element states. -/
def hasRelation (p : Place) (relation : String) : Bool :=
  (p.value? "rel").any fun v => (Text.words v).any fun w => Text.sameIgnoringCase w relation

/-- Whether the element lies somewhere inside one of a given name, case apart. -/
def isWithin (p : Place) (name : String) : Bool :=
  p.ancestors.any fun outer => Text.sameIgnoringCase outer name

/-- Attributes that hold addresses. -/
def addressAttributes : List String :=
  ["src", "href", "srcset", "poster", "data", "action", "formaction", "cite"]

/-- The addresses of an element. -/
def addresses (p : Place) : List String := addressAttributes.filterMap p.value?

end Place

/-! ## Tests of addresses -/

/-- The path of an address in small letters, without what follows a question mark or a hash. -/
def pathOf (address : String) : String :=
  let path := address.toList.takeWhile fun c => c != '?' && c != '#'
  Text.asciiLower (String.ofList (Text.trim path))

/-- Whether the path of an address ends in a given way. -/
def pathEndsWith (back address : String) : Bool := Text.hasBack back.toList (pathOf address).toList

/-- Whether a text begins with another one, the case of ASCII letters apart. -/
def beginsWithIgnoringCase (front : String) (cs : List Char) : Bool :=
  (cs.take front.toList.length).map Text.lowerChar == front.toList

/-- Whether a text has a given part. -/
def hasPart (part s : String) : Bool := Text.hasPart part.toList s.toList

/-- Whether an address is that of a drawing: its path says so, or it holds the drawing itself. -/
def isDrawingAddress (address : String) : Bool :=
  let address := Text.trim address.toList
  pathEndsWith ".svg" (String.ofList address) ||
    beginsWithIgnoringCase "data:image/svg+xml" address

/-- The addresses of the images to choose from. -/
def choices (p : Place) : List String :=
  match p.value? "srcset" with
  | some set => (Text.pieces ',' set.toList).filterMap fun c => (Text.words (String.ofList c)).head?
  | none => []

/-! ## Detectors -/

/-- A test for a feature. -/
structure Detector where
  /-- The feature. -/
  feature : String
  /-- What has been seen if the test holds. -/
  evidence : String
  /-- The test. -/
  holds : Place → Bool

/-- Whether the element is a link that states a relation. -/
def isLinkTo (relation : String) (p : Place) : Bool := p.isNamed "link" && p.hasRelation relation

/-- Whether the element is an image or one of the sources of an image. -/
def isImageOrSource (p : Place) : Bool := p.isNamed "img" || p.isNamed "source"

/-- Whether the element offers several images. -/
def offersImages (p : Place) : Bool := isImageOrSource p && (p.has "srcset" || p.has "sizes")

/-- Whether the element has an attribute with data of the author. -/
def carriesData (p : Place) : Bool :=
  p.attributes.any fun a => beginsWith "data-" a.name && a.name.toList.length > 5

/-- Whether the element is a link to a drawing as an icon. -/
def isDrawingIcon (p : Place) : Bool :=
  isLinkTo "icon" p &&
    (p.hasValue "type" "image/svg+xml" || (p.value? "href").any (pathEndsWith ".svg"))

/-- Whether the element shows a drawing as an image. -/
def showsDrawing (p : Place) : Bool :=
  (p.isNamed "img" && (p.value? "src").any isDrawingAddress) ||
    (isImageOrSource p && (choices p).any isDrawingAddress)

/-- Whether the element refers to a part of a drawing. -/
def refersIntoDrawing (p : Place) : Bool :=
  if p.isNamed "use" then
    p.attributes.any fun a => (a.name == "href" || a.name == "xlink:href") && hasPart "#" a.value
  else p.addresses.any fun v => hasPart ".svg#" (Text.asciiLower v)

/-- Whether an address names a part of a medium: a time, a track or a rectangle. -/
def namesPart (address : String) : Bool :=
  ["#t=", "#track=", "#xywh="].any fun key => hasPart key address

/-- Whether an address holds its data itself. -/
def isDataAddress (address : String) : Bool :=
  beginsWithIgnoringCase "data:" (Text.trimStart address.toList)

/-- Whether the element is the root of a document in the stricter form of markup. -/
def isStrictRoot (p : Place) : Bool :=
  p.isNamed "html" && (p.value? "xmlns").any fun v => hasPart "xhtml" (Text.asciiLower v)

/-- All detectors. -/
def detectors : List Detector := [
  ⟨"srcset", "srcset/sizes on img or source", offersImages⟩,
  ⟨"picture", "source inside picture", fun p => p.isNamed "source" && p.isUnder "picture"⟩,
  ⟨"dataset", "data-* attribute", carriesData⟩,
  ⟨"script-async", "script async", fun p => p.isNamed "script" && p.has "async"⟩,
  ⟨"script-defer", "script defer", fun p => p.isNamed "script" && p.has "defer"⟩,
  ⟨"es6-module", "script type=module", fun p => p.isNamed "script" && p.hasValue "type" "module"⟩,
  ⟨"link-rel-preload", "link rel=preload", isLinkTo "preload"⟩,
  ⟨"link-rel-prefetch", "link rel=prefetch", isLinkTo "prefetch"⟩,
  ⟨"link-rel-preconnect", "link rel=preconnect", isLinkTo "preconnect"⟩,
  ⟨"link-rel-dns-prefetch", "link rel=dns-prefetch", isLinkTo "dns-prefetch"⟩,
  ⟨"link-rel-modulepreload", "link rel=modulepreload", isLinkTo "modulepreload"⟩,
  ⟨"link-rel-prerender", "link rel=prerender", isLinkTo "prerender"⟩,
  ⟨"link-icon-svg", "SVG icon link", isDrawingIcon⟩,
  ⟨"rel-noopener", "rel=noopener", fun p => p.hasRelation "noopener"⟩,
  ⟨"rel-noreferrer", "rel=noreferrer", fun p => p.hasRelation "noreferrer"⟩,
  ⟨"web-app-manifest", "link rel=manifest", isLinkTo "manifest"⟩,
  ⟨"viewport-meta", "meta name=viewport",
    fun p => p.isNamed "meta" && p.hasValue "name" "viewport"⟩,
  ⟨"meta-theme-color", "meta name=theme-color",
    fun p => p.isNamed "meta" && p.hasValue "name" "theme-color"⟩,
  ⟨"svg-img", "SVG image source", showsDrawing⟩,
  ⟨"svg-fragment", "SVG fragment reference", refersIntoDrawing⟩,
  ⟨"media-fragments", "media fragment URI", fun p => p.addresses.any namesPart⟩,
  ⟨"custom-elementsv1", "hyphenated custom element",
    fun p => isCustomElement (Text.asciiLower p.name)⟩,
  ⟨"fieldset-disabled", "fieldset disabled", fun p => p.isNamed "fieldset" && p.has "disabled"⟩,
  ⟨"videotracks", "track inside video", fun p => p.isNamed "track" && p.isWithin "video"⟩,
  ⟨"audiotracks", "track inside audio", fun p => p.isNamed "track" && p.isWithin "audio"⟩,
  ⟨"webvtt", "track with .vtt source",
    fun p => p.isNamed "track" && (p.value? "src").any (pathEndsWith ".vtt")⟩,
  ⟨"datauri", "data: URI in URL attribute", fun p => p.addresses.any isDataAddress⟩,
  ⟨"xhtml", "xhtml namespace on html", isStrictRoot⟩]

/-- The features that detectors are for. -/
def detectedFeatures : List String := detectors.map Detector.feature

theorem detectors_features_nodup : detectedFeatures.Nodup := by decide

end FeatureScan.Markup
