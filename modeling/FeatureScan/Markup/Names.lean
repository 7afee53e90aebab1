/-!
# Plain names of markup

The attributes that every document may use without needing a rule, and the elements whose hyphen
does not make them custom ones.

## Main results

* `isPlainAttribute_of_mem`: every listed attribute is plain.
-/

namespace FeatureScan.Markup

/-- Elements with a hyphen that belong to drawings and formulas. -/
def hyphenatedElements : List String := [
  "annotation-xml", "color-profile", "font-face", "font-face-src", "font-face-uri",
  "font-face-format", "font-face-name", "missing-glyph"]

/-- Whether a name is that of a custom element: it has a hyphen, and is none of those that have one
without being custom. -/
def isCustomElement (name : String) : Bool :=
  name.toList.contains '-' && !hyphenatedElements.contains name

/-- Attributes that need no rule. -/
def plainAttributes : List String := [
  "id", "class", "style", "title", "lang", "dir", "tabindex", "accesskey", "translate", "role",
  "slot", "is", "part", "exportparts", "itemscope", "itemtype", "itemprop", "itemid", "itemref",
  "xmlns", "xml:lang", "xml:space", "href", "src", "alt", "width", "height", "type", "name",
  "value", "rel", "rev", "target", "hreflang", "media", "charset", "content", "http-equiv",
  "property", "srcset", "sizes", "usemap", "ismap", "coords", "shape", "longdesc", "action",
  "method", "enctype", "accept-charset", "for", "checked", "disabled", "selected", "readonly",
  "multiple", "max", "min", "step", "size", "maxlength", "cols", "rows", "wrap", "label", "list",
  "dirname", "colspan", "rowspan", "headers", "scope", "span", "summary", "abbr", "async",
  "defer", "nomodule", "controls", "autoplay", "loop", "muted", "poster", "preload",
  "playsinline", "kind", "srclang", "default", "data", "datetime", "cite", "open", "start",
  "high", "low", "optimum", "frameborder", "scrolling", "allowfullscreen", "border",
  "cellpadding", "cellspacing", "align", "valign", "bgcolor", "manifest", "viewbox",
  "preserveaspectratio", "d", "fill", "fill-rule", "clip-rule", "stroke", "stroke-width",
  "stroke-linecap", "stroke-linejoin", "stroke-dasharray", "opacity", "transform", "x", "y",
  "x1", "y1", "x2", "y2", "cx", "cy", "r", "rx", "ry", "points", "version", "focusable",
  "xlink:href", "xmlns:xlink", "offset", "stop-color", "gradientunits", "gradienttransform",
  "clip-path", "mask", "filter"]

/-- Whether a text begins with another one. -/
def beginsWith (front : String) (s : String) : Bool := front.toList.isPrefixOf s.toList

/-- Whether an attribute needs no rule: it is listed, carries data of the author, helps
accessibility or handles an event. -/
def isPlainAttribute (name : String) : Bool :=
  plainAttributes.contains name || beginsWith "data-" name || beginsWith "aria-" name ||
    (beginsWith "on" name && name.toList.length > 2)

theorem isPlainAttribute_of_mem {name : String} (h : name ∈ plainAttributes) :
    isPlainAttribute name = true := by
  simp [isPlainAttribute, h]

end FeatureScan.Markup
