import FeatureScan.Language

/-!
# Rules for markup

The builtin lookups by which elements, attributes, kinds of inputs and pairs of attribute and value
name features, and the descriptions of the features that markup can use.

## Main results

* `builtinLookup_keys_nodup`: no lookup has a key twice.
-/

namespace FeatureScan.Catalog

/-- Elements by their names. -/
def elementLookup : List (String × String) := [
  ("video", "video"),
  ("audio", "audio"),
  ("picture", "picture"),
  ("canvas", "canvas"),
  ("svg", "svg-html5"),
  ("math", "mathml"),
  ("template", "template"),
  ("slot", "shadowdomv1"),
  ("dialog", "dialog"),
  ("details", "details"),
  ("summary", "details"),
  ("datalist", "datalist"),
  ("meter", "meter"),
  ("progress", "progress"),
  ("output", "form-validation"),
  ("main", "html5semantic"),
  ("article", "html5semantic"),
  ("aside", "html5semantic"),
  ("header", "html5semantic"),
  ("footer", "html5semantic"),
  ("nav", "html5semantic"),
  ("section", "html5semantic"),
  ("figure", "html5semantic"),
  ("figcaption", "html5semantic"),
  ("mark", "html5semantic"),
  ("time", "html5semantic"),
  ("ruby", "ruby"),
  ("rt", "ruby"),
  ("rp", "ruby"),
  ("wbr", "wbr-element"),
  ("search", "mdn-html_elements_search"),
  ("selectedcontent", "customizable-select")]

/-- Inputs by their types. -/
def inputTypeLookup : List (String × String) := [
  ("color", "input-color"),
  ("date", "input-datetime"),
  ("datetime-local", "input-datetime"),
  ("time", "input-datetime"),
  ("month", "input-datetime"),
  ("week", "input-datetime"),
  ("email", "input-email-tel-url"),
  ("tel", "input-email-tel-url"),
  ("url", "input-email-tel-url"),
  ("number", "input-number"),
  ("range", "input-range"),
  ("search", "input-search")]

/-- Attributes by their names. -/
def attributeLookup : List (String × String) := [
  ("loading", "loading-lazy-attr"),
  ("contenteditable", "contenteditable"),
  ("draggable", "dragndrop"),
  ("hidden", "hidden"),
  ("download", "download"),
  ("placeholder", "input-placeholder"),
  ("required", "form-validation"),
  ("novalidate", "form-validation"),
  ("pattern", "input-pattern"),
  ("autofocus", "autofocus"),
  ("autocomplete", "input-autocomplete-onoff"),
  ("inputmode", "input-inputmode"),
  ("enterkeyhint", "mdn-html_global_attributes_enterkeyhint"),
  ("minlength", "input-minlength"),
  ("accept", "input-file-accept"),
  ("capture", "html-media-capture"),
  ("form", "form-attribute"),
  ("formaction", "form-submit-attributes"),
  ("formmethod", "form-submit-attributes"),
  ("formtarget", "form-submit-attributes"),
  ("formnovalidate", "form-submit-attributes"),
  ("integrity", "subresource-integrity"),
  ("crossorigin", "cors"),
  ("referrerpolicy", "referrer-policy"),
  ("sandbox", "iframe-sandbox"),
  ("srcdoc", "iframe-srcdoc"),
  ("decoding", "mdn-html_elements_img_decoding"),
  ("fetchpriority", "mdn-html_elements_img_fetchpriority"),
  ("popover", "mdn-api_htmlelement_popover"),
  ("popovertarget", "mdn-api_htmlelement_popover"),
  ("inert", "mdn-api_htmlelement_inert"),
  ("spellcheck", "spellcheck-attribute"),
  ("nonce", "contentsecuritypolicy2"),
  ("ping", "ping"),
  ("reversed", "ol-reversed"),
  ("allow", "permissions-policy"),
  ("blocking", "mdn-html_elements_link_blocking")]

/-- Attributes by name, colon and value. -/
def attributeValueLookup : List (String × String) := [
  ("type:video/webm", "webm"),
  ("type:video/mp4", "mpeg4"),
  ("type:video/ogg", "ogv"),
  ("type:audio/ogg", "ogg-vorbis"),
  ("type:audio/mpeg", "mp3"),
  ("type:audio/wav", "wav"),
  ("type:audio/aac", "aac"),
  ("type:audio/flac", "flac"),
  ("type:audio/opus", "opus"),
  ("type:image/webp", "webp"),
  ("type:image/avif", "avif"),
  ("type:image/jxl", "jpegxl"),
  ("type:image/apng", "apng"),
  ("type:image/heic", "heif"),
  ("type:font/woff2", "woff2"),
  ("type:font/woff", "woff"),
  ("type:importmap", "import-maps"),
  ("type:speculationrules", "speculation-rules"),
  ("http-equiv:content-security-policy", "contentsecuritypolicy"),
  ("autocomplete:one-time-code", "input-autocomplete-onoff"),
  ("loading:lazy", "loading-lazy-attr"),
  ("dir:auto", "mdn-html_global_attributes_dir_auto")]

/-- The builtin lookup of a kind, as pairs of key and feature. -/
def builtinLookup : LookupKind → List (String × String)
  | .elements => elementLookup
  | .attributes => attributeLookup
  | .inputTypes => inputTypeLookup
  | .attributeValues => attributeValueLookup

theorem builtinLookup_keys_nodup (kind : LookupKind) :
    ((builtinLookup kind).map Prod.fst).Nodup := by
  cases kind <;> decide +kernel

/-- What the features of markup are called. -/
def featureDescriptions : List (String × String) := [
  ("video", "Video element"),
  ("audio", "Audio element"),
  ("picture", "Picture element"),
  ("canvas", "Canvas (basic support)"),
  ("svg-html5", "Inline SVG in HTML5"),
  ("mathml", "MathML"),
  ("template", "HTML templates"),
  ("shadowdomv1", "Shadow DOM (V1)"),
  ("dialog", "Dialog element"),
  ("details", "Details & Summary elements"),
  ("datalist", "Datalist element"),
  ("meter", "Meter element"),
  ("progress", "Progress element"),
  ("form-validation", "Form validation"),
  ("html5semantic", "New semantic elements"),
  ("ruby", "Ruby annotation"),
  ("wbr-element", "wbr (word break opportunity) element"),
  ("mdn-html_elements_search", "search element"),
  ("customizable-select", "Customizable select element"),
  ("input-color", "Color input type"),
  ("input-datetime", "Date and time input types"),
  ("input-email-tel-url", "Email, telephone & URL input types"),
  ("input-number", "Number input type"),
  ("input-range", "Range input type"),
  ("input-search", "Search input type"),
  ("loading-lazy-attr", "Lazy loading via attribute for images & iframes"),
  ("contenteditable", "contenteditable attribute (basic support)"),
  ("dragndrop", "Drag and Drop"),
  ("hidden", "hidden attribute"),
  ("download", "Download attribute"),
  ("input-placeholder", "input placeholder attribute"),
  ("input-pattern", "Pattern attribute for input fields"),
  ("autofocus", "Autofocus attribute"),
  ("input-autocomplete-onoff", "autocomplete attribute: on & off values"),
  ("input-inputmode", "inputmode attribute"),
  ("mdn-html_global_attributes_enterkeyhint", "enterkeyhint attribute"),
  ("input-minlength", "Minimum length attribute for input fields"),
  ("input-file-accept", "accept attribute for file input"),
  ("html-media-capture", "HTML Media Capture"),
  ("form-attribute", "Form attribute"),
  ("form-submit-attributes", "Attributes for form submission"),
  ("subresource-integrity", "Subresource Integrity"),
  ("cors", "Cross-Origin Resource Sharing"),
  ("referrer-policy", "Referrer Policy"),
  ("iframe-sandbox", "sandbox attribute for iframes"),
  ("iframe-srcdoc", "srcdoc attribute for iframes"),
  ("mdn-html_elements_img_decoding", "decoding attribute"),
  ("mdn-html_elements_img_fetchpriority", "fetchpriority attribute"),
  ("mdn-api_htmlelement_popover", "Popover API"),
  ("mdn-api_htmlelement_inert", "inert attribute"),
  ("spellcheck-attribute", "Spellcheck attribute"),
  ("contentsecuritypolicy2", "Content Security Policy Level 2"),
  ("contentsecuritypolicy", "Content Security Policy 1.0"),
  ("ping", "Ping attribute"),
  ("ol-reversed", "Reversed attribute of ordered lists"),
  ("permissions-policy", "Permissions Policy"),
  ("mdn-html_elements_link_blocking", "blocking attribute"),
  ("mdn-html_global_attributes_dir_auto", "dir=\"auto\" attribute value"),
  ("webm", "WebM video format"),
  ("mpeg4", "MPEG-4/H.264 video format"),
  ("ogv", "Ogg/Theora video format"),
  ("ogg-vorbis", "Ogg Vorbis audio format"),
  ("mp3", "MP3 audio format"),
  ("wav", "Waveform Audio File Format"),
  ("aac", "AAC audio file format"),
  ("flac", "FLAC audio format"),
  ("opus", "Opus audio format"),
  ("webp", "WebP image format"),
  ("avif", "AVIF image format"),
  ("jpegxl", "JPEG XL image format"),
  ("apng", "Animated PNG (APNG)"),
  ("heif", "HEIF/HEIC image format"),
  ("woff2", "WOFF 2.0 - Web Open Font Format"),
  ("woff", "WOFF - Web Open Font Format"),
  ("import-maps", "Import maps"),
  ("speculation-rules", "Speculation Rules API"),
  ("srcset", "Srcset and sizes attributes"),
  ("dataset", "dataset & data-* attributes"),
  ("script-async", "async attribute for external scripts"),
  ("script-defer", "defer attribute for external scripts"),
  ("es6-module", "JavaScript modules via script tag"),
  ("link-rel-preload", "Resource Hints: preload"),
  ("link-rel-prefetch", "Resource Hints: prefetch"),
  ("link-rel-preconnect", "Resource Hints: preconnect"),
  ("link-rel-dns-prefetch", "Resource Hints: dns-prefetch"),
  ("link-rel-modulepreload", "Resource Hints: modulepreload"),
  ("link-rel-prerender", "Resource Hints: prerender"),
  ("link-icon-svg", "SVG favicons"),
  ("rel-noopener", "rel=noopener"),
  ("rel-noreferrer", "Link type \"noreferrer\""),
  ("web-app-manifest", "Add to home screen (A2HS)"),
  ("viewport-meta", "Viewport meta tag"),
  ("meta-theme-color", "theme-color Meta Tag"),
  ("svg-img", "SVG in HTML img element"),
  ("svg-fragment", "SVG fragment identifiers"),
  ("media-fragments", "Media Fragments"),
  ("custom-elementsv1", "Custom Elements (V1)"),
  ("fieldset-disabled", "disabled attribute of the fieldset element"),
  ("videotracks", "Video Tracks"),
  ("audiotracks", "Audio Tracks"),
  ("webvtt", "WebVTT - Web Video Text Tracks"),
  ("datauri", "Data URIs"),
  ("xhtml", "XHTML served as application/xhtml+xml")]

/-- The description of a feature of markup; a feature without one is described by its name. -/
def featureDescription (feature : String) : String :=
  ((featureDescriptions.find? fun p => p.1 == feature).map Prod.snd).getD feature

end FeatureScan.Catalog
