import FeatureScan.Rule

/-!
# Rules for scripts

The builtin rules that scripts are searched by, after their comments have been taken out. The first
pattern of a rule that matches is the evidence. Letters stand for themselves.
-/

namespace FeatureScan.Catalog

/-- The language itself. -/
def syntaxTopic : Topic := ⟨"syntax", [
  ⟨"arrow-functions", "Arrow functions",
    ["=>"],
    []⟩,
  ⟨"const", "const",
    ["\\bconst\\s+[\\w$\\[\x7b]"],
    []⟩,
  ⟨"let", "let",
    ["\\blet\\s+[\\w$\\[\x7b]"],
    []⟩,
  ⟨"es6-class", "ES6 classes",
    ["\\bclass\\s+[A-Za-z_$][\\w$]*(?:\\s+extends\\s+[\\w$.]+)?\\s*\\\x7b",
     "\\bclass\\s+extends\\b"],
    []⟩,
  ⟨"template-literals", "ES6 Template Literals (Template Strings)",
    ["`"],
    []⟩,
  ⟨"rest-parameters", "Rest parameters and spread syntax",
    ["\\.\\.\\.[\\w$\\[\x7b(]"],
    []⟩,
  ⟨"es6-module", "JavaScript modules via script tag",
    ["(?m)^\\s*import\\s+(?:[\\w$*\x7b]|[\"'])",
     "(?m)^\\s*export\\s+(?:default\\b|const\\b|let\\b|var\\b|function\\b|class\\b|async\\b" ++
       "|\\\x7b|\\*)"],
    []⟩,
  ⟨"es6-module-dynamic-import", "JavaScript modules: dynamic import()",
    ["\\bimport\\s*\\(\\s*[`'\\x22\\w$]"],
    []⟩,
  ⟨"import-meta", "import.meta",
    ["\\bimport\\.meta\\b"],
    []⟩,
  ⟨"async-functions", "Async functions",
    ["\\basync\\s+(?:function\\b|\\(|[\\w$]+\\s*=>)", "\\bawait\\s+[\\w$(\\[]"],
    []⟩,
  ⟨"es6-generators", "ES6 Generators",
    ["\\bfunction\\s*\\*", "\\byield\\s*\\*?\\s*[\\w$(\\[]"],
    []⟩,
  ⟨"async-iterations-and-generators", "Async iterators and generators",
    ["\\bfor\\s+await\\s*\\(", "\\basync\\s+function\\s*\\*", "Symbol\\.asyncIterator\\b"],
    []⟩,
  ⟨"es6", "ES6 destructuring, default parameters and computed properties",
    ["\\b(?:const|let|var)\\s*[\\[\x7b]"],
    []⟩,
  ⟨"mdn-javascript_operators_optional_chaining", "Optional chaining (?.)",
    ["\\?\\.[\\w$\\[(]"],
    []⟩,
  ⟨"mdn-javascript_operators_nullish_coalescing", "Nullish coalescing operator (??)",
    ["\\?\\?"],
    []⟩,
  ⟨"mdn-javascript_operators_logical_assignment", "Logical assignment operators (&&=, ||=, ??=)",
    ["(?:&&|\\|\\||\\?\\?)="],
    []⟩,
  ⟨"mdn-javascript_operators_exponentiation", "Exponentiation operator (**)",
    ["[\\w$)\\]]\\s*\\*\\*=?\\s*[\\w$(\\[-]"],
    []⟩,
  ⟨"bigint", "BigInt",
    ["\\bBigInt\\s*\\(", "\\b\\d+n\\b"],
    []⟩,
  ⟨"mdn-javascript_classes_private_class_fields", "Private class fields",
    ["\\bthis\\.#[A-Za-z_$]", "(?m)^\\s*(?:static\\s+)?#[A-Za-z_$][\\w$]*\\s*(?:=|;|\\()"],
    []⟩,
  ⟨"mdn-javascript_classes_static_initialization_blocks", "Class static initialization blocks",
    ["\\bstatic\\s*\\\x7b"],
    []⟩,
  ⟨"mdn-javascript_grammar_numeric_separators", "Numeric separators",
    ["\\b\\d+(?:_\\d+)+\\b"],
    []⟩,
  ⟨"mdn-javascript_regular_expressions_named_capturing_group", "RegExp named capture groups",
    ["\\(\\?<[A-Za-z_$]"],
    []⟩,
  ⟨"js-regexp-lookbehind", "Lookbehind in JS regular expressions",
    ["\\(\\?<[=!]"],
    []⟩,
  ⟨"es5", "ECMAScript 5 strict mode",
    ["[\"']use strict[\"']"],
    []⟩]⟩

/-- Built-in objects and their methods. -/
def runtimeTopic : Topic := ⟨"runtime", [
  ⟨"promises", "Promises",
    ["\\bnew\\s+Promise\\s*\\(",
     "\\bPromise\\.(?:resolve|reject|all|race)\\s*\\(",
     "\\.then\\s*\\("],
    []⟩,
  ⟨"promise-finally", "Promise.prototype.finally",
    ["\\.finally\\s*\\("],
    []⟩,
  ⟨"mdn-javascript_builtins_promise_allsettled", "Promise.allSettled()",
    ["\\bPromise\\.allSettled\\s*\\("],
    []⟩,
  ⟨"mdn-javascript_builtins_promise_any", "Promise.any()",
    ["\\bPromise\\.any\\s*\\("],
    []⟩,
  ⟨"es6-collections", "Map, Set, WeakMap and WeakSet",
    ["\\bnew\\s+(?:Map|Set|WeakMap|WeakSet)\\s*\\("],
    []⟩,
  ⟨"mdn-javascript_builtins_weakref", "WeakRef and FinalizationRegistry",
    ["\\bnew\\s+(?:WeakRef|FinalizationRegistry)\\s*\\("],
    []⟩,
  ⟨"proxy", "Proxy object",
    ["\\bnew\\s+Proxy\\s*\\(", "\\bReflect\\.[a-z]\\w*\\s*\\("],
    []⟩,
  ⟨"es6-symbol", "Symbol",
    ["\\bSymbol\\s*\\(", "\\bSymbol\\.(?:iterator|for|toPrimitive|hasInstance)\\b"],
    []⟩,
  ⟨"es6-number", "ES6 Number",
    ["\\bNumber\\.(?:isInteger|isFinite|isNaN|isSafeInteger|EPSILON|MAX_SAFE_INTEGER" ++
       "|MIN_SAFE_INTEGER|parseFloat|parseInt)\\b"],
    []⟩,
  ⟨"array-includes", "Array.prototype.includes",
    ["\\.includes\\s*\\("],
    []⟩,
  ⟨"array-find", "Array.prototype.find",
    ["\\.find\\s*\\("],
    []⟩,
  ⟨"array-find-index", "Array.prototype.findIndex",
    ["\\.findIndex\\s*\\("],
    []⟩,
  ⟨"array-flat", "flat & flatMap array methods",
    ["\\.flat(?:Map)?\\s*\\("],
    []⟩,
  ⟨"mdn-javascript_builtins_array_at", "Array.prototype.at()",
    ["\\.at\\s*\\(\\s*-?\\d"],
    []⟩,
  ⟨"mdn-javascript_builtins_array_findlast", "Array.prototype.findLast()",
    ["\\.findLast(?:Index)?\\s*\\("],
    []⟩,
  ⟨"mdn-javascript_builtins_array_tosorted",
    "Change array by copy (toSorted, toReversed, toSpliced, with)",
    ["\\.(?:toSorted|toReversed|toSpliced)\\s*\\("],
    []⟩,
  ⟨"mdn-javascript_builtins_array_from", "Array.from()",
    ["\\bArray\\.(?:from|of)\\s*\\("],
    []⟩,
  ⟨"object-entries", "Object.entries",
    ["\\bObject\\.entries\\s*\\("],
    []⟩,
  ⟨"object-values", "Object.values method",
    ["\\bObject\\.values\\s*\\("],
    []⟩,
  ⟨"mdn-javascript_builtins_object_fromentries", "Object.fromEntries()",
    ["\\bObject\\.fromEntries\\s*\\("],
    []⟩,
  ⟨"mdn-javascript_builtins_object_hasown", "Object.hasOwn()",
    ["\\bObject\\.hasOwn\\s*\\("],
    []⟩,
  ⟨"mdn-javascript_builtins_object_groupby", "Object.groupBy() / Map.groupBy()",
    ["\\b(?:Object|Map)\\.groupBy\\s*\\("],
    []⟩,
  ⟨"padstring", "String.prototype.padStart(), String.prototype.padEnd()",
    ["\\.pad(?:Start|End)\\s*\\("],
    []⟩,
  ⟨"mdn-javascript_builtins_string_replaceall", "String.prototype.replaceAll()",
    ["\\.replaceAll\\s*\\("],
    []⟩,
  ⟨"mdn-javascript_builtins_string_matchall", "String.prototype.matchAll()",
    ["\\.matchAll\\s*\\("],
    []⟩,
  ⟨"mdn-javascript_builtins_globalthis", "globalThis",
    ["\\bglobalThis\\b"],
    []⟩,
  ⟨"internationalization", "Internationalization API",
    ["\\bIntl\\.(?:DateTimeFormat|NumberFormat|Collator)\\b"],
    []⟩,
  ⟨"intl-pluralrules", "Intl.PluralRules API",
    ["\\bIntl\\.PluralRules\\b"],
    []⟩,
  ⟨"mdn-javascript_builtins_intl_relativetimeformat", "Intl.RelativeTimeFormat",
    ["\\bIntl\\.RelativeTimeFormat\\b"],
    []⟩,
  ⟨"typedarrays", "Typed Arrays",
    ["\\b(?:Uint8|Uint8Clamped|Int8|Uint16|Int16|Uint32|Int32|Float32|Float64|BigInt64" ++
       "|BigUint64)Array\\b",
     "\\bnew\\s+(?:ArrayBuffer|DataView)\\s*\\("],
    []⟩,
  ⟨"sharedarraybuffer", "Shared Array Buffer",
    ["\\bSharedArrayBuffer\\b", "\\bAtomics\\.\\w+"],
    []⟩,
  ⟨"wasm", "WebAssembly",
    ["\\bWebAssembly\\.\\w+"],
    []⟩,
  ⟨"json", "JSON parsing",
    ["\\bJSON\\.(?:parse|stringify)\\s*\\("],
    []⟩,
  ⟨"structuredclone", "structuredClone()",
    ["\\bstructuredClone\\s*\\("],
    []⟩,
  ⟨"textencoder", "TextEncoder & TextDecoder",
    ["\\bnew\\s+Text(?:En|De)coder(?:Stream)?\\s*\\("],
    []⟩,
  ⟨"atob-btoa", "Base64 encoding and decoding",
    ["\\b(?:atob|btoa)\\s*\\("],
    []⟩,
  ⟨"requestanimationframe", "requestAnimationFrame",
    ["\\brequestAnimationFrame\\s*\\("],
    []⟩,
  ⟨"requestidlecallback", "requestIdleCallback",
    ["\\brequestIdleCallback\\s*\\("],
    []⟩,
  ⟨"high-resolution-time", "High Resolution Time API",
    ["\\bperformance\\.now\\s*\\("],
    []⟩,
  ⟨"user-timing", "User Timing API",
    ["\\bperformance\\.(?:mark|measure)\\s*\\("],
    []⟩,
  ⟨"mdn-api_queuemicrotask", "queueMicrotask()",
    ["\\bqueueMicrotask\\s*\\("],
    []⟩,
  ⟨"webworkers", "Web Workers",
    ["\\bnew\\s+Worker\\s*\\("],
    []⟩,
  ⟨"sharedworkers", "Shared Web Workers",
    ["\\bnew\\s+SharedWorker\\s*\\("],
    []⟩,
  ⟨"serviceworkers", "Service Workers",
    ["\\bnavigator\\.serviceWorker\\b"],
    []⟩,
  ⟨"channel-messaging", "Channel messaging",
    ["\\bnew\\s+MessageChannel\\s*\\("],
    []⟩,
  ⟨"broadcastchannel", "BroadcastChannel",
    ["\\bnew\\s+BroadcastChannel\\s*\\("],
    []⟩,
  ⟨"crypto", "Web Cryptography",
    ["\\bcrypto\\.subtle\\b", "\\bcrypto\\.getRandomValues\\s*\\("],
    []⟩,
  ⟨"mdn-api_crypto_randomuuid", "crypto.randomUUID()",
    ["\\bcrypto\\.randomUUID\\s*\\("],
    []⟩]⟩

/-- Requests, sockets and messages. -/
def networkTopic : Topic := ⟨"network", [
  ⟨"fetch", "Fetch",
    ["\\bfetch\\s*\\("],
    ["http", "request"]⟩,
  ⟨"abortcontroller", "AbortController & AbortSignal",
    ["\\bnew\\s+AbortController\\s*\\(", "\\bAbortSignal\\.(?:timeout|any|abort)\\s*\\("],
    []⟩,
  ⟨"xhr2", "XMLHttpRequest advanced features",
    ["\\bnew\\s+XMLHttpRequest\\s*\\("],
    []⟩,
  ⟨"websockets", "Web Sockets",
    ["\\bnew\\s+WebSocket\\s*\\("],
    []⟩,
  ⟨"eventsource", "Server-sent events",
    ["\\bnew\\s+EventSource\\s*\\("],
    []⟩,
  ⟨"beacon", "Beacon API",
    ["\\bnavigator\\.sendBeacon\\s*\\("],
    []⟩,
  ⟨"url", "URL API",
    ["\\bnew\\s+URL\\s*\\("],
    []⟩,
  ⟨"urlsearchparams", "URLSearchParams",
    ["\\bnew\\s+URLSearchParams\\s*\\("],
    []⟩,
  ⟨"streams", "Streams",
    ["\\bnew\\s+(?:ReadableStream|WritableStream|TransformStream)\\s*\\("],
    []⟩,
  ⟨"mdn-api_compressionstream", "Compression Streams API",
    ["\\bnew\\s+(?:Compression|Decompression)Stream\\s*\\("],
    []⟩,
  ⟨"rtcpeerconnection", "WebRTC Peer-to-peer connections",
    ["\\bnew\\s+RTCPeerConnection\\s*\\("],
    []⟩,
  ⟨"webtransport", "WebTransport",
    ["\\bnew\\s+WebTransport\\s*\\("],
    []⟩,
  ⟨"push-api", "Push API",
    ["\\bpushManager\\.(?:subscribe|getSubscription)\\s*\\("],
    []⟩,
  ⟨"background-sync", "Background Sync API",
    ["\\bsync\\.register\\s*\\("],
    []⟩]⟩

/-- Documents and their events. -/
def domTopic : Topic := ⟨"dom", [
  ⟨"queryselector", "querySelector/querySelectorAll",
    ["\\.querySelector(?:All)?\\s*\\("],
    []⟩,
  ⟨"classlist", "DOMTokenList / classList",
    ["\\.classList\\b"],
    []⟩,
  ⟨"dataset", "dataset & data-* attributes",
    ["\\.dataset\\b"],
    []⟩,
  ⟨"element-closest", "Element.closest()",
    ["\\.closest\\s*\\("],
    []⟩,
  ⟨"matchesselector", "matches() DOM method",
    ["\\.(?:matches|webkitMatchesSelector|msMatchesSelector)\\s*\\("],
    []⟩,
  ⟨"dom-manip-convenience", "DOM manipulation convenience methods",
    ["\\.(?:append|prepend|before|after|replaceWith|replaceChildren)\\s*\\("],
    []⟩,
  ⟨"customevent", "CustomEvent",
    ["\\bnew\\s+CustomEvent\\s*\\("],
    []⟩,
  ⟨"passive-event-listener", "Passive event listeners",
    ["\\baddEventListener\\s*\\([^)]*\\bpassive\\s*:"],
    []⟩,
  ⟨"once-event-listener", "\"once\" event listener option",
    ["\\baddEventListener\\s*\\([^)]*\\bonce\\s*:"],
    []⟩,
  ⟨"mutationobserver", "Mutation Observer",
    ["\\bnew\\s+(?:WebKit)?MutationObserver\\s*\\("],
    []⟩,
  ⟨"intersectionobserver", "IntersectionObserver",
    ["\\bnew\\s+IntersectionObserver\\s*\\("],
    []⟩,
  ⟨"resizeobserver", "Resize Observer",
    ["\\bnew\\s+ResizeObserver\\s*\\("],
    []⟩,
  ⟨"custom-elementsv1", "Custom Elements (V1)",
    ["\\bcustomElements\\.(?:define|get|whenDefined)\\s*\\("],
    []⟩,
  ⟨"shadowdomv1", "Shadow DOM (V1)",
    ["\\.attachShadow\\s*\\("],
    []⟩,
  ⟨"web-animation", "Web Animations API",
    ["\\.animate\\s*\\(\\s*[\\[\x7b]", "\\bnew\\s+(?:Animation|KeyframeEffect)\\s*\\("],
    []⟩,
  ⟨"pagevisibility", "Page Visibility",
    ["\\bdocument\\.(?:hidden|visibilityState)\\b", "\\bvisibilitychange\\b"],
    []⟩,
  ⟨"fullscreen", "Full Screen API",
    ["\\.requestFullscreen\\s*\\(", "\\bdocument\\.exitFullscreen\\s*\\("],
    []⟩,
  ⟨"pointer", "Pointer events",
    ["\\bpointer(?:down|up|move|enter|leave|over|out|cancel)\\b", "\\bPointerEvent\\b"],
    []⟩,
  ⟨"touch", "Touch events",
    ["\\btouch(?:start|end|move|cancel)\\b", "\\bTouchEvent\\b"],
    []⟩,
  ⟨"keyboardevent-key", "KeyboardEvent.key",
    ["\\b(?:e|ev|evt|event)\\.key\\b"],
    []⟩,
  ⟨"dialog", "Dialog element",
    ["\\.showModal\\s*\\("],
    []⟩,
  ⟨"mdn-api_htmlelement_popover", "Popover API",
    ["\\.(?:showPopover|hidePopover|togglePopover)\\s*\\("],
    []⟩,
  ⟨"view-transitions", "View Transitions API (single-document)",
    ["\\bdocument\\.startViewTransition\\s*\\("],
    []⟩,
  ⟨"selection-api", "Selection API",
    ["\\bgetSelection\\s*\\("],
    []⟩,
  ⟨"css-supports-api", "CSS.supports() API",
    ["\\bCSS\\.supports\\s*\\("],
    []⟩,
  ⟨"css-paint-api", "CSS Painting API",
    ["\\bCSS\\.paintWorklet\\b", "\\bregisterPaint\\s*\\("],
    []⟩,
  ⟨"mdn-api_css_registerproperty", "CSS.registerProperty()",
    ["\\bCSS\\.registerProperty\\s*\\("],
    []⟩,
  ⟨"matchmedia", "matchMedia",
    ["\\bmatchMedia\\s*\\("],
    []⟩,
  ⟨"history", "Session history management",
    ["\\bhistory\\.(?:pushState|replaceState)\\s*\\("],
    []⟩,
  ⟨"mdn-api_navigation", "Navigation API",
    ["\\bnavigation\\.(?:navigate|addEventListener)\\s*\\("],
    []⟩,
  ⟨"mdn-api_element_scrollintoview", "scrollIntoView",
    ["\\.scrollIntoView\\s*\\("],
    []⟩]⟩

/-- What is kept between visits. -/
def storageTopic : Topic := ⟨"storage", [
  ⟨"namevalue-storage", "Web Storage - name/value pairs",
    ["\\b(?:localStorage|sessionStorage)\\b"],
    []⟩,
  ⟨"indexeddb", "IndexedDB",
    ["\\bindexedDB\\.open\\s*\\(", "\\bIDB(?:Database|ObjectStore|KeyRange)\\b"],
    []⟩,
  ⟨"indexeddb2", "IndexedDB 2.0",
    ["\\.getAll(?:Keys)?\\s*\\("],
    []⟩,
  ⟨"fileapi", "File API",
    ["\\bnew\\s+(?:File|Blob)\\s*\\("],
    []⟩,
  ⟨"filereader", "FileReader API",
    ["\\bnew\\s+FileReader\\s*\\("],
    []⟩,
  ⟨"native-filesystem-api", "File System Access API",
    ["\\bshow(?:Open|Save)FilePicker\\s*\\(", "\\bshowDirectoryPicker\\s*\\("],
    []⟩,
  ⟨"mdn-api_storagemanager", "Storage API (navigator.storage)",
    ["\\bnavigator\\.storage\\.\\w+"],
    []⟩,
  ⟨"mdn-api_cache", "Cache API",
    ["\\bcaches\\.(?:open|match|keys|delete|has)\\s*\\("],
    []⟩,
  ⟨"cookie-store-api", "Cookie Store API",
    ["\\bcookieStore\\.\\w+"],
    []⟩]⟩

/-- Sound, video and drawing. -/
def mediaTopic : Topic := ⟨"media", [
  ⟨"audio-api", "Web Audio API",
    ["\\bnew\\s+(?:webkit)?AudioContext\\s*\\(", "\\bnew\\s+OfflineAudioContext\\s*\\("],
    []⟩,
  ⟨"stream", "getUserMedia/Stream API",
    ["\\bgetUserMedia\\s*\\("],
    []⟩,
  ⟨"mdn-api_mediadevices_getdisplaymedia", "Screen Capture API",
    ["\\bgetDisplayMedia\\s*\\("],
    []⟩,
  ⟨"mediarecorder", "MediaRecorder API",
    ["\\bnew\\s+MediaRecorder\\s*\\("],
    []⟩,
  ⟨"media-session-api", "Media Session API",
    ["\\bnavigator\\.mediaSession\\b"],
    []⟩,
  ⟨"mediasource", "Media Source Extensions",
    ["\\bnew\\s+MediaSource\\s*\\("],
    []⟩,
  ⟨"picture-in-picture", "Picture-in-Picture",
    ["\\.requestPictureInPicture\\s*\\("],
    []⟩,
  ⟨"speech-recognition", "Speech Recognition API",
    ["\\b(?:webkit)?SpeechRecognition\\b"],
    []⟩,
  ⟨"speech-synthesis", "Speech Synthesis API",
    ["\\bspeechSynthesis\\b", "\\bSpeechSynthesisUtterance\\b"],
    []⟩,
  ⟨"webgl", "WebGL - 3D Canvas graphics",
    ["getContext\\s*\\(\\s*[\"'](?:webgl|experimental-webgl)[\"']"],
    []⟩,
  ⟨"webgl2", "WebGL 2.0",
    ["getContext\\s*\\(\\s*[\"']webgl2[\"']"],
    []⟩,
  ⟨"webgpu", "WebGPU",
    ["\\bnavigator\\.gpu\\b"],
    []⟩,
  ⟨"offscreencanvas", "OffscreenCanvas",
    ["\\bnew\\s+OffscreenCanvas\\s*\\(", "\\.transferControlToOffscreen\\s*\\("],
    []⟩,
  ⟨"createimagebitmap", "createImageBitmap",
    ["\\bcreateImageBitmap\\s*\\("],
    []⟩,
  ⟨"path2d", "Path2D",
    ["\\bnew\\s+Path2D\\s*\\("],
    []⟩,
  ⟨"webcodecs", "WebCodecs API",
    ["\\bnew\\s+(?:Video|Audio)(?:Encoder|Decoder)\\s*\\("],
    []⟩,
  ⟨"webvr", "WebXR Device API",
    ["\\bnavigator\\.xr\\b"],
    []⟩]⟩

/-- The device and its sensors. -/
def deviceTopic : Topic := ⟨"device", [
  ⟨"geolocation", "Geolocation",
    ["\\bnavigator\\.geolocation\\b"],
    []⟩,
  ⟨"notifications", "Web Notifications",
    ["\\bNotification\\.requestPermission\\s*\\(", "\\bnew\\s+Notification\\s*\\("],
    []⟩,
  ⟨"async-clipboard", "Asynchronous Clipboard API",
    ["\\bnavigator\\.clipboard\\b"],
    []⟩,
  ⟨"web-share", "Web Share API",
    ["\\bnavigator\\.share\\s*\\(", "\\bnavigator\\.canShare\\s*\\("],
    []⟩,
  ⟨"wake-lock", "Screen Wake Lock API",
    ["\\bnavigator\\.wakeLock\\b"],
    []⟩,
  ⟨"vibration", "Vibration API",
    ["\\bnavigator\\.vibrate\\s*\\("],
    []⟩,
  ⟨"battery-status", "Battery Status API",
    ["\\bnavigator\\.getBattery\\s*\\("],
    []⟩,
  ⟨"deviceorientation", "DeviceOrientation & DeviceMotion events",
    ["\\bdevice(?:orientation|motion)\\b", "\\bDevice(?:Orientation|Motion)Event\\b"],
    []⟩,
  ⟨"gamepad", "Gamepad API",
    ["\\bnavigator\\.getGamepads\\s*\\(", "\\bgamepadconnected\\b"],
    []⟩,
  ⟨"payment-request", "Payment Request API",
    ["\\bnew\\s+PaymentRequest\\s*\\("],
    []⟩,
  ⟨"credential-management", "Credential Management API",
    ["\\bnavigator\\.credentials\\b"],
    []⟩,
  ⟨"webauthn", "Web Authentication API",
    ["\\bPublicKeyCredential\\b", "\\bpublicKey\\s*:"],
    []⟩,
  ⟨"webusb", "WebUSB",
    ["\\bnavigator\\.usb\\b"],
    []⟩,
  ⟨"web-bluetooth", "Web Bluetooth",
    ["\\bnavigator\\.bluetooth\\b"],
    []⟩,
  ⟨"web-serial", "Web Serial API",
    ["\\bnavigator\\.serial\\b"],
    []⟩,
  ⟨"webhid", "WebHID API",
    ["\\bnavigator\\.hid\\b"],
    []⟩,
  ⟨"webnfc", "Web NFC",
    ["\\bnew\\s+NDEFReader\\s*\\("],
    []⟩,
  ⟨"permissions-api", "Permissions API",
    ["\\bnavigator\\.permissions\\.query\\s*\\("],
    []⟩,
  ⟨"mdn-api_idledetector", "Idle Detection API",
    ["\\bnew\\s+IdleDetector\\s*\\("],
    []⟩,
  ⟨"online-status", "Online/offline status",
    ["\\bnavigator\\.onLine\\b"],
    []⟩]⟩

/-- The topics of scripts, in the order in which they are entered. -/
def scriptTopics : List Topic :=
  [syntaxTopic, runtimeTopic, networkTopic, domTopic, storageTopic, mediaTopic, deviceTopic]

end FeatureScan.Catalog
