import FeatureScan.Store

/-!
# Scanning files

A file is read as text in UTF-8, without a mark of byte order, and scanned in the language that its
name tells or that the caller asks for. In a batch, files that cannot be scanned are skipped, and
the results of the others are merged.

## Main results

* `Scanner.scanFile_eq`: a file is scanned as its text is.
* `Scanner.merged_append`: two batches of outcomes in a row.
-/

namespace FeatureScan

/-- A text without a mark of byte order in front of it. -/
def Text.dropByteOrderMark (s : String) : String :=
  match s.toList with
  | '\uFEFF' :: cs => String.ofList cs
  | _ => s

/-- The source that a file holds, or why there is none. -/
def Files.source (f : Files) (path : String) : Except Fault String :=
  match f.read path with
  | .error .missing => .error (.fileNotFound path)
  | .error _ => .error .unreadable
  | .ok content =>
    match String.fromUTF8? content with
    | none => .error (.invalidEncoding path)
    | some text => .ok (Text.dropByteOrderMark text)

namespace Scanner

/-! ## Making scanners -/

/-- What is noted when a scanner is made. -/
def makingEvents (s : Scanner) : List Event :=
  let d := s.document
  [.making d.size] ++
    (LayeredTable.overridden Style.builtinTable d.css).map (.overriding .css) ++
    [.tableReady .css s.css.toList.length d.css.size] ++
    (LayeredTable.overridden Script.builtinTable d.javaScript).map (.overriding .javaScript) ++
    [.tableReady .javaScript s.javaScript.toList.length d.javaScript.size,
      .lookupsReady .html d.html.size]

/-- The scanner for some rules. -/
def ofRules (options : ScanOptions) (d : Document) : Logged Scanner :=
  ⟨make options d, (make options d).makingEvents⟩

/-- The scanner for builtin rules alone. -/
def builtin : Logged Scanner := ofRules {} .empty

/-- The scanner for the rules that a store holds. -/
def ofStore (store : Store) : Logged Scanner := ofRules {} store.rules

/-- The scanner for the rules that settings lead to. -/
def ofSettings (f : Files) (c : Settings) : Logged Scanner := do
  let store ← Store.ofSettings f c
  ofRules c.options store.rules

/-- Reads the rules of a store again and makes the scanner anew, with the same options. -/
def reload (s : Scanner) (f : Files) (store : Store) : Logged (Store × Scanner) := do
  let store ← store.reload f
  let s ← ofRules s.options store.rules
  Logged.note [.remade store.path]
  return (store, s)

/-! ## Scanning -/

/-- What is noted when a text is scanned. -/
def sourceEvents (l : Language) (source : String) : List Event :=
  match l with
  | .css => (Css.extract source).notices.map .malformedSource
  | .javaScript | .html => []

/-- Scans a text. -/
def scanNoting (s : Scanner) (l : Language) (source : String) : Logged ScanResult :=
  ⟨s.scan l source, sourceEvents l source⟩

/-- Scans a file in a given language. -/
def scanFileAs (s : Scanner) (f : Files) (l : Language) (path : String) :
    Logged (Except Fault ScanResult) :=
  match f.source path with
  | .error e => ⟨.error e, []⟩
  | .ok source => do
    let r ← s.scanNoting l source
    Logged.note [.fileScanned l path r.features.size r.unrecognized.size]
    return .ok r

/-- Scans a file in the language that its name tells. -/
def scanFile (s : Scanner) (f : Files) (path : String) : Logged (Except Fault ScanResult) :=
  match Language.ofPath? path with
  | some l => s.scanFileAs f l path
  | none => ⟨.error (.unsupportedType path), []⟩

/-! ## Batches -/

/-- The results among some outcomes, merged in order. -/
def merged (outcomes : List (Except Fault ScanResult)) : ScanResult :=
  (outcomes.filterMap Except.toOption).foldl ScanResult.merge .empty

/-- The events of a batch: those of each file, and what `skip` makes of its fault. -/
def batchEvents (skip : Fault → Event) (outcomes : List (Logged (Except Fault ScanResult))) :
    List Event :=
  outcomes.flatMap fun o =>
    match o.value with
    | .ok _ => o.events
    | .error e => o.events ++ [skip e]

/-- How many outcomes are faults. -/
def faultCount (outcomes : List (Logged (Except Fault ScanResult))) : Nat :=
  outcomes.countP fun o => o.value.toOption.isNone

/-- Scans files in a given language. -/
def scanFilesAs (s : Scanner) (f : Files) (l : Language) (paths : List String) :
    Logged ScanResult :=
  let outcomes := paths.map (s.scanFileAs f l)
  ⟨merged (outcomes.map Logged.value), batchEvents (.skippedAs l) outcomes⟩

/-- Scans files, each in the language that its name tells. -/
def scanFiles (s : Scanner) (f : Files) (paths : List String) : Logged ScanResult :=
  let outcomes := paths.map (s.scanFile f)
  let count := faultCount outcomes
  ⟨merged (outcomes.map Logged.value),
    batchEvents .skipped outcomes ++ if count = 0 then [] else [.batchDone count]⟩

/-! ## Laws -/

/-- A file is scanned as its text is. -/
theorem scanFile_eq (s : Scanner) (f : Files) {path : String} {l : Language} {source : String}
    (hl : Language.ofPath? path = some l) (hs : f.source path = .ok source) :
    (s.scanFile f path).value = .ok (s.scan l source) := by
  simp [scanFile, scanFileAs, scanNoting, hl, hs]

theorem merged_append (a b : List (Except Fault ScanResult)) :
    merged (a ++ b) = (b.filterMap Except.toOption).foldl ScanResult.merge (merged a) := by
  simp [merged, List.filterMap_append, List.foldl_append]

end Scanner

end FeatureScan
