import FeatureScan.Css.Notice
import FeatureScan.Document

/-!
# Events

What a caller may want to know about the course of a work besides its outcome. An event has a level
and words; where the words of the system or of a reader of another format would follow, they are
left out.

## Main results

* `Logged.value_bind`, `Logged.events_bind`: works follow each other, and so do their events.
-/

namespace FeatureScan

/-- How much an event matters. -/
inductive Level
  | debug
  | info
  | warn
  deriving DecidableEq, Repr

/-- The name of a level. -/
def Level.name : Level → String
  | debug => "DEBUG"
  | info => "INFO"
  | warn => "WARN"

/-- The short name of a language in events. -/
def Language.label : Language → String
  | css => "CSS"
  | javaScript => "JS"
  | html => "HTML"

/-- Something that happened. -/
inductive Event
  /-- The file of a user's rules does not exist. -/
  | rulesMissing (path : String)
  /-- The file of a user's rules holds no document. -/
  | rulesMalformed
  /-- The file of a user's rules holds a value that is no object. -/
  | rulesNoObject (path : String)
  /-- A part of a document was left out. -/
  | omitted (o : Document.Omission)
  /-- A user's rules were read: so many rules and entries of each section. -/
  | rulesLoaded (css javaScript html : Nat) (path : String)
  /-- Rules are about to be saved in spite of a fault. -/
  | savedAnyway (f : Fault)
  /-- So many rules were saved. -/
  | rulesSaved (count : Nat) (path : String)
  /-- Rules could not be saved. -/
  | saveFailed (f : Fault)
  /-- A scanner is made for so many rules of a user. -/
  | making (count : Nat)
  /-- A user's rule takes the place of a builtin one. -/
  | overriding (l : Language) (id : String)
  /-- A builtin rule takes the place of an earlier one. -/
  | redefined (r : Redefinition)
  /-- The rules for a language are ready: so many, and so many of them from the user. -/
  | tableReady (l : Language) (rules custom : Nat)
  /-- The lookups for markup are ready, with so many entries of the user. -/
  | lookupsReady (l : Language) (custom : Nat)
  /-- A scanner was made anew. -/
  | remade (path : String)
  /-- A part of a style sheet was skipped. -/
  | malformedSource (n : Css.Notice)
  /-- A file was scanned: so many features and unknown names. -/
  | fileScanned (l : Language) (path : String) (features unknown : Nat)
  /-- A file that was to be read in a given language was skipped. -/
  | skippedAs (l : Language) (f : Fault)
  /-- A file was skipped. -/
  | skipped (f : Fault)
  /-- So many files of a batch were skipped. -/
  | batchDone (count : Nat)
  /-- The shared store is there already. -/
  | sharedAlready
  /-- The shared store was made. -/
  | sharedMade (path : String)
  /-- The shared store is made on first use. -/
  | sharedOnDemand
  deriving DecidableEq, Repr

namespace Event

/-- How much an event matters. -/
def level : Event → Level
  | rulesMissing _ | overriding .. | redefined _ | making _ | tableReady .. => .debug
  | lookupsReady .. | malformedSource _ | fileScanned .. | batchDone _ => .debug
  | sharedAlready | sharedOnDemand => .debug
  | omitted (.wholeSection _) | omitted (.lookup _) => .warn
  | omitted (.rule ..) | omitted (.entry ..) => .debug
  | rulesLoaded .. | rulesSaved .. | remade _ | sharedMade _ => .info
  | rulesMalformed | rulesNoObject _ | savedAnyway _ | saveFailed _ => .warn
  | skippedAs .. | skipped _ => .warn

/-- The words for a part of a document that was left out. -/
def omissionMessage : Document.Omission → String
  | .wholeSection s => "Custom rules: section [" ++ s.key ++ "] is not an object, ignored"
  | .rule s id => "Custom " ++ s.key ++ " rule [" ++ id ++ "] has no usable patterns, skipped"
  | .lookup k => "Custom html rules: [" ++ k.key ++ "] is not an object, ignored"
  | .entry k key => "Custom html " ++ k.key ++ " entry [" ++ key ++ "] is not a string, skipped"

/-- The words for a fault that does not keep rules from being saved. -/
def savedAnywayMessage : Fault → String
  | .invalidPattern rule pattern => (Fault.invalidPattern rule pattern).message
  | f => f.message ++ ", saved anyway and skipped at compile time"

/-- The words for an event. -/
def message : Event → String
  | rulesMissing path => "Custom rules file not found: " ++ path ++ ", using builtin rules only"
  | rulesMalformed => Fault.malformedDocument.message
  | rulesNoObject path =>
    Fault.documentNoObject.message ++ " (" ++ path ++ "), custom rules ignored"
  | omitted o => omissionMessage o
  | rulesLoaded css javaScript html path =>
    "Custom rules loaded: css=" ++ toString css ++ " javascript=" ++ toString javaScript ++
      " html=" ++ toString html ++ " from " ++ path
  | savedAnyway f => savedAnywayMessage f
  | rulesSaved count path => "Custom rules saved: " ++ toString count ++ " rules -> " ++ path
  | saveFailed f => f.message
  | making count => "Building feature detector: " ++ toString count ++ " custom rules"
  | overriding l id => "Custom " ++ l.name ++ " rule [" ++ id ++ "] overrides builtin rule"
  | redefined r =>
    "Builtin " ++ r.language.name ++ " rule [" ++ r.id ++ "] redefined by sub-table [" ++
      r.topic ++ "]"
  | tableReady l rules custom =>
    "[" ++ l.label ++ "] parser ready: " ++ toString rules ++ " effective rules (" ++
      toString custom ++ " custom)"
  | lookupsReady l custom =>
    "[" ++ l.label ++ "] parser ready: " ++ toString custom ++ " custom lookup entries"
  | remade path => "Feature detector reloaded from " ++ path
  | malformedSource n => n.message
  | fileScanned l path features unknown =>
    "[" ++ l.label ++ "] " ++ path ++ " -> " ++ toString features ++ " features, " ++
      toString unknown ++ " unrecognized"
  | skippedAs l f => "[" ++ l.label ++ "] skip file: " ++ f.message
  | skipped f => "Skip file: " ++ f.message
  | batchDone count => "Batch detection finished, " ++ toString count ++ " files skipped"
  | sharedAlready => "Global custom rule store already initialized, skip reinitialization"
  | sharedMade path => "Global custom rule store initialized: " ++ path
  | sharedOnDemand => "Lazy initializing global custom rule store with default config"

/-- The line for an event. -/
def line (e : Event) : String := e.level.name ++ " " ++ e.message

end Event

/-- The outcome of a work, with what happened in its course. -/
structure Logged (α : Type) where
  /-- The outcome. -/
  value : α
  /-- The events in order. -/
  events : List Event := []

namespace Logged

variable {α β : Type}

instance : Monad Logged where
  pure a := ⟨a, []⟩
  bind x f := ⟨(f x.value).value, x.events ++ (f x.value).events⟩

/-- Notes events. -/
def note (events : List Event) : Logged Unit := ⟨(), events⟩

@[simp] theorem value_pure (a : α) : (pure a : Logged α).value = a := rfl

@[simp] theorem events_pure (a : α) : (pure a : Logged α).events = [] := rfl

@[simp] theorem value_bind (x : Logged α) (f : α → Logged β) :
    (x >>= f).value = (f x.value).value := rfl

@[simp] theorem events_bind (x : Logged α) (f : α → Logged β) :
    (x >>= f).events = x.events ++ (f x.value).events := rfl

end Logged

end FeatureScan
