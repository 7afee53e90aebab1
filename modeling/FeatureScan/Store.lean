import FeatureScan.Event
import FeatureScan.Files
import FeatureScan.Json.Writer
import FeatureScan.Settings

/-!
# Stores of rules

A store stands for the file with a user's rules. It keeps the rules as they were when the file was
last read or written; a scanner made from it keeps those that it was made from.

## Main results

* `Store.rules_reload`: reading again takes what the file holds.
* `Store.trySave_of_fault`: an attempt to save that fails leaves the store and every file as they
  are.
* `Store.rules_trySave`: after saving, the store holds what was saved.
-/

namespace FeatureScan

/-- A store of a user's rules. -/
structure Store where
  /-- The file with the rules. -/
  path : String
  /-- Whether the file is read. -/
  loads : Bool
  /-- The rules as last read or written. -/
  rules : Document := .empty
  /-- How often the rules have been replaced. -/
  generation : Nat := 0
  deriving DecidableEq, Repr

/-- What an attempt to save leaves behind. -/
structure SaveOutcome where
  /-- The files. -/
  files : Files
  /-- The store. -/
  store : Store
  /-- Why nothing was saved, if nothing was. -/
  fault? : Option Fault

/-! ## Rules in files -/

/-- A text is read back from its bytes. -/
theorem fromUTF8?_toUTF8 (s : String) : String.fromUTF8? s.toUTF8 = some s := by
  rw [String.toUTF8_eq_toByteArray, String.fromUTF8?, dif_pos s.isValidUTF8]
  rfl

namespace Files

/-- The text of a file. -/
def text? (f : Files) (path : String) : Option String :=
  (f.read path).toOption.bind String.fromUTF8?

/-- The value that a file holds. -/
def json? (f : Files) (path : String) : Option Json := (f.text? path).bind Json.parse?

/-- The rules that a file holds; none if it holds no document. -/
def document (f : Files) (path : String) : Document :=
  ((f.json? path).bind Document.ofJson?).getD .empty

/-- What is noted when rules are read from a file. -/
def documentEvents (f : Files) (path : String) : List Event :=
  match f.read path with
  | .error .missing => [.rulesMissing path]
  | _ =>
    match f.json? path with
    | none => [.rulesMalformed]
    | some root =>
      match Document.ofJson? root with
      | none => [.rulesNoObject path]
      | some d =>
        (Document.omissions root).map .omitted ++
          [.rulesLoaded d.css.size d.javaScript.size d.html.size path]

end Files

namespace Store

/-- The store with its rules replaced. -/
def replace (s : Store) (d : Document) : Store :=
  { s with rules := d, generation := s.generation + 1 }

/-- The store after reading its file again. -/
def reload (s : Store) (f : Files) : Logged Store :=
  if s.loads then ⟨s.replace (f.document s.path), f.documentEvents s.path⟩
  else ⟨s.replace .empty, []⟩

/-- The store for some settings, with its file read. -/
def ofSettings (f : Files) (c : Settings) : Logged Store :=
  ({ path := c.path, loads := c.loads } : Store).reload f

/-- The members of the object that the store's file holds; none if it holds no object. -/
def rawMembers (s : Store) (f : Files) : List (String × Json) :=
  ((f.json? s.path).bind Json.object?).getD []

/-- The object that the store's file holds, comments included. -/
def raw (s : Store) (f : Files) : Json := .object (s.rawMembers f)

/-- Whether the user defines a name in a section. -/
def isUserRule (s : Store) (part : Section) (id : String) (kind? : Option LookupKind) : Bool :=
  s.rules.contains part id kind?

/-! ## Saving -/

/-- The value that is saved for a document: that of the document, with the comments among given
members. -/
def withComments (d : Document) (old : List (String × Json)) : Json :=
  .ofDict (.ofList ((d.toJson.object?).getD [] ++ old.filter fun m => Document.isComment m.1))

/-- The text that is saved for a document. -/
def textFor (s : Store) (f : Files) (d : Document) : String :=
  Json.text Json.pretty (withComments d (s.rawMembers f))

/-- An attempt to save a document. The folders that the file lies in are made if need be. -/
def trySave (s : Store) (f : Files) (d : Document) : Logged SaveOutcome :=
  let warnings := d.faults.map Event.savedAnyway
  let text := s.textFor f d
  match f.makeFolders (Path.folder s.path) with
  | (made, some _) => ⟨⟨made, s, some .unwritable⟩, warnings⟩
  | (made, none) =>
    match made.write s.path text.toUTF8 with
    | .error _ => ⟨⟨made, s, some .unwritable⟩, warnings⟩
    | .ok written => ⟨⟨written, s.replace d, none⟩, warnings ++ [.rulesSaved d.size s.path]⟩

/-- An attempt to save a document that notes a fault. -/
def save (s : Store) (f : Files) (d : Document) : Logged SaveOutcome := do
  let o ← s.trySave f d
  Logged.note (o.fault?.toList.map Event.saveFailed)
  return o

/-! ## Laws -/

theorem rules_reload (s : Store) (f : Files) (h : s.loads = true) :
    (s.reload f).value.rules = f.document s.path := by
  simp [reload, h, replace]

theorem path_reload (s : Store) (f : Files) : (s.reload f).value.path = s.path := by
  unfold reload; split <;> rfl

theorem loads_reload (s : Store) (f : Files) : (s.reload f).value.loads = s.loads := by
  unfold reload; split <;> rfl

theorem path_trySave (s : Store) (f : Files) (d : Document) :
    (s.trySave f d).value.store.path = s.path := by
  unfold trySave
  dsimp only
  split
  · rfl
  · split <;> rfl

/-- After saving, the store holds what was saved. -/
theorem rules_trySave (s : Store) (f : Files) (d : Document)
    (h : (s.trySave f d).value.fault? = none) : (s.trySave f d).value.store.rules = d := by
  unfold trySave at h ⊢
  dsimp only at h ⊢
  split at h
  · cases h
  · split at h
    · cases h
    · rfl

/-- An attempt to save that fails leaves the store and every file as they are. -/
theorem trySave_of_fault (s : Store) (f : Files) (d : Document)
    (h : (s.trySave f d).value.fault? ≠ none) :
    (s.trySave f d).value.store = s ∧
      ∀ l, (s.trySave f d).value.files.file? l = f.file? l := by
  have hm := Files.file?_makeFolders f (Path.folder s.path)
  unfold trySave at h ⊢
  dsimp only at h ⊢
  split at h
  · next made e he => rw [he] at hm; exact ⟨rfl, hm⟩
  · next made he =>
    rw [he] at hm
    split at h
    · exact ⟨rfl, hm⟩
    · exact absurd rfl h

end Store

end FeatureScan
