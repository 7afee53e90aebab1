import FeatureScan.Json.Value

/-!
# Fields of records

A record is an object with a member for each field, or an array with its fields in order. An object
may hold other members too, but no field twice. A named case is a string, or an object with one
member of that name whose value is null.

## Main results

* `fields?_object`: an object in which no field repeats has its fields.
* `case?_string`: a string is the case of that name.
-/

namespace FeatureScan.Json

/-- The fields of a record. -/
structure Fields where
  /-- The values by name. -/
  values : List (String × Json)
  /-- Whether they were given in order, without names. -/
  positional : Bool

/-- The fields of a value, of those with the given names. -/
def fields? (names : List String) : Json → Option Fields
  | object members =>
    let known := members.filter fun m => names.contains m.1
    if (known.map Prod.fst).Nodup then some ⟨known, false⟩ else none
  | array items => if items.length ≤ names.length then some ⟨names.zip items, true⟩ else none
  | _ => none

namespace Fields

/-- The value of a field. -/
def get? (f : Fields) (name : String) : Option Json :=
  (f.values.find? fun m => m.1 == name).map Prod.snd

/-- Reads a field that has to be there. -/
def required? {α : Type} (f : Fields) (name : String) (read : Json → Option α) : Option α :=
  (f.get? name).bind read

/-- Reads a field that has a value if it is not there. -/
def withDefault? {α : Type} (f : Fields) (name : String) (value : α) (read : Json → Option α) :
    Option α :=
  match f.get? name with
  | none => some value
  | some j => read j

end Fields

/-- Reads every item of an array. -/
def list? {α : Type} (read : Json → Option α) (j : Json) : Option (List α) :=
  j.array?.bind fun items => items.mapM read

/-- Reads an array of strings. -/
def strings? (j : Json) : Option (List String) := list? string? j

/-- Reads the values of an object; of members with one key the last counts. -/
def dict? {α : Type} (read : Json → Option α) (j : Json) : Option (Dict α) := do
  let members ← j.object?
  let values ← members.mapM fun m => (read m.2).map fun v => (m.1, v)
  return Dict.ofList values

/-- Reads a value that may be null. -/
def nullable? {α : Type} (read : Json → Option α) : Json → Option (Option α)
  | null => some none
  | j => (read j).map some

/-- The name of a case. -/
def case? : Json → Option String
  | string s => some s
  | object [(s, null)] => some s
  | _ => none

/-- The name of a case with its value. -/
def caseWith? : Json → Option (String × Json)
  | object [m] => some m
  | _ => none

theorem fields?_object {names : List String} {members : List (String × Json)}
    (h : (members.map Prod.fst).Nodup) :
    fields? names (object members) = some ⟨members.filter fun m => names.contains m.1, false⟩ := by
  have hs : ((members.filter fun m => names.contains m.1).map Prod.fst).Sublist
      (members.map Prod.fst) := List.filter_sublist.map _
  simp only [fields?]
  rw [if_pos (hs.nodup h)]

theorem case?_string (s : String) : case? (string s) = some s := rfl

theorem strings?_strings (l : List String) : strings? (strings l) = some l := by
  simp only [strings?, list?, strings, array?, Option.bind_some]
  induction l with
  | nil => rfl
  | cons s l ih => simp [List.mapM_cons, ih, string?]

end FeatureScan.Json
