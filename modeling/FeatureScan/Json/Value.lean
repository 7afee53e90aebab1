import FeatureScan.Dict
import FeatureScan.Json.Number

/-!
# JSON values

A value as it was read: the members of an object stand in the order of the text, and a key may
repeat. `canonical` is the value with members sorted by key, the last member of a key counting.

## Main definitions

* `Json`: the values.
* `Json.canonical`: the canonical form.
-/

namespace FeatureScan

/-- A JSON value. -/
inductive Json
  | null
  | bool (b : Bool)
  | number (n : Json.Number)
  | string (s : String)
  | array (items : List Json)
  | object (members : List (String × Json))
  deriving Repr, Inhabited

namespace Json

/-- The object of a dictionary. -/
def ofDict (d : Dict Json) : Json := object d.entries

/-- An array of strings. -/
def strings (l : List String) : Json := array (l.map string)

/-- A small natural number. -/
def nat (n : Nat) : Json := number (.natural n)

/-- The text of a string. -/
def string? : Json → Option String
  | string s => some s
  | _ => none

/-- The items of an array. -/
def array? : Json → Option (List Json)
  | array l => some l
  | _ => none

/-- The members of an object. -/
def object? : Json → Option (List (String × Json))
  | object l => some l
  | _ => none

/-- The truth value. -/
def bool? : Json → Option Bool
  | bool b => some b
  | _ => none

/-- The natural number. -/
def nat? : Json → Option Nat
  | number (.natural n) => some n
  | _ => none

/-- Whether a value is null. -/
def isNull : Json → Bool
  | null => true
  | _ => false

/-- The first member of an object with a given key. -/
def member? (j : Json) (key : String) : Option Json := do
  let l ← j.object?
  (l.find? fun m => m.1 == key).map Prod.snd

mutual

/-- The value with the members of its objects sorted; of members with one key the last counts. -/
def canonical : Json → Json
  | array items => array (canonicalItems items)
  | object members => ofDict (Dict.ofList (canonicalMembers members))
  | j => j

/-- `canonical` on items. -/
def canonicalItems : List Json → List Json
  | [] => []
  | j :: js => j.canonical :: canonicalItems js

/-- `canonical` on the values of members. -/
def canonicalMembers : List (String × Json) → List (String × Json)
  | [] => []
  | (k, j) :: ms => (k, j.canonical) :: canonicalMembers ms

end

end Json

end FeatureScan
