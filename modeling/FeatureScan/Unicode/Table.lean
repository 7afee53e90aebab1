import FeatureScan.CharSet

/-!
# Tables of Unicode

The form in which the tables of Unicode are kept, and the loose comparison of the names of
properties and of their values.

A set is written by its steps: how many code points are outside, then how many are inside, and so on
in turn, from code point zero. No step but the first is empty, and one that is written so takes one
code point. Behind the last step everything has the other membership, so a set that goes on to the
end has an odd number of steps.

## Main results

* `sorted_edgesOf`: steps lead on and on.
-/

namespace FeatureScan.Unicode

/-- The numbers in a text of decimal digits and blanks; `n` is the number being read, if any. -/
def numbersFrom : Option Nat → List Char → List Nat
  | none, [] => []
  | some n, [] => [n]
  | n?, c :: cs =>
    if c.isDigit then numbersFrom (some (n?.getD 0 * 10 + (c.toNat - '0'.toNat))) cs
    else
      match n? with
      | none => numbersFrom none cs
      | some n => n :: numbersFrom none cs

/-- The edges that steps lead to, from an edge on. -/
def edgesFrom : Nat → List Nat → List Nat
  | _, [] => []
  | at_, n :: ns => (at_ + max n 1) :: edgesFrom (at_ + max n 1) ns

theorem sorted_edgesFrom (at_ : Nat) (ns : List Nat) :
    (at_ :: edgesFrom at_ ns).Pairwise (· < ·) := by
  induction ns generalizing at_ with
  | nil => exact List.pairwise_singleton _ at_
  | cons n ns ih =>
    have hlt : at_ < at_ + max n 1 := by omega
    exact List.pairwise_cons.2 ⟨CharSet.forall_lt_of_lt_head (ih _) hlt, ih _⟩

/-- The edges that steps lead to. -/
def edgesOf : List Nat → List Nat
  | [] => []
  | n :: ns => n :: edgesFrom n ns

theorem sorted_edgesOf (ns : List Nat) : (edgesOf ns).Pairwise (· < ·) := by
  cases ns with
  | nil => exact .nil
  | cons n ns => exact sorted_edgesFrom n ns

/-- The set written by its steps, in lines. -/
def charSetOfSteps (steps : List String) : CharSet :=
  ⟨edgesOf (steps.flatMap fun line => numbersFrom none line.toList), sorted_edgesOf _⟩

/-- A named set of characters: a value of a property, or a property that characters have or lack. -/
structure NamedSet where
  /-- Its names, loosely written. -/
  names : List String
  /-- Its characters. -/
  steps : List String

/-- The characters of a named set. -/
def NamedSet.chars (s : NamedSet) : CharSet := charSetOfSteps s.steps

/-- The set of a name in a table. -/
def find? (table : List NamedSet) (name : String) : Option CharSet :=
  (table.find? fun s => s.names.contains name).map NamedSet.chars

/-! ## Loose names -/

/-- Whether two characters are the word "is" in any case. -/
def isIs (a b : Char) : Bool := (a == 'i' || a == 'I') && (b == 's' || b == 'S')

/-- A name without blanks, hyphens, underscores and characters beyond ASCII, in lower case. -/
def squeeze (cs : List Char) : List Char :=
  (cs.filter fun c => c != ' ' && c != '_' && c != '-' && c.toNat < 0x80).map Char.toLower

/-- The form of a name in which names are compared: squeezed, and without "is" in front. The
abbreviation "isc" is a name of its own. -/
def looseName (name : String) : String :=
  match name.toList with
  | a :: b :: cs =>
    if isIs a b then
      let rest := squeeze cs
      String.ofList (if rest == ['c'] then ['i', 's', 'c'] else rest)
    else String.ofList (squeeze (a :: b :: cs))
  | cs => String.ofList (squeeze cs)

end FeatureScan.Unicode
