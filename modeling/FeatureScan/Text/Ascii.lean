/-!
# ASCII case

Lower-casing that touches the letters `A` to `Z` only, as names of properties, at-rules, elements
and attributes are compared.

## Main results

* `lowerChar_lowerChar`, `asciiLower_asciiLower`: lower-casing twice is lower-casing once.
* `afterFront?_eq_some_iff`: what follows a text's front is all of the text but the front.
-/

namespace FeatureScan.Text

/-- Maps `A` to `Z` to the small letter and every other character to itself. -/
def lowerChar (c : Char) : Char :=
  if 'A' ≤ c ∧ c ≤ 'Z' then Char.ofNat (c.toNat + 32) else c

theorem lowerChar_of_lt {c : Char} (h : c < 'A') : lowerChar c = c := by
  have : ¬ ('A' ≤ c ∧ c ≤ 'Z') := fun ⟨h', _⟩ => absurd h (by simpa using h')
  simp [lowerChar, this]

theorem toNat_lowerChar_of_upper {c : Char} (h : 'A' ≤ c ∧ c ≤ 'Z') :
    (lowerChar c).toNat = c.toNat + 32 := by
  have hhi : c.toNat ≤ 90 := h.2
  rw [lowerChar, if_pos h]
  unfold Char.ofNat
  rw [dif_pos (Or.inl (by omega))]
  rfl

theorem lowerChar_lowerChar (c : Char) : lowerChar (lowerChar c) = lowerChar c := by
  by_cases h : 'A' ≤ c ∧ c ≤ 'Z'
  · have hlo : 65 ≤ c.toNat := h.1
    have hn := toNat_lowerChar_of_upper h
    have hz : ¬ ('A' ≤ lowerChar c ∧ lowerChar c ≤ 'Z') := by
      rintro ⟨-, h'⟩
      have : (lowerChar c).toNat ≤ 90 := h'
      omega
    rw [lowerChar.eq_def (lowerChar c), if_neg hz]
  · simp [lowerChar, h]

/-- Only letters change, and they become letters. -/
theorem lowerChar_eq_low_line_iff (c : Char) : lowerChar c = '_' ↔ c = '_' := by
  by_cases h : 'A' ≤ c ∧ c ≤ 'Z'
  · have hlo : 65 ≤ c.toNat := h.1
    have hhi : c.toNat ≤ 90 := h.2
    have hn := toNat_lowerChar_of_upper h
    have hline : '_'.toNat = 95 := rfl
    constructor
    · intro heq
      rw [heq] at hn
      omega
    · rintro rfl
      omega
  · rw [lowerChar, if_neg h]

/-- Lower-cases the ASCII letters of a text. -/
def asciiLower (s : String) : String := String.ofList (s.toList.map lowerChar)

theorem asciiLower_asciiLower (s : String) : asciiLower (asciiLower s) = asciiLower s := by
  simp [asciiLower, Function.comp_def, lowerChar_lowerChar]

/-- Whether two texts are equal when the case of ASCII letters is ignored. -/
def sameIgnoringCase (s t : String) : Bool := asciiLower s == asciiLower t

/-- What follows `front` in `cs`, if `cs` begins with it. -/
def afterFront? : List Char → List Char → Option (List Char)
  | [], cs => some cs
  | _ :: _, [] => none
  | p :: ps, c :: cs => if p == c then afterFront? ps cs else none

theorem afterFront?_eq_some_iff {front cs rest : List Char} :
    afterFront? front cs = some rest ↔ cs = front ++ rest := by
  induction front generalizing cs with
  | nil => simp [afterFront?]
  | cons p ps ih =>
    cases cs with
    | nil => simp [afterFront?]
    | cons c cs =>
      by_cases h : p = c
      · simp [afterFront?, h, ih]
      · simp [afterFront?, h, Ne.symm h]

/-- Whether `cs` begins with `front`. -/
def hasFront (front cs : List Char) : Bool := (afterFront? front cs).isSome

/-- Whether `part` occurs in `cs`. -/
def hasPart (part : List Char) : List Char → Bool
  | [] => part.isEmpty
  | c :: cs => hasFront part (c :: cs) || hasPart part cs

/-- Whether `cs` ends with `back`. -/
def hasBack (back cs : List Char) : Bool := hasFront back.reverse cs.reverse

end FeatureScan.Text
