import FeatureScan.Text.Blank

/-!
# Excerpts of source text

Log lines quote a piece of the source on one line: runs of blanks become one space, and a long piece
is cut with an ellipsis.

## Main results

* `length_excerptFrom_le`: an excerpt holds at most one character more than its room.
-/

namespace FeatureScan.Text

/-- Writes up to `room` characters of `cs`, each run of blanks as one space; `inBlank` says that the
run at the front has been written already. An ellipsis stands for what did not fit. -/
def excerptFrom : Nat → Bool → List Char → List Char
  | _, _, [] => []
  | 0, _, _ :: _ => ['…']
  | room + 1, inBlank, c :: cs =>
    if isBlank c then
      if inBlank then excerptFrom (room + 1) true cs else ' ' :: excerptFrom room true cs
    else c :: excerptFrom room false cs

/-- The first `room` characters of a trimmed text with its blanks folded. -/
def excerpt (room : Nat) (s : String) : String :=
  String.ofList (excerptFrom room false (trim s.toList))

/-- An excerpt holds at most one character more than its room: the ellipsis. -/
theorem length_excerptFrom_le (room : Nat) (inBlank : Bool) (cs : List Char) :
    (excerptFrom room inBlank cs).length ≤ room + 1 := by
  induction cs generalizing room inBlank with
  | nil => simp [excerptFrom]
  | cons c cs ih =>
    cases room with
    | zero => simp [excerptFrom]
    | succ room =>
      have h₁ := ih (room + 1) true
      have h₂ := ih room true
      have h₃ := ih room false
      simp only [excerptFrom]
      split
      · split <;> simp <;> omega
      · simp; omega

end FeatureScan.Text
