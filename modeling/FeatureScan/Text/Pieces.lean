/-!
# Pieces of a text

The cutting of a text at every place where a separating character stands.

## Main results

* `length_pieces`: there is one piece more than there are separators.
-/

namespace FeatureScan.Text

/-- The pieces between separators; `piece` holds the current one in reverse. -/
def piecesFrom (separator : Char) : List Char → List Char → List (List Char)
  | piece, [] => [piece.reverse]
  | piece, c :: cs =>
    if c == separator then piece.reverse :: piecesFrom separator [] cs
    else piecesFrom separator (c :: piece) cs

/-- The pieces of a text between separators, empty ones included. -/
def pieces (separator : Char) (cs : List Char) : List (List Char) := piecesFrom separator [] cs

theorem length_piecesFrom (separator : Char) (piece cs : List Char) :
    (piecesFrom separator piece cs).length = cs.count separator + 1 := by
  induction cs generalizing piece with
  | nil => rfl
  | cons c cs ih =>
    by_cases h : c = separator
    · simp [piecesFrom, h, ih]
    · simp [piecesFrom, h, ih]

theorem length_pieces (separator : Char) (cs : List Char) :
    (pieces separator cs).length = cs.count separator + 1 := length_piecesFrom separator [] cs

end FeatureScan.Text
