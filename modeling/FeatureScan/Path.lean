import FeatureScan.Text.Pieces

/-!
# Paths

A path is a text whose pieces stand between slashes. An empty piece and `.` stay where they are,
`..` goes up, and every other piece is a name.

## Main results

* `length_pieces`: a path has one piece more than slashes.
* `pieces_ne_nil`: a path has a piece.
-/

namespace FeatureScan.Path

/-- The pieces of a path. -/
def pieces (path : String) : List String := (Text.pieces '/' path.toList).map String.ofList

/-- Whether a piece of a path stays where it is. -/
def stays (piece : String) : Bool := piece == "" || piece == "."

/-- The components of a path: the pieces that do not stay, and a leading `.`. -/
def components (path : String) : List String :=
  match pieces path with
  | [] => []
  | p :: ps => (if p == "" then [] else [p]) ++ ps.filter fun s => !stays s

/-- The last component of a path if it can name a file. -/
def fileName? (path : String) : Option String :=
  match (components path).getLast? with
  | some last => if last == "." || last == ".." then none else some last
  | none => none

/-- What follows the last dot of a file name; a dot in front of the whole name starts no
extension. -/
def extension? (path : String) : Option String := do
  let file ← fileName? path
  let back := file.toList.reverse
  match back.dropWhile (· != '.') with
  | [] => none
  | [_] => none
  | _ :: _ :: _ => some (String.ofList (back.takeWhile (· != '.')).reverse)

/-- The path of the folder that a path lies in: the pieces in front of the last one that does not
stay. It is empty for the working folder. -/
def folder (path : String) : String :=
  "/".intercalate ((pieces path).reverse.dropWhile stays).tail.reverse

/-- How many bytes a path may have. -/
def lengthLimit : Nat := 4095

/-- Whether a path can be looked up: it is not too long and has no null character. -/
def isUsable (path : String) : Bool :=
  path.utf8ByteSize ≤ lengthLimit && !path.toList.contains '\x00'

theorem length_pieces (path : String) : (pieces path).length = path.toList.count '/' + 1 := by
  simp [pieces, Text.length_pieces]

theorem pieces_ne_nil (path : String) : pieces path ≠ [] := by
  intro h
  have := length_pieces path
  rw [h] at this
  simp at this

end FeatureScan.Path
