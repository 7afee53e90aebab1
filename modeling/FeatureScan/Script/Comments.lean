/-!
# Comments of scripts

Comments are taken out in two passes: first those between a slash with a star and a star with a
slash, each leaving one space, and then those from two slashes to the end of the line. The text is
not read as a script, so strings are searched like everything else.

## Main results

* `length_afterCloser_lt`: the text behind a closer is shorter than that before.
-/

namespace FeatureScan.Script

/-- The text behind the first star that a slash follows. -/
def afterCloser? : List Char → Option (List Char)
  | [] => none
  | '*' :: '/' :: cs => some cs
  | _ :: cs => afterCloser? cs

theorem length_afterCloser_lt {cs rest : List Char} (h : afterCloser? cs = some rest) :
    rest.length < cs.length := by
  fun_induction afterCloser? cs with
  | case1 => simp at h
  | case2 cs =>
    obtain rfl := Option.some.inj h
    rw [List.length_cons, List.length_cons]
    omega
  | case3 c cs _ ih =>
    have hlt := ih h
    rw [List.length_cons]
    omega

/-- Puts a space in place of every comment that is closed; `done` is what has been passed, in
reverse. An opener that is never closed stays, and so does everything behind it. -/
def dropBlocksOnto (done : List Char) (cs : List Char) : List Char :=
  match cs with
  | [] => done.reverse
  | '/' :: '*' :: cs' =>
    match _h : afterCloser? cs' with
    | some rest => dropBlocksOnto (' ' :: done) rest
    | none => done.reverse ++ cs
  | c :: cs' => dropBlocksOnto (c :: done) cs'
  termination_by cs.length
  decreasing_by
    · have := length_afterCloser_lt ‹afterCloser? _ = some _›
      simp
      omega
    · simp

/-- The text with a space in place of every closed comment. -/
def dropBlocks (cs : List Char) : List Char := dropBlocksOnto [] cs

/-- Drops everything from two slashes to the end of the line; `done` is what has been passed, in
reverse, and `inComment` tells that a comment is being passed. -/
def dropLinesOnto (done : List Char) : Bool → List Char → List Char
  | _, [] => done.reverse
  | true, c :: cs =>
    if c == '\n' then dropLinesOnto (c :: done) false cs else dropLinesOnto done true cs
  | false, '/' :: '/' :: cs => dropLinesOnto done true cs
  | false, c :: cs => dropLinesOnto (c :: done) false cs

/-- The text without comments up to the end of a line. -/
def dropLines (cs : List Char) : List Char := dropLinesOnto [] false cs

/-- The text of a script without its comments. -/
def withoutComments (source : String) : String :=
  String.ofList (dropLines (dropBlocks source.toList))

end FeatureScan.Script
