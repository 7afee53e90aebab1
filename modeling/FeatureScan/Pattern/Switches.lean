import FeatureScan.Text.Blank

/-!
# Switches

The switches that a pattern can set for what follows, up to the end of the group, and the blanks and
comments that may be written freely where the switch for that is on.

## Main results

* `length_skip_le`: skipping adds nothing, so reading ends.
-/

namespace FeatureScan.Pattern

/-- What can be switched. -/
inductive Switch
  /-- Letters stand for their variants in case. -/
  | ignoreCase
  /-- The conditions for start and end hold at lines. -/
  | multiLine
  /-- A dot takes line feeds. -/
  | dotAll
  /-- Repetitions prefer few; which matches there are does not depend on that. -/
  | swapGreed
  /-- Classes and letters are those of Unicode. -/
  | unicode
  /-- Lines may end in carriage returns. -/
  | returns
  /-- Blanks and comments in the pattern mean nothing. -/
  | spaced
  deriving DecidableEq, Repr

/-- The switch of a letter. -/
def Switch.ofLetter? : Char → Option Switch
  | 'i' => some ignoreCase
  | 'm' => some multiLine
  | 's' => some dotAll
  | 'U' => some swapGreed
  | 'u' => some unicode
  | 'R' => some returns
  | 'x' => some spaced
  | _ => none

/-- The state of the switches. -/
structure Switches where
  /-- Letters stand for their variants in case. -/
  ignoreCase : Bool := false
  /-- The conditions for start and end hold at lines. -/
  multiLine : Bool := false
  /-- A dot takes line feeds. -/
  dotAll : Bool := false
  /-- Classes and letters are those of Unicode. -/
  unicode : Bool := true
  /-- Lines may end in carriage returns. -/
  returns : Bool := false
  /-- Blanks and comments in the pattern mean nothing. -/
  spaced : Bool := false
  deriving DecidableEq, Repr

/-- The state with one switch set. -/
def Switches.set (s : Switches) (value : Bool) : Switch → Switches
  | .ignoreCase => { s with ignoreCase := value }
  | .multiLine => { s with multiLine := value }
  | .dotAll => { s with dotAll := value }
  | .swapGreed => s
  | .unicode => { s with unicode := value }
  | .returns => { s with returns := value }
  | .spaced => { s with spaced := value }

/-! ## Free spacing -/

/-- Drops blanks and comments; `inComment` tells that a comment is being read, which ends with its
line. -/
def skipSpacing : Bool → List Char → List Char
  | _, [] => []
  | true, c :: cs => skipSpacing (c != '\n') cs
  | false, c :: cs =>
    if c == '#' then skipSpacing true cs
    else if Text.isBlank c then skipSpacing false cs
    else c :: cs

/-- Drops blanks and comments, if they mean nothing. -/
def skip (s : Switches) (cs : List Char) : List Char :=
  if s.spaced then skipSpacing false cs else cs

theorem length_skipSpacing_le (inComment : Bool) (cs : List Char) :
    (skipSpacing inComment cs).length ≤ cs.length := by
  fun_induction skipSpacing inComment cs <;> simp_all <;> omega

theorem length_skip_le (s : Switches) (cs : List Char) : (skip s cs).length ≤ cs.length := by
  unfold skip
  split
  · exact length_skipSpacing_le _ _
  · exact Nat.le_refl _

/-- What follows the character at hand once spacing is skipped, as a class looks ahead to it. A
first number sign is passed over as the start of a comment, but the comment itself is not. -/
def lookAhead : Bool → List Char → Option Char
  | _, [] => none
  | inComment, c :: cs =>
    if Text.isBlank c then lookAhead inComment cs
    else if !inComment && c == '#' then lookAhead true cs
    else some c

/-- The next significant character behind the one at hand. -/
def ahead? (s : Switches) (rest : List Char) : Option Char :=
  if s.spaced then (lookAhead false rest).or rest.head? else rest.head?

/-! ## Reading switches -/

/-- A list of switches as it is written: those set, and those cleared. -/
structure SwitchList where
  /-- The switches seen, in order. -/
  seen : List (Switch × Bool) := []
  /-- Whether the hyphen has been read. -/
  clearing : Bool := false
  /-- Whether the hyphen was the last character. -/
  dangling : Bool := false

/-- Reads switches up to a colon or a closing parenthesis, which is returned. No switch may be
named twice, there is at most one hyphen, and a switch follows it. -/
def readSwitches : SwitchList → List Char → Option (SwitchList × Char × List Char)
  | _, [] => none
  | l, c :: cs =>
    if c == ':' || c == ')' then if l.dangling then none else some (l, c, cs)
    else if c == '-' then
      if l.clearing then none else readSwitches { l with clearing := true, dangling := true } cs
    else
      match Switch.ofLetter? c with
      | none => none
      | some w =>
        if l.seen.any (·.1 == w) then none
        else readSwitches { l with seen := l.seen ++ [(w, !l.clearing)], dangling := false } cs

/-- The state after a list of switches. -/
def Switches.apply (s : Switches) (l : SwitchList) : Switches :=
  l.seen.foldl (fun s w => s.set w.2 w.1) s

end FeatureScan.Pattern
