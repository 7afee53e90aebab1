import FeatureScan.Css.Component
import FeatureScan.Css.Notice
import FeatureScan.Text.Blank

/-!
# Writing component values as text

Selectors, preludes and values are written out from their components: white space becomes a single
space, never behind an opening bracket and never in front of a closing one, blocks in curly brackets
are left out, and the content of a group that is nested too deeply is left out with a notice.

## Main results

* `length_readPrelude_lt`: reading a prelude takes components away.
-/

namespace FeatureScan.Css

/-- Text in the making. -/
structure Pen where
  /-- The characters written, in reverse. -/
  written : List Char
  /-- The notices given, in reverse. -/
  notices : List Notice

namespace Pen

/-- A pen that has written nothing. -/
def fresh : Pen := ⟨[], []⟩

/-- Writes characters. -/
def put (p : Pen) (cs : List Char) : Pen := { p with written := cs.reverse ++ p.written }

/-- Writes a space, unless there is nothing to separate. -/
def space (p : Pen) : Pen :=
  match p.written with
  | [] => p
  | c :: _ => if c == ' ' || c == '(' || c == '[' then p else { p with written := ' ' :: p.written }

/-- Writes a closing bracket right behind the last character that is no blank. -/
def close (p : Pen) (c : Char) : Pen := { p with written := c :: p.written.dropWhile Text.isBlank }

/-- Gives a notice. -/
def note (p : Pen) (n : Notice) : Pen := { p with notices := n :: p.notices }

/-- The text, trimmed. -/
def text (p : Pen) : String := String.ofList (Text.trim p.written.reverse)

/-- Writes components where `room` further levels of nesting are allowed. -/
def writeAll (room : Nat) (cs : List Component) (p : Pen) : Pen :=
  cs.foldl
    (fun p c =>
      match c with
      | .leaf .blank _ => p.space
      | .leaf t _ => p.put t.text
      | .group _ .curly _ _ _ => p
      | .group opener kind line content _ =>
        let p := p.put opener.text
        match room with
        | 0 => (p.note ⟨line, .tooDeep⟩).close kind.closer
        | room + 1 => (writeAll room content p).close kind.closer)
    p

/-- Writes one component. -/
def write (room : Nat) (c : Component) (p : Pen) : Pen := writeAll room [c] p

end Pen

/-! ## Preludes -/

/-- What ends a prelude. -/
inductive PreludeEnd
  | block (line : Nat) (body : Body)
  | semicolon (line : Nat)
  | sourceEnd

/-- Reads a prelude up to a block, a semicolon or the end, and returns what follows. -/
def readPrelude (room : Nat) : List Component → Pen → Pen × PreludeEnd × List Component
  | [], p => (p, .sourceEnd, [])
  | .group _ .curly line content endLine :: cs, p => (p, .block line ⟨content, endLine⟩, cs)
  | .leaf .semicolon line :: cs, p => (p, .semicolon line, cs)
  | c :: cs, p => readPrelude room cs (p.write room c)

theorem length_readPrelude_le (room : Nat) (cs : List Component) (p : Pen) :
    (readPrelude room cs p).2.2.length ≤ cs.length := by
  fun_induction readPrelude room cs p <;> simp_all
  omega

theorem length_readPrelude_lt (room : Nat) (c : Component) (cs : List Component) (p : Pen) :
    (readPrelude room (c :: cs) p).2.2.length < (c :: cs).length := by
  unfold readPrelude
  split
  · rename_i h; cases h
  · rename_i h; cases h; simp
  · rename_i h; cases h; simp
  · rename_i h; cases h
    exact Nat.lt_succ_of_le (length_readPrelude_le _ _ _)

/-! ## Values -/

/-- What follows the word `important`, if that word comes next. -/
def importantBehind? (cs : List Component) : Option (List Component) :=
  match dropBlanks cs with
  | .leaf (.ident name) _ :: rest => if Text.asciiLower name == "important" then some rest else none
  | _ => none

theorem length_importantBehind?_lt {cs rest : List Component}
    (h : importantBehind? cs = some rest) :
    rest.length < cs.length := by
  unfold importantBehind? at h
  have hle := length_dropBlanks_le cs
  split at h
  · rename_i heq
    rw [heq, List.length_cons] at hle
    split at h
    · obtain rfl := Option.some.inj h
      omega
    · cases h
  · cases h

/-- How reading a value ended. -/
inductive ValueEnd
  /-- The value ended at a semicolon, whose line it holds, or at the end of the block. -/
  | ended (pen : Pen) (semicolon : Option Nat) (rest : List Component)
  /-- A block came up, so what was read belongs to a nested rule. -/
  | nestedRule (pen : Pen)

/-- What follows an exclamation mark and the word `important`, if those start here. -/
def afterImportant? (c : Component) (cs : List Component) : Option (List Component) :=
  if c.isToken (.delim '!') then importantBehind? cs else none

theorem length_afterImportant?_lt {c : Component} {cs rest : List Component}
    (h : afterImportant? c cs = some rest) : rest.length < cs.length := by
  unfold afterImportant? at h
  split at h
  · exact length_importantBehind?_lt h
  · cases h

/-- Reads the value of a declaration. An `!important` at the end is left out; one with more behind
it is part of the value. The value of a custom property may hold blocks, which are not written. -/
def readValue (room : Nat) (custom : Bool) (important : Bool) (cs : List Component) (p : Pen) :
    ValueEnd :=
  match cs with
  | [] => .ended p none []
  | .leaf .semicolon line :: rest => .ended p (some line) rest
  | .leaf .blank _ :: rest => readValue room custom important rest p.space
  | c :: rest =>
    match _h : afterImportant? c rest with
    | some behind => readValue room custom true behind p
    | none =>
      if c.isBlock then
        if custom then readValue room custom important rest p else .nestedRule p
      else
        let p := if important then p.space.put "!important ".toList else p
        readValue room custom false rest (p.write room c)
termination_by cs.length
decreasing_by
  all_goals simp_wf
  have := length_afterImportant?_lt _h
  omega

end FeatureScan.Css
