import FeatureScan.Css.Scan

/-!
# Component values

The tokens of a style sheet, nested by their brackets. A bracket is closed by the next closing token
of its own kind at its level; closing tokens of other kinds stand inside it as they are, and what is
still open at the end of the source ends there. Comments are left out.

## Main results

* `length_dropBlanks_le`: skipping white space adds nothing.
-/

namespace FeatureScan.Css

/-- A token that is no bracket in use, or a bracketed group. Lines are those behind the token and
behind the last token of the content. -/
inductive Component
  | leaf (token : Token) (line : Nat)
  | group (opener : Token) (kind : Bracket) (line : Nat) (content : List Component) (endLine : Nat)
  deriving Repr

namespace Component

/-- The token itself, of a component that is no group. -/
def token? : Component → Option Token
  | leaf t _ => some t
  | group .. => none

/-- Whether a component is white space. -/
def isBlank : Component → Bool
  | leaf .blank _ => true
  | _ => false

/-- Whether a component is a block in curly brackets. -/
def isBlock : Component → Bool
  | group _ .curly _ _ _ => true
  | _ => false

/-- Whether a component is a given token. -/
def isToken (t : Token) : Component → Bool
  | leaf t' _ => t' == t
  | group .. => false

end Component

/-- The components from the first that is no white space. -/
def dropBlanks (cs : List Component) : List Component := cs.dropWhile Component.isBlank

theorem length_dropBlanks_le (cs : List Component) : (dropBlanks cs).length ≤ cs.length :=
  (List.dropWhile_sublist _).length_le

/-! ## Nesting the tokens -/

/-- A bracket that is open, with what stood before it at its level. -/
structure OpenGroup where
  /-- The token that opened it. -/
  opener : Token
  /-- Its kind. -/
  kind : Bracket
  /-- The line behind the opening token. -/
  line : Nat
  /-- The components before it at its level, in reverse. -/
  before : List Component

/-- The state of nesting: the open brackets, innermost first, and the components read so far inside
the innermost one, in reverse. -/
structure Nesting where
  /-- The open brackets. -/
  openGroups : List OpenGroup
  /-- The components of the innermost level. -/
  current : List Component

namespace Nesting

/-- Nothing read, nothing open. -/
def start : Nesting := ⟨[], []⟩

/-- Closes the innermost bracket, whose content ends on line `line`. -/
def close (n : Nesting) (line : Nat) : Nesting :=
  match n.openGroups with
  | [] => n
  | g :: gs => ⟨gs, .group g.opener g.kind g.line n.current.reverse line :: g.before⟩

/-- Adds a token. -/
def add (n : Nesting) (t : PlacedToken) : Nesting :=
  match t.token.opens? with
  | some kind => ⟨⟨t.token, kind, t.line, n.current⟩ :: n.openGroups, []⟩
  | none =>
    if t.token == .comment then n
    else
      match t.token.closes?, n.openGroups with
      | some kind, g :: _ =>
        if g.kind == kind then n.close t.line
        else { n with current := .leaf t.token t.line :: n.current }
      | _, _ => { n with current := .leaf t.token t.line :: n.current }

/-- Closes every open bracket at the end of the source. -/
def finish (n : Nesting) (line : Nat) : List Component :=
  (n.openGroups.foldl (fun m _ => m.close line) n).current.reverse

end Nesting

/-- A piece of a style sheet: components and the line behind them. -/
structure Body where
  /-- The components. -/
  content : List Component
  /-- The line behind the last token. -/
  endLine : Nat
  deriving Repr

/-- The components of a text. -/
def Body.ofText (cs : List Char) : Body :=
  let (ts, last) := tokens cs
  ⟨(ts.foldl Nesting.add Nesting.start).finish last, last⟩

end FeatureScan.Css
