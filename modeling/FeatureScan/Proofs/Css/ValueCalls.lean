import FeatureScan.Proofs.Css.Cursor
import FeatureScan.Proofs.Css.Taking

/-!
# Reading declarations and preludes by calls

Component values, preludes and declarations are read here by calls of a parser that stands in the
tokens of a style sheet, without any nesting known beforehand. Whether a bracket may be entered hangs
on the token handed out last, across what is tried in vain and across the calls in between.

None of the calls meets with a mishap. They give what is read from the components that the parser has
ahead, and leave it behind those that this takes. A prelude that a block has ended leaves it where the
block can be entered.

## Main results

* `writes_writeToken`: a token is written, with what stands in the bracket that it opens.
* `gives_readPrelude`: a prelude.
* `readsValue`, `readsDeclaration`: a value and a declaration.
-/

namespace FeatureScan.Css

namespace Call

/-! ## Component values -/

/-- A round of reading to the end. -/
def skipRound (_ : Unit) : Call (Round Unit Unit) := do
  match ← next with
  | none => return .leave ()
  | some _ => return .again ()

/-- Reads to the end. -/
def skipAll : Call Unit := loop skipRound ()

theorem gives_skipAll (cs : List Component) (endLine line : Nat) (opened : Option Body) :
    Gives skipAll ⟨cs, endLine, line, opened⟩ () ⟨[], endLine, endLine, none⟩ := by
  induction cs generalizing line opened with
  | nil =>
      have hround : Gives (skipRound ()) ⟨[], endLine, line, opened⟩ (.leave ())
          ⟨[], endLine, endLine, none⟩ := (gives_next_nil _ _ _).bind (.pure _ _)
      exact hround.leave
  | cons c cs ih =>
      have hround : Gives (skipRound ()) ⟨c :: cs, endLine, line, opened⟩ (.again ())
          ⟨cs, endLine, c.headLine, c.body?⟩ := (gives_next _ _ _ _ _).bind (.pure _ _)
      exact hround.again (Nat.lt_succ_self _) (ih _ _)

/-- Passes over what stands in the bracket that was opened just now. -/
def skipInside (levels : Nat) : Call Unit := nested levels skipAll

theorem gives_skipInside {levels : Nat} (hlevels : levels ≠ 0) (body : Body) (cs : List Component)
    (endLine line : Nat) :
    Gives (skipInside levels) ⟨cs, endLine, line, some body⟩ () ⟨cs, endLine, body.endLine, none⟩ :=
  gives_nested hlevels (gives_skipAll _ _ _ _) cs endLine

/-- A round of writing all that is ahead, the tokens with `write`. -/
def valuesRound (write : Token → Pen → Call Pen) (p : Pen) : Call (Round Pen Pen) := do
  match ← next with
  | none => return .leave p
  | some t => return .again (← write t p)

/-- Writes all that is ahead, the tokens with `write`. -/
def writeValues (write : Token → Pen → Call Pen) (p : Pen) : Call Pen :=
  loop (valuesRound write) p

/-- Whether a call writes components, where `room` more brackets may be nested: the first token of
a component, handed out just now, and what stands in the bracket that it has opened. -/
def Writes (room : Nat) (write : Token → Pen → Call Pen) : Prop :=
  ∀ (c : Component) (cs : List Component) (endLine : Nat) (p : Pen), c.head.opens? = c.kind? →
    Gives (write c.head p) ⟨cs, endLine, c.headLine, c.body?⟩ (p.write room c)
      ⟨cs, endLine, c.endLine, none⟩

theorem gives_writeValues {room : Nat} {write : Token → Pen → Call Pen} (h : Writes room write)
    (cs : List Component) (endLine line : Nat) (opened : Option Body) (p : Pen) :
    Gives (writeValues write p) ⟨cs, endLine, line, opened⟩ (p.writeAll room cs)
      ⟨[], endLine, endLine, none⟩ := by
  induction cs generalizing line opened p with
  | nil =>
      have hround : Gives (valuesRound write p) ⟨[], endLine, line, opened⟩ (.leave p)
          ⟨[], endLine, endLine, none⟩ := (gives_next_nil _ _ _).bind (.pure _ _)
      rw [writeAll_nil]
      exact hround.leave
  | cons c cs ih =>
      refine .of_wellHeaded fun hheads => ?_
      have hround : Gives (valuesRound write p) ⟨c :: cs, endLine, line, opened⟩
          (.again (p.write room c)) ⟨cs, endLine, c.endLine, none⟩ :=
        (gives_next _ _ _ _ _).bind
          ((h c cs endLine p (hheads c List.mem_cons_self)).bind (.pure _ _))
      rw [writeAll_cons]
      exact hround.again (Nat.lt_succ_self _) (ih _ _ _)

/-- Writes what stands in a bracket that was opened just now, around which `depth` brackets are
open; `deeper` writes the tokens in it. -/
def writeInside (deeper : Token → Pen → Call Pen) (levels depth : Nat) (p : Pen) : Call Pen := do
  if nestingLimit ≤ depth then
    let line ← lineHere
    skipInside levels
    return p.note ⟨line, .tooDeep⟩
  else nested levels (writeValues deeper p)

/-- Writes the token handed out last, white space as a space, and another one with what stands in the
bracket that it has opened; `depth` brackets are open around it. -/
def writeToken (levels depth : Nat) (t : Token) (p : Pen) : Call Pen :=
  let deeper : Token → Pen → Call Pen :=
    match levels with
    | 0 => fun _ _ => throw .tooDeep
    | levels + 1 => writeToken levels (depth + 1)
  match t.opens? with
  | none => return if t = .blank then p.space else p.put t.text
  | some .curly => do
    skipInside levels
    return p
  | some kind => return (← writeInside deeper levels depth (p.put t.text)).close kind.closer

/-- Writes the content of a bracket, or gives a notice if there is no room for it. -/
def writeContent (room line : Nat) (content : List Component) (p : Pen) : Pen :=
  match room with
  | 0 => p.note ⟨line, .tooDeep⟩
  | room + 1 => p.writeAll room content

section

variable {room depth : Nat} (hroom : depth + room = nestingLimit)

include hroom

theorem gives_writeInside {deeper : Token → Pen → Call Pen}
    (hdeeper : ∀ inside, room = inside + 1 → Writes inside deeper) (cs : List Component)
    (endLine line : Nat) (body : Body) (p : Pen) :
    Gives (writeInside deeper (room + 1) depth p) ⟨cs, endLine, line, some body⟩
      (writeContent room line body.content p) ⟨cs, endLine, body.endLine, none⟩ := by
  unfold writeInside
  cases room with
  | zero =>
      rw [if_pos (show nestingLimit ≤ depth from Nat.le_of_eq hroom.symm)]
      exact (gives_lineHere _).bind
        ((gives_skipInside (Nat.succ_ne_zero _) body cs endLine line).bind (.pure _ _))
  | succ room =>
      rw [if_neg (by omega)]
      exact gives_nested (Nat.succ_ne_zero _) (gives_writeValues (hdeeper room rfl) _ _ _ _ _) _ _

theorem writes_writeToken_of
    (hdeeper : ∀ inside, room = inside + 1 → Writes inside (writeToken room (depth + 1))) :
    Writes room (writeToken (room + 1) depth) := by
  intro c cs endLine p hopens
  unfold writeToken
  rw [hopens]
  cases c with
  | leaf t line =>
      rw [write_leaf]
      exact .pure _ _
  | group opener kind line content contentEnd =>
      have hskip := gives_skipInside (Nat.succ_ne_zero room) ⟨content, contentEnd⟩ cs endLine line
      have hwrite := gives_writeInside hroom hdeeper cs endLine line ⟨content, contentEnd⟩
        (p.put opener.text)
      by_cases hkind : kind = .curly
      · rw [hkind, write_block]
        exact hskip.bind (.pure _ _)
      · rw [write_group hkind]
        cases kind with
        | curly => exact absurd rfl hkind
        | round | square => exact hwrite.bind (.pure _ _)

end

theorem writes_writeToken {room depth : Nat} (hroom : depth + room = nestingLimit) :
    Writes room (writeToken (room + 1) depth) := by
  induction room generalizing depth with
  | zero => exact writes_writeToken_of hroom nofun
  | succ room ih =>
      refine writes_writeToken_of hroom fun inside hinside => ?_
      cases hinside
      exact ih (by omega)

/-! ## Preludes -/

/-- What has ended a prelude. -/
inductive Ending
  | block
  | semicolon
  | sourceEnd

/-- A round of reading a prelude. -/
def preludeRound (levels depth : Nat) (p : Pen) : Call (Round Pen (Pen × Ending)) := do
  match ← next with
  | none => return .leave (p, .sourceEnd)
  | some t =>
    if t = .openBracket .curly then return .leave (p, .block)
    else if t = .semicolon then return .leave (p, .semicolon)
    else return .again (← writeToken levels depth t p)

/-- Reads a prelude. A block that ends it is not entered. -/
def readPrelude (levels depth : Nat) : Call (Pen × Ending) := loop (preludeRound levels depth) .fresh

end Call

/-- The line behind what has ended a prelude. -/
def PreludeEnd.line (endLine : Nat) : PreludeEnd → Nat
  | block line _ => line
  | semicolon line => line
  | sourceEnd => endLine

/-- The block that has ended a prelude. -/
def PreludeEnd.body? : PreludeEnd → Option Body
  | block _ body => some body
  | semicolon _ => none
  | sourceEnd => none

namespace Call

/-- The way in which a prelude has ended. -/
def endingOf : PreludeEnd → Ending
  | .block .. => .block
  | .semicolon _ => .semicolon
  | .sourceEnd => .sourceEnd

theorem gives_readPrelude {room depth : Nat} (hroom : depth + room = nestingLimit)
    (cs : List Component) (endLine line : Nat) (opened : Option Body) (p : Pen) :
    Gives (loop (preludeRound (room + 1) depth) p) ⟨cs, endLine, line, opened⟩
      ((Css.readPrelude room cs p).1, endingOf (Css.readPrelude room cs p).2.1)
      ⟨(Css.readPrelude room cs p).2.2, endLine, (Css.readPrelude room cs p).2.1.line endLine,
        (Css.readPrelude room cs p).2.1.body?⟩ := by
  fun_induction Css.readPrelude room cs p generalizing line opened with
  | case1 p =>
      have hround : Gives (preludeRound (room + 1) depth p) ⟨[], endLine, line, opened⟩
          (.leave (p, .sourceEnd)) ⟨[], endLine, endLine, none⟩ :=
        (gives_next_nil _ _ _).bind (.pure _ _)
      exact hround.leave
  | case2 opener bline content contentEnd cs p =>
      refine .of_wellHeaded fun hheads => ?_
      have hhead := (head_eq_curly_iff (hheads _ List.mem_cons_self)).2 rfl
      refine Gives.leave ((gives_next _ _ _ _ _).bind ?_)
      dsimp only
      rw [if_pos hhead]
      exact .pure _ _
  | case3 sline cs p =>
      refine Gives.leave ((gives_next _ _ _ _ _).bind ?_)
      exact .pure _ _
  | case4 c cs p hblock hsemicolon ih =>
      refine .of_wellHeaded fun hheads => ?_
      have hopens := hheads c List.mem_cons_self
      have hcurly : c.head ≠ .openBracket .curly := by
        rw [Ne, head_eq_curly_iff hopens, isBlock_eq_true_iff]
        rintro ⟨_, _, _, _, h⟩
        exact hblock _ _ _ _ h
      have hplain : c.head ≠ .semicolon := fun h =>
        ((head_eq_iff hopens rfl).1 h).elim hsemicolon
      have hround : Gives (preludeRound (room + 1) depth p) ⟨c :: cs, endLine, line, opened⟩
          (.again (p.write room c)) ⟨cs, endLine, c.endLine, none⟩ := by
        refine (gives_next _ _ _ _ _).bind ?_
        dsimp only
        rw [if_neg hcurly, if_neg hplain]
        exact (writes_writeToken hroom c cs endLine p hopens).bind (.pure _ _)
      exact hround.again (Nat.lt_succ_self _) (ih _ _)

/-! ## Values -/

theorem gives_skipBlock {c : Component} (h : c.isBlock = true) {levels : Nat}
    (hlevels : levels ≠ 0) (cs : List Component) (endLine : Nat) :
    Gives (skipInside levels) ⟨cs, endLine, c.headLine, c.body?⟩ ()
      ⟨cs, endLine, c.endLine, none⟩ := by
  obtain ⟨opener, line, content, contentEnd, rfl⟩ := isBlock_eq_true_iff.1 h
  exact gives_skipInside hlevels ⟨content, contentEnd⟩ cs endLine line

/-- Whether a token is the word `important`. -/
def isImportant : Option Token → Bool
  | some (.ident name) => Text.asciiLower name == "important"
  | _ => false

/-- Reads the word `important`, if it comes next. -/
def readImportant : Call Bool := attempt id do return isImportant (← nextSolid)

theorem importantBehind?_of_nil {cs : List Component} (h : dropBlanks cs = []) :
    importantBehind? cs = none := by
  rw [importantBehind?, h]

theorem importantBehind?_of_cons {cs rest : List Component} {c : Component}
    (h : dropBlanks cs = c :: rest) (hopens : c.head.opens? = c.kind?) :
    importantBehind? cs = if isImportant (some c.head) then some rest else none := by
  rw [importantBehind?, h]
  cases c with
  | leaf t line => cases t <;> rfl
  | group opener kind line content endLine =>
      cases opener with
      | ident name => cases hopens
      | _ => rfl

/-- Whether a call tells if something comes next, and takes it: `behind?` is what is left then. -/
def Finds (call : Call Bool) (v : View) (behind? : Option (List Component)) : Prop :=
  match behind? with
  | some behind => ∃ line opened, Gives call v true ⟨behind, v.endLine, line, opened⟩
  | none => Gives call v false v

theorem finds_readImportant {cs : List Component} (hheads : WellHeaded cs) (endLine line : Nat)
    (opened : Option Body) :
    Finds readImportant ⟨cs, endLine, line, opened⟩ (importantBehind? cs) := by
  cases hcs : dropBlanks cs with
  | nil =>
      have hnext : Gives (do return isImportant (← nextSolid)) ⟨cs, endLine, line, opened⟩ false
          ⟨[], endLine, endLine, none⟩ := (gives_nextSolid_nil hcs _ _ _).bind (.pure _ _)
      rw [importantBehind?_of_nil hcs]
      exact hnext.attempt_of_not rfl
  | cons c rest =>
      have hnext : Gives (do return isImportant (← nextSolid)) ⟨cs, endLine, line, opened⟩
          (isImportant (some c.head)) ⟨rest, endLine, c.headLine, c.body?⟩ :=
        (gives_nextSolid hcs _ _ _).bind (.pure _ _)
      rw [importantBehind?_of_cons hcs (hheads.suffix (suffix_dropBlanks cs) c (by simp [hcs]))]
      cases himportant : isImportant (some c.head) with
      | true =>
          rw [himportant] at hnext
          exact ⟨_, _, hnext.attempt_of_worked rfl⟩
      | false =>
          rw [himportant] at hnext
          exact hnext.attempt_of_not rfl

/-- Reads the word `important` behind `t`, if that is an exclamation mark. -/
def readMark (t : Token) : Call Bool := if t = .delim '!' then readImportant else pure false

theorem finds_readMark {c : Component} {rest : List Component} (hheads : WellHeaded (c :: rest))
    (endLine line : Nat) (opened : Option Body) :
    Finds (readMark c.head) ⟨rest, endLine, line, opened⟩ (afterImportant? c rest) := by
  have hmark := isToken_eq_true_iff (hheads c List.mem_cons_self) (t := .delim '!') rfl
  rw [readMark, afterImportant?]
  by_cases hhead : c.head = .delim '!'
  · rw [if_pos hhead, if_pos (hmark.2 hhead)]
    exact finds_readImportant (hheads.suffix (List.suffix_cons _ _)) _ _ _
  · rw [if_neg hhead, if_neg (hmark.not.2 hhead)]
    exact .pure _ _

/-- A round of reading a value that takes a token which is neither a semicolon nor white space nor
begins an `!important`. -/
def plainRound (levels depth : Nat) (custom important : Bool) (p : Pen) (t : Token) :
    Call (Round (Bool × Pen) (Pen × Bool)) := do
  if t = .openBracket .curly then
    if custom then
      skipInside levels
      return .again (important, p)
    else return .leave (p, true)
  else
    let p := if important then p.space.put "!important ".toList else p
    return .again (false, ← writeToken levels depth t p)

/-- A round of reading a value. The loop tells whether a block has come up. -/
def valueRound (levels depth : Nat) (custom : Bool) (state : Bool × Pen) :
    Call (Round (Bool × Pen) (Pen × Bool)) := do
  let (important, p) := state
  match ← next with
  | none => return .leave (p, false)
  | some t =>
    if t = .semicolon then return .leave (p, false)
    else if t = .blank then return .again (important, p.space)
    else if ← readMark t then return .again (true, p)
    else plainRound levels depth custom important p t

/-- Reads the value of a declaration. -/
def readValue (levels depth : Nat) (custom : Bool) : Call (Pen × Bool) :=
  loop (valueRound levels depth custom) (false, .fresh)

/-- Whether a call reads a value that ends in a given way. -/
def ReadsValue (call : Call (Pen × Bool)) (v : View) : ValueEnd → Prop
  | .ended pen semicolon rest =>
    Gives call v (pen, false) ⟨rest, v.endLine, semicolon.getD v.endLine, none⟩
  | .nestedRule pen => ∃ w, Gives call v (pen, true) w

theorem ReadsValue.of_gives {x y : Call (Pen × Bool)} {v w : View} {e : ValueEnd}
    (h : ReadsValue x w e) (hend : w.endLine = v.endLine)
    (hstep : ∀ b u, Gives x w b u → Gives y v b u) : ReadsValue y v e := by
  cases e with
  | ended pen semicolon rest =>
      rw [ReadsValue, ← hend]
      exact hstep _ _ h
  | nestedRule pen =>
      obtain ⟨u, hu⟩ := h
      exact ⟨u, hstep _ _ hu⟩

section

variable (levels depth : Nat) (custom important : Bool) {c : Component} {rest : List Component}
  (hheads : WellHeaded (c :: rest)) (hsemicolon : ∀ line, c = .leaf .semicolon line → False)
  (hblank : ∀ line, c = .leaf .blank line → False) (endLine line : Nat) (opened : Option Body)
  (p : Pen)

include hheads hsemicolon hblank

theorem gives_valueRound_of_some {behind : List Component}
    (h : afterImportant? c rest = some behind) :
    ∃ line' opened', Gives (valueRound levels depth custom (important, p))
      ⟨c :: rest, endLine, line, opened⟩ (.again (true, p)) ⟨behind, endLine, line', opened'⟩ := by
  have hopens := hheads c List.mem_cons_self
  have hfinds := finds_readMark hheads endLine c.headLine c.body?
  rw [h] at hfinds
  obtain ⟨line', opened', hmark⟩ := hfinds
  refine ⟨line', opened', (gives_next _ _ _ _ _).bind ?_⟩
  dsimp only
  rw [if_neg fun h => ((head_eq_iff hopens rfl).1 h).elim hsemicolon,
    if_neg fun h => ((head_eq_iff hopens rfl).1 h).elim hblank]
  exact hmark.bind (.pure _ _)

theorem gives_valueRound_of_none (h : afterImportant? c rest = none)
    {x : Round (Bool × Pen) (Pen × Bool)} {w : View}
    (hplain : Gives (plainRound levels depth custom important p c.head)
      ⟨rest, endLine, c.headLine, c.body?⟩ x w) :
    Gives (valueRound levels depth custom (important, p)) ⟨c :: rest, endLine, line, opened⟩ x w := by
  have hopens := hheads c List.mem_cons_self
  have hmark := finds_readMark hheads endLine c.headLine c.body?
  rw [h] at hmark
  refine (gives_next _ _ _ _ _).bind ?_
  dsimp only
  rw [if_neg fun h => ((head_eq_iff hopens rfl).1 h).elim hsemicolon,
    if_neg fun h => ((head_eq_iff hopens rfl).1 h).elim hblank]
  exact Gives.bind hmark hplain

end

theorem readsValue {room depth : Nat} (hroom : depth + room = nestingLimit) (custom important : Bool)
    (cs : List Component) (hheads : WellHeaded cs) (endLine line : Nat) (opened : Option Body)
    (p : Pen) :
    ReadsValue (loop (valueRound (room + 1) depth custom) (important, p))
      ⟨cs, endLine, line, opened⟩ (Css.readValue room custom important cs p) := by
  fun_induction Css.readValue room custom important cs p generalizing line opened with
  | case1 important p => exact .leave ((gives_next_nil _ _ _).bind (.pure _ _))
  | case2 important p sline rest => exact .leave ((gives_next _ _ _ _ _).bind (.pure _ _))
  | case3 important p bline rest ih =>
      have hround : Gives (valueRound (room + 1) depth custom (important, p))
          ⟨.leaf .blank bline :: rest, endLine, line, opened⟩ (.again (important, p.space))
          ⟨rest, endLine, bline, none⟩ := (gives_next _ _ _ _ _).bind (.pure _ _)
      exact (ih (hheads.suffix (List.suffix_cons _ _)) _ _).of_gives rfl fun _ _ =>
        hround.again (Nat.lt_succ_self _)
  | case4 important p c rest hsemicolon hblank behind hb ih =>
      obtain ⟨line', opened', hround⟩ := gives_valueRound_of_some (room + 1) depth custom important
        hheads hsemicolon hblank endLine line opened p hb
      have hbehind := (suffix_afterImportant? hb).trans (List.suffix_cons c rest)
      exact (ih (hheads.suffix hbehind) _ _).of_gives rfl fun _ _ =>
        hround.again (Nat.lt_succ_of_lt (length_afterImportant?_lt hb))
  | case5 important p c rest hsemicolon hblank hb hblock hcustom ih =>
      have hcurly := (head_eq_curly_iff (hheads c List.mem_cons_self)).2 hblock
      have hplain : Gives (plainRound (room + 1) depth custom important p c.head)
          ⟨rest, endLine, c.headLine, c.body?⟩ (.again (important, p))
          ⟨rest, endLine, c.endLine, none⟩ := by
        rw [plainRound, if_pos hcurly, if_pos hcustom]
        exact (gives_skipBlock hblock (Nat.succ_ne_zero _) _ _).bind (.pure _ _)
      have hround := gives_valueRound_of_none (room + 1) depth custom important hheads hsemicolon
        hblank endLine line opened p hb hplain
      exact (ih (hheads.suffix (List.suffix_cons _ _)) _ _).of_gives rfl fun _ _ =>
        hround.again (Nat.lt_succ_self _)
  | case6 important p c rest hsemicolon hblank hb hblock hcustom =>
      have hcurly := (head_eq_curly_iff (hheads c List.mem_cons_self)).2 hblock
      have hplain : Gives (plainRound (room + 1) depth custom important p c.head)
          ⟨rest, endLine, c.headLine, c.body?⟩ (.leave (p, true))
          ⟨rest, endLine, c.headLine, c.body?⟩ := by
        rw [plainRound, if_pos hcurly, if_neg hcustom]
        exact .pure _ _
      exact ⟨_, .leave (gives_valueRound_of_none (room + 1) depth custom important hheads hsemicolon
        hblank endLine line opened p hb hplain)⟩
  | case7 important p c rest hsemicolon hblank hb hblock q ih =>
      have hopens := hheads c List.mem_cons_self
      have hplain : Gives (plainRound (room + 1) depth custom important p c.head)
          ⟨rest, endLine, c.headLine, c.body?⟩ (.again (false, q.write room c))
          ⟨rest, endLine, c.endLine, none⟩ := by
        rw [plainRound, if_neg ((head_eq_curly_iff hopens).not.2 hblock)]
        exact (writes_writeToken hroom c rest endLine q hopens).bind (.pure _ _)
      have hround := gives_valueRound_of_none (room + 1) depth custom important hheads hsemicolon
        hblank endLine line opened p hb hplain
      exact (ih (hheads.suffix (List.suffix_cons _ _)) _ _).of_gives rfl fun _ _ =>
        hround.again (Nat.lt_succ_self _)

/-! ## Declarations -/

/-- What has been read as a declaration. -/
inductive Parsed
  | declared (property value : String)
  /-- Nothing of use. -/
  | dropped
  /-- No declaration. -/
  | refused

/-- Whether what has been read stays read. -/
def Parsed.isTaken : Parsed → Bool
  | refused => false
  | _ => true

/-- A round of skipping what has a name like a declaration, but no colon. -/
def skipDeclarationRound (_ : Unit) : Call (Round Unit (Parsed × List Notice)) := do
  match ← nextSolid with
  | none => return .leave (.dropped, [])
  | some t =>
    if t = .semicolon then return .leave (.dropped, [])
    else if t = .openBracket .curly then return .leave (.refused, [])
    else return .again ()

/-- Skips what has a name like a declaration, but no colon. -/
def skipDeclaration : Call (Parsed × List Notice) := loop skipDeclarationRound ()

/-- What a value makes of a declaration of `name`. -/
def parsedOf (name : String) (pen : Pen) (isRule : Bool) : Parsed :=
  if isRule then .refused
  else if pen.text == "" && !isCustomProperty name then .dropped
  else .declared (if isCustomProperty name then name else Text.asciiLower name) pen.text

/-- Reads the value of a declaration of `name`. -/
def readDeclared (levels depth : Nat) (name : String) : Call (Parsed × List Notice) := do
  let (pen, isRule) ← readValue levels depth (isCustomProperty name)
  return (parsedOf name pen isRule, pen.notices.reverse)

/-- Reads a declaration, and gives notices. -/
def readDeclaration (levels depth : Nat) : Call (Parsed × List Notice) := do
  match ← nextSolid with
  | some (.ident name) =>
    if (← nextSolid) = some .colon then readDeclared levels depth name else skipDeclaration
  | _ => return (.refused, [])

/-- Whether a call reads a declaration that ends in a given way. -/
def ReadsDeclaration (call : Call (Parsed × List Notice)) (v : View) : DeclarationEnd → Prop
  | .declared property value notices rest =>
    ∃ line, Gives call v (.declared property value, notices) ⟨rest, v.endLine, line, none⟩
  | .dropped notices line rest => Gives call v (.dropped, notices) ⟨rest, v.endLine, line, none⟩
  | .noDeclaration notices => ∃ w, Gives call v (.refused, notices) w

theorem ReadsDeclaration.of_gives {x y : Call (Parsed × List Notice)} {v w : View}
    {d : DeclarationEnd} (h : ReadsDeclaration x w d) (hend : w.endLine = v.endLine)
    (hstep : ∀ b u, Gives x w b u → Gives y v b u) : ReadsDeclaration y v d := by
  cases d with
  | declared property value notices rest =>
      obtain ⟨line, hline⟩ := h
      exact ⟨line, hend ▸ hstep _ _ hline⟩
  | dropped notices line rest =>
      rw [ReadsDeclaration, ← hend]
      exact hstep _ _ h
  | noDeclaration notices =>
      obtain ⟨u, hu⟩ := h
      exact ⟨u, hstep _ _ hu⟩

theorem skipDeclaration_dropBlanks (endLine : Nat) (cs : List Component) :
    Css.skipDeclaration endLine (dropBlanks cs) = Css.skipDeclaration endLine cs := by
  induction cs with
  | nil => rfl
  | cons c cs ih =>
      cases hblank : c.isBlank with
      | false => rw [dropBlanks, List.dropWhile_cons_of_neg (ne_true_of_eq_false hblank)]
      | true =>
          obtain ⟨line, rfl⟩ := eq_leaf_of_isBlank hblank
          exact ih

theorem readsDeclaration_skipDeclaration (cs : List Component) (hheads : WellHeaded cs)
    (endLine line : Nat) (opened : Option Body) :
    ReadsDeclaration skipDeclaration ⟨cs, endLine, line, opened⟩
      (Css.skipDeclaration endLine cs) := by
  induction hn : cs.length using Nat.strongRecOn generalizing cs line opened with
  | ind n ih =>
      have hle := length_dropBlanks_le cs
      -- A round passes over white space in front of a token, components are skipped one by one.
      rw [← skipDeclaration_dropBlanks]
      cases hcs : dropBlanks cs with
      | nil => exact .leave ((gives_nextSolid_nil hcs _ _ _).bind (.pure _ _))
      | cons c rest =>
          have hrest : WellHeaded (c :: rest) := hcs ▸ hheads.suffix (suffix_dropBlanks cs)
          have hopens := hrest c List.mem_cons_self
          have hnext := gives_nextSolid hcs endLine line opened
          by_cases hsemicolon : c.head = .semicolon
          · obtain ⟨sline, rfl⟩ := (head_eq_iff hopens rfl).1 hsemicolon
            exact .leave (hnext.bind (.pure _ _))
          have hplain : ∀ sline, c = .leaf .semicolon sline → False := by
            rintro _ rfl
            exact hsemicolon rfl
          by_cases hblock : c.isBlock = true
          · have hround : Gives (skipDeclarationRound ()) ⟨cs, endLine, line, opened⟩
                (.leave (.refused, [])) ⟨rest, endLine, c.headLine, c.body?⟩ := by
              refine hnext.bind ?_
              dsimp only
              rw [if_neg hsemicolon, if_pos ((head_eq_curly_iff hopens).2 hblock)]
              exact .pure _ _
            rw [Css.skipDeclaration, if_pos hblock]
            · exact ⟨_, hround.leave⟩
            · exact hplain
          · have hround : Gives (skipDeclarationRound ()) ⟨cs, endLine, line, opened⟩ (.again ())
                ⟨rest, endLine, c.headLine, c.body?⟩ := by
              refine hnext.bind ?_
              dsimp only
              rw [if_neg hsemicolon, if_neg ((head_eq_curly_iff hopens).not.2 hblock)]
              exact .pure _ _
            have hlt : rest.length < cs.length := by
              rw [hcs] at hle
              exact hle
            rw [Css.skipDeclaration, if_neg hblock]
            · exact (ih rest.length (hn ▸ hlt) rest (hrest.suffix (List.suffix_cons _ _)) _ _
                rfl).of_gives rfl fun _ _ => hround.again hlt
            · exact hplain

section

variable {room depth : Nat} (hroom : depth + room = nestingLimit)

include hroom

theorem readsDeclaration_readDeclared (name : String) (cs : List Component)
    (hheads : WellHeaded cs) (endLine line : Nat) (opened : Option Body) :
    ReadsDeclaration (readDeclared (room + 1) depth name) ⟨cs, endLine, line, opened⟩
      (declarationOf name endLine
        (Css.readValue room (isCustomProperty name) false cs .fresh)) := by
  have hvalue := readsValue hroom (isCustomProperty name) false cs hheads endLine line opened .fresh
  generalize Css.readValue room (isCustomProperty name) false cs .fresh = e at hvalue ⊢
  cases e with
  | ended pen semicolon rest =>
      have hread : Gives (readDeclared (room + 1) depth name) ⟨cs, endLine, line, opened⟩
          (parsedOf name pen false, pen.notices.reverse)
          ⟨rest, endLine, semicolon.getD endLine, none⟩ := hvalue.bind (.pure _ _)
      rw [declarationOf]
      split
      · next hempty =>
        rw [show parsedOf name pen false = .dropped from if_pos hempty] at hread
        exact hread
      · next hempty =>
        rw [show parsedOf name pen false = .declared _ _ from if_neg hempty] at hread
        exact ⟨_, hread⟩
  | nestedRule pen =>
      obtain ⟨w, hw⟩ := hvalue
      exact ⟨w, hw.bind (.pure _ _)⟩

/-- A declaration begins with a name, and what has no colon behind that is skipped. -/
theorem readsDeclaration {c : Component} {cs : List Component} (hheads : WellHeaded (c :: cs))
    (hsolid : c.isBlank = false) (endLine line : Nat) (opened : Option Body) :
    ReadsDeclaration (readDeclaration (room + 1) depth) ⟨c :: cs, endLine, line, opened⟩
      (Css.readDeclaration room (c :: cs) endLine) := by
  have hcs : dropBlanks (c :: cs) = c :: cs :=
    List.dropWhile_cons_of_neg (ne_true_of_eq_false hsolid)
  have hnext := gives_nextSolid hcs endLine line opened
  have hopens := hheads c List.mem_cons_self
  have htail := hheads.suffix (List.suffix_cons c cs)
  cases c with
  | group opener kind gline content contentEnd =>
      cases opener with
      | ident name => cases hopens
      | _ => exact ⟨_, hnext.bind (.pure _ _)⟩
  | leaf t nline =>
      cases t with
      | ident name =>
          rw [readDeclaration_ident]
          cases hrest : dropBlanks cs with
          | nil =>
              have hsecond := gives_nextSolid_nil hrest endLine nline none
              exact (readsDeclaration_skipDeclaration [] nofun endLine endLine none).of_gives rfl
                fun b u hb => hnext.bind (hsecond.bind hb)
          | cons d ds =>
              have hds : WellHeaded (d :: ds) := hrest ▸ htail.suffix (suffix_dropBlanks cs)
              have hsecond := gives_nextSolid hrest endLine nline none
              have htoken : d.isToken .colon = true ↔ d.head = .colon :=
                isToken_eq_true_iff (hds d List.mem_cons_self) rfl
              rw [List.head?_cons, Option.any_some, List.tail_cons]
              cases hcolon : d.isToken .colon with
              | true =>
                  refine (readsDeclaration_readDeclared hroom name ds
                    (hds.suffix (List.suffix_cons _ _)) endLine d.headLine d.body?).of_gives rfl
                      fun b u hb => hnext.bind (hsecond.bind ?_)
                  rw [if_pos (congrArg some (htoken.1 hcolon))]
                  exact hb
              | false =>
                  refine (readsDeclaration_skipDeclaration ds
                    (hds.suffix (List.suffix_cons _ _)) endLine d.headLine d.body?).of_gives rfl
                      fun b u hb => hnext.bind (hsecond.bind ?_)
                  rw [if_neg fun h => ne_true_of_eq_false hcolon (htoken.2 (Option.some.inj h))]
                  exact hb
      | _ => exact ⟨_, hnext.bind (.pure _ _)⟩

end

end Call

end FeatureScan.Css
