import FeatureScan.Css.Phrase

/-!
# Steps through a block

The content of a style sheet or block is read step by step. A step takes a declaration, a rule or an
at-rule from the front, or skips what is none of them, and says what is left.

## Main results

* `length_rest_nextStep_lt`: every step takes something away, so a block is read in finitely many.
-/

namespace FeatureScan.Css

/-- Where components stand: among rules, or inside a block of declarations that belongs to
a selector. -/
inductive Setting
  | rules
  | style (selector : String) (block : Nat)
  deriving DecidableEq, Repr

/-- What a step found. The line of a block is the one behind its opening bracket. -/
inductive Item
  | declaration (property value : String)
  | rule (selector : String) (line : Nat) (body : Body)
  | atRule (keyword prelude : String) (body : Option Body)
  deriving Repr

/-- The outcome of a step. -/
structure Step where
  /-- The notices given, in order. -/
  notices : List Notice
  /-- What was found. -/
  item : Option Item
  /-- The components behind it. -/
  rest : List Component

/-! ## Rules and at-rules -/

/-- Reads a rule: a selector and a block. -/
def ruleStep (room : Nat) (cs : List Component) (endLine : Nat) : Step :=
  let (pen, ending, rest) := readPrelude room cs .fresh
  let notices := pen.notices.reverse
  let selector := pen.text
  match ending with
  | .semicolon line => ⟨notices ++ [⟨line, .ruleWithoutBlock selector⟩], none, rest⟩
  | .sourceEnd => ⟨notices ++ [⟨endLine, .ruleWithoutBlock selector⟩], none, rest⟩
  | .block line body =>
    if room = 0 then ⟨notices ++ [⟨line, .tooDeep⟩], none, rest⟩
    else if selector == "" then ⟨notices ++ [⟨line, .blockWithoutSelector⟩], none, rest⟩
    else ⟨notices, some (.rule selector line body), rest⟩

/-- Reads an at-rule behind its keyword. A block that is nested too deeply is skipped, the at-rule
itself stays. -/
def atRuleStep (room : Nat) (name : String) (cs : List Component) : Step :=
  let (pen, ending, rest) := readPrelude room cs .fresh
  let notices := pen.notices.reverse
  let keyword := Text.asciiLower name
  match ending with
  | .block line body =>
    if room = 0 then ⟨notices ++ [⟨line, .tooDeep⟩], some (.atRule keyword pen.text none), rest⟩
    else ⟨notices, some (.atRule keyword pen.text (some body)), rest⟩
  | _ => ⟨notices, some (.atRule keyword pen.text none), rest⟩

/-! ## Declarations -/

/-- How reading a declaration ended. -/
inductive DeclarationEnd
  | declared (property value : String) (notices : List Notice) (rest : List Component)
  /-- Nothing of use, skipped through the semicolon or end on `line`. -/
  | dropped (notices : List Notice) (line : Nat) (rest : List Component)
  /-- A rule, to be read again as such. -/
  | noDeclaration (notices : List Notice)

/-- Skips through a semicolon, unless a block comes first. -/
def skipDeclaration (endLine : Nat) : List Component → DeclarationEnd
  | [] => .dropped [] endLine []
  | .leaf .semicolon line :: rest => .dropped [] line rest
  | c :: rest => if c.isBlock then .noDeclaration [] else skipDeclaration endLine rest

/-- Whether a property is the author's own. -/
def isCustomProperty (name : String) : Bool := Text.hasFront ['-', '-'] name.toList

/-- Reads a declaration: a name, a colon and a value. What stands in the place of the colon is
passed over, whatever it is, when the rest is skipped. -/
def readDeclaration (room : Nat) (cs : List Component) (endLine : Nat) : DeclarationEnd :=
  match cs with
  | .leaf (.ident name) _ :: rest =>
    match dropBlanks rest with
    | .leaf .colon _ :: rest =>
      let custom := isCustomProperty name
      match readValue room custom false rest .fresh with
      | .nestedRule pen => .noDeclaration pen.notices.reverse
      | .ended pen semicolon rest =>
        let value := pen.text
        if value == "" && !custom then
          .dropped pen.notices.reverse (semicolon.getD endLine) rest
        else
          .declared (if custom then name else Text.asciiLower name) value pen.notices.reverse rest
    | rest => skipDeclaration endLine rest.tail
  | _ => .noDeclaration []

/-! ## One step -/

/-- A step among rules. -/
def rulesStep (room : Nat) (c : Component) (cs : List Component) (endLine : Nat) : Step :=
  match c with
  | .leaf (.atKeyword name) _ => atRuleStep room name cs
  | .leaf .semicolon _ => ⟨[], none, cs⟩
  | .leaf .commentOpen _ => ⟨[], none, cs⟩
  | .leaf .commentClose _ => ⟨[], none, cs⟩
  | .leaf (.closeBracket b) line => ⟨[⟨line, .strayCloser (String.singleton b.closer)⟩], none, cs⟩
  | c => ruleStep room (c :: cs) endLine

/-- A step inside the block of a selector. -/
def styleStep (room : Nat) (selector : String) (c : Component) (cs : List Component)
    (endLine : Nat) : Step :=
  match c with
  | .leaf (.atKeyword name) _ => atRuleStep room name cs
  | .leaf .semicolon _ => ⟨[], none, cs⟩
  | c =>
    match readDeclaration room (c :: cs) endLine with
    | .declared property value notices rest => ⟨notices, some (.declaration property value), rest⟩
    | .dropped notices line rest => ⟨notices ++ [⟨line, .invalidDeclaration selector⟩], none, rest⟩
    | .noDeclaration notices =>
      let step := ruleStep room (c :: cs) endLine
      { step with notices := notices ++ step.notices }

/-- A step that starts at `c`, which is no white space. -/
def nextStep (room : Nat) (setting : Setting) (c : Component) (cs : List Component)
    (endLine : Nat) : Step :=
  match setting with
  | .rules => rulesStep room c cs endLine
  | .style selector _ => styleStep room selector c cs endLine

/-! ## Every step takes something away -/

theorem rest_ruleStep (room : Nat) (cs : List Component) (endLine : Nat) :
    (ruleStep room cs endLine).rest = (readPrelude room cs .fresh).2.2 := by
  unfold ruleStep
  split
  rename_i h
  simp only [h]
  split
  · rfl
  · rfl
  · split
    · rfl
    · split <;> rfl

theorem rest_atRuleStep (room : Nat) (name : String) (cs : List Component) :
    (atRuleStep room name cs).rest = (readPrelude room cs .fresh).2.2 := by
  unfold atRuleStep
  split
  rename_i h
  simp only [h]
  split
  · split <;> rfl
  · rfl

theorem length_rest_readValue_le {room : Nat} {custom important : Bool} {cs : List Component}
    {p pen : Pen} {semicolon : Option Nat} {rest : List Component}
    (h : readValue room custom important cs p = .ended pen semicolon rest) :
    rest.length ≤ cs.length := by
  fun_induction readValue room custom important cs p with
  | case1 => cases h; simp
  | case2 => cases h; simp
  | case3 _ _ _ _ ih => exact Nat.le_succ_of_le (ih h)
  | case4 _ _ _ _ _ _ _ hb ih =>
    have := length_afterImportant?_lt hb
    have := ih h
    simp; omega
  | case5 _ _ _ _ _ _ _ _ _ ih => exact Nat.le_succ_of_le (ih h)
  | case6 => cases h
  | case7 _ _ _ _ _ _ _ _ _ ih => exact Nat.le_succ_of_le (ih h)

/-- The components that a declaration leaves. -/
def DeclarationEnd.rest? : DeclarationEnd → Option (List Component)
  | declared _ _ _ rest => some rest
  | dropped _ _ rest => some rest
  | noDeclaration _ => none

theorem length_rest_skipDeclaration_le (endLine : Nat) (cs : List Component) {rest : List Component}
    (h : (skipDeclaration endLine cs).rest? = some rest) : rest.length ≤ cs.length := by
  fun_induction skipDeclaration endLine cs with
  | case1 => cases h; simp
  | case2 => cases h; simp
  | case3 => cases h
  | case4 _ _ _ _ ih => exact Nat.le_succ_of_le (ih h)

theorem length_rest_readDeclaration_lt {room : Nat} {cs : List Component} {endLine : Nat}
    {rest : List Component} (h : (readDeclaration room cs endLine).rest? = some rest) :
    rest.length < cs.length := by
  unfold readDeclaration at h
  split at h
  · rename_i name _ tail
    have hle := length_dropBlanks_le tail
    split at h
    · rename_i heq
      rw [heq] at hle
      simp only [List.length_cons] at hle ⊢
      dsimp only at h
      split at h
      · cases h
      · rename_i hv
        have := length_rest_readValue_le hv
        split at h <;> cases h <;> omega
    · have := length_rest_skipDeclaration_le endLine _ h
      simp only [List.length_tail, List.length_cons] at this ⊢
      omega
  · cases h

theorem length_rest_ruleStep_lt (room : Nat) (c : Component) (cs : List Component) (endLine : Nat) :
    (ruleStep room (c :: cs) endLine).rest.length < (c :: cs).length := by
  rw [rest_ruleStep]
  exact length_readPrelude_lt room c cs .fresh

theorem length_rest_atRuleStep_lt (room : Nat) (name : String) (c : Component)
    (cs : List Component) :
    (atRuleStep room name cs).rest.length < (c :: cs).length := by
  rw [rest_atRuleStep]
  exact Nat.lt_succ_of_le (length_readPrelude_le room cs .fresh)

/-- A step leaves less than it was given. -/
theorem length_rest_nextStep_lt (room : Nat) (setting : Setting) (c : Component)
    (cs : List Component) (endLine : Nat) :
    (nextStep room setting c cs endLine).rest.length < (c :: cs).length := by
  cases setting with
  | rules =>
    simp only [nextStep]
    unfold rulesStep
    split <;> first
      | exact length_rest_atRuleStep_lt room _ _ cs
      | exact length_rest_ruleStep_lt room _ cs endLine
      | simp
  | style selector block =>
    simp only [nextStep]
    unfold styleStep
    split
    · exact length_rest_atRuleStep_lt room _ _ cs
    · simp
    · split
      · rename_i h
        exact length_rest_readDeclaration_lt (by rw [h]; rfl)
      · rename_i h
        exact length_rest_readDeclaration_lt (by rw [h]; rfl)
      · exact length_rest_ruleStep_lt room _ cs endLine

/-! ## All steps of a block -/

/-- The steps through components; `done` holds those taken, in reverse. -/
def stepsFrom (room : Nat) (setting : Setting) (endLine : Nat) (done : List Step)
    (cs : List Component) : List Step :=
  match _h : dropBlanks cs with
  | [] => done.reverse
  | c :: rest =>
    let step := nextStep room setting c rest endLine
    stepsFrom room setting endLine (step :: done) step.rest
termination_by cs.length
decreasing_by
  have h₁ := length_dropBlanks_le cs
  have h₂ := length_rest_nextStep_lt room setting c rest endLine
  rw [_h] at h₁
  simp only [List.length_cons] at h₁ h₂ ⊢
  omega

/-- The steps through the content of a block where `room` further levels of nesting are allowed. -/
def steps (room : Nat) (setting : Setting) (body : Body) : List Step :=
  stepsFrom room setting body.endLine [] body.content

end FeatureScan.Css
