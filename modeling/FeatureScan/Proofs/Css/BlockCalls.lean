import FeatureScan.Proofs.Css.Flattening
import FeatureScan.Proofs.Css.ValueCalls

/-!
# Reading a style sheet by calls

A parser that stands in the tokens of a style sheet reads its rules, at-rules and blocks round by
round. A round of the loop through a block peeks at the next token, goes back, and reads what begins
there; what is refused as a declaration is read again as a rule. A round takes one step of the block,
so it has come nearer to the end, and all that stands inside a block has been read when the loop
through it is left.

## Main results

* `gives_readRule`, `gives_readAtRule`, `gives_readDeclarationOrRule`: what begins at a token.
* `gives_blockRound_cons`: a round of the loop through a block takes one step.
* `gives_readBlock`: a block is read to its end.
* `extract_without_mishap`: no style sheet brings about a mishap.
-/

namespace FeatureScan.Css

/-! ## Recording -/

theorem recordNotices_append (r : Recorder) (ns ms : List Notice) :
    r.recordNotices (ns ++ ms) = (r.recordNotices ns).recordNotices ms := List.foldl_append

theorem recordNotices_concat (r : Recorder) (ns : List Notice) (n : Notice) :
    r.recordNotices (ns ++ [n]) = (r.recordNotices ns).record (.notice n) :=
  recordNotices_append r ns [n]

/-- Notices in front of a step are recorded before it. -/
theorem recordStep_retry (inner : Setting → Body → Recorder → Recorder) (setting : Setting)
    (r : Recorder) (ns : List Notice) (step : Step) :
    recordStep inner setting r ⟨ns ++ step.notices, step.item, step.rest⟩ =
      recordStep inner setting (r.recordNotices ns) step := by
  rw [recordStep, recordStep, recordNotices_append]

namespace Call

/-! ## Rules and at-rules -/

section

variable (deeper : Setting → Recorder → Call Recorder) (levels depth : Nat)

/-- Reads a rule; `deeper` reads the blocks inside. -/
def readRule (r : Recorder) : Call Recorder := do
  let (pen, ending) ← readPrelude levels depth
  let line ← lineHere
  let r := r.recordNotices pen.notices.reverse
  match ending with
  | .block =>
    if nestingLimit ≤ depth then
      skipInside levels
      return r.record (.notice ⟨line, .tooDeep⟩)
    else if pen.text == "" then
      skipInside levels
      return r.record (.notice ⟨line, .blockWithoutSelector⟩)
    else
      let block := r.lastBlock + 1
      nested levels
        (deeper (.style pen.text block) (r.newBlock.record (.selector ⟨pen.text, block⟩)))
  | _ => return r.record (.notice ⟨line, .ruleWithoutBlock pen.text⟩)

/-- Reads the block of an at-rule that stands in a setting. -/
def readAtRuleBlock (outer : Setting) (keyword : String) (r : Recorder) : Call Recorder :=
  match atRuleSetting outer keyword (r.lastBlock + 1) with
  | .rules => nested levels (deeper .rules r)
  | .style selector block => nested levels (deeper (.style selector block) r.newBlock)

/-- Reads an at-rule that stands in a setting. -/
def readAtRule (outer : Setting) (r : Recorder) : Call Recorder := do
  match ← next with
  | some (.atKeyword name) =>
    let keyword := Text.asciiLower name
    let (pen, ending) ← readPrelude levels depth
    let line ← lineHere
    let r := r.recordNotices pen.notices.reverse
    match ending with
    | .block =>
      if nestingLimit ≤ depth then
        skipInside levels
        return (r.record (.notice ⟨line, .tooDeep⟩)).record (.atRule ⟨keyword, pen.text⟩)
      else readAtRuleBlock deeper levels outer keyword (r.record (.atRule ⟨keyword, pen.text⟩))
    | _ => return r.record (.atRule ⟨keyword, pen.text⟩)
  | _ => return r

/-- Whether a token among rules is passed over by itself. -/
def isStray : Token → Bool
  | .semicolon | .commentOpen | .commentClose | .closeBracket _ => true
  | _ => false

/-- A round of reading rules. -/
def rulesRound (r : Recorder) : Call (Round Recorder Recorder) := do
  skipBlanks
  -- All but a stray token is only peeked at: the round goes back in front of it.
  match ← attempt (Option.all isStray) next with
  | none => return .leave r
  | some (.atKeyword _) => return .again (← readAtRule deeper levels depth .rules r)
  | some .semicolon => return .again r
  | some .commentOpen => return .again r
  | some .commentClose => return .again r
  | some (.closeBracket b) =>
    return .again (r.record (.notice ⟨← lineHere, .strayCloser (String.singleton b.closer)⟩))
  | some _ => return .again (← readRule deeper levels depth r)

/-- Reads a declaration or, if it is none, a rule inside the block of a selector. -/
def readDeclarationOrRule (selector : String) (block : Nat) (r : Recorder) : Call Recorder := do
  let (parsed, notices) ← attempt (fun d => d.1.isTaken) (readDeclaration levels depth)
  let r := r.recordNotices notices
  match parsed with
  | .declared property value => return r.record (.declaration ⟨property, value, selector, block⟩)
  | .dropped => return r.record (.notice ⟨← lineHere, .invalidDeclaration selector⟩)
  | .refused => readRule deeper levels depth r

/-- A round of reading the block of a selector. -/
def styleRound (selector : String) (block : Nat) (r : Recorder) :
    Call (Round Recorder Recorder) := do
  skipBlanks
  match ← attempt (Option.all (· == .semicolon)) nextSolid with
  | none => return .leave r
  | some .semicolon => return .again r
  | some (.atKeyword _) =>
    return .again (← readAtRule deeper levels depth (.style selector block) r)
  | some _ => return .again (← readDeclarationOrRule deeper levels depth selector block r)

/-- A round of reading in a setting. -/
def blockRound : Setting → Recorder → Call (Round Recorder Recorder)
  | .rules => rulesRound deeper levels depth
  | .style selector block => styleRound deeper levels depth selector block

end

/-- Reads a block, around which `depth` brackets are open. -/
def readBlock (levels depth : Nat) (setting : Setting) : Recorder → Call Recorder :=
  let deeper :=
    match levels with
    | 0 => fun _ _ => throw .tooDeep
    | levels + 1 => readBlock levels (depth + 1)
  loop (blockRound deeper levels depth setting)

/-! ### What they record -/

section

variable {deeper : Setting → Recorder → Call Recorder} {room depth : Nat}
  (hroom : depth + room = nestingLimit)
  (hdeeper : room ≠ 0 → ∀ (setting : Setting) (body : Body) (line : Nat) (r : Recorder),
    Gives (deeper setting r) ⟨body.content, body.endLine, line, none⟩
      (readInside room setting body r) ⟨[], body.endLine, body.endLine, none⟩)

include hroom hdeeper

theorem gives_readRule (setting : Setting) (cs : List Component) (endLine line : Nat)
    (opened : Option Body) (r : Recorder) :
    ∃ line', Gives (readRule deeper (room + 1) depth r) ⟨cs, endLine, line, opened⟩
      (recordStep (readInside room) setting r (ruleStep room cs endLine))
      ⟨(ruleStep room cs endLine).rest, endLine, line', none⟩ := by
  have hprelude : Gives (readPrelude (room + 1) depth) _ _ _ :=
    gives_readPrelude hroom cs endLine line opened .fresh
  unfold ruleStep
  generalize Css.readPrelude room cs .fresh = prelude at hprelude ⊢
  obtain ⟨pen, ending, rest⟩ := prelude
  cases ending with
  | semicolon sline =>
      refine ⟨sline, hprelude.bind ((gives_lineHere _).bind ?_)⟩
      dsimp only [recordStep]
      rw [recordNotices_concat]
      exact .pure _ _
  | sourceEnd =>
      refine ⟨endLine, hprelude.bind ((gives_lineHere _).bind ?_)⟩
      dsimp only [recordStep]
      rw [recordNotices_concat]
      exact .pure _ _
  | block bline body =>
      -- The prelude has left the block to be entered, and asking for the line does not close it.
      refine ⟨body.endLine, hprelude.bind ((gives_lineHere _).bind ?_)⟩
      have hskip := gives_skipInside (Nat.succ_ne_zero room) body rest endLine bline
      dsimp only [endingOf, PreludeEnd.line, PreludeEnd.body?]
      by_cases hzero : room = 0
      · rw [if_pos (show nestingLimit ≤ depth by omega), if_pos hzero]
        dsimp only [recordStep]
        rw [recordNotices_concat]
        exact hskip.bind (.pure _ _)
      rw [if_neg (show ¬nestingLimit ≤ depth by omega), if_neg hzero]
      by_cases hempty : (pen.text == "") = true
      · rw [if_pos hempty, if_pos hempty]
        dsimp only [recordStep]
        rw [recordNotices_concat]
        exact hskip.bind (.pure _ _)
      · rw [if_neg hempty, if_neg hempty]
        exact gives_nested (Nat.succ_ne_zero room) (hdeeper hzero _ body bline _) rest endLine

omit hroom in
theorem gives_readAtRuleBlock (hzero : room ≠ 0) (outer : Setting) (keyword : String) (body : Body)
    (cs : List Component) (endLine line : Nat) (r : Recorder) :
    Gives (readAtRuleBlock deeper (room + 1) outer keyword r) ⟨cs, endLine, line, some body⟩
      (readAtRuleBody (readInside room) outer keyword body r)
      ⟨cs, endLine, body.endLine, none⟩ := by
  rw [readAtRuleBlock, readAtRuleBody]
  cases atRuleSetting outer keyword (r.lastBlock + 1) with
  | rules => exact gives_nested (Nat.succ_ne_zero room) (hdeeper hzero _ body line r) cs endLine
  | style selector block =>
      exact gives_nested (Nat.succ_ne_zero room) (hdeeper hzero _ body line _) cs endLine

theorem gives_readAtRule (outer : Setting) (name : String) (kline : Nat) (cs : List Component)
    (endLine line : Nat) (opened : Option Body) (r : Recorder) :
    ∃ line', Gives (readAtRule deeper (room + 1) depth outer r)
      ⟨.leaf (.atKeyword name) kline :: cs, endLine, line, opened⟩
      (recordStep (readInside room) outer r (atRuleStep room name cs))
      ⟨(atRuleStep room name cs).rest, endLine, line', none⟩ := by
  have hname := gives_next (.leaf (.atKeyword name) kline) cs endLine line opened
  have hprelude : Gives (readPrelude (room + 1) depth) _ _ _ :=
    gives_readPrelude hroom cs endLine kline none .fresh
  unfold atRuleStep
  generalize Css.readPrelude room cs .fresh = prelude at hprelude ⊢
  obtain ⟨pen, ending, rest⟩ := prelude
  cases ending with
  | semicolon sline =>
      exact ⟨sline, hname.bind (hprelude.bind ((gives_lineHere _).bind (.pure _ _)))⟩
  | sourceEnd =>
      exact ⟨endLine, hname.bind (hprelude.bind ((gives_lineHere _).bind (.pure _ _)))⟩
  | block bline body =>
      refine ⟨body.endLine, hname.bind (hprelude.bind ((gives_lineHere _).bind ?_))⟩
      dsimp only [endingOf, PreludeEnd.line, PreludeEnd.body?]
      by_cases hzero : room = 0
      · rw [if_pos (show nestingLimit ≤ depth by omega), if_pos hzero]
        dsimp only [recordStep]
        rw [recordNotices_concat]
        exact (gives_skipInside (Nat.succ_ne_zero room) body rest endLine bline).bind (.pure _ _)
      · rw [if_neg (show ¬nestingLimit ≤ depth by omega), if_neg hzero]
        exact gives_readAtRuleBlock hdeeper hzero outer _ body rest endLine bline _

/-- What is refused as a declaration is read again as a rule. -/
theorem gives_readDeclarationOrRule {c : Component} {cs : List Component}
    (hheads : WellHeaded (c :: cs)) (hsolid : c.isBlank = false) (selector : String) (block : Nat)
    (endLine line : Nat) (opened : Option Body) (r : Recorder) {step : Step}
    (hstep : step = declarationStep selector (ruleStep room (c :: cs) endLine)
      (Css.readDeclaration room (c :: cs) endLine)) :
    ∃ line', Gives (readDeclarationOrRule deeper (room + 1) depth selector block r)
      ⟨c :: cs, endLine, line, opened⟩ (recordStep (readInside room) (.style selector block) r step)
      ⟨step.rest, endLine, line', none⟩ := by
  have hdeclaration := readsDeclaration hroom hheads hsolid endLine line opened
  generalize Css.readDeclaration room (c :: cs) endLine = d at hdeclaration hstep
  subst hstep
  cases d with
  | declared property value notices rest =>
      obtain ⟨line', hread⟩ := hdeclaration
      exact ⟨line', (hread.attempt_of_worked rfl).bind (.pure _ _)⟩
  | dropped notices dline rest =>
      have hread : Gives (readDeclaration (room + 1) depth) _ _ _ := hdeclaration
      refine ⟨dline, (hread.attempt_of_worked rfl).bind ?_⟩
      dsimp only [declarationStep, recordStep]
      rw [recordNotices_concat]
      exact (gives_lineHere _).bind (.pure _ _)
  | noDeclaration notices =>
      obtain ⟨_, hread⟩ := hdeclaration
      obtain ⟨line', hrule⟩ := gives_readRule hroom hdeeper (.style selector block) (c :: cs) endLine
        line opened (r.recordNotices notices)
      refine ⟨line', (hread.attempt_of_not rfl).bind ?_⟩
      rw [declarationStep, recordStep_retry]
      exact hrule

omit hroom hdeeper in
theorem gives_blockRound_nil (setting : Setting) {cs : List Component} (h : dropBlanks cs = [])
    (endLine line : Nat) (opened : Option Body) (r : Recorder) :
    Gives (blockRound deeper (room + 1) depth setting r) ⟨cs, endLine, line, opened⟩ (.leave r)
      ⟨[], endLine, endLine, none⟩ := by
  have hskip := gives_skipBlanks ⟨cs, endLine, line, opened⟩
  rw [h] at hskip
  cases setting with
  | rules => exact hskip.bind (((gives_next_nil _ _ _).attempt_of_worked rfl).bind (.pure _ _))
  | style selector block =>
      exact hskip.bind (((gives_nextSolid_nil rfl _ _ _).attempt_of_worked rfl).bind (.pure _ _))

theorem gives_rulesRound {cs rest : List Component} {c : Component} (hcs : dropBlanks cs = c :: rest)
    (hheads : WellHeaded (c :: rest)) (endLine line : Nat) (opened : Option Body) (r : Recorder) :
    ∃ line', Gives (rulesRound deeper (room + 1) depth r) ⟨cs, endLine, line, opened⟩
      (.again (recordStep (readInside room) .rules r (rulesStep room c rest endLine)))
      ⟨(rulesStep room c rest endLine).rest, endLine, line', none⟩ := by
  have hskip := gives_skipBlanks ⟨cs, endLine, line, opened⟩
  rw [hcs] at hskip
  generalize View.settledLine _ = here at hskip
  have hnext := gives_next c rest endLine here none
  obtain ⟨line', hrule⟩ := gives_readRule hroom hdeeper .rules (c :: rest) endLine here none r
  cases c with
  | leaf t tline =>
      cases t with
      | atKeyword name =>
          obtain ⟨line', hat⟩ :=
            gives_readAtRule hroom hdeeper .rules name tline rest endLine here none r
          exact ⟨line', hskip.bind ((hnext.attempt_of_not rfl).bind (hat.bind (.pure _ _)))⟩
      | semicolon | commentOpen | commentClose =>
          exact ⟨tline, hskip.bind ((hnext.attempt_of_worked rfl).bind (.pure _ _))⟩
      | closeBracket b =>
          exact ⟨tline, hskip.bind ((hnext.attempt_of_worked rfl).bind
            ((gives_lineHere _).bind (.pure _ _)))⟩
      | _ => exact ⟨line', hskip.bind ((hnext.attempt_of_not rfl).bind (hrule.bind (.pure _ _)))⟩
  | group opener kind gline content contentEnd =>
      have hopens : opener.opens? = some kind := hheads _ List.mem_cons_self
      cases opener with
      | function _ | openBracket _ =>
          exact ⟨line', hskip.bind ((hnext.attempt_of_not rfl).bind (hrule.bind (.pure _ _)))⟩
      | _ => cases hopens

theorem gives_styleRound {cs rest : List Component} {c : Component} (hcs : dropBlanks cs = c :: rest)
    (hheads : WellHeaded (c :: rest)) (selector : String) (block endLine line : Nat)
    (opened : Option Body) (r : Recorder) :
    ∃ line', Gives (styleRound deeper (room + 1) depth selector block r)
      ⟨cs, endLine, line, opened⟩
      (.again (recordStep (readInside room) (.style selector block) r
        (styleStep room selector c rest endLine)))
      ⟨(styleStep room selector c rest endLine).rest, endLine, line', none⟩ := by
  have hsolid : c.isBlank = false := by
    have := List.head?_dropWhile_not Component.isBlank cs
    rw [← dropBlanks, hcs] at this
    simpa using this
  have hskip := gives_skipBlanks ⟨cs, endLine, line, opened⟩
  rw [hcs] at hskip
  generalize View.settledLine _ = here at hskip
  have hnext := gives_nextSolid
    (List.dropWhile_cons_of_neg (ne_true_of_eq_false hsolid) : dropBlanks (c :: rest) = c :: rest)
    endLine here none
  obtain ⟨line', hread⟩ := gives_readDeclarationOrRule hroom hdeeper hheads hsolid selector block
    endLine here none r rfl
  rw [styleStep_eq]
  cases c with
  | leaf t tline =>
      cases t with
      | atKeyword name =>
          obtain ⟨line', hat⟩ := gives_readAtRule hroom hdeeper (.style selector block) name tline
            rest endLine here none r
          exact ⟨line', hskip.bind ((hnext.attempt_of_not rfl).bind (hat.bind (.pure _ _)))⟩
      | semicolon => exact ⟨tline, hskip.bind ((hnext.attempt_of_worked rfl).bind (.pure _ _))⟩
      | _ => exact ⟨line', hskip.bind ((hnext.attempt_of_not rfl).bind (hread.bind (.pure _ _)))⟩
  | group opener kind gline content contentEnd =>
      have hopens : opener.opens? = some kind := hheads _ List.mem_cons_self
      cases opener with
      | function _ | openBracket _ =>
          exact ⟨line', hskip.bind ((hnext.attempt_of_not rfl).bind (hread.bind (.pure _ _)))⟩
      | _ => cases hopens

/-- A round takes one step. -/
theorem gives_blockRound_cons (setting : Setting) {cs rest : List Component} {c : Component}
    (hcs : dropBlanks cs = c :: rest) (hheads : WellHeaded (c :: rest)) (endLine line : Nat)
    (opened : Option Body) (r : Recorder) :
    ∃ line', Gives (blockRound deeper (room + 1) depth setting r) ⟨cs, endLine, line, opened⟩
      (.again (recordStep (readInside room) setting r (nextStep room setting c rest endLine)))
      ⟨(nextStep room setting c rest endLine).rest, endLine, line', none⟩ := by
  cases setting with
  | rules => exact gives_rulesRound hroom hdeeper hcs hheads endLine line opened r
  | style selector block =>
      exact gives_styleRound hroom hdeeper hcs hheads selector block endLine line opened r

theorem gives_blockRounds (setting : Setting) (cs : List Component) (hheads : WellHeaded cs)
    (endLine line : Nat) (opened : Option Body) (r : Recorder) :
    Gives (loop (blockRound deeper (room + 1) depth setting) r) ⟨cs, endLine, line, opened⟩
      (readRest room setting endLine cs r) ⟨[], endLine, endLine, none⟩ := by
  -- By induction on how many components are ahead, since a step may take any number of them.
  induction hn : cs.length using Nat.strongRecOn generalizing cs line opened r with
  | ind n ih =>
      cases hcs : dropBlanks cs with
      | nil =>
          rw [readRest_nil hcs]
          exact (gives_blockRound_nil setting hcs endLine line opened r).leave
      | cons c rest =>
          have hrest : WellHeaded (c :: rest) := hcs ▸ hheads.suffix (suffix_dropBlanks cs)
          obtain ⟨line', hround⟩ :=
            gives_blockRound_cons hroom hdeeper setting hcs hrest endLine line opened r
          have hle := length_dropBlanks_le cs
          have hlt := length_rest_nextStep_lt room setting c rest endLine
          rw [hcs] at hle
          rw [readRest_cons hcs]
          exact hround.again (Nat.lt_of_lt_of_le hlt hle) (ih _ (by omega) _
            (hrest.suffix (nextStep_takes room setting c rest endLine).suffix) _ _ _ rfl)

end

theorem gives_readBlock {room depth : Nat} (hroom : depth + room = nestingLimit)
    (setting : Setting) (body : Body) (line : Nat) (r : Recorder) :
    Gives (readBlock (room + 1) depth setting r) ⟨body.content, body.endLine, line, none⟩
      (readBody room setting body r) ⟨[], body.endLine, body.endLine, none⟩ := by
  rw [readBody_eq]
  refine .of_wellHeaded fun hheads => ?_
  -- A block inside has one level less, and where there is no room for one it is passed over.
  induction room generalizing depth setting body line r with
  | zero =>
      exact gives_blockRounds hroom (fun h => absurd rfl h) setting _ hheads _ _ _ _
  | succ room ih =>
      refine gives_blockRounds hroom (fun _ setting body line r => ?_) setting _ hheads _ _ _ _
      rw [readInside, readBody_eq]
      exact .of_wellHeaded fun hheads => ih (by omega) setting body line r hheads

/-- How many brackets may be entered one inside the other: those that may be nested, and one that is
passed over inside the innermost of them. -/
def levelLimit : Nat := nestingLimit + 1

/-- Everything found in a style sheet that is read by calls. -/
def extract (source : String) : Except Mishap Extraction :=
  let (ts, last) := tokens source.toList
  (readBlock levelLimit 0 .rules .start ⟨ts, last, none, 1, none⟩).map fun r =>
    .ofEvents r.1.found

end Call

/-- No style sheet brings about a mishap. Each bracket that is entered was opened by the token handed
out last, and all that stands in it has been read when it is left; every round of a loop takes tokens
away or leaves the loop; and never more than `levelLimit` brackets are entered one inside the other.
So nothing is lost on the way, and reading by calls finds what is read from the nested style sheet. -/
theorem extract_without_mishap (source : String) : Call.extract source = .ok (extract source) := by
  have hread : Gives (Call.readBlock Call.levelLimit 0 .rules .start) _ _ _ :=
    Call.gives_readBlock (Nat.zero_add nestingLimit) .rules (Body.ofText source.toList) 1 .start
  obtain ⟨c, hc, -⟩ := hread _ none [] _ (.settled 1 (lays_ofText source.toList))
  rw [Call.extract]
  dsimp only
  rw [hc]
  rfl

end FeatureScan.Css
