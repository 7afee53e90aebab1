import FeatureScan.Proofs.Css.Flattening
import FeatureScan.Proofs.Css.ValueText

/-!
# A block of declarations in one pass

The reader of a block tries a declaration first, and goes back and reads a rule where that fails. One
pass from the left would split the block at what comes first behind the front of an item, a semicolon
or a block. The reader does the same but for two slips. Where a name is followed by a semicolon or a
block at once, it passes over that one when it looks for the end of the item, unless another block
comes before the next semicolon. And of several `!important`s in a row in front of the end of a value
it writes one.

## Main results

* `readPrelude_eq`: a prelude, in one look at what stands in front of the first semicolon or block.
* `styleStep_split`: what a step through a block takes.
* `readBody_onePass`: a block is split as in one pass where no slip is met.
* `readBody_swallowed_ne`: a nested rule is lost.
-/

namespace FeatureScan.Css

/-! ## One pass -/

/-- The components in front of the first semicolon or block. -/
def beforeClosing (cs : List Component) : List Component := cs.takeWhile fun c => !c.closes

/-- The components from the first semicolon or block. -/
def fromClosing (cs : List Component) : List Component := cs.dropWhile fun c => !c.closes

/-- The text of a selector or prelude. -/
def phraseText (room : Nat) (cs : List Component) : String := (Pen.writeAll room cs .fresh).text

/-- Splits off a nested rule, through its first semicolon or block. It is dropped if it has no block,
if it has no selector, or if there is no room for its block. -/
def ruleOff (room : Nat) (cs : List Component) : Option Item × List Component :=
  match fromClosing cs with
  | .group _ _ line content endLine :: rest =>
    let selector := phraseText room (beforeClosing cs)
    (if room = 0 || selector == "" then none else some (.rule selector line ⟨content, endLine⟩), rest)
  | rest => (none, rest.tail)

/-- Splits off an at-rule behind its keyword, through its first semicolon or block. -/
def atRuleOff (room : Nat) (name : String) (cs : List Component) : Option Item × List Component :=
  let keyword := Text.asciiLower name
  let prelude := phraseText room (beforeClosing cs)
  match fromClosing cs with
  | .group _ _ _ content endLine :: rest =>
    (some (.atRule keyword prelude (if room = 0 then none else some ⟨content, endLine⟩)), rest)
  | rest => (some (.atRule keyword prelude none), rest.tail)

/-- A declaration. It is dropped if it has no value and its property is not the author's own. -/
def declarationOff (name value : String) : Option Item :=
  if value == "" && !isCustomProperty name then none
  else some (.declaration (if isCustomProperty name then name else Text.asciiLower name) value)

/-- Splits off the item that starts at `c`; `value` tells the text of a value. A name and a colon
start a declaration, unless a block comes before the next semicolon and the property is not the
author's own. Another name is dropped through the next semicolon, unless a block comes before it. -/
def splitOff (value : List Component → String) (room : Nat) (c : Component) (cs : List Component) :
    Option Item × List Component :=
  match c with
  | .leaf (.atKeyword name) _ => atRuleOff room name cs
  | .leaf .semicolon _ => (none, cs)
  | .leaf (.ident name) _ =>
    match dropBlanks cs with
    | .leaf .colon _ :: v =>
      if isCustomProperty name || !(beforeSemicolon v).any Component.isBlock then
        (declarationOff name (value (beforeSemicolon v)), behindSemicolon v)
      else ruleOff room (c :: cs)
    | v =>
      if (beforeSemicolon v).any Component.isBlock then ruleOff room (c :: cs)
      else (none, behindSemicolon v)
  | c => ruleOff room (c :: cs)

theorem length_behindSemicolon_le (cs : List Component) :
    (behindSemicolon cs).length ≤ cs.length := by
  rw [behindSemicolon, List.length_tail]
  exact Nat.le_trans (Nat.sub_le _ _) (List.dropWhile_sublist _).length_le

theorem length_tail_fromClosing_le (cs : List Component) :
    (fromClosing cs).tail.length ≤ cs.length - 1 := by
  rw [List.length_tail]
  exact Nat.sub_le_sub_right (List.dropWhile_sublist _).length_le 1

theorem ruleOff_snd (room : Nat) (cs : List Component) :
    (ruleOff room cs).2 = (fromClosing cs).tail := by
  unfold ruleOff
  split
  · rename_i heq
    rw [heq]
    rfl
  · rfl

theorem atRuleOff_snd (room : Nat) (name : String) (cs : List Component) :
    (atRuleOff room name cs).2 = (fromClosing cs).tail := by
  unfold atRuleOff
  dsimp only
  split
  · rename_i heq
    rw [heq]
    rfl
  · rfl

/-- An item takes something away. -/
theorem length_splitOff_lt (value : List Component → String) (room : Nat) (c : Component)
    (cs : List Component) : (splitOff value room c cs).2.length < (c :: cs).length := by
  have hrule : (ruleOff room (c :: cs)).2.length < (c :: cs).length := by
    rw [ruleOff_snd]
    exact Nat.lt_succ_of_le (length_tail_fromClosing_le (c :: cs))
  have hdrop := length_dropBlanks_le cs
  unfold splitOff
  split
  · rw [atRuleOff_snd]
    exact Nat.lt_succ_of_le (Nat.le_trans (length_tail_fromClosing_le cs) (Nat.sub_le _ _))
  · exact Nat.lt_succ_self _
  · split
    · rename_i v heq
      rw [heq, List.length_cons] at hdrop
      split
      · have hle := length_behindSemicolon_le v
        exact Nat.lt_succ_of_le (Nat.le_trans hle (Nat.le_of_succ_le hdrop))
      · exact hrule
    · split
      · exact hrule
      · exact Nat.lt_succ_of_le (Nat.le_trans (length_behindSemicolon_le _) hdrop)
  · exact hrule

/-- The items of a block, split in one pass. -/
def itemsOf (room : Nat) (cs : List Component) : List Item :=
  match _h : dropBlanks cs with
  | [] => []
  | c :: rest =>
    let split := splitOff (keptText room) room c rest
    split.1.toList ++ itemsOf room split.2
termination_by cs.length
decreasing_by
  have hle := length_dropBlanks_le cs
  rw [_h] at hle
  exact Nat.lt_of_lt_of_le (length_splitOff_lt _ room c rest) hle

/-! ## The slips -/

/-- Whether a name is followed by a semicolon or block that the reader passes over. -/
def swallows (c : Component) (cs : List Component) : Bool :=
  match c, dropBlanks cs with
  | .leaf (.ident _) _, d :: v => d.closes && !(beforeSemicolon v).any Component.isBlock
  | _, _ => false

/-- Whether a declaration starts at `c` with an `!important` that is followed by another and is not
at the end. -/
def stutters (c : Component) (cs : List Component) : Bool :=
  match c, dropBlanks cs with
  | .leaf (.ident name) _, .leaf .colon _ :: v =>
    (isCustomProperty name || !(beforeSemicolon v).any Component.isBlock) &&
      repeats (pieces (beforeSemicolon v))
  | _, _ => false

/-- A block where no item that one pass splits off meets a slip. -/
inductive Undisturbed (room : Nat) : List Component → Prop
  | nil {cs : List Component} (h : dropBlanks cs = []) : Undisturbed room cs
  | cons {cs rest : List Component} {c : Component} (h : dropBlanks cs = c :: rest)
      (hswallows : swallows c rest = false) (hstutters : stutters c rest = false)
      (hrest : Undisturbed room (splitOff (keptText room) room c rest).2) : Undisturbed room cs

/-! ## What a step takes -/

/-- What a step finds, and what it leaves. -/
def Step.split (s : Step) : Option Item × List Component := (s.item, s.rest)

theorem fromClosing_cons {c : Component} (hc : c.closes = false) (cs : List Component) :
    fromClosing (c :: cs) = fromClosing cs := by
  rw [fromClosing, List.dropWhile_cons, hc]
  rfl

/-- A prelude, in one look at what stands in front of the first semicolon or block. -/
theorem readPrelude_eq (room : Nat) (cs : List Component) (p : Pen) :
    readPrelude room cs p =
      match fromClosing cs with
      | .group _ _ line content endLine :: rest =>
        (Pen.writeAll room (beforeClosing cs) p, .block line ⟨content, endLine⟩, rest)
      | .leaf _ line :: rest => (Pen.writeAll room (beforeClosing cs) p, .semicolon line, rest)
      | [] => (Pen.writeAll room (beforeClosing cs) p, .sourceEnd, []) := by
  induction cs generalizing p with
  | nil =>
      rw [readPrelude, beforeClosing, List.takeWhile_nil, writeAll_nil]
      rfl
  | cons c cs ih =>
      rcases hc : c.closes with _ | _
      · have hbefore : beforeClosing (c :: cs) = c :: beforeClosing cs := by
          rw [beforeClosing, List.takeWhile_cons, hc]
          rfl
        rw [readPrelude_pass hc, fromClosing_cons hc, hbefore, writeAll_cons]
        exact ih _
      · have hfrom : fromClosing (c :: cs) = c :: cs := by
          rw [fromClosing, List.dropWhile_cons, hc]
          rfl
        have hbefore : beforeClosing (c :: cs) = [] := by
          rw [beforeClosing, List.takeWhile_cons, hc]
          rfl
        rw [hfrom, hbefore, writeAll_nil]
        cases c with
        | leaf t line =>
            obtain rfl : t = .semicolon := beq_iff_eq.1 hc
            rw [readPrelude]
        | group opener kind line content endLine =>
            cases kind with
            | curly => rw [readPrelude]
            | round | square => cases hc

theorem ruleStep_split (room : Nat) (cs : List Component) (endLine : Nat) :
    (ruleStep room cs endLine).split = ruleOff room cs := by
  unfold ruleStep ruleOff phraseText
  rw [readPrelude_eq]
  cases fromClosing cs with
  | nil => rfl
  | cons c rest =>
      cases c with
      | leaf t line => rfl
      | group opener kind line content l =>
          dsimp only
          by_cases hroom : room = 0
          · rw [if_pos hroom, if_pos]
            · rfl
            · rw [decide_eq_true hroom, Bool.true_or]
          · rw [if_neg hroom, decide_eq_false hroom, Bool.false_or]
            split <;> rfl

theorem atRuleStep_split (room : Nat) (name : String) (cs : List Component) :
    (atRuleStep room name cs).split = atRuleOff room name cs := by
  unfold atRuleStep atRuleOff phraseText
  rw [readPrelude_eq]
  cases fromClosing cs with
  | nil => rfl
  | cons c rest =>
      cases c with
      | leaf t line => rfl
      | group opener kind line content l =>
          dsimp only
          split <;> rfl

/-- A declaration is skipped through its semicolon, unless a block comes first. -/
theorem skipDeclaration_eq (endLine : Nat) (cs : List Component) :
    (beforeSemicolon cs).any Component.isBlock = true ∧
        skipDeclaration endLine cs = .noDeclaration [] ∨
      (beforeSemicolon cs).any Component.isBlock = false ∧
        ∃ line, skipDeclaration endLine cs = .dropped [] line (behindSemicolon cs) := by
  fun_induction skipDeclaration endLine cs with
  | case1 => exact .inr ⟨rfl, endLine, rfl⟩
  | case2 line rest => exact .inr ⟨rfl, line, rfl⟩
  | case3 c rest hsemi hblock =>
      have hc : c.isToken .semicolon = false :=
        Bool.eq_false_iff.2 fun h => (eq_leaf_of_isToken h).elim hsemi
      rw [beforeSemicolon_cons hc, List.any_cons, hblock]
      exact .inl ⟨rfl, rfl⟩
  | case4 c rest hsemi hblock ih =>
      have hc : c.isToken .semicolon = false :=
        Bool.eq_false_iff.2 fun h => (eq_leaf_of_isToken h).elim hsemi
      rw [beforeSemicolon_cons hc, behindSemicolon_cons hc, List.any_cons,
        Bool.eq_false_iff.2 hblock]
      exact ih

/-- What a colon, or something else, makes of a name. -/
theorem splitOff_ident (value : List Component → String) (room : Nat) (name : String) (line : Nat)
    (cs : List Component) :
    splitOff value room (.leaf (.ident name) line) cs =
      match (dropBlanks cs).head?.any (Component.isToken .colon) with
      | true =>
        if isCustomProperty name ||
            !(beforeSemicolon (dropBlanks cs).tail).any Component.isBlock then
          (declarationOff name (value (beforeSemicolon (dropBlanks cs).tail)),
            behindSemicolon (dropBlanks cs).tail)
        else ruleOff room (.leaf (.ident name) line :: cs)
      | false =>
        if (beforeSemicolon (dropBlanks cs)).any Component.isBlock then
          ruleOff room (.leaf (.ident name) line :: cs)
        else (none, behindSemicolon (dropBlanks cs)) := by
  rw [splitOff]
  cases dropBlanks cs with
  | nil => rfl
  | cons d v =>
      cases d with
      | leaf t l => cases t <;> rfl
      | group => rfl

theorem swallows_ident (name : String) (line : Nat) (cs : List Component) :
    swallows (.leaf (.ident name) line) cs =
      ((dropBlanks cs).head?.any Component.closes &&
        !(beforeSemicolon (dropBlanks cs).tail).any Component.isBlock) := by
  unfold swallows
  cases dropBlanks cs <;> rfl

/-- White space ends no item. -/
theorem fromClosing_of_dropBlanks {cs v : List Component} {d : Component}
    (h : dropBlanks cs = d :: v) (hd : d.closes = true) : fromClosing cs = d :: v := by
  have hfront : ∀ x ∈ cs.takeWhile Component.isBlank, (!x.closes) = true := by
    intro x hx
    rw [closes_takeWhile_isBlank cs x hx]
    rfl
  rw [← List.takeWhile_append_dropWhile (p := Component.isBlank) (l := cs), fromClosing,
    List.dropWhile_append_of_pos hfront]
  change (dropBlanks cs).dropWhile _ = _
  rw [h, List.dropWhile_cons, hd]
  rfl

theorem declarationStep_split_ended (selector : String) (retry : Step) (name : String)
    (endLine : Nat) (pen : Pen) (semicolon : Option Nat) (rest : List Component) :
    (declarationStep selector retry
      (declarationOf name endLine (.ended pen semicolon rest))).split =
        (declarationOff name pen.text, rest) := by
  unfold declarationOf declarationOff
  dsimp only
  split <;> rfl

/-- What is taken behind a name and a colon. -/
theorem declarationStep_split_coloned (room : Nat) (selector : String) (retry : Step) (name : String)
    (endLine : Nat) (v : List Component) :
    (declarationStep selector retry (declarationOf name endLine
        (readValue room (isCustomProperty name) false v .fresh))).split =
      if isCustomProperty name || !(beforeSemicolon v).any Component.isBlock then
        (declarationOff name (valueText room (beforeSemicolon v)), behindSemicolon v)
      else retry.split := by
  rcases readValue_eq room (isCustomProperty name) false v .fresh with
    ⟨hcond, semicolon, hread⟩ | ⟨hcond, pen, hread⟩
  · rw [hread, hcond, if_pos rfl, declarationStep_split_ended, text_writeHolding]
    rfl
  · rw [hread, hcond, if_neg Bool.false_ne_true]
    rfl

/-- What is taken behind a name without a colon, where `d` is what comes next. -/
theorem declarationStep_split_uncoloned {room : Nat} {retry : Step} {name : String} {line : Nat}
    {cs v : List Component} {d : Component} (hdrop : dropBlanks cs = d :: v)
    (hretry : retry.split = ruleOff room (.leaf (.ident name) line :: cs)) (selector : String)
    (endLine : Nat) :
    (declarationStep selector retry (skipDeclaration endLine v)).split =
      if d.closes && !(beforeSemicolon v).any Component.isBlock then (none, behindSemicolon v)
      else if (beforeSemicolon (d :: v)).any Component.isBlock then
        ruleOff room (.leaf (.ident name) line :: cs)
      else (none, behindSemicolon (d :: v)) := by
  rcases skipDeclaration_eq endLine v with ⟨hblock, hskip⟩ | ⟨hblock, l, hskip⟩
  · rw [hskip, hblock, Bool.not_true, Bool.and_false, if_neg Bool.false_ne_true]
    refine hretry.trans ?_
    rcases hsemi : d.isToken .semicolon with _ | _
    · rw [beforeSemicolon_cons hsemi, List.any_cons, hblock, Bool.or_true, if_pos rfl]
    · -- The semicolon that was passed over ends the rule that is read instead.
      obtain ⟨l, rfl⟩ := eq_leaf_of_isToken hsemi
      have hfrom : fromClosing (.leaf (.ident name) line :: cs) = .leaf .semicolon l :: v :=
        (fromClosing_cons rfl cs).trans (fromClosing_of_dropBlanks hdrop rfl)
      rw [ruleOff, hfrom]
      rfl
  · rw [hskip, hblock, Bool.not_false, Bool.and_true]
    rcases hcloses : d.closes with _ | _
    · have hsemi := isToken_semicolon_of_closes hcloses
      rw [beforeSemicolon_cons hsemi, behindSemicolon_cons hsemi, List.any_cons, hblock,
        isBlock_of_closes hcloses]
      rfl
    · rfl

/-- What a step through a block takes. -/
theorem styleStep_split (room : Nat) (selector : String) (c : Component) (cs : List Component)
    (endLine : Nat) :
    (styleStep room selector c cs endLine).split =
      if swallows c cs then (none, behindSemicolon (dropBlanks cs).tail)
      else splitOff (valueText room) room c cs := by
  have hrule := ruleStep_split room (c :: cs) endLine
  rw [styleStep_eq]
  cases c with
  | group => exact hrule
  | leaf t line =>
      cases t with
      | atKeyword name => exact atRuleStep_split room name cs
      | semicolon => rfl
      | ident name =>
          dsimp only
          have hswallows := swallows_ident name line cs
          rw [readDeclaration_ident, splitOff_ident]
          rcases hdrop : dropBlanks cs with _ | ⟨d, v⟩
          · rw [hdrop] at hswallows
            rw [hswallows]
            rfl
          · rw [hdrop] at hswallows
            rw [hswallows, List.head?_cons, Option.any_some, Option.any_some, List.tail_cons]
            rcases hcolon : d.isToken .colon with _ | _
            · exact declarationStep_split_uncoloned hdrop hrule selector endLine
            · obtain ⟨l, rfl⟩ := eq_leaf_of_isToken hcolon
              have hcloses : (Component.leaf .colon l).closes = false := rfl
              rw [hcloses, Bool.false_and, if_neg Bool.false_ne_true]
              exact hrule ▸ declarationStep_split_coloned room selector _ name endLine v
      | _ => exact hrule

/-! ## Blocks -/

/-- A record without its notices. -/
def Recorder.silent (r : Recorder) : Recorder :=
  ⟨r.lastBlock, r.events.filter fun | .notice _ => false | _ => true⟩

/-- Records an item; `inner` reads the blocks inside. -/
def recordItem (inner : Setting → Body → Recorder → Recorder) (setting : Setting) (r : Recorder)
    (item : Item) : Recorder := recordStep inner setting r ⟨[], some item, []⟩

theorem silent_recordNotices (r : Recorder) (ns : List Notice) :
    (r.recordNotices ns).silent = r.silent := by
  unfold Recorder.recordNotices
  induction ns generalizing r with
  | nil => rfl
  | cons n ns ih => exact (ih (r.record (.notice n))).trans rfl

/-- What is added does not depend on the notices given before. -/
theorem Adds.silent {f : Recorder → Recorder} (hf : Adds f) {r r' : Recorder}
    (h : r.silent = r'.silent) : (f r).silent = (f r').silent := by
  have honto : ∀ s : Recorder, (f s).silent =
      ⟨(f ⟨s.lastBlock, []⟩).lastBlock,
        (f ⟨s.lastBlock, []⟩).silent.events ++ s.silent.events⟩ := by
    intro s
    have hs := hf ⟨s.lastBlock, []⟩ s.events
    change f s = _ at hs
    rw [hs]
    exact congrArg (Recorder.mk _) (List.filter_append _ _)
  obtain ⟨hblock, hevents⟩ := Recorder.mk.inj h
  rw [honto r, honto r', show r.silent.events = r'.silent.events from hevents, hblock]

theorem silent_recordStep {inner : Setting → Body → Recorder → Recorder}
    (hinner : ∀ setting body, Adds (inner setting body)) (setting : Setting) {r r' : Recorder}
    (h : r.silent = r'.silent) (s : Step) :
    (recordStep inner setting r s).silent =
      (s.item.toList.foldl (recordItem inner setting) r').silent := by
  have hnoted : (r.recordNotices s.notices).silent = r'.silent :=
    (silent_recordNotices r s.notices).trans h
  rcases hitem : s.item with _ | item
  · rw [recordStep, hitem]
    exact hnoted
  · have hstep : recordStep inner setting r s =
        recordItem inner setting (r.recordNotices s.notices) item := by
      unfold recordItem recordStep
      rw [hitem]
      rfl
    rw [hstep]
    exact (adds_recordStep hinner setting ⟨[], some item, []⟩).silent hnoted

theorem itemsOf_nil {room : Nat} {cs : List Component} (h : dropBlanks cs = []) :
    itemsOf room cs = [] := by
  rw [itemsOf]
  split
  · rfl
  · rename_i heq
    rw [h] at heq
    cases heq

theorem itemsOf_cons {room : Nat} {cs rest : List Component} {c : Component}
    (h : dropBlanks cs = c :: rest) :
    itemsOf room cs = (splitOff (keptText room) room c rest).1.toList ++
      itemsOf room (splitOff (keptText room) room c rest).2 := by
  rw [itemsOf]
  split
  · rename_i heq
    rw [h] at heq
    cases heq
  · rename_i heq
    rw [h] at heq
    cases heq
    rfl

/-- Where no `!important` is repeated, a value is written as it should be. -/
theorem splitOff_valueText {c : Component} {cs : List Component} (h : stutters c cs = false)
    (room : Nat) : splitOff (valueText room) room c cs = splitOff (keptText room) room c cs := by
  unfold splitOff
  split
  · rfl
  · rfl
  · unfold stutters at h
    split
    · rename_i name line l v hdrop
      rw [hdrop] at h
      dsimp only at h
      split
      · rename_i hcond
        rw [hcond, Bool.true_and] at h
        rw [valueText_eq_keptText h]
      · rfl
    · rfl
  · rfl

theorem readRest_onePass {room : Nat} {cs : List Component} (h : Undisturbed room cs)
    (selector : String) (block endLine : Nat) {r r' : Recorder} (hr : r.silent = r'.silent) :
    (readRest room (.style selector block) endLine cs r).silent =
      ((itemsOf room cs).foldl (recordItem (readInside room) (.style selector block)) r').silent := by
  induction h generalizing r r' with
  | nil h =>
      rw [readRest_nil h, itemsOf_nil h]
      exact hr
  | @cons cs rest c h hswallows hstutters _ ih =>
      have hsplit := styleStep_split room selector c rest endLine
      rw [hswallows, if_neg Bool.false_ne_true, splitOff_valueText hstutters] at hsplit
      have hitem : (nextStep room (.style selector block) c rest endLine).item =
          (splitOff (keptText room) room c rest).1 := congrArg Prod.fst hsplit
      have hrest : (nextStep room (.style selector block) c rest endLine).rest =
          (splitOff (keptText room) room c rest).2 := congrArg Prod.snd hsplit
      have hrecord := silent_recordStep (adds_readInside room) (.style selector block) hr
        (nextStep room (.style selector block) c rest endLine)
      rw [readRest_cons h, itemsOf_cons h, List.foldl_append, ← hitem, ← hrest]
      rw [← hrest] at ih
      exact ih hrecord

/-- How a block of declarations is split. Each step takes what one pass from the left takes, with two
slips. A semicolon or block right behind a name is passed over, unless another block comes before the
next semicolon: then the item is dropped through the semicolon behind, and a nested rule is lost. And
of several `!important`s in a row in front of the end of a value one is written. So a block where no
item meets a slip is read as one pass splits it. -/
theorem readBody_onePass (room : Nat) (selector : String) :
    (∀ (c : Component) (cs : List Component) (endLine : Nat),
      (styleStep room selector c cs endLine).split =
        if swallows c cs then (none, behindSemicolon (dropBlanks cs).tail)
        else splitOff (valueText room) room c cs) ∧
    ∀ (block : Nat) (body : Body) (r : Recorder), Undisturbed room body.content →
      (readBody room (.style selector block) body r).silent =
        ((itemsOf room body.content).foldl
          (recordItem (readInside room) (.style selector block)) r).silent := by
  refine ⟨styleStep_split room selector, fun block body r h => ?_⟩
  rw [readBody_eq]
  exact readRest_onePass h selector block body.endLine rfl

/-- The inside of `.a{b c{}d:e!important}`. -/
def nestedBody : Body :=
  ⟨[.leaf (.ident "b") 1, .leaf .blank 1, .leaf (.ident "c") 1,
    .group (.openBracket .curly) .curly 1 [] 1, .leaf (.ident "d") 1, .leaf .colon 1,
    .leaf (.ident "e") 1, .leaf (.delim '!') 1, .leaf (.ident "important") 1], 1⟩

theorem readBody_onePass_nested :
    Undisturbed 127 nestedBody.content ∧
    (readBody 127 (.style ".a" 1) nestedBody ⟨1, []⟩).silent.events =
      [.declaration ⟨"d", "e", ".a", 1⟩, .selector ⟨"b c", 2⟩] := by
  have hundisturbed : Undisturbed 127 nestedBody.content :=
    .cons rfl (by decide +kernel) (by decide +kernel)
      (.cons rfl (by decide +kernel) (by decide +kernel) (.nil rfl))
  refine ⟨hundisturbed, ?_⟩
  rw [(readBody_onePass 127 ".a").2 1 nestedBody ⟨1, []⟩ hundisturbed]
  decide +kernel

/-- The inside of `.a{b{c:d}}`. -/
def swallowedBody : Body :=
  ⟨[.leaf (.ident "b") 1, .group (.openBracket .curly) .curly 1
    [.leaf (.ident "c") 1, .leaf .colon 1, .leaf (.ident "d") 1] 1], 1⟩

/-- A nested rule whose selector is one name is lost. -/
theorem readBody_swallowed_ne :
    (extract ".a\x7bb\x7bc:d\x7d\x7d").declarations = [] ∧
    (extract ".a\x7bb\x7bc:d\x7d\x7d").selectors = [⟨".a", 1⟩] ∧
    (readBody 127 (.style ".a" 1) swallowedBody ⟨1, []⟩).silent.events = [] ∧
    ((itemsOf 127 swallowedBody.content).foldl
        (recordItem (readInside 127) (.style ".a" 1)) ⟨1, []⟩).silent.events =
      [.declaration ⟨"c", "d", "b", 2⟩, .selector ⟨"b", 2⟩] := by
  refine ⟨?_, ?_, ?_, ?_⟩ <;> decide +kernel

end FeatureScan.Css
