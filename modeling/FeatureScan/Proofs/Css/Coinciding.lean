import FeatureScan.Proofs.Css.Flattening
import FeatureScan.Proofs.Css.Stepping

/-!
# Components that coincide as far as there is room

Two readings of components, each with a limit of its own to the levels of nesting, meet the same
components but for the contents of brackets that have no room left in both. Such readings take the
same steps: those contents are passed over as they are, and where there is room left in both, it does
not matter how much.

## Main results

* `writeAll_coincide`, `readPrelude_coincide`, `readValue_coincide`, `readDeclaration_coincide`: the
  readers of phrases.
* `nextStep_coincide`: one step.
* `readInside_coincide`: blocks that coincide are read alike.
* `quiet_readInside`: where two readings with different limits coincide, there is always room left.
-/

namespace FeatureScan.Css

/-- Components that are the same but for the contents of brackets, where the first reading and the
second have no room left. -/
inductive Coincide : Nat → Nat → List Component → List Component → Prop
  | nil {room room' : Nat} : Coincide room room' [] []
  | leaf {room room' : Nat} {cs cs' : List Component} (t : Token) (line : Nat)
      (h : Coincide room room' cs cs') :
      Coincide room room' (.leaf t line :: cs) (.leaf t line :: cs')
  | deep {cs cs' : List Component} (opener : Token) (kind : Bracket) (line : Nat)
      (content content' : List Component) (endLine : Nat) (h : Coincide 0 0 cs cs') :
      Coincide 0 0 (.group opener kind line content endLine :: cs)
        (.group opener kind line content' endLine :: cs')
  | group {room room' : Nat} {cs cs' content content' : List Component} (opener : Token)
      (kind : Bracket) (line endLine : Nat) (hin : Coincide room room' content content')
      (h : Coincide (room + 1) (room' + 1) cs cs') :
      Coincide (room + 1) (room' + 1) (.group opener kind line content endLine :: cs)
        (.group opener kind line content' endLine :: cs')

/-- Blocks whose contents coincide, or that have no room left in both readings. -/
inductive Body.Coincide : Nat → Nat → Body → Body → Prop
  | deep (content content' : List Component) (endLine : Nat) :
      Body.Coincide 0 0 ⟨content, endLine⟩ ⟨content', endLine⟩
  | inside {room room' : Nat} {content content' : List Component}
      (h : Css.Coincide room room' content content') (endLine : Nat) :
      Body.Coincide (room + 1) (room' + 1) ⟨content, endLine⟩ ⟨content', endLine⟩

variable {room room' : Nat} {c c' : Component} {cs cs' ds : List Component}

namespace Coincide

/-! ## The first component and the others -/

theorem append (h : Coincide room room' cs cs') {more more' : List Component}
    (hmore : Coincide room room' more more') : Coincide room room' (cs ++ more) (cs' ++ more') := by
  induction h with
  | nil => exact hmore
  | leaf t line _ ih => exact .leaf t line (ih hmore)
  | deep opener kind line content content' endLine _ ih =>
      exact .deep opener kind line content content' endLine (ih hmore)
  | group opener kind line endLine hin _ _ ih => exact .group opener kind line endLine hin (ih hmore)

theorem left_cons (h : Coincide room room' (c :: cs) ds) :
    ∃ c' cs', ds = c' :: cs' ∧ Coincide room room' [c] [c'] ∧ Coincide room room' cs cs' := by
  cases h with
  | leaf t line h => exact ⟨_, _, rfl, .leaf t line .nil, h⟩
  | deep opener kind line content content' endLine h =>
      exact ⟨_, _, rfl, .deep opener kind line content content' endLine .nil, h⟩
  | group opener kind line endLine hin h =>
      exact ⟨_, _, rfl, .group opener kind line endLine hin .nil, h⟩

theorem isBlank_eq (h : Coincide room room' [c] [c']) : c.isBlank = c'.isBlank := by
  cases h <;> rfl

theorem isBlock_eq (h : Coincide room room' [c] [c']) : c.isBlock = c'.isBlock := by
  cases h with
  | leaf => rfl
  | deep opener kind => cases kind <;> rfl
  | group opener kind => cases kind <;> rfl

theorem isToken_eq (h : Coincide room room' [c] [c']) (t : Token) : c.isToken t = c'.isToken t := by
  cases h <;> rfl

end Coincide

/-! ## Phrases -/

theorem dropBlanks_coincide (h : Coincide room room' cs cs') :
    Coincide room room' (dropBlanks cs) (dropBlanks cs') := by
  induction h with
  | nil => exact .nil
  | leaf t line h ih =>
      unfold dropBlanks at ih ⊢
      rw [List.dropWhile_cons, List.dropWhile_cons]
      split
      · exact ih
      · exact .leaf t line h
  | deep opener kind line content content' endLine h =>
      exact .deep opener kind line content content' endLine h
  | group opener kind line endLine hin h => exact .group opener kind line endLine hin h

theorem writeAll_coincide (h : Coincide room room' cs cs') (p : Pen) :
    Pen.writeAll room cs p = Pen.writeAll room' cs' p := by
  induction h generalizing p with
  | nil => rw [writeAll_nil, writeAll_nil]
  | leaf t line _ ih => rw [writeAll_cons, writeAll_cons, write_leaf, write_leaf, ih]
  | deep opener kind line content content' endLine _ ih =>
      rw [writeAll_cons, writeAll_cons, ih]
      by_cases hkind : kind = .curly
      · subst hkind
        rw [write_block, write_block]
      · rw [write_group hkind, write_group hkind]
  | group opener kind line endLine _ _ ihin ih =>
      rw [writeAll_cons, writeAll_cons, ih]
      by_cases hkind : kind = .curly
      · subst hkind
        rw [write_block, write_block]
      · rw [write_group hkind, write_group hkind]
        dsimp only
        rw [ihin]

theorem write_coincide (h : Coincide room room' [c] [c']) (p : Pen) :
    p.write room c = p.write room' c' := writeAll_coincide h p

/-- Preludes that end alike. -/
inductive PreludeEnd.Coincide (room room' : Nat) : PreludeEnd → PreludeEnd → Prop
  | block {body body' : Body} (line : Nat) (h : body.Coincide room room' body') :
      Coincide room room' (.block line body) (.block line body')
  | semicolon (line : Nat) : Coincide room room' (.semicolon line) (.semicolon line)
  | sourceEnd : Coincide room room' .sourceEnd .sourceEnd

theorem readPrelude_coincide (h : Coincide room room' cs cs') (p : Pen) :
    ∃ pen ending ending' rest rest',
      readPrelude room cs p = (pen, ending, rest) ∧
      readPrelude room' cs' p = (pen, ending', rest') ∧
      ending.Coincide room room' ending' ∧ Coincide room room' rest rest' := by
  induction h generalizing p with
  | nil => exact ⟨p, _, _, [], [], rfl, rfl, .sourceEnd, .nil⟩
  | leaf t line h ih =>
      rcases hc : (Component.leaf t line).closes with _ | _
      · rw [readPrelude_pass hc, readPrelude_pass hc, write_leaf, write_leaf]
        exact ih _
      · obtain rfl : t = .semicolon := beq_iff_eq.1 hc
        exact ⟨p, _, _, _, _, by rw [readPrelude], by rw [readPrelude], .semicolon line, h⟩
  | deep opener kind line content content' endLine h ih =>
      cases kind with
      | curly =>
          exact ⟨p, _, _, _, _, by rw [readPrelude], by rw [readPrelude],
            .block line (.deep content content' endLine), h⟩
      | round | square =>
          rw [readPrelude_pass rfl, readPrelude_pass rfl,
            write_coincide (.deep opener _ line content content' endLine .nil) p]
          exact ih _
  | group opener kind line endLine hin h _ ih =>
      cases kind with
      | curly =>
          exact ⟨p, _, _, _, _, by rw [readPrelude], by rw [readPrelude],
            .block line (.inside hin endLine), h⟩
      | round | square =>
          rw [readPrelude_pass rfl, readPrelude_pass rfl,
            write_coincide (.group opener _ line endLine hin .nil) p]
          exact ih _

theorem importantBehind?_coincide (h : Coincide room room' cs cs') :
    Option.Rel (Coincide room room') (importantBehind? cs) (importantBehind? cs') := by
  unfold importantBehind?
  have hdrop := dropBlanks_coincide h
  generalize dropBlanks cs = ds, dropBlanks cs' = ds' at hdrop
  cases hdrop with
  | nil | deep | group => exact .none
  | leaf t line hrest =>
      cases t with
      | ident name =>
          dsimp only
          split
          · exact .some hrest
          · exact .none
      | _ => exact .none

theorem afterImportant?_coincide (hc : Coincide room room' [c] [c'])
    (h : Coincide room room' cs cs') :
    Option.Rel (Coincide room room') (afterImportant? c cs) (afterImportant? c' cs') := by
  unfold afterImportant?
  rw [hc.isToken_eq]
  split
  · exact importantBehind?_coincide h
  · exact .none

/-- Values that end alike. -/
inductive ValueEnd.Coincide (room room' : Nat) : ValueEnd → ValueEnd → Prop
  | ended (pen : Pen) (semicolon : Option Nat) {rest rest' : List Component}
      (h : Css.Coincide room room' rest rest') :
      Coincide room room' (.ended pen semicolon rest) (.ended pen semicolon rest')
  | nestedRule (pen : Pen) : Coincide room room' (.nestedRule pen) (.nestedRule pen)

theorem readValue_coincide (custom important : Bool) (h : Coincide room room' cs cs') (p : Pen) :
    ValueEnd.Coincide room room' (readValue room custom important cs p)
      (readValue room' custom important cs' p) := by
  induction hn : cs.length using Nat.strongRecOn generalizing important cs cs' p with
  | ind n ih =>
      subst hn
      cases cs with
      | nil =>
          cases h
          rw [readValue, readValue]
          exact .ended p none .nil
      | cons c cs =>
          obtain ⟨c', cs', rfl, hc, hrest⟩ := h.left_cons
          rcases hsemi : c.isToken .semicolon with _ | _
          · rcases hblank : c.isBlank with _ | _
            · have hrel := afterImportant?_coincide hc hrest
              have hlt : ∀ behind, afterImportant? c cs = some behind →
                  behind.length < cs.length := fun _ => length_afterImportant?_lt
              rw [readValue_other hsemi hblank,
                readValue_other (hc.isToken_eq _ ▸ hsemi) (hc.isBlank_eq ▸ hblank),
                ← hc.isBlock_eq, ← write_coincide hc]
              generalize afterImportant? c cs = b, afterImportant? c' cs' = b' at hrel hlt
              cases hrel with
              | some hbehind => exact ih _ (Nat.lt_succ_of_lt (hlt _ rfl)) true hbehind p rfl
              | none =>
                  dsimp only
                  split
                  · split
                    · exact ih _ (Nat.lt_succ_self _) important hrest p rfl
                    · exact .nestedRule p
                  · exact ih _ (Nat.lt_succ_self _) false hrest _ rfl
            · obtain ⟨line, rfl⟩ := eq_leaf_of_isBlank hblank
              cases hc
              rw [readValue, readValue]
              exact ih _ (Nat.lt_succ_self _) important hrest p.space rfl
          · obtain ⟨line, rfl⟩ := eq_leaf_of_isToken hsemi
            cases hc
            rw [readValue, readValue]
            exact .ended p (some line) hrest

/-! ## Declarations -/

/-- Declarations that end alike. -/
inductive DeclarationEnd.Coincide (room room' : Nat) : DeclarationEnd → DeclarationEnd → Prop
  | declared (property value : String) (notices : List Notice) {rest rest' : List Component}
      (h : Css.Coincide room room' rest rest') :
      Coincide room room' (.declared property value notices rest)
        (.declared property value notices rest')
  | dropped (notices : List Notice) (line : Nat) {rest rest' : List Component}
      (h : Css.Coincide room room' rest rest') :
      Coincide room room' (.dropped notices line rest) (.dropped notices line rest')
  | noDeclaration (notices : List Notice) :
      Coincide room room' (.noDeclaration notices) (.noDeclaration notices)

theorem skipDeclaration_coincide (h : Coincide room room' cs cs') (endLine : Nat) :
    DeclarationEnd.Coincide room room' (skipDeclaration endLine cs)
      (skipDeclaration endLine cs') := by
  induction h with
  | nil => exact .dropped [] endLine .nil
  | leaf t line h ih =>
      cases t with
      | semicolon => exact .dropped [] line h
      | _ => exact ih
  | deep opener kind line content content' endLine h ih =>
      cases kind with
      | curly => exact .noDeclaration []
      | round | square => exact ih
  | group opener kind line endLine hin h _ ih =>
      cases kind with
      | curly => exact .noDeclaration []
      | round | square => exact ih

theorem declarationOf_coincide (name : String) (endLine : Nat) {v v' : ValueEnd}
    (h : v.Coincide room room' v') :
    DeclarationEnd.Coincide room room' (declarationOf name endLine v)
      (declarationOf name endLine v') := by
  cases h with
  | nestedRule pen => exact .noDeclaration pen.notices.reverse
  | ended pen semicolon h =>
      unfold declarationOf
      dsimp only
      split
      · exact .dropped _ _ h
      · exact .declared _ _ _ h

theorem Coincide.tail (h : Coincide room room' cs cs') :
    Coincide room room' cs.tail cs'.tail := by
  cases h with
  | nil => exact .nil
  | leaf _ _ h | deep _ _ _ _ _ _ h | group _ _ _ _ _ h => exact h

theorem Coincide.head?_any (h : Coincide room room' cs cs') (t : Token) :
    cs.head?.any (Component.isToken t) = cs'.head?.any (Component.isToken t) := by
  cases h <;> rfl

theorem readDeclaration_coincide (h : Coincide room room' cs cs') (endLine : Nat) :
    DeclarationEnd.Coincide room room' (readDeclaration room cs endLine)
      (readDeclaration room' cs' endLine) := by
  cases h with
  | nil | deep | group => exact .noDeclaration []
  | leaf t line h =>
      cases t with
      | ident name =>
          have hdrop := dropBlanks_coincide h
          rw [readDeclaration_ident, readDeclaration_ident, hdrop.head?_any]
          split
          · exact declarationOf_coincide name endLine
              (readValue_coincide (isCustomProperty name) false hdrop.tail .fresh)
          · exact skipDeclaration_coincide hdrop.tail endLine
      | _ => exact .noDeclaration []

/-! ## Steps -/

/-- Items that coincide. -/
inductive Item.Coincide (room room' : Nat) : Item → Item → Prop
  | declaration (property value : String) :
      Coincide room room' (.declaration property value) (.declaration property value)
  | rule (selector : String) (line : Nat) {body body' : Body} (h : body.Coincide room room' body') :
      Coincide room room' (.rule selector line body) (.rule selector line body')
  | atRule (keyword prelude : String) :
      Coincide room room' (.atRule keyword prelude none) (.atRule keyword prelude none)
  | container (keyword prelude : String) {body body' : Body} (h : body.Coincide room room' body') :
      Coincide room room' (.atRule keyword prelude (some body)) (.atRule keyword prelude (some body'))

/-- Steps that coincide. -/
structure Step.Coincide (room room' : Nat) (s s' : Step) : Prop where
  /-- The notices are the same. -/
  notices : s.notices = s'.notices
  /-- What is found coincides. -/
  item : Option.Rel (Item.Coincide room room') s.item s'.item
  /-- What is left coincides. -/
  rest : Css.Coincide room room' s.rest s'.rest

theorem ruleStep_coincide (h : Coincide room room' cs cs') (endLine : Nat) :
    Step.Coincide room room' (ruleStep room cs endLine) (ruleStep room' cs' endLine) := by
  obtain ⟨pen, ending, ending', rest, rest', hread, hread', hending, hrest⟩ :=
    readPrelude_coincide h .fresh
  unfold ruleStep
  rw [hread, hread']
  cases hending with
  | semicolon line => exact ⟨rfl, .none, hrest⟩
  | sourceEnd => exact ⟨rfl, .none, hrest⟩
  | block line hbody =>
      dsimp only
      cases hbody with
      | deep => exact ⟨rfl, .none, hrest⟩
      | inside hin l =>
          rw [if_neg (Nat.succ_ne_zero _), if_neg (Nat.succ_ne_zero _)]
          split
          · exact ⟨rfl, .none, hrest⟩
          · exact ⟨rfl, .some (.rule _ line (.inside hin l)), hrest⟩

theorem atRuleStep_coincide (h : Coincide room room' cs cs') (name : String) :
    Step.Coincide room room' (atRuleStep room name cs) (atRuleStep room' name cs') := by
  obtain ⟨pen, ending, ending', rest, rest', hread, hread', hending, hrest⟩ :=
    readPrelude_coincide h .fresh
  unfold atRuleStep
  rw [hread, hread']
  cases hending with
  | semicolon line => exact ⟨rfl, .some (.atRule _ _), hrest⟩
  | sourceEnd => exact ⟨rfl, .some (.atRule _ _), hrest⟩
  | block line hbody =>
      dsimp only
      cases hbody with
      | deep => exact ⟨rfl, .some (.atRule _ _), hrest⟩
      | inside hin l =>
          rw [if_neg (Nat.succ_ne_zero _), if_neg (Nat.succ_ne_zero _)]
          exact ⟨rfl, .some (.container _ _ (.inside hin l)), hrest⟩

theorem rulesStep_coincide (hc : Coincide room room' [c] [c']) (h : Coincide room room' cs cs')
    (endLine : Nat) :
    Step.Coincide room room' (rulesStep room c cs endLine) (rulesStep room' c' cs' endLine) := by
  have hrule := ruleStep_coincide (hc.append h) endLine
  cases hc with
  | deep | group => exact hrule
  | leaf t line =>
      cases t with
      | atKeyword name => exact atRuleStep_coincide h name
      | semicolon | commentOpen | commentClose | closeBracket => exact ⟨rfl, .none, h⟩
      | _ => exact hrule

theorem declarationStep_coincide (selector : String) {retry retry' : Step}
    (hretry : retry.Coincide room room' retry') {d d' : DeclarationEnd}
    (h : d.Coincide room room' d') :
    Step.Coincide room room' (declarationStep selector retry d)
      (declarationStep selector retry' d') := by
  cases h with
  | declared property value notices h => exact ⟨rfl, .some (.declaration property value), h⟩
  | dropped notices line h => exact ⟨rfl, .none, h⟩
  | noDeclaration notices =>
      exact ⟨congrArg (notices ++ ·) hretry.notices, hretry.item, hretry.rest⟩

theorem styleStep_coincide (selector : String) (hc : Coincide room room' [c] [c'])
    (h : Coincide room room' cs cs') (endLine : Nat) :
    Step.Coincide room room' (styleStep room selector c cs endLine)
      (styleStep room' selector c' cs' endLine) := by
  have hother := declarationStep_coincide selector (ruleStep_coincide (hc.append h) endLine)
    (readDeclaration_coincide (hc.append h) endLine)
  rw [styleStep_eq, styleStep_eq]
  cases hc with
  | deep | group => exact hother
  | leaf t line =>
      cases t with
      | atKeyword name => exact atRuleStep_coincide h name
      | semicolon => exact ⟨rfl, .none, h⟩
      | _ => exact hother

/-- A step from components that coincide. -/
theorem nextStep_coincide (setting : Setting) (hc : Coincide room room' [c] [c'])
    (h : Coincide room room' cs cs') (endLine : Nat) :
    Step.Coincide room room' (nextStep room setting c cs endLine)
      (nextStep room' setting c' cs' endLine) := by
  cases setting with
  | rules => exact rulesStep_coincide hc h endLine
  | style selector block => exact styleStep_coincide selector hc h endLine

/-! ## Blocks -/

theorem recordStep_coincide {inner inner' : Setting → Body → Recorder → Recorder}
    (hinner : ∀ setting body body' r, body.Coincide room room' body' →
      inner setting body r = inner' setting body' r)
    (setting : Setting) (r : Recorder) {s s' : Step} (h : s.Coincide room room' s') :
    recordStep inner setting r s = recordStep inner' setting r s' := by
  unfold recordStep
  rw [h.notices]
  have hitem := h.item
  generalize s.item = item, s'.item = item' at hitem
  cases hitem with
  | none => rfl
  | some hitem =>
      cases hitem with
      | declaration | atRule => rfl
      | rule selector line hbody => exact hinner _ _ _ _ hbody
      | container keyword prelude hbody =>
          dsimp only
          rw [readAtRuleBody_eq, readAtRuleBody_eq]
          unfold readIn
          split <;> exact hinner _ _ _ _ hbody

theorem readRest_coincide
    (hinner : ∀ setting body body' r, body.Coincide room room' body' →
      readInside room setting body r = readInside room' setting body' r)
    (setting : Setting) (endLine : Nat) (h : Coincide room room' cs cs') (r : Recorder) :
    readRest room setting endLine cs r = readRest room' setting endLine cs' r := by
  induction hn : cs.length using Nat.strongRecOn generalizing cs cs' r with
  | ind n ih =>
      subst hn
      have hdrop := dropBlanks_coincide h
      rcases hcs : dropBlanks cs with _ | ⟨c, rest⟩
      · have hcs' : dropBlanks cs' = [] := by
          rw [hcs] at hdrop
          generalize dropBlanks cs' = ds at hdrop
          cases hdrop
          rfl
        rw [readRest_nil hcs, readRest_nil hcs']
      · rw [hcs] at hdrop
        obtain ⟨c', rest', hcs', hc, hrest⟩ := hdrop.left_cons
        have hstep := nextStep_coincide setting hc hrest endLine
        have hle := length_dropBlanks_le cs
        have hlt := length_rest_nextStep_lt room setting c rest endLine
        rw [hcs] at hle
        rw [readRest_cons hcs, readRest_cons hcs', recordStep_coincide hinner setting r hstep]
        exact ih _ (Nat.lt_of_lt_of_le hlt hle) hstep.rest _ rfl

/-- Blocks that coincide are read alike. -/
theorem readInside_coincide (setting : Setting) {body body' : Body}
    (h : body.Coincide room room' body') (r : Recorder) :
    readInside room setting body r = readInside room' setting body' r := by
  induction room generalizing room' setting body body' r with
  | zero =>
      cases h
      rfl
  | succ room ih =>
      cases h with
      | inside h endLine =>
          rw [readInside, readInside, readBody_eq, readBody_eq]
          exact readRest_coincide (fun setting _ _ r h => ih setting h r) setting endLine h r

/-! ## Where there is room

Components that coincide with themselves where different room is left have no bracket without room,
so no notice says that one was nested too deeply.
-/

/-- Notices none of which is about nesting. -/
def Untroubled (ns : List Notice) : Prop := ∀ n ∈ ns, n.cause ≠ .tooDeep

theorem untroubled_nil : Untroubled [] := List.forall_mem_nil _

theorem Untroubled.append {ns ms : List Notice} (hn : Untroubled ns) (hm : Untroubled ms) :
    Untroubled (ns ++ ms) := List.forall_mem_append.2 ⟨hn, hm⟩

theorem untroubled_singleton {n : Notice} (h : n.cause ≠ .tooDeep) : Untroubled [n] :=
  List.forall_mem_singleton.2 h

theorem notices_space (p : Pen) : p.space.notices = p.notices := by
  unfold Pen.space
  split
  · rfl
  · split <;> rfl

theorem notices_writeAll (h : Coincide room room' cs cs') (hroom : room ≠ room') (p : Pen) :
    (Pen.writeAll room cs p).notices = p.notices := by
  induction h generalizing p with
  | nil => rw [writeAll_nil]
  | leaf t line _ ih =>
      rw [writeAll_cons, ih hroom, write_leaf]
      split
      · exact notices_space p
      · rfl
  | deep => exact absurd rfl hroom
  | group opener kind line endLine _ _ ihin ih =>
      rw [writeAll_cons, ih hroom]
      by_cases hkind : kind = .curly
      · subst hkind
        rw [write_block]
      · rw [write_group hkind]
        exact ihin (mt (congrArg Nat.succ) hroom) (p.put opener.text)

theorem notices_readPrelude (h : Coincide room room' cs cs') (hroom : room ≠ room') (p : Pen) :
    (readPrelude room cs p).1.notices = p.notices := by
  fun_induction readPrelude room cs p generalizing cs' with
  | case1 | case2 | case3 => rfl
  | case4 c cs p _ _ ih =>
      obtain ⟨c', cs', rfl, hc, hrest⟩ := h.left_cons
      rw [ih hrest]
      exact notices_writeAll hc hroom p

/-- The pen that a value leaves. -/
def ValueEnd.pen : ValueEnd → Pen
  | ended pen _ _ => pen
  | nestedRule pen => pen

theorem notices_readValue (custom important : Bool) (h : Coincide room room' cs cs')
    (hroom : room ≠ room') (p : Pen) :
    (readValue room custom important cs p).pen.notices = p.notices := by
  fun_induction readValue room custom important cs p generalizing cs' with
  | case1 | case2 | case6 => rfl
  | case3 important p line rest ih =>
      obtain ⟨c', rest', rfl, hc, hrest⟩ := h.left_cons
      rw [ih hrest]
      exact notices_space p
  | case4 important p c rest _ _ behind hb ih =>
      obtain ⟨c', rest', rfl, hc, hrest⟩ := h.left_cons
      have hbehind := afterImportant?_coincide hc hrest
      rw [hb] at hbehind
      generalize afterImportant? c' rest' = behind' at hbehind
      cases hbehind with
      | some hbehind => exact ih hbehind
  | case5 important p c rest _ _ hb hblock hcustom ih =>
      obtain ⟨c', rest', rfl, hc, hrest⟩ := h.left_cons
      exact ih hrest
  | case7 important p c rest _ _ hb hblock q =>
      rename_i ih
      obtain ⟨c', rest', rfl, hc, hrest⟩ := h.left_cons
      have hq : q = if important then p.space.put "!important ".toList else p := rfl
      rw [ih hrest]
      refine (notices_writeAll hc hroom q).trans ?_
      rw [hq]
      split
      · exact notices_space p
      · rfl

/-- The notices that reading a declaration gives. -/
def DeclarationEnd.notices : DeclarationEnd → List Notice
  | declared _ _ notices _ => notices
  | dropped notices _ _ => notices
  | noDeclaration notices => notices

theorem notices_skipDeclaration (endLine : Nat) (cs : List Component) :
    (skipDeclaration endLine cs).notices = [] := by
  fun_induction skipDeclaration endLine cs with
  | case1 | case2 | case3 => rfl
  | case4 _ _ _ _ ih => exact ih

theorem notices_declarationOf (name : String) (endLine : Nat) (v : ValueEnd) :
    (declarationOf name endLine v).notices = v.pen.notices.reverse := by
  cases v with
  | nestedRule pen => rfl
  | ended pen semicolon rest =>
      unfold declarationOf
      dsimp only
      split <;> rfl

theorem notices_readDeclaration (h : Coincide room room' cs cs') (hroom : room ≠ room')
    (endLine : Nat) : (readDeclaration room cs endLine).notices = [] := by
  cases h with
  | nil | deep | group => rfl
  | leaf t line h =>
      cases t with
      | ident name =>
          rw [readDeclaration_ident]
          split
          · rw [notices_declarationOf,
              notices_readValue _ _ (dropBlanks_coincide h).tail hroom]
            rfl
          · exact notices_skipDeclaration endLine _
      | _ => rfl

theorem untroubled_ruleStep (h : Coincide room room' cs cs') (hroom : room ≠ room')
    (endLine : Nat) : Untroubled (ruleStep room cs endLine).notices := by
  have hnotices := notices_readPrelude h hroom .fresh
  obtain ⟨pen, ending, ending', rest, rest', hread, -, hending, -⟩ :=
    readPrelude_coincide h .fresh
  rw [hread] at hnotices
  have hnil : pen.notices.reverse = [] := by
    rw [hnotices]
    rfl
  unfold ruleStep
  rw [hread]
  dsimp only
  rw [hnil]
  cases hending with
  | semicolon | sourceEnd => exact untroubled_singleton nofun
  | block line hbody =>
      cases hbody with
      | deep => exact absurd rfl hroom
      | inside =>
          dsimp only
          rw [if_neg (Nat.succ_ne_zero _)]
          split
          · exact untroubled_singleton nofun
          · exact untroubled_nil

theorem untroubled_atRuleStep (h : Coincide room room' cs cs') (hroom : room ≠ room')
    (name : String) : Untroubled (atRuleStep room name cs).notices := by
  have hnotices := notices_readPrelude h hroom .fresh
  obtain ⟨pen, ending, ending', rest, rest', hread, -, hending, -⟩ :=
    readPrelude_coincide h .fresh
  rw [hread] at hnotices
  have hnil : pen.notices.reverse = [] := by
    rw [hnotices]
    rfl
  unfold atRuleStep
  rw [hread]
  dsimp only
  rw [hnil]
  cases hending with
  | semicolon | sourceEnd => exact untroubled_nil
  | block line hbody =>
      cases hbody with
      | deep => exact absurd rfl hroom
      | inside => exact untroubled_nil

theorem untroubled_declarationStep (selector : String) {retry : Step}
    (hretry : Untroubled retry.notices) {d : DeclarationEnd} (hd : d.notices = []) :
    Untroubled (declarationStep selector retry d).notices := by
  cases d with
  | declared property value notices rest =>
      obtain rfl : notices = [] := hd
      exact untroubled_nil
  | dropped notices line rest =>
      obtain rfl : notices = [] := hd
      exact untroubled_singleton nofun
  | noDeclaration notices =>
      obtain rfl : notices = [] := hd
      exact hretry

theorem untroubled_nextStep (setting : Setting) (hc : Coincide room room' [c] [c'])
    (h : Coincide room room' cs cs') (hroom : room ≠ room') (endLine : Nat) :
    Untroubled (nextStep room setting c cs endLine).notices := by
  have hrule := untroubled_ruleStep (hc.append h) hroom endLine
  cases setting with
  | rules =>
      cases c with
      | group => exact hrule
      | leaf t line =>
          cases t with
          | atKeyword name => exact untroubled_atRuleStep h hroom name
          | semicolon | commentOpen | commentClose => exact untroubled_nil
          | closeBracket => exact untroubled_singleton nofun
          | _ => exact hrule
  | style selector block =>
      have hother := untroubled_declarationStep selector hrule
        (notices_readDeclaration (hc.append h) hroom endLine)
      rw [nextStep, styleStep_eq]
      cases c with
      | group => exact hother
      | leaf t line =>
          cases t with
          | atKeyword name => exact untroubled_atRuleStep h hroom name
          | semicolon => exact untroubled_nil
          | _ => exact hother

/-- A record with no notice about nesting. -/
def Recorder.Quiet (r : Recorder) : Prop := ∀ line, .notice ⟨line, .tooDeep⟩ ∉ r.events

theorem Recorder.Quiet.record {r : Recorder} (h : r.Quiet) {e : Event}
    (he : ∀ line, e ≠ .notice ⟨line, .tooDeep⟩) : (r.record e).Quiet := by
  intro line hmem
  rcases List.mem_cons.1 hmem with heq | hmem
  · exact he line heq.symm
  · exact h line hmem

theorem Recorder.Quiet.recordNotices {r : Recorder} (h : r.Quiet) {ns : List Notice}
    (hns : Untroubled ns) : (r.recordNotices ns).Quiet := by
  unfold Recorder.recordNotices
  induction ns generalizing r with
  | nil => exact h
  | cons n ns ih =>
      obtain ⟨hn, hns⟩ := List.forall_mem_cons.1 hns
      refine ih (h.record fun line heq => ?_) hns
      cases heq
      exact hn rfl

theorem quiet_recordStep {inner : Setting → Body → Recorder → Recorder}
    (hinner : ∀ setting body body' r, body.Coincide room room' body' → r.Quiet →
      (inner setting body r).Quiet)
    (setting : Setting) {r : Recorder} (hr : r.Quiet) {s s' : Step} (h : s.Coincide room room' s')
    (hs : Untroubled s.notices) : (recordStep inner setting r s).Quiet := by
  unfold recordStep
  have hnoted := hr.recordNotices hs
  generalize r.recordNotices s.notices = r at hnoted
  have hitem := h.item
  generalize s.item = item, s'.item = item' at hitem
  cases hitem with
  | none => exact hnoted
  | some hitem =>
      cases hitem with
      | declaration property value =>
          cases setting with
          | rules => exact hnoted
          | style selector block => exact hnoted.record nofun
      | rule selector line hbody =>
          exact hinner _ _ _ _ hbody (Recorder.Quiet.record (r := r.newBlock) hnoted nofun)
      | atRule keyword prelude => exact hnoted.record nofun
      | container keyword prelude hbody =>
          dsimp only
          rw [readAtRuleBody_eq]
          unfold readIn
          split
          · exact hinner _ _ _ _ hbody (hnoted.record nofun)
          · exact hinner _ _ _ _ hbody (hnoted.record nofun)

theorem quiet_readRest
    (hinner : ∀ setting body body' r, body.Coincide room room' body' → r.Quiet →
      (readInside room setting body r).Quiet)
    (setting : Setting) (endLine : Nat) (h : Coincide room room' cs cs') (hroom : room ≠ room')
    {r : Recorder} (hr : r.Quiet) : (readRest room setting endLine cs r).Quiet := by
  induction hn : cs.length using Nat.strongRecOn generalizing cs cs' r with
  | ind n ih =>
      subst hn
      have hdrop := dropBlanks_coincide h
      rcases hcs : dropBlanks cs with _ | ⟨c, rest⟩
      · rwa [readRest_nil hcs]
      · rw [hcs] at hdrop
        obtain ⟨c', rest', -, hc, hrest⟩ := hdrop.left_cons
        have hstep := nextStep_coincide setting hc hrest endLine
        have hle := length_dropBlanks_le cs
        have hlt := length_rest_nextStep_lt room setting c rest endLine
        rw [hcs] at hle
        rw [readRest_cons hcs]
        exact ih _ (Nat.lt_of_lt_of_le hlt hle) hstep.rest
          (quiet_recordStep hinner setting hr hstep (untroubled_nextStep setting hc hrest hroom _))
          rfl

/-- Where two readings with different limits coincide, there is always room left. -/
theorem quiet_readInside (setting : Setting) {body body' : Body}
    (h : body.Coincide room room' body') (hroom : room ≠ room') {r : Recorder} (hr : r.Quiet) :
    (readInside room setting body r).Quiet := by
  induction room generalizing room' setting body body' r with
  | zero => exact hr
  | succ room ih =>
      cases h with
      | inside h endLine =>
          have hne := mt (congrArg Nat.succ) hroom
          rw [readInside, readBody_eq]
          exact quiet_readRest (fun setting _ _ r h hr => ih setting h hne hr) setting endLine h hne
            hr

end FeatureScan.Css
