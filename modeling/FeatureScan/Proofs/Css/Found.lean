import FeatureScan.Proofs.Css.AtRules
import FeatureScan.Proofs.Css.OnePass

/-!
# What holds of all that is found

Everything that is found in a style sheet is the item of a step, and a step is taken at components
that stand in a block of the source. So what holds of the item of every step that may be taken holds
of all findings.

## Main results

* `finds_of_nextStep`: what a step can find, and which components are written.
* `Law.readBody`: what a law says of steps holds of the findings in a block.
* `Law.extract`: and of everything found in a style sheet.
-/

namespace FeatureScan.Css

/-! ## What a step can find -/

/-- What can be found at `c` in front of `cs`: an at-rule behind its keyword, a rule with its block, or
a declaration with its name, colon and value. -/
inductive Finds (room : Nat) : Component → List Component → Item → Prop
  | atRule (name : String) (line : Nat) (cs : List Component) (block? : Option Body) :
      Finds room (.leaf (.atKeyword name) line) cs
        (.atRule (Text.asciiLower name) (phraseText room (beforeClosing cs)) block?)
  | rule {c : Component} {cs : List Component} (line : Nat) (body : Body) :
      Finds room c cs (.rule (phraseText room (beforeClosing (c :: cs))) line body)
  | declaration {name : String} {line l : Nat} {cs v : List Component}
      (hcolon : dropBlanks cs = .leaf .colon l :: v)
      (hblock : (isCustomProperty name || !(beforeSemicolon v).any Component.isBlock) = true) :
      Finds room (.leaf (.ident name) line) cs
        (.declaration (if isCustomProperty name then name else Text.asciiLower name)
          (valueText room (beforeSemicolon v)))

theorem finds_of_ruleOff {room : Nat} {c : Component} {cs : List Component} {item : Item}
    (h : item ∈ (ruleOff room (c :: cs)).1) : Finds room c cs item := by
  unfold ruleOff at h
  split at h
  · dsimp only at h
    split at h
    · cases h
    · cases h
      exact .rule _ _
  · cases h

theorem finds_of_atRuleOff {room : Nat} {name : String} {cs : List Component} {item : Item}
    (line : Nat) (h : item ∈ (atRuleOff room name cs).1) :
    Finds room (.leaf (.atKeyword name) line) cs item := by
  unfold atRuleOff at h
  dsimp only at h
  split at h <;> cases h <;> exact .atRule name line cs _

theorem finds_of_splitOff {room : Nat} {c : Component} {cs : List Component} {item : Item}
    (h : item ∈ (splitOff (valueText room) room c cs).1) : Finds room c cs item := by
  cases c with
  | group => exact finds_of_ruleOff h
  | leaf t line =>
      cases t with
      | atKeyword name => exact finds_of_atRuleOff line h
      | semicolon => cases h
      | ident name =>
          rw [splitOff] at h
          split at h
          · rename_i l v hcolon
            split at h
            · rename_i hblock
              dsimp only at h
              unfold declarationOff at h
              split at h
              · cases h
              · cases h
                exact .declaration hcolon hblock
            · exact finds_of_ruleOff h
          · split at h
            · exact finds_of_ruleOff h
            · cases h
      | _ => exact finds_of_ruleOff h

/-- What a step can find. -/
theorem finds_of_nextStep {room : Nat} {setting : Setting} {c : Component} {cs : List Component}
    {endLine : Nat} {item : Item} (h : item ∈ (nextStep room setting c cs endLine).item) :
    Finds room c cs item := by
  have hrule := congrArg Prod.fst (ruleStep_split room (c :: cs) endLine)
  change (ruleStep room (c :: cs) endLine).item = _ at hrule
  have hfound : item ∈ (ruleStep room (c :: cs) endLine).item → Finds room c cs item := by
    rw [hrule]
    exact finds_of_ruleOff
  cases setting with
  | style selector block =>
      have hstep := congrArg Prod.fst (styleStep_split room selector c cs endLine)
      change (nextStep room (.style selector block) c cs endLine).item = _ at hstep
      rw [hstep] at h
      split at h
      · cases h
      · exact finds_of_splitOff h
  | rules =>
      change item ∈ (rulesStep room c cs endLine).item at h
      cases c with
      | group => exact hfound h
      | leaf t line =>
          cases t with
          | atKeyword name =>
              have hstep := congrArg Prod.fst (atRuleStep_split room name cs)
              change (atRuleStep room name cs).item = _ at hstep
              refine finds_of_atRuleOff line ?_
              rwa [← hstep]
          | semicolon | commentOpen | commentClose | closeBracket b => cases h
          | _ => exact hfound h

/-! ## Laws -/

/-- What has to hold of an item for `P` to hold of its finding, and for `S` of the setting of its
block. -/
def Item.Lawful (S : Setting → Prop) (P : Event → Prop) (setting : Setting) : Item → Prop
  | .declaration property value =>
    ∀ selector block, setting = .style selector block →
      P (.declaration ⟨property, value, selector, block⟩)
  | .rule selector _ _ =>
    ∀ block, S (.style selector block) ∧ P (.selector ⟨selector, block⟩)
  | .atRule keyword prelude _ =>
    (∀ block, S (atRuleSetting setting keyword block)) ∧ P (.atRule ⟨keyword, prelude⟩)

/-- A law about findings: `T` says which components may stand where `room` further levels of nesting
are allowed, `S` which settings a block may have, and `P` what the findings are like. -/
structure Law (T : Nat → List Component → Prop) (S : Setting → Prop) (P : Event → Prop) : Prop where
  /-- What is left of a block. -/
  suffix : ∀ {room cs ds}, T room cs → ds <:+ cs → T room ds
  /-- The content of a block. -/
  content : ∀ {room front opener line content endLine rest},
    T (room + 1) (front ++ .group opener .curly line content endLine :: rest) → T room content
  /-- Notices. -/
  notice : ∀ n, P (.notice n)
  /-- The item of a step. -/
  item : ∀ {room setting c rest}, T room (c :: rest) → S setting → ∀ endLine,
    ∀ item ∈ (nextStep room setting c rest endLine).item, item.Lawful S P setting

section Readers

variable {T : Nat → List Component → Prop} {S : Setting → Prop} {P : Event → Prop}

/-- `P` holds of everything in a record. -/
def Recorder.All (P : Event → Prop) (r : Recorder) : Prop := ∀ e ∈ r.events, P e

/-- A reader of blocks adds to a record of which `P` holds what `P` holds of. -/
def KeepsLaw (T : List Component → Prop) (S : Setting → Prop) (P : Event → Prop)
    (inner : Setting → Body → Recorder → Recorder) : Prop :=
  ∀ setting body r, T body.content → S setting → r.All P → (inner setting body r).All P

theorem Recorder.All.record {r : Recorder} (h : r.All P) {e : Event} (he : P e) :
    (r.record e).All P :=
  List.forall_mem_cons.2 ⟨he, h⟩

theorem Recorder.All.recordNotices {r : Recorder} (h : r.All P) (hnotice : ∀ n, P (.notice n))
    (ns : List Notice) : (r.recordNotices ns).All P := by
  unfold Recorder.recordNotices
  induction ns generalizing r with
  | nil => exact h
  | cons n ns ih => exact ih (h.record (hnotice n))

/-- What a step adds to a record. -/
theorem Law.recordStep (law : Law T S P) {room : Nat}
    {inner : Setting → Body → Recorder → Recorder}
    (hinner : ∀ front opener line body rest, T room
        (front ++ .group opener .curly line body.content body.endLine :: rest) →
      ∀ setting r, S setting → r.All P → (inner setting body r).All P)
    {setting : Setting} (hsetting : S setting) {c : Component} {rest : List Component}
    (hcs : T room (c :: rest)) (endLine : Nat) {r : Recorder} (hr : r.All P) :
    (Css.recordStep inner setting r (nextStep room setting c rest endLine)).All P := by
  have hlawful := law.item hcs hsetting endLine
  have htakes := nextStep_takes room setting c rest endLine
  unfold Css.recordStep
  generalize nextStep room setting c rest endLine = step at hlawful htakes ⊢
  have hnoted := hr.recordNotices law.notice step.notices
  have hbody : ∀ item body, step.item = some item → item.body? = some body →
      ∀ setting r, S setting → r.All P → (inner setting body r).All P := by
    intro item body hitem hbody setting r
    obtain ⟨front, opener, line, hsplit⟩ := htakes.body item body hitem hbody
    rw [hsplit] at hcs
    exact hinner front opener line body step.rest hcs setting r
  dsimp only
  generalize r.recordNotices step.notices = r at hnoted ⊢
  cases hitem : step.item with
  | none => exact hnoted
  | some item =>
      have hlaw := hlawful item hitem
      cases item with
      | declaration property value =>
          cases setting with
          | rules => exact hnoted
          | style selector block => exact hnoted.record (hlaw selector block rfl)
      | rule selector line body =>
          obtain ⟨hs, hp⟩ := hlaw (r.lastBlock + 1)
          exact hbody _ body hitem rfl _ _ hs (Recorder.All.record (r := r.newBlock) hnoted hp)
      | atRule keyword prelude block? =>
          have hrecorded := hnoted.record hlaw.2
          cases block? with
          | none => exact hrecorded
          | some body =>
              have hread := hbody _ body hitem rfl
              have hs := hlaw.1 (r.lastBlock + 1)
              dsimp only
              rw [readAtRuleBody]
              split
              · rename_i heq
                change atRuleSetting setting keyword (r.lastBlock + 1) = _ at heq
                rw [heq] at hs
                exact hread _ _ hs hrecorded
              · rename_i heq
                change atRuleSetting setting keyword (r.lastBlock + 1) = _ at heq
                rw [heq] at hs
                exact hread _ (Recorder.newBlock _) hs hrecorded

theorem Law.readRest (law : Law T S P) {room : Nat}
    (hinner : ∀ front opener line body rest, T room
        (front ++ .group opener .curly line body.content body.endLine :: rest) →
      ∀ setting r, S setting → r.All P → (readInside room setting body r).All P)
    {setting : Setting} (hsetting : S setting) (endLine : Nat) {cs : List Component}
    (hcs : T room cs) {r : Recorder} (hr : r.All P) :
    (Css.readRest room setting endLine cs r).All P := by
  induction hn : cs.length using Nat.strongRecOn generalizing cs r with
  | ind n ih =>
      subst hn
      rcases hdrop : dropBlanks cs with _ | ⟨c, rest⟩
      · rwa [readRest_nil hdrop]
      · have hfrom : T room (c :: rest) := by
          rw [← hdrop]
          exact law.suffix hcs (suffix_dropBlanks cs)
        have hle := length_dropBlanks_le cs
        have hlt := length_rest_nextStep_lt room setting c rest endLine
        have hleft := law.suffix hfrom (nextStep_takes room setting c rest endLine).suffix
        rw [hdrop] at hle
        rw [readRest_cons hdrop]
        exact ih _ (Nat.lt_of_lt_of_le hlt hle) hleft
          (law.recordStep hinner hsetting hfrom endLine hr) rfl

/-- What a law says of steps holds of the findings in a block. -/
theorem Law.readBody (law : Law T S P) (room : Nat) :
    KeepsLaw (T room) S P (Css.readBody room) := by
  induction room with
  | zero =>
      intro setting body r hbody hsetting hr
      rw [readBody_eq]
      refine law.readRest (fun front opener line body rest hblock setting r hs hr => ?_) hsetting
        body.endLine hbody hr
      exact hr
  | succ room ih =>
      intro setting body r hbody hsetting hr
      rw [readBody_eq]
      refine law.readRest (fun front opener line body rest hblock setting r hs hr => ?_) hsetting
        body.endLine hbody hr
      exact ih setting body r (law.content hblock) hs hr

/-- What a law says of steps holds of everything found in a style sheet. -/
theorem Law.extract (law : Law T S P) {source : String}
    (hcontent : T nestingLimit (Body.ofText source.toList).content) (hrules : S .rules) :
    (∀ d ∈ (extract source).declarations, P (.declaration d)) ∧
      (∀ s ∈ (extract source).selectors, P (.selector s)) ∧
      ∀ a ∈ (extract source).atRules, P (.atRule a) := by
  have hall : ∀ e ∈ findings nestingLimit (Body.ofText source.toList), P e := by
    intro e he
    rw [findings, Recorder.found, List.mem_reverse] at he
    exact law.readBody nestingLimit .rules _ .start hcontent hrules (List.forall_mem_nil _) e he
  refine ⟨fun d hd => ?_, fun s hs => ?_, fun a ha => ?_⟩
  · obtain ⟨e, he, hsome⟩ := List.mem_filterMap.1 hd
    cases e <;> cases hsome
    exact hall _ he
  · obtain ⟨e, he, hsome⟩ := List.mem_filterMap.1 hs
    cases e <;> cases hsome
    exact hall _ he
  · obtain ⟨e, he, hsome⟩ := List.mem_filterMap.1 ha
    cases e <;> cases hsome
    exact hall _ he

end Readers

end FeatureScan.Css
