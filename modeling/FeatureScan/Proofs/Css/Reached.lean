import FeatureScan.Proofs.Css.AtRules

/-!
# Every at-rule is reached

An at-rule that is recorded stands in the source: behind a sign that is a token of its own, where the
reader comes to it. So what holds of the at-rules that the reader comes to holds of all.

## Main results

* `token_of_standing`: a component that is no group is a token, at the spot where it was added.
* `reached_of_mem_readBody`: the reader comes to every at-rule that it records.
* `exists_atRuleBetween?`: every at-rule of a style sheet stands between two texts.
-/

namespace FeatureScan.Css

/-! ## Components at a spot -/

/-- The component at a spot inside a component. -/
def Component.at? : Spot → Component → Option Component
  | [], c => some c
  | i :: deeper, .group _ _ _ content _ => content[i]?.bind (Component.at? deeper)
  | _ :: _, .leaf _ _ => none

/-- The component at a spot among components. -/
def standing? (cs : List Component) : Spot → Option Component
  | [] => none
  | i :: deeper => cs[i]?.bind (Component.at? deeper)

theorem standing?_middle (pre post : List Component) (c : Component) (deeper : Spot) :
    standing? (pre ++ c :: post) (pre.length :: deeper) = c.at? deeper := by
  simp [standing?]

theorem at?_group {opener : Token} {kind : Bracket} {line endLine : Nat}
    {content : List Component} {spot : Spot} (h : spot ≠ []) :
    (Component.group opener kind line content endLine).at? spot = standing? content spot := by
  cases spot with
  | nil => exact absurd rfl h
  | cons i deeper => rfl

/-- `p` holds of every token among components that stand behind `way`, its spot and its line. -/
def Everywhere (p : Spot → Token → Nat → Prop) (way : Spot) (cs : List Component) : Prop :=
  ∀ spot t line, standing? cs spot = some (.leaf t line) → p (way ++ spot) t line

section Everywhere

variable {p : Spot → Token → Nat → Prop}

theorem everywhere_nil (way : Spot) : Everywhere p way [] := by
  intro spot t line h
  cases spot <;> cases h

theorem Everywhere.concat {way : Spot} {cs : List Component} (h : Everywhere p way cs)
    {c : Component} (hc : ∀ deeper t line, c.at? deeper = some (.leaf t line) →
      p (way ++ cs.length :: deeper) t line) : Everywhere p way (cs ++ [c]) := by
  intro spot t line hspot
  cases spot with
  | nil => cases hspot
  | cons i deeper =>
      rcases Nat.lt_trichotomy i cs.length with hi | rfl | hi
      · refine h (i :: deeper) t line ?_
        rwa [standing?, List.getElem?_append_left hi] at hspot
      · exact hc deeper t line (by rwa [standing?_middle] at hspot)
      · rw [standing?, List.getElem?_eq_none (by simp; omega)] at hspot
        cases hspot

namespace Nesting

/-- The way to the innermost open bracket. -/
def way (gs : List OpenGroup) : Spot := gs.reverse.map (·.before.length)

/-- `p` holds of every token that has been nested. -/
inductive Everywhere (p : Spot → Token → Nat → Prop) : Nesting → Prop
  | outermost {current : List Component} (h : Css.Everywhere p [] current.reverse) :
      Everywhere p ⟨[], current⟩
  | inside {g : OpenGroup} {gs : List OpenGroup} {current : List Component}
      (h : Css.Everywhere p (way (g :: gs)) current.reverse) (ho : Everywhere p ⟨gs, g.before⟩) :
      Everywhere p ⟨g :: gs, current⟩

variable {n : Nesting}

theorem way_cons (g : OpenGroup) (gs : List OpenGroup) :
    way (g :: gs) = way gs ++ [g.before.length] := by
  rw [way, List.reverse_cons, List.map_append]
  rfl

theorem Everywhere.push (h : n.Everywhere p) {c : Component}
    (hc : ∀ deeper t line, c.at? deeper = some (.leaf t line) → p (n.here ++ deeper) t line) :
    (n.push c).Everywhere p := by
  have hspot : ∀ {way : Spot} {cs : List Component} (deeper : Spot),
      way ++ [cs.length] ++ deeper = way ++ cs.reverse.length :: deeper := by simp
  cases h with
  | @outermost current h =>
      refine .outermost ?_
      rw [List.reverse_cons]
      refine h.concat fun deeper t line hd => ?_
      rw [← hspot]
      exact hc deeper t line hd
  | @inside g gs current h ho =>
      refine .inside ?_ ho
      rw [List.reverse_cons]
      refine h.concat fun deeper t line hd => ?_
      rw [← hspot]
      exact hc deeper t line hd

theorem Everywhere.close (h : n.Everywhere p) (line : Nat) : (n.close line).Everywhere p := by
  cases h with
  | outermost h => exact .outermost h
  | @inside g gs current h ho =>
      refine ho.push fun deeper t l hd => ?_
      have hne : deeper ≠ [] := by
        rintro rfl
        cases hd
      rw [at?_group hne] at hd
      have hp := h deeper t l hd
      rwa [way_cons] at hp

theorem Everywhere.add (h : n.Everywhere p) {t : PlacedToken} (ht : p n.here t.token t.line) :
    (n.add t).Everywhere p := by
  rw [add_eq]
  cases t.token.opens? with
  | some kind => exact .inside (everywhere_nil _) h
  | none =>
      dsimp only
      split
      · exact h
      · split
        · exact h.close t.line
        · refine h.push fun deeper t' line hd => ?_
          cases deeper with
          | nil =>
              cases hd
              rwa [List.append_nil]
          | cons => cases hd

/-- `p` holds of every token of the components if it does of every token where it was added. -/
theorem Everywhere.finish (h : n.Everywhere p) (line : Nat) :
    Css.Everywhere p [] (n.finish line) := by
  have hclose : ∀ (gs : List OpenGroup) (m : Nesting), m.Everywhere p →
      gs.length = m.openGroups.length →
        Css.Everywhere p [] (gs.foldl (fun m _ => m.close line) m).current.reverse := by
    intro gs
    induction gs with
    | nil =>
        intro m hm hlen
        cases hm with
        | outermost h => exact h
        | inside => cases hlen
    | cons g gs ih =>
        intro m hm hlen
        refine ih _ (hm.close line) ?_
        rw [openGroups_close, List.length_tail, ← hlen]
        rfl
  exact hclose _ n h rfl

/-- Every token stands at the spot where it was added. -/
theorem everywhere_foldl_add {ts : List PlacedToken} (hp : ∀ done t todo, ts = done ++ t :: todo →
    p (done.foldl Nesting.add .start).here t.token t.line) :
    (ts.foldl Nesting.add .start).Everywhere p := by
  have hfrom : ∀ todo done, ts = done ++ todo →
      (done.foldl Nesting.add .start).Everywhere p →
        (todo.foldl Nesting.add (done.foldl Nesting.add .start)).Everywhere p := by
    intro todo
    induction todo with
    | nil => exact fun _ _ h => h
    | cons t todo ih =>
        intro done hdone h
        have hnext := ih (done ++ [t]) (by rw [hdone, List.append_assoc]; rfl)
        rw [List.foldl_append] at hnext
        exact hnext (h.add (hp done t todo hdone))
  exact hfrom ts [] rfl (.outermost (everywhere_nil _))

end Nesting

end Everywhere

/-- A component that is no group is a token, at the spot where it was added. -/
theorem token_of_standing {cs : List Char} {spot : Spot} {t : Token} {line : Nat}
    (h : standing? (Body.ofText cs).content spot = some (.leaf t line)) :
    ∃ ts us, (tokens cs).1 = ts ++ ⟨t, line⟩ :: us ∧
      (ts.foldl Nesting.add .start).here = spot := by
  have hall : ((tokens cs).1.foldl Nesting.add .start).Everywhere fun spot t line =>
      ∃ ts us, (tokens cs).1 = ts ++ ⟨t, line⟩ :: us ∧
        (ts.foldl Nesting.add .start).here = spot :=
    Nesting.everywhere_foldl_add fun done t todo hdone => ⟨done, todo, hdone, rfl⟩
  exact hall.finish (tokens cs).2 spot t line h

/-! ## Steps -/

/-- A rule is no at-rule. -/
theorem item_ruleStep (room : Nat) (cs : List Component) (endLine : Nat) {keyword prelude : String}
    {block? : Option Body} :
    (ruleStep room cs endLine).item ≠ some (.atRule keyword prelude block?) := by
  unfold ruleStep
  generalize readPrelude room cs .fresh = read
  obtain ⟨pen, ending, rest⟩ := read
  cases ending with
  | block line body =>
      dsimp only
      split
      · nofun
      · split <;> nofun
  | _ => nofun

/-- A step finds an at-rule at its keyword only. -/
theorem keyword_of_nextStep {room : Nat} {setting : Setting} {c : Component}
    {rest : List Component} {endLine : Nat} {keyword prelude : String} {block? : Option Body}
    (h : (nextStep room setting c rest endLine).item = some (.atRule keyword prelude block?)) :
    ∃ name line, c = .leaf (.atKeyword name) line ∧
      keyword = (AtRuleReading.mk room setting name rest).keyword ∧
      prelude = (AtRuleReading.mk room setting name rest).prelude := by
  have hrule := @item_ruleStep room (c :: rest) endLine keyword prelude block?
  have hatRule : ∀ name line, (atRuleStep room name rest).item =
      some (.atRule keyword prelude block?) → ∃ name' line',
        Component.leaf (.atKeyword name) line = .leaf (.atKeyword name') line' ∧
          keyword = (AtRuleReading.mk room setting name' rest).keyword ∧
          prelude = (AtRuleReading.mk room setting name' rest).prelude := by
    intro name line h
    obtain ⟨notices, hstep⟩ := atRuleStep_eq room setting rest
    rw [hstep] at h
    cases h
    exact ⟨name, line, rfl, rfl, rfl⟩
  cases setting with
  | rules =>
      change (rulesStep room c rest endLine).item = _ at h
      cases c with
      | leaf t line =>
          cases t with
          | atKeyword name => exact hatRule name line h
          | semicolon | commentOpen | commentClose | closeBracket b => cases h
          | _ => exact absurd h hrule
      | group => exact absurd h hrule
  | style selector block =>
      change (styleStep room selector c rest endLine).item = _ at h
      have hdeclaration : (declarationStep selector (ruleStep room (c :: rest) endLine)
          (readDeclaration room (c :: rest) endLine)).item ≠
            some (.atRule keyword prelude block?) := by
        cases readDeclaration room (c :: rest) endLine with
        | noDeclaration notices => exact hrule
        | _ => nofun
      rw [styleStep_eq] at h
      cases c with
      | leaf t line =>
          cases t with
          | atKeyword name => exact hatRule name line h
          | semicolon => cases h
          | _ => exact absurd h hdeclaration
      | group => exact absurd h hdeclaration

/-- Nothing is found at a block that stands first. -/
theorem item_nextStep_block (room : Nat) (setting : Setting) (opener : Token) (line l : Nat)
    (content rest : List Component) (endLine : Nat) :
    (nextStep room setting (.group opener .curly line content l) rest endLine).item = none := by
  have hrule : (ruleStep room (.group opener .curly line content l :: rest) endLine).item = none := by
    rw [ruleStep, readPrelude]
    dsimp only
    split
    · rfl
    · rw [if_pos (by decide)]
  cases setting with
  | rules => exact hrule
  | style selector block => exact hrule

/-- The block that a step takes stands behind the component where it starts. -/
theorem front_of_nextStep_body {room : Nat} {setting : Setting} {c : Component}
    {rest : List Component} {endLine : Nat} {item : Item} {body : Body}
    (hitem : (nextStep room setting c rest endLine).item = some item)
    (hbody : item.body? = some body) :
    ∃ front opener line, rest = front ++ .group opener .curly line body.content body.endLine ::
      (nextStep room setting c rest endLine).rest := by
  obtain ⟨front, opener, line, hcs⟩ :=
    (nextStep_takes room setting c rest endLine).body item body hitem hbody
  cases front with
  | nil =>
      obtain ⟨rfl, -⟩ := List.cons.inj hcs
      rw [item_nextStep_block] at hitem
      cases hitem
  | cons d front => exact ⟨front, opener, line, (List.cons.inj hcs).2⟩

theorem stepTo?_cons {room : Nat} {setting : Setting} {endLine size i : Nat}
    {cs rest : List Component} {c : Component} (h : dropBlanks cs = c :: rest) :
    stepTo? room setting endLine size i cs =
      if size ≤ i + (nextStep room setting c rest endLine).rest.length then
        stepTo? room setting endLine size i (nextStep room setting c rest endLine).rest
      else some (c, rest) := by
  rw [stepTo?]
  split
  · rename_i hnil
    rw [h] at hnil
    cases hnil
  · rename_i d rest' hcons
    rw [h] at hcons
    cases hcons
    rfl

/-! ## Findings -/

/-- The reader comes to an at-rule with this keyword and prelude in a block. -/
def Reached (room : Nat) (setting : Setting) (body : Body) (r : AtRule) : Prop :=
  ∃ spot a line, atRuleAt? room setting body spot = some a ∧
    standing? body.content spot = some (.leaf (.atKeyword a.name) line) ∧
      r = ⟨a.keyword, a.prelude⟩

/-- What a reader of blocks adds to the at-rules of a record, `q` holds of. -/
def AddsAtRules (q : Setting → Body → Prop) (r : AtRule)
    (inner : Setting → Body → Recorder → Recorder) : Prop :=
  ∀ setting body n record, .atRule r ∈ (inner (setting.numbered n) body record).events →
    .atRule r ∈ record.events ∨ q setting body

theorem atRule_mem_recordNotices {r : AtRule} {record : Recorder} {ns : List Notice}
    (h : .atRule r ∈ (record.recordNotices ns).events) : .atRule r ∈ record.events := by
  induction ns generalizing record with
  | nil => exact h
  | cons n ns ih =>
      have hr : .atRule r ∈ (record.record (.notice n)).events := ih h
      rcases List.mem_cons.1 hr with hnotice | hr
      · cases hnotice
      · exact hr

/-- An at-rule that a step adds to a record is its item, or was found in its block. -/
theorem mem_recordStep {q : Setting → Body → Prop} {r : AtRule}
    {inner : Setting → Body → Recorder → Recorder} (hinner : AddsAtRules q r inner)
    {setting : Setting} {n : Nat} {record : Recorder} {step : Step}
    (h : .atRule r ∈ (recordStep inner (setting.numbered n) record step).events) :
    .atRule r ∈ record.events ∨
      (∃ block?, step.item = some (.atRule r.keyword r.prelude block?)) ∨
      ∃ item body, step.item = some item ∧ item.body? = some body ∧ q (item.setting setting) body := by
  unfold recordStep at h
  dsimp only at h
  have hnotices := @atRule_mem_recordNotices r record step.notices
  generalize record.recordNotices step.notices = record' at h hnotices
  cases hitem : step.item with
  | none =>
      rw [hitem] at h
      exact Or.inl (hnotices h)
  | some item =>
      rw [hitem] at h
      cases item with
      | declaration property value =>
          refine Or.inl (hnotices ?_)
          cases setting with
          | rules => exact h
          | style selector block =>
              rcases List.mem_cons.1 h with heq | hr
              · cases heq
              · exact hr
      | rule selector line body =>
          rcases hinner (.style selector 0) body _ _ h with hr | hq
          · rcases List.mem_cons.1 hr with heq | hr
            · cases heq
            · exact Or.inl (hnotices hr)
          · exact Or.inr (Or.inr ⟨_, body, rfl, rfl, hq⟩)
      | atRule keyword prelude block? =>
          have hhead : .atRule r ∈ (record'.record (.atRule ⟨keyword, prelude⟩)).events →
              .atRule r ∈ record.events ∨ ∃ block?', some (Item.atRule keyword prelude block?) =
                some (.atRule r.keyword r.prelude block?') := by
            intro hr
            rcases List.mem_cons.1 hr with heq | hr
            · cases heq
              exact Or.inr ⟨block?, rfl⟩
            · exact Or.inl (hnotices hr)
          cases block? with
          | none => exact (hhead h).imp_right Or.inl
          | some body =>
              dsimp only at h
              have hbody : .atRule r ∈ (record'.record (.atRule ⟨keyword, prelude⟩)).events ∨
                  q (atRuleSetting setting keyword 0) body := by
                rw [readAtRuleBody_eq, atRuleSetting_numbered setting keyword n _ 0] at h
                generalize atRuleSetting setting keyword 0 = inside at h ⊢
                cases inside with
                | rules => exact hinner .rules body 0 _ h
                | style selector block =>
                    exact hinner (.style selector block) body _
                      (record'.record (.atRule ⟨keyword, prelude⟩)).newBlock h
              rcases hbody with hr | hq
              · exact (hhead hr).imp_right Or.inl
              · exact Or.inr (Or.inr ⟨_, body, rfl, rfl, hq⟩)

section Spots

variable {room : Nat} {setting : Setting} {body : Body} {front rest : List Component}

/-- The reader comes to an at-rule at whose keyword a step starts. -/
theorem reached_keyword {name : String} {line : Nat}
    (hcontent : body.content = front ++ .leaf (.atKeyword name) line :: rest)
    (hto : stepTo? room setting body.endLine body.content.length front.length body.content =
      some (.leaf (.atKeyword name) line, rest)) :
    Reached room setting body ⟨(AtRuleReading.mk room setting name rest).keyword,
      (AtRuleReading.mk room setting name rest).prelude⟩ := by
  refine ⟨[front.length], ⟨room, setting, name, rest⟩, line, ?_, ?_, rfl⟩
  · have hlength := congrArg List.length hcontent
    rw [List.length_append, List.length_cons, ← Nat.add_assoc] at hlength
    rw [atRuleAt?, hto]
    dsimp only
    rw [if_pos hlength.symm]
  · rw [hcontent, standing?_middle]
    rfl

/-- The reader comes to an at-rule that it comes to in the block that a step takes. -/
theorem reached_inside {c : Component} {item : Item} {inside : Body} {r : AtRule}
    (hcontent : body.content = front ++ c :: rest)
    (hto : ∀ i, front.length ≤ i →
      i + (nextStep (room + 1) setting c rest body.endLine).rest.length < body.content.length →
        stepTo? (room + 1) setting body.endLine body.content.length i body.content = some (c, rest))
    (hitem : (nextStep (room + 1) setting c rest body.endLine).item = some item)
    (hinside : item.body? = some inside) (h : Reached room (item.setting setting) inside r) :
    Reached (room + 1) setting body r := by
  obtain ⟨spot, a, line, ha, hstands, hr⟩ := h
  obtain ⟨between, opener, l, hbetween⟩ := front_of_nextStep_body hitem hinside
  have hblock : body.content = (front ++ c :: between) ++
      .group opener .curly l inside.content inside.endLine ::
        (nextStep (room + 1) setting c rest body.endLine).rest := by
    rw [hcontent, List.append_assoc, List.cons_append, ← hbetween]
  have hlength := congrArg List.length hblock
  have hrest := congrArg List.length hbetween
  rw [List.length_append, List.length_cons] at hlength hrest
  have hi := (List.prefix_append front (c :: between)).length_le
  have hspot : spot ≠ [] := by
    rintro rfl
    cases hstands
  refine ⟨(front ++ c :: between).length :: spot, a, line, ?_, ?_, hr⟩
  · rw [atRuleAt?, hto _ hi (by omega)]
    dsimp only
    rw [if_neg (by omega), if_pos (by omega), hitem]
    dsimp only
    rw [hinside]
    exact ha
  · rw [hblock, standing?_middle, at?_group hspot]
    exact hstands

end Spots

/-- The reader comes to every at-rule that it finds in what is left of a block. -/
theorem reached_of_mem_readRest {room : Nat} {r : AtRule}
    (hinner : AddsAtRules (fun setting body => ∃ k, room = k + 1 ∧ Reached k setting body r) r
      (readInside room)) {setting : Setting} {body : Body} {n : Nat} {cs pre : List Component}
    {record : Recorder} (hcs : body.content = pre ++ cs)
    (hstep : ∀ i, pre.length ≤ i →
      stepTo? room setting body.endLine body.content.length i body.content =
        stepTo? room setting body.endLine body.content.length i cs)
    (h : .atRule r ∈ (readRest room (setting.numbered n) body.endLine cs record).events) :
    .atRule r ∈ record.events ∨ Reached room setting body r := by
  induction hlen : cs.length using Nat.strongRecOn generalizing cs pre record with
  | ind size ih =>
      cases hdrop : dropBlanks cs with
      | nil =>
          rw [readRest_nil hdrop] at h
          exact Or.inl h
      | cons c rest =>
          obtain ⟨blanks, hblanks⟩ := suffix_dropBlanks cs
          obtain ⟨taken, htaken⟩ := (nextStep_takes room setting c rest body.endLine).suffix
          have hcontent : body.content = (pre ++ blanks) ++ c :: rest := by
            rw [hcs, ← hblanks, hdrop, List.append_assoc]
          have hleft : body.content = (pre ++ blanks ++ taken) ++
              (nextStep room setting c rest body.endLine).rest := by
            rw [List.append_assoc, htaken, hcontent]
          have hlength := congrArg List.length hleft
          rw [List.length_append] at hlength
          have hpre := (List.prefix_append pre blanks).length_le
          have htakes := (List.prefix_append (pre ++ blanks) taken).length_le
          -- The step takes the components from `c` on, up to those that it leaves.
          have hto : ∀ i, (pre ++ blanks).length ≤ i →
              i + (nextStep room setting c rest body.endLine).rest.length < body.content.length →
                stepTo? room setting body.endLine body.content.length i body.content =
                  some (c, rest) := by
            intro i hi hlt
            rw [hstep i (by omega), stepTo?_cons hdrop, if_neg (by omega)]
          have hpassed : ∀ i, (pre ++ blanks ++ taken).length ≤ i →
              stepTo? room setting body.endLine body.content.length i body.content =
                stepTo? room setting body.endLine body.content.length i
                  (nextStep room setting c rest body.endLine).rest := by
            intro i hi
            rw [hstep i (by omega), stepTo?_cons hdrop, if_pos (by omega)]
          have hlt := length_rest_nextStep_lt room setting c rest body.endLine
          have hle := length_dropBlanks_le cs
          rw [hdrop] at hle
          rw [readRest_cons hdrop, nextStep_numbered] at h
          rcases ih _ (by omega) hleft hpassed h rfl with hrecord | hreached
          · rcases mem_recordStep hinner hrecord with hr | ⟨block?, hitem⟩ |
              ⟨item, inside, hitem, hinside, k, rfl, hr⟩
            · exact Or.inl hr
            · obtain ⟨name, line, rfl, hkeyword, hprelude⟩ := keyword_of_nextStep hitem
              have hlength := congrArg List.length hcontent
              rw [List.length_append] at hlength
              have hreached := reached_keyword hcontent (hto _ (Nat.le_refl _) (by omega))
              rw [← hkeyword, ← hprelude] at hreached
              exact Or.inr hreached
            · exact Or.inr (reached_inside hcontent hto hitem hinside hr)
          · exact Or.inr hreached

/-- The reader comes to every at-rule that it finds in a block. -/
theorem reached_of_mem_readBody (room : Nat) (r : AtRule) :
    AddsAtRules (fun setting body => Reached room setting body r) r (readBody room) := by
  have hrest : ∀ room, AddsAtRules (fun setting body => ∃ k, room = k + 1 ∧ Reached k setting body r)
      r (readInside room) →
        AddsAtRules (fun setting body => Reached room setting body r) r (readBody room) := by
    intro room hinner setting body n record h
    rw [readBody_eq] at h
    exact reached_of_mem_readRest hinner (List.nil_append _).symm (fun _ _ => rfl) h
  induction room with
  | zero => exact hrest 0 fun _ _ _ _ h => Or.inl h
  | succ room ih =>
      exact hrest (room + 1) fun setting body n record h =>
        (ih setting body n record h).imp_right fun hr => ⟨room, rfl, hr⟩

/-! ## Texts -/

/-- Every at-rule of a style sheet stands behind a sign that is a token of its own, where the reader
comes to it. -/
theorem exists_atRuleBetween? {source : String} {r : AtRule} (h : r ∈ (extract source).atRules) :
    ∃ front back a, source = front ++ "@" ++ back ∧ atRuleBetween? front back = some a ∧
      r = ⟨a.keyword, a.prelude⟩ := by
  have hevent : .atRule r ∈
      (readBody nestingLimit .rules (Body.ofText source.toList) .start).events := by
    rw [extract, Extraction.ofEvents, List.mem_filterMap] at h
    obtain ⟨e, he, her⟩ := h
    rw [findings, Recorder.found, List.mem_reverse] at he
    cases e with
    | atRule r' =>
        cases her
        exact he
    | _ => cases her
  rcases reached_of_mem_readBody nestingLimit r .rules _ 0 _ hevent with hstart |
    ⟨spot, a, line, ha, hstands, hr⟩
  · cases hstart
  · obtain ⟨ts, us, htokens, hspot⟩ := token_of_standing hstands
    obtain ⟨front, back, l, hsource, hident, hsign⟩ := exists_sign (Prod.ext htokens rfl)
    refine ⟨String.ofList front, String.ofList back, a, ?_, ?_, hr⟩
    · rw [← String.toList_inj, hsource]
      simp
    · have hlast : (tokens (front ++ ['@'])).1.getLast?.map PlacedToken.token =
          some (.delim '@') := by
        rw [hsign, List.getLast?_concat]
        rfl
      rw [atRuleBetween?]
      simp only [String.toList_ofList]
      rw [if_pos ⟨hlast, hident⟩, hsign, List.dropLast_concat, hspot, ← hsource]
      exact ha

end FeatureScan.Css
