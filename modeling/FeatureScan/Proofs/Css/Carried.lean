import FeatureScan.Proofs.Css.Recast
import FeatureScan.Style.Scan

/-!
# Reading from another place

What is found in a block does not depend on what was found before it: from another block number on,
and behind other findings, a recast block gives the same findings, recast and with their blocks
numbered from there.

## Main results

* `keyword_steps`: the keywords of at-rules are found in small letters.
* `recordStep_carried`: recording one step.
* `readBody_carried`: reading a block with all that it holds.
* `unrecognized_carried`: the names in it that no rule knows are the same.
-/

namespace FeatureScan.Css

open Text

/-! ## Keywords -/

/-- An item without capitals in the keyword of an at-rule. -/
def Item.KeywordLow : Item → Prop
  | .atRule keyword _ _ => asciiLower keyword = keyword
  | _ => True

/-- A step that finds no at-rule with capitals in its keyword. -/
def Step.KeywordLow (s : Step) : Prop := ∀ item ∈ s.item, item.KeywordLow

theorem keyword_atRuleStep (room : Nat) (name : String) (cs : List Component) :
    (atRuleStep room name cs).KeywordLow := by
  intro item h
  unfold atRuleStep at h
  dsimp only at h
  split at h
  · split at h <;> cases h <;> exact asciiLower_asciiLower name
  · cases h
    exact asciiLower_asciiLower name

theorem keyword_ruleStep (room : Nat) (cs : List Component) (endLine : Nat) :
    (ruleStep room cs endLine).KeywordLow := by
  intro item h
  unfold ruleStep at h
  dsimp only at h
  split at h
  · cases h
  · cases h
  · split at h
    · cases h
    · split at h
      · cases h
      · cases h
        trivial

theorem keyword_rulesStep (room : Nat) (c : Component) (cs : List Component) (endLine : Nat) :
    (rulesStep room c cs endLine).KeywordLow := by
  unfold rulesStep
  split
  · exact keyword_atRuleStep room _ cs
  · exact nofun
  · exact nofun
  · exact nofun
  · exact nofun
  · exact keyword_ruleStep room _ endLine

theorem keyword_styleStep (room : Nat) (selector : String) (c : Component) (cs : List Component)
    (endLine : Nat) : (styleStep room selector c cs endLine).KeywordLow := by
  have hother : (declarationStep selector (ruleStep room (c :: cs) endLine)
      (readDeclaration room (c :: cs) endLine)).KeywordLow := by
    cases readDeclaration room (c :: cs) endLine with
    | declared =>
        intro item h
        cases h
        trivial
    | dropped => exact nofun
    | noDeclaration => exact keyword_ruleStep room (c :: cs) endLine
  rw [styleStep_eq]
  split
  · exact keyword_atRuleStep room _ cs
  · exact nofun
  · exact hother

/-- The keywords of at-rules are found in small letters. -/
theorem keyword_steps (room : Nat) (setting : Setting) (body : Body) :
    ∀ s ∈ steps room setting body, s.KeywordLow := by
  have hnext : ∀ c cs endLine, (nextStep room setting c cs endLine).KeywordLow := by
    intro c cs endLine
    cases setting with
    | rules => exact keyword_rulesStep room c cs endLine
    | style selector block => exact keyword_styleStep room selector c cs endLine
  have hfrom : ∀ done cs, (∀ s ∈ done, s.KeywordLow) →
      ∀ s ∈ stepsFrom room setting body.endLine done cs, s.KeywordLow := by
    intro done cs
    fun_induction stepsFrom room setting body.endLine done cs with
    | case1 done cs hnil =>
        intro hdone s hs
        exact hdone s (List.mem_reverse.1 hs)
    | case2 done cs c rest hcons step ih =>
        intro hdone
        exact ih (List.forall_mem_cons.2 ⟨hnext c rest _, hdone⟩)
  exact hfrom [] body.content (List.forall_mem_nil _)

/-! ## What is carried -/

/-- A setting with its block's number moved. -/
def Setting.moved (k : Nat) : Setting → Setting
  | .rules => .rules
  | .style selector block => .style selector (block + k)

/-- The step of a setting does not look at the number of its block. -/
theorem steps_moved (room k : Nat) (setting : Setting) (body : Body) :
    steps room (setting.moved k) body = steps room setting body := by
  cases setting with
  | rules => rfl
  | style selector block =>
      have hfrom : ∀ done cs, stepsFrom room (.style selector (block + k)) body.endLine done cs =
          stepsFrom room (.style selector block) body.endLine done cs := by
        intro done cs
        fun_induction stepsFrom room (.style selector block) body.endLine done cs with
        | case1 done cs hnil => exact stepsFrom_nil hnil
        | case2 done cs c rest hcons step ih =>
            rw [stepsFrom_cons hcons]
            exact ih
      exact hfrom [] body.content

/-- A setting recast and with its block's number moved. -/
def Setting.carried (k : Nat) (ρ : Recasting) (setting : Setting) : Setting :=
  (setting.recast ρ).moved k

/-- A recast declaration with its block's number moved. -/
def Declaration.carried (k : Nat) (ρ : Recasting) (d : Declaration) : Declaration :=
  ⟨ρ.property d.property, ρ.text d.value, ρ.text d.selector, d.block + k⟩

/-- A recast at-rule. Its keyword is in small letters already. -/
def AtRule.recast (ρ : Recasting) (a : AtRule) : AtRule := ⟨a.keyword, ρ.text a.prelude⟩

/-- A recast selector with its block's number moved. -/
def SelectorEntry.carried (k : Nat) (ρ : Recasting) (s : SelectorEntry) : SelectorEntry :=
  ⟨ρ.text s.selector, s.block + k⟩

/-- A recast finding with its block's number moved. -/
def Event.carried (k : Nat) (ρ : Recasting) : Event → Event
  | .declaration d => .declaration (d.carried k ρ)
  | .atRule a => .atRule (a.recast ρ)
  | .selector s => .selector (s.carried k ρ)
  | .notice n => .notice (n.recast ρ)

/-- An extraction, recast and with its blocks' numbers moved. -/
def Extraction.carried (k : Nat) (ρ : Recasting) (e : Extraction) : Extraction :=
  ⟨e.declarations.map (Declaration.carried k ρ), e.atRules.map (AtRule.recast ρ),
    e.selectors.map (SelectorEntry.carried k ρ), e.notices.map (Notice.recast ρ)⟩

theorem ofEvents_carried (k : Nat) (ρ : Recasting) (events : List Event) :
    Extraction.ofEvents (events.map (Event.carried k ρ)) =
      (Extraction.ofEvents events).carried k ρ := by
  simp only [Extraction.ofEvents, Extraction.carried, List.filterMap_map, List.map_filterMap,
    Extraction.mk.injEq]
  refine ⟨?_, ?_, ?_, ?_⟩ <;> (congr 1; funext e; cases e <;> rfl)

/-- A record that goes on behind the findings `base`, with its own carried. -/
def Recorder.carried (k : Nat) (ρ : Recasting) (base : List Event) (r : Recorder) : Recorder :=
  ⟨r.lastBlock + k, r.events.map (Event.carried k ρ) ++ base⟩

/-! ## Reading -/

section Carried

variable {k : Nat} {ρ : Recasting} {base : List Event}

theorem recordNotices_carried (r : Recorder) (ns : List Notice) :
    (r.carried k ρ base).recordNotices (ns.map (Notice.recast ρ)) =
      (r.recordNotices ns).carried k ρ base := by
  unfold Recorder.recordNotices
  induction ns generalizing r with
  | nil => rfl
  | cons n ns ih =>
      rw [List.map_cons, List.foldl_cons, List.foldl_cons, ← ih]
      rfl

theorem newBlock_carried (r : Recorder) :
    (r.carried k ρ base).newBlock = r.newBlock.carried k ρ base := by
  simp only [Recorder.newBlock, Recorder.carried, Nat.add_right_comm]

theorem atRuleSetting_carried {keyword : String} (hlow : asciiLower keyword = keyword)
    (outer : Setting) (block : Nat) :
    atRuleSetting (outer.carried k ρ) keyword (block + k) =
      (atRuleSetting outer keyword block).carried k ρ := by
  have hname : ρ.text ("@" ++ keyword) = "@" ++ keyword := by
    have hat : asciiLower ("@" ++ keyword) = "@" ++ keyword := by
      rw [asciiLower_append, hlow]
      rfl
    rw [← hat, ρ.text_asciiLower]
  unfold atRuleSetting
  dsimp only
  split
  · cases outer with
    | rules => rfl
    | style selector b =>
        simp only [Setting.carried, Setting.recast, Setting.moved]
        split <;> rfl
  · rw [Setting.carried, Setting.recast, hname]
    rfl

variable {inner : Setting → Body → Recorder → Recorder}

theorem readAtRuleBody_carried
    (hinner : ∀ setting body r, inner (setting.carried k ρ) (body.recast ρ) (r.carried k ρ base) =
      (inner setting body r).carried k ρ base)
    (outer : Setting) {keyword : String} (hlow : asciiLower keyword = keyword) (body : Body)
    (r : Recorder) :
    readAtRuleBody inner (outer.carried k ρ) keyword (body.recast ρ) (r.carried k ρ base) =
      (readAtRuleBody inner outer keyword body r).carried k ρ base := by
  unfold readAtRuleBody
  rw [show (r.carried k ρ base).lastBlock + 1 = r.lastBlock + 1 + k from Nat.add_right_comm _ _ _,
    atRuleSetting_carried hlow]
  cases atRuleSetting outer keyword (r.lastBlock + 1) with
  | rules => exact hinner .rules body r
  | style selector block =>
      change inner ((Setting.style selector block).carried k ρ) _ _ = _
      rw [newBlock_carried, hinner]

theorem recordStep_carried
    (hinner : ∀ setting body r, inner (setting.carried k ρ) (body.recast ρ) (r.carried k ρ base) =
      (inner setting body r).carried k ρ base)
    (setting : Setting) (r : Recorder) {s : Step} (hs : s.KeywordLow) :
    recordStep inner (setting.carried k ρ) (r.carried k ρ base) (s.recast ρ) =
      (recordStep inner setting r s).carried k ρ base := by
  have hrecord : ∀ (r : Recorder) (e : Event),
      (r.carried k ρ base).record (e.carried k ρ) = (r.record e).carried k ρ base :=
    fun _ _ => rfl
  unfold recordStep
  dsimp only [Step.recast]
  rw [recordNotices_carried]
  generalize r.recordNotices s.notices = r
  cases hitem : s.item with
  | none => rfl
  | some item =>
      cases item with
      | declaration property value => cases setting <;> rfl
      | rule selector line body =>
          dsimp only [Item.recast, Option.map_some]
          rw [newBlock_carried, ← hinner, ← hrecord]
          simp only [Setting.carried, Setting.recast, Setting.moved, Event.carried,
            SelectorEntry.carried, Recorder.carried, Nat.add_right_comm]
      | atRule keyword prelude body =>
          cases body with
          | none => rfl
          | some body =>
              exact readAtRuleBody_carried hinner setting (hs _ hitem) body
                (r.record (.atRule ⟨keyword, prelude⟩))

theorem foldl_recordStep_carried
    (hinner : ∀ setting body r, inner (setting.carried k ρ) (body.recast ρ) (r.carried k ρ base) =
      (inner setting body r).carried k ρ base)
    (setting : Setting) {ss : List Step} (hss : ∀ s ∈ ss, s.KeywordLow) (r : Recorder) :
    (ss.map (Step.recast ρ)).foldl (recordStep inner (setting.carried k ρ)) (r.carried k ρ base) =
      (ss.foldl (recordStep inner setting) r).carried k ρ base := by
  induction ss generalizing r with
  | nil => rfl
  | cons s ss ih =>
      rw [List.map_cons, List.foldl_cons, List.foldl_cons,
        recordStep_carried hinner setting r (hss s List.mem_cons_self),
        ih fun s hs => hss s (List.mem_cons_of_mem _ hs)]

/-- A recast block is read alike wherever its block numbers start, and whatever was found before. -/
theorem readBody_carried (room : Nat) (setting : Setting) (body : Body) (r : Recorder) :
    readBody room (setting.carried k ρ) (body.recast ρ) (r.carried k ρ base) =
      (readBody room setting body r).carried k ρ base := by
  have hsteps : ∀ room setting body, steps room (setting.carried k ρ) (body.recast ρ) =
      (steps room setting body).map (Step.recast ρ) := by
    intro room setting body
    rw [Setting.carried, steps_moved, steps_recast]
  induction room generalizing setting body r with
  | zero =>
      rw [readBody, readBody, hsteps]
      -- Out of room, the blocks inside are passed over.
      refine foldl_recordStep_carried ?_ setting (keyword_steps 0 setting body) r
      exact fun _ _ _ => rfl
  | succ room ih =>
      rw [readBody, readBody, hsteps]
      exact foldl_recordStep_carried ih setting (keyword_steps (room + 1) setting body) r

end Carried

end FeatureScan.Css

namespace FeatureScan.Style

open Css

/-! ## Unknown names -/

theorem isAuthors_eq (property : String) : isAuthors property = isCustomProperty property := by
  rw [isAuthors, isCustomProperty, Bool.eq_iff_iff, List.isPrefixOf_iff_prefix, Text.hasFront,
    Option.isSome_iff_exists]
  constructor
  · rintro ⟨rest, h⟩
    exact ⟨rest, Text.afterFront?_eq_some_iff.2 h.symm⟩
  · rintro ⟨rest, h⟩
    exact ⟨rest, (Text.afterFront?_eq_some_iff.1 h).symm⟩

/-- The properties that are not authors' own are the same. -/
theorem properties_carried (k : Nat) (ρ : Recasting) (ds : List Declaration) :
    ((ds.map (Declaration.carried k ρ)).map Declaration.property).filter
        (fun p => !isAuthors p) =
      (ds.map Declaration.property).filter fun p => !isAuthors p := by
  induction ds with
  | nil => rfl
  | cons d ds ih =>
      have hauthors : isAuthors (d.carried k ρ).property = isAuthors d.property := by
        rw [isAuthors_eq, isAuthors_eq]
        exact isCustomProperty_property d.property
      simp only [List.map_cons, List.filter_cons, hauthors, ih]
      cases h : isAuthors d.property with
      | true => rfl
      | false =>
          have hname : (d.carried k ρ).property = d.property := by
            rw [isAuthors_eq] at h
            show ρ.property d.property = d.property
            rw [Recasting.property, h]
            rfl
          rw [hname]

theorem unrecognized_carried (rules : LayeredTable) (k : Nat) (ρ : Recasting) (e : Extraction) :
    unrecognized rules (e.carried k ρ) = unrecognized rules e := by
  have hkeywords : (e.carried k ρ).atRules.map AtRule.keyword = e.atRules.map AtRule.keyword := by
    rw [Extraction.carried, List.map_map]
    rfl
  have hproperties : ((e.carried k ρ).declarations.map Declaration.property).filter
      (fun p => !isAuthors p) =
        (e.declarations.map Declaration.property).filter fun p => !isAuthors p :=
    properties_carried k ρ e.declarations
  unfold unrecognized
  rw [hkeywords, hproperties]

end FeatureScan.Style
