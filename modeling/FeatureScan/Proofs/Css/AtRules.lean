import FeatureScan.Proofs.Css.AtSign
import FeatureScan.Proofs.Css.Flattening
import FeatureScan.Proofs.Css.Stepping
import FeatureScan.Proofs.Css.Swapping
import FeatureScan.Proofs.Text.CaseBlind

/-!
# At-rules under another keyword

The reader comes to an at-rule where a step starts at its keyword. When another keyword with the same
name behind a vendor tag stands there, every other step is the same, the at-rule has the same prelude
and its block is read in the same way, so the record differs in the keyword, and in the findings
under a pseudo-selector made of it.

## Main results

* `stepTo?_swapped`: the steps before the one that takes the keyword, or the block around it.
* `readBody_keyword`: a block is read alike under both keywords.
* `readBody_rekeyed`: so is a whole style sheet, with a vendor tag and without it.
-/

namespace FeatureScan.Css

/-! ## Where the reader comes to an at-rule -/

/-- An at-rule that the reader has come to. -/
structure AtRuleReading where
  /-- How many further levels of nesting are allowed. -/
  room : Nat
  /-- Where it stands. Of a block around it, the selector matters but not the number. -/
  outer : Setting
  /-- Its name as it is written. -/
  name : String
  /-- The components behind its keyword. -/
  behind : List Component

namespace AtRuleReading

/-- The keyword. -/
def keyword (a : AtRuleReading) : String := Text.asciiLower a.name

/-- The prelude. -/
def prelude (a : AtRuleReading) : String := (readPrelude a.room a.behind .fresh).1.text

/-- The block, if it has one that is read. -/
def block? (a : AtRuleReading) : Option Body :=
  match (readPrelude a.room a.behind .fresh).2.1 with
  | .block _ body => if a.room = 0 then none else some body
  | _ => none

/-- What is found in its block under a keyword, when `k` blocks have numbers already. -/
def findings (a : AtRuleReading) (keyword : String) (k : Nat) : List Event :=
  match a.block? with
  | none => []
  | some body => (readAtRuleBody (readInside a.room) a.outer keyword body ⟨k, []⟩).found

end AtRuleReading

/-- The setting in which the block of an item is read, but for the number of that block. -/
def Item.setting (outer : Setting) : Item → Setting
  | .declaration _ _ => outer
  | .rule selector _ _ => .style selector 0
  | .atRule keyword _ _ => atRuleSetting outer keyword 0

/-- The step that takes component `i` of a block of `size` components: the component where it starts,
and those behind that one. What is left of the block is `cs`. -/
def stepTo? (room : Nat) (setting : Setting) (endLine size i : Nat) (cs : List Component) :
    Option (Component × List Component) :=
  match _h : dropBlanks cs with
  | [] => none
  | c :: rest =>
    let step := nextStep room setting c rest endLine
    if size ≤ i + step.rest.length then stepTo? room setting endLine size i step.rest
    else some (c, rest)
termination_by cs.length
decreasing_by
  have hle := length_dropBlanks_le cs
  have hlt := length_rest_nextStep_lt room setting c rest endLine
  rw [_h] at hle
  exact Nat.lt_of_lt_of_le hlt hle

/-- The at-rule whose keyword stands at a spot, if the reader comes to it: a step starts there, or it
lies in a block that a step takes last. -/
def atRuleAt? (room : Nat) (setting : Setting) (body : Body) : Spot → Option AtRuleReading
  | [] => none
  | i :: deeper =>
    match stepTo? room setting body.endLine body.content.length i body.content with
    | none => none
    | some (c, rest) =>
      let step := nextStep room setting c rest body.endLine
      if i + rest.length + 1 = body.content.length then
        match c, deeper with
        | .leaf (.atKeyword name) _, [] => some ⟨room, setting, name, rest⟩
        | _, _ => none
      else if i + step.rest.length + 1 = body.content.length then
        match room, step.item with
        | room + 1, some item =>
          match item.body? with
          | some inside => atRuleAt? room (item.setting setting) inside deeper
          | none => none
        | _, _ => none
      else none

/-! ## Settings but for the numbers of blocks -/

/-- A setting with another number for its block. -/
def Setting.numbered (n : Nat) : Setting → Setting
  | .rules => .rules
  | .style selector _ => .style selector n

theorem nextStep_numbered (room : Nat) (setting : Setting) (n : Nat) (c : Component)
    (cs : List Component) (endLine : Nat) :
    nextStep room (setting.numbered n) c cs endLine = nextStep room setting c cs endLine := by
  cases setting <;> rfl

theorem atRuleSetting_numbered (outer : Setting) (keyword : String) (m n k : Nat) :
    atRuleSetting (outer.numbered m) keyword n = (atRuleSetting outer keyword k).numbered n := by
  unfold atRuleSetting
  dsimp only
  split
  · cases outer with
    | rules => rfl
    | style selector block =>
        dsimp only [Setting.numbered]
        split <;> rfl
  · rfl

theorem readAtRuleBody_numbered (inner : Setting → Body → Recorder → Recorder) (outer : Setting)
    (n : Nat) (keyword : String) (body : Body) (r : Recorder) :
    readAtRuleBody inner (outer.numbered n) keyword body r =
      readAtRuleBody inner outer keyword body r := by
  cases outer <;> rfl

/-! ## Records under two keywords -/

theorem Adds.found {g : Recorder → Recorder} (hg : Adds g) (r : Recorder) :
    (g r).found = r.found ++ (g ⟨r.lastBlock, []⟩).found ∧
      (g r).lastBlock = (g ⟨r.lastBlock, []⟩).lastBlock := by
  have honto : g r = (g ⟨r.lastBlock, []⟩).onto r.events := hg ⟨r.lastBlock, []⟩ r.events
  rw [honto]
  exact ⟨List.reverse_append, rfl⟩

/-- Two records that differ in the keyword of an at-rule and in the pseudo-selector of what is found
in its block. -/
def Rekeyed (a : AtRuleReading) (keyword : String) (r r' : Recorder) : Prop :=
  r.lastBlock = r'.lastBlock ∧ ∃ before after k,
    r.found = before ++ .atRule ⟨a.keyword, a.prelude⟩ :: (a.findings a.keyword k ++ after) ∧
    r'.found = before ++ .atRule ⟨keyword, a.prelude⟩ :: (a.findings keyword k ++ after)

variable {a : AtRuleReading} {keyword : String} {r r' : Recorder}

theorem Rekeyed.add (h : Rekeyed a keyword r r') {g : Recorder → Recorder} (hg : Adds g) :
    Rekeyed a keyword (g r) (g r') := by
  obtain ⟨hlast, before, after, k, hr, hr'⟩ := h
  refine ⟨?_, before, after ++ (g ⟨r.lastBlock, []⟩).found, k, ?_, ?_⟩
  · rw [(hg.found r).2, (hg.found r').2, hlast]
  · rw [(hg.found r).1, hr]
    simp only [List.append_assoc, List.cons_append]
  · rw [(hg.found r').1, hr', hlast]
    simp only [List.append_assoc, List.cons_append]

/-- The step at the keyword of an at-rule. -/
theorem atRuleStep_eq (room : Nat) (outer : Setting) (cs : List Component) :
    ∃ notices, ∀ name, atRuleStep room name cs =
      ⟨notices, some (.atRule (Text.asciiLower name) (AtRuleReading.mk room outer name cs).prelude
        (AtRuleReading.mk room outer name cs).block?), (readPrelude room cs .fresh).2.2⟩ := by
  unfold atRuleStep AtRuleReading.prelude AtRuleReading.block?
  dsimp only
  cases (readPrelude room cs .fresh).2.1 with
  | block line body =>
      dsimp only
      split <;> exact ⟨_, fun _ => rfl⟩
  | _ => exact ⟨_, fun _ => rfl⟩

/-- An at-rule is recorded alike under both keywords. -/
theorem rekeyed_atRuleStep (room : Nat) (outer : Setting) (name name' : String)
    (cs : List Component) (n : Nat) (r : Recorder)
    (hbase : Text.dropVendorTag (Text.asciiLower name') = Text.dropVendorTag (Text.asciiLower name)) :
    Rekeyed ⟨room, outer, name, cs⟩ (Text.asciiLower name')
      (recordStep (readInside room) (outer.numbered n) r (atRuleStep room name cs))
      (recordStep (readInside room) (outer.numbered n) r (atRuleStep room name' cs)) := by
  obtain ⟨notices, hstep⟩ := atRuleStep_eq room outer cs
  have hblock : (AtRuleReading.mk room outer name' cs).block? =
      (AtRuleReading.mk room outer name cs).block? := rfl
  have hprelude : (AtRuleReading.mk room outer name' cs).prelude =
      (AtRuleReading.mk room outer name cs).prelude := rfl
  rw [hstep, hstep, hblock, hprelude]
  simp only [recordStep]
  generalize r.recordNotices notices = r
  have hfindings : ∀ keyword k, (AtRuleReading.mk room outer name cs).findings keyword k =
      match (AtRuleReading.mk room outer name cs).block? with
      | none => []
      | some body => (readAtRuleBody (readInside room) outer keyword body ⟨k, []⟩).found :=
    fun _ _ => rfl
  generalize (AtRuleReading.mk room outer name cs).block? = block at hfindings
  cases block with
  | none =>
      refine ⟨rfl, r.found, [], 0, ?_, ?_⟩ <;>
        simp [hfindings, Recorder.record, Recorder.found, AtRuleReading.keyword]
  | some body =>
      obtain ⟨last, row, hrow, -⟩ := readAtRuleBody_uniform room outer
        (Text.dropVendorTag (Text.asciiLower name)) body r.lastBlock
      have hread : ∀ keyword, Text.dropVendorTag keyword =
          Text.dropVendorTag (Text.asciiLower name) → ∀ prelude,
            let r' := readAtRuleBody (readInside room) (outer.numbered n) keyword body
              (r.record (.atRule ⟨keyword, prelude⟩))
            r'.lastBlock = last ∧ r'.found = r.found ++ .atRule ⟨keyword, prelude⟩ ::
              (readAtRuleBody (readInside room) outer keyword body ⟨r.lastBlock, []⟩).found := by
        intro keyword hkeyword prelude
        have hadds := adds_readAtRuleBody (adds_readInside room) outer keyword body
        obtain ⟨hfound, hlast⟩ := hadds.found (r.record (.atRule ⟨keyword, prelude⟩))
        rw [readAtRuleBody_numbered]
        refine ⟨hlast.trans ?_, hfound.trans ?_⟩
        · exact congrArg Recorder.lastBlock (hrow keyword hkeyword)
        · simp [Recorder.record, Recorder.found]
      obtain ⟨hlast, hfound⟩ := hread (Text.asciiLower name) rfl
        (AtRuleReading.mk room outer name cs).prelude
      obtain ⟨hlast', hfound'⟩ := hread (Text.asciiLower name') hbase
        (AtRuleReading.mk room outer name cs).prelude
      refine ⟨hlast.trans hlast'.symm, r.found, [], r.lastBlock, ?_, ?_⟩
      · rw [hfindings, List.append_nil]
        exact hfound
      · rw [hfindings, List.append_nil]
        exact hfound'

/-! ## What is left of a block -/

/-- Where components differ in one, that one and what surrounds it at its level. -/
theorem Swapped.split {x x' : Component} (hkin : Kindred x x') {j : Nat} {deeper : Spot}
    {cs cs' : List Component} (h : Swapped x x' (j :: deeper) cs cs') :
    ∃ pre y y' post, pre.length = j ∧ cs = pre ++ y :: post ∧ cs' = pre ++ y' :: post ∧
      Kindred y y' ∧
      (y = x ∧ y' = x' ∨ ∃ opener kind line endLine content content',
        y = .group opener kind line content endLine ∧
        y' = .group opener kind line content' endLine ∧ Swapped x x' deeper content content') := by
  cases h with
  | here pre post =>
      exact ⟨pre, x, x', post, rfl, rfl, rfl, hkin, Or.inl ⟨rfl, rfl⟩⟩
  | within pre post opener kind line endLine h =>
      exact ⟨pre, _, _, post, rfl, rfl, rfl, .group opener kind line _ _ endLine,
        Or.inr ⟨opener, kind, line, endLine, _, _, rfl, rfl, h⟩⟩

/-- A step starts at a component or in front of it. -/
theorem dropBlanks_split {pre post rest : List Component} {y c : Component}
    (hy : y.isBlank = false) (h : dropBlanks (pre ++ y :: post) = c :: rest) :
    (c = y ∧ rest = post ∧ ∀ z : Component, z.isBlank = false →
        dropBlanks (pre ++ z :: post) = z :: post) ∨
      ∃ pre', rest = pre' ++ y :: post ∧ ∀ z : Component, z.isBlank = false →
        dropBlanks (pre ++ z :: post) = c :: (pre' ++ z :: post) := by
  rw [dropBlanks_middle hy] at h
  cases hpre : dropBlanks pre with
  | nil =>
      rw [hpre, List.nil_append] at h
      cases h
      refine Or.inl ⟨rfl, rfl, fun z hz => ?_⟩
      rw [dropBlanks_middle hz, hpre, List.nil_append]
  | cons d pre' =>
      rw [hpre, List.cons_append] at h
      cases h
      refine Or.inr ⟨pre', rfl, fun z hz => ?_⟩
      rw [dropBlanks_middle hz, hpre, List.cons_append]

/-- What holds of two blocks read in the setting of an item holds of the steps that find them. -/
theorem recordStep_withBody {inner : Setting → Body → Recorder → Recorder} {setting : Setting}
    {step : Step} {item : Item} {body body' : Body} (hitem : step.item = some item)
    (hbody : item.body? = some body) {p : Recorder → Recorder → Prop}
    (hinner : ∀ k r, p (inner ((item.setting setting).numbered k) body r)
      (inner ((item.setting setting).numbered k) body' r)) (n : Nat) (r : Recorder) :
    p (recordStep inner (setting.numbered n) r step)
      (recordStep inner (setting.numbered n) r
        { step with item := some (item.withBody body') }) := by
  simp only [recordStep, hitem]
  generalize r.recordNotices step.notices = r
  cases item with
  | declaration property value => cases hbody
  | rule selector line inside =>
      cases hbody
      exact hinner (r.lastBlock + 1) (r.newBlock.record (.selector ⟨selector, r.lastBlock + 1⟩))
  | atRule keyword prelude inside =>
      cases hbody
      have hk := fun k => hinner k (r.record (.atRule ⟨keyword, prelude⟩))
      have hk' := fun k => hinner k (r.record (.atRule ⟨keyword, prelude⟩)).newBlock
      dsimp only [Item.withBody, Item.setting] at hk hk' ⊢
      rw [readAtRuleBody_eq, readAtRuleBody_eq, atRuleSetting_numbered setting keyword n _ 0]
      generalize atRuleSetting setting keyword 0 = inside at hk hk' ⊢
      cases inside with
      | rules => exact hk 0
      | style selector block => exact hk' (r.lastBlock + 1)

/-- All steps up to one that takes a component are the same when another of its kind stands there. -/
theorem stepTo?_swapped {room : Nat} {setting : Setting} {endLine size i : Nat}
    {cs pre post rest : List Component} {y y' c : Component}
    (h : stepTo? room setting endLine size i cs = some (c, rest)) (hcs : cs = pre ++ y :: post)
    (hkin : Kindred y y') (hsize : i + post.length + 1 = size) (n : Nat) (r : Recorder) :
    ∃ pre₂ r₂, dropBlanks (pre₂ ++ y :: post) = c :: rest ∧
      i + (nextStep room setting c rest endLine).rest.length < size ∧
      readRest room (setting.numbered n) endLine cs r =
        readRest room (setting.numbered n) endLine (pre₂ ++ y :: post) r₂ ∧
      readRest room (setting.numbered n) endLine (pre ++ y' :: post) r =
        readRest room (setting.numbered n) endLine (pre₂ ++ y' :: post) r₂ := by
  fun_induction stepTo? room setting endLine size i cs generalizing pre r with
  | case1 => cases h
  | case2 cs d rest' hdrop step hleft =>
      rename_i ih
      subst hcs
      rcases dropBlanks_split hkin.isBlank_left hdrop with ⟨-, rfl, -⟩ | ⟨pre', rfl, hdrop'⟩
      · have hlt := length_rest_nextStep_lt room setting d rest' endLine
        have hle : step.rest.length ≤ rest'.length := Nat.le_of_lt_succ hlt
        omega
      · obtain ⟨front, hrest, hstep'⟩ :=
          (nextStep_swaps hkin room setting d pre' post endLine).left
            (show post.length < step.rest.length by omega)
        obtain ⟨pre₂, r₂, hdrop₂, hlt, hr, hr'⟩ :=
          ih h hrest (recordStep (readInside room) (setting.numbered n) r step)
        refine ⟨pre₂, r₂, hdrop₂, hlt, ?_, ?_⟩
        · rw [readRest_cons hdrop, nextStep_numbered]
          exact hr
        · rw [readRest_cons (hdrop' _ hkin.symm.isBlank_left), nextStep_numbered, hstep']
          exact hr'
  | case3 cs d rest' hdrop step =>
      rename_i hleft
      cases h
      subst hcs
      exact ⟨pre, r, hdrop, Nat.not_le.1 hleft, rfl, rfl⟩

/-- A block is read alike under both keywords. -/
theorem readBody_keyword {name name' : String} {line : Nat}
    (hbase : Text.dropVendorTag (Text.asciiLower name') = Text.dropVendorTag (Text.asciiLower name))
    {room : Nat} {setting : Setting} {body body' : Body} {spot : Spot} {a : AtRuleReading}
    (h : atRuleAt? room setting body spot = some a)
    (hswapped : Swapped (.leaf (.atKeyword name) line) (.leaf (.atKeyword name') line) spot
      body.content body'.content) (hend : body.endLine = body'.endLine) (n : Nat) (r : Recorder) :
    a.name = name ∧ Rekeyed a (Text.asciiLower name') (readBody room (setting.numbered n) body r)
      (readBody room (setting.numbered n) body' r) := by
  induction spot generalizing room setting body body' n r with
  | nil =>
      rw [atRuleAt?] at h
      cases h
  | cons i deeper ih =>
      obtain ⟨pre, y, y', post, rfl, hcs, hcs', hkin, hor⟩ :=
        hswapped.split (.keyword name name' line)
      have hsize : pre.length + post.length + 1 = body.content.length := by
        rw [hcs, List.length_append, List.length_cons, Nat.add_assoc]
      rw [readBody_eq, readBody_eq, ← hend, hcs']
      rw [atRuleAt?] at h
      split at h
      · cases h
      · rename_i c rest hstepTo
        obtain ⟨pre₂, r₂, hdrop, hlt, hr, hr'⟩ := stepTo?_swapped hstepTo hcs hkin hsize n r
        rw [hr, hr']
        dsimp only at h
        rw [← hsize] at h hlt
        rcases dropBlanks_split hkin.isBlank_left hdrop with ⟨hc, rfl, hdrop'⟩ |
          ⟨pre', rfl, hdrop'⟩
        · rw [if_pos rfl] at h
          rcases hor with ⟨rfl, rfl⟩ | ⟨_, _, _, _, _, _, rfl, -⟩
          · subst hc
            cases deeper with
            | cons => cases h
            | nil =>
                cases h
                have hstep : ∀ atName, nextStep room setting (.leaf (.atKeyword atName) line) rest
                    body.endLine = atRuleStep room atName rest :=
                  fun _ => by cases setting <;> rfl
                refine ⟨rfl, ?_⟩
                rw [readRest_cons hdrop, readRest_cons (hdrop' _ rfl), nextStep_numbered,
                  nextStep_numbered, hstep, hstep, rest_atRuleStep, rest_atRuleStep]
                exact (rekeyed_atRuleStep room setting name name' rest n r₂ hbase).add
                  (adds_readRest _ _ _ _)
          · subst hc
            cases h
        · rw [if_neg (by simp; omega)] at h
          split at h
          · rename_i hlength
            split at h
            · rename_i room item hitem
              split at h
              · rename_i inside hbody
                rw [Nat.succ_eq_add_one] at hlength
                obtain ⟨opener, l, content, content', e, rfl, rfl, rfl, hstep'⟩ :=
                  (nextStep_swaps hkin (room + 1) setting c pre' post body.endLine).taken item
                    inside hitem hbody (by omega)
                obtain ⟨hx, -⟩ | ⟨_, _, _, _, _, _, hy, hy', hin⟩ := hor
                · cases hx
                cases hy
                cases hy'
                have hlines : (⟨content, e⟩ : Body).endLine = (⟨content', e⟩ : Body).endLine := rfl
                have hrec : ∀ k r, a.name = name ∧ Rekeyed a (Text.asciiLower name')
                    (readBody room ((item.setting setting).numbered k) ⟨content, e⟩ r)
                    (readBody room ((item.setting setting).numbered k) ⟨content', e⟩ r) :=
                  fun k r => ih h hin hlines k r
                refine ⟨(hrec 0 r).1, ?_⟩
                rw [readRest_cons hdrop, readRest_cons (hdrop' _ hkin.symm.isBlank_left),
                  nextStep_numbered, nextStep_numbered, hstep']
                exact (recordStep_withBody hitem hbody (fun k r => (hrec k r).2) n r₂).add
                  (adds_readRest _ _ _ _)
              · cases h
            · cases h
          · cases h

/-! ## Texts -/

/-- The at-rule at the sign between two texts, if the sign is a token of its own there, a name starts
behind it, and the reader comes to an at-rule at it. -/
def atRuleBetween? (front back : String) : Option AtRuleReading :=
  let ts := (tokens (front.toList ++ ['@'])).1
  if ts.getLast?.map PlacedToken.token = some (.delim '@') ∧
      atIdent (Source.places back.toList).1 = true then
    let body := Body.ofText (front.toList ++ '@' :: back.toList)
    atRuleAt? nestingLimit .rules body (ts.dropLast.foldl Nesting.add .start).here
  else none

/-- A style sheet is read alike with a vendor tag behind the sign of an at-rule and without it. -/
theorem readBody_rekeyed {front back : String} {a : AtRuleReading}
    (ha : atRuleBetween? front back = some a) {tag : List Char} (htag : tag ∈ Text.vendorTags)
    (hplain : Text.dropVendorTag a.keyword = a.keyword) :
    a.keyword ≠ "" ∧ Rekeyed a (String.ofList tag ++ a.keyword)
      (readBody nestingLimit .rules (Body.ofText (front.toList ++ '@' :: back.toList)) .start)
      (readBody nestingLimit .rules (Body.ofText (front.toList ++ '@' :: (tag ++ back.toList)))
        .start) := by
  unfold atRuleBetween? at ha
  dsimp only at ha
  split at ha
  · rename_i hsign
    obtain ⟨hsign, hident⟩ := hsign
    obtain ⟨ts, line, hts⟩ : ∃ ts line,
        (tokens (front.toList ++ ['@'])).1 = ts ++ [⟨.delim '@', line⟩] := by
      rcases List.eq_nil_or_concat (tokens (front.toList ++ ['@'])).1 with hnil | ⟨ts, t, hts⟩
      · rw [hnil] at hsign
        cases hsign
      · rw [hts, List.concat_eq_append] at hsign ⊢
        simp only [List.getLast?_append, List.getLast?_singleton, Option.some_or,
          Option.map_some, Option.some.injEq] at hsign
        exact ⟨ts, t.line, by rw [← hsign]⟩
    rw [hts, List.dropLast_concat] at ha
    obtain ⟨name, l, us, last, hname, hback, htagged⟩ := tokens_sign hts hident
    obtain ⟨hswapped, hend⟩ := ofText_swapped hback (htagged tag htag)
    have hlower : Text.asciiLower (String.ofList tag ++ name) =
        String.ofList tag ++ Text.asciiLower name := by
      rw [Text.asciiLower_append, Text.asciiLower_vendorTag htag]
    -- The name is the one at the spot, which the reading without another keyword already tells.
    have hsame := (ofText_swapped hback hback).1
    have haname : a.name = name := (readBody_keyword rfl ha hsame rfl 0 .start).1
    have hkeyword : a.keyword = Text.asciiLower name := by rw [AtRuleReading.keyword, haname]
    have hne : a.keyword ≠ "" := by
      rw [hkeyword]
      simpa [Text.asciiLower] using hname
    have hbase : Text.dropVendorTag (Text.asciiLower (String.ofList tag ++ name)) =
        Text.dropVendorTag (Text.asciiLower name) := by
      rw [hlower, ← hkeyword, hplain, Text.dropVendorTag_append htag hne]
    have hread := (readBody_keyword hbase ha hswapped hend 0 .start).2
    rw [hlower, ← hkeyword] at hread
    exact ⟨hne, hread⟩
  · cases ha

end FeatureScan.Css
