import FeatureScan.Proofs.Css.Recast

/-!
# Blocks under a selector that is left open

Reading a block adds to a record and looks at nothing in it but the number of the last block. What is
added for a block of declarations is the same whatever their selector, but for that selector: it
stands in the declarations of the block, in those of the containers in it, and in the notices about
what is no declaration, and no step depends on it.

## Main results

* `adds_readBody`: reading a block adds to the record.
* `uniform_readBody`: reading a block of declarations under any selector.
* `readAtRuleBody_uniform`: reading the block of an at-rule under any keyword that a vendor may give
  to it.
-/

namespace FeatureScan.Css

/-! ## Reading what is left of a block -/

/-- Reads a block inside one in which `room` further levels of nesting are allowed. -/
def readInside : Nat → Setting → Body → Recorder → Recorder
  | 0 => fun _ _ r => r
  | room + 1 => readBody room

/-- Reads what is left of a block that ends on line `endLine`. -/
def readRest (room : Nat) (setting : Setting) (endLine : Nat) (cs : List Component)
    (r : Recorder) : Recorder :=
  (stepsFrom room setting endLine [] cs).foldl (recordStep (readInside room) setting) r

theorem readBody_eq (room : Nat) (setting : Setting) (body : Body) (r : Recorder) :
    readBody room setting body r = readRest room setting body.endLine body.content r := by
  cases room <;> rw [readBody] <;> rfl

section Rest

variable {room : Nat} {setting : Setting} {endLine : Nat} {cs : List Component} {r : Recorder}

theorem readRest_nil (h : dropBlanks cs = []) : readRest room setting endLine cs r = r := by
  rw [readRest, stepsFrom_nil h]
  rfl

theorem readRest_cons {c : Component} {rest : List Component} (h : dropBlanks cs = c :: rest) :
    readRest room setting endLine cs r =
      readRest room setting endLine (nextStep room setting c rest endLine).rest
        (recordStep (readInside room) setting r (nextStep room setting c rest endLine)) := by
  rw [readRest, stepsFrom_cons h, stepsFrom_eq_append]
  rfl

end Rest

/-! ## Adding to a record -/

/-- A record with other findings before its own. -/
def Recorder.onto (base : List Event) (r : Recorder) : Recorder := ⟨r.lastBlock, r.events ++ base⟩

/-- A reader that adds findings to a record, whatever is in it already. -/
def Adds (f : Recorder → Recorder) : Prop := ∀ r base, f (r.onto base) = (f r).onto base

theorem adds_id : Adds fun r => r := fun _ _ => rfl

theorem Adds.comp {f g : Recorder → Recorder} (hf : Adds f) (hg : Adds g) :
    Adds fun r => f (g r) := by
  intro r base
  dsimp only
  rw [hg, hf]

theorem adds_record (e : Event) : Adds fun r => r.record e := fun _ _ => rfl

theorem adds_newBlock : Adds Recorder.newBlock := fun _ _ => rfl

theorem adds_recordNotices (ns : List Notice) : Adds fun r => r.recordNotices ns := by
  induction ns with
  | nil => exact adds_id
  | cons n ns ih => exact ih.comp (adds_record (.notice n))

section Readers

variable {inner : Setting → Body → Recorder → Recorder}

theorem adds_readAtRuleBody (hinner : ∀ setting body, Adds (inner setting body)) (outer : Setting)
    (keyword : String) (body : Body) : Adds (readAtRuleBody inner outer keyword body) := by
  intro r base
  unfold readAtRuleBody
  rw [show (r.onto base).lastBlock = r.lastBlock from rfl]
  cases atRuleSetting outer keyword (r.lastBlock + 1) with
  | rules => exact hinner .rules body r base
  | style selector block => exact (hinner (.style selector block) body).comp adds_newBlock r base

theorem adds_recordStep (hinner : ∀ setting body, Adds (inner setting body)) (setting : Setting)
    (step : Step) : Adds fun r => recordStep inner setting r step := by
  intro r base
  dsimp only [recordStep]
  rw [show (r.onto base).recordNotices step.notices = (r.recordNotices step.notices).onto base from
    adds_recordNotices step.notices r base]
  generalize r.recordNotices step.notices = r
  cases step.item with
  | none => rfl
  | some item =>
      cases item with
      | declaration property value => cases setting <;> rfl
      | rule selector line body =>
          exact hinner _ body (r.newBlock.record (.selector ⟨selector, r.lastBlock + 1⟩)) base
      | atRule keyword prelude body =>
          cases body with
          | none => rfl
          | some body =>
              exact adds_readAtRuleBody hinner setting keyword body
                (r.record (.atRule ⟨keyword, prelude⟩)) base

theorem adds_foldl_recordStep (hinner : ∀ setting body, Adds (inner setting body))
    (setting : Setting) (ss : List Step) : Adds (ss.foldl (recordStep inner setting)) := by
  induction ss with
  | nil => exact adds_id
  | cons s ss ih => exact ih.comp (adds_recordStep hinner setting s)

end Readers

theorem adds_readBody (room : Nat) (setting : Setting) (body : Body) :
    Adds (readBody room setting body) := by
  induction room generalizing setting body with
  | zero =>
      intro r base
      rw [readBody, readBody]
      exact adds_foldl_recordStep (fun _ _ => adds_id) setting _ r base
  | succ room ih =>
      intro r base
      rw [readBody, readBody]
      exact adds_foldl_recordStep ih setting _ r base

theorem adds_readInside (room : Nat) (setting : Setting) (body : Body) :
    Adds (readInside room setting body) := by
  cases room with
  | zero => exact adds_id
  | succ room => exact adds_readBody room setting body

theorem adds_readRest (room : Nat) (setting : Setting) (endLine : Nat) (cs : List Component) :
    Adds (readRest room setting endLine cs) :=
  adds_foldl_recordStep (adds_readInside room) setting _

/-! ## Findings with the selector left open -/

/-- A finding in a block whose selector is left open. -/
inductive Slot
  | fixed (e : Event)
  | declaration (property value : String) (block : Nat)
  | invalid (line : Nat)

/-- The finding under a selector. -/
def Slot.fill (selector : String) : Slot → Event
  | .fixed e => e
  | .declaration property value block => .declaration ⟨property, value, selector, block⟩
  | .invalid line => .notice ⟨line, .invalidDeclaration selector⟩

/-- Records for every selector that differ in that selector only. -/
def Uniform (f : String → Recorder) : Prop :=
  ∃ (k : Nat) (row : List Slot), ∀ selector, f selector = ⟨k, row.map (Slot.fill selector)⟩

theorem map_fill_fixed (selector : String) (events : List Event) :
    (events.map Slot.fixed).map (Slot.fill selector) = events := by
  rw [List.map_map]
  exact List.map_id _

/-- What a reader adds is the same for every selector. -/
theorem Adds.uniform {g : Recorder → Recorder} (hg : Adds g) {f : String → Recorder}
    (hf : Uniform f) : Uniform fun selector => g (f selector) := by
  obtain ⟨k, row, hf⟩ := hf
  refine ⟨(g ⟨k, []⟩).lastBlock, (g ⟨k, []⟩).events.map Slot.fixed ++ row, fun selector => ?_⟩
  have honto : f selector = Recorder.onto (row.map (Slot.fill selector)) ⟨k, []⟩ := hf selector
  dsimp only
  rw [honto, hg, List.map_append, map_fill_fixed]
  rfl

theorem Uniform.record {f : String → Recorder} (hf : Uniform f) (slot : Slot) :
    Uniform fun selector => (f selector).record (slot.fill selector) := by
  obtain ⟨k, row, hf⟩ := hf
  refine ⟨k, slot :: row, fun selector => ?_⟩
  dsimp only
  rw [hf]
  rfl

theorem Uniform.lastBlock {f : String → Recorder} (hf : Uniform f) :
    ∃ k, ∀ selector, (f selector).lastBlock = k := by
  obtain ⟨k, row, hf⟩ := hf
  exact ⟨k, fun selector => by rw [hf]⟩

/-- A step inside a block does not depend on its selector, unless what it drops is to be reported. -/
theorem styleStep_uniform (room : Nat) (c : Component) (cs : List Component) (endLine : Nat) :
    (∃ step, ∀ selector, styleStep room selector c cs endLine = step) ∨
      ∃ notices line rest, ∀ selector, styleStep room selector c cs endLine =
        ⟨notices ++ [⟨line, .invalidDeclaration selector⟩], none, rest⟩ := by
  have hdeclaration : (∃ step, ∀ selector, declarationStep selector
        (ruleStep room (c :: cs) endLine) (readDeclaration room (c :: cs) endLine) = step) ∨
      ∃ notices line rest, ∀ selector, declarationStep selector
        (ruleStep room (c :: cs) endLine) (readDeclaration room (c :: cs) endLine) =
          ⟨notices ++ [⟨line, .invalidDeclaration selector⟩], none, rest⟩ := by
    cases readDeclaration room (c :: cs) endLine with
    | declared property value notices rest => exact Or.inl ⟨_, fun _ => rfl⟩
    | dropped notices line rest => exact Or.inr ⟨notices, line, rest, fun _ => rfl⟩
    | noDeclaration notices => exact Or.inl ⟨_, fun _ => rfl⟩
  simp only [styleStep_eq]
  cases c with
  | leaf t line =>
      cases t with
      | atKeyword name => exact Or.inl ⟨_, fun _ => rfl⟩
      | semicolon => exact Or.inl ⟨_, fun _ => rfl⟩
      | _ => exact hdeclaration
  | group => exact hdeclaration

section UniformReaders

variable {inner : Setting → Body → Recorder → Recorder}
  (hinner : ∀ setting body, Adds (inner setting body))
  (huniform : ∀ block body (f : String → Recorder), Uniform f →
    Uniform fun selector => inner (.style selector block) body (f selector))
  {f : String → Recorder} (hf : Uniform f)

include hinner huniform hf

/-- An at-rule inside a block hands the selector on to its own block, or has no use for it. -/
theorem uniform_readAtRuleBody (block : Nat) (keyword : String) (body : Body) :
    Uniform fun selector =>
      readAtRuleBody inner (.style selector block) keyword body (f selector) := by
  obtain ⟨k, hk⟩ := hf.lastBlock
  simp only [readAtRuleBody, atRuleSetting, hk]
  split
  · split
    · exact huniform _ body _ (adds_newBlock.uniform hf)
    · exact (hinner .rules body).uniform hf
  · exact ((hinner _ body).comp adds_newBlock).uniform hf

theorem uniform_recordStep (block : Nat) (step : Step) :
    Uniform fun selector => recordStep inner (.style selector block) (f selector) step := by
  have hnotices := (adds_recordNotices step.notices).uniform hf
  obtain ⟨k, hk⟩ := hnotices.lastBlock
  simp only [recordStep]
  cases step.item with
  | none => exact hnotices
  | some item =>
      cases item with
      | declaration property value => exact hnotices.record (.declaration property value block)
      | rule selector line body =>
          simp only [hk]
          exact (hinner _ body).uniform ((adds_newBlock.uniform hnotices).record (.fixed _))
      | atRule keyword prelude body =>
          have hrecord := hnotices.record (.fixed (.atRule ⟨keyword, prelude⟩))
          cases body with
          | none => exact hrecord
          | some body => exact uniform_readAtRuleBody hinner huniform hrecord block keyword body

end UniformReaders

theorem uniform_readRest {room : Nat}
    (huniform : ∀ block body (f : String → Recorder), Uniform f →
      Uniform fun selector => readInside room (.style selector block) body (f selector))
    (block endLine : Nat) (cs : List Component) {f : String → Recorder} (hf : Uniform f) :
    Uniform fun selector => readRest room (.style selector block) endLine cs (f selector) := by
  induction hn : cs.length using Nat.strongRecOn generalizing cs f with
  | ind n ih =>
      cases hcs : dropBlanks cs with
      | nil =>
          simp only [readRest_nil hcs]
          exact hf
      | cons c rest =>
          have hle := length_dropBlanks_le cs
          rw [hcs, List.length_cons] at hle
          have hlt : ∀ selector,
              (nextStep room (.style selector block) c rest endLine).rest.length < n :=
            fun selector => by
              have := length_rest_nextStep_lt room (.style selector block) c rest endLine
              rw [List.length_cons] at this
              omega
          simp only [readRest_cons hcs]
          rcases styleStep_uniform room c rest endLine with ⟨step, hstep⟩ | ⟨ns, l, rest', hstep⟩
          · have hnext : ∀ selector,
                nextStep room (.style selector block) c rest endLine = step := hstep
            simp only [hnext] at hlt ⊢
            exact ih _ (hlt "") step.rest
              (uniform_recordStep (adds_readInside room) huniform hf block step) rfl
          · have hnext : ∀ selector, nextStep room (.style selector block) c rest endLine =
                ⟨ns ++ [⟨l, .invalidDeclaration selector⟩], none, rest'⟩ := hstep
            simp only [hnext] at hlt ⊢
            refine ih _ (hlt "") rest' ?_ rfl
            have hrecord := ((adds_recordNotices ns).uniform hf).record (.invalid l)
            simpa only [recordStep, Recorder.recordNotices, List.foldl_append, List.foldl_cons,
              List.foldl_nil, Slot.fill] using hrecord

theorem uniform_readInside (room : Nat) (block : Nat) (body : Body) (f : String → Recorder)
    (hf : Uniform f) :
    Uniform fun selector => readInside room (.style selector block) body (f selector) := by
  induction room generalizing block body f with
  | zero => exact hf
  | succ room ih =>
      simp only [readInside, readBody_eq]
      exact uniform_readRest ih block body.endLine body.content hf

/-- A block of declarations is read alike under every selector. -/
theorem uniform_readBody (room block : Nat) (body : Body) {f : String → Recorder}
    (hf : Uniform f) :
    Uniform fun selector => readBody room (.style selector block) body (f selector) :=
  uniform_readInside (room + 1) block body f hf

/-! ## The blocks of at-rules -/

/-- Reads a block in its setting, giving it a number if it holds declarations. -/
def readIn (inner : Setting → Body → Recorder → Recorder) (body : Body) (r : Recorder) :
    Setting → Recorder
  | .rules => inner .rules body r
  | .style selector block => inner (.style selector block) body r.newBlock

theorem readAtRuleBody_eq (inner : Setting → Body → Recorder → Recorder) (outer : Setting)
    (keyword : String) (body : Body) (r : Recorder) :
    readAtRuleBody inner outer keyword body r =
      readIn inner body r (atRuleSetting outer keyword (r.lastBlock + 1)) := by
  unfold readAtRuleBody readIn
  cases atRuleSetting outer keyword (r.lastBlock + 1) <;> rfl

/-- Only the name behind the tag decides in which setting the block of a container is read. -/
theorem atRuleSetting_container {base : String} (h : containerKeywords.contains base = true)
    (outer : Setting) (block : Nat) :
    ∃ setting, ∀ keyword, Text.dropVendorTag keyword = base →
      atRuleSetting outer keyword block = setting := by
  cases outer with
  | rules =>
      refine ⟨.rules, fun keyword hbase => ?_⟩
      simp only [atRuleSetting, hbase, h, if_true]
  | style selector _ =>
      refine ⟨if base != "keyframes" then .style selector block else .rules, fun keyword hbase => ?_⟩
      simp only [atRuleSetting, hbase, h, if_true]

/-- The block of any other at-rule belongs to its keyword. -/
theorem atRuleSetting_other {base keyword : String} (h : containerKeywords.contains base = false)
    (hbase : Text.dropVendorTag keyword = base) (outer : Setting) (block : Nat) :
    atRuleSetting outer keyword block = .style ("@" ++ keyword) block := by
  simp only [atRuleSetting, hbase, h, Bool.false_eq_true, if_false]

/-- The block of an at-rule is read alike under every keyword with the same name behind a vendor tag,
but for the pseudo-selector made of that keyword; the block of a container has none. -/
theorem readAtRuleBody_uniform (room : Nat) (outer : Setting) (base : String) (body : Body)
    (k : Nat) :
    ∃ (last : Nat) (row : List Slot),
      (∀ keyword, Text.dropVendorTag keyword = base →
        readAtRuleBody (readInside room) outer keyword body ⟨k, []⟩ =
          ⟨last, row.map (Slot.fill ("@" ++ keyword))⟩) ∧
      (containerKeywords.contains base = true → ∀ slot ∈ row, ∃ e, slot = .fixed e) := by
  cases hcontainer : containerKeywords.contains base with
  | true =>
      obtain ⟨setting, hsetting⟩ := atRuleSetting_container hcontainer outer (k + 1)
      let r := readIn (readInside room) body ⟨k, []⟩ setting
      refine ⟨r.lastBlock, r.events.map Slot.fixed, fun keyword hbase => ?_, fun _ => ?_⟩
      · rw [readAtRuleBody_eq, hsetting keyword hbase, map_fill_fixed]
      · intro slot hslot
        obtain ⟨e, -, rfl⟩ := List.mem_map.1 hslot
        exact ⟨e, rfl⟩
  | false =>
      obtain ⟨last, row, hrow⟩ := uniform_readInside room (k + 1) body (fun _ => ⟨k + 1, []⟩)
        ⟨k + 1, [], fun _ => rfl⟩
      refine ⟨last, row, fun keyword hbase => ?_, nofun⟩
      rw [← hrow, readAtRuleBody_eq, atRuleSetting_other hcontainer hbase]
      rfl

end FeatureScan.Css
