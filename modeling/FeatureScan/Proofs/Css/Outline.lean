import FeatureScan.Proofs.Css.Lines
import FeatureScan.Proofs.Css.Taking

/-!
# Where declarations were written

A style sheet is read with a record of places: the block that each number was given to, and the
place of each declaration. A block is named by the way to it through the components, from the
outside in, so no two blocks have one name and names in their order are blocks in the order of the
source. Without the places, the reading is that of the style sheet.

## Main results

* `record_traceBody`: places do not change what is read.
* `traceBody_carries`: every declaration carries the number and selector of the block in which it
  was written, and numbers are given in the order of the source.
* `extract_blocks`: block numbers stand for blocks of the source, and the text that patterns look at
  writes everything once, under its own block.
-/

namespace FeatureScan.Css

/-! ## Places -/

/-- The way to a block: for every block around it and then itself, how many components stand in front
of it there. -/
abbrev Spot := List Nat

/-- The block at a spot. -/
def Body.blockAt? : Body → Spot → Option Body
  | body, [] => some body
  | body, i :: spot =>
    match body.content[i]? with
    | some (.group _ .curly _ content endLine) => blockAt? ⟨content, endLine⟩ spot
    | _ => none

theorem blockAt?_append (root : Body) (spot spot' : Spot) :
    root.blockAt? (spot ++ spot') = (root.blockAt? spot).bind fun body => body.blockAt? spot' := by
  induction spot generalizing root with
  | nil => rfl
  | cons i spot ih =>
      rw [List.cons_append, Body.blockAt?, Body.blockAt?]
      split
      · exact ih _
      · rfl

/-- A block that is given a number, with the selector that its declarations get. -/
structure Opening where
  /-- The block. -/
  spot : Spot
  /-- The selector. -/
  selector : String
  deriving Repr

/-- A declaration where it was written. -/
structure Placed where
  /-- The block around it. -/
  spot : Spot
  /-- How many components of that block stand in front of its last one. -/
  index : Nat
  /-- The declaration. -/
  declaration : Declaration
  deriving Repr

/-- The place of a declaration in the style sheet. -/
def Placed.place (w : Placed) : Spot := w.spot ++ [w.index]

/-! ## Reading with places -/

/-- A record with the places of what is in it. -/
structure Trace where
  /-- The record itself. -/
  record : Recorder
  /-- The blocks that were given numbers, in order. -/
  openings : List Opening
  /-- The declarations in order. -/
  written : List Placed

namespace Trace

/-- Nothing recorded. -/
def start : Trace := ⟨.start, [], []⟩

/-- Records a finding. -/
def note (t : Trace) (e : Event) : Trace := { t with record := t.record.record e }

/-- Gives the next number to a block. -/
def enter (t : Trace) (o : Opening) : Trace :=
  { t with record := t.record.newBlock, openings := t.openings ++ [o] }

/-- Records a declaration. -/
def write (t : Trace) (w : Placed) : Trace :=
  { t.note (.declaration w.declaration) with written := t.written ++ [w] }

end Trace

/-- Reads the block of an at-rule at `spot`, giving it a number if it holds declarations. -/
def traceAtRuleBody (inner : Setting → Spot → Body → Trace → Trace) (outer : Setting)
    (keyword : String) (spot : Spot) (body : Body) (t : Trace) : Trace :=
  match atRuleSetting outer keyword (t.record.lastBlock + 1) with
  | .rules => inner .rules spot body t
  | .style selector block => inner (.style selector block) spot body (t.enter ⟨spot, selector⟩)

/-- Records the outcome of a step that ended at component `index` of the block at `spot`. -/
def traceItem (inner : Setting → Spot → Body → Trace → Trace) (setting : Setting) (spot : Spot)
    (index : Nat) (t : Trace) : Item → Trace
  | .declaration property value =>
    match setting with
    | .style selector block => t.write ⟨spot, index, ⟨property, value, selector, block⟩⟩
    | .rules => t
  | .rule selector _ body =>
    let block := t.record.lastBlock + 1
    inner (.style selector block) (spot ++ [index]) body
      ((t.enter ⟨spot ++ [index], selector⟩).note (.selector ⟨selector, block⟩))
  | .atRule keyword prelude none => t.note (.atRule ⟨keyword, prelude⟩)
  | .atRule keyword prelude (some body) =>
    traceAtRuleBody inner setting keyword (spot ++ [index]) body
      (t.note (.atRule ⟨keyword, prelude⟩))

/-- Records the outcome of a step through a block of `size` components at `spot`. -/
def traceStep (inner : Setting → Spot → Body → Trace → Trace) (setting : Setting) (spot : Spot)
    (size : Nat) (t : Trace) (step : Step) : Trace :=
  let t : Trace := { t with record := t.record.recordNotices step.notices }
  match step.item with
  | none => t
  | some item => traceItem inner setting spot (size - step.rest.length - 1) t item

/-- Reads the block at `spot` where `room` further levels of nesting are allowed. -/
def traceBody (room : Nat) (setting : Setting) (spot : Spot) (body : Body) (t : Trace) : Trace :=
  let inner :=
    match room with
    | 0 => fun _ _ _ t => t
    | room + 1 => traceBody room
  (steps room setting body).foldl (traceStep inner setting spot body.content.length) t

/-- The trace of a style sheet. -/
def traceText (source : String) : Trace :=
  traceBody nestingLimit .rules [] (Body.ofText source.toList) .start

/-! ## Without the places -/

section Record

variable {inner : Setting → Spot → Body → Trace → Trace}
  {plain : Setting → Body → Recorder → Recorder}

theorem record_traceStep
    (h : ∀ setting spot body t, (inner setting spot body t).record = plain setting body t.record)
    (setting : Setting) (spot : Spot) (size : Nat) (t : Trace) (s : Step) :
    (traceStep inner setting spot size t s).record = recordStep plain setting t.record s := by
  unfold traceStep recordStep
  cases s.item with
  | none => rfl
  | some item =>
      cases item with
      | declaration property value => cases setting <;> rfl
      | rule selector line body =>
          dsimp only [traceItem]
          rw [h]
          rfl
      | atRule keyword prelude body =>
          cases body with
          | none => rfl
          | some body =>
              dsimp only [traceItem]
              unfold traceAtRuleBody readAtRuleBody
              dsimp only [Trace.note]
              generalize (t.record.recordNotices s.notices).record
                (.atRule ⟨keyword, prelude⟩) = r
              cases atRuleSetting setting keyword (r.lastBlock + 1) with
              | rules => exact h _ _ _ _
              | style selector block => exact h _ _ _ _

theorem record_foldl_traceStep (plain : Setting → Body → Recorder → Recorder)
    (h : ∀ setting spot body t, (inner setting spot body t).record = plain setting body t.record)
    (setting : Setting) (spot : Spot) (size : Nat) (t : Trace) (ss : List Step) :
    (ss.foldl (traceStep inner setting spot size) t).record =
      ss.foldl (recordStep plain setting) t.record := by
  induction ss generalizing t with
  | nil => rfl
  | cons s ss ih => rw [List.foldl_cons, List.foldl_cons, ih, record_traceStep h]

end Record

/-- Places do not change what is read. -/
theorem record_traceBody (room : Nat) (setting : Setting) (spot : Spot) (body : Body) (t : Trace) :
    (traceBody room setting spot body t).record = readBody room setting body t.record := by
  induction room generalizing setting spot body t with
  | zero =>
      rw [traceBody, readBody]
      exact record_foldl_traceStep (fun _ _ r => r) (fun _ _ _ _ => rfl) setting spot _ t _
  | succ room ih =>
      rw [traceBody, readBody]
      exact record_foldl_traceStep (readBody room) ih setting spot _ t _

/-! ## Numbers -/

/-- Block number `n` was given to `o`. -/
def Numbered (openings : List Opening) (n : Nat) (o : Opening) : Prop :=
  0 < n ∧ openings[n - 1]? = some o

theorem Numbered.eq {openings : List Opening} {n : Nat} {o p : Opening}
    (ho : Numbered openings n o) (hp : Numbered openings n p) : o = p :=
  Option.some.inj (ho.2.symm.trans hp.2)

theorem Numbered.le {openings : List Opening} {n : Nat} {o : Opening}
    (h : Numbered openings n o) : n ≤ openings.length := by
  have := (List.getElem?_eq_some_iff.1 h.2).1
  have := h.1
  omega

theorem Numbered.mono {openings openings' : List Opening} {n : Nat} {o : Opening}
    (h : Numbered openings n o) (hp : openings <+: openings') : Numbered openings' n o := by
  obtain ⟨more, rfl⟩ := hp
  have hlt := (List.getElem?_eq_some_iff.1 h.2).1
  exact ⟨h.1, by rw [List.getElem?_append_left hlt, h.2]⟩

theorem numbered_last (openings : List Opening) (o : Opening) :
    Numbered (openings ++ [o]) (openings.length + 1) o :=
  ⟨Nat.succ_pos _, by simp⟩

/-- Blocks with names in order have one number each. -/
theorem Numbered.eq_of_spot_eq {openings : List Opening} {n m : Nat} {o p : Opening}
    (hordered : openings.Pairwise fun o p => o.spot < p.spot) (ho : Numbered openings n o)
    (hp : Numbered openings m p) (h : o.spot = p.spot) : n = m := by
  obtain ⟨hn, hon⟩ := List.getElem?_eq_some_iff.1 ho.2
  obtain ⟨hm, hpm⟩ := List.getElem?_eq_some_iff.1 hp.2
  have hirrefl : ¬o.spot < o.spot := List.lt_irrefl _
  rcases Nat.lt_trichotomy (n - 1) (m - 1) with hlt | heq | hlt
  · have := List.pairwise_iff_getElem.1 hordered _ _ hn hm hlt
    rw [hon, hpm, ← h] at this
    exact absurd this hirrefl
  · have := ho.1
    have := hp.1
    omega
  · have := List.pairwise_iff_getElem.1 hordered _ _ hm hn hlt
    rw [hon, hpm, ← h] at this
    exact absurd this hirrefl

/-! ## Order of places -/

theorem spot_lt_of_lt {i j : Nat} (h : i < j) (spot more more' : Spot) :
    spot ++ i :: more < spot ++ j :: more' :=
  List.append_left_lt (List.cons_lt_cons_iff.2 (Or.inl h))

/-- What is before component `i` of a block is before everything in or behind it. -/
theorem lt_of_lt_component {x spot : Spot} {i j : Nat} (h : x < spot ++ [i]) (hij : i ≤ j)
    (more : Spot) : x < spot ++ j :: more := by
  rcases Nat.lt_or_eq_of_le hij with hlt | rfl
  · exact List.lt_trans h (spot_lt_of_lt hlt spot [] more)
  · cases more with
    | nil => exact h
    | cons k more =>
        refine List.lt_trans h (List.append_left_lt ?_)
        exact List.cons_lt_cons_iff.2 (Or.inr ⟨rfl, List.nil_lt_cons k more⟩)

namespace Trace

/-- Everything in the trace comes before component `i` of the block at `spot`. -/
structure Before (t : Trace) (spot : Spot) (i : Nat) : Prop where
  /-- The blocks. -/
  openings : ∀ o ∈ t.openings, o.spot < spot ++ [i]
  /-- The declarations. -/
  written : ∀ w ∈ t.written, w.place < spot ++ [i]

theorem Before.mono {t : Trace} {spot : Spot} {i j : Nat} (h : t.Before spot i) (hij : i ≤ j) :
    t.Before spot j :=
  ⟨fun o ho => lt_of_lt_component (h.openings o ho) hij [],
    fun w hw => lt_of_lt_component (h.written w hw) hij []⟩

/-- Behind a block, everything in it is before the next component. -/
theorem Before.leave {t : Trace} {spot : Spot} {i size : Nat} (h : t.Before (spot ++ [i]) size) :
    t.Before spot (i + 1) := by
  have hinside : spot ++ [i] ++ [size] < spot ++ [i + 1] := by
    rw [List.append_assoc]
    exact spot_lt_of_lt (Nat.lt_succ_self i) spot [size] []
  exact ⟨fun o ho => List.lt_trans (h.openings o ho) hinside,
    fun w hw => List.lt_trans (h.written w hw) hinside⟩

/-- What is before a component is before everything inside it. -/
theorem Before.inside {t : Trace} {spot : Spot} {i j : Nat} (h : t.Before spot i) (hij : i ≤ j) :
    t.Before (spot ++ [j]) 0 := by
  refine ⟨fun o ho => ?_, fun w hw => ?_⟩
  · rw [List.append_assoc]
    exact lt_of_lt_component (h.openings o ho) hij [0]
  · rw [List.append_assoc]
    exact lt_of_lt_component (h.written w hw) hij [0]

end Trace

/-! ## Sound traces -/

/-- A declaration stands at its place: it is the item of the step through the block around it that
ends there. -/
def Placed.Stands (root : Body) (w : Placed) : Prop :=
  ∃ body, root.blockAt? w.spot = some body ∧
    ∃ s ∈ steps (nestingLimit - w.spot.length)
        (.style w.declaration.selector w.declaration.block) body,
      s.item = some (.declaration w.declaration.property w.declaration.value) ∧
        w.index + s.rest.length + 1 = body.content.length

/-- A setting at `spot` belongs to that block. -/
def Setting.Opened (openings : List Opening) (spot : Spot) : Setting → Prop
  | .rules => True
  | .style selector block => Numbered openings block ⟨spot, selector⟩

theorem Setting.Opened.mono {openings openings' : List Opening} {spot : Spot} {setting : Setting}
    (h : setting.Opened openings spot) (hp : openings <+: openings') :
    setting.Opened openings' spot := by
  cases setting with
  | rules => trivial
  | style selector block => exact Numbered.mono h hp

namespace Trace

/-- What has been found. -/
def extraction (t : Trace) : Extraction := Extraction.ofEvents t.record.found

theorem extraction_note (t : Trace) (e : Event) :
    (t.note e).extraction = t.extraction ++ Extraction.ofEvents [e] := by
  have hfound : (t.note e).record.found = t.record.found ++ [e] := List.reverse_cons
  rw [extraction, hfound, Extraction.ofEvents_append]
  rfl

/-- What holds of the trace of a reading of `root`. -/
structure Sound (root : Body) (t : Trace) : Prop where
  /-- Every number was given to a block. -/
  count : t.openings.length = t.record.lastBlock
  /-- Numbers are given in the order of the source. -/
  ordered : t.openings.Pairwise fun o p => o.spot < p.spot
  /-- They are given to blocks of the source. -/
  leads : ∀ o ∈ t.openings, (root.blockAt? o.spot).isSome
  /-- The declarations are those found. -/
  declarations : t.extraction.declarations = t.written.map Placed.declaration
  /-- They were found in the order of the source. -/
  inOrder : t.written.Pairwise fun v w => v.place < w.place
  /-- Each stands at its place and carries the number and selector of the block around it. -/
  written : ∀ w ∈ t.written, w.Stands root ∧
    Numbered t.openings w.declaration.block ⟨w.spot, w.declaration.selector⟩
  /-- The selectors of rules are those of their blocks. -/
  selectors : ∀ s ∈ t.extraction.selectors, ∃ spot, Numbered t.openings s.block ⟨spot, s.selector⟩
  /-- Their numbers increase. -/
  increasing : t.extraction.selectors.Pairwise fun s s' => s.block < s'.block

theorem sound_start (root : Body) : Trace.start.Sound root where
  count := rfl
  ordered := List.Pairwise.nil
  leads := nofun
  declarations := rfl
  inOrder := List.Pairwise.nil
  written := nofun
  selectors := nofun
  increasing := List.Pairwise.nil

/-- Findings other than declarations and selectors do not count. -/
theorem Sound.note {root : Body} {t : Trace} (h : t.Sound root) {e : Event}
    (hd : (Extraction.ofEvents [e]).declarations = [])
    (hs : (Extraction.ofEvents [e]).selectors = []) : (t.note e).Sound root := by
  have hdeclarations : (t.note e).extraction.declarations = t.extraction.declarations := by
    rw [extraction_note]
    change _ ++ (Extraction.ofEvents [e]).declarations = _
    rw [hd, List.append_nil]
  have hselectors : (t.note e).extraction.selectors = t.extraction.selectors := by
    rw [extraction_note]
    change _ ++ (Extraction.ofEvents [e]).selectors = _
    rw [hs, List.append_nil]
  exact ⟨h.count, h.ordered, h.leads, hdeclarations.trans h.declarations, h.inOrder, h.written,
    hselectors ▸ h.selectors, hselectors ▸ h.increasing⟩

theorem Sound.notices {root : Body} {t : Trace} (h : t.Sound root) (ns : List Notice) :
    ({ t with record := t.record.recordNotices ns } : Trace).Sound root := by
  induction ns generalizing t with
  | nil => exact h
  | cons n ns ih => exact ih (h.note (e := .notice n) rfl rfl)

/-- A number is given to the next block. -/
theorem Sound.enter {root : Body} {t : Trace} (h : t.Sound root) {spot : Spot} {i j : Nat}
    (hb : t.Before spot i) (hij : i ≤ j) (hl : (root.blockAt? (spot ++ [j])).isSome)
    (selector : String) : (t.enter ⟨spot ++ [j], selector⟩).Sound root where
  count := by
    change (t.openings ++ [_]).length = t.record.lastBlock + 1
    rw [List.length_append, h.count, List.length_singleton]
  ordered := by
    refine List.pairwise_append.2 ⟨h.ordered, List.pairwise_singleton _ _, fun o ho p hp => ?_⟩
    rw [List.mem_singleton.1 hp]
    exact lt_of_lt_component (hb.openings o ho) hij []
  leads o ho := by
    rcases List.mem_append.1 ho with ho | ho
    · exact h.leads o ho
    · rw [List.mem_singleton.1 ho]
      exact hl
  declarations := h.declarations
  inOrder := h.inOrder
  written w hw := ⟨(h.written w hw).1, (h.written w hw).2.mono (List.prefix_append _ _)⟩
  selectors s hs := by
    obtain ⟨spot, hn⟩ := h.selectors s hs
    exact ⟨spot, hn.mono (List.prefix_append _ _)⟩
  increasing := h.increasing

theorem Before.enter {t : Trace} {spot : Spot} {i j : Nat} (h : t.Before spot i) (hij : i ≤ j)
    (selector : String) : (t.enter ⟨spot ++ [j], selector⟩).Before (spot ++ [j]) 0 := by
  refine ⟨fun o ho => ?_, (h.inside hij).written⟩
  rcases List.mem_append.1 ho with ho | ho
  · exact (h.inside hij).openings o ho
  · rw [List.mem_singleton.1 ho]
    have hlt : spot ++ [j] ++ [] < spot ++ [j] ++ [0] :=
      List.append_left_lt (List.nil_lt_cons 0 [])
    rwa [List.append_nil] at hlt

theorem numbered_enter {root : Body} {t : Trace} (h : t.Sound root) (o : Opening) :
    Numbered (t.enter o).openings (t.record.lastBlock + 1) o := by
  rw [← h.count]
  exact numbered_last t.openings o

/-- The selector of the next block is recorded with the number of that block. -/
theorem Sound.enterNamed {root : Body} {t : Trace} (h : t.Sound root) {spot : Spot} {i j : Nat}
    (hb : t.Before spot i) (hij : i ≤ j) (hl : (root.blockAt? (spot ++ [j])).isSome)
    (selector : String) :
    ((t.enter ⟨spot ++ [j], selector⟩).note
      (.selector ⟨selector, t.record.lastBlock + 1⟩)).Sound root := by
  have he := h.enter hb hij hl selector
  have hselectors : ((t.enter ⟨spot ++ [j], selector⟩).note
      (.selector ⟨selector, t.record.lastBlock + 1⟩)).extraction.selectors =
      t.extraction.selectors ++ [⟨selector, t.record.lastBlock + 1⟩] := by
    rw [extraction_note]
    rfl
  have hdeclarations : ((t.enter ⟨spot ++ [j], selector⟩).note
      (.selector ⟨selector, t.record.lastBlock + 1⟩)).extraction.declarations =
      t.extraction.declarations := by
    rw [extraction_note]
    exact List.append_nil _
  refine ⟨he.count, he.ordered, he.leads, hdeclarations.trans h.declarations, he.inOrder,
    he.written, fun s hs => ?_, ?_⟩
  · rw [hselectors] at hs
    rcases List.mem_append.1 hs with hs | hs
    · exact he.selectors s hs
    · rw [List.mem_singleton.1 hs]
      exact ⟨_, numbered_enter h _⟩
  · rw [hselectors]
    refine List.pairwise_append.2 ⟨h.increasing, List.pairwise_singleton _ _, fun s hs s' hs' => ?_⟩
    obtain ⟨spot', hn⟩ := h.selectors s hs
    have hle := hn.le
    rw [h.count] at hle
    rw [List.mem_singleton.1 hs']
    exact Nat.lt_succ_of_le hle

/-- A declaration is recorded with the number of the block in which it stands. -/
theorem Sound.write {root : Body} {t : Trace} (h : t.Sound root) {w : Placed} {i : Nat}
    (hb : t.Before w.spot i) (hi : i ≤ w.index) (hw : w.Stands root)
    (hn : Numbered t.openings w.declaration.block ⟨w.spot, w.declaration.selector⟩) :
    (t.write w).Sound root := by
  have hextraction : (t.write w).extraction =
      t.extraction ++ Extraction.ofEvents [.declaration w.declaration] :=
    extraction_note t (.declaration w.declaration)
  have hselectors : (t.write w).extraction.selectors = t.extraction.selectors := by
    rw [hextraction]
    exact List.append_nil _
  refine ⟨h.count, h.ordered, h.leads, ?_, ?_, fun v hv => ?_, hselectors ▸ h.selectors,
    hselectors ▸ h.increasing⟩
  · rw [hextraction]
    change t.extraction.declarations ++ [w.declaration] = (t.written ++ [w]).map _
    rw [h.declarations, List.map_append, List.map_singleton]
  · refine List.pairwise_append.2 ⟨h.inOrder, List.pairwise_singleton _ _, fun v hv v' hv' => ?_⟩
    rw [List.mem_singleton.1 hv']
    exact lt_of_lt_component (hb.written v hv) hi []
  · rcases List.mem_append.1 hv with hv | hv
    · exact h.written v hv
    · rw [List.mem_singleton.1 hv]
      exact ⟨hw, hn⟩

theorem Before.write {t : Trace} {w : Placed} {i : Nat} (h : t.Before w.spot i)
    (hi : i ≤ w.index) : (t.write w).Before w.spot (w.index + 1) := by
  have hmono := h.mono (Nat.le_succ_of_le hi)
  refine ⟨hmono.openings, fun v hv => ?_⟩
  rcases List.mem_append.1 hv with hv | hv
  · exact hmono.written v hv
  · rw [List.mem_singleton.1 hv]
    exact spot_lt_of_lt (Nat.lt_succ_self _) w.spot [] []

end Trace

/-! ## Reading keeps traces sound -/

/-- What reading part of the block at `spot`, from anywhere to component `i`, makes of a trace. -/
structure Carried (root : Body) (spot : Spot) (i : Nat) (t t' : Trace) : Prop where
  /-- It stays sound. -/
  sound : t'.Sound root
  /-- It holds nothing from further on. -/
  before : t'.Before spot i
  /-- Numbers once given stay. -/
  openings : t.openings <+: t'.openings

theorem Carried.trans {root : Body} {spot spot' : Spot} {i j : Nat} {t t' t'' : Trace}
    (h : Carried root spot i t t') (h' : Carried root spot' j t' t'') :
    Carried root spot' j t t'' :=
  ⟨h'.sound, h'.before, h.openings.trans h'.openings⟩

/-- A way to read the blocks at depth `depth` that keeps traces sound. -/
def Carries (root : Body) (depth : Nat) (inner : Setting → Spot → Body → Trace → Trace) : Prop :=
  ∀ setting spot body t, spot.length = depth → root.blockAt? spot = some body →
    setting.Opened t.openings spot → t.Sound root → t.Before spot 0 →
      Carried root spot body.content.length t (inner setting spot body t)

theorem eq_of_atRuleSetting {outer : Setting} {keyword selector : String} {block n : Nat}
    (h : atRuleSetting outer keyword n = .style selector block) : block = n := by
  unfold atRuleSetting at h
  dsimp only at h
  split at h
  · split at h
    · split at h
      · cases h
        rfl
      · cases h
    · cases h
  · cases h
    rfl

section Step

variable {root body : Body} {spot : Spot} {inner : Setting → Spot → Body → Trace → Trace}
  {t : Trace} {i j : Nat}

theorem traceAtRuleBody_carried (hinner : Carries root (spot.length + 1) inner)
    (ht : t.Sound root) (hb : t.Before spot i) (hij : i ≤ j)
    (hbody : root.blockAt? (spot ++ [j]) = some body) (outer : Setting) (keyword : String) :
    Carried root spot (j + 1) t
      (traceAtRuleBody inner outer keyword (spot ++ [j]) body t) := by
  have hdepth : (spot ++ [j]).length = spot.length + 1 := List.length_append
  unfold traceAtRuleBody
  cases hs : atRuleSetting outer keyword (t.record.lastBlock + 1) with
  | rules =>
      have h := hinner .rules _ body t hdepth hbody trivial ht (hb.inside hij)
      exact ⟨h.sound, h.before.leave, h.openings⟩
  | style selector block =>
      obtain rfl := eq_of_atRuleSetting hs
      have h := hinner (.style selector _) _ body (t.enter ⟨spot ++ [j], selector⟩) hdepth hbody
        (Trace.numbered_enter ht _) (ht.enter hb hij (by rw [hbody]; rfl) selector)
        (hb.enter hij selector)
      exact ⟨h.sound, h.before.leave, (List.prefix_append _ _).trans h.openings⟩

/-- An item that ends at component `j` of the block at `spot` is recorded soundly. -/
theorem traceItem_carried (hinner : Carries root (spot.length + 1) inner) {setting : Setting}
    (hset : setting.Opened t.openings spot) (ht : t.Sound root) (hb : t.Before spot i)
    (hij : i ≤ j) {item : Item}
    (hbody : ∀ body, item.body? = some body → root.blockAt? (spot ++ [j]) = some body)
    (hstands : ∀ property value selector block, item = .declaration property value →
      setting = .style selector block → Placed.Stands root
        ⟨spot, j, ⟨property, value, selector, block⟩⟩) :
    Carried root spot (j + 1) t (traceItem inner setting spot j t item) := by
  have hstay : Carried root spot (j + 1) t t :=
    ⟨ht, hb.mono (Nat.le_succ_of_le hij), List.prefix_refl _⟩
  cases item with
  | declaration property value =>
      cases setting with
      | rules => exact hstay
      | style selector block =>
          have hw := hstands property value selector block rfl rfl
          exact ⟨ht.write hb hij hw hset, Trace.Before.write hb hij, List.prefix_refl _⟩
  | rule selector line body =>
      have hbody := hbody body rfl
      have hdepth : (spot ++ [j]).length = spot.length + 1 := List.length_append
      have hnamed := ht.enterNamed hb hij (by rw [hbody]; rfl) selector
      have henter := hb.enter hij selector
      have hnumber : (Setting.style selector (t.record.lastBlock + 1)).Opened
          (t.openings ++ [⟨spot ++ [j], selector⟩]) (spot ++ [j]) := Trace.numbered_enter ht _
      have h := hinner (.style selector _) _ body
        ((t.enter ⟨spot ++ [j], selector⟩).note (.selector ⟨selector, t.record.lastBlock + 1⟩))
        hdepth hbody hnumber hnamed ⟨henter.openings, henter.written⟩
      have hprefix : t.openings <+: t.openings ++ [⟨spot ++ [j], selector⟩] :=
        List.prefix_append _ _
      exact ⟨h.sound, h.before.leave, hprefix.trans h.openings⟩
  | atRule keyword prelude body =>
      have hnote : (t.note (.atRule ⟨keyword, prelude⟩)).Sound root := ht.note rfl rfl
      cases body with
      | none => exact ⟨hnote, ⟨hstay.before.openings, hstay.before.written⟩, List.prefix_refl _⟩
      | some body =>
          have h := traceAtRuleBody_carried hinner hnote ⟨hb.openings, hb.written⟩ hij
            (hbody body rfl) setting keyword
          exact ⟨h.sound, h.before, h.openings⟩

/-- A step from component `i` on of the block at `spot` is recorded soundly. -/
theorem traceStep_carried (hinner : Carries root (spot.length + 1) inner) {setting : Setting}
    (hbody : root.blockAt? spot = some body) (hset : setting.Opened t.openings spot)
    (ht : t.Sound root) {cs : List Component} (hcs : cs <:+ body.content)
    (hb : t.Before spot (body.content.length - cs.length)) {s : Step} (hs : s.Takes cs)
    (hlt : s.rest.length < cs.length)
    (hmem : s ∈ steps (nestingLimit - spot.length) setting body) :
    Carried root spot (body.content.length - s.rest.length) t
      (traceStep inner setting spot body.content.length t s) := by
  have hle := hcs.length_le
  have hnotices := ht.notices s.notices
  have hb' : ({ t with record := t.record.recordNotices s.notices } : Trace).Before spot
      (body.content.length - cs.length) := ⟨hb.openings, hb.written⟩
  have hnext : body.content.length - s.rest.length - 1 + 1 =
      body.content.length - s.rest.length := by omega
  rw [← hnext]
  unfold traceStep
  cases hitem : s.item with
  | none => exact ⟨hnotices, hb'.mono (by omega), List.prefix_refl _⟩
  | some item =>
      suffices h : Carried root spot _ { t with record := t.record.recordNotices s.notices } _ from
        ⟨h.sound, h.before, h.openings⟩
      have hset' : setting.Opened
        ({ t with record := t.record.recordNotices s.notices } : Trace).openings spot := hset
      refine traceItem_carried hinner hset' hnotices hb' (by omega) ?_ ?_
      · intro body' hbody'
        obtain ⟨front, opener, line, hfront⟩ := hs.body item body' hitem hbody'
        obtain ⟨more, hmore⟩ := hcs
        have hcontent : body.content = (more ++ front) ++
            .group opener .curly line body'.content body'.endLine :: s.rest := by
          rw [← hmore, hfront, List.append_assoc]
        have hindex : body.content.length - s.rest.length - 1 = (more ++ front).length := by
          rw [hcontent, List.length_append, List.length_cons]
          omega
        rw [blockAt?_append, hbody, Option.bind_some, hindex, Body.blockAt?, hcontent]
        simp [Body.blockAt?]
      · rintro property value selector block rfl rfl
        exact ⟨body, hbody, s, hmem, hitem, by dsimp only; omega⟩

/-- The steps from component `i` on of the block at `spot` are recorded soundly. -/
theorem foldl_traceStep_carried (hinner : Carries root (spot.length + 1) inner) {setting : Setting}
    (hbody : root.blockAt? spot = some body) (hset : setting.Opened t.openings spot)
    (ht : t.Sound root) {cs : List Component} (hcs : cs <:+ body.content)
    (hb : t.Before spot (body.content.length - cs.length))
    (hmem : stepsFrom (nestingLimit - spot.length) setting body.endLine [] cs <:+
      steps (nestingLimit - spot.length) setting body) :
    Carried root spot body.content.length t
      ((stepsFrom (nestingLimit - spot.length) setting body.endLine [] cs).foldl
        (traceStep inner setting spot body.content.length) t) := by
  induction hn : cs.length using Nat.strongRecOn generalizing cs t with
  | ind n ih =>
      cases hdrop : dropBlanks cs with
      | nil =>
          rw [stepsFrom_nil hdrop]
          exact ⟨ht, hb.mono (Nat.sub_le _ _), List.prefix_refl _⟩
      | cons c rest =>
          have hsuffix : c :: rest <:+ cs := hdrop ▸ suffix_dropBlanks cs
          have hlt := length_rest_nextStep_lt (nestingLimit - spot.length) setting c rest
            body.endLine
          have hle := hsuffix.length_le
          have htakes := nextStep_takes (nestingLimit - spot.length) setting c rest body.endLine
          rw [stepsFrom_cons hdrop, stepsFrom_eq_append, List.reverse_singleton] at hmem ⊢
          generalize nextStep (nestingLimit - spot.length) setting c rest body.endLine = s
            at hlt htakes hmem ⊢
          rw [List.cons_append, List.nil_append] at hmem ⊢
          have hstep := traceStep_carried hinner hbody hset ht (hsuffix.trans hcs)
            (hb.mono (by omega)) htakes hlt (hmem.subset List.mem_cons_self)
          rw [List.foldl_cons]
          refine hstep.trans (ih s.rest.length (by omega) (hset.mono hstep.openings) hstep.sound
            ((htakes.suffix.trans hsuffix).trans hcs) hstep.before
            ((List.suffix_cons _ _).trans hmem) rfl)

end Step

/-- A block is read soundly if the blocks inside it are. -/
theorem steps_carries {root : Body} {room depth : Nat} (h : room + depth = nestingLimit)
    (inner : Setting → Spot → Body → Trace → Trace) (hinner : Carries root (depth + 1) inner) :
    Carries root depth fun setting spot body t =>
      (steps room setting body).foldl (traceStep inner setting spot body.content.length) t := by
  rintro setting spot body t rfl hbody hset ht hb
  have hroom : nestingLimit - spot.length = room := by omega
  have hsuffix : stepsFrom (nestingLimit - spot.length) setting body.endLine [] body.content <:+
      steps (nestingLimit - spot.length) setting body := List.suffix_refl _
  have hfold := foldl_traceStep_carried hinner hbody hset ht (List.suffix_refl _)
    (hb.mono (Nat.zero_le _)) hsuffix
  rwa [hroom] at hfold

/-- Reading a block keeps traces sound. -/
theorem traceBody_carries (root : Body) {room depth : Nat} (h : room + depth = nestingLimit) :
    Carries root depth (traceBody room) := by
  induction room generalizing depth with
  | zero =>
      intro setting spot body t hdepth hbody hset ht hb
      rw [traceBody]
      refine steps_carries h (fun _ _ _ t => t) ?_ setting spot body t hdepth hbody hset
        ht hb
      exact fun _ _ _ _ _ _ _ ht hb => ⟨ht, hb.mono (Nat.zero_le _), List.prefix_refl _⟩
  | succ room ih =>
      intro setting spot body t hdepth hbody hset ht hb
      rw [traceBody]
      exact steps_carries h (traceBody room) (ih (by omega)) setting spot body t hdepth hbody hset ht hb

theorem traceText_sound (source : String) :
    (traceText source).Sound (Body.ofText source.toList) :=
  (traceBody_carries (Body.ofText source.toList) (Nat.add_zero nestingLimit) .rules [] _ .start rfl
    rfl trivial (Trace.sound_start _) ⟨nofun, nofun⟩).sound

theorem extraction_traceText (source : String) :
    (traceText source).extraction = extract source := by
  rw [Trace.extraction, traceText, record_traceBody]
  rfl

/-! ## Block numbers -/

/-- Declarations have one number if and only if they were written in one block. -/
theorem Trace.Sound.block_eq_iff {root : Body} {t : Trace} (h : t.Sound root) {v w : Placed}
    (hv : v ∈ t.written) (hw : w ∈ t.written) :
    v.declaration.block = w.declaration.block ↔ v.spot = w.spot := by
  have hnv := (h.written v hv).2
  have hnw := (h.written w hw).2
  constructor
  · intro hblock
    rw [← hblock] at hnw
    exact congrArg Opening.spot (hnv.eq hnw)
  · exact hnv.eq_of_spot_eq h.ordered hnw

theorem Trace.Sound.numbered {root : Body} {t : Trace} (h : t.Sound root) {d : Declaration}
    (hd : d ∈ t.extraction.declarations) :
    ∃ spot, Numbered t.openings d.block ⟨spot, d.selector⟩ := by
  rw [h.declarations] at hd
  obtain ⟨w, hw, rfl⟩ := List.mem_map.1 hd
  exact ⟨w.spot, (h.written w hw).2⟩

/-- Block numbers stand for blocks of the source. Numbers of selectors increase. Every declaration
has its place, in the order of the source, and two have one number if and only if they were written
directly in one block; then they have one selector, which is that of the rule with this number, if
there is one. No number is beyond the blocks of the source. In the text that patterns look at, every
declaration is written once, in order, in the line of its own block, and so is every selector without
declarations and every at-rule. -/
theorem extract_blocks (source : String) :
    (extract source).selectors.Pairwise (fun s s' => s.block < s'.block) ∧
    ((traceText source).written.map Placed.declaration = (extract source).declarations ∧
      (traceText source).written.Pairwise (fun v w => v.place < w.place) ∧
      ∀ w ∈ (traceText source).written, w.Stands (Body.ofText source.toList)) ∧
    (∀ v ∈ (traceText source).written, ∀ w ∈ (traceText source).written,
      v.declaration.block = w.declaration.block ↔ v.spot = w.spot) ∧
    (∀ d ∈ (extract source).declarations, ∀ d' ∈ (extract source).declarations,
      d.block = d'.block → d.selector = d'.selector) ∧
    (∀ d ∈ (extract source).declarations, ∀ s ∈ (extract source).selectors,
      d.block = s.block → d.selector = s.selector) ∧
    (∃ blocks : List Spot, blocks.Pairwise (· < ·) ∧
      (∀ spot ∈ blocks, ((Body.ofText source.toList).blockAt? spot).isSome) ∧
      (∀ d ∈ (extract source).declarations, 0 < d.block ∧ d.block ≤ blocks.length) ∧
      ∀ s ∈ (extract source).selectors, 0 < s.block ∧ s.block ≤ blocks.length) ∧
    ∃ blocks : List SelectorEntry,
      blocks.Pairwise (fun b c => b.block < c.block) ∧
      (∀ b, b ∈ blocks ↔ ∃ d ∈ (extract source).declarations, b = ⟨d.selector, d.block⟩) ∧
      (blocks.flatMap fun b => (extract source).declarations.filter (·.block == b.block)).Perm
        (extract source).declarations ∧
      (extract source).matchable = String.join
        (blocks.map (fun b =>
            blockLine b.selector ((extract source).declarations.filter (·.block == b.block))) ++
          ((extract source).selectors.filter fun s =>
            !(extract source).declarations.any (·.block == s.block)).map SelectorEntry.text ++
          (extract source).atRules.map AtRule.text) := by
  have h := traceText_sound source
  rw [← extraction_traceText]
  generalize traceText source = t at h ⊢
  have hselector : ∀ d ∈ t.extraction.declarations, ∀ d' ∈ t.extraction.declarations,
      d.block = d'.block → d.selector = d'.selector := by
    intro d hd d' hd' hblock
    obtain ⟨spot, hn⟩ := h.numbered hd
    obtain ⟨spot', hn'⟩ := h.numbered hd'
    rw [← hblock] at hn'
    exact congrArg Opening.selector (hn.eq hn')
  refine ⟨h.increasing, ⟨h.declarations.symm, h.inOrder, fun w hw => (h.written w hw).1⟩,
    fun v hv w hw => h.block_eq_iff hv hw, hselector, ?_, ?_, matchable_lines hselector⟩
  · intro d hd s hs hblock
    obtain ⟨spot, hn⟩ := h.numbered hd
    obtain ⟨spot', hn'⟩ := h.selectors s hs
    rw [← hblock] at hn'
    exact congrArg Opening.selector (hn.eq hn')
  · refine ⟨t.openings.map Opening.spot, List.pairwise_map.2 h.ordered, ?_, ?_, ?_⟩
    · intro spot hspot
      obtain ⟨o, ho, rfl⟩ := List.mem_map.1 hspot
      exact h.leads o ho
    · intro d hd
      obtain ⟨spot, hn⟩ := h.numbered hd
      exact ⟨hn.1, by rw [List.length_map]; exact hn.le⟩
    · intro s hs
      obtain ⟨spot, hn⟩ := h.selectors s hs
      exact ⟨hn.1, by rw [List.length_map]; exact hn.le⟩

-- A rule between two declarations has a block of its own; both are of the block around it.
example : (extract "a\x7bb:c;& d\x7be:f\x7dg:h\x7d").declarations.map (fun d => d.block) = [1, 2, 1] := by
  decide +kernel

end FeatureScan.Css
