import FeatureScan.Proofs.Css.Carried

/-!
# Style sheets in a row

A style sheet that ends with its last construct can be put in front of any other: what the two say
together is what each says on its own, the blocks of the second numbered on from those of the first
and its notices on lines counted on. Nothing in the first, however malformed, reaches into the
second.

## Main results

* `steps_append`: the steps through components that end with a construct, and those behind it.
* `extract_append`: what two style sheets in a row say, and which of their names are unknown.
-/

namespace FeatureScan.Css

/-! ## Steps up to a seam -/

/-- Components that end with one that closes a construct. -/
def Closed (cs : List Component) : Prop := cs.getLast?.any Component.closes = true

theorem not_closed_nil : ¬Closed [] := nofun

theorem Closed.of_cons {c d : Component} {cs : List Component} (h : Closed (c :: d :: cs)) :
    Closed (d :: cs) := by
  rwa [Closed, List.getLast?_cons_cons] at h

theorem Closed.tail {c : Component} {cs : List Component} (h : Closed (c :: cs)) :
    cs = [] ∨ Closed cs := by
  cases cs with
  | nil => exact Or.inl rfl
  | cons d cs => exact Or.inr h.of_cons

theorem Closed.dropBlanks {cs : List Component} (h : Closed cs) :
    ∃ c rest, dropBlanks cs = c :: rest ∧ Closed (c :: rest) := by
  induction cs with
  | nil => exact absurd h not_closed_nil
  | cons c cs ih =>
      unfold Css.dropBlanks at ih ⊢
      rw [List.dropWhile_cons]
      split
      · rename_i hblank
        rcases h.tail with rfl | ht
        · cases c with
          | leaf t line =>
              cases t <;> cases hblank
              cases h
          | group => cases hblank
        · exact ih ht
      · exact ⟨c, cs, rfl, h⟩

theorem dropBlanks_append {cs rest : List Component} {c : Component}
    (h : dropBlanks cs = c :: rest) (more : List Component) :
    dropBlanks (cs ++ more) = c :: (rest ++ more) := by
  unfold dropBlanks at h ⊢
  rw [List.dropWhile_append, h]
  rfl

/-- A prelude in front of a seam ends there at the latest, and not for want of more. -/
theorem readPrelude_append (room : Nat) {cs : List Component} (h : Closed cs)
    (more : List Component) (p : Pen) :
    readPrelude room (cs ++ more) p =
        ((readPrelude room cs p).1, (readPrelude room cs p).2.1,
          (readPrelude room cs p).2.2 ++ more) ∧
      (readPrelude room cs p).2.1 ≠ .sourceEnd ∧
      ((readPrelude room cs p).2.2 = [] ∨ Closed (readPrelude room cs p).2.2) := by
  fun_induction readPrelude room cs p with
  | case1 p => exact absurd h not_closed_nil
  | case2 opener line content endLine cs p => exact ⟨rfl, by rintro ⟨⟩, h.tail⟩
  | case3 line cs p => exact ⟨rfl, by rintro ⟨⟩, h.tail⟩
  | case4 c cs p hgroup hsemi ih =>
      have hc : c.closes = false := by
        cases c with
        | leaf t line =>
            cases t with
            | semicolon => exact (hsemi line rfl).elim
            | _ => rfl
        | group opener kind line content endLine =>
            cases kind with
            | curly => exact (hgroup _ _ _ _ rfl).elim
            | _ => rfl
      rcases h.tail with rfl | ht
      · rw [Closed, List.getLast?_singleton, Option.any_some, hc] at h
        cases h
      · rw [List.cons_append, readPrelude.eq_4 room p c _ hgroup hsemi]
        exact ih ht

/-- A step with more components behind it. -/
def Step.before (more : List Component) (s : Step) : Step := { s with rest := s.rest ++ more }

theorem ruleStep_append (room : Nat) {cs : List Component} (h : Closed cs)
    (more : List Component) (endLine endLine' : Nat) :
    ruleStep room (cs ++ more) endLine' = (ruleStep room cs endLine).before more := by
  obtain ⟨happend, hend, -⟩ := readPrelude_append room h more .fresh
  unfold ruleStep
  rw [happend]
  generalize readPrelude room cs .fresh = r at hend ⊢
  obtain ⟨pen, ending, rest⟩ := r
  cases ending with
  | semicolon line => rfl
  | sourceEnd => exact absurd rfl hend
  | block line body =>
      dsimp only
      split
      · rfl
      · split <;> rfl

theorem atRuleStep_append (room : Nat) (name : String) {cs : List Component} (h : Closed cs)
    (more : List Component) :
    atRuleStep room name (cs ++ more) = (atRuleStep room name cs).before more := by
  obtain ⟨happend, hend, -⟩ := readPrelude_append room h more .fresh
  unfold atRuleStep
  rw [happend]
  generalize readPrelude room cs .fresh = r at hend ⊢
  obtain ⟨pen, ending, rest⟩ := r
  cases ending with
  | semicolon line => rfl
  | sourceEnd => exact absurd rfl hend
  | block line body =>
      dsimp only
      split <;> rfl

/-- A step among rules stops at the seam. -/
theorem rulesStep_append (room : Nat) {c : Component} {cs : List Component} (h : Closed (c :: cs))
    (more : List Component) (endLine endLine' : Nat) :
    rulesStep room c (cs ++ more) endLine' = (rulesStep room c cs endLine).before more ∧
      ((rulesStep room c cs endLine).rest = [] ∨ Closed (rulesStep room c cs endLine).rest) := by
  have hrule : ruleStep room (c :: (cs ++ more)) endLine' =
        (ruleStep room (c :: cs) endLine).before more ∧
      ((ruleStep room (c :: cs) endLine).rest = [] ∨
        Closed (ruleStep room (c :: cs) endLine).rest) := by
    refine ⟨ruleStep_append room h more endLine endLine', ?_⟩
    rw [rest_ruleStep]
    exact (readPrelude_append room h more .fresh).2.2
  cases c with
  | leaf t line =>
      cases t with
      | atKeyword name =>
          have hcs : Closed cs := h.tail.resolve_left (by rintro rfl; cases h)
          refine ⟨atRuleStep_append room name hcs more, ?_⟩
          change (atRuleStep room name cs).rest = [] ∨ Closed (atRuleStep room name cs).rest
          rw [rest_atRuleStep]
          exact (readPrelude_append room hcs more .fresh).2.2
      | semicolon | commentOpen | commentClose | closeBracket b => exact ⟨rfl, h.tail⟩
      | _ => exact hrule
  | group => exact hrule

/-- The steps through components that end with a construct, and then those through what stands
behind it. -/
theorem stepsFrom_append (room : Nat) {cs : List Component} (h : cs = [] ∨ Closed cs)
    (more : List Component) (endLine endLine' : Nat) (done : List Step) :
    stepsFrom room .rules endLine' (done.map (Step.before more)) (cs ++ more) =
      stepsFrom room .rules endLine'
        ((stepsFrom room .rules endLine done cs).map (Step.before more)).reverse more := by
  fun_induction stepsFrom room .rules endLine done cs with
  | case1 done cs hnil =>
      rcases h with rfl | h
      · rw [List.map_reverse, List.reverse_reverse, List.nil_append]
      · obtain ⟨c, rest, hcons, -⟩ := h.dropBlanks
        rw [hcons] at hnil
        cases hnil
  | case2 done cs c rest hcons step ih =>
      obtain ⟨happend, hrest⟩ : nextStep room .rules c (rest ++ more) endLine' =
            step.before more ∧ (step.rest = [] ∨ Closed step.rest) := by
        rcases h with rfl | h
        · cases hcons
        · obtain ⟨c', rest', hcons', hclosed⟩ := h.dropBlanks
          rw [hcons] at hcons'
          cases hcons'
          exact rulesStep_append room hclosed more endLine endLine'
      rw [stepsFrom_cons (dropBlanks_append hcons more), happend]
      exact ih hrest

/-- The steps through a style sheet that ends with a construct, and then those through what stands
behind it. -/
theorem steps_append (room : Nat) {cs : List Component} (h : Closed cs) (more : List Component)
    (endLine endLine' : Nat) :
    steps room .rules ⟨cs ++ more, endLine'⟩ =
      (steps room .rules ⟨cs, endLine⟩).map (Step.before more) ++
        steps room .rules ⟨more, endLine'⟩ := by
  rw [steps, steps, steps, ← List.map_nil (f := Step.before more),
    stepsFrom_append room (Or.inr h) more endLine endLine', stepsFrom_eq_append,
    List.reverse_reverse, List.map_nil]

/-- A style sheet that ends with a construct is read to its end before what stands behind it. -/
theorem readBody_append (room : Nat) {cs : List Component} (h : Closed cs) (more : List Component)
    (endLine endLine' : Nat) (r : Recorder) :
    readBody room .rules ⟨cs ++ more, endLine'⟩ r =
      readBody room .rules ⟨more, endLine'⟩ (readBody room .rules ⟨cs, endLine⟩ r) := by
  cases room <;>
    rw [readBody, readBody, readBody, steps_append _ h more endLine endLine', List.foldl_append,
      List.foldl_map] <;>
    rfl

/-! ## Findings on other lines -/

/-- A declaration with its block's number moved. -/
def Declaration.moved (k : Nat) (d : Declaration) : Declaration := { d with block := d.block + k }

/-- A selector with its block's number moved. -/
def SelectorEntry.moved (k : Nat) (s : SelectorEntry) : SelectorEntry :=
  { s with block := s.block + k }

/-- An extraction with its blocks' numbers moved and its lines renumbered. -/
def Extraction.moved (k : Nat) (g : Nat → Nat) (e : Extraction) : Extraction :=
  ⟨e.declarations.map (Declaration.moved k), e.atRules, e.selectors.map (SelectorEntry.moved k),
    e.notices.map (Notice.relined g)⟩

/-- Where only lines and block numbers change, all else of an extraction stays. -/
theorem carried_lines (k : Nat) (g : Nat → Nat) (e : Extraction) :
    e.carried k (.lines g) = e.moved k g := by
  have hdeclaration : Declaration.carried k (.lines g) = Declaration.moved k := by
    funext d
    simp only [Declaration.carried, property_lines, Recasting.text_lines, Declaration.moved]
  have hselector : SelectorEntry.carried k (.lines g) = SelectorEntry.moved k := by
    funext s
    simp only [SelectorEntry.carried, Recasting.text_lines, SelectorEntry.moved]
  have hrule : AtRule.recast (.lines g) = id := by
    funext a
    simp only [AtRule.recast, Recasting.text_lines, id]
  rw [Extraction.carried, hdeclaration, hselector, hrule, Notice.recast_lines, List.map_id,
    Extraction.moved]

/-! ## Two style sheets in a row -/

/-- How many blocks of a style sheet are given numbers. -/
def blockCount (source : String) : Nat :=
  (readBody nestingLimit .rules (Body.ofText source.toList) .start).lastBlock

theorem findings_append {a : String} (h : EndsClosed a.toList) (b : String) :
    findings nestingLimit (Body.ofText (a ++ b).toList) =
      findings nestingLimit (Body.ofText a.toList) ++
        (findings nestingLimit (Body.ofText b.toList)).map
          (Event.carried (blockCount a) (.lines (· + lineEnds a.toList))) := by
  have hclosed : Closed (Body.ofText a.toList).content := h.component
  have hstart : readBody nestingLimit .rules (Body.ofText a.toList) .start =
      Recorder.start.carried (blockCount a) (.lines (· + lineEnds a.toList))
        (readBody nestingLimit .rules (Body.ofText a.toList) .start).events := by
    simp only [Recorder.carried, Recorder.start, Nat.zero_add, List.map_nil, List.nil_append]
    rfl
  unfold findings
  rw [String.toList_append, ofText_append h,
    readBody_append nestingLimit hclosed _ (Body.ofText a.toList).endLine]
  change (readBody nestingLimit
    (Setting.rules.carried (blockCount a) (.lines (· + lineEnds a.toList)))
    ((Body.ofText b.toList).recast (.lines (· + lineEnds a.toList)))
    (readBody nestingLimit .rules (Body.ofText a.toList) .start)).found = _
  rw [hstart, readBody_carried, Recorder.found, Recorder.found, Recorder.found, Recorder.carried]
  dsimp only
  rw [List.reverse_append, List.map_reverse]
  rfl

/-- What two style sheets in a row say. -/
theorem extract_join {a : String} (h : EndsClosed a.toList) (b : String) :
    extract (a ++ b) =
      extract a ++ (extract b).moved (blockCount a) (· + lineEnds a.toList) := by
  rw [extract, findings_append h, Extraction.ofEvents_append, ofEvents_carried, carried_lines]
  rfl

end FeatureScan.Css

namespace FeatureScan.Style

open Css

/-! ## Unknown names -/

/-- The members are the unknown properties, authors' own apart, and the unknown at-rules. -/
theorem mem_unrecognized (rules : LayeredTable) (e : Extraction) (x : String) :
    x ∈ (unrecognized rules e).toList ↔
      (∃ d ∈ e.declarations, isAuthors d.property = false ∧
        isKnown rules isPlainProperty (· ++ ":") d.property = false ∧
        "property: " ++ d.property = x) ∨
      (∃ r ∈ e.atRules, isKnown rules isPlainAtRule ("@" ++ ·) r.keyword = false ∧
        "@-rule: @" ++ r.keyword = x) := by
  simp only [unrecognized, NameSet.mem_ofNames, List.mem_append, List.mem_map, List.mem_filter,
    Bool.not_eq_true']
  refine or_congr ?_ ?_
  · constructor
    · rintro ⟨p, ⟨⟨⟨d, hd, rfl⟩, hauthors⟩, hknown⟩, hx⟩
      exact ⟨d, hd, hauthors, hknown, hx⟩
    · rintro ⟨d, hd, hauthors, hknown, hx⟩
      exact ⟨_, ⟨⟨⟨d, hd, rfl⟩, hauthors⟩, hknown⟩, hx⟩
  · constructor
    · rintro ⟨k, ⟨⟨r, hr, rfl⟩, hknown⟩, hx⟩
      exact ⟨r, hr, hknown, hx⟩
    · rintro ⟨r, hr, hknown, hx⟩
      exact ⟨_, ⟨⟨r, hr, rfl⟩, hknown⟩, hx⟩

/-- The unknown names of two extractions are those of either. -/
theorem unrecognized_append (rules : LayeredTable) (e f : Extraction) :
    unrecognized rules (e ++ f) = (unrecognized rules e).union (unrecognized rules f) := by
  refine NameSet.ext_mem fun x => ?_
  have hdeclarations : (e ++ f).declarations = e.declarations ++ f.declarations := rfl
  have hrules : (e ++ f).atRules = e.atRules ++ f.atRules := rfl
  rw [NameSet.mem_union, mem_unrecognized, mem_unrecognized, mem_unrecognized, hdeclarations,
    hrules]
  simp only [List.mem_append, or_and_right, exists_or]
  exact or_or_or_comm ..

theorem unrecognized_scan (rules : LayeredTable) (reportUnknown : Bool) (source : String) :
    (scan rules reportUnknown source).unrecognized =
      if reportUnknown then unrecognized rules (extract source) else .empty := by
  unfold scan scanExtraction
  dsimp only
  split
  · rfl
  · exact ScanResult.unrecognized_foldl_record _ _

/-- A style sheet that ends with its last construct and any other behind it say together what each
says on its own, the second with its blocks numbered on and its lines counted on, and the names in
them that no rule knows are those of either. -/
theorem extract_append {a : String} (h : EndsClosed a.toList) (b : String) :
    extract (a ++ b) =
        extract a ++ (extract b).moved (blockCount a) (· + lineEnds a.toList) ∧
      ∀ rules reportUnknown, (scan rules reportUnknown (a ++ b)).unrecognized =
        NameSet.union (scan rules reportUnknown a).unrecognized
          (scan rules reportUnknown b).unrecognized := by
  refine ⟨extract_join h b, fun rules reportUnknown => ?_⟩
  rw [unrecognized_scan, unrecognized_scan, unrecognized_scan]
  cases reportUnknown with
  | false => rfl
  | true =>
      simp only [if_true]
      rw [extract_join h b, unrecognized_append, ← carried_lines, unrecognized_carried]

/-- A stray bracket and a rule without a block in the first, a bracket left open in the second. -/
theorem extract_append_malformed :
    EndsClosed ")x;a\x7bb:c\x7d".toList ∧
      extract (")x;a\x7bb:c\x7d" ++ "d\x7be:f(") =
          extract ")x;a\x7bb:c\x7d" ++ (extract "d\x7be:f(").moved
            (blockCount ")x;a\x7bb:c\x7d") (· + lineEnds ")x;a\x7bb:c\x7d".toList) ∧
        ∀ rules reportUnknown,
          (scan rules reportUnknown (")x;a\x7bb:c\x7d" ++ "d\x7be:f(")).unrecognized =
            NameSet.union (scan rules reportUnknown ")x;a\x7bb:c\x7d").unrecognized
              (scan rules reportUnknown "d\x7be:f(").unrecognized :=
  have h : EndsClosed ")x;a\x7bb:c\x7d".toList :=
    ⟨by decide +kernel, by decide +kernel, by decide +kernel⟩
  ⟨h, extract_append h _⟩

end FeatureScan.Style
