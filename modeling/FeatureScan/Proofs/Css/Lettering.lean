import FeatureScan.Proofs.Css.Carried
import FeatureScan.Proofs.Css.Lines
import FeatureScan.Proofs.Css.Lowered

/-!
# What style sheets in other letters say

Style sheets that are the same in small letters say the same: their extractions differ in the case
of letters only, and so do the texts that patterns look at.

## Main results

* `extract_alike`: what alike style sheets say.
* `asciiLower_matchable`: the texts that patterns look at.
-/

namespace FeatureScan.Css

open Text

/-- Style sheets that are alike say the same in small letters. -/
theorem extract_alike {s t : String} (h : Alike s.toList t.toList) :
    (extract s).carried 0 .small = (extract t).carried 0 .small := by
  have hfindings : ∀ body, (findings nestingLimit body).map (Event.carried 0 .small) =
      findings nestingLimit (body.recast .small) := by
    intro body
    have hsetting : Setting.rules.carried 0 .small = .rules := rfl
    have hstart : Recorder.start.carried 0 .small [] = .start := rfl
    have hread : readBody nestingLimit .rules (body.recast .small) .start =
        (readBody nestingLimit .rules body .start).carried 0 .small [] := by
      rw [← readBody_carried, hsetting, hstart]
    rw [findings, findings, hread, Recorder.found, Recorder.found, Recorder.carried,
      List.append_nil, List.map_reverse]
  rw [extract, extract, ← ofEvents_carried, ← ofEvents_carried, hfindings, hfindings,
    ofText_recast_small h]

/-! ## The text that patterns look at -/

section Matchable

variable (ρ : Recasting)

/-- A recast block. -/
def BlockText.recast (b : BlockText) : BlockText :=
  ⟨b.block, ρ.text b.selector, b.declarations.map (Declaration.carried 0 ρ)⟩

theorem addDeclaration_recast (d : Declaration) (bs : List BlockText) :
    BlockText.addDeclaration (d.carried 0 ρ) (bs.map (BlockText.recast ρ)) =
      (BlockText.addDeclaration d bs).map (BlockText.recast ρ) := by
  induction bs with
  | nil => rfl
  | cons b bs ih =>
      have hblock : (d.carried 0 ρ).block = d.block := rfl
      rw [List.map_cons, BlockText.addDeclaration, BlockText.addDeclaration, hblock, ih]
      change (if b.block < d.block then _ else if b.block = d.block then _ else _) = _
      split
      · rfl
      · split <;> rfl

theorem ofDeclarations_recast (ds : List Declaration) :
    BlockText.ofDeclarations (ds.map (Declaration.carried 0 ρ)) =
      (BlockText.ofDeclarations ds).map (BlockText.recast ρ) := by
  have hfold : ∀ bs : List BlockText,
      (ds.map (Declaration.carried 0 ρ)).foldl (fun bs d => BlockText.addDeclaration d bs)
          (bs.map (BlockText.recast ρ)) =
        (ds.foldl (fun bs d => BlockText.addDeclaration d bs) bs).map (BlockText.recast ρ) := by
    induction ds with
    | nil => exact fun _ => rfl
    | cons d ds ih =>
        intro bs
        rw [List.map_cons, List.foldl_cons, List.foldl_cons, addDeclaration_recast, ih]
  rw [BlockText.ofDeclarations, BlockText.ofDeclarations, List.map_reverse, ← hfold []]
  rfl

/-- Lines that are the same in small letters, one by one, are so in a row. -/
theorem asciiLower_join_map {α β : Type} {f : α → String} {k : β → String} {h : α → β}
    (hf : ∀ a, asciiLower (k (h a)) = asciiLower (f a)) (as : List α) :
    asciiLower (String.join ((as.map h).map k)) = asciiLower (String.join (as.map f)) := by
  induction as with
  | nil => rfl
  | cons a as ih =>
      rw [List.map_cons, List.map_cons, List.map_cons, String.join_cons, String.join_cons,
        asciiLower_append, asciiLower_append, hf, ih]

theorem asciiLower_declarationText (d : Declaration) :
    asciiLower (d.carried 0 ρ).text = asciiLower d.text := by
  simp only [Declaration.text, Declaration.carried, asciiLower_append, asciiLower_property,
    ρ.asciiLower_text]

theorem asciiLower_blockText (b : BlockText) :
    asciiLower (b.recast ρ).text = asciiLower b.text := by
  rw [BlockText.text_eq, BlockText.text_eq, blockLine, blockLine, BlockText.recast,
    ← List.map_reverse]
  simp only [asciiLower_append, ρ.asciiLower_text,
    asciiLower_join_map (asciiLower_declarationText ρ)]

theorem asciiLower_selectorText (s : SelectorEntry) :
    asciiLower (s.carried 0 ρ).text = asciiLower s.text := by
  rw [SelectorEntry.text, SelectorEntry.text, asciiLower_append, asciiLower_append,
    SelectorEntry.carried, ρ.asciiLower_text]

theorem asciiLower_atRuleText (a : AtRule) : asciiLower (a.recast ρ).text = asciiLower a.text := by
  rw [AtRule.text, AtRule.text, AtRule.recast, ρ.text_beq_empty]
  split
  · rfl
  · simp only [asciiLower_append, ρ.asciiLower_text]

/-- The text that patterns look at differs in the case of letters only. -/
theorem asciiLower_matchable (e : Extraction) :
    asciiLower (e.carried 0 ρ).matchable = asciiLower e.matchable := by
  have hbare : (e.selectors.map (SelectorEntry.carried 0 ρ)).filter (fun s =>
      !((BlockText.ofDeclarations e.declarations).map (BlockText.recast ρ)).any
        fun b => b.block == s.block) =
      (e.selectors.filter fun s => !(BlockText.ofDeclarations e.declarations).any
        fun b => b.block == s.block).map (SelectorEntry.carried 0 ρ) := by
    rw [List.filter_map]
    congr 2
    funext s
    dsimp only [Function.comp_apply]
    rw [List.any_map]
    rfl
  unfold Extraction.matchable Extraction.carried
  dsimp only
  rw [ofDeclarations_recast, hbare]
  simp only [String.join_append, asciiLower_append, asciiLower_join_map (asciiLower_blockText ρ),
    asciiLower_join_map (asciiLower_selectorText ρ), asciiLower_join_map (asciiLower_atRuleText ρ)]

end Matchable

/-- The texts that patterns look at are alike for alike style sheets. -/
theorem matchable_alike {s t : String} (h : Alike s.toList t.toList) :
    Alike (extract s).matchable.toList (extract t).matchable.toList := by
  apply alike_of_asciiLower_eq
  rw [← asciiLower_matchable .small (extract s), extract_alike h, asciiLower_matchable]

end FeatureScan.Css
