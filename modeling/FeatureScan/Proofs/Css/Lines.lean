import FeatureScan.Css.Matchable
import Mathlib.Data.List.Perm.Basic

/-!
# The lines of the text that patterns look at

Grouping declarations by block keeps, for every block, its declarations in their order. So the text
has one line for each block with declarations, in the order of the blocks' numbers, then one for
each selector without declarations and one for each at-rule.

## Main results

* `grouped_ofDeclarations`: every group holds the declarations of its block, and no block is left
  out.
* `perm_ofDeclarations`: every declaration is in one group, once.
* `matchable_lines`: the text line by line, if the declarations of a block agree on its selector.
-/

namespace FeatureScan.Css

/-! ## Grouping -/

/-- A group holds the declarations `ds` of its block, in reverse, and has the selector of the first
of them. -/
structure BlockText.Holds (b : BlockText) (ds : List Declaration) : Prop where
  /-- The declarations of the block. -/
  declarations : b.declarations.reverse = ds.filter (·.block == b.block)
  /-- The selector. -/
  selector : ∃ d ∈ ds, d.block = b.block ∧ d.selector = b.selector

/-- Groups hold `ds`: they stand in falling order, each holds its declarations, and every block has
a group. -/
structure Grouped (ds : List Declaration) (bs : List BlockText) : Prop where
  /-- The order. -/
  falling : bs.Pairwise fun b c => c.block < b.block
  /-- The groups. -/
  holds : ∀ b ∈ bs, b.Holds ds
  /-- Every block. -/
  covers : ∀ d ∈ ds, ∃ b ∈ bs, b.block = d.block

theorem mem_block_addDeclaration {d : Declaration} {bs : List BlockText} {n : Nat} :
    (∃ b ∈ BlockText.addDeclaration d bs, b.block = n) ↔ n = d.block ∨ ∃ b ∈ bs, b.block = n := by
  induction bs with
  | nil => simp [BlockText.addDeclaration, eq_comm]
  | cons b bs ih =>
      unfold BlockText.addDeclaration
      split
      · simp [eq_comm]
      · split
        · rename_i hb
          simp [hb, eq_comm]
        · simp only [List.mem_cons, exists_eq_or_imp]
          rw [ih]
          exact or_left_comm

theorem falling_addDeclaration {d : Declaration} {bs : List BlockText}
    (h : bs.Pairwise fun b c => c.block < b.block) :
    (BlockText.addDeclaration d bs).Pairwise fun b c => c.block < b.block := by
  induction bs with
  | nil => exact List.pairwise_singleton _ _
  | cons b bs ih =>
      obtain ⟨hb, hbs⟩ := List.pairwise_cons.1 h
      unfold BlockText.addDeclaration
      split
      · rename_i hlt
        refine List.pairwise_cons.2 ⟨fun c hc => ?_, h⟩
        rcases List.mem_cons.1 hc with rfl | hc
        · exact hlt
        · exact Nat.lt_trans (hb c hc) hlt
      · split
        · exact List.pairwise_cons.2 ⟨hb, hbs⟩
        · rename_i hlt hne
          refine List.pairwise_cons.2 ⟨fun c hc => ?_, ih hbs⟩
          rcases mem_block_addDeclaration.1 ⟨c, hc, rfl⟩ with hn | ⟨c', hc', hn⟩
          · omega
          · rw [← hn]
            exact hb c' hc'

theorem BlockText.Holds.add_other {b : BlockText} {ds : List Declaration} {d : Declaration}
    (h : b.Holds ds) (hne : b.block ≠ d.block) : b.Holds (ds ++ [d]) := by
  obtain ⟨d', hd', hselector⟩ := h.selector
  refine ⟨?_, d', List.mem_append_left _ hd', hselector⟩
  have hnil : [d].filter (·.block == b.block) = [] := by simp [hne.symm]
  rw [List.filter_append, h.declarations, hnil, List.append_nil]

theorem BlockText.Holds.add_own {b : BlockText} {ds : List Declaration} {d : Declaration}
    (h : b.Holds ds) (heq : b.block = d.block) :
    ({ b with declarations := d :: b.declarations } : BlockText).Holds (ds ++ [d]) := by
  obtain ⟨d', hd', hselector⟩ := h.selector
  refine ⟨?_, d', List.mem_append_left _ hd', hselector⟩
  have hown : [d].filter (·.block == b.block) = [d] := by simp [heq]
  dsimp only
  rw [List.reverse_cons, h.declarations, List.filter_append, hown]

theorem BlockText.holds_fresh {ds : List Declaration} {d : Declaration}
    (h : ∀ d' ∈ ds, d'.block ≠ d.block) :
    (⟨d.block, d.selector, [d]⟩ : BlockText).Holds (ds ++ [d]) := by
  refine ⟨?_, d, List.mem_append_right _ (List.mem_singleton_self d), rfl, rfl⟩
  have hnil : ds.filter (·.block == d.block) = [] :=
    List.filter_eq_nil_iff.2 fun d' hd' => by simpa using h d' hd'
  have hown : [d].filter (·.block == d.block) = [d] := by simp
  dsimp only
  rw [List.filter_append, hnil, hown]
  rfl

/-- In falling order, the group of a block is met before any of a lower number. -/
theorem holds_addDeclaration {ds : List Declaration} {d : Declaration} {bs : List BlockText}
    (hfalling : bs.Pairwise fun b c => c.block < b.block) (hholds : ∀ b ∈ bs, b.Holds ds)
    (hcovers : (∀ b ∈ bs, b.block ≠ d.block) → ∀ d' ∈ ds, d'.block ≠ d.block) :
    ∀ b ∈ BlockText.addDeclaration d bs, b.Holds (ds ++ [d]) := by
  induction bs with
  | nil =>
      intro b hb
      rw [List.mem_singleton.1 hb]
      exact BlockText.holds_fresh (hcovers nofun)
  | cons b bs ih =>
      obtain ⟨hb, hbs⟩ := List.pairwise_cons.1 hfalling
      unfold BlockText.addDeclaration
      intro c hc
      split at hc
      · rename_i hlt
        have hother : ∀ c ∈ b :: bs, c.block ≠ d.block := by
          intro c hc
          rcases List.mem_cons.1 hc with rfl | hc
          · exact Nat.ne_of_lt hlt
          · exact Nat.ne_of_lt (Nat.lt_trans (hb c hc) hlt)
        rcases List.mem_cons.1 hc with rfl | hc
        · exact BlockText.holds_fresh (hcovers hother)
        · exact (hholds c hc).add_other (hother c hc)
      · split at hc
        · rename_i heq
          rcases List.mem_cons.1 hc with rfl | hc
          · exact (hholds b List.mem_cons_self).add_own heq
          · have hlt := hb c hc
            exact (hholds c (List.mem_cons_of_mem b hc)).add_other (by omega)
        · rename_i hne
          rcases List.mem_cons.1 hc with rfl | hc
          · exact (hholds _ List.mem_cons_self).add_other hne
          · refine ih hbs (fun c hc => hholds c (List.mem_cons_of_mem b hc)) (fun h => ?_) c hc
            refine hcovers fun c hc => ?_
            rcases List.mem_cons.1 hc with rfl | hc
            · exact hne
            · exact h c hc

theorem Grouped.add {ds : List Declaration} {bs : List BlockText} (h : Grouped ds bs)
    (d : Declaration) : Grouped (ds ++ [d]) (BlockText.addDeclaration d bs) where
  falling := falling_addDeclaration h.falling
  holds := by
    refine holds_addDeclaration h.falling h.holds fun hne d' hd' heq => ?_
    obtain ⟨b, hb, hblock⟩ := h.covers d' hd'
    exact hne b hb (hblock.trans heq)
  covers d' hd' := by
    rw [mem_block_addDeclaration]
    rcases List.mem_append.1 hd' with hd' | hd'
    · exact Or.inr (h.covers d' hd')
    · rw [List.mem_singleton.1 hd']
      exact Or.inl rfl

theorem grouped_foldl {ds : List Declaration} {bs : List BlockText} (h : Grouped ds bs)
    (more : List Declaration) :
    Grouped (ds ++ more) (more.foldl (fun bs d => BlockText.addDeclaration d bs) bs) := by
  induction more generalizing ds bs with
  | nil => rwa [List.append_nil]
  | cons d more ih =>
      have hmore := ih (h.add d)
      rwa [List.append_assoc] at hmore

/-- Every group holds the declarations of its block, and no block is left out. -/
theorem grouped_ofDeclarations (ds : List Declaration) :
    Grouped ds (BlockText.ofDeclarations ds).reverse := by
  rw [BlockText.ofDeclarations, List.reverse_reverse]
  have hnil : Grouped [] [] :=
    ⟨List.Pairwise.nil, fun b hb => absurd hb List.not_mem_nil,
      fun d hd => absurd hd List.not_mem_nil⟩
  exact grouped_foldl hnil ds

theorem holds_ofDeclarations {ds : List Declaration} {b : BlockText}
    (hb : b ∈ BlockText.ofDeclarations ds) : b.Holds ds :=
  (grouped_ofDeclarations ds).holds b (List.mem_reverse.2 hb)

/-- A block has a group if and only if it has declarations. -/
theorem any_ofDeclarations (ds : List Declaration) (n : Nat) :
    ((BlockText.ofDeclarations ds).any fun b => b.block == n) = ds.any (·.block == n) := by
  rw [Bool.eq_iff_iff, List.any_eq_true, List.any_eq_true]
  constructor
  · rintro ⟨b, hb, hn⟩
    obtain ⟨d, hd, hblock, -⟩ := (holds_ofDeclarations hb).selector
    exact ⟨d, hd, by rwa [hblock]⟩
  · rintro ⟨d, hd, hn⟩
    obtain ⟨b, hb, hblock⟩ := (grouped_ofDeclarations ds).covers d hd
    exact ⟨b, List.mem_reverse.1 hb, by rwa [hblock]⟩

theorem perm_addDeclaration (d : Declaration) (bs : List BlockText) :
    ((BlockText.addDeclaration d bs).flatMap BlockText.declarations).Perm
      (d :: bs.flatMap BlockText.declarations) := by
  induction bs with
  | nil => exact List.Perm.refl _
  | cons b bs ih =>
      unfold BlockText.addDeclaration
      split
      · exact List.Perm.refl _
      · split
        · exact List.Perm.refl _
        · rw [List.flatMap_cons, List.flatMap_cons]
          exact (ih.append_left _).trans List.perm_middle

/-- Every declaration is in one group, once. -/
theorem perm_ofDeclarations (ds : List Declaration) :
    ((BlockText.ofDeclarations ds).flatMap BlockText.declarations).Perm ds := by
  have hfold : ∀ bs : List BlockText,
      ((ds.foldl (fun bs d => BlockText.addDeclaration d bs) bs).flatMap
        BlockText.declarations).Perm (ds ++ bs.flatMap BlockText.declarations) := by
    induction ds with
    | nil => exact fun bs => List.Perm.refl _
    | cons d ds ih =>
        intro bs
        rw [List.foldl_cons]
        refine (ih _).trans (((perm_addDeclaration d bs).append_left ds).trans ?_)
        exact List.perm_middle
  have h := hfold []
  rw [List.flatMap_nil, List.append_nil] at h
  exact ((List.reverse_perm _).flatMap_right _).trans h

/-! ## Line by line -/

/-- A declaration in the line of its block. -/
def Declaration.text (d : Declaration) : String := " " ++ d.property ++ ": " ++ d.value ++ ";"

theorem Declaration.toList_text (d : Declaration) :
    d.text.toList = ' ' :: d.property.toList ++ [':'] ++ (' ' :: d.value.toList ++ [';']) := by
  have hblank : " ".toList = [' '] := by decide
  have hcolon : ": ".toList = [':', ' '] := by decide
  have hend : ";".toList = [';'] := by decide
  simp only [Declaration.text, String.toList_append, hblank, hcolon, hend, List.append_assoc,
    List.cons_append, List.nil_append]

/-- The line of a block. -/
def blockLine (selector : String) (ds : List Declaration) : String :=
  selector ++ " \x7b" ++ String.join (ds.map Declaration.text) ++ " \x7d\n"

theorem BlockText.text_eq (b : BlockText) :
    b.text = blockLine b.selector b.declarations.reverse := by
  have hfold : ∀ (ds : List Declaration) (s : String),
      ds.foldr (fun d line => line ++ " " ++ d.property ++ ": " ++ d.value ++ ";") s =
        s ++ String.join (ds.reverse.map Declaration.text) := by
    intro ds s
    induction ds with
    | nil => exact String.append_empty.symm
    | cons d ds ih =>
        rw [List.foldr_cons, ih, List.reverse_cons, List.map_append, List.map_singleton,
          String.join_append, String.join_cons, String.join_nil, String.append_empty,
          Declaration.text]
        simp only [String.append_assoc]
  rw [BlockText.text, hfold, blockLine]

/-- The number of a group with its selector. -/
def BlockText.entry (b : BlockText) : SelectorEntry := ⟨b.selector, b.block⟩

theorem map_text_ofDeclarations (ds : List Declaration) :
    (BlockText.ofDeclarations ds).map BlockText.text =
      ((BlockText.ofDeclarations ds).map BlockText.entry).map fun b =>
        blockLine b.selector (ds.filter (·.block == b.block)) := by
  rw [List.map_map]
  refine List.map_congr_left fun b hb => ?_
  rw [BlockText.text_eq, (holds_ofDeclarations hb).declarations]
  rfl

/-- The text line by line, if the declarations of a block agree on its selector. -/
theorem matchable_lines {e : Extraction}
    (h : ∀ d ∈ e.declarations, ∀ d' ∈ e.declarations, d.block = d'.block →
      d.selector = d'.selector) :
    ∃ blocks : List SelectorEntry,
      blocks.Pairwise (fun b c => b.block < c.block) ∧
      (∀ b, b ∈ blocks ↔ ∃ d ∈ e.declarations, b = ⟨d.selector, d.block⟩) ∧
      (blocks.flatMap fun b => e.declarations.filter (·.block == b.block)).Perm e.declarations ∧
      e.matchable = String.join
        (blocks.map (fun b =>
            blockLine b.selector (e.declarations.filter (·.block == b.block))) ++
          (e.selectors.filter fun s => !e.declarations.any (·.block == s.block)).map
            SelectorEntry.text ++
          e.atRules.map AtRule.text) := by
  have hgrouped := grouped_ofDeclarations e.declarations
  refine ⟨(BlockText.ofDeclarations e.declarations).map BlockText.entry, ?_, ?_, ?_, ?_⟩
  · rw [List.pairwise_map]
    exact List.pairwise_reverse.1 hgrouped.falling
  · intro b
    constructor
    · intro hb
      obtain ⟨c, hc, rfl⟩ := List.mem_map.1 hb
      obtain ⟨d, hd, hblock, hselector⟩ := (holds_ofDeclarations hc).selector
      exact ⟨d, hd, by rw [BlockText.entry, hblock, hselector]⟩
    · rintro ⟨d, hd, rfl⟩
      obtain ⟨c, hc, hblock⟩ := hgrouped.covers d hd
      have hc := List.mem_reverse.1 hc
      obtain ⟨d', hd', hblock', hselector⟩ := (holds_ofDeclarations hc).selector
      refine List.mem_map.2 ⟨c, hc, ?_⟩
      rw [BlockText.entry, hblock, ← hselector, h d' hd' d hd (hblock'.trans hblock)]
  · rw [List.flatMap_map]
    refine (List.Perm.flatMap_left _ fun b hb => ?_).trans (perm_ofDeclarations e.declarations)
    change (e.declarations.filter (·.block == b.block)).Perm b.declarations
    rw [← (holds_ofDeclarations hb).declarations]
    exact List.reverse_perm _
  · unfold Extraction.matchable
    dsimp only
    rw [map_text_ofDeclarations, funext fun s : SelectorEntry =>
      congrArg not (any_ofDeclarations e.declarations s.block)]

end FeatureScan.Css
