import FeatureScan.Proofs.Css.Lines

/-!
# Blocks as scopes

Every character of the text that patterns look at is marked with where it comes from: the declarations
of a block, an at-rule, or the frame around them. A closing bracket of the frame stands behind the
declarations of every block, so a stretch of text without such brackets holds declarations of one
block at most, and none if it holds a part of an at-rule. What selectors, properties and values say
does not count.

## Main results

* `chars_markedText`: without the marks, the marked text is the text.
* `declarations_infix_markedText`: declarations of a block stand in the marked text.
* `scoped_of_infix`: a stretch without closing brackets stays within one block.
-/

namespace FeatureScan.Css

/-! ## Marks -/

/-- Where a character of the text comes from. -/
inductive Mark
  /-- A declaration of a block. -/
  | declaration (block : Nat)
  /-- An at-rule. -/
  | atRule
  /-- Selectors and the brackets around declarations. -/
  | frame
  deriving DecidableEq, Repr

/-- A text with one mark on all its characters. -/
def marked (m : Mark) (s : String) : List (Char × Mark) := s.toList.map fun c => (c, m)

/-- The line of a block with marks. -/
def BlockText.markedText (b : BlockText) : List (Char × Mark) :=
  marked .frame (b.selector ++ " \x7b") ++
    b.declarations.reverse.flatMap (fun d => marked (.declaration d.block) d.text) ++
    marked .frame " \x7d\n"

/-- The text that patterns look at with marks. -/
def Extraction.markedText (e : Extraction) : List (Char × Mark) :=
  (BlockText.ofDeclarations e.declarations).flatMap BlockText.markedText ++
    (e.selectors.filter fun s =>
      !((BlockText.ofDeclarations e.declarations).any fun b => b.block == s.block)).flatMap
        (fun s => marked .frame s.text) ++
    e.atRules.flatMap (fun a => marked .atRule a.text)

theorem chars_marked (m : Mark) (s : String) : (marked m s).map Prod.fst = s.toList := by
  rw [marked, List.map_map]
  exact List.map_id _

theorem mark_of_mem_marked {m : Mark} {s : String} {x : Char × Mark} (h : x ∈ marked m s) :
    x.2 = m := by
  obtain ⟨c, -, rfl⟩ := List.mem_map.1 h
  rfl

theorem BlockText.chars_markedText (b : BlockText) : b.markedText.map Prod.fst = b.text.toList := by
  rw [BlockText.text_eq, blockLine, BlockText.markedText]
  simp only [List.map_append, chars_marked, String.toList_append, String.toList_join,
    List.map_flatMap, List.flatMap_map]

/-- Without the marks, the marked text is the text. -/
theorem chars_markedText (e : Extraction) : e.markedText.map Prod.fst = e.matchable.toList := by
  unfold Extraction.matchable Extraction.markedText
  simp only [List.map_append, List.map_flatMap, String.toList_join, List.flatMap_append,
    List.flatMap_map, BlockText.chars_markedText, chars_marked]

/-- Declarations of a block that follow each other stand one behind the other in the marked text. -/
theorem declarations_infix_markedText {e : Extraction} {n : Nat} {before mid after : List Declaration}
    (h : e.declarations.filter (·.block == n) = before ++ mid ++ after) (hmid : mid ≠ []) :
    mid.flatMap (fun d => marked (.declaration d.block) d.text) <:+: e.markedText := by
  have hgrouped := grouped_ofDeclarations e.declarations
  obtain ⟨d, hd⟩ := List.exists_mem_of_ne_nil mid hmid
  have hfilter : d ∈ e.declarations.filter (·.block == n) := by
    rw [h]
    exact List.mem_append_left _ (List.mem_append_right _ hd)
  obtain ⟨hdeclared, hn⟩ := List.mem_filter.1 hfilter
  obtain ⟨b, hb, hblock⟩ := hgrouped.covers d hdeclared
  have hown : b.declarations.reverse = before ++ mid ++ after := by
    rw [(hgrouped.holds b hb).declarations, hblock, beq_iff_eq.1 hn]
    exact h
  have hline : mid.flatMap (fun d => marked (.declaration d.block) d.text) <:+: b.markedText := by
    rw [BlockText.markedText, hown, List.flatMap_append, List.flatMap_append]
    have hparts : mid.flatMap (fun d => marked (.declaration d.block) d.text) <:+:
        before.flatMap (fun d => marked (.declaration d.block) d.text) ++
          mid.flatMap (fun d => marked (.declaration d.block) d.text) ++
            after.flatMap (fun d => marked (.declaration d.block) d.text) :=
      List.infix_append _ _ _
    exact hparts.trans (List.infix_append _ _ _)
  have hlines : b.markedText <:+:
      (BlockText.ofDeclarations e.declarations).flatMap BlockText.markedText :=
    List.infix_of_mem_flatten (List.mem_map_of_mem (List.mem_reverse.1 hb))
  rw [Extraction.markedText, List.append_assoc]
  exact (hline.trans hlines).trans (List.prefix_append _ _).isInfix

/-- At-rules stand in the marked text. -/
theorem atRule_infix_markedText {e : Extraction} {a : AtRule} (ha : a ∈ e.atRules) :
    marked .atRule a.text <:+: e.markedText := by
  have hrules : marked .atRule a.text <:+: e.atRules.flatMap fun a => marked .atRule a.text :=
    List.infix_of_mem_flatten (List.mem_map_of_mem ha)
  exact hrules.trans (List.suffix_append _ _).isInfix

/-! ## Fences -/

/-- Marks that no stretch without closing brackets may hold both of. -/
def Mark.Apart : Mark → Mark → Prop
  | .declaration n, .declaration m => n ≠ m
  | .declaration _, .atRule => True
  | .atRule, .declaration _ => True
  | _, _ => False

theorem Mark.Apart.symm {m n : Mark} (h : m.Apart n) : n.Apart m := by
  cases m <;> cases n <;> first | exact h | exact Ne.symm h

theorem Mark.not_apart_self (m : Mark) : ¬m.Apart m := by
  cases m with
  | declaration n => exact fun h => h rfl
  | atRule => exact id
  | frame => exact id

theorem Mark.Apart.ne_frame {m n : Mark} (h : m.Apart n) : m ≠ .frame := by
  rintro rfl
  cases n <;> exact h

/-- Between any two characters whose marks are apart there is a closing bracket. -/
def Fenced : List (Char × Mark) → Prop
  | [] => True
  | a :: l =>
      (∀ y b z, l = y ++ b :: z → a.2.Apart b.2 → '\x7d' ∈ y.map Prod.fst) ∧ Fenced l

/-- Behind every character of a declaration or an at-rule there is a closing bracket. -/
def Shut : List (Char × Mark) → Prop
  | [] => True
  | a :: l => (a.2 ≠ .frame → '\x7d' ∈ l.map Prod.fst) ∧ Shut l

theorem fenced_of_not_apart {l : List (Char × Mark)}
    (h : ∀ a ∈ l, ∀ b ∈ l, ¬a.2.Apart b.2) : Fenced l := by
  induction l with
  | nil => trivial
  | cons a l ih =>
      refine ⟨fun y b z hl hab => ?_, ih fun a ha b hb =>
        h a (List.mem_cons_of_mem _ ha) b (List.mem_cons_of_mem _ hb)⟩
      have hb : b ∈ l := by simp [hl]
      exact absurd hab (h a List.mem_cons_self b (List.mem_cons_of_mem a hb))

theorem shut_of_frame {l : List (Char × Mark)} (h : ∀ a ∈ l, a.2 = .frame) : Shut l := by
  induction l with
  | nil => trivial
  | cons a l ih =>
      exact ⟨fun hne => absurd (h a List.mem_cons_self) hne,
        ih fun a ha => h a (List.mem_cons_of_mem _ ha)⟩

/-- A closing bracket at the end shuts everything in front of it. -/
theorem shut_append {l r : List (Char × Mark)} (hr : Shut r)
    (hl : Shut l ∨ '\x7d' ∈ r.map Prod.fst) : Shut (l ++ r) := by
  induction l with
  | nil => exact hr
  | cons a l ih =>
      rw [List.cons_append]
      refine ⟨fun hne => ?_, ih (hl.imp_left And.right)⟩
      rw [List.map_append]
      rcases hl with hl | hl
      · exact List.mem_append_left _ (hl.1 hne)
      · exact List.mem_append_right _ hl

theorem Fenced.append {l r : List (Char × Mark)} (hl : Fenced l) (hs : Shut l) (hr : Fenced r) :
    Fenced (l ++ r) := by
  induction l with
  | nil => exact hr
  | cons a l ih =>
      rw [List.cons_append]
      refine ⟨fun y b z h hab => ?_, ih hl.2 hs.2⟩
      have hshut := hs.1 hab.ne_frame
      rcases List.append_eq_append_iff.1 h with ⟨w, rfl, -⟩ | ⟨w, rfl, hw⟩
      · rw [List.map_append]
        exact List.mem_append_left _ hshut
      · cases w with
        | nil => rwa [List.append_nil] at hshut
        | cons b' w =>
            obtain ⟨rfl, -⟩ := List.cons.inj hw
            exact hl.1 y b w rfl hab

theorem fenced_flatMap {α : Type} {f : α → List (Char × Mark)} (xs : List α)
    (h : ∀ x ∈ xs, Fenced (f x) ∧ Shut (f x)) :
    Fenced (xs.flatMap f) ∧ Shut (xs.flatMap f) := by
  induction xs with
  | nil => exact ⟨trivial, trivial⟩
  | cons x xs ih =>
      obtain ⟨hf, hs⟩ := h x List.mem_cons_self
      obtain ⟨hfs, hss⟩ := ih fun x hx => h x (List.mem_cons_of_mem _ hx)
      rw [List.flatMap_cons]
      exact ⟨hf.append hs hfs, shut_append hss (Or.inl hs)⟩

theorem Fenced.of_infix {l piece : List (Char × Mark)} (h : Fenced l) (hp : piece <:+: l) :
    Fenced piece := by
  obtain ⟨x, z, rfl⟩ := hp
  have hsuffix : Fenced (piece ++ z) := by
    rw [List.append_assoc] at h
    induction x with
    | nil => exact h
    | cons a x ih => exact ih h.2
  clear h
  induction piece with
  | nil => trivial
  | cons a piece ih =>
      exact ⟨fun y b w hl => hsuffix.1 y b (w ++ z) (by simp [hl]), ih hsuffix.2⟩

/-- A stretch without closing brackets holds no marks that are apart. -/
theorem Fenced.not_apart {l : List (Char × Mark)} (h : Fenced l)
    (hc : '\x7d' ∉ l.map Prod.fst) : ∀ a ∈ l, ∀ b ∈ l, ¬a.2.Apart b.2 := by
  induction l with
  | nil => exact fun a ha => absurd ha List.not_mem_nil
  | cons a l ih =>
      have htail : '\x7d' ∉ l.map Prod.fst := fun hmem => hc (List.mem_cons_of_mem _ hmem)
      have hhead : ∀ b ∈ l, ¬a.2.Apart b.2 := by
        intro b hb hab
        obtain ⟨y, z, rfl⟩ := List.append_of_mem hb
        refine htail ?_
        rw [List.map_append]
        exact List.mem_append_left _ (h.1 y b z rfl hab)
      intro b hb c hcl
      rcases List.mem_cons.1 hb with rfl | hbl
      · rcases List.mem_cons.1 hcl with rfl | hcl'
        · exact Mark.not_apart_self _
        · exact hhead c hcl'
      · rcases List.mem_cons.1 hcl with rfl | hcl'
        · exact fun hab => hhead b hbl hab.symm
        · exact ih h.2 htail b hbl c hcl'

/-! ## The text -/

theorem mem_block_declarations {e : Extraction} {b : BlockText}
    (hb : b ∈ BlockText.ofDeclarations e.declarations) :
    ∀ d ∈ b.declarations, d.block = b.block := by
  intro d hd
  have hmem : d ∈ e.declarations.filter (·.block == b.block) := by
    rw [← (holds_ofDeclarations hb).declarations]
    exact List.mem_reverse.2 hd
  simpa using (List.mem_filter.1 hmem).2

/-- The line of a block has one mark besides the frame, and a closing bracket behind it. -/
theorem BlockText.fenced_markedText {b : BlockText}
    (hb : ∀ d ∈ b.declarations, d.block = b.block) :
    Fenced b.markedText ∧ Shut b.markedText := by
  have hmarks : ∀ x ∈ b.markedText, x.2 = .frame ∨ x.2 = .declaration b.block := by
    intro x hx
    rcases List.mem_append.1 hx with hx | hx
    · rcases List.mem_append.1 hx with hx | hx
      · exact Or.inl (mark_of_mem_marked hx)
      · obtain ⟨d, hd, hx⟩ := List.mem_flatMap.1 hx
        rw [mark_of_mem_marked hx, hb d (List.mem_reverse.1 hd)]
        exact Or.inr rfl
    · exact Or.inl (mark_of_mem_marked hx)
  constructor
  · refine fenced_of_not_apart fun a ha c hc => ?_
    rcases hmarks a ha with h | h <;> rcases hmarks c hc with h' | h' <;> rw [h, h']
    · exact Mark.not_apart_self _
    · exact id
    · exact id
    · exact Mark.not_apart_self _
  · refine shut_append (shut_of_frame fun x hx => mark_of_mem_marked hx) (Or.inr ?_)
    rw [chars_marked]
    decide

theorem Extraction.fenced_markedText (e : Extraction) : Fenced e.markedText := by
  have hblocks := fenced_flatMap (BlockText.ofDeclarations e.declarations) fun b hb =>
    BlockText.fenced_markedText (mem_block_declarations hb)
  have hbare : ∀ s : SelectorEntry, Fenced (marked .frame s.text) ∧ Shut (marked .frame s.text) := by
    intro s
    refine ⟨fenced_of_not_apart fun a ha b hb => ?_, shut_of_frame fun a ha => mark_of_mem_marked ha⟩
    rw [mark_of_mem_marked ha]
    exact fun h => h.ne_frame rfl
  have hrules : Fenced (e.atRules.flatMap fun a => marked .atRule a.text) := by
    refine fenced_of_not_apart fun a ha b hb => ?_
    obtain ⟨r, -, ha⟩ := List.mem_flatMap.1 ha
    obtain ⟨r', -, hb⟩ := List.mem_flatMap.1 hb
    rw [mark_of_mem_marked ha, mark_of_mem_marked hb]
    exact Mark.not_apart_self _
  obtain ⟨hfb, hsb⟩ := fenced_flatMap (e.selectors.filter fun s =>
    !((BlockText.ofDeclarations e.declarations).any fun b => b.block == s.block)) fun s _ => hbare s
  exact (hblocks.1.append hblocks.2 hfb).append (shut_append hsb (Or.inl hblocks.2)) hrules

/-- A stretch of the text stays within one block: what it holds of declarations is of one block, and
then it holds nothing of an at-rule. -/
structure Scoped (piece : List (Char × Mark)) : Prop where
  /-- Of one block. -/
  block : ∀ c n d m, (c, .declaration n) ∈ piece → (d, .declaration m) ∈ piece → n = m
  /-- Of no at-rule. -/
  atRule : ∀ c n d, (c, .declaration n) ∈ piece → (d, .atRule) ∉ piece

/-- A stretch without closing brackets stays within one block. -/
theorem scoped_of_infix {e : Extraction} {piece : List (Char × Mark)} (h : piece <:+: e.markedText)
    (hc : '\x7d' ∉ piece.map Prod.fst) : Scoped piece := by
  have hapart := (e.fenced_markedText.of_infix h).not_apart hc
  refine ⟨fun c n d m hn hm => ?_, fun c n d hn hr => hapart _ hn _ hr trivial⟩
  by_contra hne
  exact hapart _ hn _ hm hne

end FeatureScan.Css
