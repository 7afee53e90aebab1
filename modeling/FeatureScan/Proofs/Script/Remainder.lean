import FeatureScan.Proofs.Script.OnePass

/-!
# What the passes leave of a script

Taking text out brings characters together that stood apart, and these could open or close a comment
once more. They do not: a block comment leaves a space, and a comment up to the line end leaves that
line end. Of two characters that come to stand side by side, the second is therefore a line end or
was behind the first before; so nothing that is left begins a comment of either kind, and there is
nothing left to do for the passes. The line ends that are left are those outside the block comments.

## Main results

* `not_hasBlock_dropBlocks`, `not_hasSlashes_dropLines`: each pass leaves no comment of its kind.
* `hasBlock_of_dropLines`: the second pass makes no block comment.
* `exists_sublist_dropLines`: the second pass keeps every line end.
* `withoutComments_remainder`: what is left of a script.
-/

namespace FeatureScan.Script

/-! ## Comments in a text -/

/-- Two slashes stand side by side. -/
def HasSlashes (cs : List Char) : Prop := ['/', '/'] <:+: cs

/-- Somewhere behind a slash with a star stands a star with a slash. -/
def HasBlock (cs : List Char) : Prop :=
  ∃ before rest, cs = before ++ '/' :: '*' :: rest ∧ ['*', '/'] <:+: rest

theorem afterCloser?_eq_none_iff (cs : List Char) :
    afterCloser? cs = none ↔ ¬ ['*', '/'] <:+: cs := by
  fun_induction afterCloser? cs with
  | case1 => simp
  | case2 cs =>
      have hfront : ['*', '/'] <:+: '*' :: '/' :: cs := ⟨[], cs, rfl⟩
      simp [hfront]
  | case3 c cs hne ih =>
      have hfront : ¬ ['*', '/'] <+: c :: cs := by
        rintro ⟨rest, heq⟩
        obtain ⟨rfl, rfl⟩ := List.cons.inj heq
        exact hne rest rfl rfl
      rw [ih, List.infix_cons_iff, or_iff_right hfront]

/-- A closed block comment stands in front, or further behind. -/
theorem hasBlock_cons_iff (c : Char) (cs : List Char) :
    HasBlock (c :: cs) ↔ (behindBlock? (c :: cs)).isSome ∨ HasBlock cs := by
  constructor
  · rintro ⟨before, rest, heq, hcloser⟩
    cases before with
    | nil =>
        refine .inl ?_
        rw [heq, List.nil_append, behindBlock?, Option.isSome_iff_ne_none, ne_eq,
          afterCloser?_eq_none_iff, Classical.not_not]
        exact hcloser
    | cons d before => exact .inr ⟨before, rest, (List.cons.inj heq).2, hcloser⟩
  · rintro (hfront | ⟨before, rest, rfl, hcloser⟩)
    · unfold behindBlock? at hfront
      split at hfront
      · rename_i rest heq
        rw [Option.isSome_iff_ne_none, ne_eq, afterCloser?_eq_none_iff, Classical.not_not] at hfront
        exact ⟨[], rest, heq, hfront⟩
      · cases hfront
    · exact ⟨c :: before, rest, rfl, hcloser⟩

theorem not_hasBlock_nil : ¬ HasBlock [] := by
  rintro ⟨before, rest, heq, -⟩
  exact absurd heq.symm (by simp)

/-! ## The first pass -/

theorem dropBlocks_of_not_closed {cs : List Char} (h : afterCloser? cs = none) :
    dropBlocks cs = cs := dropBlocksOnto_of_not_closed h []

theorem dropBlocks_nil : dropBlocks [] = [] := dropBlocks_of_not_closed rfl

theorem not_hasBlock_dropBlocks (cs : List Char) : ¬ HasBlock (dropBlocks cs) := by
  induction hn : cs.length using Nat.strongRecOn generalizing cs with
  | ind n ih =>
      cases cs with
      | nil =>
          rw [dropBlocks_nil]
          exact not_hasBlock_nil
      | cons c cs =>
          rcases hblock : behindBlock? (c :: cs) with _ | rest
          · have hrest := ih cs.length (by simp at hn; omega) cs rfl
            rw [dropBlocks_of_no_block hblock, hasBlock_cons_iff, not_or]
            refine ⟨fun hfront => ?_, hrest⟩
            -- The star would have stood behind the slash before, with a closer behind it.
            unfold behindBlock? at hfront
            split at hfront
            · rename_i behind heq
              obtain ⟨rfl, hstar⟩ := List.cons.inj heq
              have hhead : (dropBlocks cs).head? = some '*' := by rw [hstar]; rfl
              cases cs with
              | nil =>
                  rw [dropBlocks_nil] at hhead
                  cases hhead
              | cons d cs =>
                  rcases hd : behindBlock? (d :: cs) with _ | rest
                  · rw [dropBlocks_of_no_block hd] at hstar
                    obtain ⟨rfl, rfl⟩ := List.cons.inj hstar
                    have hclosed : afterCloser? cs = none := hblock
                    rw [dropBlocks_of_not_closed hclosed, hclosed] at hfront
                    cases hfront
                  · rw [dropBlocks_of_behindBlock hd] at hhead
                    cases hhead
            · cases hfront
          · have hlt := length_behindBlock_lt hblock
            have hrest := ih rest.length (by omega) rest rfl
            rw [dropBlocks_of_behindBlock hblock, hasBlock_cons_iff, not_or]
            exact ⟨Bool.false_ne_true, hrest⟩

/-- Where there is no block comment, the first pass changes nothing. -/
theorem dropBlocks_of_not_hasBlock {cs : List Char} (h : ¬ HasBlock cs) : dropBlocks cs = cs := by
  induction cs with
  | nil => exact dropBlocks_nil
  | cons c cs ih =>
      rw [hasBlock_cons_iff, not_or, Bool.not_eq_true, Option.isSome_eq_false_iff,
        Option.isNone_iff_eq_none] at h
      rw [dropBlocks_of_no_block h.1, ih h.2]

/-! ## The second pass -/

theorem dropLines_opens (cs : List Char) :
    dropLinesOnto [] false ('/' :: '/' :: cs) = dropLinesOnto [] true ('/' :: cs) := by
  rw [dropLines_inside, dropLinesOnto]
  rfl

/-- One character further: a character is passed over inside a comment, or kept; a slash that opens a
comment is passed over with it. -/
theorem dropLines_cons (inLine : Bool) (c : Char) (cs : List Char) :
    (∃ inLine', dropLinesOnto [] inLine (c :: cs) = dropLinesOnto [] inLine' cs ∧ c ≠ '\n') ∨
      dropLinesOnto [] inLine (c :: cs) = c :: dropLinesOnto [] false cs ∧
        (c = '/' → cs.head? ≠ some '/') := by
  cases inLine with
  | true =>
      rw [dropLines_inside]
      by_cases hc : c = '\n'
      · refine .inr ⟨if_pos (beq_iff_eq.2 hc), ?_⟩
        rintro rfl
        cases hc
      · exact .inl ⟨true, if_neg (mt beq_iff_eq.1 hc), hc⟩
  | false =>
      by_cases hopens : c = '/' ∧ cs.head? = some '/'
      · obtain ⟨rfl, hhead⟩ := hopens
        obtain ⟨cs, rfl⟩ := List.head?_eq_some_iff.1 hhead
        exact .inl ⟨true, dropLines_opens cs, by decide⟩
      · have houtside : c = '/' → cs.head? ≠ some '/' := fun hc hhead => hopens ⟨hc, hhead⟩
        exact .inr ⟨dropLines_outside houtside, houtside⟩

/-- What comes first after the second pass came first before, or is a line end. -/
theorem head?_dropLines {inLine : Bool} {cs : List Char} {d : Char} (hd : d ≠ '\n')
    (h : (dropLinesOnto [] inLine cs).head? = some d) : inLine = false ∧ cs.head? = some d := by
  have hinside : ∀ cs, (dropLinesOnto [] true cs).head? ≠ some d := by
    intro cs
    induction cs with
    | nil => nofun
    | cons c cs ih =>
        rw [dropLines_inside]
        split
        · rename_i hc
          rw [beq_iff_eq.1 hc]
          exact fun hsome => hd (Option.some.inj hsome).symm
        · exact ih
  cases inLine with
  | true => exact absurd h (hinside cs)
  | false =>
      refine ⟨rfl, ?_⟩
      cases cs with
      | nil => cases h
      | cons c cs =>
          by_cases hopens : c = '/' → cs.head? ≠ some '/'
          · rw [dropLines_outside hopens] at h
            exact h
          · obtain ⟨rfl, hhead⟩ : c = '/' ∧ cs.head? = some '/' := by simpa using hopens
            obtain ⟨cs, rfl⟩ := List.head?_eq_some_iff.1 hhead
            rw [dropLines_opens] at h
            exact absurd h (hinside _)

/-- Two characters side by side after the second pass stood so before, if the second one ends no
line. -/
theorem infix_of_dropLines {x y : Char} (hy : y ≠ '\n') {inLine : Bool} {cs : List Char}
    (h : [x, y] <:+: dropLinesOnto [] inLine cs) : [x, y] <:+: cs := by
  induction cs generalizing inLine with
  | nil => simp [dropLinesOnto] at h
  | cons c cs ih =>
      rcases dropLines_cons inLine c cs with ⟨inLine', hskip, -⟩ | ⟨hkeep, -⟩
      · rw [hskip] at h
        exact (ih h).trans (List.suffix_cons c cs).isInfix
      · rw [hkeep, List.infix_cons_iff] at h
        rcases h with ⟨rest, heq⟩ | h
        · obtain ⟨rfl, hrest⟩ := List.cons.inj heq
          have hhead := (head?_dropLines hy (by rw [← hrest]; rfl)).2
          obtain ⟨cs, rfl⟩ := List.head?_eq_some_iff.1 hhead
          exact ⟨[], cs, rfl⟩
        · exact (ih h).trans (List.suffix_cons c cs).isInfix

theorem not_hasSlashes_dropLines (inLine : Bool) (cs : List Char) :
    ¬ HasSlashes (dropLinesOnto [] inLine cs) := by
  induction cs generalizing inLine with
  | nil => simp [HasSlashes, dropLinesOnto]
  | cons c cs ih =>
      rcases dropLines_cons inLine c cs with ⟨inLine', hskip, -⟩ | ⟨hkeep, hsingle⟩
      · rw [hskip]
        exact ih inLine'
      · rw [hkeep, HasSlashes, List.infix_cons_iff, not_or]
        refine ⟨?_, ih false⟩
        rintro ⟨rest, heq⟩
        obtain ⟨rfl, hrest⟩ := List.cons.inj heq
        have hslash : '/' ≠ '\n' := by decide
        exact hsingle rfl (head?_dropLines hslash (by rw [← hrest]; rfl)).2

/-- The second pass makes no block comment. -/
theorem hasBlock_of_dropLines {inLine : Bool} {cs : List Char}
    (h : HasBlock (dropLinesOnto [] inLine cs)) : HasBlock cs := by
  induction cs generalizing inLine with
  | nil => exact h
  | cons c cs ih =>
      rcases dropLines_cons inLine c cs with ⟨inLine', hskip, -⟩ | ⟨hkeep, -⟩
      · rw [hskip] at h
        exact (hasBlock_cons_iff c cs).2 (.inr (ih h))
      · rw [hkeep] at h
        obtain ⟨before, rest, heq, hcloser⟩ := h
        cases before with
        | nil =>
            obtain ⟨rfl, hrest⟩ := List.cons.inj heq
            have hstar : '*' ≠ '\n' := by decide
            have hhead := (head?_dropLines hstar (by rw [hrest]; rfl)).2
            obtain ⟨cs, rfl⟩ := List.head?_eq_some_iff.1 hhead
            rw [dropLines_outside (by simp)] at hrest
            obtain rfl := (List.cons.inj hrest).2
            exact ⟨[], cs, rfl, infix_of_dropLines (by decide) hcloser⟩
        | cons d before =>
            have hbehind : HasBlock cs := ih ⟨before, rest, (List.cons.inj heq).2, hcloser⟩
            exact (hasBlock_cons_iff c cs).2 (.inr hbehind)

/-- Where no two slashes stand side by side, the second pass changes nothing. -/
theorem dropLines_of_not_hasSlashes {cs : List Char} (h : ¬ HasSlashes cs) : dropLines cs = cs := by
  induction cs with
  | nil => rfl
  | cons c cs ih =>
      rw [HasSlashes, List.infix_cons_iff, not_or] at h
      have houtside : c = '/' → cs.head? ≠ some '/' := by
        rintro rfl hhead
        obtain ⟨cs, rfl⟩ := List.head?_eq_some_iff.1 hhead
        exact h.1 ⟨cs, rfl⟩
      exact (dropLines_outside houtside).trans (congrArg (c :: ·) (ih h.2))

/-- The second pass takes things out, whatever they stand for, and no line end among them. -/
theorem exists_sublist_dropLines {α : Type} (f : α → Char) (inLine : Bool) (l : List α) :
    ∃ kept : List α, kept.Sublist l ∧ dropLinesOnto [] inLine (l.map f) = kept.map f ∧
      kept.filter (f · == '\n') = l.filter (f · == '\n') := by
  induction l generalizing inLine with
  | nil => exact ⟨[], .slnil, by cases inLine <;> rfl, rfl⟩
  | cons a l ih =>
      rcases dropLines_cons inLine (f a) (l.map f) with ⟨inLine', hskip, hline⟩ | ⟨hkeep, -⟩
      · obtain ⟨kept, hsub, hmap, hends⟩ := ih inLine'
        refine ⟨kept, hsub.cons a, hskip.trans hmap, ?_⟩
        rw [List.filter_cons_of_neg (by simpa using hline), hends]
      · obtain ⟨kept, hsub, hmap, hends⟩ := ih false
        refine ⟨a :: kept, hsub.cons_cons a, ?_, ?_⟩
        · rw [List.map_cons, hkeep, hmap, List.map_cons]
        · rw [List.filter_cons, List.filter_cons, hends]

/-! ## Stretches of a script -/

/-- A stretch of a script, as the first pass finds it: a character that it keeps, or a block comment
with what stands inside. -/
inductive Stretch
  | kept (c : Char)
  | block (inside : List Char)
  deriving DecidableEq

namespace Stretch

/-- The stretch as it stands in the script. -/
def written : Stretch → List Char
  | kept c => [c]
  | block inside => '/' :: '*' :: inside ++ ['*', '/']

/-- What the first pass leaves of it. -/
def left : Stretch → Char
  | kept c => c
  | block _ => ' '

/-- Whether it is a line end outside the block comments. -/
def endsLine (s : Stretch) : Bool := s == kept '\n'

end Stretch

/-- The text in front of the first star that a slash follows. -/
def untilCloser : List Char → List Char
  | [] => []
  | '*' :: '/' :: _ => []
  | c :: cs => c :: untilCloser cs

/-- The stretches of a script. -/
def stretches (cs : List Char) : List Stretch :=
  match cs with
  | [] => []
  | c :: cs =>
    match _h : behindBlock? (c :: cs) with
    | some rest => .block (untilCloser cs.tail) :: stretches rest
    | none => .kept c :: stretches cs
  termination_by cs.length
  decreasing_by
    · exact length_behindBlock_lt _h
    · simp

theorem untilCloser_append {cs rest : List Char} (h : afterCloser? cs = some rest) :
    cs = untilCloser cs ++ '*' :: '/' :: rest := by
  fun_induction afterCloser? cs with
  | case1 => cases h
  | case2 cs =>
      obtain rfl := Option.some.inj h
      rfl
  | case3 c cs hne ih =>
      rw [untilCloser]
      · exact congrArg (c :: ·) (ih h)
      · exact hne

/-- The stretches make up the script. -/
theorem flatMap_written_stretches (cs : List Char) :
    (stretches cs).flatMap Stretch.written = cs := by
  fun_induction stretches cs with
  | case1 => rfl
  | case2 c cs rest hblock ih =>
      unfold behindBlock? at hblock
      split at hblock
      · rename_i behind heq
        obtain ⟨rfl, rfl⟩ := List.cons.inj heq
        have hsplit := untilCloser_append hblock
        rw [List.flatMap_cons, ih, Stretch.written, List.tail_cons]
        conv => rhs; rw [hsplit]
        simp
      · cases hblock
  | case3 c cs hblock ih =>
      rw [List.flatMap_cons, ih]
      rfl

/-- The first pass leaves one character of each stretch. -/
theorem dropBlocks_eq_map (cs : List Char) : dropBlocks cs = (stretches cs).map Stretch.left := by
  fun_induction stretches cs with
  | case1 => exact dropBlocks_nil
  | case2 c cs rest hblock ih =>
      rw [dropBlocks_of_behindBlock hblock, ih]
      rfl
  | case3 c cs hblock ih =>
      rw [dropBlocks_of_no_block hblock, ih]
      rfl

theorem endsLine_eq (s : Stretch) : s.endsLine = (s.left == '\n') := by
  cases s with
  | kept c =>
      rw [Bool.eq_iff_iff, Stretch.endsLine, beq_iff_eq, beq_iff_eq, Stretch.kept.injEq]
      rfl
  | block inside => rfl

/-! ## The text of a script -/

/-- What is left of a script holds no comment, so taking the comments out once more changes nothing.
It is what is left of some of the stretches, in their order; and of the line ends outside the block
comments that the first pass takes out, none is missing. -/
theorem withoutComments_remainder (source : String) :
    ¬ HasSlashes (withoutComments source).toList ∧
    ¬ HasBlock (withoutComments source).toList ∧
    withoutComments (withoutComments source) = withoutComments source ∧
    (stretches source.toList).flatMap Stretch.written = source.toList ∧
    dropBlocks source.toList = (stretches source.toList).map Stretch.left ∧
    ∃ kept : List Stretch, kept.Sublist (stretches source.toList) ∧
      (withoutComments source).toList = kept.map Stretch.left ∧
      kept.filter Stretch.endsLine = (stretches source.toList).filter Stretch.endsLine := by
  have htext : (withoutComments source).toList = dropLines (dropBlocks source.toList) :=
    String.toList_ofList
  have hslashes : ¬ HasSlashes (withoutComments source).toList := by
    rw [htext]
    exact not_hasSlashes_dropLines false _
  have hblock : ¬ HasBlock (withoutComments source).toList := by
    rw [htext]
    exact fun h => not_hasBlock_dropBlocks _ (hasBlock_of_dropLines h)
  refine ⟨hslashes, hblock, ?_, flatMap_written_stretches _, dropBlocks_eq_map _, ?_⟩
  · rw [withoutComments.eq_1 (withoutComments source), dropBlocks_of_not_hasBlock hblock, dropLines_of_not_hasSlashes hslashes,
      String.ofList_toList]
  · obtain ⟨kept, hsub, hmap, hends⟩ :=
      exists_sublist_dropLines Stretch.left false (stretches source.toList)
    refine ⟨kept, hsub, ?_, ?_⟩
    · rw [htext, dropBlocks_eq_map]
      exact hmap
    · rw [funext endsLine_eq]
      exact hends

end FeatureScan.Script
