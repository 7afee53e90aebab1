import FeatureScan.Script.Comments

/-!
# Comments of scripts in one reading

A reader from left to right takes out whichever comment opens first. The two passes do otherwise:
block comments are taken out of the whole text before any line is looked at, so one that begins
inside a comment up to the line end takes what follows that line with it, up to its closer. Where
no block comment goes beyond a line in that way, the passes agree with the reader.

## Main results

* `dropLines_dropBlocks`: the two passes as one reading.
* `reading_of_sealed`: when that reading is the one of a reader from left to right.
* `withoutComments_in_one_reading`: both for the text of a script.
-/

namespace FeatureScan.Script

/-! ## Readings -/

/-- The text behind a closed block comment that stands in front. -/
def behindBlock? : List Char → Option (List Char)
  | '/' :: '*' :: cs => afterCloser? cs
  | _ => none

theorem length_behindBlock_lt {cs rest : List Char} (h : behindBlock? cs = some rest) :
    rest.length < cs.length := by
  unfold behindBlock? at h
  split at h
  · have hlt := length_afterCloser_lt h
    simp only [List.length_cons]
    omega
  · cases h

/-- The text without comments, as a reader from left to right takes them out: two slashes go with
all up to the line end, and a block comment that is closed leaves a space. -/
def uncommented (cs : List Char) : List Char :=
  match cs with
  | [] => []
  | '/' :: '/' :: cs => uncommented (cs.dropWhile (· != '\n'))
  | '/' :: '*' :: cs =>
    match _h : afterCloser? cs with
    | some rest => ' ' :: uncommented rest
    | none => '/' :: uncommented ('*' :: cs)
  | c :: cs => c :: uncommented cs
  termination_by cs.length
  decreasing_by
    · have := (List.dropWhile_suffix (p := (· != '\n')) (l := cs)).length_le
      simp
      omega
    · have := length_afterCloser_lt ‹afterCloser? _ = some _›
      simp
      omega
    · simp
    · simp

/-- What the two passes do, in one reading; `inLine` tells that a comment up to the line end is being
passed. A block comment is taken out there too, and with it any line end in it; and two slashes open
no comment where the second one opens a block comment. -/
def reading (inLine : Bool) (cs : List Char) : List Char :=
  match cs with
  | [] => []
  | c :: cs =>
    match _h : behindBlock? (c :: cs) with
    | some rest => if inLine then reading true rest else ' ' :: reading false rest
    | none =>
      if inLine then
        if c == '\n' then c :: reading false cs else reading true cs
      else if c == '/' && cs.head? == some '/' && (behindBlock? cs).isNone then reading true cs
      else c :: reading false cs
  termination_by cs.length
  decreasing_by
    all_goals first
      | exact length_behindBlock_lt ‹behindBlock? _ = some _›
      | simp

/-! ## The two passes as one reading -/

theorem afterCloser?_tail {c : Char} {cs : List Char} (h : afterCloser? (c :: cs) = none) :
    afterCloser? cs = none := by
  unfold afterCloser? at h
  split at h
  · rename_i heq
    cases heq
  · cases h
  · rename_i heq
    obtain ⟨-, rfl⟩ := List.cons.inj heq
    exact h

/-- What has been passed only stands in front of the outcome. -/
theorem dropBlocksOnto_append (done before cs : List Char) :
    dropBlocksOnto (done ++ before) cs = before.reverse ++ dropBlocksOnto done cs := by
  fun_induction dropBlocksOnto done cs with
  | case1 done => simp [dropBlocksOnto]
  | case2 done cs rest h ih =>
      rw [dropBlocksOnto]
      split <;> simp_all
  | case3 done cs h =>
      rw [dropBlocksOnto]
      split <;> simp_all
  | case4 done c cs h ih =>
      rw [dropBlocksOnto]
      · exact ih
      · exact h

theorem dropBlocksOnto_of_not_closed {cs : List Char} (h : afterCloser? cs = none)
    (done : List Char) : dropBlocksOnto done cs = done.reverse ++ cs := by
  fun_induction dropBlocksOnto done cs with
  | case1 done => exact (List.append_nil _).symm
  | case2 done cs rest hrest ih =>
      rw [afterCloser?_tail (afterCloser?_tail h)] at hrest
      cases hrest
  | case3 done cs hnone => rfl
  | case4 done c cs hne ih =>
      rw [ih (afterCloser?_tail h), List.reverse_cons, List.append_assoc, List.singleton_append]

theorem dropBlocks_of_behindBlock {c : Char} {cs rest : List Char}
    (h : behindBlock? (c :: cs) = some rest) : dropBlocks (c :: cs) = ' ' :: dropBlocks rest := by
  unfold behindBlock? at h
  split at h
  · rename_i cs heq
    obtain ⟨rfl, rfl⟩ := List.cons.inj heq
    rw [dropBlocks, dropBlocksOnto]
    split
    · rename_i hrest
      rw [h] at hrest
      obtain rfl := Option.some.inj hrest
      exact dropBlocksOnto_append [] [' '] rest
    · rename_i hnone
      rw [h] at hnone
      cases hnone
  · cases h

theorem dropBlocks_of_no_block {c : Char} {cs : List Char} (h : behindBlock? (c :: cs) = none) :
    dropBlocks (c :: cs) = c :: dropBlocks cs := by
  unfold behindBlock? at h
  split at h
  · rename_i cs heq
    obtain ⟨rfl, rfl⟩ := List.cons.inj heq
    have hstar : dropBlocks ('*' :: cs) = '*' :: cs := by
      rw [dropBlocks, dropBlocksOnto, dropBlocksOnto_of_not_closed h]
      · rfl
      · rintro _ ⟨⟩
    rw [hstar, dropBlocks, dropBlocksOnto]
    split
    · rename_i hrest
      rw [h] at hrest
      cases hrest
    · rfl
  · rename_i hne
    rw [dropBlocks, dropBlocksOnto]
    · exact dropBlocksOnto_append [] [c] cs
    · rintro cs' rfl rfl
      exact hne cs' rfl

theorem dropLinesOnto_append (done before : List Char) (inLine : Bool) (cs : List Char) :
    dropLinesOnto (done ++ before) inLine cs = before.reverse ++ dropLinesOnto done inLine cs := by
  fun_induction dropLinesOnto done inLine cs with
  | case1 done inLine => simp [dropLinesOnto]
  | case2 done c cs h ih =>
      rw [dropLinesOnto, if_pos h]
      exact ih
  | case3 done c cs h ih =>
      rw [dropLinesOnto, if_neg h]
      exact ih
  | case4 done cs ih =>
      rw [dropLinesOnto]
      exact ih
  | case5 done c cs h ih =>
      rw [dropLinesOnto]
      · exact ih
      · exact h

theorem dropLines_inside (c : Char) (cs : List Char) :
    dropLinesOnto [] true (c :: cs) =
      if c == '\n' then c :: dropLinesOnto [] false cs else dropLinesOnto [] true cs := by
  rw [dropLinesOnto]
  split
  · exact dropLinesOnto_append [] [c] false cs
  · rfl

theorem dropLines_outside {c : Char} {cs : List Char} (h : c = '/' → cs.head? ≠ some '/') :
    dropLinesOnto [] false (c :: cs) = c :: dropLinesOnto [] false cs := by
  rw [dropLinesOnto]
  · exact dropLinesOnto_append [] [c] false cs
  · rintro cs' rfl rfl
    exact h rfl rfl

/-- After the blocks are out, a slash comes first only where it did before and opens no block. -/
theorem head?_dropBlocks {cs : List Char} (h : (dropBlocks cs).head? = some '/') :
    cs.head? = some '/' ∧ behindBlock? cs = none := by
  cases cs with
  | nil => simp [dropBlocks, dropBlocksOnto] at h
  | cons c cs =>
      cases hblock : behindBlock? (c :: cs) with
      | none =>
          rw [dropBlocks_of_no_block hblock] at h
          exact ⟨h, rfl⟩
      | some rest =>
          rw [dropBlocks_of_behindBlock hblock] at h
          cases h

/-- The two passes as one reading. -/
theorem dropLines_dropBlocks (inLine : Bool) (cs : List Char) :
    dropLinesOnto [] inLine (dropBlocks cs) = reading inLine cs := by
  fun_induction reading inLine cs with
  | case1 inLine =>
      rw [dropBlocks, dropBlocksOnto]
      cases inLine <;> rfl
  | case2 c cs rest hblock ih =>
      rw [dropBlocks_of_behindBlock hblock, dropLines_inside]
      exact ih
  | case3 inLine c cs rest hblock hline ih =>
      obtain rfl := eq_false_of_ne_true hline
      have houtside : ' ' = '/' → (dropBlocks rest).head? ≠ some '/' := fun h => by cases h
      rw [dropBlocks_of_behindBlock hblock, dropLines_outside houtside, ih]
  | case4 c cs hblock hend ih =>
      rw [dropBlocks_of_no_block hblock, dropLines_inside, if_pos hend, ih]
  | case5 c cs hblock hend ih =>
      rw [dropBlocks_of_no_block hblock, dropLines_inside, if_neg hend, ih]
  | case6 inLine c cs hblock hline hopens ih =>
      obtain rfl := eq_false_of_ne_true hline
      obtain ⟨⟨rfl, hslash⟩, hfirst⟩ : (c = '/' ∧ cs.head? = some '/') ∧ behindBlock? cs = none := by
        simpa using hopens
      obtain ⟨cs, rfl⟩ := List.head?_eq_some_iff.1 hslash
      rw [dropBlocks_of_no_block hfirst, dropLines_inside] at ih
      rw [dropBlocks_of_no_block hblock, dropBlocks_of_no_block hfirst, dropLinesOnto]
      exact ih
  | case7 inLine c cs hblock hline hcloses ih =>
      obtain rfl := eq_false_of_ne_true hline
      have houtside : c = '/' → (dropBlocks cs).head? ≠ some '/' := by
        rintro rfl hhead
        obtain ⟨hslash, hfirst⟩ := head?_dropBlocks hhead
        exact hcloses (by simp [hslash, hfirst])
      rw [dropBlocks_of_no_block hblock, dropLines_outside houtside, ih]

/-! ## Where the passes agree with a reader -/

/-- Whether what stands between two slashes and the line end, in front of `rest`, holds no block
comment that goes beyond it. -/
def keepsToLine (rest line : List Char) : Bool :=
  match line with
  | [] => true
  | '/' :: '*' :: cs =>
    match _h : afterCloser? cs with
    | some behind => keepsToLine rest behind
    | none => (afterCloser? (cs ++ rest)).isNone
  | _ :: cs => keepsToLine rest cs
  termination_by line.length
  decreasing_by
    · have := length_afterCloser_lt ‹afterCloser? _ = some _›
      simp
      omega
    · simp

/-- Whether, of the comments that a reader from left to right takes out, each one from two slashes to
the line end is left to that line by the block comments: none begins at its second slash or goes
beyond the line. -/
def isSealed (cs : List Char) : Bool :=
  match cs with
  | [] => true
  | '/' :: '/' :: cs =>
    (behindBlock? ('/' :: cs)).isNone &&
      keepsToLine (cs.dropWhile (· != '\n')) (cs.takeWhile (· != '\n')) &&
      isSealed (cs.dropWhile (· != '\n'))
  | '/' :: '*' :: cs =>
    match _h : afterCloser? cs with
    | some rest => isSealed rest
    | none => isSealed ('*' :: cs)
  | _ :: cs => isSealed cs
  termination_by cs.length
  decreasing_by
    · have := (List.dropWhile_suffix (p := (· != '\n')) (l := cs)).length_le
      simp
      omega
    · have := length_afterCloser_lt ‹afterCloser? _ = some _›
      simp
      omega
    · simp
    · simp

theorem afterCloser?_append {cs behind : List Char} (h : afterCloser? cs = some behind)
    (rest : List Char) : afterCloser? (cs ++ rest) = some (behind ++ rest) := by
  fun_induction afterCloser? cs with
  | case1 => cases h
  | case2 cs =>
      obtain rfl := Option.some.inj h
      rfl
  | case3 c cs hne ih =>
      rw [List.cons_append, afterCloser?]
      · exact ih h
      · rintro cs' rfl hcs
        cases cs with
        | nil => cases h
        | cons d cs =>
            obtain rfl := (List.cons.inj hcs).1
            exact hne cs rfl rfl

theorem afterCloser?_suffix {cs behind : List Char} (h : afterCloser? cs = some behind) :
    behind <:+ cs := by
  fun_induction afterCloser? cs with
  | case1 => cases h
  | case2 cs =>
      obtain rfl := Option.some.inj h
      exact ⟨['*', '/'], rfl⟩
  | case3 c cs hne ih => exact (ih h).trans (List.suffix_cons c cs)

theorem behindBlock?_of_not_closed {cs : List Char} (h : afterCloser? cs = none) :
    behindBlock? cs = none := by
  unfold behindBlock?
  split
  · exact afterCloser?_tail (afterCloser?_tail h)
  · rfl

theorem reading_of_behindBlock {c : Char} {cs rest : List Char}
    (h : behindBlock? (c :: cs) = some rest) :
    reading true (c :: cs) = reading true rest ∧
      reading false (c :: cs) = ' ' :: reading false rest := by
  constructor <;>
  · rw [reading]
    split <;> simp_all

theorem reading_inside {c : Char} {cs : List Char} (h : behindBlock? (c :: cs) = none)
    (hc : c ≠ '\n') : reading true (c :: cs) = reading true cs := by
  rw [reading]
  split <;> simp_all

theorem reading_opens {cs : List Char} (h : behindBlock? ('/' :: cs) = none) :
    reading false ('/' :: '/' :: cs) = reading true cs := by
  rw [← reading_inside h (by decide), reading]
  split
  · simp_all [behindBlock?]
  · simp [h]

theorem reading_outside {c : Char} {cs : List Char} (h : behindBlock? (c :: cs) = none)
    (hc : c = '/' → cs.head? ≠ some '/') : reading false (c :: cs) = c :: reading false cs := by
  rw [reading]
  split
  · simp_all
  · rw [if_neg Bool.false_ne_true, if_neg]
    simp only [Bool.and_eq_true, beq_iff_eq]
    rintro ⟨⟨hslash, hhead⟩, -⟩
    exact hc hslash hhead

theorem reading_lineEnd (inLine : Bool) (cs : List Char) :
    reading inLine ('\n' :: cs) = '\n' :: reading false cs := by
  have hnone : behindBlock? ('\n' :: cs) = none := rfl
  rw [reading]
  split
  · simp_all
  · cases inLine <;> rfl

/-- Text that is not closed is passed up to its line end. -/
theorem reading_line_of_not_closed {line rest : List Char} (hend : ∀ c ∈ line, c ≠ '\n')
    (h : afterCloser? (line ++ rest) = none) :
    reading true (line ++ rest) = reading true rest := by
  induction line with
  | nil => rfl
  | cons c line ih =>
      rw [List.cons_append] at h ⊢
      rw [reading_inside (behindBlock?_of_not_closed h) (hend c List.mem_cons_self)]
      exact ih (fun d hd => hend d (List.mem_cons_of_mem _ hd)) (afterCloser?_tail h)

/-- A line to which its comment keeps is passed up to its end. -/
theorem reading_line {rest line : List Char} (hend : ∀ c ∈ line, c ≠ '\n')
    (h : keepsToLine rest line = true) (hrest : rest.head? ≠ some '*') :
    reading true (line ++ rest) = reading true rest := by
  fun_induction keepsToLine rest line with
  | case1 => rfl
  | case2 cs behind hclosed ih =>
      have hblock : behindBlock? ('/' :: '*' :: (cs ++ rest)) = some (behind ++ rest) :=
        afterCloser?_append hclosed rest
      rw [List.cons_append, List.cons_append, (reading_of_behindBlock hblock).1]
      refine ih (fun c hc => hend c ?_) h
      exact List.mem_cons_of_mem _ (List.mem_cons_of_mem _ ((afterCloser?_suffix hclosed).subset hc))
  | case3 cs hclosed =>
      have hnone : afterCloser? (cs ++ rest) = none := Option.isNone_iff_eq_none.1 h
      have hblock : behindBlock? ('/' :: '*' :: (cs ++ rest)) = none := hnone
      rw [List.cons_append, List.cons_append, reading_inside hblock (by decide),
        reading_inside rfl (by decide)]
      refine reading_line_of_not_closed (fun c hc => hend c ?_) hnone
      exact List.mem_cons_of_mem _ (List.mem_cons_of_mem _ hc)
  | case4 c cs hne ih =>
      have hblock : behindBlock? (c :: (cs ++ rest)) = none := by
        unfold behindBlock?
        split
        · rename_i cs' heq
          obtain ⟨rfl, hcs⟩ := List.cons.inj heq
          cases cs with
          | nil => exact absurd (congrArg List.head? hcs) hrest
          | cons d cs =>
              obtain rfl := (List.cons.inj hcs).1
              exact absurd rfl (hne cs rfl)
        · rfl
      rw [List.cons_append, reading_inside hblock (hend c List.mem_cons_self)]
      exact ih (fun d hd => hend d (List.mem_cons_of_mem _ hd)) h

theorem dropWhile_line (cs : List Char) :
    cs.dropWhile (· != '\n') = [] ∨ ∃ ds, cs.dropWhile (· != '\n') = '\n' :: ds := by
  induction cs with
  | nil => exact .inl rfl
  | cons c cs ih =>
      by_cases hc : c = '\n'
      · exact .inr ⟨cs, by simp [hc]⟩
      · simpa [hc] using ih

/-- A comment that keeps to its line leaves the text behind it to be read. -/
theorem reading_behind_line {cs : List Char}
    (h : keepsToLine (cs.dropWhile (· != '\n')) (cs.takeWhile (· != '\n')) = true) :
    reading true cs = reading false (cs.dropWhile (· != '\n')) := by
  have hend : ∀ c ∈ cs.takeWhile (· != '\n'), c ≠ '\n' := fun c hc => by
    simpa using List.all_eq_true.1 List.all_takeWhile c hc
  have hsplit : cs.takeWhile (· != '\n') ++ cs.dropWhile (· != '\n') = cs :=
    List.takeWhile_append_dropWhile
  have hline := fun hrest => reading_line hend h hrest
  rw [hsplit] at hline
  obtain hnil | ⟨ds, hds⟩ := dropWhile_line cs
  · rw [hnil] at hline ⊢
    rw [hline nofun, reading, reading]
  · rw [hds] at hline ⊢
    rw [hline (by simp), reading_lineEnd, reading_lineEnd]

/-- Where every such comment is left to its line, the passes read as a reader from left to right
does. -/
theorem reading_of_sealed {cs : List Char} (h : isSealed cs = true) :
    reading false cs = uncommented cs := by
  fun_induction uncommented cs with
  | case1 => rw [reading]
  | case2 cs ih =>
      rw [isSealed, Bool.and_eq_true, Bool.and_eq_true] at h
      obtain ⟨⟨hsecond, hkeeps⟩, hsealed⟩ := h
      rw [reading_opens (Option.isNone_iff_eq_none.1 hsecond), reading_behind_line hkeeps,
        ih hsealed]
  | case3 cs rest hclosed ih =>
      have hblock : behindBlock? ('/' :: '*' :: cs) = some rest := hclosed
      rw [isSealed] at h
      rw [(reading_of_behindBlock hblock).2]
      split at h <;> simp_all
  | case4 cs hclosed ih =>
      have hblock : behindBlock? ('/' :: '*' :: cs) = none := hclosed
      rw [isSealed] at h
      rw [reading_outside hblock (by simp)]
      split at h <;> simp_all
  | case5 c cs hline hblock ih =>
      rw [isSealed] at h
      · have hnone : behindBlock? (c :: cs) = none := by
          unfold behindBlock?
          split
          · rename_i heq
            obtain ⟨rfl, rfl⟩ := List.cons.inj heq
            exact absurd rfl (hblock _ rfl)
          · rfl
        have houtside : c = '/' → cs.head? ≠ some '/' := by
          rintro rfl hhead
          obtain ⟨cs, rfl⟩ := List.head?_eq_some_iff.1 hhead
          exact hline cs rfl rfl
        rw [reading_outside hnone houtside, ih h]
      · exact hline
      · exact hblock

/-! ## The text of a script -/

/-- Without its comments the text of a script is what the one reading gives; and where every comment
up to a line end is left to its line, it is what a reader from left to right gives. -/
theorem withoutComments_in_one_reading (source : String) :
    withoutComments source = String.ofList (reading false source.toList) ∧
      (isSealed source.toList = true →
        withoutComments source = String.ofList (uncommented source.toList)) := by
  have hreading : withoutComments source = String.ofList (reading false source.toList) := by
    rw [withoutComments, dropLines, dropLines_dropBlocks]
  exact ⟨hreading, fun h => by rw [hreading, reading_of_sealed h]⟩

/-- Comments of both kinds, one inside the other either way, an opener that nothing closes, and a
line whose comment closes the block comment that begins in it. -/
theorem withoutComments_in_one_reading_mixed :
    isSealed "a /* // */ b // c /* d */\ne // /".toList = true ∧
      withoutComments "a /* // */ b // c /* d */\ne // /" = "a   b \ne " := by
  have hsealed : isSealed "a /* // */ b // c /* d */\ne // /".toList = true := by decide +kernel
  refine ⟨hsealed, ((withoutComments_in_one_reading _).2 hsealed).trans ?_⟩
  decide +kernel

/-- A block comment that begins in a comment up to the line end takes the lines behind it along, and
one that begins at the second slash leaves its line to be read. -/
theorem withoutComments_ne_uncommented :
    withoutComments "// /*\nfetch(1)\n/* */" = "" ∧
      String.ofList (uncommented "// /*\nfetch(1)\n/* */".toList) = "\nfetch(1)\n " ∧
      withoutComments "//* a */ b" = "/  b" ∧
      String.ofList (uncommented "//* a */ b".toList) = "" := by
  decide +kernel

end FeatureScan.Script
